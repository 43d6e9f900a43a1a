import Mathlib.Data.List.Induction
import NetSketch.Proofs.Change.Reachability
import NetSketch.Proofs.Diagram.Insertion

/-!
# Nodes put between two others

A node that is put between two others takes the place of the connection from the first to the
second, and has its flow on both sides. Of a connection the other way, which is cut as well, it takes
neither the direction nor the flow.

* `Spec.last?`, `Spec.flowBetween_eq`: the connection whose flow is taken over;
* `Spec.insertBetween_eq`: the connections afterwards;
* `Spec.reaches_of_against`: the ways past a node that was put against a connection;
* **`Spec.insertBetween_either_way`**: the two orders in which the neighbours may be named.
-/

open Relation (ReflTransGen)

namespace NetSketch.Spec

variable {s t : Spec} {a b id : String} {c : Connection} {e : String × String}

/-! ## The connections -/

/-- The last connection from one id to another. -/
def last? (s : Spec) (a b : String) : Option Connection :=
  (s.connections.filter (·.ends = (a, b))).getLast?

theorem last?_eq_none_iff : s.last? a b = none ↔ ¬ s.Joins a b := by
  rw [last?, List.getLast?_eq_none_iff, List.filter_eq_nil_iff, Joins, mem_ends, not_exists]
  exact forall_congr' fun c => by rw [not_and, decide_eq_true_eq]

/-- The flow between two ids is that of the last connection, or else that of a new one. -/
theorem flowBetween_eq (s : Spec) (a b : String) :
    s.flowBetween a b = ((s.last? a b).map (·.flow)).getD defaultFlow := by
  rw [flowBetween, last?]
  -- The fold keeps the flow of the last connection that fits, so connections are added at the back.
  induction s.connections using List.reverseRecOn with
  | nil => rfl
  | append_singleton l c ih =>
    rw [List.foldl_append, List.filter_append, ih]
    by_cases hc : c.source = a ∧ c.target = b
    · simp [Connection.ends, hc.1, hc.2]
    · simp [Connection.ends, hc]

/-- A diagram with the connections between two ids cut, whichever way they run. -/
def cutBetween (s : Spec) (a b : String) : Spec := (s.removeConnection a b).removeConnection b a

theorem mem_ends_cutBetween : e ∈ (s.cutBetween a b).ends ↔ e ∈ s.ends ∧ e ≠ (a, b) ∧ e ≠ (b, a) := by
  rw [cutBetween, mem_ends_removeConnection, mem_ends_removeConnection, and_assoc]

/-- A diagram with one more connection. -/
def withConnection (s : Spec) (c : Connection) : Spec :=
  { s with connections := s.connections ++ [c] }

theorem mem_ends_withConnection : e ∈ (s.withConnection c).ends ↔ e ∈ s.ends ∨ e = c.ends := by
  simp [withConnection, ends]

theorem connect_eq_of_not_joins (ha : a ∈ s.ids) (hb : b ∈ s.ids) (hne : a ≠ b)
    (h : ¬ s.Joins a b) (flow : Option FlowKind) :
    s.connect a b flow = .ok (s.withConnection ⟨a, b, flow, none, none⟩) := by
  rw [connect_eq hne, addConnection, if_neg (by simp [ha, hb]), if_neg (mt hasConnection_iff.mp h)]
  rfl

/-- A diagram with a node put between two ids, with a flow on both sides. -/
def throughNode (s : Spec) (id a b : String) (flow : Option FlowKind) : Spec :=
  ((s.cutBetween a b).withConnection ⟨a, id, flow, none, none⟩).withConnection
    ⟨id, b, flow, none, none⟩

theorem mem_ends_throughNode {flow : Option FlowKind} : e ∈ (s.throughNode id a b flow).ends ↔
    (e ∈ s.ends ∧ e ≠ (a, b) ∧ e ≠ (b, a)) ∨ e = (a, id) ∨ e = (id, b) := by
  rw [throughNode, mem_ends_withConnection, mem_ends_withConnection, mem_ends_cutBetween, or_assoc]
  rfl

theorem throughNode_connections (flow : Option FlowKind) :
    (s.throughNode id a b flow).connections = (s.cutBetween a b).connections ++
      [⟨a, id, flow, none, none⟩, ⟨id, b, flow, none, none⟩] := by
  rw [throughNode, withConnection, withConnection, List.append_assoc]
  rfl

/-- **A node without connections is put between two others.** -/
theorem insertBetween_eq (hid : id ∈ s.ids) (hiso : s.Isolated id) (ha : a ∈ s.ids) (hb : b ∈ s.ids)
    (hane : a ≠ id) (hbne : b ≠ id) :
    s.insertBetween id a b = .ok (s.throughNode id a b (s.flowBetween a b)) := by
  have hcut : ∀ {e}, e ∈ (s.cutBetween a b).ends → e ∈ s.ends := fun he =>
    (mem_ends_cutBetween.mp he).1
  have hfirst := connect_eq_of_not_joins (s := s.cutBetween a b) ha hid hane
    (fun h => (hiso _ (hcut h)).2 rfl) (s.flowBetween a b)
  have hsecond := connect_eq_of_not_joins (s := (s.cutBetween a b).withConnection
    ⟨a, id, s.flowBetween a b, none, none⟩) hid hb hbne.symm (fun h => ?_) (s.flowBetween a b)
  · rw [insertBetween]
    change Spec.connect (s.cutBetween a b) a id _ >>= _ = _
    rw [hfirst]
    exact hsecond
  · rcases mem_ends_withConnection.mp h with h | h
    · exact (hiso _ (hcut h)).1 rfl
    · exact hane (Prod.mk.inj h).1.symm

/-! ## The ways -/

/-- **The ways past a node that was put against a connection.** -/
theorem reaches_of_against {flow : Option FlowKind} (hiso : s.Isolated id) (hba : ¬ s.Joins b a)
    (hane : a ≠ id) (hbne : b ≠ id) :
    (s.throughNode id b a flow).Reaches a id ∧ (s.throughNode id b a flow).Reaches id b ↔
      (s.removeConnection a b).Reaches a b := by
  have hjoins : ∀ {x y}, (s.throughNode id b a flow).Joins x y ↔
      (s.removeConnection a b).Joins x y ∨ (x, y) = (b, id) ∨ (x, y) = (id, a) := by
    intro x y
    rw [Joins, mem_ends_throughNode, Joins, mem_ends_removeConnection]
    refine or_congr_left (and_congr_right fun he => and_iff_right ?_)
    rintro ⟨⟩
    exact hba he
  constructor
  · rintro ⟨hway, -⟩
    -- Only `b` leads to the node and the node leads only back to the start.
    have hold : ∀ {x}, (s.throughNode id b a flow).Reaches a x →
        (x ≠ id → (s.removeConnection a b).Reaches a x) ∧
          (x = id → (s.removeConnection a b).Reaches a b) := by
      intro x hx
      induction hx with
      | refl => exact ⟨fun _ => ReflTransGen.refl, fun h => absurd h hane⟩
      | @tail x y _ hxy ih =>
        rcases hjoins.mp hxy with h | ⟨⟨⟩⟩ | ⟨⟨⟩⟩
        · have hne := hiso _ (mem_ends_removeConnection.mp h).1
          exact ⟨fun _ => (ih.1 hne.1).tail h, fun hy => absurd hy hne.2⟩
        · exact ⟨fun h => absurd rfl h, fun _ => ih.1 hbne⟩
        · exact ⟨fun _ => ReflTransGen.refl, fun h => absurd h hane⟩
    exact (hold hway).2 rfl
  · intro hway
    have hkept : (s.throughNode id b a flow).Reaches a b :=
      ReflTransGen.mono (fun _ _ h => hjoins.mpr (Or.inl h)) a b hway
    have hto : (s.throughNode id b a flow).Joins b id := hjoins.mpr (Or.inr (Or.inl rfl))
    have hback : (s.throughNode id b a flow).Joins id a := hjoins.mpr (Or.inr (Or.inr rfl))
    exact ⟨hkept.tail hto, ReflTransGen.head hback hkept⟩

/-- **A node put between two joined ones, named in either order.** Named along their connection, the
node carries it on, with its flow on both sides. Named against it, the two new connections run the
other way with the flow of a new connection, and the target is reached past the node only if it was
reached without the connection. -/
theorem insertBetween_either_way (hs : s.WellFormed) (hid : id ∈ s.ids) (hiso : s.Isolated id)
    (hab : s.Joins a b) (hba : ¬ s.Joins b a) :
    (∃ c t, s.last? a b = some c ∧ s.insertBetween id a b = .ok t ∧
      t.connections = (s.cutBetween a b).connections ++
        [⟨a, id, c.flow, none, none⟩, ⟨id, b, c.flow, none, none⟩] ∧
      t.Reaches a id ∧ t.Reaches id b) ∧
    ∃ t, s.insertBetween id b a = .ok t ∧
      t.connections = (s.cutBetween b a).connections ++
        [⟨b, id, defaultFlow, none, none⟩, ⟨id, a, defaultFlow, none, none⟩] ∧
      (t.Reaches a id ∧ t.Reaches id b ↔ (s.removeConnection a b).Reaches a b) := by
  obtain ⟨ha, hb⟩ := hs.ends_mem_ids hab
  obtain ⟨hane, hbne⟩ := hiso _ hab
  constructor
  · obtain ⟨c, hc⟩ := Option.ne_none_iff_exists'.mp fun h => last?_eq_none_iff.mp h hab
    have hflow : s.flowBetween a b = c.flow := by
      rw [flowBetween_eq, hc]
      rfl
    refine ⟨c, _, hc, insertBetween_eq hid hiso ha hb hane hbne, ?_, ?_, ?_⟩
    · rw [hflow, throughNode_connections]
    · exact .single (mem_ends_throughNode.mpr (Or.inr (Or.inl rfl)))
    · exact .single (mem_ends_throughNode.mpr (Or.inr (Or.inr rfl)))
  · have hflow : s.flowBetween b a = defaultFlow := by
      rw [flowBetween_eq, last?_eq_none_iff.mpr hba]
      rfl
    refine ⟨_, insertBetween_eq hid hiso hb ha hbne hane, ?_, reaches_of_against hiso hba hane hbne⟩
    rw [hflow, throughNode_connections]

/-- A tunnel from a firewall to a web server, and a detector that is not connected yet. -/
def tunnel : Spec where
  nodes := [⟨"fw-1", .firewall, "", none, none, none⟩, ⟨"web-1", .webServer, "", none, none, none⟩,
    ⟨"ids-1", .idsIps, "", none, none, none⟩]
  connections := [⟨"fw-1", "web-1", some .encrypted, none, none⟩]

theorem insertBetween_either_way_tunnel : tunnel.WellFormed ∧ "ids-1" ∈ tunnel.ids ∧
    tunnel.Isolated "ids-1" ∧ tunnel.Joins "fw-1" "web-1" ∧ ¬ tunnel.Joins "web-1" "fw-1" ∧
    (∃ c t, tunnel.last? "fw-1" "web-1" = some c ∧
      tunnel.insertBetween "ids-1" "fw-1" "web-1" = .ok t ∧
      t.connections = (tunnel.cutBetween "fw-1" "web-1").connections ++
        [⟨"fw-1", "ids-1", c.flow, none, none⟩, ⟨"ids-1", "web-1", c.flow, none, none⟩] ∧
      t.Reaches "fw-1" "ids-1" ∧ t.Reaches "ids-1" "web-1") ∧
    ∃ t, tunnel.insertBetween "ids-1" "web-1" "fw-1" = .ok t ∧
      t.connections = (tunnel.cutBetween "web-1" "fw-1").connections ++
        [⟨"web-1", "ids-1", defaultFlow, none, none⟩,
          ⟨"ids-1", "fw-1", defaultFlow, none, none⟩] ∧
      (t.Reaches "fw-1" "ids-1" ∧ t.Reaches "ids-1" "web-1" ↔
        (tunnel.removeConnection "fw-1" "web-1").Reaches "fw-1" "web-1") := by
  have hs : tunnel.WellFormed := by decide
  have hiso : tunnel.Isolated "ids-1" := by decide
  have hab : tunnel.Joins "fw-1" "web-1" := by decide
  have hba : ¬ tunnel.Joins "web-1" "fw-1" := by decide
  exact ⟨hs, by decide, hiso, hab, hba, insertBetween_either_way hs (by decide) hiso hab hba⟩

/-- Named against the tunnel, the detector turns it round: the firewall leads nowhere any more, and
nothing is encrypted. -/
theorem not_carried_on_tunnel : tunnel.WellFormed ∧ "ids-1" ∈ tunnel.ids ∧
    tunnel.Isolated "ids-1" ∧ tunnel.Joins "fw-1" "web-1" ∧ ¬ tunnel.Joins "web-1" "fw-1" ∧
    ∃ t, tunnel.insertBetween "ids-1" "web-1" "fw-1" = .ok t ∧
      ¬ t.Reaches "fw-1" "web-1" ∧ ∀ c ∈ t.connections, c.flow ≠ some .encrypted := by
  have hnone : ∀ e ∈ (tunnel.throughNode "ids-1" "web-1" "fw-1" defaultFlow).ends,
      e.1 ≠ "fw-1" := by decide
  refine ⟨by decide, by decide, by decide, by decide, by decide, _, rfl, fun h => ?_, by decide⟩
  rcases ReflTransGen.cases_head h with h | ⟨b, h, -⟩
  · exact absurd h (by decide)
  · exact hnone _ h rfl

end NetSketch.Spec
