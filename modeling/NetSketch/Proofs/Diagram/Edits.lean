import Mathlib.Data.List.Nodup
import NetSketch.Diagram.Edit

/-!
# What edits leave

An edit is known by the nodes and by the ends of the connections that it leaves. Proofs about larger
edits use these lemmas and do not open the edits themselves.

* `Spec.Joins`: a connection runs from one id to another; `Spec.withNode`: one more node;
* `Spec.check_eq`, `Spec.WellFormed.check_eq`: when the checker passes a diagram;
* `Spec.mem_ends_addConnection`, `Spec.mem_ends_connectAll`, `Spec.mem_ends_removeConnection`,
  `Spec.mem_ends_removeNode`: the ends after an edit.
-/

namespace NetSketch

theorem nodup_eraseDups {α : Type} [BEq α] [LawfulBEq α] : ∀ l : List α, l.eraseDups.Nodup
  | [] => List.nodup_nil
  | a :: l => by
    rw [List.eraseDups_cons, List.nodup_cons]
    refine ⟨by simp [List.mem_eraseDups], nodup_eraseDups _⟩
termination_by l => l.length
decreasing_by exact Nat.lt_succ_of_le (List.length_filter_le _ _)

@[simp] theorem Connection.ends_fst (c : Connection) : c.ends.1 = c.source := rfl

@[simp] theorem Connection.ends_snd (c : Connection) : c.ends.2 = c.target := rfl

theorem Connection.between_of_ne {a b : String} (h : a ≠ b) (flow : Option FlowKind) :
    Connection.between a b flow = .ok { source := a, target := b, flow } := by
  rw [Connection.between, if_neg h]

namespace Spec

variable {s t : Spec} {a b id : String} {c : Connection} {e : String × String}

/-! ## Nodes and ids -/

theorem mem_ids : id ∈ s.ids ↔ ∃ n ∈ s.nodes, n.id = id := by
  simp [ids]

theorem id_mem_ids {n : Node} (h : n ∈ s.nodes) : n.id ∈ s.ids := mem_ids.mpr ⟨n, h, rfl⟩

theorem ids_congr (h : t.nodes = s.nodes) : t.ids = s.ids := by rw [ids, ids, h]

theorem node?_congr (h : t.nodes = s.nodes) (id : String) : t.node? id = s.node? id := by
  rw [node?, node?, h]

theorem node?_eq_none : s.node? id = none ↔ id ∉ s.ids := by
  simp [node?, mem_ids]

theorem mem_of_node? {n : Node} (h : s.node? id = some n) : n ∈ s.nodes ∧ n.id = id := by
  refine ⟨List.mem_of_find?_eq_some h, ?_⟩
  simpa using List.find?_some h

theorem node_ext_of_nodup {l : List Node} (h : (l.map (·.id)).Nodup) {m n : Node} (hm : m ∈ l)
    (hn : n ∈ l) (e : m.id = n.id) : m = n :=
  List.inj_on_of_nodup_map h hm hn e

theorem node?_eq_some {n : Node} (hs : s.ids.Nodup) :
    s.node? id = some n ↔ n ∈ s.nodes ∧ n.id = id := by
  refine ⟨mem_of_node?, fun ⟨hn, hid⟩ => ?_⟩
  cases h : s.node? id with
  | none => exact absurd (hid ▸ id_mem_ids hn) (node?_eq_none.mp h)
  | some m =>
    obtain ⟨hm, hmid⟩ := mem_of_node? h
    rw [node_ext_of_nodup hs hm hn (hmid.trans hid.symm)]

/-- A diagram with one more node. -/
def withNode (s : Spec) (n : Node) : Spec := { s with nodes := s.nodes ++ [n] }

@[simp] theorem withNode_nodes (n : Node) : (s.withNode n).nodes = s.nodes ++ [n] := rfl

theorem ids_withNode (n : Node) : (s.withNode n).ids = s.ids ++ [n.id] := by
  simp [ids]

theorem node?_withNode (n : Node) (id : String) :
    (s.withNode n).node? id = (s.node? id).or (if n.id = id then some n else none) := by
  by_cases h : n.id = id <;> simp [node?, h]

theorem node?_mapNodes {f : Node → Node} (hf : ∀ n, (f n).id = n.id) (id : String) :
    ({ s with nodes := s.nodes.map f } : Spec).node? id = (s.node? id).map f := by
  rw [node?, List.find?_map, node?]
  simp only [Function.comp_def, hf]

theorem id_changed {change : Node → Node} (h : ∀ n, (change n).id = n.id) (n : Node) :
    (if n.id = id then change n else n).id = n.id := by
  split_ifs
  · exact h n
  · rfl

/-! ## Ends -/

/-- A connection runs from one id to another. -/
def Joins (s : Spec) (a b : String) : Prop := (a, b) ∈ s.ends

instance : Decidable (s.Joins a b) := inferInstanceAs (Decidable ((a, b) ∈ s.ends))

theorem mem_ends : e ∈ s.ends ↔ ∃ c ∈ s.connections, c.ends = e := by
  simp [ends]

theorem ends_mem (h : c ∈ s.connections) : c.ends ∈ s.ends := mem_ends.mpr ⟨c, h, rfl⟩

theorem hasConnection_iff : s.hasConnection a b = true ↔ (a, b) ∈ s.ends := by
  simp only [hasConnection, List.any_eq_true, Bool.and_eq_true, beq_iff_eq, mem_ends,
    Connection.ends, Prod.mk.injEq]

theorem mem_incoming : c ∈ s.incoming id ↔ c ∈ s.connections ∧ c.target = id := by
  simp [incoming]

theorem mem_outgoing : c ∈ s.outgoing id ↔ c ∈ s.connections ∧ c.source = id := by
  simp [outgoing]

/-! ## The checker -/

theorem eq_of_check (h : s.check = .ok t) : t = s := by
  unfold check at h
  split at h
  · cases h
  · exact (Except.ok.inj h).symm

theorem firstRepeated_eq_none {l : List String} : ∀ {seen : List String},
    firstRepeated seen l = none ↔ l.Nodup ∧ ∀ i ∈ l, i ∉ seen := by
  induction l with
  | nil => intro seen; simp [firstRepeated]
  | cons i rest ih =>
    intro seen
    rw [firstRepeated]
    split_ifs with h
    · simp [h]
    · rw [ih]
      simp only [List.nodup_cons, List.mem_cons, not_or, forall_eq_or_imp]
      constructor
      · rintro ⟨hr, hs⟩
        exact ⟨⟨fun hi => (hs i hi).1 rfl, hr⟩, h, fun j hj => (hs j hj).2⟩
      · rintro ⟨⟨hi, hr⟩, _, hs⟩
        exact ⟨hr, fun j hj => ⟨fun e => hi (e ▸ hj), hs j hj⟩⟩

/-- The checker passes a diagram whose ids are told apart and whose connections end at nodes. -/
theorem check_eq (hn : s.ids.Nodup)
    (hc : ∀ c ∈ s.connections, c.source ∈ s.ids ∧ c.target ∈ s.ids) : s.check = .ok s := by
  have h₁ : firstRepeated [] s.ids = none := firstRepeated_eq_none.mpr ⟨hn, by simp⟩
  have h₂ : (s.connections.find? fun c => !(s.ids.contains c.source && s.ids.contains c.target)) =
      none := by
    simpa [List.find?_eq_none] using hc
  rw [check, breach?, h₁, h₂]
  rfl

theorem check_eq_ok : s.check = .ok t ↔
    t = s ∧ s.ids.Nodup ∧ ∀ c ∈ s.connections, c.source ∈ s.ids ∧ c.target ∈ s.ids := by
  constructor
  · intro h
    obtain rfl := eq_of_check h
    have hnone : t.breach? = none := by
      rw [check] at h
      cases hb : t.breach? with
      | none => rfl
      | some b =>
        rw [hb] at h
        cases h
    rw [breach?] at hnone
    split at hnone
    · cases hnone
    · rename_i hrepeated
      rw [Option.map_eq_none_iff, List.find?_eq_none] at hnone
      exact ⟨rfl, (firstRepeated_eq_none.mp hrepeated).1, by simpa using hnone⟩
  · rintro ⟨rfl, hids, hends⟩
    exact check_eq hids hends

theorem WellFormed.check_eq (h : s.WellFormed) : s.check = .ok s :=
  Spec.check_eq h.ids_nodup fun c hc => ⟨h.source_mem c hc, h.target_mem c hc⟩

/-! ## Edits -/

section Edits

variable {l : List Connection}

@[simp] theorem addConnection_nodes : (s.addConnection c).nodes = s.nodes := by
  unfold addConnection
  split_ifs <;> rfl

@[simp] theorem addConnection_zones : (s.addConnection c).zones = s.zones := by
  unfold addConnection
  split_ifs <;> rfl

theorem mem_ends_addConnection :
    e ∈ (s.addConnection c).ends ↔ e ∈ s.ends ∨ e = c.ends ∧ c.source ∈ s.ids ∧ c.target ∈ s.ids := by
  by_cases hd : c.source ∈ s.ids ∧ c.target ∈ s.ids
  · by_cases hj : s.hasConnection c.source c.target = true
    · have : c.ends ∈ s.ends := hasConnection_iff.mp hj
      simp only [addConnection, hd.1, hd.2, hj]
      simp
      rintro rfl
      exact this
    · simp [addConnection, hd.1, hd.2, hj, ends, eq_comm]
  · have : (!(s.ids.contains c.source && s.ids.contains c.target)) = true := by
      simpa [imp_iff_not_or] using hd
    rw [addConnection, if_pos this]
    simp [hd]

theorem addConnection_connections : ∃ new, (s.addConnection c).connections = s.connections ++ new ∧
    ∀ d ∈ new, d = c ∧ d.ends ∉ s.ends := by
  unfold addConnection
  split_ifs with _ hjoined
  · exact ⟨[], by simp⟩
  · exact ⟨[], by simp⟩
  · refine ⟨[c], rfl, fun d hd => ?_⟩
    obtain rfl := List.mem_singleton.mp hd
    exact ⟨rfl, mt hasConnection_iff.mpr hjoined⟩

theorem connect_eq (h : a ≠ b) (flow : Option FlowKind) :
    s.connect a b flow = .ok (s.addConnection { source := a, target := b, flow }) := by
  rw [connect, Connection.between_of_ne h]
  rfl

@[simp] theorem connectAll_nodes : (s.connectAll l).nodes = s.nodes := by
  induction l generalizing s with
  | nil => rfl
  | cons c l ih => exact ih.trans addConnection_nodes

@[simp] theorem connectAll_zones : (s.connectAll l).zones = s.zones := by
  induction l generalizing s with
  | nil => rfl
  | cons c l ih => exact ih.trans addConnection_zones

theorem connectAll_cons : s.connectAll (c :: l) = (s.addConnection c).connectAll l := rfl

theorem mem_ends_connectAll : e ∈ (s.connectAll l).ends ↔
    e ∈ s.ends ∨ ∃ c ∈ l, e = c.ends ∧ c.source ∈ s.ids ∧ c.target ∈ s.ids := by
  induction l generalizing s with
  | nil => simp [connectAll]
  | cons c l ih =>
    rw [connectAll_cons, ih, mem_ends_addConnection, ids_congr addConnection_nodes, or_assoc]
    simp

theorem connectAll_connections : ∃ new, (s.connectAll l).connections = s.connections ++ new ∧
    ∀ d ∈ new, d ∈ l ∧ d.ends ∉ s.ends := by
  induction l generalizing s with
  | nil => exact ⟨[], by simp [connectAll]⟩
  | cons c l ih =>
    obtain ⟨new, heq, hnew⟩ := addConnection_connections (s := s) (c := c)
    obtain ⟨rest, heq', hrest⟩ := ih (s := s.addConnection c)
    refine ⟨new ++ rest, ?_, fun d hd => ?_⟩
    · rw [connectAll_cons, heq', heq, List.append_assoc]
    · rcases List.mem_append.mp hd with hd | hd
      · exact ⟨(hnew d hd).1 ▸ List.mem_cons_self, (hnew d hd).2⟩
      · obtain ⟨hmem, hends⟩ := hrest d hd
        exact ⟨List.mem_cons_of_mem _ hmem, mt (fun h => mem_ends_addConnection.mpr (Or.inl h)) hends⟩

theorem mem_ends_removeConnection :
    e ∈ (s.removeConnection a b).ends ↔ e ∈ s.ends ∧ e ≠ (a, b) := by
  obtain ⟨x, y⟩ := e
  simp only [mem_ends, removeConnection, Connection.ends, List.mem_filter, Prod.mk.injEq]
  constructor
  · rintro ⟨c, ⟨hc, hne⟩, rfl, rfl⟩
    exact ⟨⟨c, hc, rfl, rfl⟩, by simpa [imp_iff_not_or] using hne⟩
  · rintro ⟨⟨c, hc, rfl, rfl⟩, hne⟩
    exact ⟨c, ⟨hc, by simpa [imp_iff_not_or] using hne⟩, rfl, rfl⟩

theorem mem_removeNode_nodes {n : Node} : n ∈ (s.removeNode id).nodes ↔ n ∈ s.nodes ∧ n.id ≠ id := by
  simp [removeNode]

theorem ids_removeNode : (s.removeNode id).ids = s.ids.filter (· != id) := by
  rw [ids, ids, List.filter_map]
  rfl

theorem mem_ids_removeNode : a ∈ (s.removeNode id).ids ↔ a ∈ s.ids ∧ a ≠ id := by
  simp [ids_removeNode]

theorem mem_ends_removeNode : e ∈ (s.removeNode id).ends ↔ e ∈ s.ends ∧ e.1 ≠ id ∧ e.2 ≠ id := by
  simp only [mem_ends, removeNode, List.mem_filter, Bool.and_eq_true, bne_iff_ne]
  constructor
  · rintro ⟨c, ⟨hc, hne⟩, rfl⟩
    exact ⟨⟨c, hc, rfl⟩, hne⟩
  · rintro ⟨⟨c, hc, rfl⟩, hne⟩
    exact ⟨c, ⟨hc, hne⟩, rfl⟩

end Edits

end Spec

end NetSketch
