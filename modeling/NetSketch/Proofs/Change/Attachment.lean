import NetSketch.Proofs.Change.Between
import NetSketch.Proofs.Diagram.Inward

/-!
# Nodes left without a connection

Wiring by tier finds something to join a node to wherever there is another node, save one case: a
path node whose place is that of every other path node, and whose type no connected one has. What
was joined before stays joined, unless the node goes into the very connection between its two
neighbours on the path.

* `Insertion.Idle`: nothing is joined to the node; `Spec.tierInsertion_idle`: where that is so;
* `Spec.Attaches`: what becomes of the old connections; `Spec.connectByTier_attaches`;
* **`Spec.connectByTier_isolated_iff`**.
-/

namespace NetSketch

/-- Nothing is joined to the node. -/
def Insertion.Idle (w : Insertion) : Prop := w.sources = [] ∧ w.targets = []

namespace Spec

variable {s t : Spec} {x : Node} {id : String} {outer inner : Option Node}

/-! ## Nothing joined -/

theorem isolated_iff_idle {w : Insertion} (hiso : s.Isolated id)
    (hends : ∀ e, e ∈ t.ends ↔ w.Ends s id e) : t.Isolated id ↔ w.Idle := by
  constructor
  · intro h
    refine ⟨List.eq_nil_iff_forall_not_mem.mpr fun a ha => ?_,
      List.eq_nil_iff_forall_not_mem.mpr fun b hb => ?_⟩
    · exact (h (a, id) ((hends _).mpr (.inr (.inl ⟨ha, rfl⟩)))).2 rfl
    · exact (h (id, b) ((hends _).mpr (.inr (.inr ⟨rfl, hb⟩)))).1 rfl
  · rintro ⟨hsources, htargets⟩ e he
    rcases (hends e).mp he with ⟨he, -⟩ | ⟨he, -⟩ | ⟨-, he⟩
    · exact hiso e he
    · rw [hsources] at he
      exact absurd he List.not_mem_nil
    · rw [htargets] at he
      exact absurd he List.not_mem_nil

theorem copied_idle {peer : String} : (s.copied peer).Idle ↔ s.Isolated peer := by
  rw [isolated_iff, Insertion.Idle, copied, List.map_eq_nil_iff, List.map_eq_nil_iff]

theorem insertionAlong_idle : (s.insertionAlong outer inner).Idle ↔ outer = none ∧ inner = none := by
  cases outer with
  | none => cases inner <;> simp [insertionAlong, Insertion.Idle]
  | some a =>
    cases inner with
    | none => simp [insertionAlong, Insertion.Idle]
    | some b =>
      rw [insertionAlong]
      split_ifs <;> simp [insertionBetween, Insertion.Idle]

/-- **A path node has no neighbours on the path exactly if all other path nodes stand at its
place.** -/
theorem no_neighbours_iff : s.outerOf? x = none ∧ s.innerOf? x = none ↔
    ∀ m ∈ s.otherPath x.id, m.pathKey = x.pathKey := by
  simp only [outerOf?, innerOf?, innermost?_eq_none, outermost?_eq_none, List.filter_eq_nil_iff,
    Bool.not_eq_true]
  constructor
  · rintro ⟨houter, hinner⟩ m hm
    exact PathKey.eq_of_not_before (houter m hm) (hinner m hm)
  · intro h
    exact ⟨fun m hm => h m hm ▸ PathKey.before_irrefl, fun m hm => h m hm ▸ PathKey.before_irrefl⟩

theorem anchorFor?_ne_none (hothers : s.others x.id ≠ []) : s.anchorFor? x ≠ none := by
  rw [anchorFor?, Ne, sideAnchor?_eq_none]
  split_ifs with hpath
  · exact hothers
  · exact mt List.isEmpty_iff.mpr hpath

theorem peerOf?_eq_none : s.peerOf? x = none ↔
    ∀ m ∈ s.otherPath x.id, m.type = x.type → s.Isolated m.id := by
  simp [peerOf?]

/-- **Where wiring by tier joins nothing to a node.** -/
theorem tierInsertion_idle (hothers : s.others x.id ≠ []) : (s.tierInsertion x).Idle ↔
    x.isSide = false ∧ (∀ m ∈ s.otherPath x.id, m.pathKey = x.pathKey) ∧
      ∀ m ∈ s.otherPath x.id, m.type = x.type → s.Isolated m.id := by
  rw [← no_neighbours_iff, ← peerOf?_eq_none, tierInsertion]
  cases hside : x.isSide with
  | true =>
    obtain ⟨a, ha⟩ := Option.ne_none_iff_exists'.mp (anchorFor?_ne_none hothers)
    simp [Insertion.Idle, ha]
  | false =>
    rw [if_neg Bool.false_ne_true]
    cases hpeer : s.peerOf? x with
    | some peer =>
      have hconnected : ¬ s.Isolated peer.id := by
        have := List.find?_some hpeer
        simp only [Bool.and_eq_true, Bool.not_eq_true', decide_eq_false_iff_not] at this
        exact this.2
      exact iff_of_false (mt copied_idle.mp hconnected) (by simp)
    | none => simpa using insertionAlong_idle

/-! ## The old connections -/

/-- Either the old connections all stay, or the node goes between two nodes that are joined. -/
def Attaches (s : Spec) (id : String) (outer inner : Option Node) (r : Except Breach Spec) : Prop :=
  s.Appends r ∨ ∃ a b, outer = some a ∧ inner = some b ∧ s.Joins a.id b.id ∧
    r = .ok (s.throughNode id a.id b.id (s.flowBetween a.id b.id))

theorem copyNeighbours_appends (hiso : s.Isolated id) (peer : String) :
    s.Appends (s.copyNeighbours peer id) := by
  refine connectEach_appends fun x hx => ?_
  rcases List.mem_append.mp hx with hx | hx
  · obtain ⟨c, hc, rfl⟩ := List.mem_map.mp hx
    exact (hiso _ (ends_mem (mem_incoming.mp hc).1)).1
  · obtain ⟨c, hc, rfl⟩ := List.mem_map.mp hx
    exact (hiso _ (ends_mem (mem_outgoing.mp hc).1)).2.symm

theorem along_attaches (hid : id ∈ s.ids) (hiso : s.Isolated id) :
    (∀ m, outer = some m → m ∈ s.nodes ∧ m.id ≠ id) →
    (∀ m, inner = some m → m ∈ s.nodes ∧ m.id ≠ id) →
      s.Attaches id outer inner
        (match outer, inner with
          | some a, some b =>
            if s.hasConnection a.id b.id then s.insertBetween id a.id b.id
            else do
              let t ← s.connect a.id id defaultFlow
              if (t.incoming b.id).isEmpty then t.connect id b.id defaultFlow else return t
          | some a, none => s.connect a.id id defaultFlow
          | none, some b => s.connect id b.id defaultFlow
          | none, none => .ok s) := by
  intro houter hinner
  rcases outer with - | a <;> rcases inner with - | b
  · exact .inl .refl
  · exact .inl (connect_appends (hinner b rfl).2.symm _)
  · exact .inl (connect_appends (houter a rfl).2 _)
  · obtain ⟨ha, hane⟩ := houter a rfl
    obtain ⟨hb, hbne⟩ := hinner b rfl
    dsimp only
    split_ifs with hjoin
    · exact .inr ⟨a, b, rfl, rfl, hasConnection_iff.mp hjoin,
        insertBetween_eq hid hiso (id_mem_ids ha) (id_mem_ids hb) hane hbne⟩
    · refine .inl ((connect_appends hane _).bind fun t => ?_)
      split_ifs
      · exact connect_appends hbne.symm _
      · exact .refl

/-- **Wiring by tier cuts only what runs between the neighbours of the node on the path.** -/
theorem connectByTier_attaches (hn : s.node? x.id = some x) (hiso : s.Isolated x.id) :
    s.Attaches x.id (s.outerOf? x) (s.innerOf? x) (s.connectByTier x.id) := by
  rw [connectByTier, hn]
  dsimp only
  split_ifs with hempty hside hnone
  · exact .inl .refl
  · split
    · exact .inl .refl
    · rename_i a ha
      exact .inl (connect_appends (mem_others.mp (mem_of_sideAnchor? ha)).2 _)
  · split
    · exact .inl .refl
    · rename_i a ha
      exact .inl (connect_appends (mem_otherPath.mp (mem_of_sideAnchor? ha)).2.1 _)
  · have hcopy : ∀ p ∈ (s.otherPath x.id).filter (·.type == x.type),
        s.Appends (s.copyNeighbours p.id x.id) := fun p _ => copyNeighbours_appends hiso p.id
    obtain ⟨o, ho, hcopied⟩ := copyFirst?_of hcopy
    change s.Attaches x.id _ _
      (s.copyFirst? x.id ((s.otherPath x.id).filter (·.type == x.type)) >>= _)
    rw [ho]
    cases o with
    | some t => exact .inl ⟨t, rfl, hcopied t rfl⟩
    | none =>
      refine along_attaches (id_mem_ids (mem_of_node? hn).1) hiso (fun m hm => ?_) fun m hm => ?_
      · obtain ⟨hm, hne, -⟩ := mem_otherPath.mp (mem_otherPath_of_outerOf? hm).1
        exact ⟨hm, hne⟩
      · obtain ⟨hm, hne, -⟩ := mem_otherPath.mp (mem_otherPath_of_innerOf? hm).1
        exact ⟨hm, hne⟩

/-- **A node wired by tier is left without a connection exactly if it is a path node, all other path
nodes stand at its place, and none of its type has a connection.** What was joined before stays
joined, save where the node goes between its two neighbours on the path: then it takes the place of
what joined them. -/
theorem connectByTier_isolated_iff (hs : s.WellFormed) (hx : x ∈ s.nodes) (hiso : s.Isolated x.id)
    (htwo : 2 ≤ s.nodes.length) : ∃ t, s.connectByTier x.id = .ok t ∧
      (t.Isolated x.id ↔ x.isSide = false ∧
        (∀ m ∈ s.nodes, m ≠ x → m.isSide = false → m.pathKey = x.pathKey) ∧
        ∀ m ∈ s.nodes, m ≠ x → m.isSide = false → m.type = x.type → s.Isolated m.id) ∧
      ((∃ new, t.connections = s.connections ++ new) ∨
        ∃ a b, s.outerOf? x = some a ∧ s.innerOf? x = some b ∧ s.Joins a.id b.id ∧
          t.connections = (s.cutBetween a.id b.id).connections ++
            [⟨a.id, x.id, s.flowBetween a.id b.id, none, none⟩,
              ⟨x.id, b.id, s.flowBetween a.id b.id, none, none⟩]) := by
  have hn : s.node? x.id = some x := by
    obtain ⟨m, hm⟩ := Option.ne_none_iff_exists'.mp fun h => node?_eq_none.mp h (id_mem_ids hx)
    obtain ⟨hmem, hid⟩ := mem_of_node? hm
    rwa [node_ext_of_nodup hs.ids_nodup hmem hx hid] at hm
  have hne : ∀ m ∈ s.nodes, m.id ≠ x.id ↔ m ≠ x := fun m hm =>
    ⟨fun h heq => h (heq ▸ rfl), fun h hid => h (node_ext_of_nodup hs.ids_nodup hm hx hid)⟩
  have hothers : s.others x.id ≠ [] := by
    intro hnil
    have hall : ∀ m ∈ s.nodes, m = x := fun m hm => by
      by_contra h
      have hmem := mem_others.mpr ⟨hm, (hne m hm).mpr h⟩
      rw [hnil] at hmem
      exact List.not_mem_nil hmem
    have hnodup := hs.ids_nodup.of_map
    rw [List.eq_replicate_of_mem hall, List.nodup_replicate] at hnodup
    omega
  have hpath : ∀ {P : Node → Prop}, (∀ m ∈ s.otherPath x.id, P m) ↔
      ∀ m ∈ s.nodes, m ≠ x → m.isSide = false → P m := by
    intro P
    refine forall_congr' fun m => ?_
    rw [mem_otherPath, and_imp, and_imp]
    exact forall_congr' fun hm => by rw [hne m hm]
  obtain ⟨t, ht, -, hends⟩ := connectByTier_leaves hs hn hiso
  refine ⟨t, ht, ?_, ?_⟩
  · rw [isolated_iff_idle hiso hends, tierInsertion_idle hothers, hpath, hpath]
  · rcases connectByTier_attaches hn hiso with ⟨t', ht', hnew⟩ | ⟨a, b, ha, hb, hjoin, ht'⟩
    · obtain rfl := Except.ok.inj (ht'.symm.trans ht)
      exact .inl hnew
    · obtain rfl := Except.ok.inj (ht'.symm.trans ht)
      exact .inr ⟨a, b, ha, hb, hjoin, throughNode_connections _⟩

/-- A network in one cloud, backed up, and one in another cloud that is not connected yet. -/
def clouds : Spec where
  nodes := [⟨"aws-1", .awsVpc, "", none, none, none⟩, ⟨"backup-1", .backup, "", none, none, none⟩,
    ⟨"azure-1", .azureVnet, "", none, none, none⟩]
  connections := [⟨"aws-1", "backup-1", none, none, none⟩]

/-- Both clouds stand at one place, and so the second one is left alone. -/
theorem connectByTier_isolated_iff_clouds :
    clouds.WellFormed ∧ ⟨"azure-1", .azureVnet, "", none, none, none⟩ ∈ clouds.nodes ∧
      clouds.Isolated "azure-1" ∧ 2 ≤ clouds.nodes.length ∧
      ∃ t, clouds.connectByTier "azure-1" = .ok t ∧ t.Isolated "azure-1" := by
  have hs : clouds.WellFormed := by decide
  have hx : ⟨"azure-1", .azureVnet, "", none, none, none⟩ ∈ clouds.nodes := by decide
  have hiso : clouds.Isolated "azure-1" := by decide
  obtain ⟨t, ht, hleft, -⟩ := connectByTier_isolated_iff hs hx hiso (by decide)
  exact ⟨hs, hx, hiso, by decide, t, ht, hleft.mpr (by decide)⟩

end Spec

end NetSketch
