import NetSketch.Proofs.Diagram.Edits
import NetSketch.Proofs.Diagram.FreshId

/-!
# Edits keep diagrams well formed

Every edit of a well-formed diagram gives a well-formed one, and no edit brings a second connection
between the same ends.

* `Spec.WellFormed.addNode`: a node with a new id can be added; `Spec.Isolated`: nothing is joined
  to it yet;
* `Spec.WellFormed.addConnection`, `Spec.WellFormed.connectAll`, `Spec.WellFormed.removeConnection`,
  `Spec.WellFormed.removeNode`, `Spec.WellFormed.mapNodes`: edits keep the rules;
* `Spec.nodup_ends_addConnection` and its like: edits keep connections told apart.
-/

namespace NetSketch

namespace Spec

variable {s t : Spec} {a b id : String} {c : Connection} {l : List Connection}
  {e : String × String}

instance : Decidable s.WellFormed :=
  decidable_of_iff (s.ids.Nodup ∧ (∀ n ∈ s.nodes, Text.isAllBlank n.id = false) ∧
      ∀ c ∈ s.connections, c.source ≠ c.target ∧ c.source ∈ s.ids ∧ c.target ∈ s.ids)
    ⟨fun ⟨hn, hb, hc⟩ => ⟨hn, hb, fun c h => (hc c h).1, fun c h => (hc c h).2.1,
        fun c h => (hc c h).2.2⟩,
      fun h => ⟨h.ids_nodup, h.id_not_blank, fun c hc =>
        ⟨h.no_loop c hc, h.source_mem c hc, h.target_mem c hc⟩⟩⟩

/-! ## Nodes -/

/-- No connection touches an id. -/
def Isolated (s : Spec) (id : String) : Prop := ∀ e ∈ s.ends, e.1 ≠ id ∧ e.2 ≠ id

namespace WellFormed

theorem source_ne_target (h : s.WellFormed) {e : String × String} (he : e ∈ s.ends) :
    e.1 ≠ e.2 := by
  obtain ⟨c, hc, rfl⟩ := mem_ends.mp he
  exact h.no_loop c hc

theorem ends_mem_ids (h : s.WellFormed) {e : String × String} (he : e ∈ s.ends) :
    e.1 ∈ s.ids ∧ e.2 ∈ s.ids := by
  obtain ⟨c, hc, rfl⟩ := mem_ends.mp he
  exact ⟨h.source_mem c hc, h.target_mem c hc⟩

theorem isolated (h : s.WellFormed) (hid : id ∉ s.ids) : s.Isolated id := by
  intro e he
  constructor
  · rintro rfl
    exact hid (h.ends_mem_ids he).1
  · rintro rfl
    exact hid (h.ends_mem_ids he).2

theorem withNode (h : s.WellFormed) {n : Node} (hid : n.id ∉ s.ids)
    (hb : Text.isAllBlank n.id = false) : (s.withNode n).WellFormed where
  ids_nodup := by
    rw [ids_withNode, List.nodup_append]
    refine ⟨h.ids_nodup, by simp, ?_⟩
    rintro i hi j hj rfl
    obtain rfl : i = n.id := by simpa using hj
    exact hid hi
  id_not_blank := by
    intro m hm
    rcases List.mem_append.mp hm with hm | hm
    · exact h.id_not_blank m hm
    · rwa [List.mem_singleton.mp hm]
  no_loop := h.no_loop
  source_mem c hc := by
    rw [ids_withNode]
    exact List.mem_append_left _ (h.source_mem c hc)
  target_mem c hc := by
    rw [ids_withNode]
    exact List.mem_append_left _ (h.target_mem c hc)

/-- **A node with a new id can be added.** -/
theorem addNode (h : s.WellFormed) {n : Node} (hid : n.id ∉ s.ids)
    (hb : Text.isAllBlank n.id = false) : s.addNode n = .ok (s.withNode n) :=
  (h.withNode hid hb).check_eq

theorem mapNodes (h : s.WellFormed) {f : Node → Node} (hf : ∀ n, (f n).id = n.id) :
    ({ s with nodes := s.nodes.map f } : Spec).WellFormed := by
  have hids : ({ s with nodes := s.nodes.map f } : Spec).ids = s.ids := by
    simp [ids, Function.comp_def, hf]
  refine ⟨hids ▸ h.ids_nodup, ?_, h.no_loop, fun c hc => hids ▸ h.source_mem c hc,
    fun c hc => hids ▸ h.target_mem c hc⟩
  intro m hm
  obtain ⟨n, hn, rfl⟩ := List.mem_map.mp hm
  rw [hf]
  exact h.id_not_blank n hn

theorem removeNode (h : s.WellFormed) (id : String) : (s.removeNode id).WellFormed where
  ids_nodup := by
    rw [ids_removeNode]
    exact h.ids_nodup.filter _
  id_not_blank n hn := h.id_not_blank n (mem_removeNode_nodes.mp hn).1
  no_loop c hc := h.no_loop c (List.mem_of_mem_filter hc)
  source_mem c hc := by
    obtain ⟨hc, hne⟩ := List.mem_filter.mp hc
    exact mem_ids_removeNode.mpr ⟨h.source_mem c hc, by simp_all⟩
  target_mem c hc := by
    obtain ⟨hc, hne⟩ := List.mem_filter.mp hc
    exact mem_ids_removeNode.mpr ⟨h.target_mem c hc, by simp_all⟩

/-! ## Connections -/

/-- With the nodes kept, what counts are the ends. -/
theorem of_ends (h : s.WellFormed) (hn : t.nodes = s.nodes)
    (he : ∀ e ∈ t.ends, e.1 ≠ e.2 ∧ e.1 ∈ s.ids ∧ e.2 ∈ s.ids) : t.WellFormed where
  ids_nodup := by
    rw [ids_congr hn]
    exact h.ids_nodup
  id_not_blank := by
    rw [hn]
    exact h.id_not_blank
  no_loop c hc := (he _ (ends_mem hc)).1
  source_mem c hc := by
    rw [ids_congr hn]
    exact (he _ (ends_mem hc)).2.1
  target_mem c hc := by
    rw [ids_congr hn]
    exact (he _ (ends_mem hc)).2.2

theorem addConnection (h : s.WellFormed) (hc : c.source ≠ c.target) :
    (s.addConnection c).WellFormed := by
  refine h.of_ends addConnection_nodes fun e he => ?_
  rcases mem_ends_addConnection.mp he with he | ⟨rfl, hd⟩
  · exact ⟨h.source_ne_target he, h.ends_mem_ids he⟩
  · exact ⟨hc, hd⟩

theorem connectAll (h : s.WellFormed) (hl : ∀ c ∈ l, c.source ≠ c.target) :
    (s.connectAll l).WellFormed := by
  refine h.of_ends connectAll_nodes fun e he => ?_
  rcases mem_ends_connectAll.mp he with he | ⟨c, hc, rfl, hd⟩
  · exact ⟨h.source_ne_target he, h.ends_mem_ids he⟩
  · exact ⟨hl c hc, hd⟩

theorem removeConnection (h : s.WellFormed) : (s.removeConnection a b).WellFormed :=
  h.of_ends rfl fun _ he =>
    have he := (mem_ends_removeConnection.mp he).1
    ⟨h.source_ne_target he, h.ends_mem_ids he⟩

end WellFormed

/-! ## Connections told apart -/

theorem count_ends_addConnection (h : s.ends.count e ≤ 1) :
    (s.addConnection c).ends.count e ≤ 1 := by
  unfold Spec.addConnection
  split_ifs with _ hjoined
  · exact h
  · exact h
  · rw [ends, List.map_append, List.count_append, ← ends]
    by_cases he : c.ends = e
    · subst he
      have hnone : c.ends ∉ s.ends := mt hasConnection_iff.mpr hjoined
      simp [List.count_eq_zero.mpr hnone]
    · simpa [he] using h

theorem count_ends_removeConnection (h : s.ends.count e ≤ 1) :
    (s.removeConnection a b).ends.count e ≤ 1 :=
  Nat.le_trans ((List.filter_sublist.map _).count_le e) h

theorem nodup_ends_addConnection (h : s.ends.Nodup) : (s.addConnection c).ends.Nodup := by
  rw [List.nodup_iff_count_le_one] at h ⊢
  exact fun e => count_ends_addConnection (h e)

theorem nodup_ends_connectAll (h : s.ends.Nodup) : (s.connectAll l).ends.Nodup := by
  induction l generalizing s with
  | nil => exact h
  | cons c l ih => exact ih (nodup_ends_addConnection h)

theorem nodup_ends_removeConnection (h : s.ends.Nodup) : (s.removeConnection a b).ends.Nodup :=
  h.sublist (List.filter_sublist.map _)

theorem nodup_ends_removeNode (h : s.ends.Nodup) : (s.removeNode id).ends.Nodup :=
  h.sublist (List.filter_sublist.map _)

end Spec

end NetSketch
