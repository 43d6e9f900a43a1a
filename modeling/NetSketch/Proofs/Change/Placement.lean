import NetSketch.Proofs.Change.Addition
import NetSketch.Proofs.Change.Followed
import NetSketch.Proofs.Diagram.Insertion
import NetSketch.Proofs.Prompt.Reference

/-!
# Where a new node is put

A new node is not joined to anything yet, so how it is wired can be read off the diagram to which
it is added. For an addition of a single component this says exactly which connections there are
afterwards.

* `Spec.insertion`: how a node is wired at a spot; **`Spec.place_leaves`**;
  `Spec.sides_of_mem_cut`: what is cut for it;
* `Spec.spotFor`: the spot that a prompt or an intent asks for;
* `Spec.exists_insertion_of_addEach`: an addition, one component at a time;
  **`Spec.addEach_induction`**: what it keeps;
* `AddsOne`: an addition of a single component, and **`AddsOne.mem_ends`**.
-/

namespace NetSketch

namespace Spec

variable {s t : Spec} {n : Node} {spot : Spot} {w : Wanted} {steps : List Modification}

/-! ## Spots -/

/-- How a node is wired at a spot. -/
def insertion (s : Spec) (n : Node) : Spot → Insertion
  | .byTier => s.tierInsertion n
  | .first => s.insertionAtStart n.id
  | .last => s.insertionAtEnd n.id
  | .after ref => s.insertionAfter n ref
  | .before ref => s.insertionBefore ref
  | .between a b => insertionBetween a b

theorem others_withNode : (s.withNode n).others n.id = s.others n.id := by
  simp [others]

theorem otherPath_withNode : (s.withNode n).otherPath n.id = s.otherPath n.id := by
  rw [otherPath, others_withNode, otherPath]

/-- The node itself plays no part in how it is wired. -/
theorem insertion_withNode : (s.withNode n).insertion n spot = s.insertion n spot := by
  cases spot with
  | byTier =>
    simp only [insertion, tierInsertion, anchorFor?, peerOf?, outerOf?, innerOf?, others_withNode,
      otherPath_withNode]
    rfl
  | first =>
    simp only [insertion, insertionAtStart, entries, others_withNode]
    rfl
  | last =>
    simp only [insertion, insertionAtEnd, sink?, others_withNode]
    rfl
  | after | before | between => rfl

theorem place_leaves (hs : (s.withNode n).WellFormed) (hid : n.id ∉ s.ids) (hspot : spot.Known s)
    (hiso : s.Isolated n.id) :
    (s.withNode n).Leaves ((s.insertion n spot).Ends s n.id) ((s.withNode n).place n.id spot) := by
  rw [← insertion_withNode]
  have hmem : n.id ∈ (s.withNode n).ids := by simp [ids_withNode]
  have hn : (s.withNode n).node? n.id = some n := by
    simp [node?_withNode, node?_eq_none.mpr hid]
  have hknown : ∀ {ref : String}, ref ∈ s.ids → ref ∈ (s.withNode n).ids ∧ ref ≠ n.id := by
    intro ref href
    refine ⟨?_, fun e => hid (e ▸ href)⟩
    rw [ids_withNode]
    exact List.mem_append_left _ href
  cases spot with
  | byTier => exact connectByTier_leaves hs hn hiso
  | first => exact insertAtStart_leaves hmem
  | last => exact insertAtEnd_leaves hmem
  | after => exact insertAfter_leaves hs hn hiso (hknown hspot).1 (hknown hspot).2
  | before => exact insertBefore_leaves hs hmem hiso (hknown hspot).1 (hknown hspot).2
  | between =>
    exact insertBetween_leaves hmem (hknown hspot.1).2 (hknown hspot.2).2 (hknown hspot.1).1
      (hknown hspot.2).1

/-- **A connection is cut only for a node between its ends**: along it, or against it where the ends
are joined the other way as well or a place between them is asked for. -/
theorem sides_of_mem_cut {e : String × String} (hcut : e ∈ (s.insertion n spot).cut) :
    (e.1 ∈ (s.insertion n spot).sources ∧ e.2 ∈ (s.insertion n spot).targets) ∨
      (e.2 ∈ (s.insertion n spot).sources ∧ e.1 ∈ (s.insertion n spot).targets ∧
        (s.Joins e.2 e.1 ∨ spot = .between e.2 e.1)) := by
  cases spot with
  | first | last => exact absurd hcut List.not_mem_nil
  | between a b =>
    rcases List.mem_pair.mp hcut with rfl | rfl
    · exact Or.inl ⟨List.mem_singleton_self _, List.mem_singleton_self _⟩
    · exact Or.inr ⟨List.mem_singleton_self _, List.mem_singleton_self _, Or.inr rfl⟩
  | before ref =>
    obtain ⟨he, rfl⟩ := mem_ends_incoming.mp hcut
    exact Or.inl ⟨mem_sources_incoming.mpr he, List.mem_singleton_self _⟩
  | after ref =>
    rw [insertion, insertionAfter] at hcut ⊢
    split_ifs at hcut ⊢
    · exact absurd hcut List.not_mem_nil
    · obtain ⟨he, rfl⟩ := mem_ends_outgoing.mp hcut
      exact Or.inl ⟨List.mem_singleton_self _, mem_targets_outgoing.mpr he⟩
  | byTier =>
    rw [insertion, tierInsertion] at hcut ⊢
    split_ifs at hcut ⊢
    · exact absurd hcut List.not_mem_nil
    · cases hpeer : s.peerOf? n with
      | some peer => simp [hpeer, copied] at hcut
      | none =>
        rw [hpeer] at hcut
        obtain ⟨x, y, hjoin, heq⟩ := eq_of_mem_cut_insertionAlong hcut
        rw [heq] at hcut ⊢
        rcases List.mem_pair.mp hcut with rfl | rfl
        · exact Or.inl ⟨List.mem_singleton_self _, List.mem_singleton_self _⟩
        · exact Or.inr ⟨List.mem_singleton_self _, List.mem_singleton_self _, Or.inl hjoin⟩

/-- The spot that an intent or else a prompt asks for. -/
def spotFor (s : Spec) (prompt : String) (intent : Option Intent) : Spot :=
  .of (hintBy intent prompt) (s.resolveIn (hintBy intent prompt) (·.reference))
    (s.resolveIn (hintBy intent prompt) (·.second))

theorem spotFor_known (prompt : String) (intent : Option Intent) :
    (s.spotFor prompt intent).Known s :=
  Spot.known_of (fun _ => mem_of_resolveIn) fun _ => mem_of_resolveIn

theorem Added.length_nodes {inRow : Bool} {wanted : List Wanted}
    (h : Added inRow spot s wanted t steps) :
    t.nodes.length = s.nodes.length + wanted.length := by
  obtain ⟨new, hnodes, htypes⟩ := h.exists_nodes_eq
  rw [hnodes, List.length_append, Nat.add_left_cancel_iff]
  simpa using congrArg List.length htypes

/-- **The first component is inserted at the spot** and the others after it, behind it if they stand in
a row. -/
theorem exists_insertion_of_addEach {inRow : Bool} {wanted : List Wanted} (hs : s.WellFormed)
    (hspot : spot.Known s) (h : s.addEach inRow spot (w :: wanted) = .ok (t, steps)) :
    ∃ u rest, u.WellFormed ∧ u.nodes = (s.withWanted w).nodes ∧
      (∀ e, e ∈ u.ends ↔ (s.insertion (w.node s) spot).Ends s (w.node s).id e) ∧
      (if inRow then Spot.after (w.node s).id else spot).Known u ∧
      u.addEach inRow (if inRow then .after (w.node s).id else spot) wanted = .ok (t, rest) := by
  rw [addEach] at h
  dsimp only at h
  rw [hs.addNode_wanted w] at h
  change (s.withWanted w).place (w.node s).id spot >>= _ = _ at h
  obtain ⟨u, hu, h⟩ := bind_eq_ok.mp h
  obtain ⟨⟨v, rest⟩, hv, h⟩ := bind_eq_ok.mp h
  obtain rfl : v = t := congrArg Prod.fst (Except.ok.inj h)
  have hid := node_id_notMem s w
  obtain ⟨u', hu', hrew⟩ := place_rewires hs hid hspot
  obtain rfl : u' = u := Except.ok.inj (hu'.symm.trans hu)
  obtain ⟨u'', hu'', -, hends⟩ := place_leaves (hs.withWanted w) hid hspot (hs.isolated hid)
  obtain rfl : u'' = u' := Except.ok.inj (hu''.symm.trans hu')
  exact ⟨u'', rest, hrew.wellFormed (hs.withWanted w), hrew.nodes_eq, hends, known_next hspot hrew,
    hv⟩

/-- **What every insertion of a new node keeps, an addition keeps.** -/
theorem addEach_induction {inRow : Bool} {wanted : List Wanted} {P : Spec → Prop} {Q : Spot → Prop}
    (hs : s.WellFormed) (hspot : spot.Known s) (hQ : Q spot) (hafter : ∀ id, Q (.after id))
    (hstep : ∀ {s u : Spec} {n : Node} {spot : Spot}, s.WellFormed → u.WellFormed → n.id ∉ s.ids →
      Q spot → (∀ e, e ∈ u.ends ↔ (s.insertion n spot).Ends s n.id e) → P s → P u)
    (hP : P s) (h : s.addEach inRow spot wanted = .ok (t, steps)) : P t := by
  induction wanted generalizing s spot steps with
  | nil =>
    obtain rfl : s = t := congrArg Prod.fst (Except.ok.inj h)
    exact hP
  | cons w wanted ih =>
    obtain ⟨u, rest, hu, -, hends, hnext, hrest⟩ := exists_insertion_of_addEach hs hspot h
    refine ih hu hnext ?_ (hstep hs hu (node_id_notMem s w) hQ hends hP) hrest
    split_ifs
    · exact hafter _
    · exact hQ

end Spec

/-! ## Additions of one component -/

/-- A prompt or an intent adds a single component, as the last node. -/
structure AddsOne (prompt : String) (intent : Option Intent) (s : Spec) (x : Node) (t : Spec) :
    Prop where
  followed : ∃ store c, add store prompt (some s) intent = .ok (.done c) ∧ c.spec = some t
  nodes_eq : t.nodes = s.nodes ++ [x]

namespace AddsOne

variable {prompt : String} {intent : Option Intent} {s t : Spec} {x : Node}

theorem exists_insertion (h : AddsOne prompt intent s x t) (hs : s.WellFormed) :
    ∃ w : Wanted, x = w.node s ∧ t.WellFormed ∧
      ∀ e, e ∈ t.ends ↔ (s.insertion x (s.spotFor prompt intent)).Ends s x.id e := by
  obtain ⟨store, c, hc, ht⟩ := h.followed
  obtain ⟨t', ht', wanted, -, hadd⟩ := add_followed c hc
  obtain rfl : t' = t := Option.some.inj (ht'.symm.trans ht)
  have hknown := s.spotFor_known prompt intent
  have hlen := (Spec.Added.of_addEach hs hknown hadd).length_nodes
  rw [h.nodes_eq, List.length_append, Nat.add_left_cancel_iff] at hlen
  obtain ⟨w, rfl⟩ := List.length_eq_one_iff.mp hlen.symm
  obtain ⟨u, rest, hu, hnodes, hends, -, hrest⟩ := Spec.exists_insertion_of_addEach hs hknown hadd
  obtain rfl : u = t' := congrArg Prod.fst (Except.ok.inj hrest)
  obtain rfl : x = w.node s :=
    List.singleton_inj.mp (List.append_cancel_left (h.nodes_eq.symm.trans hnodes))
  exact ⟨w, rfl, hu, hends⟩

theorem notMem_ids (h : AddsOne prompt intent s x t) (hs : s.WellFormed) : x.id ∉ s.ids := by
  obtain ⟨w, rfl, -⟩ := h.exists_insertion hs
  exact Spec.node_id_notMem s w

theorem wellFormed (h : AddsOne prompt intent s x t) (hs : s.WellFormed) : t.WellFormed := by
  obtain ⟨_, -, ht, -⟩ := h.exists_insertion hs
  exact ht

/-- **The ends after a single component is added.** -/
theorem mem_ends (h : AddsOne prompt intent s x t) (hs : s.WellFormed) {e : String × String} :
    e ∈ t.ends ↔ (s.insertion x (s.spotFor prompt intent)).Ends s x.id e := by
  obtain ⟨_, -, -, hends⟩ := h.exists_insertion hs
  exact hends e

end AddsOne

end NetSketch
