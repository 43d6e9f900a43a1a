import NetSketch.Change.Addition
import NetSketch.Proofs.Diagram.Rewiring

/-!
# Runs of additions

Components are added one after the other: each becomes a node with a fresh id, to which nothing is
joined yet, and is then wired. Nothing in this can fail, and a run is known by what its single
additions do.

* `Spot.Known`, `Spot.Edge`: spots at nodes of the diagram, and what is connected there;
* **`Spec.place_rewires`**: a node is wired at a known spot;
* `Spec.Added`: runs of additions; **`Spec.addEach_added`**: every addition is such a run.
-/

namespace NetSketch

namespace Spot

/-- The nodes that a spot refers to are there. -/
def Known (s : Spec) : Spot → Prop
  | byTier | first | last => True
  | after ref | before ref => ref ∈ s.ids
  | between a b => a ∈ s.ids ∧ b ∈ s.ids

/-- What may be connected for a node at a spot. -/
def Edge (s : Spec) (n : Node) : Spot → String × String → Prop
  | byTier => s.TierEdge n
  | _ => Spec.Touches n.id

theorem Known.mono {s t : Spec} {spot : Spot} (h : spot.Known s) (hids : s.ids ⊆ t.ids) :
    spot.Known t := by
  cases spot with
  | byTier | first | last => trivial
  | after | before => exact hids h
  | between => exact ⟨hids h.1, hids h.2⟩

theorem known_of {s : Spec} {hint : Option Hint} {ref second : Option Node}
    (href : ∀ n, ref = some n → n ∈ s.nodes) (hsecond : ∀ n, second = some n → n ∈ s.nodes) :
    (Spot.of hint ref second).Known s := by
  unfold Spot.of
  split
  · trivial
  · split
    · trivial
    · trivial
    · trivial
    · exact Spec.id_mem_ids (href _ rfl)
    · exact Spec.id_mem_ids (href _ rfl)
    · exact ⟨Spec.id_mem_ids (href _ rfl), Spec.id_mem_ids (hsecond _ rfl)⟩
    · exact Spec.id_mem_ids (href _ rfl)

theorem of_resolved (hint : Hint) (ref : Node) (second : Option Node) :
    Spot.of (some hint) (some ref) second =
      match hint.placement, second with
      | .start, _ => .first
      | .finish, _ => .last
      | .after, _ => .after ref.id
      | .before, _ => .before ref.id
      | .between, some b => .between ref.id b.id
      | .between, none => .after ref.id := by
  obtain ⟨placement, _, _, _⟩ := hint
  cases placement <;> cases second <;> rfl

end Spot

namespace Spec

variable {s t u v : Spec} {n : Node} {spot : Spot} {w : Wanted} {wanted : List Wanted}
  {inRow : Bool} {steps : List Modification}

/-! ## One component -/

/-- **A new node is wired at a known spot.** -/
theorem place_rewires (hs : s.WellFormed) (hid : n.id ∉ s.ids) (hspot : spot.Known s) :
    Rewires (spot.Edge (s.withNode n) n) (s.withNode n) ((s.withNode n).place n.id spot) := by
  have hiso : (s.withNode n).Isolated n.id := hs.isolated hid
  have hne : ∀ {ref : String}, ref ∈ s.ids → ref ≠ n.id := fun h e => hid (e ▸ h)
  cases spot with
  | byTier =>
    refine connectByTier_rewires ?_ hiso
    simp [node?_withNode, node?_eq_none.mpr hid]
  | first => exact insertAtStart_rewires
  | last => exact insertAtEnd_rewires
  | after => exact insertAfter_rewires hiso (hne hspot)
  | before => exact insertBefore_rewires hiso (hne hspot)
  | between =>
    exact insertBetween_rewires (hne hspot.1) (hne hspot.2) (Or.inr rfl) (Or.inl rfl)

theorem node_id_notMem (s : Spec) (w : Wanted) : (w.node s).id ∉ s.ids := freshId_notMem s _

theorem node_id_not_blank (s : Spec) (w : Wanted) : Text.isAllBlank (w.node s).id = false :=
  freshId_not_blank s _

/-- A diagram with a node for one more component, not wired yet. -/
def withWanted (s : Spec) (w : Wanted) : Spec := s.withNode (w.node s)

theorem WellFormed.withWanted (hs : s.WellFormed) (w : Wanted) : (s.withWanted w).WellFormed :=
  hs.withNode (node_id_notMem s w) (node_id_not_blank s w)

theorem WellFormed.addNode_wanted (hs : s.WellFormed) (w : Wanted) :
    s.addNode (w.node s) = .ok (s.withWanted w) :=
  hs.addNode (node_id_notMem s w) (node_id_not_blank s w)

theorem nodes_eq_cons {new : List Node} (hu : u.nodes = (s.withWanted w).nodes)
    (ht : t.nodes = u.nodes ++ new) : t.nodes = s.nodes ++ w.node s :: new := by
  rw [ht, hu, withWanted, withNode_nodes, List.append_assoc]
  rfl

/-! ## Several components -/

/-- **Runs of additions**, with the steps that are told of them. -/
inductive Added (inRow : Bool) : Spot → Spec → List Wanted → Spec → List Modification → Prop
  | nil {spot : Spot} {s : Spec} : Added inRow spot s [] s []
  | cons {spot : Spot} {s u v : Spec} {w : Wanted} {wanted : List Wanted}
      {steps : List Modification}
      (hu : Rewired (spot.Edge (s.withWanted w) (w.node s)) (s.withWanted w) u)
      (hrest : Added inRow (if inRow then .after (w.node s).id else spot) u wanted v steps) :
      Added inRow spot s (w :: wanted) v
        (.addNode (w.node s).id (w.node s).type (some (w.node s).label) ::
          (s.withWanted w).connectionChanges u ++ steps)

theorem known_next (hspot : spot.Known s)
    (hu : Rewired (spot.Edge (s.withWanted w) (w.node s)) (s.withWanted w) u) :
    (if inRow then Spot.after (w.node s).id else spot).Known u := by
  have hids : u.ids = s.ids ++ [(w.node s).id] := (ids_congr hu.nodes_eq).trans (ids_withNode _)
  split_ifs
  · simp [Spot.Known, hids]
  · exact hspot.mono (by simp [hids])

/-- **Every addition at a known spot is a run.** -/
theorem addEach_added (hs : s.WellFormed) (hspot : spot.Known s) (inRow : Bool)
    (wanted : List Wanted) :
    ∃ t steps, s.addEach inRow spot wanted = .ok (t, steps) ∧
      Added inRow spot s wanted t steps := by
  induction wanted generalizing s spot with
  | nil => exact ⟨s, [], rfl, .nil⟩
  | cons w wanted ih =>
    obtain ⟨u, hu, hrew⟩ := place_rewires hs (node_id_notMem s w) hspot
    obtain ⟨v, steps, hv, hadded⟩ :=
      ih (hrew.wellFormed (hs.withWanted w)) (known_next hspot hrew)
    refine ⟨v, _, ?_, .cons hrew hadded⟩
    rw [addEach]
    dsimp only
    rw [hs.addNode_wanted w]
    change ((s.withWanted w).place (w.node s).id spot >>= _) = _
    rw [show (s.withWanted w).place (w.node s).id spot = .ok u from hu]
    change (addEach inRow _ u wanted >>= _) = _
    rw [hv]
    rfl

theorem Added.of_addEach (hs : s.WellFormed) (hspot : spot.Known s)
    (h : s.addEach inRow spot wanted = .ok (t, steps)) : Added inRow spot s wanted t steps := by
  obtain ⟨t', steps', h', hadded⟩ := addEach_added hs hspot inRow wanted
  rw [h] at h'
  obtain ⟨rfl, rfl⟩ := Prod.mk.inj (Except.ok.inj h')
  exact hadded

theorem Added.exists_nodes_eq (h : Added inRow spot s wanted t steps) :
    ∃ new, t.nodes = s.nodes ++ new ∧ new.map (·.type) = wanted.map (·.type) := by
  induction h with
  | nil => exact ⟨[], by simp⟩
  | @cons spot s u v w wanted steps hu _ ih =>
    obtain ⟨new, hnodes, htypes⟩ := ih
    refine ⟨w.node s :: new, nodes_eq_cons hu.nodes_eq hnodes, ?_⟩
    rw [List.map_cons, List.map_cons, htypes]
    rfl

theorem Added.zones_eq (h : Added inRow spot s wanted t steps) : t.zones = s.zones := by
  induction h with
  | nil => rfl
  | cons hu _ ih => exact ih.trans hu.zones_eq

theorem Added.wellFormed (h : Added inRow spot s wanted t steps) (hs : s.WellFormed) :
    t.WellFormed := by
  induction h with
  | nil => exact hs
  | cons hu _ ih => exact ih (hu.wellFormed (hs.withWanted _))

theorem Added.count_ends (h : Added inRow spot s wanted t steps) {e : String × String}
    (he : s.ends.count e ≤ 1) : t.ends.count e ≤ 1 := by
  induction h with
  | nil => exact he
  | cons hu _ ih => exact ih (hu.count_ends e he)

theorem Added.nodup_ends (h : Added inRow spot s wanted t steps) (hs : s.ends.Nodup) :
    t.ends.Nodup := by
  rw [List.nodup_iff_count_le_one] at hs ⊢
  exact fun e => h.count_ends (hs e)

end Spec

end NetSketch
