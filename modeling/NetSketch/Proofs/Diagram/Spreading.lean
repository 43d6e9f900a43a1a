import Mathlib.Data.List.Perm.Subperm
import Mathlib.Logic.Relation
import NetSketch.Proofs.Diagram.View

/-!
# Ways past no guard

A view is searched in rounds. Fresh in a round are the unseen neighbours of the start, in the first
one, or of what was fresh in the round before and is no guard. Each round but the last one finds a
new node, so as many rounds as there are nodes are enough, and what is seen in the end is all that
is reached without passing a guard.

* `WayPast`: ways on which no guard is passed;
* `View.Explored`: what holds before each round; `View.Explored.next`, `View.Explored.mem_spread`;
* **`View.mem_reached`**, **`View.unguardedPath_iff`**: what the search finds;
* `Spec.Unguarded`, **`Spec.unguardedPath_view`**: the same for a well-formed diagram.
-/

open Relation (ReflTransGen)

namespace NetSketch

variable {joined joined' : String → String → Prop} {guard guard' : String → Prop}
  {start a b id : String}

/-- A way leads from a start to an id and passes no guard in between. The start itself may be a
guard. -/
def WayPast (joined : String → String → Prop) (guard : String → Prop) (start id : String) : Prop :=
  ReflTransGen (fun a b => joined a b ∧ (a = start ∨ ¬ guard a)) start id

theorem WayPast.mono (h : WayPast joined guard start id) (hjoined : ∀ a b, joined a b → joined' a b)
    (hguard : ∀ a, guard' a → guard a) : WayPast joined' guard' start id :=
  ReflTransGen.mono (fun a b hab => ⟨hjoined a b hab.1, hab.2.imp_right (mt (hguard a))⟩) start id h

namespace View

variable {v : View} {guards sources targets : List Component} {frontier seen : List String}

/-! ## Rounds -/

/-- The unseen neighbours of a frontier. -/
def fresh (v : View) (frontier seen : List String) : List String :=
  ((frontier.flatMap v.neighbours).filter (!seen.contains ·)).eraseDups

theorem mem_fresh : id ∈ v.fresh frontier seen ↔
    (∃ a ∈ frontier, id ∈ v.neighbours a) ∧ id ∉ seen := by
  simp [fresh, List.mem_eraseDups]

/-- Neighbours are nodes of the view. -/
def Closed (v : View) : Prop := ∀ a, ∀ b ∈ v.neighbours a, b ∈ v.ids

/-- The ids reached from a start without passing a guard. -/
def Reaches (v : View) (guards : List Component) (start : String) : String → Prop :=
  WayPast (fun a b => b ∈ v.neighbours a) (fun a => v.isOf guards a = true) start

/-- **What holds before each round**: the neighbours of what is seen are seen too, those of guards
and of the frontier aside. -/
structure Explored (v : View) (guards : List Component) (start : String)
    (frontier seen : List String) : Prop where
  nodup : seen.Nodup
  known : ∀ a ∈ seen, a ∈ v.ids
  start_mem : start ∈ seen
  reached : ∀ a ∈ seen, v.Reaches guards start a
  frontier_sub : ∀ a ∈ frontier, a ∈ seen ∧ (a = start ∨ ¬ v.isOf guards a = true)
  closed : ∀ a ∈ seen, (a = start ∨ ¬ v.isOf guards a = true) → a ∉ frontier →
    ∀ b ∈ v.neighbours a, b ∈ seen

namespace Explored

theorem first (hstart : start ∈ v.ids) : v.Explored guards start [start] [start] where
  nodup := List.nodup_singleton start
  known a ha := List.mem_singleton.mp ha ▸ hstart
  start_mem := List.mem_singleton_self start
  reached a ha := by
    obtain rfl := List.mem_singleton.mp ha
    exact .refl
  frontier_sub a ha := ⟨ha, Or.inl (List.mem_singleton.mp ha)⟩
  closed _ ha _ hnot := absurd ha hnot

theorem next (h : v.Explored guards start frontier seen) (hv : v.Closed) :
    v.Explored guards start ((v.fresh frontier seen).filter (!v.isOf guards ·))
      (seen ++ v.fresh frontier seen) where
  nodup := by
    rw [List.nodup_append]
    refine ⟨h.nodup, nodup_eraseDups _, ?_⟩
    rintro a ha b hb rfl
    exact (mem_fresh.mp hb).2 ha
  known a ha := by
    rcases List.mem_append.mp ha with ha | ha
    · exact h.known a ha
    · obtain ⟨⟨b, -, hab⟩, -⟩ := mem_fresh.mp ha
      exact hv b a hab
  start_mem := List.mem_append_left _ h.start_mem
  reached a ha := by
    rcases List.mem_append.mp ha with ha | ha
    · exact h.reached a ha
    · obtain ⟨⟨b, hb, hab⟩, -⟩ := mem_fresh.mp ha
      obtain ⟨hseen, hpass⟩ := h.frontier_sub b hb
      exact (h.reached b hseen).tail ⟨hab, hpass⟩
  frontier_sub a ha := by
    obtain ⟨ha, hguard⟩ := List.mem_filter.mp ha
    exact ⟨List.mem_append_right _ ha, Or.inr (by simpa using hguard)⟩
  closed a ha hpass hnot b hb := by
    by_cases hseen : a ∈ seen
    · by_cases hfrontier : a ∈ frontier
      · by_cases hold : b ∈ seen
        · exact List.mem_append_left _ hold
        · exact List.mem_append_right _ (mem_fresh.mpr ⟨⟨a, hfrontier, hb⟩, hold⟩)
      · exact List.mem_append_left _ (h.closed a hseen hpass hfrontier b hb)
    · -- What is fresh and is no guard is the new frontier.
      have hfresh := (List.mem_append.mp ha).resolve_left hseen
      refine absurd (List.mem_filter.mpr ⟨hfresh, ?_⟩) hnot
      have hne : a ≠ start := fun e => hseen (e ▸ h.start_mem)
      simpa using hpass.resolve_left hne

/-- Where nothing is fresh, all that is reached is seen. -/
theorem mem_iff_of_fresh_eq_nil (h : v.Explored guards start frontier seen)
    (hfresh : v.fresh frontier seen = []) : id ∈ seen ↔ v.Reaches guards start id := by
  refine ⟨h.reached id, fun hid => ?_⟩
  induction hid with
  | refl => exact h.start_mem
  | @tail a b _ hab ih =>
    by_cases hfrontier : a ∈ frontier
    · by_contra hb
      have : b ∈ v.fresh frontier seen := mem_fresh.mpr ⟨⟨a, hfrontier, hab.1⟩, hb⟩
      rw [hfresh] at this
      cases this
    · exact h.closed a ih hab.2 hfrontier b hab.1

/-- **After enough rounds all that is reached is seen**, and nothing else. -/
theorem mem_spread (h : v.Explored guards start frontier seen) (hv : v.Closed) {rounds : Nat}
    (hrounds : v.ids.length < rounds + seen.length) :
    id ∈ v.spread guards rounds frontier seen ↔ v.Reaches guards start id := by
  induction rounds generalizing frontier seen with
  | zero =>
    have := (List.subperm_of_subset h.nodup h.known).length_le
    omega
  | succ rounds ih =>
    rw [spread]
    change id ∈ (if (v.fresh frontier seen).isEmpty then seen else _) ↔ _
    by_cases hfresh : v.fresh frontier seen = []
    · rw [if_pos (List.isEmpty_iff.mpr hfresh)]
      exact h.mem_iff_of_fresh_eq_nil hfresh
    · rw [if_neg (mt List.isEmpty_iff.mp hfresh)]
      refine ih (h.next hv) ?_
      have := List.length_pos_iff.mpr hfresh
      change v.ids.length < rounds + (seen ++ v.fresh frontier seen).length
      rw [List.length_append]
      omega

end Explored

/-! ## What is found -/

theorem mem_reached (hv : v.Closed) (hstart : start ∈ v.ids) :
    id ∈ v.reached guards start ↔ v.Reaches guards start id ∧ id ≠ start := by
  rw [reached, List.mem_filter, bne_iff_ne]
  refine and_congr_left fun _ => (Explored.first hstart).mem_spread hv ?_
  rw [ids, List.length_map, List.length_singleton]
  exact Nat.lt_succ_self _

theorem isOf_iff_mem (hv : v.ids.Nodup) {types : List Component} :
    v.isOf types id = true ↔ ∃ n ∈ v.nodes, n.id = id ∧ n.type ∈ types := by
  rw [isOf]
  cases h : v.node? id with
  | none =>
    refine iff_of_false Bool.false_ne_true ?_
    rintro ⟨n, hn, rfl, -⟩
    simpa using List.find?_eq_none.mp h n hn
  | some m =>
    have hm := List.mem_of_find?_eq_some h
    have hid : m.id = id := by simpa using List.find?_some h
    refine List.contains_iff_mem.trans ⟨fun htype => ⟨m, hm, hid, htype⟩, ?_⟩
    rintro ⟨n, hn, hnid, htype⟩
    rwa [List.inj_on_of_nodup_map hv hm hn (hid.trans hnid.symm)]

theorem unguardedPath_iff (hids : v.ids.Nodup) (hv : v.Closed) :
    v.unguardedPath sources targets guards = true ↔ ∃ a b, v.isOf sources a = true ∧
      v.isOf targets b = true ∧ b ≠ a ∧ v.Reaches guards a b := by
  simp only [unguardedPath, nodesOfTypes, List.any_eq_true, List.mem_filter, List.contains_iff_mem]
  constructor
  · rintro ⟨n, ⟨hn, htype⟩, b, hb, htarget⟩
    obtain ⟨hreach, hne⟩ := (mem_reached hv (List.mem_map_of_mem hn)).mp hb
    exact ⟨n.id, b, (isOf_iff_mem hids).mpr ⟨n, hn, rfl, htype⟩, htarget, hne, hreach⟩
  · rintro ⟨a, b, hsource, htarget, hne, hreach⟩
    obtain ⟨n, hn, rfl, htype⟩ := (isOf_iff_mem hids).mp hsource
    exact ⟨n, ⟨hn, htype⟩, b,
      (mem_reached hv (List.mem_map_of_mem hn)).mpr ⟨hreach, hne⟩, htarget⟩

end View

/-! ## Ways in diagrams -/

namespace Spec

variable {s t : Spec} {sources targets guards : List Component}

/-- A way leads from a node of the first types to another node of the second ones and passes no
guard, whichever way its connections run. -/
def Unguarded (s : Spec) (sources targets guards : List Component) : Prop :=
  ∃ a b, s.IsOf sources a ∧ s.IsOf targets b ∧ b ≠ a ∧ WayPast s.Adjacent (s.IsOf guards) a b

/-- **The unguarded paths that a view shows.** -/
theorem unguardedPath_view (hs : s.WellFormed) :
    (View.ofSpec? (some s)).unguardedPath sources targets guards = true ↔
      s.Unguarded sources targets guards := by
  have hreach : ∀ a b, (View.ofSpec? (some s)).Reaches guards a b ↔
      WayPast s.Adjacent (s.IsOf guards) a b := by
    intro a b
    rw [View.Reaches]
    simp only [mem_neighbours_view hs, isOf_view hs.ids_nodup]
  rw [View.unguardedPath_iff (v := View.ofSpec? (some s)) View.nodup_ids fun _ _ =>
    View.mem_ids_of_mem_neighbours]
  simp only [isOf_view hs.ids_nodup, hreach, Unguarded]

end Spec

end NetSketch
