import Mathlib.Data.List.Basic
import Mathlib.Tactic.SplitIfs
import NetSketch.Knowledge.Ranking

/-!
# What a ranking keeps

A ranking only moves things, and it follows every transitive relation that the comparison respects,
also where the comparison is no order.

* `ranked_perm`, `mem_ranked`: a ranking loses nothing and adds nothing;
* **`pairwise_ranked`**: what holds between the items of a ranking, the one further in front being
  named first.
-/

namespace NetSketch

variable {α : Type} {before goesOn : α → α → Bool} {x a : α} {l : List α}

/-! ## The items -/

theorem runFrom_append : (runFrom goesOn a l).1 ++ (runFrom goesOn a l).2 = a :: l := by
  induction l generalizing a with
  | nil => rfl
  | cons b rest ih =>
    rw [runFrom]
    split_ifs
    · rw [List.cons_append, ih]
    · rfl

theorem exists_runFrom : ∃ left, (runFrom goesOn a l).1 = a :: left := by
  cases l with
  | nil => exact ⟨_, rfl⟩
  | cons b rest =>
    rw [runFrom]
    split_ifs <;> exact ⟨_, rfl⟩

theorem firstRun_perm : ((firstRun before l).1 ++ (firstRun before l).2).Perm l := by
  match l with
  | [] => exact .refl _
  | [a] => exact .refl _
  | a :: b :: rest =>
    rw [firstRun]
    split_ifs
    · exact ((List.reverse_perm _).append_right _).trans (.of_eq runFrom_append)
    · exact .of_eq runFrom_append

theorem putIn_perm : (putIn before x l).Perm (x :: l) := by
  fun_induction putIn before x l with
  | case1 l h hbefore ih =>
    refine (ih.append_right _).trans (.of_eq ?_)
    rw [List.cons_append, List.take_append_drop]
  | case2 l h hbefore ih =>
    refine (ih.append_left _).trans (List.perm_middle.trans (.of_eq ?_))
    rw [List.take_append_drop]
  | case3 l h =>
    obtain rfl : l = [] := List.eq_nil_of_length_eq_zero (by omega)
    exact .refl _

theorem foldl_putIn_perm {done : List α} :
    (l.foldl (fun done x => putIn before x done) done).Perm (done ++ l) := by
  induction l generalizing done with
  | nil => exact .of_eq (List.append_nil _).symm
  | cons x l ih => exact ih.trans ((putIn_perm.append_right l).trans List.perm_middle.symm)

/-- **A ranking only moves things.** -/
theorem ranked_perm : (ranked before l).Perm l := foldl_putIn_perm.trans firstRun_perm

theorem mem_ranked : a ∈ ranked before l ↔ a ∈ l := ranked_perm.mem_iff

/-! ## Their order -/

section Order

variable {R : α → α → Prop} [IsTrans α R]

theorem pairwise_runFrom (hon : ∀ a b, goesOn a b = true → R a b) :
    (runFrom goesOn a l).1.Pairwise R := by
  refine List.isChain_iff_pairwise.mp ?_
  induction l generalizing a with
  | nil => exact .singleton a
  | cons b rest ih =>
    rw [runFrom]
    split_ifs with hab
    · obtain ⟨left, hleft⟩ := @exists_runFrom _ goesOn b rest
      have hrest := @ih b
      rw [hleft] at hrest ⊢
      exact .cons_cons (hon a b hab) hrest
    · exact .singleton a

variable (hbefore : ∀ a b, before a b = true → R a b) (hbehind : ∀ a b, before a b = false → R b a)

include hbefore hbehind

theorem pairwise_firstRun : (firstRun before l).1.Pairwise R := by
  match l with
  | [] => exact .nil
  | [a] => exact List.pairwise_singleton R a
  | a :: b :: rest =>
    rw [firstRun]
    split_ifs
    · have : IsTrans α fun a b => R b a := ⟨fun _ _ _ hab hbc => Trans.trans hbc hab⟩
      exact List.pairwise_reverse.mpr (pairwise_runFrom fun x y h => hbefore y x h)
    · exact pairwise_runFrom fun x y h => hbehind y x (by simpa using h)

theorem pairwise_putIn (h : l.Pairwise R) : (putIn before x l).Pairwise R := by
  fun_induction putIn before x l with
  | case1 l hmiddle hx ih =>
    -- the new item comes before the middle one, and so before all behind it
    have hl := h
    rw [← List.take_append_drop (l.length / 2) l, List.pairwise_append] at hl
    obtain ⟨hfront, hback, hacross⟩ := hl
    refine List.pairwise_append.mpr ⟨ih hfront, hback, fun a ha b hb => ?_⟩
    rcases List.mem_cons.mp (putIn_perm.mem_iff.mp ha) with rfl | ha
    · rw [List.drop_eq_getElem_cons hmiddle, List.pairwise_cons] at hback
      rw [List.drop_eq_getElem_cons hmiddle, List.mem_cons] at hb
      rcases hb with rfl | hb
      · exact hbefore _ _ hx
      · exact Trans.trans (hbefore _ _ hx) (hback.1 b hb)
    · exact hacross a ha b hb
  | case2 l hmiddle hx ih =>
    have hl := h
    rw [← List.take_append_drop (l.length / 2 + 1) l, List.pairwise_append] at hl
    obtain ⟨hfront, hback, hacross⟩ := hl
    refine List.pairwise_append.mpr ⟨hfront, ih hback, fun a ha b hb => ?_⟩
    rcases List.mem_cons.mp (putIn_perm.mem_iff.mp hb) with rfl | hb
    · have hx := hbehind _ _ (by simpa using hx)
      rw [List.take_succ_eq_append_getElem hmiddle] at hfront ha
      rcases List.mem_append.mp ha with ha | ha
      · have hay := (List.pairwise_append.mp hfront).2.2 a ha _ (List.mem_singleton_self _)
        exact Trans.trans hay hx
      · rw [List.mem_singleton.mp ha]
        exact hx
    · exact hacross a ha b hb
  | case3 l hmiddle => exact List.pairwise_singleton R x

/-- **A ranking follows every transitive relation that the comparison respects.** -/
theorem pairwise_ranked : (ranked before l).Pairwise R := by
  have hall : ∀ {left done : List α}, done.Pairwise R →
      (left.foldl (fun done x => putIn before x done) done).Pairwise R := by
    intro left
    induction left with
    | nil => exact id
    | cons x left ih => exact fun hdone => ih (pairwise_putIn hbefore hbehind hdone)
  exact hall (pairwise_firstRun hbefore hbehind)

end Order

end NetSketch
