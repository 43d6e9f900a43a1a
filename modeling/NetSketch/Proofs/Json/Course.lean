import Mathlib.Data.List.Forall2

/-!
# Computations that break off

A computation over a list goes on as long as its elements let it, and what it ends with is decided
by the first one that does not.

* `bind_eq_ok`, `bind_eq_error`: two steps one after the other;
* `First`, `FirstAfter`: an element of some sort, and of what sort those in front of it are;
* `Course.mapM_eq_ok`: one result for every element; **`Course.mapM_eq_error`**,
  `Course.allM_eq_error`, `Course.anyM_eq_error`, `Course.filterM_eq_error`: the first element that
  breaks a run over a list off.
-/

namespace NetSketch

variable {ε α β : Type} {e : ε} {l : List α} {x : Except ε α} {f : α → Except ε β} {b : β}

/-! ## Two steps -/

theorem bind_eq_ok : (x >>= f) = .ok b ↔ ∃ a, x = .ok a ∧ f a = .ok b := by
  cases x <;> simp [bind, Except.bind]

theorem bind_eq_error : (x >>= f) = .error e ↔ x = .error e ∨ ∃ a, x = .ok a ∧ f a = .error e := by
  cases x <;> simp [bind, Except.bind]

/-! ## Lists -/

namespace Course

/-- An element of a list is of the sort `q`, and all those in front of it together are of the
sort `P`. -/
def FirstAfter (P : List α → Prop) (q : α → Prop) (l : List α) : Prop :=
  ∃ before a after, l = before ++ a :: after ∧ P before ∧ q a

/-- An element of a list is of the sort `q`, and each one in front of it is of the sort `p`. -/
def First (p q : α → Prop) (l : List α) : Prop := FirstAfter (∀ b ∈ ·, p b) q l

section First

variable {P : List α → Prop} {p p' q q' : α → Prop} {a : α}

theorem firstAfter_nil : ¬ FirstAfter P q [] := by
  rintro ⟨before, a, after, hl, -⟩
  exact List.append_ne_nil_of_right_ne_nil before (List.cons_ne_nil a after) hl.symm

theorem firstAfter_cons : FirstAfter P q (a :: l) ↔
    P [] ∧ q a ∨ FirstAfter (fun before => P (a :: before)) q l := by
  constructor
  · rintro ⟨before, c, after, hl, hbefore, hc⟩
    cases before with
    | nil =>
      obtain ⟨rfl, -⟩ := List.cons.inj hl
      exact .inl ⟨hbefore, hc⟩
    | cons d before =>
      obtain ⟨rfl, rfl⟩ := List.cons.inj hl
      exact .inr ⟨before, c, after, rfl, hbefore, hc⟩
  · rintro (⟨hbefore, ha⟩ | ⟨before, c, after, rfl, hbefore, hc⟩)
    · exact ⟨[], a, l, rfl, hbefore, ha⟩
    · exact ⟨a :: before, c, after, rfl, hbefore, hc⟩

@[simp] theorem first_nil : ¬ First p q [] := firstAfter_nil

@[simp] theorem first_cons : First p q (a :: l) ↔ q a ∨ p a ∧ First p q l := by
  rw [First, firstAfter_cons, First, FirstAfter, FirstAfter]
  simp only [List.forall_mem_cons, List.not_mem_nil, false_implies, implies_true, true_and,
    and_assoc, and_left_comm (b := p a), exists_and_left]

theorem first_congr (hp : ∀ a ∈ l, p a ↔ p' a) (hq : ∀ a ∈ l, q a ↔ q' a) :
    First p q l ↔ First p' q' l := by
  induction l with
  | nil => simp
  | cons a l ih =>
    rw [first_cons, first_cons, hp a List.mem_cons_self, hq a List.mem_cons_self,
      ih (fun b hb => hp b (List.mem_cons_of_mem _ hb)) fun b hb => hq b (List.mem_cons_of_mem _ hb)]

theorem first_const {Q : Prop} : First p (fun _ => Q) l ↔ l ≠ [] ∧ Q := by
  constructor
  · rintro ⟨before, a, after, rfl, -, hQ⟩
    exact ⟨List.append_ne_nil_of_right_ne_nil before (List.cons_ne_nil a after), hQ⟩
  · rintro ⟨hl, hQ⟩
    obtain ⟨a, l, rfl⟩ := List.exists_cons_of_ne_nil hl
    exact first_cons.mpr (.inl hQ)

end First

/-- A run that succeeds has one result for every element, in order. -/
theorem mapM_eq_ok {bs : List β} :
    l.mapM f = .ok bs ↔ List.Forall₂ (fun a b => f a = .ok b) l bs := by
  induction l generalizing bs with
  | nil => simp [pure, Except.pure, eq_comm]
  | cons a l ih =>
    simp only [List.mapM_cons, bind_eq_ok, ih, List.forall₂_cons_left_iff, pure, Except.pure,
      Except.ok.injEq, eq_comm (b := bs), exists_and_left]

/-- **A run breaks off at the first element that gives no result.** -/
theorem mapM_eq_error : l.mapM f = .error e ↔
    First (fun a => ∃ b, f a = .ok b) (f · = .error e) l := by
  induction l with
  | nil => simp [pure, Except.pure]
  | cons a l ih =>
    rw [List.mapM_cons, first_cons, bind_eq_error, ← exists_and_right]
    simp only [bind_eq_error, ih, pure, Except.pure, reduceCtorEq, and_false, exists_false, or_false]

section Tests

variable {f : α → Except ε Bool}

theorem allM_eq_error : l.allM f = .error e ↔ First (f · = .ok true) (f · = .error e) l := by
  induction l with
  | nil => simp [pure, Except.pure]
  | cons a l ih =>
    rw [List.allM_cons, first_cons, bind_eq_error, Bool.exists_bool]
    simp [ih, pure, Except.pure]

theorem anyM_eq_error : l.anyM f = .error e ↔ First (f · = .ok false) (f · = .error e) l := by
  induction l with
  | nil => simp [pure, Except.pure]
  | cons a l ih =>
    rw [List.anyM_cons, first_cons, bind_eq_error, Bool.exists_bool]
    simp [ih, pure, Except.pure]

theorem filterM_eq_error : l.filterM f = .error e ↔
    First (fun a => ∃ b, f a = .ok b) (f · = .error e) l := by
  have haux : ∀ found, l.filterAuxM f found = .error e ↔
      First (fun a => ∃ b, f a = .ok b) (f · = .error e) l := by
    induction l with
    | nil => simp [List.filterAuxM, pure, Except.pure]
    | cons a l ih =>
      intro found
      rw [List.filterAuxM, first_cons, bind_eq_error, ← exists_and_right]
      simp only [ih]
  rw [List.filterM, bind_eq_error, haux]
  simp [pure, Except.pure]

end Tests

end Course

end NetSketch
