import Mathlib.Data.List.Forall2
import NetSketch.Text.Pattern

/-!
# Texts that differ in the case of ASCII letters

Such texts are alike character by character. Whatever treats an ASCII letter like its capital makes
no difference between them: their small letters are the same, and where a piece of a pattern that
ignores case ends in one of them, a piece ends in the other.

* `SameLetter`, `SameButCase`: alike characters and texts; `CaseBlind`: what treats them alike;
* **`lower_eq_of_sameButCase`**, `SameButCase.trim`;
* `Place.Alike`, `Pattern.ends_alike`: places in such texts, and where pieces end;
* **`Pattern.occurs_eq_of_sameButCase`**: the same patterns occur in them.
-/

namespace NetSketch.Text

variable {c d : Char} {cs ds before before' : List Char} {s t : String} {α : Type}

/-! ## Alike characters -/

/-- The same character, or two forms of one ASCII letter. -/
def SameLetter (c d : Char) : Prop := c.toLower = d.toLower

/-- Rows of alike characters. -/
abbrev SameLetters : List Char → List Char → Prop := List.Forall₂ SameLetter

/-- **Texts of one length that differ in the case of ASCII letters only.** -/
def SameButCase (s t : String) : Prop :=
  s.toList.map Char.toLower = t.toList.map Char.toLower

instance (s t : String) : Decidable (SameButCase s t) := inferInstanceAs (Decidable (_ = _))

theorem sameButCase_iff : SameButCase s t ↔ SameLetters s.toList t.toList := by
  rw [SameButCase, ← List.forall₂_eq_eq_eq, List.forall₂_map_left_iff, List.forall₂_map_right_iff]
  rfl

/-- What treats an ASCII letter like its capital. -/
def CaseBlind (f : Char → α) : Prop := ∀ c, f c.toLower = f c

namespace CaseBlind

variable {f : Char → α}

theorem eq (hf : CaseBlind f) (h : SameLetter c d) : f c = f d := by
  rw [← hf c, h, hf]

/-- Only the capitals have another small form. -/
theorem of_capitals
    (h : ∀ k : Fin 26, f (Char.ofNat (65 + k)).toLower = f (Char.ofNat (65 + k))) :
    CaseBlind f := by
  intro c
  by_cases hc : 65 ≤ c.toNat ∧ c.toNat ≤ 90
  · have hk := h ⟨c.toNat - 65, by omega⟩
    rwa [Nat.add_sub_cancel' hc.1, Char.ofNat_toNat] at hk
  · have hc : ¬ (c.val ≥ 'A'.val ∧ c.val ≤ 'Z'.val) := hc
    have hlower : c.toLower = c := dif_neg hc
    rw [hlower]

end CaseBlind

theorem caseBlind_isBlank : CaseBlind isBlank := .of_capitals (by decide)
theorem caseBlind_isWord : CaseBlind isWord := .of_capitals (by decide)
theorem caseBlind_foldLetter : CaseBlind foldLetter := .of_capitals (by decide)
theorem caseBlind_lowerChar : CaseBlind lowerChar := .of_capitals (by decide)
theorem caseBlind_sigma : CaseBlind fun c => decide (c.toNat = 0x3A3) := .of_capitals (by decide)
theorem caseBlind_lineEnd : CaseBlind (· == '\n') := .of_capitals (by decide)
theorem caseBlind_caseds : CaseBlind caseds.has := .of_capitals (by decide +kernel)

theorem caseBlind_caseIgnorables : CaseBlind caseIgnorables.has :=
  .of_capitals (by decide +kernel)

/-! ## Small letters -/

theorem dropWhile_alike {p : Char → Bool} (hp : CaseBlind p) (h : SameLetters cs ds) :
    SameLetters (cs.dropWhile p) (ds.dropWhile p) := by
  induction h with
  | nil => exact .nil
  | @cons c d cs ds hcd h ih =>
    rw [List.dropWhile_cons, List.dropWhile_cons, hp.eq hcd]
    split
    · exact ih
    · exact .cons hcd h

theorem facesCased_eq (h : SameLetters cs ds) : facesCased cs = facesCased ds := by
  have hnext := dropWhile_alike caseBlind_caseIgnorables h
  unfold facesCased
  revert hnext
  generalize cs.dropWhile caseIgnorables.has = cs', ds.dropWhile caseIgnorables.has = ds'
  rintro (_ | hcd)
  · rfl
  · exact caseBlind_caseds.eq hcd

theorem lowerAfter_eq (hbefore : SameLetters before before') (h : SameLetters cs ds) :
    lowerAfter before cs = lowerAfter before' ds := by
  induction h generalizing before before' with
  | nil => rfl
  | @cons c d cs ds hcd h ih =>
    have hsigma : (c.toNat = 0x3A3) = (d.toNat = 0x3A3) := by
      simpa using caseBlind_sigma.eq hcd
    simp only [lowerAfter, ih (.cons hcd hbefore), facesCased_eq hbefore, facesCased_eq h,
      caseBlind_lowerChar.eq hcd, hsigma]

/-- **Texts that differ in case only have the same small letters**, final sigmas included. -/
theorem lower_eq_of_sameButCase (h : SameButCase s t) : lower s = lower t :=
  congrArg String.ofList (lowerAfter_eq .nil (sameButCase_iff.mp h))

theorem SameButCase.trim (h : SameButCase s t) : SameButCase (trim s) (trim t) := by
  rw [sameButCase_iff] at h ⊢
  have hfront := List.rel_reverse (dropWhile_alike caseBlind_isBlank h)
  simpa [Text.trim, trimChars] using
    List.rel_reverse (dropWhile_alike caseBlind_isBlank hfront)

/-! ## Places -/

/-- Places in texts that differ in the case of ASCII letters only. -/
structure Place.Alike (a b : Place) : Prop where
  before : SameLetters a.before b.before
  after : SameLetters a.after b.after
  index : a.index = b.index

namespace Pattern

open Place (Alike)

variable {a b : Place} {others others' : List Place}

theorem skipText_alike (row : List Char) (h : Alike a b) :
    Option.Rel Alike (skipText true row a) (skipText true row b) := by
  induction row generalizing a b with
  | nil => exact .some h
  | cons d row ih =>
    obtain ⟨before, after, index, groups⟩ := a
    obtain ⟨before', after', index', groups'⟩ := b
    obtain ⟨hbefore, hafter, rfl⟩ := h
    cases hafter with
    | nil => exact .none
    | cons hcd hafter =>
      rw [skipText, skipText]
      dsimp only
      rw [seen, seen, if_pos rfl, if_pos rfl, caseBlind_foldLetter.eq hcd]
      split
      · exact ih ⟨.cons hcd hbefore, hafter, rfl⟩
      · exact .none

theorem endsWith_eq (row : List CharSet) (h : SameLetters cs ds) :
    endsWith true row cs = endsWith true row ds := by
  induction row generalizing cs ds with
  | nil => rfl
  | cons set row ih =>
    cases h with
    | nil => rfl
    | cons hcd h =>
      rw [endsWith, endsWith, ih h, seen, seen, if_pos rfl, if_pos rfl,
        caseBlind_foldLetter.eq hcd]

theorem head?_any_isWord_eq (h : SameLetters cs ds) :
    cs.head?.any isWord = ds.head?.any isWord := by
  cases h with
  | nil => rfl
  | cons hcd => exact caseBlind_isWord.eq hcd

theorem atWordEdge_eq (h : Alike a b) : atWordEdge a = atWordEdge b := by
  rw [atWordEdge, atWordEdge, head?_any_isWord_eq h.before, head?_any_isWord_eq h.after]

theorem isEmpty_eq {β γ : Type} {R : β → γ → Prop} {l : List β} {l' : List γ}
    (h : List.Forall₂ R l l') : l.isEmpty = l'.isEmpty := by
  cases h <;> rfl

theorem beq_lineEnd_eq (h : SameLetters cs ds) : (cs == ['\n']) = (ds == ['\n']) := by
  cases h with
  | nil => rfl
  | cons hcd h =>
    change (_ && _) = (_ && _)
    rw [caseBlind_lineEnd.eq hcd]
    cases h <;> rfl

theorem ite_alike {p q : Bool} {x x' y y' : List Place} (hpq : p = q)
    (hx : List.Forall₂ Alike x x') (hy : List.Forall₂ Alike y y') :
    List.Forall₂ Alike (if p then x else y) (if q then x' else y') := by
  rw [hpq]
  split
  · exact hx
  · exact hy

theorem rows_alike {step : Place → List Place}
    (hstep : ∀ a b, Alike a b → List.Forall₂ Alike (step a) (step b)) (longest : Bool) (most : Nat)
    (h : Alike a b) (hothers : List.Forall₂ Alike others others') :
    List.Forall₂ Alike (rows step longest most a others) (rows step longest most b others') := by
  induction most generalizing a b others others' with
  | zero => exact .cons h hothers
  | succ most ih =>
    have further {others others' : List Place} (hothers : List.Forall₂ Alike others others') :
        List.Forall₂ Alike
          ((step a).foldr (fun next others =>
            if a.index < next.index then rows step longest most next others else others) others)
          ((step b).foldr (fun next others =>
            if b.index < next.index then rows step longest most next others else others)
            others') := by
      refine List.rel_foldr ?_ hothers (hstep a b h)
      intro next next' hnext others others' hothers
      dsimp only
      rw [h.index, hnext.index]
      split
      · exact ih hnext hothers
      · exact hothers
    cases longest with
    | true => exact further (.cons h hothers)
    | false => exact .cons h (further hothers)

/-- **A pattern that ignores case ends at alike places.** -/
theorem ends_alike (p : Pattern) (h : Alike a b) :
    List.Forall₂ Alike (ends true p a) (ends true p b) := by
  induction p generalizing a b with
  | chars row =>
    have hskip := skipText_alike row h
    rw [ends, ends]
    revert hskip
    generalize skipText true row a = x, skipText true row b = y
    rintro (hxy | _)
    · exact .cons hxy .nil
    · exact .nil
  | one set =>
    obtain ⟨before, after, index, groups⟩ := a
    obtain ⟨before', after', index', groups'⟩ := b
    obtain ⟨hbefore, hafter, rfl⟩ := h
    cases hafter with
    | nil => exact .nil
    | cons hcd hafter =>
      have hseen := congrArg set.admits (caseBlind_foldLetter.eq hcd)
      exact ite_alike hseen (.cons ⟨.cons hcd hbefore, hafter, rfl⟩ .nil) .nil
  | seq p q ihp ihq => exact List.rel_flatMap (ihp h) fun _ _ hnext => ihq hnext
  | alt p q ihp ihq => exact List.rel_append (ihp h) (ihq h)
  | many p longest ih =>
    rw [ends, ends, h.after.length_eq]
    exact rows_alike (fun _ _ => ih) longest _ h .nil
  | group number p ih =>
    refine List.rel_map (fun next next' hnext => ?_) (ih h)
    exact ⟨hnext.before, hnext.after, hnext.index⟩
  | start => exact ite_alike (isEmpty_eq h.before) (.cons h .nil) .nil
  | finish =>
    refine ite_alike ?_ (.cons h .nil) .nil
    rw [isEmpty_eq h.after, beq_lineEnd_eq h.after]
  | wordEdge => exact ite_alike (atWordEdge_eq h) (.cons h .nil) .nil
  | notAfter row => exact ite_alike (endsWith_eq _ h.before) .nil (.cons h .nil)
  | ahead p ih => exact ite_alike (isEmpty_eq (ih h)) .nil (.cons h .nil)
  | notAhead p ih => exact ite_alike (isEmpty_eq (ih h)) (.cons h .nil) .nil

/-! ## Occurrences -/

theorem isSome_findFrom_eq (p : Pattern) (index : Nat) (hbefore : SameLetters before before')
    (h : SameLetters cs ds) :
    (findFrom (p.run true · some) before index cs).isSome =
      (findFrom (p.run true · some) before' index ds).isSome := by
  have hstep {a b : Place} (hab : Alike a b) :
      (p.run true a some).isSome = (p.run true b some).isSome := by
    have hends := isEmpty_eq (ends_alike p hab)
    rw [run_eq_findSome?_ends, run_eq_findSome?_ends]
    revert hends
    cases ends true p a <;> cases ends true p b <;> simp
  induction h generalizing before before' index with
  | nil =>
    rw [findFrom, findFrom, Option.isSome_map, Option.isSome_map]
    exact hstep ⟨hbefore, .nil, rfl⟩
  | @cons c d cs ds hcd h ih =>
    have hhere := @hstep ⟨before, c :: cs, index, []⟩ ⟨before', d :: ds, index, []⟩
      ⟨hbefore, .cons hcd h, rfl⟩
    rw [findFrom, findFrom]
    revert hhere
    cases p.run true ⟨before, c :: cs, index, []⟩ some with
    | none =>
      cases p.run true ⟨before', d :: ds, index, []⟩ some with
      | none => exact fun _ => ih _ (.cons hcd hbefore)
      | some => exact nofun
    | some =>
      cases p.run true ⟨before', d :: ds, index, []⟩ some with
      | none => exact nofun
      | some => exact fun _ => rfl

/-- **The same patterns occur in such texts**, where case is ignored. -/
theorem occurs_eq_of_sameButCase (p : Pattern) (h : SameButCase s t) :
    p.occurs true s = p.occurs true t :=
  isSome_findFrom_eq p 0 .nil (sameButCase_iff.mp h)

end Pattern

end NetSketch.Text
