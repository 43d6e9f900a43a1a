import Mathlib.Data.List.TakeDrop
import Mathlib.Data.List.TakeWhile
import NetSketch.Json.Reader
import NetSketch.Proofs.Text.Occurrence

/-!
# How far words and numbers reach

A word or a number is read to a place further on, over plain characters alone. At a white space, a
comma or a closing bracket it ends, whatever stands behind.

* `Spends`, **`spends_readScalar`**: what is read of a text is plain;
* `isStop`, **`readScalar_stop`**: a stop ends every word and every number.
-/

namespace NetSketch.Json

open Number Text

variable {cs rest : List Char} {v : Json}

/-! ## Plain characters -/

/-- A character that has no part in the balance of braces. -/
def isPlain (c : Char) : Bool := c != '"' && c != '\x7b' && c != '\x7d'

/-- All that is read before the rest is plain characters. -/
def Spends (cs rest : List Char) : Prop := ∃ used, cs = used ++ rest ∧ ∀ c ∈ used, isPlain c = true

namespace Spends

variable {l m r : List Char} {c : Char}

theorem refl (l : List Char) : Spends l l := ⟨[], rfl, by simp⟩

theorem trans (h : Spends l m) (h' : Spends m r) : Spends l r := by
  obtain ⟨used, rfl, hused⟩ := h
  obtain ⟨used', rfl, hused'⟩ := h'
  refine ⟨used ++ used', by simp, fun c hc => ?_⟩
  exact (List.mem_append.mp hc).elim (hused c) (hused' c)

theorem cons (hc : isPlain c = true) (h : Spends l r) : Spends (c :: l) r := by
  obtain ⟨used, rfl, hused⟩ := h
  exact ⟨c :: used, rfl, List.forall_mem_cons.mpr ⟨hc, hused⟩⟩

end Spends

theorem isPlain_of_isDigit {c : Char} (h : c.isDigit = true) : isPlain c = true := by
  by_contra hc
  simp only [isPlain, Bool.and_eq_true, bne_iff_ne, ne_eq, not_and_or, not_not] at hc
  rcases hc with (rfl | rfl) | rfl <;> cases h

theorem digitsOf_eq (cs : List Char) :
    digitsOf cs = (cs.takeWhile Char.isDigit, cs.dropWhile Char.isDigit) :=
  List.span_eq_takeWhile_dropWhile _ cs

theorem spends_digitsOf {ds : List Char} (h : digitsOf cs = (ds, rest)) : Spends cs rest := by
  rw [digitsOf_eq] at h
  obtain ⟨rfl, rfl⟩ := Prod.mk.inj h
  exact ⟨_, (List.takeWhile_append_dropWhile).symm, fun c hc =>
    isPlain_of_isDigit (List.mem_takeWhile_imp hc)⟩

theorem spends_readWhole? {ds : List Char} (h : readWhole? cs = some (ds, rest)) :
    Spends cs rest := by
  unfold readWhole? at h
  split at h
  · cases h
    exact (Spends.refl _).cons (by decide)
  · split at h
    · cases h
    · cases h
      exact spends_digitsOf ‹_›

theorem spends_readPart {ds : List Char} (h : readPart cs = (ds, rest)) : Spends cs rest := by
  unfold readPart at h
  split at h
  · split at h
    · cases h
      exact .refl _
    · cases h
      exact (spends_digitsOf ‹_›).cons (by decide)
  · cases h
    exact .refl _

theorem spends_readSign {negative : Bool} (h : readSign cs = (negative, rest)) :
    Spends cs rest := by
  unfold readSign at h
  split at h <;> cases h
  · exact (Spends.refl _).cons (by decide)
  · exact (Spends.refl _).cons (by decide)
  · exact .refl _

theorem spends_readScale {scale : Option Int} (h : readScale cs = (scale, rest)) :
    Spends cs rest := by
  cases cs with
  | nil =>
    cases h
    exact .refl _
  | cons c cs =>
    rw [readScale] at h
    split_ifs at h with hc
    · have hplain : isPlain c = true := by
        simp only [Bool.or_eq_true, beq_iff_eq] at hc
        rcases hc with rfl | rfl <;> decide
      cases hsign : readSign cs with
      | mk negative behind =>
        rw [hsign] at h
        dsimp only at h
        split at h
        · cases h
          exact .refl _
        · cases h
          exact .cons hplain ((spends_readSign hsign).trans (spends_digitsOf ‹_›))
    · cases h
      exact .refl _

theorem spends_readNumber {negative : Bool} (h : readNumber negative cs = .ok (v, rest)) :
    Spends cs rest := by
  unfold readNumber at h
  split at h
  · cases h
  · rename_i whole behind hwhole
    cases hpart : readPart behind with
    | mk part behind' =>
      cases hscale : readScale behind' with
      | mk scale behind'' =>
        rw [hpart] at h
        dsimp only at h
        rw [hscale] at h
        dsimp only at h
        have hall := (spends_readWhole? hwhole).trans
          ((spends_readPart hpart).trans (spends_readScale hscale))
        split_ifs at h <;> obtain ⟨-, rfl⟩ := Prod.mk.inj (Except.ok.inj h) <;> exact hall

/-- The words that are values. -/
def valueWords : List (String × Json) :=
  [("null", .null), ("true", .bool true), ("false", .bool false), ("NaN", .float .nan),
    ("Infinity", .float (.infinity false)), ("-Infinity", .float (.infinity true))]

/-- The value of a word at the front. -/
def readWord? (cs : List Char) : Option (Json × List Char) :=
  valueWords.findSome? fun (word, v) => (afterWord? word cs).map (v, ·)

/-- A number with its sign. -/
def readSigned : List Char → Except ReadFault (Json × List Char)
  | '-' :: rest => readNumber true rest
  | cs => readNumber false cs

theorem readSigned_cons {c : Char} (hc : c ≠ '-') :
    readSigned (c :: cs) = readNumber false (c :: cs) := by
  unfold readSigned
  split
  · exact absurd (List.cons.inj ‹_›).1 hc
  · rfl

theorem readScalar_eq (cs : List Char) : readScalar cs =
    match readWord? cs with
    | some found => .ok found
    | none => readSigned cs := rfl

theorem spends_readWord? (h : readWord? cs = some (v, rest)) : Spends cs rest := by
  obtain ⟨⟨word, w⟩, hword, h⟩ := List.exists_of_findSome?_eq_some h
  obtain ⟨behind, hbehind, heq⟩ := Option.map_eq_some_iff.mp h
  cases heq
  have hplain : ∀ entry ∈ valueWords, entry.1.toList.all isPlain = true := by decide +kernel
  unfold afterWord? at hbehind
  split_ifs at hbehind with hfront
  obtain ⟨r, rfl⟩ := List.isPrefixOf_iff_prefix.mp hfront
  cases hbehind
  refine ⟨word.toList, ?_, List.all_eq_true.mp (hplain _ hword)⟩
  rw [← String.length_toList, List.drop_left]

theorem spends_readScalar (h : readScalar cs = .ok (v, rest)) : Spends cs rest := by
  rw [readScalar_eq] at h
  split at h
  · cases h
    exact spends_readWord? ‹_›
  · unfold readSigned at h
    split at h
    · exact (spends_readNumber h).cons (by decide)
    · exact spends_readNumber h

/-! ## Stops -/

/-- A character at which every number and every word ends. -/
def isStop (c : Char) : Bool := isSpace c || c == ',' || c == ']' || c == '\x7d'

/-- What has been read, with more behind the rest. -/
def before {α : Type} (tail : List Char) (x : α × List Char) : α × List Char := (x.1, x.2 ++ tail)

theorem readWhole?_cons {d : Char} {l : List Char} (hd : d ≠ '0') : readWhole? (d :: l) =
    match digitsOf (d :: l) with
    | ([], _) => none
    | (ds, rest) => some (ds, rest) := by
  unfold readWhole?
  split
  · exact absurd (List.cons.inj ‹_›).1 hd
  · rfl

theorem readPart_cons {d : Char} {l : List Char} (hd : d ≠ '.') :
    readPart (d :: l) = ([], d :: l) := by
  unfold readPart
  split
  · exact absurd (List.cons.inj ‹_›).1 hd
  · rfl

theorem readSign_cons {d : Char} {l : List Char} (hd : d ≠ '-') (hd' : d ≠ '+') :
    readSign (d :: l) = (false, d :: l) := by
  unfold readSign
  split
  · exact absurd (List.cons.inj ‹_›).1 hd
  · exact absurd (List.cons.inj ‹_›).1 hd'
  · rfl

section Stops

variable {c : Char} (hc : isStop c = true) (l r : List Char)

theorem not_isStop_of_isDigit {d : Char} (h : d.isDigit = true) : isStop d = false := by
  by_contra hd
  simp only [isStop, isSpace, Bool.not_eq_false, Bool.or_eq_true, beq_iff_eq] at hd
  rcases hd with (((((rfl | rfl) | rfl) | rfl) | rfl) | rfl) | rfl <;> cases h

include hc

theorem ne_of_isStop {d : Char} (hd : isStop d = false) : c ≠ d := by
  rintro rfl
  rw [hc] at hd
  cases hd

theorem digitsOf_stop : digitsOf (l ++ c :: r) = before (c :: r) (digitsOf l) := by
  have hdigit : c.isDigit = false := by
    by_contra h
    exact ne_of_isStop hc (not_isStop_of_isDigit (by simpa using h)) rfl
  induction l with
  | nil => simp [digitsOf_eq, before, hdigit]
  | cons d l ih =>
    simp only [digitsOf_eq, before, Prod.mk.injEq] at ih ⊢
    cases hd : d.isDigit with
    | true => simp [hd, ih.1, ih.2]
    | false => simp [hd]

theorem readWhole?_stop : readWhole? (l ++ c :: r) = (readWhole? l).map (before (c :: r)) := by
  have hdigits (l : List Char) : (match digitsOf (l ++ c :: r) with
      | ([], _) => none
      | (ds, rest) => some (ds, rest)) = (match digitsOf l with
      | ([], _) => none
      | (ds, rest) => some (ds, rest)).map (before (c :: r)) := by
    rw [digitsOf_stop hc, before]
    obtain ⟨ds, rest⟩ := digitsOf l
    cases ds <;> rfl
  cases l with
  | nil => exact (readWhole?_cons (ne_of_isStop hc (by decide))).trans (hdigits [])
  | cons d l =>
    by_cases hd : d = '0'
    · subst hd
      rfl
    · rw [readWhole?_cons hd]
      exact (readWhole?_cons hd).trans (hdigits (d :: l))

theorem readPart_stop : readPart (l ++ c :: r) = before (c :: r) (readPart l) := by
  cases l with
  | nil => exact readPart_cons (ne_of_isStop hc (by decide))
  | cons d l =>
    by_cases hd : d = '.'
    · subst hd
      change (match digitsOf (l ++ c :: r) with
        | ([], _) => ([], '.' :: (l ++ c :: r))
        | (ds, rest) => (ds, rest)) = before _ (match digitsOf l with
        | ([], _) => ([], '.' :: l)
        | (ds, rest) => (ds, rest))
      rw [digitsOf_stop hc, before]
      obtain ⟨ds, rest⟩ := digitsOf l
      cases ds <;> rfl
    · rw [readPart_cons hd]
      exact readPart_cons hd

theorem readSign_stop : readSign (l ++ c :: r) = before (c :: r) (readSign l) := by
  cases l with
  | nil => exact readSign_cons (ne_of_isStop hc (by decide)) (ne_of_isStop hc (by decide))
  | cons d l =>
    by_cases hd : d = '-'
    · subst hd; rfl
    · by_cases hd' : d = '+'
      · subst hd'; rfl
      · rw [readSign_cons hd hd']
        exact readSign_cons hd hd'

theorem readScale_stop : readScale (l ++ c :: r) = before (c :: r) (readScale l) := by
  cases l with
  | nil =>
    have he : c ≠ 'e' := ne_of_isStop hc (by decide)
    have hE : c ≠ 'E' := ne_of_isStop hc (by decide)
    simp [readScale, before, he, hE]
  | cons d l =>
    rw [List.cons_append, readScale, readScale, readSign_stop hc, before]
    obtain ⟨negative, behind⟩ := readSign l
    dsimp only
    rw [digitsOf_stop hc, before]
    obtain ⟨ds, rest⟩ := digitsOf behind
    split_ifs
    · cases ds <;> rfl
    · cases ds <;> rfl
    · rfl

theorem readNumber_stop (negative : Bool) :
    readNumber negative (l ++ c :: r) = (readNumber negative l).map (before (c :: r)) := by
  unfold readNumber
  rw [readWhole?_stop hc]
  cases readWhole? l with
  | none => rfl
  | some found =>
    obtain ⟨whole, rest⟩ := found
    simp only [Option.map_some, before, readPart_stop hc, readScale_stop hc]
    split_ifs <;> rfl

omit hc in
theorem afterWord?_stop {word : String} (hword : c ∉ word.toList) :
    afterWord? word (l ++ c :: r) = (afterWord? word l).map (· ++ c :: r) := by
  have hfront : word.toList.isPrefixOf (l ++ c :: r) = word.toList.isPrefixOf l := by
    rw [Bool.eq_iff_iff, List.isPrefixOf_iff_prefix, List.isPrefixOf_iff_prefix,
      prefix_append_cons_iff hword]
  unfold afterWord?
  rw [hfront]
  split_ifs with h
  · have hlength : word.length ≤ l.length := by
      rw [← String.length_toList]
      exact (List.isPrefixOf_iff_prefix.mp h).length_le
    rw [List.drop_append_of_le_length hlength]
    rfl
  · rfl

theorem readWord?_stop : readWord? (l ++ c :: r) = (readWord? l).map (before (c :: r)) := by
  have hwords : ∀ entry ∈ valueWords, entry.1.toList.any isStop = false := by decide +kernel
  have hall : ∀ words : List (String × Json), words ⊆ valueWords →
      (words.findSome? fun (word, v) => (afterWord? word (l ++ c :: r)).map (v, ·)) =
        (words.findSome? fun (word, v) => (afterWord? word l).map (v, ·)).map
          (before (c :: r)) := by
    intro words hsub
    induction words with
    | nil => rfl
    | cons entry words ih =>
      obtain ⟨hentry, hrest⟩ := List.cons_subset.mp hsub
      have hforeign : c ∉ entry.1.toList := fun hmem =>
        List.any_eq_false.mp (hwords entry hentry) c hmem hc
      rw [List.findSome?_cons, List.findSome?_cons, ih hrest]
      dsimp only
      rw [afterWord?_stop l r hforeign]
      cases afterWord? entry.1 l <;> rfl
  exact hall valueWords (List.Subset.refl _)

/-- **A stop ends every scalar**, whatever stands behind it. -/
theorem readScalar_stop :
    readScalar (l ++ c :: r) = (readScalar l).map (before (c :: r)) := by
  rw [readScalar_eq, readScalar_eq, readWord?_stop hc]
  cases readWord? l with
  | some found => rfl
  | none =>
    cases l with
    | nil =>
      rw [List.nil_append, readSigned_cons (ne_of_isStop hc (by decide))]
      exact readNumber_stop hc [] r false
    | cons d l =>
      by_cases hd : d = '-'
      · subst hd
        exact readNumber_stop hc l r true
      · change readSigned (d :: (l ++ c :: r)) = (readSigned (d :: l)).map _
        rw [readSigned_cons hd, readSigned_cons hd]
        exact readNumber_stop hc (d :: l) r false

end Stops

end NetSketch.Json
