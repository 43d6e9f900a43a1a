import Mathlib.Algebra.GroupWithZero.Nat
import Mathlib.Data.List.Infix
import NetSketch.Text.Piece

/-!
# Occurrences of a text

At how many places a text occurs in another. A character that the text does not have cuts its
occurrences apart: none reaches over the cut, so that those on the two sides add up.

* `countIn`, `occurrences`, `holds_iff`;
* **`countIn_append_cons`**: the cut at a foreign character;
* `Foreign`, `occurrences_between`, `occurrences_intercalate`: texts put together with foreign ones
  between them.
-/

namespace NetSketch.Text

/-- At how many places the characters `part` occur among others. -/
def countIn (part : List Char) : List Char → Nat
  | [] => if part.isEmpty then 1 else 0
  | c :: rest => (if part.isPrefixOf (c :: rest) then 1 else 0) + countIn part rest

/-- At how many places `part` occurs in `s`. -/
def occurrences (s part : String) : Nat := countIn part.toList s.toList

/-! ## Characters -/

section Characters

variable {part l r sep : List Char} {c : Char}

theorem occursIn_iff : occursIn part l = true ↔ 0 < countIn part l := by
  induction l with
  | nil => cases part <;> simp [occursIn, countIn]
  | cons c l ih =>
    rw [occursIn, countIn, Bool.or_eq_true, ih]
    cases part.isPrefixOf (c :: l) with
    | false => simp
    | true => exact iff_of_true (.inl rfl) (Nat.add_pos_left Nat.one_pos _)

/-- A prefix does not reach over a character that it does not have. -/
theorem prefix_append_cons_iff (h : c ∉ part) : part <+: l ++ c :: r ↔ part <+: l := by
  refine ⟨fun hpart => ?_, fun hpart => hpart.trans (List.prefix_append l _)⟩
  have hfront : l ++ [c] <+: l ++ c :: r := ⟨r, by simp⟩
  rcases Nat.lt_or_ge l.length part.length with hlong | hshort
  · have hover : l ++ [c] <+: part :=
      List.prefix_of_prefix_length_le hfront hpart (by simp; omega)
    exact absurd (hover.subset (by simp)) h
  · exact List.prefix_of_prefix_length_le hpart (List.prefix_append l _) hshort

/-- **A foreign character cuts the occurrences apart.** -/
theorem countIn_append_cons (h : c ∉ part) :
    countIn part (l ++ c :: r) = countIn part l + countIn part r := by
  have hstart (l : List Char) : part.isPrefixOf (l ++ c :: r) = part.isPrefixOf l := by
    rw [Bool.eq_iff_iff, List.isPrefixOf_iff_prefix, List.isPrefixOf_iff_prefix,
      prefix_append_cons_iff h]
  induction l with
  | nil =>
    have hnil := hstart []
    rw [List.nil_append] at hnil ⊢
    change (if part.isPrefixOf (c :: r) then 1 else 0) + _ = _
    rw [hnil]
    cases part <;> rfl
  | cons d l ih =>
    have hcons := hstart (d :: l)
    rw [List.cons_append] at hcons ⊢
    rw [countIn, countIn, ih, hcons, Nat.add_assoc]

theorem countIn_eq_zero (hc : c ∈ part) (h : c ∉ l) : countIn part l = 0 := by
  induction l with
  | nil =>
    cases part with
    | nil => cases hc
    | cons _ _ => rfl
  | cons d l ih =>
    have hstart : ¬ part <+: d :: l := fun hpart => h (hpart.subset hc)
    rw [countIn, if_neg (by rwa [List.isPrefixOf_iff_prefix]),
      ih fun hl => h (List.mem_cons_of_mem _ hl)]

theorem countIn_nil (h : part ≠ []) : countIn part [] = 0 := if_neg (by simpa using h)

theorem countIn_between (hpart : part ≠ []) (hfirst : ∃ c ∈ sep.head?, c ∉ part)
    (hlast : ∃ c ∈ sep.getLast?, c ∉ part) (hnone : countIn part sep = 0) :
    countIn part (l ++ sep ++ r) = countIn part l + countIn part r := by
  obtain ⟨d, hd, hlast⟩ := hlast
  obtain ⟨inner, rfl⟩ := List.getLast?_eq_some_iff.mp hd
  have hinner : countIn part inner = 0 := by
    rw [countIn_append_cons hlast] at hnone
    omega
  rw [List.append_assoc, List.append_assoc, List.singleton_append, ← List.append_assoc,
    countIn_append_cons hlast]
  congr 1
  cases inner with
  | nil => rw [List.append_nil]
  | cons c inner =>
    obtain ⟨c', hc', hfirst⟩ := hfirst
    obtain rfl : c = c' := by simpa using hc'
    rw [← List.nil_append (c :: inner), countIn_append_cons hfirst, countIn_nil hpart] at hinner
    rw [countIn_append_cons hfirst]
    omega

end Characters

/-! ## Texts -/

variable {part s a b sep : String}

theorem holds_iff : holds s part = true ↔ 0 < occurrences s part := occursIn_iff

/-- A text without the other one, at the ends of which stand characters that the other one does
not have. -/
structure Foreign (part sep : String) : Prop where
  part_ne : part ≠ ""
  first : ∃ c ∈ sep.toList.head?, c ∉ part.toList
  last : ∃ c ∈ sep.toList.getLast?, c ∉ part.toList
  none : occurrences sep part = 0

instance : Decidable (Foreign part sep) :=
  decidable_of_iff (part ≠ "" ∧ sep.toList.head?.any (!part.toList.contains ·) = true ∧
      sep.toList.getLast?.any (!part.toList.contains ·) = true ∧ occurrences sep part = 0)
    ⟨fun ⟨h₁, h₂, h₃, h₄⟩ => ⟨h₁, by simpa [Option.any_eq_true] using h₂,
        by simpa [Option.any_eq_true] using h₃, h₄⟩,
      fun h => ⟨h.part_ne, by simpa [Option.any_eq_true] using h.first,
        by simpa [Option.any_eq_true] using h.last, h.none⟩⟩

theorem occurrences_eq_zero {c : Char} (hc : c ∈ part.toList) (h : c ∉ s.toList) :
    occurrences s part = 0 :=
  countIn_eq_zero hc h

/-- **Nothing reaches over a foreign text.** -/
theorem occurrences_between (h : Foreign part sep) :
    occurrences (a ++ sep ++ b) part = occurrences a part + occurrences b part := by
  rw [occurrences, String.toList_append, String.toList_append]
  exact countIn_between (by simpa using h.part_ne) h.first h.last h.none

theorem occurrences_empty (h : part ≠ "") : occurrences "" part = 0 :=
  if_neg (by simpa using h)

theorem occurrences_foreign_append (h : Foreign part sep) :
    occurrences (sep ++ a) part = occurrences a part := by
  have := occurrences_between (a := "") (b := a) h
  rwa [String.empty_append, occurrences_empty h.part_ne, Nat.zero_add] at this

theorem occurrences_append_foreign (h : Foreign part sep) :
    occurrences (a ++ sep) part = occurrences a part := by
  have := occurrences_between (a := a) (b := "") h
  rwa [String.append_empty, occurrences_empty h.part_ne, Nat.add_zero] at this

theorem occurrences_intercalate (h : Foreign part sep) (texts : List String) :
    occurrences (sep.intercalate texts) part = (texts.map (occurrences · part)).sum := by
  induction texts with
  | nil => exact occurrences_empty h.part_ne
  | cons s texts ih =>
    cases texts with
    | nil => simp
    | cons t texts =>
      rw [String.intercalate_cons_cons, occurrences_between h, ih, List.map_cons (l := t :: texts),
        List.sum_cons]

end NetSketch.Text
