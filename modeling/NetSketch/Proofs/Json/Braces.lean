import NetSketch.Json.Embedded
import NetSketch.Proofs.Json.Extent

/-!
# Braces around an object

The scan for balanced braces agrees with the reader of values: an object that is read is balanced,
whatever texts, escapes and further objects it holds.

* `Passes`: the scan passes over a part of a text and has as many braces open as before;
* **`readsPassed`**: the scan passes over whatever is read;
* `balanced_of_read`, `balanced_append`: an object behind a text without braces is the first span.
-/

namespace NetSketch.Json

open Text

variable {steps depth : Nat} {cs rest : List Char} {v : Json} {items : List Json}
  {fields : List (String × Json)}

/-! ## Braces -/

/-- A scan between braces passes from the front of a text on to its rest: what lies between
lengthens the span, opens or closes quotes, and that is all. -/
def Passes (quoted quoted' : Bool) (cs rest : List Char) : Prop :=
  ∃ used, cs = used ++ rest ∧ ∀ depth span tail,
    balancedFrom ⟨depth + 1, span, quoted, false⟩ (used ++ tail) =
      balancedFrom ⟨depth + 1, used.reverse ++ span, quoted', false⟩ tail

namespace Passes

variable {quoted quoted' quoted'' : Bool} {l m r : List Char} {c : Char}

theorem refl : Passes quoted quoted l l := ⟨[], rfl, fun _ _ _ => rfl⟩

theorem trans (h : Passes quoted quoted' l m) (h' : Passes quoted' quoted'' m r) :
    Passes quoted quoted'' l r := by
  obtain ⟨used, rfl, hused⟩ := h
  obtain ⟨used', rfl, hused'⟩ := h'
  refine ⟨used ++ used', by simp, fun depth span tail => ?_⟩
  rw [List.append_assoc, hused, hused', List.reverse_append, List.append_assoc]

theorem plain (hc : isPlain c = true) : Passes false false (c :: l) l := by
  refine ⟨[c], rfl, fun depth span tail => ?_⟩
  simp only [isPlain, Bool.and_eq_true, bne_iff_ne] at hc
  simp [balancedFrom, BraceScan.step, hc]

theorem opening : Passes false true ('"' :: l) l := ⟨['"'], rfl, fun _ _ _ => rfl⟩

theorem closing : Passes true false ('"' :: l) l := ⟨['"'], rfl, fun _ _ _ => rfl⟩

theorem inside (hquote : c ≠ '"') (hslash : c ≠ '\\') : Passes true true (c :: l) l := by
  refine ⟨[c], rfl, fun depth span tail => ?_⟩
  simp [balancedFrom, BraceScan.step, hquote, hslash]

theorem escape : Passes true true ('\\' :: c :: l) l := ⟨['\\', c], rfl, fun _ _ _ => rfl⟩

theorem braces (h : Passes false false l ('\x7d' :: r)) : Passes false false ('\x7b' :: l) r := by
  obtain ⟨used, rfl, hused⟩ := h
  refine ⟨'\x7b' :: used ++ ['\x7d'], by simp, fun depth span tail => ?_⟩
  have hopen : balancedFrom ⟨depth + 1, span, false, false⟩ ('\x7b' :: (used ++ '\x7d' :: tail)) =
      balancedFrom ⟨depth + 2, '\x7b' :: span, false, false⟩ (used ++ '\x7d' :: tail) := rfl
  have hclose : ∀ inner, balancedFrom ⟨depth + 2, inner, false, false⟩ ('\x7d' :: tail) =
      balancedFrom ⟨depth + 1, '\x7d' :: inner, false, false⟩ tail := fun _ => rfl
  rw [List.append_assoc, List.cons_append, List.singleton_append, hopen, hused, hclose]
  simp

end Passes

theorem Spends.passes (h : Spends cs rest) : Passes false false cs rest := by
  obtain ⟨used, rfl, hused⟩ := h
  induction used with
  | nil => exact .refl
  | cons c used ih =>
    obtain ⟨hc, hused⟩ := List.forall_mem_cons.mp hused
    exact .trans (.plain hc) (ih hused)

theorem isPlain_of_isSpace {c : Char} (h : isSpace c = true) : isPlain c = true := by
  simp only [isSpace, Bool.or_eq_true, beq_iff_eq] at h
  rcases h with ((rfl | rfl) | rfl) | rfl <;> decide

theorem passes_skipSpace : Passes false false cs (skipSpace cs) :=
  Spends.passes ⟨cs.takeWhile isSpace, (List.takeWhile_append_dropWhile).symm, fun _ hc =>
    isPlain_of_isSpace (List.mem_takeWhile_imp hc)⟩

theorem passes_of_skipSpace {c : Char} (h : skipSpace cs = c :: rest) (hc : isPlain c = true) :
    Passes false false cs rest :=
  (h ▸ passes_skipSpace).trans (.plain hc)

theorem ne_of_hexDigit? {c : Char} {n : Nat} (h : hexDigit? c = some n) : c ≠ '"' ∧ c ≠ '\\' := by
  constructor
  · rintro rfl
    cases h
  · rintro rfl
    cases h

theorem CodesRead.passes {codes : List Nat} (h : CodesRead cs codes rest) :
    Passes true false cs rest := by
  induction h with
  | close rest => exact .closing
  | coded hcode _ ih =>
    simp only [hexCode?, Option.bind_eq_bind, Option.bind_eq_some_iff] at hcode
    obtain ⟨_, ha, _, hb, _, hc, _, hd, -⟩ := hcode
    have digit {c : Char} {l : List Char} {n : Nat} (h : hexDigit? c = some n) :
        Passes true true (c :: l) l :=
      .inside (ne_of_hexDigit? h).1 (ne_of_hexDigit? h).2
    exact .trans .escape (.trans (digit ha) (.trans (digit hb) (.trans (digit hc)
      (.trans (digit hd) ih))))
  | escaped _ _ ih => exact .trans .escape ih
  | plain hquote hslash _ _ ih => exact .trans (.inside hquote hslash) ih

theorem passes_text {s : String} (h : readText cs = .ok (s, rest)) :
    Passes false false ('"' :: cs) rest := by
  obtain ⟨⟨codes, r⟩, hcodes, hr⟩ := bind_eq_ok.mp h
  cases hr
  exact .trans .opening (readCodes_eq_ok.mp hcodes).passes

/-- What is read in some steps is passed by a scan between braces; fields are passed up to the
closing brace. -/
structure ReadsPassed (steps : Nat) : Prop where
  value : ∀ {depth cs v rest}, readValue steps depth cs = .ok (v, rest) →
    Passes false false cs rest
  items : ∀ {depth cs items rest}, readItems steps depth cs = .ok (items, rest) →
    Passes false false cs rest
  fields : ∀ {depth cs fields rest}, readFields steps depth cs = .ok (fields, rest) →
    Passes false false cs ('\x7d' :: rest)

namespace ReadsPassed

variable (hread : ReadsPassed steps)

include hread

theorem object (h : ValueRead steps depth ('\x7b' :: cs) v rest) :
    Passes false false cs ('\x7d' :: rest) := by
  cases h with
  | emptyObject h => exact h ▸ passes_skipSpace
  | object _ h => exact passes_skipSpace.trans (hread.fields h)
  | scalar hc _ => exact absurd rfl hc.2.2

theorem valueRead (h : ValueRead steps depth cs v rest) : Passes false false cs rest := by
  cases h with
  | text h => exact passes_text h
  | emptyList h => exact .trans (.plain (by decide)) (passes_of_skipSpace h (by decide))
  | list _ h => exact .trans (.plain (by decide)) (passes_skipSpace.trans (hread.items h))
  | emptyObject h => exact .braces (h ▸ passes_skipSpace)
  | object _ h => exact .braces (passes_skipSpace.trans (hread.fields h))
  | scalar _ h => exact (spends_readScalar h).passes

theorem itemsRead (h : ItemsRead steps depth cs items rest) : Passes false false cs rest := by
  cases h with
  | last hv h => exact (hread.value hv).trans (passes_of_skipSpace h (by decide))
  | more hv h hitems =>
    exact (hread.value hv).trans ((passes_of_skipSpace h (by decide)).trans
      (passes_skipSpace.trans (hread.items hitems)))

theorem fieldsRead (h : FieldsRead steps depth cs fields rest) :
    Passes false false cs ('\x7d' :: rest) := by
  cases h with
  | last hname hcolon hv h =>
    exact (passes_text hname).trans ((passes_of_skipSpace hcolon (by decide)).trans
      (passes_skipSpace.trans ((hread.value hv).trans (h ▸ passes_skipSpace))))
  | more hname hcolon hv h hfields =>
    exact (passes_text hname).trans ((passes_of_skipSpace hcolon (by decide)).trans
      (passes_skipSpace.trans ((hread.value hv).trans ((passes_of_skipSpace h (by decide)).trans
        (passes_skipSpace.trans (hread.fields hfields))))))

end ReadsPassed

/-- **Whatever is read is balanced.** -/
theorem readsPassed (steps : Nat) : ReadsPassed steps := by
  induction steps with
  | zero =>
    exact ⟨fun h => absurd h readValue_zero_ne, fun h => absurd h readItems_zero_ne,
      fun h => absurd h readFields_zero_ne⟩
  | succ steps ih =>
    exact ⟨fun h => ih.valueRead (readValue_eq_ok.mp h),
      fun h => ih.itemsRead (readItems_eq_ok.mp h),
      fun h => ih.fieldsRead (readFields_eq_ok.mp h)⟩

/-- An object at the front of a text is its first balanced span. -/
theorem balanced_of_read {q : List Char} (h : readValue steps depth ('\x7b' :: cs) = .ok (v, [])) :
    balanced ('\x7b' :: cs ++ q) = ('\x7b' :: cs) :: balanced q := by
  cases steps with
  | zero => cases h
  | succ steps =>
    obtain ⟨used, rfl, hused⟩ := (readsPassed steps).object (readValue_eq_ok.mp h)
    have hopen : balanced ('\x7b' :: (used ++ '\x7d' :: q)) =
        balancedFrom ⟨1, ['\x7b'], false, false⟩ (used ++ '\x7d' :: q) := rfl
    have hclose : ∀ inner, balancedFrom ⟨1, inner, false, false⟩ ('\x7d' :: q) =
        ('\x7d' :: inner).reverse :: balanced q := fun _ => rfl
    rw [List.cons_append, List.append_assoc, List.singleton_append, hopen, hused, hclose]
    simp

theorem balanced_append {p l : List Char} (hp : '\x7b' ∉ p) : balanced (p ++ l) = balanced l := by
  induction p with
  | nil => rfl
  | cons c p ih =>
    obtain ⟨hc, hp⟩ := not_or.mp (mt List.mem_cons.mpr hp)
    have hstep : BraceScan.step {} c = ({}, none) := by
      by_cases hquote : c = '"'
      · subst hquote
        rfl
      · by_cases hclose : c = '\x7d'
        · subst hclose
          rfl
        · simp [BraceScan.step, hquote, hclose, Ne.symm hc]
    rw [List.cons_append, balanced, balancedFrom, hstep]
    exact ih hp

end NetSketch.Json
