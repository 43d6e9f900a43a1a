import NetSketch.Proofs.Json.Grammar
import NetSketch.Proofs.Json.Scalar

/-!
# How far a value reaches

A value inside another one is followed by a stop, and an object ends at its brace. So what stands
behind a value has no part in its reading.

* `Follows`: what stands behind a value inside another one;
* `ReadsAlike`, **`readsAlike`**: what is read stays the same with more behind it;
* `readValue_object_append`: an object is read the same whatever stands behind it.
-/

namespace NetSketch.Json

open Text

variable {steps depth : Nat} {cs rest : List Char} {v : Json} {items : List Json}
  {fields : List (String × Json)}

/-! ## Values -/

variable {q : List Char}

theorem skipSpace_append (h : skipSpace cs ≠ []) : skipSpace (cs ++ q) = skipSpace cs ++ q := by
  unfold skipSpace at h ⊢
  rw [List.dropWhile_append, if_neg (by simpa using h)]

theorem skipSpace_append_cons {c : Char} (h : skipSpace cs = c :: rest) (q : List Char) :
    skipSpace (cs ++ q) = c :: (rest ++ q) := by
  rw [skipSpace_append (by simp [h]), h, List.cons_append]

theorem CodesRead.append {codes : List Nat} (h : CodesRead cs codes rest) (q : List Char) :
    CodesRead (cs ++ q) codes (rest ++ q) := by
  induction h with
  | close rest => exact .close _
  | coded hcode _ ih => exact .coded hcode ih
  | escaped hc _ ih => exact .escaped hc ih
  | plain hquote hslash hc _ ih => exact .plain hquote hslash hc ih

theorem readText_append {s : String} (h : readText cs = .ok (s, rest)) (q : List Char) :
    readText (cs ++ q) = .ok (s, rest ++ q) := by
  obtain ⟨⟨codes, r⟩, hcodes, hr⟩ := bind_eq_ok.mp h
  cases hr
  unfold readText
  rw [readCodes_eq_ok.mpr ((readCodes_eq_ok.mp hcodes).append q)]
  rfl

/-- What stands behind a value inside another one: a stop. -/
def Follows (rest : List Char) : Prop := ∃ c r, rest = c :: r ∧ isStop c = true

theorem follows_of_skipSpace {c : Char} (h : skipSpace cs = c :: rest) (hc : isStop c = true) :
    Follows cs := by
  cases cs with
  | nil => cases h
  | cons d cs =>
    refine ⟨d, cs, rfl, ?_⟩
    cases hd : isSpace d with
    | true => simp [isStop, hd]
    | false =>
      have : d :: cs = c :: rest := by
        rw [← h, skipSpace, List.dropWhile_cons_of_neg (by simp [hd])]
      rwa [(List.cons.inj this).1]

theorem readScalar_append (h : readScalar cs = .ok (v, rest)) (hrest : Follows rest)
    (q : List Char) : readScalar (cs ++ q) = .ok (v, rest ++ q) := by
  obtain ⟨c, r, rfl, hc⟩ := hrest
  obtain ⟨used, rfl, -⟩ := spends_readScalar h
  rw [readScalar_stop hc] at h
  rw [List.append_assoc, List.cons_append, readScalar_stop hc]
  cases hused : readScalar used with
  | error e =>
    rw [hused] at h
    cases h
  | ok found =>
    rw [hused] at h
    obtain ⟨hv, hr⟩ := Prod.mk.inj (Except.ok.inj h)
    obtain ⟨w, left⟩ := found
    obtain rfl : left = [] := by simpa using hr
    obtain rfl : w = v := hv
    rfl

theorem ne_nil_of_readValue (h : readValue steps depth cs = .ok (v, rest)) : cs ≠ [] := by
  rintro rfl
  cases steps <;> cases h

theorem ne_nil_of_readItems (h : readItems steps depth cs = .ok (items, rest)) : cs ≠ [] := by
  cases steps with
  | zero => cases h
  | succ steps =>
    cases readItems_eq_ok.mp h with
    | last hv _ => exact ne_nil_of_readValue hv
    | more hv _ _ => exact ne_nil_of_readValue hv

theorem ne_nil_of_readFields (h : readFields steps depth cs = .ok (fields, rest)) : cs ≠ [] := by
  cases steps with
  | zero => cases h
  | succ steps => cases readFields_eq_ok.mp h <;> exact List.cons_ne_nil _ _

theorem skipSpace_append_ne {c : Char} (hne : skipSpace cs ≠ [])
    (h : ∀ r, skipSpace cs ≠ c :: r) : ∀ r, skipSpace (cs ++ q) ≠ c :: r := by
  obtain ⟨d, l, hl⟩ := List.exists_cons_of_ne_nil hne
  intro r heq
  rw [skipSpace_append_cons hl q] at heq
  obtain ⟨rfl, -⟩ := List.cons.inj heq
  exact h l hl

/-- What is read in some steps is read, in at least as many, of the text with more behind it. -/
structure ReadsAlike (steps steps' : Nat) (q : List Char) : Prop where
  value : ∀ {depth cs v rest}, Follows rest → readValue steps depth cs = .ok (v, rest) →
    readValue steps' depth (cs ++ q) = .ok (v, rest ++ q)
  items : ∀ {depth cs items rest}, readItems steps depth cs = .ok (items, rest) →
    readItems steps' depth (cs ++ q) = .ok (items, rest ++ q)
  fields : ∀ {depth cs fields rest}, readFields steps depth cs = .ok (fields, rest) →
    readFields steps' depth (cs ++ q) = .ok (fields, rest ++ q)

namespace ReadsAlike

variable {steps' : Nat} (hread : ReadsAlike steps steps' q)

include hread

theorem list (hfirst : ∀ r, skipSpace cs ≠ ']' :: r)
    (h : readItems steps depth (skipSpace cs) = .ok (items, rest)) :
    ValueRead steps' (depth + 1) ('[' :: (cs ++ q)) (.arr items) (rest ++ q) := by
  have hne := ne_nil_of_readItems h
  refine .list (skipSpace_append_ne hne hfirst) ?_
  rw [skipSpace_append hne]
  exact hread.items h

/-- Nothing need stand behind an object: it ends at its brace. -/
theorem object (h : ValueRead steps depth ('\x7b' :: cs) v rest) :
    ValueRead steps' depth ('\x7b' :: (cs ++ q)) v (rest ++ q) := by
  cases h with
  | emptyObject h => exact .emptyObject (skipSpace_append_cons h q)
  | object hfirst h =>
    have hne := ne_nil_of_readFields h
    refine .object (skipSpace_append_ne hne hfirst) ?_
    rw [skipSpace_append hne]
    exact hread.fields h
  | scalar hc h => exact absurd rfl hc.2.2

theorem valueRead (hrest : Follows rest) (h : ValueRead steps depth cs v rest) :
    ValueRead steps' depth (cs ++ q) v (rest ++ q) := by
  cases h with
  | text h => exact .text (readText_append h q)
  | emptyList h => exact .emptyList (skipSpace_append_cons h q)
  | list hfirst h => exact hread.list hfirst h
  | emptyObject h => exact hread.object (.emptyObject h)
  | object hfirst h => exact hread.object (.object hfirst h)
  | scalar hc h => exact .scalar hc (readScalar_append h hrest q)

theorem itemsRead (h : ItemsRead steps depth cs items rest) :
    ItemsRead steps' depth (cs ++ q) items (rest ++ q) := by
  cases h with
  | last hv h =>
    exact .last (hread.value (follows_of_skipSpace h (by decide)) hv) (skipSpace_append_cons h q)
  | more hv h hitems =>
    refine .more (hread.value (follows_of_skipSpace h (by decide)) hv)
      (skipSpace_append_cons h q) ?_
    rw [skipSpace_append (ne_nil_of_readItems hitems)]
    exact hread.items hitems

theorem fieldsRead (h : FieldsRead steps depth cs fields rest) :
    FieldsRead steps' depth (cs ++ q) fields (rest ++ q) := by
  cases h with
  | last hname hcolon hv h =>
    refine .last (readText_append hname q) (skipSpace_append_cons hcolon q) ?_
      (skipSpace_append_cons h q)
    rw [skipSpace_append (ne_nil_of_readValue hv)]
    exact hread.value (follows_of_skipSpace h (by decide)) hv
  | more hname hcolon hv h hfields =>
    refine .more (readText_append hname q) (skipSpace_append_cons hcolon q) ?_
      (skipSpace_append_cons h q) ?_
    · rw [skipSpace_append (ne_nil_of_readValue hv)]
      exact hread.value (follows_of_skipSpace h (by decide)) hv
    · rw [skipSpace_append (ne_nil_of_readFields hfields)]
      exact hread.fields hfields

end ReadsAlike

/-- **What stands behind a value has no part in its reading.** -/
theorem readsAlike (steps more : Nat) (q : List Char) : ReadsAlike steps (steps + more) q := by
  induction steps with
  | zero =>
    exact ⟨fun _ h => absurd h readValue_zero_ne, fun h => absurd h readItems_zero_ne,
      fun h => absurd h readFields_zero_ne⟩
  | succ steps ih =>
    rw [Nat.add_right_comm]
    exact ⟨fun hrest h => readValue_eq_ok.mpr (ih.valueRead hrest (readValue_eq_ok.mp h)),
      fun h => readItems_eq_ok.mpr (ih.itemsRead (readItems_eq_ok.mp h)),
      fun h => readFields_eq_ok.mpr (ih.fieldsRead (readFields_eq_ok.mp h))⟩

theorem readValue_object_append {steps' : Nat} (hle : steps ≤ steps')
    (h : readValue steps depth ('\x7b' :: cs) = .ok (v, rest)) (q : List Char) :
    readValue steps' depth ('\x7b' :: (cs ++ q)) = .ok (v, rest ++ q) := by
  obtain ⟨more, rfl⟩ := Nat.exists_eq_add_of_le hle
  cases steps with
  | zero => cases h
  | succ steps =>
    rw [Nat.add_right_comm]
    exact readValue_eq_ok.mpr ((readsAlike steps more q).object (readValue_eq_ok.mp h))

end NetSketch.Json
