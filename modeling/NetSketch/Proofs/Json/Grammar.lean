import NetSketch.Json.Reader
import NetSketch.Proofs.Json.Course

/-!
# What it takes to read a value

The reader of values as a relation: what stands at the front of a text that is read, what is read of
it and what is left over.

* `ValueRead`, `ItemsRead`, `FieldsRead`, `CodesRead`: the forms of values, of the items of a list,
  of the fields of an object and of the codes inside quotes;
* **`readValue_eq_ok`**, `readItems_eq_ok`, `readFields_eq_ok`, `readCodes_eq_ok`: the reader reads
  these forms and no others.
-/

namespace NetSketch.Json

open Text

/-! ## Values -/

/-- What it takes to read a value at the front, by its first character. -/
inductive ValueRead (steps : Nat) : Nat → List Char → Json → List Char → Prop
  | text {depth cs s rest} (h : readText cs = .ok (s, rest)) :
    ValueRead steps depth ('"' :: cs) (.str s) rest
  | emptyList {depth cs rest} (h : skipSpace cs = ']' :: rest) :
    ValueRead steps (depth + 1) ('[' :: cs) (.arr []) rest
  | list {depth cs items rest} (hfirst : ∀ r, skipSpace cs ≠ ']' :: r)
      (h : readItems steps depth (skipSpace cs) = .ok (items, rest)) :
    ValueRead steps (depth + 1) ('[' :: cs) (.arr items) rest
  | emptyObject {depth cs rest} (h : skipSpace cs = '\x7d' :: rest) :
    ValueRead steps (depth + 1) ('\x7b' :: cs) (.obj []) rest
  | object {depth cs fields rest} (hfirst : ∀ r, skipSpace cs ≠ '\x7d' :: r)
      (h : readFields steps depth (skipSpace cs) = .ok (fields, rest)) :
    ValueRead steps (depth + 1) ('\x7b' :: cs) (.obj (Fields.ofList fields)) rest
  | scalar {depth c cs v rest} (hc : c ≠ '"' ∧ c ≠ '[' ∧ c ≠ '\x7b')
      (h : readScalar (c :: cs) = .ok (v, rest)) : ValueRead steps depth (c :: cs) v rest

/-- What it takes to read items: a value, and behind it the end or a comma and further items. -/
inductive ItemsRead (steps depth : Nat) (cs : List Char) : List Json → List Char → Prop
  | last {v behind rest} (hv : readValue steps depth cs = .ok (v, behind))
      (h : skipSpace behind = ']' :: rest) : ItemsRead steps depth cs [v] rest
  | more {v behind next items rest} (hv : readValue steps depth cs = .ok (v, behind))
      (h : skipSpace behind = ',' :: next)
      (hitems : readItems steps depth (skipSpace next) = .ok (items, rest)) :
    ItemsRead steps depth cs (v :: items) rest

/-- What it takes to read fields: a name and a value, and behind them the end or a comma and further
fields. -/
inductive FieldsRead (steps depth : Nat) : List Char → List (String × Json) → List Char → Prop
  | last {cs name colon next v behind rest} (hname : readText cs = .ok (name, colon))
      (hcolon : skipSpace colon = ':' :: next)
      (hv : readValue steps depth (skipSpace next) = .ok (v, behind))
      (h : skipSpace behind = '\x7d' :: rest) : FieldsRead steps depth ('"' :: cs) [(name, v)] rest
  | more {cs name colon next v behind further fields rest}
      (hname : readText cs = .ok (name, colon)) (hcolon : skipSpace colon = ':' :: next)
      (hv : readValue steps depth (skipSpace next) = .ok (v, behind))
      (h : skipSpace behind = ',' :: further)
      (hfields : readFields steps depth (skipSpace further) = .ok (fields, rest)) :
    FieldsRead steps depth ('"' :: cs) ((name, v) :: fields) rest

variable {steps depth : Nat} {cs rest : List Char} {v : Json} {items : List Json}
  {fields : List (String × Json)}

theorem readValue_zero_ne : readValue 0 depth cs ≠ .ok (v, rest) := by
  cases cs <;> exact nofun

theorem readItems_zero_ne : readItems 0 depth cs ≠ .ok (items, rest) := nofun

theorem readFields_zero_ne : readFields 0 depth cs ≠ .ok (fields, rest) := by
  cases cs <;> exact nofun

theorem readValue_eq_ok :
    readValue (steps + 1) depth cs = .ok (v, rest) ↔ ValueRead steps depth cs v rest := by
  constructor
  · intro h
    cases cs with
    | nil => simp [readValue] at h
    | cons c cs =>
      rw [readValue.eq_def] at h
      dsimp only at h
      split_ifs at h with h₁ h₂ h₃
      · obtain rfl := beq_iff_eq.mp h₁
        obtain ⟨⟨s, r⟩, hs, hr⟩ := bind_eq_ok.mp h
        cases hr
        exact .text hs
      · obtain rfl := beq_iff_eq.mp h₂
        cases depth with
        | zero => cases h
        | succ depth =>
          dsimp only at h
          split at h
          · cases h
            exact .emptyList ‹_›
          · obtain ⟨⟨items, r⟩, hs, hr⟩ := bind_eq_ok.mp h
            cases hr
            exact .list ‹_› hs
      · obtain rfl := beq_iff_eq.mp h₃
        cases depth with
        | zero => cases h
        | succ depth =>
          dsimp only at h
          split at h
          · cases h
            exact .emptyObject ‹_›
          · obtain ⟨⟨fields, r⟩, hs, hr⟩ := bind_eq_ok.mp h
            cases hr
            exact .object ‹_› hs
      · exact .scalar ⟨by simpa using h₁, by simpa using h₂, by simpa using h₃⟩ h
  · rintro (hs | hs | ⟨hfirst, hs⟩ | hs | ⟨hfirst, hs⟩ | ⟨⟨h₁, h₂, h₃⟩, hs⟩)
    · simp only [readValue, hs]; rfl
    · simp [readValue, hs]
    · rw [readValue, if_neg (by decide), if_pos (by decide)]
      dsimp only
      split
      · exact absurd ‹_› (hfirst _)
      · rw [hs]; rfl
    · simp [readValue, hs]
    · rw [readValue, if_neg (by decide), if_neg (by decide), if_pos (by decide)]
      dsimp only
      split
      · exact absurd ‹_› (hfirst _)
      · rw [hs]; rfl
    · rw [readValue.eq_def]
      dsimp only
      rw [if_neg (by simpa using h₁), if_neg (by simpa using h₂), if_neg (by simpa using h₃)]
      exact hs

theorem readItems_eq_ok :
    readItems (steps + 1) depth cs = .ok (items, rest) ↔ ItemsRead steps depth cs items rest := by
  constructor
  · intro h
    rw [readItems] at h
    obtain ⟨⟨v, behind⟩, hv, h⟩ := bind_eq_ok.mp h
    dsimp only at h
    split at h
    · obtain ⟨⟨items, r⟩, hitems, hr⟩ := bind_eq_ok.mp h
      cases hr
      exact .more hv ‹_› hitems
    · cases h
      exact .last hv ‹_›
    · cases h
  · rintro (⟨hv, hb⟩ | ⟨hv, hb, hitems⟩)
    · simp only [readItems, hv, hb, bind, Except.bind, pure, Except.pure]
    · simp only [readItems, hv, hb, hitems, bind, Except.bind, pure, Except.pure]

theorem readFields_eq_ok :
    readFields (steps + 1) depth cs = .ok (fields, rest) ↔
      FieldsRead steps depth cs fields rest := by
  constructor
  · intro h
    rw [readFields.eq_def] at h
    dsimp only at h
    split at h
    · rename_i steps' cs' heq
      cases heq
      obtain ⟨⟨name, colon⟩, hname, h⟩ := bind_eq_ok.mp h
      dsimp only at h
      split at h
      · obtain ⟨⟨v, behind⟩, hv, h⟩ := bind_eq_ok.mp h
        dsimp only at h
        split at h
        · obtain ⟨⟨fields, r⟩, hfields, hr⟩ := bind_eq_ok.mp h
          cases hr
          exact .more hname ‹_› hv ‹_› hfields
        · cases h
          exact .last hname ‹_› hv ‹_›
        · cases h
      · cases h
    · cases h
  · rintro (⟨hname, hcolon, hv, hb⟩ | ⟨hname, hcolon, hv, hb, hfields⟩)
    · simp only [readFields, hname, hcolon, hv, hb, bind, Except.bind, pure, Except.pure]
    · simp only [readFields, hname, hcolon, hv, hb, hfields, bind, Except.bind, pure, Except.pure]

/-! ## Texts -/

/-- How the codes inside quotes are read, up to the closing one. -/
inductive CodesRead : List Char → List Nat → List Char → Prop
  | close (rest : List Char) : CodesRead ('"' :: rest) [] rest
  | coded {a b c d cs code codes rest} (hcode : hexCode? a b c d = some code)
      (h : CodesRead cs codes rest) :
    CodesRead ('\\' :: 'u' :: a :: b :: c :: d :: cs) (code :: codes) rest
  | escaped {c c' cs codes rest} (hc : escaped? c = some c') (h : CodesRead cs codes rest) :
    CodesRead ('\\' :: c :: cs) (c'.toNat :: codes) rest
  | plain {c cs codes rest} (hquote : c ≠ '"') (hslash : c ≠ '\\') (hc : ¬ c.toNat < 32)
      (h : CodesRead cs codes rest) : CodesRead (c :: cs) (c.toNat :: codes) rest

theorem readCodes_escaped {c c' : Char} (hc : escaped? c = some c') (cs : List Char) :
    readCodes ('\\' :: c :: cs) = readCodes cs >>= fun x => .ok (c'.toNat :: x.1, x.2) := by
  have hu : c ≠ 'u' := by
    rintro rfl
    cases hc
  rw [readCodes]
  · rw [hc]
    rfl
  · exact fun _ _ _ _ _ h => absurd h hu

theorem readCodes_plain {c : Char} (hquote : c ≠ '"') (hslash : c ≠ '\\') (hc : ¬ c.toNat < 32)
    (cs : List Char) :
    readCodes (c :: cs) = readCodes cs >>= fun x => .ok (c.toNat :: x.1, x.2) := by
  rw [readCodes, if_neg hc]
  · rfl
  · exact fun h => absurd h hquote
  · exact fun _ _ _ _ _ h => absurd h hslash
  · exact fun _ _ h => absurd h hslash

theorem readCodes_eq_ok {codes : List Nat} :
    readCodes cs = .ok (codes, rest) ↔ CodesRead cs codes rest := by
  constructor
  · intro h
    induction cs using readCodes.induct generalizing codes with
    | case1 => cases h
    | case2 cs =>
      cases h
      exact .close _
    | case3 a b c d cs hcode =>
      rw [readCodes, hcode] at h
      cases h
    | case4 a b c d cs code hcode ih =>
      rw [readCodes, hcode] at h
      obtain ⟨⟨codes, r⟩, hcodes, hr⟩ := bind_eq_ok.mp h
      cases hr
      exact .coded hcode (ih hcodes)
    | case5 c cs hu hc =>
      rw [readCodes, hc] at h
      · cases h
      · exact hu
    | case6 c cs hu c' hc ih =>
      rw [readCodes_escaped hc] at h
      obtain ⟨⟨codes, r⟩, hcodes, hr⟩ := bind_eq_ok.mp h
      cases hr
      exact .escaped hc (ih hcodes)
    | case7 c cs hquote hcode hslash hc =>
      rw [readCodes, if_pos hc] at h
      · cases h
      · exact hquote
      · exact hcode
      · exact hslash
    | case8 c cs hquote hcode hslash hc ih =>
      by_cases hend : c = '\\'
      · -- a backslash at the end: no text is closed
        cases cs with
        | nil =>
          subst hend
          cases h
        | cons d cs => exact absurd rfl (hslash d cs hend)
      · rw [readCodes_plain hquote hend hc] at h
        obtain ⟨⟨codes, r⟩, hcodes, hr⟩ := bind_eq_ok.mp h
        cases hr
        exact .plain hquote hend hc (ih hcodes)
  · intro h
    induction h with
    | close rest => rfl
    | coded hcode _ ih => simp only [readCodes, hcode, ih]; rfl
    | escaped hc _ ih => rw [readCodes_escaped hc, ih]; rfl
    | plain hquote hslash hc _ ih => rw [readCodes_plain hquote hslash hc, ih]; rfl

end NetSketch.Json
