import NetSketch.Intent.Basic
import NetSketch.Proofs.Diagram.Reading

/-!
# The first intent in an answer

The objects of an answer are tried one after the other. An object that is refused is passed over,
and the search ends with the first intent. It is spoilt where it meets a candidate that is nested
too deeply or a confidence that is too large for a floating-point number.

* `Intent.ends_read`: how the reading of an intent ends;
* `Intent.Refused`, `Intent.Spoilt`: candidates that are passed over, and those that spoil a search;
* `Intent.inText_eq_none`, `Intent.inText_eq_some`, `Intent.inText_eq_error`: **how a search ends**.
-/

namespace NetSketch

open Number Reading

/-! ## Reading intents -/

/-- The fault in a number that is too large for a floating-point number. -/
def Json.largeFault? : Json → Option Fault
  | .int i => if Binary64.ofInt? i = none then some .tooLargeForFloat else none
  | _ => none

theorem ends_confidenceOf (v : Json) :
    Ends (fun _ => True) v.largeFault? (confidenceOf v) := by
  unfold confidenceOf
  cases v with
  | int i =>
    rw [Json.toFloat, Json.largeFault?]
    cases Binary64.ofInt? i with
    | none => exact .fault _
    | some x => cases x <;> exact .ok trivial
  | str s =>
    rw [Json.toFloat]
    cases readFloat? s with
    | none => exact .ok trivial
    | some x => cases x <;> exact .ok trivial
  | bool b =>
    rw [Json.toFloat]
    generalize Binary64.ofRatio false _ 1 = x
    cases x <;> exact .ok trivial
  | float x => cases x <;> exact .ok trivial
  | _ => exact .ok trivial

/-- **How the reading of an intent ends**: nothing but a confidence that is too large is a fault. -/
theorem Intent.ends_read (fields : Fields) :
    Ends (fun _ => True) ((fields.get? "confidence").bind Json.largeFault?)
      (Intent.read (.obj fields)) := by
  have haction : Ends (fun _ => True) none (required fields ["action", "intent"] commandOf) :=
    .required fun _ v _ => .choice _ _ _
  have hconfidence : Ends (fun _ => True) ((fields.get? "confidence").bind Json.largeFault?)
      (optional fields ["confidence"] half confidenceOf) := by
    refine .optional_one (fun hnone => ⟨by rw [hnone]; rfl, trivial⟩) fun v hv => ?_
    rw [hv]
    exact ends_confidenceOf v
  have hall := haction.both (hconfidence.both (.optional_any fields ["reasoning"] Ends.text))
  rw [Option.or_none] at hall
  exact hall.map fun _ _ => trivial

namespace Intent

variable {x : Except Fault Fields} {l : List (Except Fault Fields)} {f : Fault} {i : Intent}
  {raw : String}

/-! ## Candidates -/

/-- An object that is no intent; there are complaints about it. -/
def Refused (x : Except Fault Fields) : Prop :=
  ∃ fields issues, x = .ok fields ∧
    Intent.read (.obj fields) = .error (.issues issues) ∧ issues ≠ []

/-- A candidate that spoils a search, and the fault that it ends with. -/
inductive Spoilt : Except Fault Fields → Fault → Prop
  | deep : Spoilt (.error .tooDeep) .tooDeep
  | large {fields : Fields} {n : Int} (hn : fields.get? "confidence" = some (.int n))
      (hlarge : Binary64.ofInt? n = none) : Spoilt (.ok fields) .tooLargeForFloat

/-- What a candidate makes of a search; nothing if it is passed over. -/
def verdict? : Except Fault Fields → Option (Except Fault Intent)
  | .error f => some (.error f)
  | .ok fields =>
    match Intent.read (.obj fields) with
    | .ok i => some (.ok i)
    | .error (.fault f) => some (.error f)
    | .error (.issues _) => none

theorem verdict?_eq_none : verdict? x = none ↔ Refused x := by
  constructor
  · intro h
    cases x with
    | error f => cases h
    | ok fields =>
      have hends := Intent.ends_read fields
      rw [verdict?] at h
      split at h
      · cases h
      · cases h
      · rename_i issues hread
        rw [hread] at hends
        exact ⟨fields, issues, rfl, hread, hends.of_issues⟩
  · rintro ⟨fields, issues, rfl, h, -⟩
    rw [verdict?, h]

theorem verdict?_eq_ok :
    verdict? x = some (.ok i) ↔ ∃ fields, x = .ok fields ∧ Intent.read (.obj fields) = .ok i := by
  constructor
  · intro h
    cases x with
    | error f => cases h
    | ok fields =>
      rw [verdict?] at h
      split at h
      · rename_i hread
        obtain rfl := Except.ok.inj (Option.some.inj h)
        exact ⟨fields, rfl, hread⟩
      · cases h
      · cases h
  · rintro ⟨fields, rfl, h⟩
    rw [verdict?, h]

theorem largeFault?_eq_some {v : Json} : v.largeFault? = some f ↔
    (∃ n, v = .int n ∧ Binary64.ofInt? n = none) ∧ f = .tooLargeForFloat := by
  cases v with
  | int n =>
    rw [Json.largeFault?]
    split_ifs with h
    · simp [h, eq_comm]
    · simp [h]
  | _ => simp [Json.largeFault?]

theorem read_eq_fault {fields : Fields} : Intent.read (.obj fields) = .error (.fault f) ↔
    Spoilt (.ok fields) f := by
  have hends := Intent.ends_read fields
  constructor
  · intro h
    rw [h] at hends
    obtain ⟨v, hv, hlarge⟩ := Option.bind_eq_some_iff.mp hends.of_fault
    obtain ⟨⟨n, rfl, hn⟩, rfl⟩ := largeFault?_eq_some.mp hlarge
    exact .large hv hn
  · rintro (_ | ⟨hv, hn⟩)
    rw [hv, Option.bind_some, largeFault?_eq_some.mpr ⟨⟨_, rfl, hn⟩, rfl⟩] at hends
    exact hends.eq_fault

theorem verdict?_eq_error (hx : ∀ f, x = .error f → f = .tooDeep) :
    verdict? x = some (.error f) ↔ Spoilt x f := by
  cases x with
  | error g =>
    obtain rfl := hx g rfl
    constructor
    · intro h
      obtain rfl := Except.error.inj (Option.some.inj h)
      exact .deep
    · rintro ⟨⟩
      rfl
  | ok fields =>
    rw [← read_eq_fault, verdict?]
    constructor
    · intro h
      split at h
      · cases h
      · rename_i hread
        obtain rfl := Except.error.inj (Option.some.inj h)
        exact hread
      · cases h
    · intro h
      rw [h]

/-! ## Searches -/

/-- The first candidate that is not passed over decides. -/
theorem among_eq (l : List (Except Fault Fields)) : Intent.among l =
    match l.findSome? verdict? with
    | some r => r.map some
    | none => .ok none := by
  induction l with
  | nil => rfl
  | cons x l ih =>
    rw [List.findSome?_cons]
    cases x with
    | error f => rfl
    | ok fields =>
      cases hread : Intent.read (.obj fields) with
      | ok i =>
        simp only [among, verdict?, hread]
        rfl
      | error refusal =>
        cases refusal with
        | fault f =>
          have hfamily : f.family = .overflow := by
            cases read_eq_fault.mp hread
            rfl
          simp only [among, verdict?, hread, if_pos hfamily]
          rfl
        | issues list =>
          simp only [among, verdict?, hread]
          exact ih

theorem tooDeep_of_mem_objectsAmong {candidates : List (List Char)}
    (h : .error f ∈ Json.objectsAmong candidates) : f = .tooDeep := by
  induction candidates with
  | nil => cases h
  | cons cs rest ih =>
    rw [Json.objectsAmong] at h
    split at h
    · rcases List.mem_cons.mp h with h | h
      · cases h
      · exact ih h
    · exact Except.error.inj (List.mem_singleton.mp h)
    · exact ih h

theorem inText_eq_none :
    Intent.inText raw = .ok none ↔ ∀ x ∈ Json.objectsIn raw, Refused x := by
  rw [inText, among_eq]
  simp only [← verdict?_eq_none, ← List.findSome?_eq_none_iff]
  cases (Json.objectsIn raw).findSome? verdict? with
  | none => simp
  | some r => cases r <;> simp [Except.map]

theorem inText_eq_map {r : Except Fault Intent} : Intent.inText raw = r.map some ↔
    ∃ before x after, Json.objectsIn raw = before ++ x :: after ∧ (∀ y ∈ before, Refused y) ∧
      verdict? x = some r := by
  have hfound : Intent.inText raw = r.map some ↔
      (Json.objectsIn raw).findSome? verdict? = some r := by
    rw [inText, among_eq]
    cases (Json.objectsIn raw).findSome? verdict? with
    | none => cases r <;> simp [Except.map]
    | some r' => cases r <;> cases r' <;> simp [Except.map]
  rw [hfound, List.findSome?_eq_some_iff]
  simp only [← verdict?_eq_none]
  constructor
  · rintro ⟨before, x, after, hl, hx, hbefore⟩
    exact ⟨before, x, after, hl, hbefore, hx⟩
  · rintro ⟨before, x, after, hl, hbefore, hx⟩
    exact ⟨before, x, after, hl, hx, hbefore⟩

theorem inText_eq_some : Intent.inText raw = .ok (some i) ↔
    ∃ before fields after, Json.objectsIn raw = before ++ .ok fields :: after ∧
      (∀ y ∈ before, Refused y) ∧ Intent.read (.obj fields) = .ok i := by
  change Intent.inText raw = (Except.ok i : Except Fault Intent).map some ↔ _
  rw [inText_eq_map]
  constructor
  · rintro ⟨before, x, after, hl, hbefore, hx⟩
    obtain ⟨fields, rfl, hread⟩ := verdict?_eq_ok.mp hx
    exact ⟨before, fields, after, hl, hbefore, hread⟩
  · rintro ⟨before, fields, after, hl, hbefore, hread⟩
    exact ⟨before, .ok fields, after, hl, hbefore, verdict?_eq_ok.mpr ⟨fields, rfl, hread⟩⟩

theorem inText_eq_error : Intent.inText raw = .error f ↔
    ∃ before x after, Json.objectsIn raw = before ++ x :: after ∧
      (∀ y ∈ before, Refused y) ∧ Spoilt x f := by
  change Intent.inText raw = (Except.error f : Except Fault Intent).map some ↔ _
  rw [inText_eq_map]
  refine exists_congr fun before => exists_congr fun x => exists_congr fun after => ?_
  refine and_congr_right fun hl => and_congr_right fun _ => verdict?_eq_error ?_
  rintro g rfl
  have hmem : .error g ∈ Json.objectsIn raw := by
    rw [hl]
    exact List.mem_append_right _ List.mem_cons_self
  exact tooDeep_of_mem_objectsAmong hmem

end Intent

end NetSketch
