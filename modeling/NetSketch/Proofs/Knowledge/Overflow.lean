import NetSketch.Knowledge.Loading
import NetSketch.Proofs.Json.Course

/-!
# Numbers that overflow

Most faults in the parts of an entry are mended into a refusal; those of the overflow family are
not. Of all parts of an entry only the confidence of a relationship and the complexity of a
blueprint can come to one.

* `TooLarge`: the numbers of an entry that are too large for what they are turned into;
* `OverflowsOnly`: the overflow faults in which reading a part can end, part by part;
* **`OverflowsOnly.relationship`**, `OverflowsOnly.antiPattern`, `OverflowsOnly.failure`,
  **`OverflowsOnly.blueprint`**.
-/

namespace NetSketch

open Course Entry Number

variable {α β : Type}

/-! ## Numbers that are too large -/

/-- A number of an entry that is too large for what it is turned into. -/
inductive TooLarge (fields : Fields) : Fault → Prop
  | confidence {i : Int} (h : Fields.get? fields "confidence" = some (.int i))
      (hi : Binary64.ofInt? i = none) : TooLarge fields .tooLargeForFloat
  | complexity {negative : Bool}
      (h : Fields.get? fields "complexity" = some (.float (.infinity negative))) :
      TooLarge fields .infinityToInt

theorem TooLarge.family {fields : Fields} {f : Fault} (h : TooLarge fields f) :
    f.family = .overflow := by
  cases h <;> rfl

/-- A part of an entry overflows in faults of some sort only. -/
def OverflowsOnly (p : Fault → Prop) (x : Entry α) : Prop :=
  ∀ f, x = .error (.fault f) → f.family = .overflow → p f

namespace OverflowsOnly

variable {p : Fault → Prop} {fields : Fields} {v w : Json}

theorem ok {a : α} : OverflowsOnly p (.ok a) := nofun

theorem refused {flaw : Flaw} (h : ∀ f, flaw ≠ .fault f) :
    OverflowsOnly p (.error flaw : Entry α) :=
  fun f hf _ => absurd (Except.error.inj hf) (h f)

theorem bind {x : Entry α} {g : α → Entry β} (hx : OverflowsOnly p x)
    (hg : ∀ a, OverflowsOnly p (g a)) : OverflowsOnly p (x >>= g) := by
  intro f hf hfamily
  rcases bind_eq_error.mp hf with hf | ⟨a, -, hf⟩
  · exact hx f hf hfamily
  · exact hg a f hf hfamily

theorem ofFault {x : Except Fault α} (h : ∀ f, x = .error f → f.family = .overflow → p f) :
    OverflowsOnly p (Entry.ofFault x) := by
  cases x with
  | ok a => exact ok
  | error f =>
    rintro _ ⟨⟩
    exact h f rfl

theorem mapM {g : α → Entry β} {l : List α} (h : ∀ a, OverflowsOnly p (g a)) :
    OverflowsOnly p (l.mapM g) := by
  intro f hf
  obtain ⟨-, a, -, -, -, ha⟩ := mapM_eq_error.mp hf
  exact h a f ha

theorem field {name : String} : OverflowsOnly p (Entry.field fields name) := by
  unfold Entry.field
  cases Fields.get? fields name with
  | some v => exact ok
  | none => exact refused nofun

theorem term {what : String} {all : List α} {name : α → String} :
    OverflowsOnly p (Entry.term what all name v) := by
  unfold Entry.term
  cases v.text?.bind (named? all name) with
  | some a => exact ok
  | none => exact refused nofun

theorem toKey : OverflowsOnly p (Entry.ofFault v.toKey) := by
  refine ofFault fun f hf hfamily => ?_
  unfold Json.toKey at hf
  cases hkey : v.key? with
  | some key => rw [hkey] at hf; cases hf
  | none => rw [hkey] at hf; cases hf; cases hfamily

theorem items : OverflowsOnly p (Entry.ofFault v.items) := by
  refine ofFault fun f hf hfamily => ?_
  cases v <;> cases hf <;> cases hfamily

theorem itemsOf {name : String} : OverflowsOnly p (Entry.itemsOf fields name) := items

theorem part? {name : String} : OverflowsOnly p (Entry.ofFault (v.part? name)) := by
  refine ofFault fun f hf hfamily => ?_
  cases v <;> cases hf <;> cases hfamily

theorem component : OverflowsOnly p (Entry.component v w) := by
  refine toKey.bind fun _ => ?_
  cases w.text?.bind Component.ofName? with
  | some c => exact ok
  | none => exact refused nofun

theorem citation : OverflowsOnly p (Citation.read v) := by
  have hstranger : ∀ {fields : Fields} {flaw : Flaw}, Citation.stranger? fields = some flaw →
      ∀ f, flaw ≠ .fault f := by
    intro fields flaw h f
    induction fields with
    | nil => cases h
    | cons field rest ih =>
      rw [Citation.stranger?] at h
      split at h
      · cases h; nofun
      · split at h
        · exact ih h
        · cases h; nofun
  unfold Citation.read
  split
  · split
    · exact refused (hstranger ‹_›)
    · split
      · exact ok
      · exact refused nofun
  · exact refused nofun

theorem signatureParts : OverflowsOnly p (NetSketch.signatureParts v) := by
  have hpair : ∀ (index : Nat) (v : Json), OverflowsOnly p (partPair index v) := by
    intro index v
    unfold partPair
    split
    · exact toKey.bind fun _ => ok
    · exact refused nofun
    · exact refused nofun
  have hpairs : ∀ (l : List Json) (done : Fields) (index : Nat),
      OverflowsOnly p (partPairs done index l) := by
    intro l
    induction l with
    | nil => exact fun _ _ => ok
    | cons v l ih => exact fun _ _ => (hpair _ v).bind fun _ => ih _ _
  unfold NetSketch.signatureParts
  split
  · exact ok
  · exact items.bind fun _ => hpairs _ _ _

theorem signature : OverflowsOnly p (Signature.read v) := by
  refine signatureParts.bind fun parts => field.bind fun kind => toKey.bind fun _ => ?_
  dsimp only
  split
  · split
    · exact ok
    · exact refused nofun
  · exact refused nofun

theorem need : OverflowsOnly p (Need.read v w) := by
  refine part?.bind fun type => ?_
  cases type with
  | none => exact refused nofun
  | some type => exact component.bind fun _ => part?.bind fun _ => ok

/-! ### Entries -/

/-- A confidence is the only number of a relationship that may be too large. -/
theorem relationship : OverflowsOnly (TooLarge fields) (Relationship.read fields) := by
  have hconfidence : OverflowsOnly (TooLarge fields)
      (Entry.ofFault (fieldOr fields "confidence" (.float (.ofDecimal false 8 (-1)))).toFloat) := by
    refine ofFault fun f hf hfamily => ?_
    unfold fieldOr at hf
    cases hfield : Fields.get? fields "confidence" with
    | none => rw [hfield] at hf; cases hf
    | some v =>
      rw [hfield, Option.getD_some] at hf
      cases v with
      | int i =>
        rw [Json.toFloat] at hf
        cases hi : Binary64.ofInt? i with
        | some x => rw [hi] at hf; cases hf
        | none => rw [hi] at hf; cases hf; exact .confidence hfield hi
      | str s =>
        rw [Json.toFloat] at hf
        split at hf <;> cases hf
        cases hfamily
      | _ => cases hf <;> cases hfamily
  exact field.bind fun _ => field.bind fun _ => component.bind fun _ => field.bind fun _ =>
    component.bind fun _ => field.bind fun _ => term.bind fun _ => field.bind fun _ =>
    term.bind fun _ => term.bind fun _ => field.bind fun _ => field.bind fun _ =>
    hconfidence.bind fun _ => itemsOf.bind fun _ => itemsOf.bind fun _ =>
    (mapM fun _ => citation).bind fun _ => ok

theorem antiPattern : OverflowsOnly p (AntiPattern.read fields) :=
  field.bind fun _ => signature.bind fun _ => field.bind fun _ => field.bind fun _ =>
    field.bind fun _ => field.bind fun _ => term.bind fun _ => field.bind fun _ =>
    field.bind fun _ => field.bind fun _ => ok

theorem failure : OverflowsOnly p (Failure.read fields) :=
  field.bind fun _ => field.bind fun _ => component.bind fun _ => field.bind fun _ =>
    field.bind fun _ => field.bind fun _ => field.bind fun _ => term.bind fun _ =>
    itemsOf.bind fun _ => itemsOf.bind fun _ => itemsOf.bind fun _ => ok

/-- A complexity is the only number of a blueprint that may be too large. -/
theorem blueprint : OverflowsOnly (TooLarge fields) (Blueprint.read fields) := by
  have hcomplexity : OverflowsOnly (TooLarge fields)
      (Entry.ofFault (fieldOr fields "complexity" (.int 1)).toInt) := by
    refine ofFault fun f hf hfamily => ?_
    unfold fieldOr at hf
    cases hfield : Fields.get? fields "complexity" with
    | none => rw [hfield] at hf; cases hf
    | some v =>
      rw [hfield, Option.getD_some] at hf
      cases v with
      | float x =>
        cases x with
        | infinity negative => cases hf; exact .complexity hfield
        | _ => cases hf <;> cases hfamily
      | str s =>
        rw [Json.toInt] at hf
        split at hf
        · cases hf; cases hfamily
        · split at hf <;> cases hf
          cases hfamily
      | _ => cases hf <;> cases hfamily
  exact field.bind fun _ => field.bind fun _ => field.bind fun _ => itemsOf.bind fun _ =>
    (mapM fun _ => need).bind fun _ => itemsOf.bind fun _ => hcomplexity.bind fun _ =>
    itemsOf.bind fun _ => itemsOf.bind fun _ => itemsOf.bind fun _ => ok

end OverflowsOnly

end NetSketch
