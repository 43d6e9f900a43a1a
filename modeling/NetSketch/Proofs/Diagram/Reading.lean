import Mathlib.Data.Option.Basic
import Mathlib.Tactic.SplitIfs
import NetSketch.Diagram.Issue

/-!
# How readings end

A reading ends with a value, with at least one complaint or with a fault. A reading that is put
together out of parts ends as its parts do; one with the first fault among them if there is any.

* `Reading.Ends`: how a reading ends, with a lemma for every combinator and every reader of values;
  `Reading.both_eq_ok`, `Reading.optional_one_eq_ok` and their like: with which values;
* `Fields.get?_put`, `Fields.get?_given`: the fields of documents;
* `Reading.eachOf_written`, `Reading.required_written`, `Reading.optional_written`: what has been
  written is read again.
-/

namespace NetSketch

/-! ## Fields -/

namespace Fields

theorem get?_cons (n : String) (v : Json) (fields : Fields) (name : String) :
    get? ((n, v) :: fields) name = if name = n then some v else get? fields name := by
  rw [get?, List.lookup_cons]
  by_cases h : name = n
  · simp [h]
  · rw [if_neg h, beq_false_of_ne h]
    rfl

theorem get?_put (fields : Fields) (name : String) (v : Json) (n : String) :
    get? (put fields name v) n = if n = name then some v else get? fields n := by
  induction fields with
  | nil => rw [put, get?_cons]
  | cons field fields ih =>
    obtain ⟨m, w⟩ := field
    rw [put, get?_cons]
    by_cases hm : m = name
    · subst hm
      rw [if_pos (beq_self_eq_true m), get?_cons]
      split_ifs <;> rfl
    · rw [if_neg (by simpa using hm), get?_cons, ih]
      by_cases h : n = m
      · rw [if_pos h, if_pos h, if_neg (h ▸ hm)]
      · rw [if_neg h, if_neg h]

theorem get?_given {fields : List (String × Option Json)} (h : (fields.map (·.1)).Nodup)
    (name : String) : get? (given fields) name = (fields.lookup name).join := by
  induction fields with
  | nil => rfl
  | cons field fields ih =>
    obtain ⟨n, v⟩ := field
    obtain ⟨hn, hfields⟩ := List.nodup_cons.mp h
    have hgiven : get? (given ((n, v) :: fields)) name =
        (if name = n then v else none).or (get? (given fields) name) := by
      cases v with
      | none => rw [ite_self]; rfl
      | some w =>
        rw [show given ((n, some w) :: fields) = (n, w) :: given fields from rfl, get?_cons]
        split_ifs <;> rfl
    rw [hgiven, ih hfields, List.lookup_cons]
    by_cases hname : name = n
    · subst hname
      have hnone : fields.lookup name = none := by
        refine List.lookup_eq_none_iff.mpr fun p hp => bne_iff_ne.mpr ?_
        rintro rfl
        exact hn (List.mem_map.mpr ⟨p, hp, rfl⟩)
      simp [hnone]
    · simp [hname, beq_false_of_ne hname]

end Fields

namespace Reading

variable {α β : Type} {a : α} {r : Reading α} {x : Reading β} {step : Step} {fault : Option Fault}
  {fields : Fields} {name : String} {names : List String} {read : Json → Reading α}

/-! ## Fields under several names -/

theorem firstField?_cons : firstField? fields (name :: names) =
    ((fields.get? name).map (name, ·)).or (firstField? fields names) := by
  rw [firstField?, List.findSome?_cons]
  cases fields.get? name <;> rfl

theorem firstField?_singleton : firstField? fields [name] = (fields.get? name).map (name, ·) := by
  rw [firstField?_cons]
  exact Option.or_none

theorem firstField?_singleton_eq_some {n : String} {v : Json} :
    firstField? fields [name] = some (n, v) ↔ name = n ∧ fields.get? name = some v := by
  rw [firstField?_singleton]
  cases fields.get? name <;> simp

/-! ## Values -/

theorem toOption_eq_some : r.toOption = some a ↔ r = .ok a := by
  cases r <;> simp [Except.toOption]

theorem map_eq_ok {f : α → β} {b : β} : r.map f = .ok b ↔ ∃ a, r = .ok a ∧ f a = b := by
  cases r <;> simp [Except.map]

theorem within_eq_ok : within step r = .ok a ↔ r = .ok a := by
  unfold within
  split <;> simp

theorem both_eq_ok {b : β} : both r x = .ok (a, b) ↔ r = .ok a ∧ x = .ok b := by
  constructor
  · intro h
    unfold both at h
    split at h
    case h_1 =>
      obtain ⟨rfl, rfl⟩ := Prod.mk.inj (Except.ok.inj h)
      exact ⟨rfl, rfl⟩
    all_goals cases h
  · rintro ⟨rfl, rfl⟩
    rfl

theorem optional_one_eq_ok {default : α} : optional fields [name] default read = .ok a ↔
    fields.get? name = none ∧ a = default ∨ ∃ v, fields.get? name = some v ∧ read v = .ok a := by
  rw [optional, firstField?_singleton]
  cases fields.get? name with
  | none => simp [eq_comm]
  | some v => simp [within_eq_ok]

/-! ## Ends -/

/-- **How a reading ends**: with a value of which something is known, with at least one complaint or
with a certain fault. The fault is none if the reading ends in one of the first two ways. -/
inductive Ends (p : α → Prop) : Option Fault → Reading α → Prop
  | ok {a : α} (h : p a) : Ends p none (.ok a)
  | issues (i : Issue) (l : List Issue) : Ends p none (.error (.issues (i :: l)))
  | fault (f : Fault) : Ends p (some f) (.error (.fault f))

namespace Ends

variable {p q : α → Prop} {p₂ : β → Prop} {fault₂ : Option Fault}

theorem of_ok (h : Ends p fault (.ok a)) : p a := by
  cases h
  assumption

theorem of_issues {l : List Issue} (h : Ends p fault (.error (.issues l))) : l ≠ [] := by
  rintro rfl
  cases h

theorem of_fault {f : Fault} (h : Ends p fault (.error (.fault f))) : fault = some f := by
  cases h
  rfl

theorem eq_fault {f : Fault} (h : Ends p (some f) r) : r = .error (.fault f) := by
  cases h
  rfl

theorem complain (c : Complaint) : Ends p none (complain c) := .issues _ _

theorem mono (h : Ends p fault r) (hp : ∀ a, p a → q a) : Ends q fault r := by
  cases h with
  | ok h => exact .ok (hp _ h)
  | issues i l => exact .issues i l
  | fault f => exact .fault f

theorem bind {g : α → Reading β} (h : Ends p fault r) (hg : ∀ a, p a → Ends p₂ none (g a)) :
    Ends p₂ fault (r >>= g) := by
  cases h with
  | ok h => exact hg _ h
  | issues i l => exact .issues i l
  | fault f => exact .fault f

theorem map {g : α → β} (h : Ends p fault r) (hg : ∀ a, p a → p₂ (g a)) :
    Ends p₂ fault (r.map g) := by
  cases h with
  | ok h => exact .ok (hg _ h)
  | issues i l => exact .issues i l
  | fault f => exact .fault f

theorem within (h : Ends p fault r) (step : Step) : Ends p fault (within step r) := by
  cases h with
  | ok h => exact .ok h
  | issues i l => exact .issues _ _
  | fault f => exact .fault f

theorem both (h : Ends p fault r) (hx : Ends p₂ fault₂ x) :
    Ends (fun c => p c.1 ∧ p₂ c.2) (fault.or fault₂) (both r x) := by
  cases h with
  | ok h =>
    cases hx with
    | ok hx => exact .ok ⟨h, hx⟩
    | issues i l => exact .issues i l
    | fault f => exact .fault f
  | issues i l =>
    cases hx with
    | ok hx => exact .issues i l
    | issues j m => exact .issues i _
    | fault f => exact .fault f
  | fault f => cases hx <;> exact .fault f

theorem ofBreach {c : Except Breach α} (h : ∀ a, c = .ok a → p a) : Ends p none (ofBreach c) := by
  cases c with
  | ok a => exact .ok (h a rfl)
  | error b => exact complain _

theorem eachFrom {items : List Json} {faultOf : Json → Option Fault}
    (h : ∀ v ∈ items, Ends p (faultOf v) (read v)) (index : Nat) :
    Ends (fun l => ∀ a ∈ l, p a) (items.findSome? faultOf) (eachFrom read index items) := by
  induction items generalizing index with
  | nil => exact .ok (List.forall_mem_nil _)
  | cons v items ih =>
    have hrest := ih (fun w hw => h w (List.mem_cons_of_mem _ hw)) (index + 1)
    have hboth := ((h v List.mem_cons_self).within (.item index)).both hrest
    have hfault : (v :: items).findSome? faultOf = (faultOf v).or (items.findSome? faultOf) := by
      rw [List.findSome?_cons]
      cases faultOf v <;> rfl
    rw [hfault]
    exact hboth.map fun c hc => List.forall_mem_cons.mpr hc

theorem required
    (h : ∀ name v, firstField? fields names = some (name, v) → Ends p none (read v)) :
    Ends p none (required fields names read) := by
  rw [Reading.required]
  split
  · exact (h _ _ (by assumption)).within _
  · exact (complain _).within _

theorem optional {default : α}
    (hnone : firstField? fields names = none → fault = none ∧ p default)
    (h : ∀ name v, firstField? fields names = some (name, v) → Ends p fault (read v)) :
    Ends p fault (optional fields names default read) := by
  rw [Reading.optional]
  split
  · exact (h _ _ (by assumption)).within _
  · obtain ⟨rfl, hdefault⟩ := hnone (by assumption)
    exact .ok hdefault

theorem required_one (h : ∀ v, fields.get? name = some v → Ends p none (read v)) :
    Ends p none (Reading.required fields [name] read) :=
  required fun _ v hv => h v (firstField?_singleton_eq_some.mp hv).2

theorem optional_one {default : α} (hnone : fields.get? name = none → fault = none ∧ p default)
    (h : ∀ v, fields.get? name = some v → Ends p fault (read v)) :
    Ends p fault (Reading.optional fields [name] default read) := by
  refine optional (fun h => hnone ?_) fun _ v hv => h v (firstField?_singleton_eq_some.mp hv).2
  rwa [firstField?_singleton, Option.map_eq_none_iff] at h

/-! ### Readers of values -/

theorem text (v : Json) : Ends (fun s => v = .str s) none (text v) := by
  cases v with
  | str s => exact .ok rfl
  | _ => exact complain _

theorem fieldsOf (model : String) (v : Json) :
    Ends (fun fields => v = .obj fields) none (fieldsOf model v) := by
  cases v with
  | obj fields => exact .ok rfl
  | _ => exact complain _

theorem orNull {v : Json} (h : Ends p none (read v)) :
    Ends (fun _ => True) none (orNull read v) := by
  cases v with
  | null => exact .ok trivial
  | _ => exact h.map fun _ _ => trivial

theorem choice (all : List α) (named : α → String) (v : Json) :
    Ends (fun _ => True) none (choice all named v) := by
  cases v with
  | str s =>
    rw [Reading.choice]
    split
    · exact .ok trivial
    · exact complain _
  | _ => exact complain _

theorem flagNumber (i : Int) : Ends (fun _ => True) none (flagNumber i) := by
  unfold Reading.flagNumber
  split_ifs
  · exact .ok trivial
  · exact .ok trivial
  · exact complain _
  · exact complain _

theorem flag (v : Json) : Ends (fun _ => True) none (flag v) := by
  cases v with
  | bool b => exact .ok trivial
  | int i => exact flagNumber i
  | float x =>
    rw [Reading.flag]
    split
    · exact flagNumber _
    · exact complain _
  | str s =>
    rw [Reading.flag]
    split
    · exact .ok trivial
    · exact complain _
  | _ => exact complain _

/-! ### Fields of which nothing is asked -/

variable {known : Json → α → Prop}

theorem required_any (fields : Fields) (names : List String)
    (h : ∀ v, Ends (known v) none (read v)) :
    Ends (fun _ => True) none (Reading.required fields names read) :=
  required fun _ v _ => (h v).mono fun _ _ => trivial

theorem optional_any (fields : Fields) (names : List String)
    (h : ∀ v, Ends (known v) none (read v)) :
    Ends (fun _ => True) none (Reading.optional fields names none (Reading.orNull read)) :=
  optional (fun _ => ⟨rfl, trivial⟩) fun _ v _ => orNull (h v)

end Ends

/-! ## What has been written -/

theorem within_ok (step : Step) (a : α) : within step (.ok a) = .ok a := rfl

theorem eachFrom_written {write : α → Json} {l : List α} (h : ∀ a ∈ l, read (write a) = .ok a)
    (index : Nat) : eachFrom read index (l.map write) = .ok l := by
  induction l generalizing index with
  | nil => rfl
  | cons a l ih =>
    have hrest := ih (fun b hb => h b (List.mem_cons_of_mem _ hb)) (index + 1)
    rw [List.map_cons, eachFrom, h a List.mem_cons_self, hrest]
    rfl

theorem eachOf_written {write : α → Json} {l : List α} (h : ∀ a ∈ l, read (write a) = .ok a) :
    eachOf read (.arr (l.map write)) = .ok l :=
  eachFrom_written h 0

theorem required_written {v : Json} (h : fields.get? name = some v) (hv : read v = .ok a) :
    required fields [name] read = .ok a := by
  rw [required, firstField?_singleton, h]
  change within _ (read v) = _
  rw [hv, within_ok]

theorem optional_present {default : α} {v : Json} (h : firstField? fields names = some (name, v))
    (hv : read v = .ok a) : optional fields names default read = .ok a := by
  rw [optional, h]
  change within _ (read v) = _
  rw [hv, within_ok]

theorem optional_present_one {default : α} {v : Json} (h : fields.get? name = some v)
    (hv : read v = .ok a) : optional fields [name] default read = .ok a :=
  optional_present (firstField?_singleton_eq_some.mpr ⟨rfl, h⟩) hv

/-- What need not be there is written under a name if there is something to write. -/
theorem optional_written (name : String) (write : α → Json) {o : Option α}
    (h : firstField? fields names = o.map fun a => (name, write a))
    (hread : ∀ a, read (write a) = .ok a) (hnull : ∀ a, write a ≠ .null) :
    optional fields names none (orNull read) = .ok o := by
  cases o with
  | none =>
    rw [optional, h]
    rfl
  | some a =>
    refine optional_present h ?_
    unfold orNull
    split
    · exact absurd (by assumption) (hnull a)
    · rw [hread]
      rfl

theorem optional_written_one (write : α → Json) {o : Option α} (h : fields.get? name = o.map write)
    (hread : ∀ a, read (write a) = .ok a) (hnull : ∀ a, write a ≠ .null) :
    optional fields [name] none (orNull read) = .ok o :=
  optional_written name write (by rw [firstField?_singleton, h, Option.map_map]; rfl) hread hnull

end Reading

end NetSketch
