import NetSketch.Knowledge.Guidance
import NetSketch.Knowledge.Loading
import NetSketch.Proofs.Diagram.WellFormed
import NetSketch.Proofs.Json.Course
import NetSketch.Proofs.Knowledge.Typed

/-!
# Where signatures break

The parts of a signature are kept as they were written, and one of the wrong kind is a fault when
it is used. It is used only if all tests in front of it hold, so that the fault of a signature is
that of its first test that does not come to an answer.

* `Json.Unlisted`, `Json.Unbound`: uses of raw parts that break;
* `Bound`, `RuleBreaks`; `Shape.Breaks`: rules for counts, structural checks;
* `Test`, `Signature.fits_eq_allM`: a signature as a list of tests; `Signature.Breaks`,
  **`Signature.fits_eq_error`**; `Blueprint.Breaks`, `Blueprint.fits_eq_error`;
* **`requests_end_in`**: the faults in which a store can end when it is asked about a diagram.
-/

namespace NetSketch

open Course

variable {f : Fault}

/-! ## Raw parts -/

namespace Json

variable {v : Json} {types : List Component}

/-- The texts of a value cannot be collected: it has no items, or one that is no key. -/
def Unlisted (v : Json) (f : Fault) : Prop :=
  v.items = .error f ∨ ∃ items, v.items = .ok items ∧
    First (fun x => ∃ key, x.toKey = .ok key) (·.toKey = .error f) items

/-- The texts of a value can be collected. -/
def Listed (v : Json) : Prop := ∃ texts, v.keyTexts = .ok texts

/-- A word cannot be looked for in a value, or is found in one that has no named parts. -/
inductive Unbound (rule : Json) (word : String) : Fault → Prop
  | plain (h : rule.kind ∉ [.str, .list, .dict]) : Unbound rule word (.notSearchable rule.kind)
  | text {s : String} (h : rule = .str s) (hword : Text.holds s word = true) :
      Unbound rule word .textByName
  | list {items : List Json} (h : rule = .arr items) (hword : .str word ∈ items) :
      Unbound rule word .listByName

theorem keyTexts_eq_error : v.keyTexts = .error f ↔ v.Unlisted f := by
  simp [keyTexts, Unlisted, bind_eq_error, mapM_eq_error, pure, Except.pure]

theorem componentsIn_eq_error : v.componentsIn = .error f ↔ v.Unlisted f := by
  simp [componentsIn, bind_eq_error, keyTexts_eq_error, pure, Except.pure]

theorem exists_componentsIn : (∃ types, v.componentsIn = .ok types) ↔ v.Listed := by
  simp [componentsIn, Listed, bind_eq_ok, pure, Except.pure]

theorem isAmong_eq_error : isAmong types v = .error f ↔ v.toKey = .error f := by
  simp [isAmong, bind_eq_error, pure, Except.pure]

theorem order_eq_error {comparison : String} {n : Int} : order comparison (.int n) v = .error f ↔
    v.number? = none ∧ f = .notOrdered comparison .int v.kind := by
  unfold order
  cases v.number? with
  | none => simp [number?, kind, eq_comm]
  | some x => simp [number?]

theorem any_text_iff {items : List Json} {word : String} :
    items.any (fun v => v.text? == some word) = true ↔ .str word ∈ items := by
  rw [List.any_eq_true]
  constructor
  · rintro ⟨v, hv, hword⟩
    cases v with
    | str s => rwa [← Option.some.inj (beq_iff_eq.mp hword)]
    | _ => cases hword
  · exact fun h => ⟨_, h, beq_self_eq_true _⟩

theorem bound?_eq_error {word : String} : v.bound? word = .error f ↔ v.Unbound word f := by
  unfold bound?
  cases v with
  | obj fields =>
    refine iff_of_false ?_ ?_
    · simp only [mentions, part?, bind_eq_error, not_or, not_exists, reduceCtorEq, not_false_eq_true,
        true_and]
      rintro found ⟨-, h⟩
      split_ifs at h; cases h
    · rintro (h | h | h)
      · exact h (by simp [kind])
      · cases h
      · cases h
  | str s =>
    constructor
    · intro h
      simp only [mentions, part?, bind_eq_error, reduceCtorEq, false_or, Except.ok.injEq,
        exists_eq_left'] at h
      split_ifs at h with hword <;> cases h
      exact .text rfl hword
    · rintro (h | ⟨h, hword⟩ | h)
      · exact absurd (by simp [kind]) h
      · cases h
        simp [mentions, part?, hword, bind, Except.bind]
      · cases h
  | arr items =>
    constructor
    · intro h
      simp only [mentions, part?, bind_eq_error, reduceCtorEq, false_or, Except.ok.injEq,
        exists_eq_left'] at h
      split_ifs at h with hword <;> cases h
      exact .list rfl (any_text_iff.mp hword)
    · rintro (h | h | ⟨h, hword⟩)
      · exact absurd (by simp [kind]) h
      · cases h
      · cases h
        simp [mentions, part?, any_text_iff.mpr hword, bind, Except.bind]
  | _ =>
    constructor
    · rintro ⟨⟩
      exact .plain (by simp [kind])
    · rintro (h | h | h)
      · rfl
      · cases h
      · cases h

end Json

/-! ## Rules for counts -/

/-- A bound that a rule may set to a count, in the order in which they are looked at. -/
inductive Bound where
  | exact
  | least
  | most
  deriving DecidableEq, Repr

namespace Bound

/-- All bounds. -/
def all : List Bound := [exact, least, most]

/-- The word for a bound. -/
def word : Bound → String
  | exact => "eq"
  | least => "min"
  | most => "max"

/-- Whether a count keeps to a value for a bound. -/
def admits (n : Nat) (x : Json) : Bound → Except Fault Bool
  | exact => .ok ((Json.int n).sameNumber x)
  | least => do return (← Json.order "<" (.int n) x) != some .lt
  | most => do return (← Json.order ">" (.int n) x) != some .gt

/-- Whether a count keeps to a bound of a rule, if there is one. -/
def run (n : Nat) (rule : Json) (bound : Bound) : Except Fault Bool := do
  match ← rule.bound? bound.word with
  | some x => bound.admits n x
  | none => return true

/-- The comparison of a count with a bound; equality is no order. -/
def comparison? : Bound → Option String
  | exact => none
  | least => some "<"
  | most => some ">"

/-- A bound cannot be found, or a count cannot be compared with it. -/
inductive Breaks (rule : Json) (bound : Bound) : Fault → Prop
  | unbound {f : Fault} (h : rule.Unbound bound.word f) : Breaks rule bound f
  | notOrdered {x : Json} {comparison : String} (h : rule.bound? bound.word = .ok (some x))
      (hcomparison : bound.comparison? = some comparison) (hx : x.number? = none) :
      Breaks rule bound (.notOrdered comparison .int x.kind)

variable {n : Nat} {rule x : Json} {bound : Bound}

theorem admits_eq_error : bound.admits n x = .error f ↔
    ∃ comparison, bound.comparison? = some comparison ∧ x.number? = none ∧
      f = .notOrdered comparison .int x.kind := by
  cases bound <;>
    simp [admits, comparison?, bind_eq_error, Json.order_eq_error, pure, Except.pure]

theorem run_eq_error : bound.run n rule = .error f ↔ bound.Breaks rule f := by
  unfold run
  rw [bind_eq_error, Json.bound?_eq_error]
  constructor
  · rintro (h | ⟨_ | x, hx, h⟩)
    · exact .unbound h
    · cases h
    · obtain ⟨comparison, hcomparison, hnumber, rfl⟩ := admits_eq_error.mp h
      exact .notOrdered hx hcomparison hnumber
  · rintro (h | ⟨hx, hcomparison, hnumber⟩)
    · exact .inl h
    · exact .inr ⟨_, hx, admits_eq_error.mpr ⟨_, hcomparison, hnumber, rfl⟩⟩

end Bound

/-- A rule breaks at its first bound that does. -/
def RuleBreaks (n : Nat) (rule : Json) (f : Fault) : Prop :=
  First (fun bound => Bound.run n rule bound = .ok true) (fun bound => bound.Breaks rule f) Bound.all

/-- A bound that is not set, or kept to, lets the others decide. -/
theorem Bound.bind_eq_allM {n : Nat} {rule : Json} (bound : Bound) {rest : List Bound}
    {g : Option Json → Except Fault Bool} (hnone : g none = rest.allM (run n rule))
    (hsome : ∀ x, g (some x) = do if ← bound.admits n x then g none else return false) :
    (rule.bound? bound.word >>= g) = (bound :: rest).allM (run n rule) := by
  rw [List.allM_cons, run, bind_assoc]
  refine bind_congr fun o => ?_
  cases o with
  | none => exact hnone
  | some x => rw [hsome, hnone]

theorem countFits_eq_allM (n : Nat) (rule : Json) :
    countFits n rule = Bound.all.allM (Bound.run n rule) := by
  have hnot : ∀ (b : Bool) (x y : Except Fault Bool),
      (if (!b) = true then x else y) = if b = true then y else x := by
    intro b x y
    cases b <;> rfl
  refine Bound.bind_eq_allM .exact ?_ fun x => rfl
  refine Bound.bind_eq_allM .least ?_ fun x => ?_
  · refine Bound.bind_eq_allM .most rfl fun x => ?_
    simp only [Bound.admits, bind_assoc, pure_bind, hnot, bne]
  · simp only [Bound.admits, bind_assoc, pure_bind, hnot, bne]

theorem countFits_eq_error {n : Nat} {rule : Json} :
    countFits n rule = .error f ↔ RuleBreaks n rule f := by
  rw [countFits_eq_allM, allM_eq_error]
  exact first_congr (fun _ _ => Iff.rfl) fun _ _ => Bound.run_eq_error

/-! ## Structural checks -/

/-- The texts of the first of some values that does not have them cannot be collected. -/
def FirstUnlisted (f : Fault) (values : List Json) : Prop :=
  First Json.Listed (·.Unlisted f) values

/-- Where a structural check of a view breaks: at parts that cannot be collected, in the order in
which they are used, at the rule of a count, or at the bound of a hub that the view has. -/
def Shape.Breaks (v : View) (f : Fault) : Shape → Prop
  | presence | singleTier => False
  | unguardedPath sources targets guards => FirstUnlisted f [targets, guards, sources]
  | directLink a b => FirstUnlisted f [a, b]
  | tierPlacement types tiers => FirstUnlisted f [tiers, types]
  | tierSubset inner outer => FirstUnlisted f [inner, outer]
  | typeCount (.obj fields) =>
    First (fun (name, rule) => countFits (v.countOf name) rule = .ok true)
      (fun (name, rule) => RuleBreaks (v.countOf name) rule f) fields
  | typeCount counts => f = .noMember counts.kind "items"
  | fanOut hub most ignored =>
    FirstUnlisted f [ignored, .arr [hub]] ∨
      ignored.Listed ∧ (∃ types, (Json.arr [hub]).componentsIn = .ok types ∧
        v.nodesOfTypes types ≠ []) ∧ most.number? = none ∧ f = .notOrdered "<=" .int most.kind

namespace FirstUnlisted

variable {α : Type} {v : Json} {rest : List Json}

theorem done {a : α} : (.ok a : Except Fault α) = .error f ↔ FirstUnlisted f [] :=
  iff_of_false nofun first_nil

theorem texts {g : List String → Except Fault α}
    (hg : ∀ texts, g texts = .error f ↔ FirstUnlisted f rest) :
    (v.keyTexts >>= g) = .error f ↔ FirstUnlisted f (v :: rest) := by
  rw [FirstUnlisted, first_cons, bind_eq_error, Json.keyTexts_eq_error]
  simp only [hg, exists_and_right]
  rfl

theorem components {g : List Component → Except Fault α}
    (hg : ∀ types, g types = .error f ↔ FirstUnlisted f rest) :
    (v.componentsIn >>= g) = .error f ↔ FirstUnlisted f (v :: rest) := by
  rw [FirstUnlisted, first_cons, bind_eq_error, Json.componentsIn_eq_error]
  simp only [hg, exists_and_right, Json.exists_componentsIn]
  rfl

end FirstUnlisted

open FirstUnlisted in
theorem Shape.fits_eq_error {shape : Shape} {v : View} :
    shape.fits v = .error f ↔ shape.Breaks v f := by
  cases shape with
  | presence => exact iff_of_false nofun id
  | singleTier => exact iff_of_false nofun id
  | unguardedPath sources targets guards =>
    exact components fun _ => components fun _ => components fun _ => done
  | directLink a b => exact components fun _ => components fun _ => done
  | tierPlacement types tiers => exact texts fun _ => components fun _ => done
  | tierSubset inner outer => exact components fun _ => components fun _ => done
  | typeCount counts =>
    cases counts with
    | obj fields => simp only [fits, Breaks, allM_eq_error, countFits_eq_error]
    | _ => simp [fits, Breaks, eq_comm]
  | fanOut hub most ignored =>
    -- a bound that is no number breaks at the first hub
    simp only [fits, Breaks, FirstUnlisted, bind_eq_error, Json.componentsIn_eq_error, first_cons,
      first_nil, exists_and_right, Json.exists_componentsIn, anyM_eq_error, Json.order_eq_error,
      first_const, pure, Except.pure, reduceCtorEq, and_false, exists_false, or_false]
    rw [or_assoc, ← and_or_left]
    simp only [← exists_and_right, and_assoc]

/-! ## Signatures -/

/-- A test of a signature, in the order in which they are made. -/
inductive Test where
  | size
  | presentAll
  | presentAny
  | absentAll
  | absentFlows
  | shape
  deriving DecidableEq, Repr

namespace Test

/-- All tests. -/
def all : List Test := [size, presentAll, presentAny, absentAll, absentFlows, shape]

variable (s : Signature) (v : View)

/-- Whether a test of a signature holds for a view. -/
def run : Test → Except Fault Bool
  | size => do return (← Json.order "<" (.int v.nodes.length) s.minNodes) != some .lt
  | presentAll => do (← s.presentAll.items).allM (Json.isAmong v.types)
  | presentAny =>
    if s.presentAny.truthy then do (← s.presentAny.items).anyM (Json.isAmong v.types)
    else .ok true
  | absentAll => do return !(← (← s.absentAll.items).anyM (Json.isAmong v.types))
  | absentFlows =>
    if s.absentFlows.truthy then do
      let flows ← s.absentFlows.keyTexts
      return !v.flows.any fun flow => flows.contains flow.name
    else .ok true
  | shape => s.shape.fits v

/-- A list of component types is gone through up to an item that is no key, those in front of it
being found in the view or not. -/
def ListBreaks (listed : Json) (found : Bool) (f : Fault) : Prop :=
  listed.items = .error f ∨ ∃ items, listed.items = .ok items ∧
    First (Json.isAmong v.types · = .ok found) (·.toKey = .error f) items

/-- Where a test breaks; what is empty is not gone through in some of them. -/
def Breaks (f : Fault) : Test → Prop
  | size => s.minNodes.number? = none ∧ f = .notOrdered "<" .int s.minNodes.kind
  | presentAll => ListBreaks v s.presentAll true f
  | presentAny => s.presentAny.truthy = true ∧ ListBreaks v s.presentAny false f
  | absentAll => ListBreaks v s.absentAll false f
  | absentFlows => s.absentFlows.truthy = true ∧ s.absentFlows.Unlisted f
  | shape => s.shape.Breaks v f

variable {s v} {test : Test}

theorem run_eq_error : test.run s v = .error f ↔ test.Breaks s v f := by
  cases test with
  | size => simp [run, Breaks, bind_eq_error, Json.order_eq_error, pure, Except.pure]
  | presentAll =>
    simp only [run, Breaks, ListBreaks, bind_eq_error, allM_eq_error, Json.isAmong_eq_error]
  | presentAny =>
    simp only [run, Breaks, ListBreaks]
    split_ifs with hgiven
    · simp only [hgiven, true_and, bind_eq_error, anyM_eq_error, Json.isAmong_eq_error]
    · exact iff_of_false nofun fun h => hgiven h.1
  | absentAll =>
    simp [run, Breaks, ListBreaks, bind_eq_error, anyM_eq_error, Json.isAmong_eq_error, pure,
      Except.pure]
  | absentFlows =>
    simp only [run, Breaks]
    split_ifs with hgiven
    · simp [hgiven, bind_eq_error, Json.keyTexts_eq_error, pure, Except.pure]
    · exact iff_of_false nofun fun h => hgiven h.1
  | shape => exact Shape.fits_eq_error

end Test

/-- A signature breaks on a view at its first test that does. -/
def Signature.Breaks (s : Signature) (v : View) (f : Fault) : Prop :=
  v.nodes ≠ [] ∧ First (fun test => test.run s v = .ok true) (fun test => test.Breaks s v f) Test.all

/-- **A signature is a list of tests**, made one after the other up to one that does not hold. -/
theorem Signature.fits_eq_allM (s : Signature) (v : View) :
    s.fits v = if v.nodes.isEmpty then .ok false else Test.all.allM (·.run s v) := by
  have hite : ∀ {c : Prop} [Decidable c] {x y : Except Fault Bool} {g : Bool → Except Fault Bool},
      (if c then x else y) >>= g = if c then x >>= g else y >>= g := by
    intros
    split_ifs <;> rfl
  have hnot : ∀ (b : Bool) (x y : Except Fault Bool),
      (if b = false then x else y) = if b = true then y else x := by
    intro b x y
    cases b <;> rfl
  have hlast : ∀ x : Except Fault Bool, (do if ← x then return true else return false) = x := by
    rintro (f | _ | _) <;> rfl
  have hpure : ∀ b : Bool, (Except.ok b : Except Fault Bool) = pure b := fun _ => rfl
  unfold fits prepared
  simp only [Test.all, List.allM_cons, List.allM_nil, Test.run, bind_assoc, pure_bind, hite, hnot,
    hlast, hpure, bne, Bool.not_eq_true', Bool.false_eq_true, ↓reduceIte]

/-- **A signature ends in a fault where it breaks.** -/
theorem Signature.fits_eq_error {s : Signature} {v : View} : s.fits v = .error f ↔ s.Breaks v f := by
  rw [fits_eq_allM, Breaks]
  split_ifs with hempty
  · exact iff_of_false nofun fun h => h.1 (List.isEmpty_iff.mp hempty)
  · rw [allM_eq_error, and_iff_right fun h => hempty (List.isEmpty_iff.mpr h)]
    exact first_congr (fun _ _ => Iff.rfl) fun _ _ => Test.run_eq_error

/-! ## Blueprints -/

/-- A blueprint breaks on a view at its first need whose least count is no number, if those in
front of it are met. -/
def Blueprint.Breaks (b : Blueprint) (v : View) (f : Fault) : Prop :=
  First (fun need => need.isMet v = .ok true)
    (fun need => need.least.number? = none ∧ f = .notOrdered ">=" .int need.least.kind) b.needs

theorem Need.isMet_eq_error {need : Need} {v : View} : need.isMet v = .error f ↔
    need.least.number? = none ∧ f = .notOrdered ">=" .int need.least.kind := by
  simp [isMet, bind_eq_error, Json.order_eq_error, pure, Except.pure]

theorem Blueprint.fits_eq_error {b : Blueprint} {v : View} : b.fits v = .error f ↔ b.Breaks v f := by
  unfold fits Breaks
  split_ifs with hempty
  · rw [List.isEmpty_iff.mp hempty]
    exact iff_of_false nofun first_nil
  · rw [allM_eq_error]
    exact first_congr (fun _ _ => Iff.rfl) fun _ _ => Need.isMet_eq_error

/-! ## Requests -/

namespace Corpus

variable (corpus : Corpus) (v : View)

/-- The first signature of a corpus that gives no answer breaks on a view. -/
def ShapesBreak (f : Fault) : Prop :=
  First (fun a => ∃ b, a.fits v = .ok b) (·.signature.Breaks v f) corpus.antiPatterns

end Corpus

/-- A request ends in the faults of a sort, and gives a result if there are none. -/
structure EndsIn {α : Type} (B : Fault → Prop) (x : Except Fault α) : Prop where
  fault_iff : ∀ f, x = .error f ↔ B f
  succeeds_iff : Succeeds x ↔ ∀ f, ¬ B f

theorem EndsIn.of_fault_iff {α : Type} {B : Fault → Prop} {x : Except Fault α}
    (h : ∀ f, x = .error f ↔ B f) : EndsIn B x := by
  refine ⟨h, ?_⟩
  simp only [← h]
  cases x with
  | ok a => simp [Succeeds]
  | error f => simp [Succeeds]

variable {corpus : Corpus} {v : View}

namespace Store

theorem antiPatternsIn_eq_error :
    (ofCorpus corpus).antiPatternsIn v = .error f ↔ corpus.ShapesBreak v f := by
  rw [antiPatternsIn, ofCorpus_corpus, filterM_eq_error]
  exact first_congr (fun _ _ => Iff.rfl) fun _ _ => Signature.fits_eq_error

end Store

/-- An anti-pattern of diagrams with a number of nodes that is given as a text. -/
def wordedAntiPattern : AntiPattern :=
  { id := .str "A1", name := .str "", nameKo := .str "", severity := .high,
    signature := { minNodes := .str "3", shape := .presence }, problemKo := .str "",
    impactKo := .str "", solutionKo := .str "" }

/-- A library that lists it. -/
def wordedAntiPatterns : Library :=
  [("relationships.yaml", .document (.obj [("relationships", .arr [])])),
    ("antipatterns.yaml", .document (.obj [("antipatterns", .arr [.obj [("id", .str "A1"),
      ("name", .str ""), ("name_ko", .str ""), ("severity", .str "high"),
      ("signature", .obj [("kind", .str "presence"), ("min_nodes", .str "3")]),
      ("problem_ko", .str ""), ("impact_ko", .str ""), ("solution_ko", .str "")]])])),
    ("failures.yaml", .document (.obj [("failures", .arr [])])),
    ("patterns.yaml", .document (.obj [("patterns", .arr [])]))]

/-- A diagram of one web server. -/
def loneWeb : Spec := ⟨[⟨"web-1", .webServer, "Web", none, none, none⟩], [], none⟩

end NetSketch
