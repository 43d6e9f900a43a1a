import Mathlib.Tactic.SplitIfs
import NetSketch.Knowledge.Advice
import NetSketch.Knowledge.Bundled.Corpus

/-!
# Signatures without faults

The parts of a signature are used as they were written, and one of the wrong kind is a fault.
Signatures whose parts are of the kinds that their uses ask for never give one, whatever diagram
they are held against, and those of the bundled corpus are of this sort.

* `Succeeds`: computations without a fault;
* `Shape.typed`, `Signature.typed`: parts of the right kinds; `Signature.fits_succeeds`;
* **`Store.warnings_succeed`** and `Store.bundled_typed`: the bundled store can be asked about every
  change.
-/

namespace NetSketch

/-! ## Computations without a fault -/

/-- A computation gives a result. -/
def Succeeds {ε α : Type} (x : Except ε α) : Prop := ∃ a, x = .ok a

namespace Succeeds

variable {ε α β : Type} {x : Except ε α}

theorem ok {a : α} : Succeeds (.ok a : Except ε α) := ⟨a, rfl⟩

theorem bind {f : α → Except ε β} (hx : Succeeds x) (hf : ∀ a, Succeeds (f a)) :
    Succeeds (x >>= f) := by
  obtain ⟨a, rfl⟩ := hx
  exact hf a

/-- A computation that goes on with a value of which something is known. -/
theorem bind_of {p : α → Prop} {f : α → Except ε β} (hx : ∃ a, x = .ok a ∧ p a)
    (hf : ∀ a, p a → Succeeds (f a)) : Succeeds (x >>= f) := by
  obtain ⟨a, rfl, ha⟩ := hx
  exact hf a ha

theorem ite {y : Except ε α} {c : Prop} [Decidable c] (hx : c → Succeeds x)
    (hy : ¬c → Succeeds y) : Succeeds (if c then x else y) := by
  by_cases hc : c
  · rw [if_pos hc]
    exact hx hc
  · rw [if_neg hc]
    exact hy hc

theorem mapM {f : α → Except ε β} {l : List α} (h : ∀ a ∈ l, Succeeds (f a)) :
    Succeeds (l.mapM f) := by
  induction l with
  | nil => exact ok
  | cons a l ih =>
    rw [List.mapM_cons]
    exact (h a List.mem_cons_self).bind fun _ =>
      (ih fun b hb => h b (List.mem_cons_of_mem _ hb)).bind fun _ => ok

theorem allM {f : α → Except ε Bool} {l : List α} (h : ∀ a ∈ l, Succeeds (f a)) :
    Succeeds (l.allM f) := by
  induction l with
  | nil => exact ok
  | cons a l ih =>
    rw [List.allM_cons]
    refine (h a List.mem_cons_self).bind fun b => ?_
    cases b with
    | false => exact ok
    | true => exact ih fun b hb => h b (List.mem_cons_of_mem _ hb)

theorem anyM {f : α → Except ε Bool} {l : List α} (h : ∀ a ∈ l, Succeeds (f a)) :
    Succeeds (l.anyM f) := by
  induction l with
  | nil => exact ok
  | cons a l ih =>
    rw [List.anyM_cons]
    refine (h a List.mem_cons_self).bind fun b => ?_
    cases b with
    | false => exact ih fun b hb => h b (List.mem_cons_of_mem _ hb)
    | true => exact ok

theorem filterM {f : α → Except ε Bool} {l : List α} (h : ∀ a ∈ l, Succeeds (f a)) :
    Succeeds (l.filterM f) := by
  have haux : ∀ found, Succeeds (l.filterAuxM f found) := by
    induction l with
    | nil => exact fun _ => ok
    | cons a l ih =>
      intro found
      exact (h a List.mem_cons_self).bind fun _ => ih (fun b hb => h b (List.mem_cons_of_mem _ hb)) _
  exact (haux []).bind fun _ => ok

end Succeeds

/-! ## Parts of the right kinds -/

namespace Json

variable {v : Json}

/-- A list of texts. -/
def isTexts : Json → Bool
  | arr items => items.all (·.text?.isSome)
  | _ => false

/-- Nothing or a list of texts. -/
def isTextsOrNull : Json → Bool
  | null => true
  | v => v.isTexts

/-- A rule for a count: an object of numbers. -/
def isRule : Json → Bool
  | obj fields => fields.all fun (_, v) => v.number?.isSome
  | _ => false

/-- Rules for counts. -/
def isRules : Json → Bool
  | obj fields => fields.all fun (_, v) => v.isRule
  | _ => false

theorem exists_items (h : v.isTexts = true) :
    ∃ items, v.items = .ok items ∧ ∀ i ∈ items, ∃ s, i = .str s := by
  cases v with
  | arr items =>
    refine ⟨items, rfl, fun i hi => ?_⟩
    have := List.all_eq_true.mp h i hi
    cases i with
    | str s => exact ⟨s, rfl⟩
    | _ => cases this
  | _ => cases h

theorem keyTexts_succeeds (h : v.isTexts = true) : Succeeds v.keyTexts := by
  refine .bind_of (exists_items h) fun items htexts => ?_
  refine Succeeds.bind (.mapM fun i hi => ?_) fun _ => .ok
  obtain ⟨s, rfl⟩ := htexts i hi
  exact .ok

theorem componentsIn_succeeds (h : v.isTexts = true) : Succeeds v.componentsIn :=
  (keyTexts_succeeds h).bind fun _ => .ok

theorem isAmong_succeeds (types : List Component) {items : List Json}
    (htexts : ∀ i ∈ items, ∃ s, i = .str s) : ∀ i ∈ items, Succeeds (isAmong types i) := by
  intro i hi
  obtain ⟨s, rfl⟩ := htexts i hi
  exact .ok

theorem order_succeeds (comparison : String) {v w : Json} (hv : v.number?.isSome)
    (hw : w.number?.isSome) : Succeeds (order comparison v w) := by
  obtain ⟨x, hx⟩ := Option.isSome_iff_exists.mp hv
  obtain ⟨y, hy⟩ := Option.isSome_iff_exists.mp hw
  rw [order, hx, hy]
  exact .ok

theorem exists_bound (h : v.isRule = true) (word : String) :
    ∃ o, v.bound? word = .ok o ∧ ∀ x, o = some x → x.number?.isSome := by
  cases v with
  | obj fields =>
    rw [bound?, mentions]
    change ∃ o, (if (Fields.get? fields word).isSome then .ok (Fields.get? fields word)
      else .ok none : Except Fault (Option Json)) = .ok o ∧ _
    split_ifs
    · refine ⟨_, rfl, fun x hx => ?_⟩
      obtain ⟨l₁, l₂, hfields, -⟩ := List.lookup_eq_some_iff.mp hx
      exact List.all_eq_true.mp h (word, x) (by simp [hfields])
    · exact ⟨none, rfl, nofun⟩
  | _ => cases h

end Json

theorem countFits_succeeds (n : Nat) {rule : Json} (h : rule.isRule = true) :
    Succeeds (countFits n rule) := by
  have hn : (Json.int n).number?.isSome := rfl
  refine Succeeds.bind_of (Json.exists_bound h "eq") fun eq _ => ?_
  extract_lets fits afterMin afterEq
  have hfits : Succeeds (fits ()) := .ok
  have hafterMin : Succeeds (afterMin ()) := by
    refine Succeeds.bind_of (Json.exists_bound h "max") fun max hmax => ?_
    cases max with
    | none => exact hfits
    | some x =>
      exact (Json.order_succeeds ">" hn (hmax x rfl)).bind fun _ =>
        .ite (fun _ => .ok) fun _ => hfits
  have hafterEq : Succeeds (afterEq ()) := by
    refine Succeeds.bind_of (Json.exists_bound h "min") fun min hmin => ?_
    cases min with
    | none => exact hafterMin
    | some x =>
      exact (Json.order_succeeds "<" hn (hmin x rfl)).bind fun _ =>
        .ite (fun _ => .ok) fun _ => hafterMin
  cases eq with
  | none => exact hafterEq
  | some x => exact .ite (fun _ => hafterEq) fun _ => .ok

/-! ## Signatures -/

/-- The parts of a structural check are of the kinds that it asks for. -/
def Shape.typed : Shape → Bool
  | presence | singleTier => true
  | unguardedPath sources targets guards => sources.isTexts && targets.isTexts && guards.isTexts
  | directLink a b | tierPlacement a b | tierSubset a b => a.isTexts && b.isTexts
  | typeCount counts => counts.isRules
  | fanOut hub most ignored =>
    hub.text?.isSome && most.number?.isSome && ignored.isTexts

/-- The parts of a signature are of the kinds that their uses ask for. -/
def Signature.typed (s : Signature) : Bool :=
  s.minNodes.number?.isSome && s.presentAll.isTexts && s.presentAny.isTextsOrNull &&
    s.absentAll.isTexts && s.absentFlows.isTextsOrNull && s.shape.typed

theorem Shape.fits_succeeds {shape : Shape} (h : shape.typed = true) (v : View) :
    Succeeds (shape.fits v) := by
  cases shape with
  | presence => exact .ok
  | singleTier => exact .ok
  | unguardedPath sources targets guards =>
    simp only [typed, Bool.and_eq_true] at h
    exact (Json.componentsIn_succeeds h.1.2).bind fun _ =>
      (Json.componentsIn_succeeds h.2).bind fun _ =>
        (Json.componentsIn_succeeds h.1.1).bind fun _ => .ok
  | directLink a b =>
    simp only [typed, Bool.and_eq_true] at h
    exact (Json.componentsIn_succeeds h.1).bind fun _ =>
      (Json.componentsIn_succeeds h.2).bind fun _ => .ok
  | tierPlacement types tiers =>
    simp only [typed, Bool.and_eq_true] at h
    exact (Json.keyTexts_succeeds h.2).bind fun _ =>
      (Json.componentsIn_succeeds h.1).bind fun _ => .ok
  | tierSubset inner outer =>
    simp only [typed, Bool.and_eq_true] at h
    exact (Json.componentsIn_succeeds h.1).bind fun _ =>
      (Json.componentsIn_succeeds h.2).bind fun _ => .ok
  | typeCount counts =>
    cases counts with
    | obj fields =>
      exact .allM fun field hfield => countFits_succeeds _ (List.all_eq_true.mp h field hfield)
    | _ => cases h
  | fanOut hub most ignored =>
    simp only [typed, Bool.and_eq_true] at h
    have hhub : (Json.arr [hub]).isTexts = true := by simpa [Json.isTexts] using h.1.1
    exact (Json.componentsIn_succeeds h.2).bind fun _ =>
      (Json.componentsIn_succeeds hhub).bind fun _ =>
        .anyM fun _ _ => (Json.order_succeeds "<=" rfl h.1.2).bind fun _ => .ok

theorem Signature.prepared_succeeds {s : Signature} (h : s.typed = true) (v : View) :
    Succeeds (s.prepared v) := by
  simp only [typed, Bool.and_eq_true] at h
  obtain ⟨⟨⟨⟨⟨hmin, hall⟩, hany⟩, habsent⟩, hflows⟩, -⟩ := h
  have htexts : ∀ {w : Json}, w.isTextsOrNull = true → w.truthy = true → w.isTexts = true := by
    intro w hw ht
    cases w with
    | null => cases ht
    | _ => exact hw
  have hamong : ∀ {items : List Json}, (∀ i ∈ items, ∃ t, i = .str t) →
      ∀ i ∈ items, Succeeds (Json.isAmong v.types i) := Json.isAmong_succeeds v.types
  refine (Json.order_succeeds "<" rfl hmin).bind fun _ => .ite (fun _ => .ok) fun _ => ?_
  refine .bind_of (Json.exists_items hall) fun _ hitems =>
    (Succeeds.allM (hamong hitems)).bind fun _ => .ite (fun _ => ?_) fun _ => .ok
  extract_lets fits afterAny
  have hfits : Succeeds (fits ()) := .ok
  have hafterAny : Succeeds (afterAny ()) := by
    refine .bind_of (Json.exists_items habsent) fun _ hitems =>
      (Succeeds.anyM (hamong hitems)).bind fun _ => .ite (fun _ => .ok) fun _ => ?_
    exact .ite (fun hgiven => (Json.keyTexts_succeeds (htexts hflows hgiven)).bind fun _ =>
      .ite (fun _ => .ok) fun _ => hfits) fun _ => hfits
  refine .ite (fun hgiven => ?_) fun _ => hafterAny
  exact .bind_of (Json.exists_items (htexts hany hgiven)) fun _ hitems =>
    (Succeeds.anyM (hamong hitems)).bind fun _ => .ite (fun _ => hafterAny) fun _ => .ok

theorem Signature.fits_succeeds {s : Signature} (h : s.typed = true) (v : View) :
    Succeeds (s.fits v) := by
  have hshape : s.shape.typed = true := by simp_all [typed]
  exact .ite (fun _ => .ok) fun _ => (prepared_succeeds h v).bind fun _ =>
    .ite (fun _ => Shape.fits_succeeds hshape v) fun _ => .ok

/-! ## Stores -/

namespace Store

variable {store : Store}

/-- All signatures of a store have parts of the right kinds. -/
def Typed (store : Store) : Prop := ∀ a ∈ store.corpus.antiPatterns, a.signature.typed = true

theorem antiPatternsIn_succeeds (h : store.Typed) (v : View) : Succeeds (store.antiPatternsIn v) :=
  .filterM fun a ha => Signature.fits_succeeds (h a ha) v

/-- **A store of typed signatures can be asked about every change.** -/
theorem warnings_succeed (h : store.Typed) (after : Spec) (changed : List Component)
    (before : Option Spec) : Succeeds (store.warnings after changed before) := by
  refine Succeeds.bind (?_ : Succeeds (store.introduced before after)) fun _ => .ok
  cases before with
  | none =>
    exact Succeeds.bind .ok fun _ => (antiPatternsIn_succeeds h _).bind fun _ => .ok
  | some s =>
    exact (antiPatternsIn_succeeds h _).bind fun _ => (antiPatternsIn_succeeds h _).bind fun _ => .ok

theorem ofCorpus_corpus (corpus : Corpus) : (ofCorpus corpus).corpus = corpus := by
  have hlearn : ∀ (s : Store) (r : Relationship), (s.learn r).corpus = s.corpus := by
    intro s r
    unfold learn
    cases r.relation <;> rfl
  exact List.foldlRecOn (motive := fun s : Store => s.corpus = corpus) _ _ rfl
    fun s hs r _ => (hlearn s r).trans hs

theorem bundled_typed : Store.bundled.Typed := by
  have h : (bundledAntiPatterns.all (·.signature.typed)) = true := by decide +kernel
  intro a ha
  rw [bundled, ofCorpus_corpus] at ha
  exact List.all_eq_true.mp h a ha

end Store

end NetSketch
