import NetSketch.Proofs.Assistant.Search
import NetSketch.Proofs.Diagram.RoundTrip

/-!
# Documents of intents

An intent is read leniently, and what is left of it is read strictly: of the components of its
document those are kept that are understood by themselves, in their order, and the document of the
intent is read as the same intent.

* `TextField`: what an optional field with a text says;
* `Wanted.Understood`: what it takes to understand a component;
  `Wanted.Kept`, `Wanted.kept_iff`: the components that are kept;
* `Settled`: a confidence that is not changed any more;
* `Intent.read_eq_ok`, `Intent.read_toJson`: intents in documents and their own documents;
* **`Intent.read_keeps`**: what is kept when an intent is read, at first and again.
-/

namespace NetSketch

open Fields Number Reading Text

variable {fields : Fields} {name : String} {v : Json}

/-! ## Texts in fields -/

/-- What a field that may be missing says: a text, or nothing. -/
inductive TextField (fields : Fields) (name : String) : Option String → Prop
  | missing (h : fields.get? name = none) : TextField fields name none
  | null (h : fields.get? name = some .null) : TextField fields name none
  | text {s : String} (h : fields.get? name = some (.str s)) : TextField fields name (some s)

theorem optional_text_eq_ok {t : Option String} :
    Reading.optional fields [name] none (orNull text) = .ok t ↔ TextField fields name t := by
  rw [optional_one_eq_ok]
  constructor
  · rintro (⟨hnone, rfl⟩ | ⟨v, hv, hread⟩)
    · exact .missing hnone
    · cases v with
      | null =>
        obtain rfl := Except.ok.inj hread
        exact .null hv
      | str s =>
        obtain rfl := Except.ok.inj hread
        exact .text hv
      | _ => cases hread
  · rintro (hnone | hnull | htext)
    · exact .inl ⟨hnone, rfl⟩
    · exact .inr ⟨_, hnull, rfl⟩
    · exact .inr ⟨_, htext, rfl⟩

/-! ## Components -/

theorem looseComponent?_eq_some {s : String} {c : Component} : looseComponent? s = some c ↔
    c.name = replaceChar (replaceChar (lower (trim s)) '_' "-") ' ' "-" :=
  Component.ofName?_eq_some

theorem looseComponent?_name (c : Component) : looseComponent? c.name = some c := by
  cases c <;> rfl

namespace Wanted

variable {w : Wanted} {items : List Json} {kept : List Wanted}

/-- What fields tell of a component: its type by a name in any case, its words joined by hyphens,
low lines or spaces, and perhaps some texts. -/
structure Told (fields : Fields) (w : Wanted) : Prop where
  type : ∃ s, fields.get? "type" = some (.str s) ∧
    w.type.name = replaceChar (replaceChar (lower (trim s)) '_' "-") ' ' "-"
  label : TextField fields "label" w.label
  zone : TextField fields "zone" w.zone
  description : TextField fields "description" w.description

/-- **What it takes to understand a component**: it is an object that tells of one, or a text that
would do so as its type. -/
inductive Understood : Json → Wanted → Prop
  | name {s : String} {w : Wanted} (h : Told [("type", .str s)] w) : Understood (.str s) w
  | object {fields : Fields} {w : Wanted} (h : Told fields w) : Understood (.obj fields) w

/-- A component out of fields. -/
def ofFields? (fields : Fields) : Option Wanted := do
  let type ← ((fields.get? "type").bind Json.text?).bind looseComponent?
  let part (name : String) : Option (Option String) :=
    (Reading.optional fields [name] none (orNull text)).toOption
  return { type, label := ← part "label", zone := ← part "zone",
           description := ← part "description" }

theorem ofFields?_eq_some : ofFields? fields = some w ↔ Told fields w := by
  simp only [ofFields?, Option.bind_eq_bind, Option.pure_def, Option.bind_eq_some_iff,
    toOption_eq_some, optional_text_eq_ok, Json.text?_eq_some, looseComponent?_eq_some,
    Option.some.injEq]
  constructor
  · rintro ⟨type, ⟨s, ⟨_, htype, rfl⟩, hs⟩, label, hlabel, zone, hzone, description,
      hdescription, rfl⟩
    exact ⟨⟨s, htype, hs⟩, hlabel, hzone, hdescription⟩
  · rintro ⟨⟨s, htype, hs⟩, hlabel, hzone, hdescription⟩
    exact ⟨_, ⟨s, ⟨_, htype, rfl⟩, hs⟩, _, hlabel, _, hzone, _, hdescription, rfl⟩

theorem read?_str {s : String} : read? (.str s) = ofFields? [("type", .str s)] := by
  simp only [read?, ofFields?, Option.bind_eq_bind, Option.bind_some]

theorem read?_obj : read? (.obj fields) = ofFields? fields := rfl

theorem read?_eq_some : read? v = some w ↔ Understood v w := by
  cases v with
  | str s =>
    rw [read?_str, ofFields?_eq_some]
    exact ⟨.name, fun | .name h => h⟩
  | obj fields =>
    rw [read?_obj, ofFields?_eq_some]
    exact ⟨.object, fun | .object h => h⟩
  | _ => exact ⟨nofun, nofun⟩

/-- **The components that are kept**: one for every item that is understood, in the order of the
items. -/
inductive Kept : List Json → List Wanted → Prop
  | nil : Kept [] []
  | keep {v : Json} {w : Wanted} {items : List Json} {kept : List Wanted} (h : Understood v w)
      (rest : Kept items kept) : Kept (v :: items) (w :: kept)
  | drop {v : Json} {items : List Json} {kept : List Wanted} (h : ∀ w, ¬ Understood v w)
      (rest : Kept items kept) : Kept (v :: items) kept

/-- There is one such list only. -/
theorem kept_iff : Kept items kept ↔ items.filterMap read? = kept := by
  constructor
  · intro h
    induction h with
    | nil => rfl
    | keep h _ ih => rw [List.filterMap_cons_some (read?_eq_some.mpr h), ih]
    | drop h _ ih =>
      have hnone := Option.eq_none_iff_forall_ne_some.mpr fun w hw => h w (read?_eq_some.mp hw)
      rw [List.filterMap_cons_none hnone, ih]
  · rintro rfl
    induction items with
    | nil => exact .nil
    | cons v items ih =>
      cases hv : read? v with
      | none =>
        rw [List.filterMap_cons_none hv]
        refine .drop (fun w hw => ?_) ih
        cases hv.symm.trans (read?_eq_some.mpr hw)
      | some w =>
        rw [List.filterMap_cons_some hv]
        exact .keep (read?_eq_some.mp hv) ih

theorem understood_toJson (w : Wanted) : Understood w.toJson w := by
  obtain ⟨fields, hfields, hget⟩ : ∃ fields, w.toJson = .obj fields ∧ ∀ name, get? fields name =
      (List.lookup name [("type", some (.str w.type.name)), ("label", w.label.map .str),
        ("zone", w.zone.map .str), ("description", w.description.map .str)]).join :=
    ⟨_, rfl, get?_given (by simp)⟩
  have htype := looseComponent?_eq_some.mp (looseComponent?_name w.type)
  have htext (name : String) (t : Option String) (h : get? fields name = t.map .str) :
      TextField fields name t :=
    optional_text_eq_ok.mp (optional_written_one .str h (fun _ => rfl) (by simp))
  rw [hfields]
  exact .object ⟨⟨_, hget _, htype⟩, htext _ _ (hget _), htext _ _ (hget _), htext _ _ (hget _)⟩

end Wanted

/-! ## Positions -/

theorem span_of_positionOf? {h : Hint} (hread : positionOf? v = some h) : h.span = (0, 0) := by
  cases v with
  | obj fields =>
    simp only [positionOf?, Option.bind_eq_bind, Option.pure_def, Option.bind_eq_some_iff,
      Option.some.injEq] at hread
    obtain ⟨_, -, rfl⟩ := hread
    rfl
  | _ => cases hread

theorem positionOf?_toJson {h : Hint} (hspan : h.span = (0, 0)) :
    positionOf? h.toJson = some h := by
  obtain ⟨fields, hfields, hget⟩ : ∃ fields, h.toJson = .obj fields ∧ ∀ name, get? fields name =
      (List.lookup name [("type", some (.str h.placement.name)),
        ("reference", h.reference.map .str), ("referenceSecond", h.second.map .str)]).join :=
    ⟨_, rfl, get?_given (by simp)⟩
  have hplacement : required fields ["type"] (choice Placement.all Placement.name) =
      .ok h.placement :=
    required_written (hget _) (choice_named (by cases h.placement <;> rfl))
  have hreference : Reading.optional fields ["reference"] none (orNull text) = .ok h.reference :=
    optional_written_one .str (hget _) (fun _ => rfl) (by simp)
  have hsecond : Reading.optional fields ["referenceSecond", "reference_second"] none
      (orNull text) = .ok h.second := by
    refine optional_written "referenceSecond" .str ?_ (fun _ => rfl) (by simp)
    rw [firstField?_cons, firstField?_singleton, hget, hget]
    cases h.second <;> rfl
  rw [hfields]
  simp only [positionOf?, hplacement, hreference, hsecond]
  cases h
  cases hspan
  rfl

/-! ## Confidences -/

/-- A confidence that is not changed any more: a number that lies between zero and one. -/
structure Settled (x : Binary64) : Prop where
  ne_nan : x ≠ .nan
  clamped_eq : clamped x = x

theorem settled_zero : Settled (.zero false) := ⟨nofun, by decide +kernel⟩

theorem settled_one : Settled (.ofRatio false 1 1) := ⟨by decide +kernel, by decide +kernel⟩

theorem settled_half : Settled half := ⟨by decide +kernel, by decide +kernel⟩

theorem settled_clamped {x : Binary64} (hx : x ≠ .nan) : Settled (clamped x) := by
  by_cases hpositive : (Binary64.zero false).lt x = true
  · by_cases hsmall : x.lt (.ofRatio false 1 1) = true
    · have hsame : clamped x = x := by simp only [clamped, hpositive, hsmall, if_true]
      rw [hsame]
      exact ⟨hx, hsame⟩
    · have hone : clamped x = .ofRatio false 1 1 := by
        simp only [clamped, hpositive, hsmall, if_true, Bool.false_eq_true, if_false]
      rw [hone]
      exact settled_one
  · have hzero : clamped x = clamped (.zero false) := by
      simp only [clamped, hpositive, ite_self, Bool.false_eq_true, if_false]
    rw [hzero, settled_zero.clamped_eq]
    exact settled_zero

theorem Settled.confidenceOf_eq {x : Binary64} (h : Settled x) :
    confidenceOf (.float x) = .ok x := by
  have hclamped := h.clamped_eq
  unfold confidenceOf
  split
  · rename_i hnan
    exact absurd (Except.ok.inj hnan) h.ne_nan
  · rename_i y _ hy
    obtain rfl : x = y := Except.ok.inj hy
    rw [hclamped]
  · rename_i hfault
    cases hfault

theorem settled_of_confidenceOf {x : Binary64} (h : confidenceOf v = .ok x) : Settled x := by
  unfold confidenceOf at h
  split at h
  · obtain rfl := Except.ok.inj h
    exact settled_half
  · rename_i y hnumber _
    obtain rfl := Except.ok.inj h
    exact settled_clamped hnumber
  · split_ifs at h
    obtain rfl := Except.ok.inj h
    exact settled_half

/-! ## Intents -/

theorem commandOf_name (c : Command) : commandOf (.str c.name) = .ok c := by
  cases c <;> rfl

namespace Intent

variable {i : Intent}

/-- The items that the fields of an intent list as its components. -/
def itemsOf (fields : Fields) : List Json :=
  match fields.get? "components" with
  | some (.arr items) => items
  | _ => []

theorem filterMap_itemsOf : (itemsOf fields).filterMap Wanted.read? =
    ((fields.get? "components").map Wanted.listOf).getD [] := by
  unfold itemsOf
  cases fields.get? "components" with
  | none => rfl
  | some v => cases v <;> rfl

theorem read_eq_ok : Intent.read (.obj fields) = .ok i ↔
    required fields ["action", "intent"] commandOf = .ok i.action ∧
      Reading.optional fields ["confidence"] half confidenceOf = .ok i.confidence ∧
      Reading.optional fields ["reasoning"] none (orNull text) = .ok i.reasoning ∧
      (itemsOf fields).filterMap Wanted.read? = i.components ∧
      (fields.get? "position").bind positionOf? = i.position := by
  change Except.map _ (both _ (both _ _)) = _ ↔ _
  rw [map_eq_ok, filterMap_itemsOf]
  constructor
  · rintro ⟨⟨action, confidence, reasoning⟩, h, rfl⟩
    obtain ⟨haction, h⟩ := both_eq_ok.mp h
    obtain ⟨hconfidence, hreasoning⟩ := both_eq_ok.mp h
    exact ⟨haction, hconfidence, hreasoning, rfl, rfl⟩
  · rintro ⟨haction, hconfidence, hreasoning, hcomponents, hposition⟩
    refine ⟨(i.action, i.confidence, i.reasoning),
      both_eq_ok.mpr ⟨haction, both_eq_ok.mpr ⟨hconfidence, hreasoning⟩⟩, ?_⟩
    cases i
    dsimp only at hcomponents hposition ⊢
    rw [hcomponents, hposition]

/-- The document of an intent is read as the intent if its confidence is settled and its position
stands in no text. -/
theorem read_toJson (hconfidence : Settled i.confidence)
    (hspan : ∀ h ∈ i.position, h.span = (0, 0)) : Intent.read i.toJson = .ok i := by
  obtain ⟨fields, hfields, hget⟩ : ∃ fields, i.toJson = .obj fields ∧ ∀ name, get? fields name =
      (List.lookup name [("action", some (.str i.action.name)),
        ("confidence", some (.float i.confidence)),
        ("components", some (.arr (i.components.map (·.toJson)))),
        ("position", i.position.map (·.toJson)), ("reasoning", i.reasoning.map .str)]).join :=
    ⟨_, rfl, get?_given (by simp)⟩
  have haction : required fields ["action", "intent"] commandOf = .ok i.action := by
    rw [required, firstField?_cons, hget]
    change within _ (commandOf (.str i.action.name)) = _
    rw [commandOf_name, within_ok]
  have hitems : itemsOf fields = i.components.map (·.toJson) := by
    unfold itemsOf
    rw [hget]
    rfl
  have hposition : (get? fields "position").bind positionOf? = i.position := by
    rw [hget]
    cases hp : i.position with
    | none => rfl
    | some h => exact positionOf?_toJson (hspan h hp)
  rw [hfields, read_eq_ok]
  refine ⟨haction, optional_present_one (hget _) hconfidence.confidenceOf_eq,
    optional_written_one .str (hget _) (fun _ => rfl) (by simp), ?_, hposition⟩
  rw [hitems, List.filterMap_map]
  exact (List.filterMap_congr fun w _ =>
    Wanted.read?_eq_some.mpr (Wanted.understood_toJson w)).trans List.filterMap_some

/-- **What is kept of an intent**: its components are of known types, one for every item of its
document that is understood by itself, in their order, and the document of the intent is read as the
same intent. -/
theorem read_keeps (h : Intent.read (.obj fields) = .ok i) :
    (∀ w ∈ i.components, w.type ∈ Component.all) ∧
      Wanted.Kept (itemsOf fields) i.components ∧ Intent.read i.toJson = .ok i := by
  obtain ⟨-, hconfidence, -, hcomponents, hposition⟩ := read_eq_ok.mp h
  have hsettled : Settled i.confidence := by
    rcases optional_one_eq_ok.mp hconfidence with ⟨-, hhalf⟩ | ⟨v, -, hread⟩
    · rw [hhalf]
      exact settled_half
    · exact settled_of_confidenceOf hread
  have hspan : ∀ p ∈ i.position, p.span = (0, 0) := by
    intro p hp
    obtain ⟨v, -, hread⟩ := Option.bind_eq_some_iff.mp (hposition.trans hp)
    exact span_of_positionOf? hread
  exact ⟨fun w _ => w.type.mem_all, Wanted.kept_iff.mpr hcomponents, read_toJson hsettled hspan⟩

/-- An intent under another name, with components of all kinds. -/
def looseFields : Fields :=
  [("intent", .str " ADD "), ("confidence", .str "nan"),
    ("components", .arr [.str "Load Balancer", .int 5, .str "mainframe",
      .obj [("type", .str "web_server"), ("label", .null), ("zone", .str "dmz")],
      .obj [("type", .str "waf"), ("label", .int 5)], .obj [("label", .str "WAF")]]),
    ("position", .obj [("type", .str "between"), ("reference", .str "fw-1"),
      ("reference_second", .str "web-1")])]

/-- What is kept of it. -/
def looseIntent : Intent where
  action := .add
  confidence := half
  components := [{ type := .loadBalancer }, { type := .webServer, zone := some "dmz" }]
  position := some { placement := .between, reference := some "fw-1", second := some "web-1" }

theorem read_keeps_loose : Intent.read (.obj looseFields) = .ok looseIntent ∧
    Wanted.Kept (itemsOf looseFields) looseIntent.components ∧
      Intent.read looseIntent.toJson = .ok looseIntent := by
  have h : Intent.read (.obj looseFields) = .ok looseIntent := by decide +kernel
  exact ⟨h, (read_keeps h).2⟩

end Intent

end NetSketch
