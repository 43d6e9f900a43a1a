import NetSketch.Diagram.Issue
import NetSketch.Json.Convert
import NetSketch.Json.Embedded
import NetSketch.Prompt.Command
import NetSketch.Prompt.Position

/-!
# Intents

An intent is what an assistant understood of a prompt. It is read leniently: components and
positions that are not understood are dropped, and a confidence that is no number is one half.

* `Wanted`, `Intent` and their documents;
* `Intent.read`: an intent out of JSON; `Intent.inText`: the first one in an answer in prose.
-/

namespace NetSketch

open Number Text

/-- A component that is asked for. -/
structure Wanted where
  type : Component
  label : Option String := none
  zone : Option String := none
  description : Option String := none
  deriving DecidableEq, Repr

/-- What was understood of a prompt. -/
structure Intent where
  action : Command
  confidence : Binary64
  components : List Wanted := []
  position : Option Hint := none
  reasoning : Option String := none
  deriving DecidableEq, Repr

/-- The types of the components of an intent. -/
def Intent.types (i : Intent) : List Component := i.components.map (·.type)

/-! ## Reading -/

/-- A component type by a name in any case, its words joined by hyphens, low lines or spaces. -/
def looseComponent? (s : String) : Option Component :=
  Component.ofName? (replaceChar (replaceChar (lower (trim s)) '_' "-") ' ' "-")

/-- A component out of a text or an object; none if it is not understood. -/
def Wanted.read? (v : Json) : Option Wanted :=
  let fields := match v with
    | .str name => some [("type", .str name)]
    | .obj fields => some fields
    | _ => none
  do
    let fields ← fields
    let type ← ((Fields.get? fields "type").bind Json.text?).bind looseComponent?
    let part (name : String) : Option (Option String) :=
      (Reading.optional fields [name] none (.orNull .text)).toOption
    return { type, label := ← part "label", zone := ← part "zone",
             description := ← part "description" }

/-- The components of a list that are understood; anything but a list holds none. -/
def Wanted.listOf : Json → List Wanted
  | .arr items => items.filterMap Wanted.read?
  | _ => []

/-- A position; none if it is not understood. -/
def positionOf? (v : Json) : Option Hint :=
  match v with
  | .obj fields => do
    let (placement, reference, second) ←
      ((Reading.required fields ["type"] (.choice Placement.all Placement.name)).both <|
        (Reading.optional fields ["reference"] none (.orNull .text)).both <|
        Reading.optional fields ["referenceSecond", "reference_second"] none
          (.orNull .text)).toOption
    return { placement, reference, second }
  | _ => none

/-- One half. -/
def half : Binary64 := .ofRatio false 1 2

/-- A number brought between zero and one. -/
def clamped (x : Binary64) : Binary64 :=
  let one := Binary64.ofRatio false 1 1
  let x := if (Binary64.zero false).lt x then x else .zero false
  if x.lt one then x else one

/-- A confidence: a number between zero and one, one half for anything else. An integer that is
too large is a fault. -/
def confidenceOf (v : Json) : Reading Binary64 :=
  match v.toFloat with
  | .ok .nan => .ok half
  | .ok x => .ok (clamped x)
  | .error f => if f.family = .overflow then .error (.fault f) else .ok half

/-- A text in any case as a command. -/
def commandOf (v : Json) : Reading Command :=
  Reading.choice Command.all Command.name <| match v with
    | .str s => .str (lower (trim s))
    | v => v

/-- **An intent.** -/
def Intent.read (v : Json) : Reading Intent := do
  let fields ← Reading.fieldsOf "IntentAnalysis" v
  ((Reading.required fields ["action", "intent"] commandOf).both <|
    (Reading.optional fields ["confidence"] half confidenceOf).both <|
    Reading.optional fields ["reasoning"] none (.orNull .text)).map
      fun (action, confidence, reasoning) =>
        { action, confidence, reasoning
          components := ((Fields.get? fields "components").map Wanted.listOf).getD []
          position := (Fields.get? fields "position").bind positionOf? }

/-- The first object that is an intent. -/
def Intent.among : List (Except Fault Fields) → Except Fault (Option Intent)
  | [] => .ok none
  | .error f :: _ => .error f
  | .ok fields :: rest =>
    match Intent.read (.obj fields) with
    | .ok i => .ok (some i)
    | .error (.fault f) => if f.family = .overflow then .error f else among rest
    | .error (.issues _) => among rest

/-- **The first intent in an answer in prose.** -/
def Intent.inText (s : String) : Except Fault (Option Intent) := Intent.among (Json.objectsIn s)

/-! ## Writing -/

/-- The document of a component. -/
def Wanted.toJson (w : Wanted) : Json :=
  .obj <| Fields.given [("type", some (.str w.type.name)), ("label", w.label.map .str),
    ("zone", w.zone.map .str), ("description", w.description.map .str)]

/-- The document of a position. -/
def Hint.toJson (h : Hint) : Json :=
  .obj <| Fields.given [("type", some (.str h.placement.name)),
    ("reference", h.reference.map .str), ("referenceSecond", h.second.map .str)]

/-- The document of an intent. -/
def Intent.toJson (i : Intent) : Json :=
  .obj <| Fields.given [("action", some (.str i.action.name)),
    ("confidence", some (.float i.confidence)),
    ("components", some (.arr (i.components.map (·.toJson)))),
    ("position", i.position.map (·.toJson)), ("reasoning", i.reasoning.map .str)]

end NetSketch
