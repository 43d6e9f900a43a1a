import NetSketch.Assistant.Analysis
import NetSketch.Change.Request
import NetSketch.Knowledge.Guidance

/-!
# Turns of a session

In a turn a prompt is followed. An assistant is asked first; where there is none, or it finds no
intent, the prompt is followed by its own words. A turn ends with guidance for the next one.

* `Settings`, `Settings.partner?`: whether and whom to ask;
* `Turn`, `Turn.after`: the turn behind an analysis;
* `takeTurn`: the whole turn.
-/

namespace NetSketch

open Assistant

/-- How a prompt is to be followed. -/
structure Settings where
  provider : Option String := none
  key : Option String := none
  model : Option String := none
  useAssistant : Bool := true
  /-- The guidance of the turn before. -/
  guidance : String := ""
  options : Options := {}

/-- The settings that a setup leads to. -/
def Settings.ofSetup (s : Setup) : Settings :=
  { provider := s.provider?.map (·.name), key := s.provider?.map s.key }

namespace Settings

variable (settings : Settings)

/-- Whether an assistant is to be asked and can be. -/
def hasAssistant : Bool :=
  settings.useAssistant && settings.provider.any (!·.isEmpty) && settings.key.any (!·.isEmpty)

/-- The partner to ask, if there is one: the one at hand, or the client of the settings. -/
def partner? (setup : Setup) (network : Call → Reply) (atHand : Option Partner) :
    Option (Except Mishap Partner) :=
  match atHand with
  | some partner => some (.ok partner)
  | none =>
    if settings.hasAssistant then
      some ((setup.client settings.provider settings.key settings.model).map (.client · network))
    else none

end Settings

/-! ## Turns -/

/-- A turn: what became of the prompt, and how. -/
structure Turn where
  outcome : Outcome
  usedAssistant : Bool
  reason : Option Reason
  error : Option String
  /-- The guidance for the next turn. -/
  guidance : String

/-- Whether an outcome is a failure with a diagram proposed instead. -/
def Outcome.proposes : Outcome → Bool
  | .done _ => false
  | .failed _ _ fallback => fallback.isSome

/-- The guidance about a diagram; none without a diagram. -/
def guidanceAfter (store : Store) : Option Spec → Except Fault String
  | none => .ok ""
  | some s => (Guidance.about store (some s)).map (·.block)

/-- **The turn behind an analysis**, or without one. -/
def Turn.after (store : Store) (options : Options) (prompt : String) (spec : Option Spec)
    (analysis : Option Analysis) : Reading Turn := do
  let intent := analysis.bind (·.intent?)
  let outcome ← match intent with
    | some intent => followIntent store options intent prompt spec
    | none => followLocally store options prompt spec
  let reason : Option Reason := match analysis with
    | none => some .providerUnavailable
    | some a => a.reason?
  return {
    outcome
    usedAssistant := intent.isSome
    reason := reason.or (if outcome.proposes then some .promptUnrecognized else none)
    error := analysis.bind (·.error?)
    guidance := ← .ofFault (guidanceAfter store (outcome.specAfter spec)) }

/-- The document of the outcome of a turn. -/
def Turn.toFields (t : Turn) : Fields :=
  t.outcome.toFields ++ Fields.given [("usedLlm", some (.bool t.usedAssistant)),
    ("fallbackReason", t.reason.map (.str ·.name))]

/-- **A whole turn**: the partner is asked about the prompt, if there is one. -/
def takeTurn (store : Store) (settings : Settings) (partner : Option (Except Mishap Partner))
    (prompt : String) (spec : Option Spec) : Reading Turn := do
  let analysis ← match partner with
    | none => pure none
    | some partner =>
      (Reading.ofFault (analyze partner (.about spec prompt settings.guidance))).map some
  Turn.after store settings.options prompt spec analysis

end NetSketch
