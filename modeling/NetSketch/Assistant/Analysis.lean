import NetSketch.Assistant.Exchange
import NetSketch.Assistant.Message
import NetSketch.Intent.Basic

/-!
# What an assistant makes of a prompt

* `Question.about`: the question about a prompt;
* `Reason`: why a prompt is followed by its own words;
* `Analysis`, `analyze`: the intent that an assistant finds, or why there is none.
-/

namespace NetSketch.Assistant

/-- **The question about a prompt** for a diagram, under guidance. -/
def Question.about (spec : Option Spec) (prompt guidance : String) : Question :=
  ⟨systemPrompt guidance, [.of "user" (userMessage (View.ofSpec? spec) prompt)]⟩

/-- Why a prompt is followed by its own words, or cannot be followed. -/
inductive Reason where
  | parseFailure
  | promptUnrecognized
  | providerUnavailable
  deriving DecidableEq, Repr

/-- The name of a reason in documents. -/
def Reason.name : Reason → String
  | parseFailure => "parse_failure"
  | promptUnrecognized => "prompt_unrecognized"
  | providerUnavailable => "provider_unavailable"

/-- What an assistant makes of a prompt. -/
inductive Analysis where
  | understood (intent : Intent) (raw : String)
  /-- There is a text without an intent in it. -/
  | unclear (raw : String)
  /-- There is no text. -/
  | unavailable (f : Mishap)
  deriving DecidableEq, Repr

namespace Analysis

/-- The intent that was found. -/
def intent? : Analysis → Option Intent
  | understood intent _ => some intent
  | unclear _ | unavailable _ => none

/-- The text of the assistant; empty if there is none. -/
def raw : Analysis → String
  | understood _ raw | unclear raw => raw
  | unavailable _ => ""

/-- Why there is no intent. -/
def reason? : Analysis → Option Reason
  | understood .. => none
  | unclear _ => some .parseFailure
  | unavailable _ => some .providerUnavailable

/-- Why there is no intent, in words. -/
def error? : Analysis → Option String
  | understood .. => none
  | unclear _ => some "Failed to parse intent from LLM response"
  | unavailable f => some f.message

end Analysis

/-- **What a partner makes of a question.** A partner that is not there fails like one that does
not answer. -/
def analyze (partner : Except Mishap Partner) (q : Question) : Except Fault Analysis :=
  match partner with
  | .error f => .ok (.unavailable f)
  | .ok partner =>
    match partner.answer q with
    | .error (.mishap f) => .ok (.unavailable f)
    | .error (.fault f) => .error f
    | .ok raw =>
      (Intent.inText raw).map fun
        | some intent => .understood intent raw
        | none => .unclear raw

end NetSketch.Assistant
