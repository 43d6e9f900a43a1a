import NetSketch.Diagram.Document
import NetSketch.Service.Shelf

/-!
# Bodies of requests

* `PromptBody`, `RiskBody`, `Update`: what requests carry, and how it is read;
* `Issue.entry`: a complaint about a body as it is told to the caller; `Issue.quoted`: what it quotes.
-/

namespace NetSketch.Service

/-- A prompt, a diagram, and how the prompt is to be followed. -/
structure PromptBody (α : Type) where
  prompt : String
  spec : α
  useAssistant : Bool
  guidance : String

/-- A text of some length. -/
def sizedText (least most : Nat) (v : Json) : Reading String := do
  let s ← Reading.text v
  if s.length < least then .complain (.tooShort least)
  else if most < s.length then .complain (.tooLong most)
  else return s

/-- The fields of a body, which has to be there. -/
def bodyFields : Option Json → Reading Fields
  | none | some .null => .complain .missing
  | some v => Reading.fieldsOf "" v

namespace PromptBody

/-- A prompt with the diagram that a reading finds. -/
def readWith {α : Type} (spec : Fields → Reading α) (body : Option Json) :
    Reading (PromptBody α) := do
  let fields ← bodyFields body
  ((Reading.required fields ["prompt"] (sizedText 1 4000)).both <|
    (spec fields).both <|
    (Reading.optional fields ["useLlm", "use_llm"] true .flag).both <|
    Reading.optional fields ["knowledgeSection", "knowledge_section"] "" .text).map
      fun (prompt, spec, useAssistant, guidance) => ⟨prompt, spec, useAssistant, guidance⟩

/-- A prompt for a diagram that may be missing. -/
def readLoose : Option Json → Reading (PromptBody (Option Spec)) :=
  readWith fun fields =>
    Reading.optional fields ["currentSpec", "current_spec"] none (.orNull Spec.read)

/-- A prompt for a diagram. -/
def read : Option Json → Reading (PromptBody Spec) :=
  readWith fun fields => Reading.required fields ["spec"] Spec.read

end PromptBody

/-- The two diagrams of a change. -/
def readChange (body : Option Json) : Reading (Spec × Spec) := do
  let fields ← bodyFields body
  (Reading.required fields ["before"] Spec.read).both
    (Reading.required fields ["after"] Spec.read)

/-- A diagram by itself. -/
def readSpec (body : Option Json) : Reading Spec := do
  let fields ← bodyFields body
  Reading.required fields ["spec"] Spec.read

/-- What is stored anew. -/
def Update.read (body : Option Json) : Reading Update := do
  let fields ← bodyFields body
  let kept (names : List String) : Json := ((Reading.firstField? fields names).map (·.2)).getD .null
  return {
    spec := ← Reading.required fields ["spec"] Spec.read
    nodes := kept ["nodesJson", "nodes_json"], edges := kept ["edgesJson", "edges_json"] }

end NetSketch.Service

namespace NetSketch

/-! ## Complaints -/

/-- The kind of a complaint. -/
def Complaint.code : Complaint → String
  | missing => "missing"
  | notText => "string_type"
  | notList => "list_type"
  | notFlag => "bool_type"
  | unclearFlag => "bool_parsing"
  | notObject _ => "model_attributes_type"
  | notOneOf _ => "literal_error"
  | tooShort _ => "string_too_short"
  | tooLong _ => "string_too_long"
  | rule _ => "value_error"

/-- The text of a complaint about a body. -/
def Complaint.bodyMessage : Complaint → String
  | notObject _ => "Input should be a valid dictionary or object to extract fields from"
  | c => c.message

/-- A step to a place as a value. -/
def Step.toJson : Step → Json
  | field name => .str name
  | item index => .int index

/-- The value at a place inside a value. -/
def Json.at? : Json → List Step → Option Json
  | v, [] => some v
  | .obj fields, .field name :: rest => (Fields.get? fields name).bind (·.at? rest)
  | .arr items, .item index :: rest => (items[index]?).bind (·.at? rest)
  | _, _ :: _ => none

/-- What an issue quotes of a body: the value at its place, or what a missing field is missing
from. -/
def Issue.quoted (i : Issue) (body : Json) : Json :=
  (body.at? (if i.complaint = .missing then i.path.dropLast else i.path)).getD .null

/-- An issue with a body: its kind, its place and its text. -/
def Issue.entry (i : Issue) : Json :=
  .arr [.str i.complaint.code, .arr (.str "body" :: i.path.map (·.toJson)),
    .str i.complaint.bodyMessage]

end NetSketch
