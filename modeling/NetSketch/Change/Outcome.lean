import NetSketch.Diagram.Document
import NetSketch.Knowledge.Advice
import NetSketch.Prompt.Command

/-!
# Outcomes of changes

A prompt changes a diagram or fails. A change tells what it did step by step and what the knowledge
store thinks of it.

* `Modification`, `Spec.connectionChanges`: the steps of a change;
* `Problem`: why a prompt cannot be followed;
* `Change`, `Outcome` and their documents;
* `advised`: a change with the advice of a store.
-/

namespace NetSketch

open Number

/-! ## Steps -/

/-- A step of a change. -/
inductive Modification where
  | addNode (id : String) (type : Component) (label : Option String)
  | removeNode (id : String) (type : Component)
  | relabel (id label : String)
  | retype (id : String) (type : Component)
  | addConnection (source target : String)
  | removeConnection (source target : String)
  deriving DecidableEq, Repr

/-- The document of a step. -/
def Modification.toJson : Modification → Json
  | addNode id type label =>
    node "add-node" id (("type", .str type.name) :: (label.map fun l => ("label", .str l)).toList)
  | removeNode id type => node "remove-node" id [("type", .str type.name)]
  | relabel id label => node "modify-node" id [("label", .str label)]
  | retype id type => node "modify-node" id [("type", .str type.name)]
  | addConnection source target => edge "add-connection" source target
  | removeConnection source target => edge "remove-connection" source target
where
  node (kind id : String) (data : Fields) : Json :=
    .obj [("type", .str kind), ("target", .str id), ("data", .obj data)]
  edge (kind source target : String) : Json :=
    .obj [("type", .str kind),
      ("data", .obj [("source", .str source), ("target", .str target)])]

/-- The steps from the connections of one diagram to those of another. -/
def Spec.connectionChanges (old new : Spec) : List Modification :=
  ((old.ends.filter fun e => !new.ends.contains e).map fun e => .removeConnection e.1 e.2) ++
    (new.ends.filter fun e => !old.ends.contains e).map fun e => .addConnection e.1 e.2

/-! ## Problems -/

/-- Why a prompt cannot be followed. -/
inductive Problem where
  | noDiagram
  | nothingToAdd
  | nothingToRemove
  | nothingToModify
  | nothingToModifyFound
  | connectNeedsTwo
  | componentNotFound
  | disconnectNeedsTwo
  | connectionNotFound
  | unrecognized
  deriving DecidableEq, Repr

namespace Problem

/-- A problem in words. -/
def message : Problem → String
  | noDiagram => "먼저 아키텍처를 생성해주세요."
  | nothingToAdd => "추가할 컴포넌트를 인식하지 못했습니다."
  | nothingToRemove => "삭제할 컴포넌트를 찾지 못했습니다."
  | nothingToModify => "수정할 컴포넌트를 인식하지 못했습니다."
  | nothingToModifyFound => "수정할 컴포넌트를 찾지 못했습니다."
  | connectNeedsTwo => "연결할 두 컴포넌트를 지정해주세요."
  | componentNotFound => "해당 컴포넌트를 찾을 수 없습니다."
  | disconnectNeedsTwo => "연결 해제할 두 컴포넌트를 지정해주세요."
  | connectionNotFound => "해당 연결을 찾을 수 없습니다."
  | unrecognized => "입력하신 내용을 정확히 인식하지 못했습니다."

/-- How sure it is that a prompt was understood that cannot be followed. -/
def confidence : Problem → Binary64
  | noDiagram => .ofDecimal false 0 (-1)
  | _ => .ofDecimal false 3 (-1)

end Problem

/-! ## Outcomes -/

/-- A prompt that was followed. -/
structure Change where
  command : Command
  /-- The diagram after the change; none if there is none to ask about. -/
  spec : Option Spec
  confidence : Binary64
  modifications : List Modification := []
  warnings : List Warning := []
  suggestions : List Suggestion := []
  explanation : Option String := none
  /-- The id of the template that was used. -/
  template : Option String := none

/-- What became of a prompt. -/
inductive Outcome where
  | done (change : Change)
  /-- The prompt cannot be followed; a diagram may be proposed instead. -/
  | failed (command : Command) (problem : Problem) (fallback : Option Spec)

namespace Outcome

/-- The command of an outcome. -/
def command : Outcome → Command
  | done c => c.command
  | failed command _ _ => command

/-- Whether the prompt was followed. -/
def success : Outcome → Bool
  | done _ => true
  | failed .. => false

/-- An outcome told as that of another command. -/
def recast (command : Command) : Outcome → Outcome
  | done c => done { c with command }
  | failed _ problem fallback => failed command problem fallback

/-- Documents as a field, left out if there are none. -/
def listed (items : List Json) : Option Json := if items.isEmpty then none else some (.arr items)

/-- The fields of an outcome. -/
def toFields : Outcome → Fields
  | done c =>
    Fields.given [("success", some (.bool true)), ("confidence", some (.float c.confidence)),
      ("spec", c.spec.map (·.toJson)), ("commandType", some (.str c.command.name)),
      ("modifications", listed (c.modifications.map (·.toJson))),
      ("warnings", listed (c.warnings.map (·.toJson))),
      ("suggestions", listed (c.suggestions.map (·.toJson))),
      ("explanation", (c.explanation.filter (!·.isEmpty)).map .str),
      ("templateUsed", c.template.map .str)]
  | failed command problem fallback =>
    Fields.given [("success", some (.bool false)), ("confidence", some (.float problem.confidence)),
      ("spec", fallback.map (·.toJson)), ("commandType", some (.str command.name)),
      ("error", some (.str problem.message)), ("isFallback", fallback.map fun _ => .bool true)]

/-- The document of an outcome. -/
def toJson (o : Outcome) : Json := .obj o.toFields

/-- The diagram after an outcome: the old one if the prompt was not followed. -/
def specAfter (old : Option Spec) : Outcome → Option Spec
  | done c => c.spec
  | failed .. => old

end Outcome

/-- How sure an edit without an assistant is. -/
def editConfidence : Binary64 := .ofDecimal false 8 (-1)

/-- **A change to a diagram with the advice of a store** about the types that it affects. -/
def advised (store : Store) (before after : Spec) (affected : List Component)
    (change : Change) : Reading Outcome := do
  let warnings ← .ofFault (store.warnings after affected (some before))
  return .done { change with
    spec := some after, warnings, suggestions := store.suggestions after affected }

end NetSketch
