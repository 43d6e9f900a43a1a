import NetSketch.Diagram.Basic
import NetSketch.Json.Fault

/-!
# Reading documents with located complaints

A document is checked field by field. All complaints are collected, each with its place in the
document; only a fault in the use of a raw value ends the reading at once.

* `Issue`: a place and a complaint; `Complaint.message`, `Issue.message`;
* `Refusal`: the issues of a document, or a fault; `Reading`;
* `Reading.both`, `Reading.eachOf`, `Reading.within`: readings put together;
* field readers: `required`, `optional`, and value readers `text`, `choice`, `flag`.
-/

namespace NetSketch

/-! ## Issues -/

/-- A step to a place in a document. -/
inductive Step where
  | field (name : String)
  | item (index : Nat)
  deriving DecidableEq, Repr

/-- What is wrong at a place. -/
inductive Complaint where
  | missing
  | notText
  | notList
  | notFlag
  | unclearFlag
  | notObject (model : String)
  | notOneOf (choices : List String)
  | tooShort (least : Nat)
  | tooLong (most : Nat)
  | rule (breach : Breach)
  deriving DecidableEq, Repr

/-- Choices in a sentence. -/
def choiceText : List String → String
  | [] => ""
  | [a] => "'" ++ a ++ "'"
  | [a, b] => "'" ++ a ++ "' or '" ++ b ++ "'"
  | a :: rest => "'" ++ a ++ "', " ++ choiceText rest

/-- A count of characters. -/
def characterCount (n : Nat) : String := Nat.repr n ++ if n = 1 then " character" else " characters"

/-- The text of a complaint. -/
def Complaint.message : Complaint → String
  | missing => "Field required"
  | notText => "Input should be a valid string"
  | notList => "Input should be a valid list"
  | notFlag => "Input should be a valid boolean"
  | unclearFlag => "Input should be a valid boolean, unable to interpret input"
  | notObject model => "Input should be a valid dictionary or instance of " ++ model
  | notOneOf choices => "Input should be " ++ choiceText choices
  | tooShort least => "String should have at least " ++ characterCount least
  | tooLong most => "String should have at most " ++ characterCount most
  | rule breach => "Value error, " ++ breach.message

/-- A complaint about a place. -/
structure Issue where
  path : List Step
  complaint : Complaint
  deriving DecidableEq, Repr

/-- The text of a step. -/
def Step.text : Step → String
  | field name => name
  | item index => Nat.repr index

/-- The text of an issue. -/
def Issue.message (i : Issue) : String :=
  String.intercalate "." (i.path.map (·.text)) ++ ": " ++ i.complaint.message

/-- The text of several issues. -/
def issuesMessage (issues : List Issue) : String :=
  String.intercalate "; " (issues.map (·.message))

/-! ## Readings -/

/-- Why a document is not read. -/
inductive Refusal where
  | issues (list : List Issue)
  | fault (f : Fault)
  deriving DecidableEq, Repr

/-- The outcome of reading a document. -/
abbrev Reading (α : Type) := Except Refusal α

namespace Reading

variable {α β : Type}

/-- A complaint about the place that is being read. -/
def complain (c : Complaint) : Reading α := .error (.issues [⟨[], c⟩])

/-- A reading at a place further inside. -/
def within (step : Step) : Reading α → Reading α
  | .error (.issues list) =>
    .error (.issues (list.map fun i => { i with path := step :: i.path }))
  | r => r

/-- Two readings one after the other, with the complaints of both. -/
def both (first : Reading α) (second : Reading β) : Reading (α × β) :=
  match first, second with
  | .ok a, .ok b => .ok (a, b)
  | .error (.fault f), _ => .error (.fault f)
  | _, .error (.fault f) => .error (.fault f)
  | .error (.issues i), .error (.issues j) => .error (.issues (i ++ j))
  | .error (.issues i), .ok _ => .error (.issues i)
  | .ok _, .error (.issues j) => .error (.issues j)

/-- The readings of items from the given index on. -/
def eachFrom (read : Json → Reading α) (index : Nat) : List Json → Reading (List α)
  | [] => .ok []
  | v :: rest =>
    (both (within (.item index) (read v)) (eachFrom read (index + 1) rest)).map
      fun (a, as) => a :: as

/-- The items of a list. -/
def eachOf (read : Json → Reading α) : Json → Reading (List α)
  | .arr items => eachFrom read 0 items
  | _ => complain .notList

/-- A rule of diagrams as a complaint about the place that is being read. -/
def ofBreach : Except Breach α → Reading α
  | .ok a => .ok a
  | .error b => complain (.rule b)

/-- A fault in the use of a raw value. -/
def ofFault : Except Fault α → Reading α
  | .ok a => .ok a
  | .error f => .error (.fault f)

/-! ## Values -/

/-- A text. -/
def text : Json → Reading String
  | .str s => .ok s
  | _ => complain .notText

/-- A value or null. -/
def orNull (read : Json → Reading α) : Json → Reading (Option α)
  | .null => .ok none
  | v => (read v).map some

/-- One of the named members of an enumeration. -/
def choice (all : List α) (name : α → String) : Json → Reading α
  | .str s =>
    match named? all name s with
    | some a => .ok a
    | none => complain (.notOneOf (all.map name))
  | _ => complain (.notOneOf (all.map name))

/-- The words that stand for a flag. -/
def flagWord? (s : String) : Option Bool :=
  let s := String.ofList (s.toList.map Char.toLower)
  if ["0", "off", "f", "false", "n", "no"].contains s then some false
  else if ["1", "on", "t", "true", "y", "yes"].contains s then some true
  else none

/-- The flag that an integer stands for. One that does not fit into 64 bits is no flag at all. -/
def flagNumber (i : Int) : Reading Bool :=
  if i = 0 then .ok false
  else if i = 1 then .ok true
  else if -(Number.twoTo 63 : Int) ≤ i ∧ i < Number.twoTo 63 then complain .unclearFlag
  else complain .notFlag

/-- A flag: true or false, the numbers one and zero, or a word for them. -/
def flag : Json → Reading Bool
  | .bool b => .ok b
  | .int i => flagNumber i
  | .float x =>
    match if x.isIntegral then x.truncate? else none with
    | some i => flagNumber i
    | none => complain .notFlag
  | .str s =>
    match flagWord? s with
    | some b => .ok b
    | none => complain .unclearFlag
  | _ => complain .notFlag

/-! ## Fields -/

/-- The fields of an object. -/
def fieldsOf (model : String) : Json → Reading Fields
  | .obj fields => .ok fields
  | _ => complain (.notObject model)

/-- The first of several names that a document has, with its value. -/
def firstField? (fields : Fields) (names : List String) : Option (String × Json) :=
  names.findSome? fun name => (fields.get? name).map (name, ·)

/-- A field that must be there, under the first of its names that is. -/
def required (fields : Fields) (names : List String) (read : Json → Reading α) : Reading α :=
  match firstField? fields names with
  | some (name, v) => within (.field name) (read v)
  | none => within (.field (names.headD "")) (complain .missing)

/-- A field that may be missing. -/
def optional (fields : Fields) (names : List String) (default : α) (read : Json → Reading α) :
    Reading α :=
  match firstField? fields names with
  | some (name, v) => within (.field name) (read v)
  | none => .ok default

end Reading

end NetSketch
