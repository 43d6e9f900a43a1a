import NetSketch.Json.Convert
import NetSketch.Knowledge.Entry

/-!
# Loading a corpus

A corpus is read from four documents. An entry that is not understood refuses the whole corpus,
and so does an id that is used twice.

* `Flaw`: what is wrong with an entry; `LoadError`, `LoadError.message`; `LoadStop`;
* `Page`: what a file of the corpus holds; `Library`: the four files;
* `Relationship.read` and its like; `Corpus.load`.
-/

namespace NetSketch

/-! ## Errors -/

/-- What is wrong with an entry. -/
inductive Flaw where
  | noField (name : String)
  | unknownType (id type : Json)
  | notATerm (value : Json) (term : String)
  | unknownShape (shape : String)
  | shapeLacks (shape : String) (names : List String)
  | partNotAPair (index : Nat)
  | partLength (index length : Nat)
  | citationNotAnObject (kind : Json.Kind)
  | citationUnexpected (name : String)
  | citationTwice (name : String)
  | citationLacks (names : List String)
  | fault (f : Fault)

/-- Names that are missing, in a sentence. -/
def lackText (names : List String) : String :=
  (if names.length = 1 then "missing 1 required positional argument: "
    else "missing " ++ Nat.repr names.length ++ " required positional arguments: ") ++
    String.intercalate " and " (names.map Text.quoted)

/-- The text of a flaw. -/
def Flaw.message : Flaw → String
  | noField name => Text.quoted name
  | unknownType id type =>
    id.display ++ " references unknown component type '" ++ type.display ++ "'"
  | notATerm value term => value.shown ++ " is not a valid " ++ term
  | unknownShape shape => "unknown signature kind '" ++ shape ++ "'"
  | shapeLacks shape names =>
    "signature '" ++ shape ++ "' missing [" ++
      String.intercalate ", " (names.map Text.quoted) ++ "]"
  | partNotAPair index =>
    "cannot convert dictionary update sequence element #" ++ Nat.repr index ++ " to a sequence"
  | partLength index length =>
    "dictionary update sequence element #" ++ Nat.repr index ++ " has length " ++
      Nat.repr length ++ "; 2 is required"
  | citationNotAnObject kind =>
    "infraflow.knowledge.types.KnowledgeSource() argument after ** must be a mapping, not " ++
      kind.name
  | citationUnexpected name =>
    "KnowledgeSource.__init__() got an unexpected keyword argument '" ++ name ++ "'"
  | citationTwice name =>
    "KnowledgeSource.__init__() got multiple values for argument '" ++ name ++ "'"
  | citationLacks names => "KnowledgeSource.__init__() " ++ lackText names
  | fault f => f.message

/-- Why a corpus is refused. -/
inductive LoadError where
  | fileMissing (file : String)
  | fileUnreadable (file : String)
  | listMissing (file name : String)
  | badEntry (sort : String) (id : Json) (flaw : Flaw)
  | duplicateId (sort : String) (id : Json)

/-- The text of an error, `place` being where the corpus is kept. -/
def LoadError.message (place : String) : LoadError → String
  | fileMissing file => about (place ++ "/" ++ file) "file not found"
  | fileUnreadable file => about (place ++ "/" ++ file) "<yaml error>"
  | listMissing file name => about (place ++ "/" ++ file) ("top-level '" ++ name ++ "' list missing")
  | badEntry sort id flaw =>
    about place ("bad " ++ sort ++ " " ++ id.display ++ ": " ++ flaw.message)
  | duplicateId sort id => about place ("duplicate " ++ sort ++ " id '" ++ id.display ++ "'")
where
  about (path reason : String) : String :=
    "Failed to load knowledge corpus from " ++ path ++ ": " ++ reason

/-- How loading ends early: refused, or by a fault in the use of a raw value. -/
inductive LoadStop where
  | refused (error : LoadError)
  | fault (f : Fault)

/-- The outcome of reading a part of an entry. -/
abbrev Entry (α : Type) := Except Flaw α

/-! ## Parts of entries -/

namespace Entry

/-- A fault as a flaw. -/
def ofFault {α : Type} : Except Fault α → Entry α
  | .ok a => .ok a
  | .error f => .error (.fault f)

variable (fields : Fields)

/-- A field that must be there. -/
def field (name : String) : Entry Json :=
  match fields.get? name with
  | some v => .ok v
  | none => .error (.noField name)

/-- A field with a value for when it is missing. -/
def fieldOr (name : String) (default : Json) : Json := (fields.get? name).getD default

/-- The items of a field, none if it is missing. -/
def itemsOf (name : String) : Entry (List Json) := ofFault (fieldOr fields name (.arr [])).items

/-- A term by its name. -/
def term {α : Type} (what : String) (all : List α) (name : α → String) (v : Json) : Entry α :=
  match v.text?.bind (named? all name) with
  | some a => .ok a
  | none => .error (.notATerm v what)

/-- A component type by its name. -/
def component (id v : Json) : Entry Component := do
  let _ ← ofFault v.toKey
  match v.text?.bind Component.ofName? with
  | some c => .ok c
  | none => .error (.unknownType id v)

end Entry

/-! ## Entries -/

open Entry

/-- The names of a citation's fields, the first two of which must be there. -/
def Citation.names : List String := ["type", "title", "url", "section"]

/-- The first name that a citation does not take. -/
def Citation.stranger? : Fields → Option Flaw
  | [] => none
  | (name, _) :: rest =>
    if name = "self" then some (.citationTwice name)
    else if Citation.names.contains name then stranger? rest
    else some (.citationUnexpected name)

/-- A citation. -/
def Citation.read : Json → Entry Citation
  | .obj fields =>
    match Citation.stranger? fields with
    | some flaw => .error flaw
    | none =>
      match Fields.get? fields "type", Fields.get? fields "title" with
      | some kind, some title =>
        .ok ⟨kind, title, fieldOr fields "url" .null, fieldOr fields "section" .null⟩
      | kind, title =>
        .error (.citationLacks ((if kind.isNone then ["type"] else []) ++
          if title.isNone then ["title"] else []))
  | v => .error (.citationNotAnObject v.kind)

/-- A relationship. -/
def Relationship.read (fields : Fields) : Entry Relationship := do
  let id ← field fields "id"
  let source ← component id (← field fields "source")
  let target ← component id (← field fields "target")
  let relation ← term "RelationshipType" Relation.all Relation.name (← field fields "type")
  let strength ← term "Strength" Strength.all Strength.name (← field fields "strength")
  let direction ←
    term "Direction" Direction.all Direction.name (fieldOr fields "direction" (.str "downstream"))
  let reason ← field fields "reason"
  let reasonKo ← field fields "reason_ko"
  let confidence ← ofFault (fieldOr fields "confidence" (.float (.ofDecimal false 8 (-1)))).toFloat
  let tags ← itemsOf fields "tags"
  let citations ← (← itemsOf fields "sources").mapM Citation.read
  return { id, source, target, relation, strength, direction, reason, reasonKo, confidence, tags,
           citations }

/-- A part of a signature that is given as a list of two. -/
def partPair (index : Nat) (v : Json) : Entry (Json × Json) :=
  match v.items with
  | .ok [name, value] => do
    let _ ← ofFault name.toKey
    return (name, value)
  | .ok items => .error (.partLength index items.length)
  | .error _ => .error (.partNotAPair index)

/-- Parts given as lists of two, from an index on, added to those before. -/
def partPairs (done : Fields) (index : Nat) : List Json → Entry Fields
  | [] => .ok done
  | v :: rest => do
    let (name, value) ← partPair index v
    partPairs (match name with | .str s => done.put s value | _ => done) (index + 1) rest

/-- The parts of a signature. -/
def signatureParts : Json → Entry Fields
  | .obj parts => .ok parts
  | v => do partPairs [] 0 (← ofFault v.items)

/-- The names of shapes and of the parts that they cannot do without. -/
def shapeParts : List (String × List String) :=
  [("presence", []), ("unguarded_path", ["from", "to"]), ("direct_link", ["a", "b"]),
    ("tier_placement", ["types", "tiers"]), ("type_count", ["counts"]), ("single_tier", []),
    ("fan_out", ["hub"]), ("tier_subset", ["types_a", "types_b"])]

/-- The shape of a name, out of the parts of a signature. -/
def Shape.ofParts? (name : String) (parts : Fields) : Option Shape :=
  let part (name : String) : Json := fieldOr parts name .null
  match name with
  | "presence" => some .presence
  | "unguarded_path" =>
    some (.unguardedPath (part "from") (part "to") (fieldOr parts "guards" (.arr [])))
  | "direct_link" => some (.directLink (part "a") (part "b"))
  | "tier_placement" => some (.tierPlacement (part "types") (part "tiers"))
  | "type_count" => some (.typeCount (part "counts"))
  | "single_tier" => some .singleTier
  | "fan_out" =>
    some (.fanOut (part "hub") (fieldOr parts "max_backends" (.int 1))
      (fieldOr parts "ignore" (.arr [])))
  | "tier_subset" => some (.tierSubset (part "types_a") (part "types_b"))
  | _ => none

/-- A signature. -/
def Signature.read (v : Json) : Entry Signature := do
  let parts ← signatureParts v
  let kind ← field parts "kind"
  let _ ← ofFault kind.toKey
  let name := kind.display
  match shapeParts.lookup name, Shape.ofParts? name parts with
  | some needed, some shape =>
    let lacking := needed.filter fun part => (Fields.get? parts part).isNone
    if lacking.isEmpty then
      return { minNodes := fieldOr parts "min_nodes" (.int 0)
               presentAll := fieldOr parts "present_all" (.arr [])
               presentAny := fieldOr parts "present_any" .null
               absentAll := fieldOr parts "absent_all" (.arr [])
               absentFlows := fieldOr parts "absent_flow_types" .null
               shape }
    else throw (.shapeLacks name lacking)
  | _, _ => throw (.unknownShape name)

/-- An anti-pattern. -/
def AntiPattern.read (fields : Fields) : Entry AntiPattern := do
  let signature ← Signature.read (← field fields "signature")
  let id ← field fields "id"
  let name ← field fields "name"
  let nameKo ← field fields "name_ko"
  let severity ← term "Severity" Severity.all Severity.name (← field fields "severity")
  let problemKo ← field fields "problem_ko"
  let impactKo ← field fields "impact_ko"
  let solutionKo ← field fields "solution_ko"
  return { id, name, nameKo, severity, signature, problemKo, impactKo, solutionKo }

/-- A failure. -/
def Failure.read (fields : Fields) : Entry Failure := do
  let id ← field fields "id"
  let component ← Entry.component id (← field fields "component")
  let title ← field fields "title"
  let titleKo ← field fields "title_ko"
  let scenarioKo ← field fields "scenario_ko"
  let impact ← term "Impact" Impact.all Impact.name (← field fields "impact")
  let likelihood := fieldOr fields "likelihood" (.str "medium")
  let affected ← itemsOf fields "affected_components"
  let preventionKo ← itemsOf fields "prevention_ko"
  let mitigationKo ← itemsOf fields "mitigation_ko"
  let repairTime := (fieldOr fields "estimated_mttr" (.str "")).display
  return { id, component, title, titleKo, scenarioKo, impact, likelihood, affected, preventionKo,
           mitigationKo, repairTime }

/-- A need of the blueprint with an id. -/
def Need.read (id v : Json) : Entry Need := do
  match ← ofFault (v.part? "type") with
  | none => throw (.noField "type")
  | some type =>
    let type ← component id type
    return ⟨type, ((← ofFault (v.part? "min_count"))).getD (.int 1)⟩

/-- A blueprint. -/
def Blueprint.read (fields : Fields) : Entry Blueprint := do
  let id ← field fields "id"
  let name ← field fields "name"
  let nameKo ← field fields "name_ko"
  let descriptionKo := fieldOr fields "description_ko" (.str "")
  let needs ← (← itemsOf fields "required").mapM (Need.read id)
  let optional ← itemsOf fields "optional"
  let scalability := fieldOr fields "scalability" (.str "medium")
  let complexity ← ofFault (fieldOr fields "complexity" (.int 1)).toInt
  let evolvesTo ← itemsOf fields "evolves_to"
  let evolvesFrom ← itemsOf fields "evolves_from"
  let tags ← itemsOf fields "tags"
  return { id, name, nameKo, descriptionKo, needs, optional, scalability, complexity, evolvesTo,
           evolvesFrom, tags }

/-! ## Files -/

/-- What a file of a corpus holds. -/
inductive Page where
  | unreadable
  | document (v : Json)

/-- The files of a corpus by name. -/
abbrev Library := List (String × Page)

namespace Corpus

/-- The listed entries of a file. -/
def entriesOf (library : Library) (file name : String) : Except LoadStop (List Json) :=
  match library.lookup file with
  | none => .error (.refused (.fileMissing file))
  | some .unreadable => .error (.refused (.fileUnreadable file))
  | some (.document v) =>
    let noList : Except LoadStop (List Json) := .error (.refused (.listMissing file name))
    match v with
    | .obj fields =>
      match Fields.get? fields name with
      | some (.arr entries) => .ok entries
      | _ => noList
    | v => if v.truthy then .error (.fault (.noMember v.kind "get")) else noList

/-- An entry of a sort. Numbers that are too large are not mended into a refusal. -/
def entry {α : Type} (sort : String) (read : Fields → Entry α) : Json → Except LoadStop α
  | .obj fields =>
    match read fields with
    | .ok a => .ok a
    | .error flaw =>
      let refused : Except LoadStop α :=
        .error (.refused (.badEntry sort (fieldOr fields "id" .null) flaw))
      match flaw with
      | .fault f => if f.family = .overflow then .error (.fault f) else refused
      | _ => refused
  | v => .error (.fault (.noMember v.kind "get"))

/-- The entries of a file. -/
def page {α : Type} (library : Library) (file name sort : String) (read : Fields → Entry α) :
    Except LoadStop (List α) := do
  (← entriesOf library file name).mapM (entry sort read)

/-- Refuses ids that were used before. -/
def checkIds (sort : String) (seen : List Json.Key) : List Json → Except LoadStop Unit
  | [] => .ok ()
  | id :: rest =>
    match id.toKey with
    | .error f => .error (.fault f)
    | .ok key =>
      if seen.contains key then .error (.refused (.duplicateId sort id))
      else checkIds sort (key :: seen) rest

/-- **The corpus of a library.** -/
def load (library : Library) : Except LoadStop Corpus := do
  let relationships ←
    page library "relationships.yaml" "relationships" "relationship" Relationship.read
  let antiPatterns ← page library "antipatterns.yaml" "antipatterns" "anti-pattern" AntiPattern.read
  let failures ← page library "failures.yaml" "failures" "failure scenario" Failure.read
  let blueprints ← page library "patterns.yaml" "patterns" "pattern" Blueprint.read
  checkIds "relationship" [] (relationships.map (·.id))
  checkIds "anti-pattern" [] (antiPatterns.map (·.id))
  checkIds "failure" [] (failures.map (·.id))
  checkIds "pattern" [] (blueprints.map (·.id))
  return { relationships, antiPatterns, failures, blueprints }

end Corpus

end NetSketch
