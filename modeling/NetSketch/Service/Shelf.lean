import NetSketch.Diagram.Document
import NetSketch.Json.Numbers
import NetSketch.Number.Quantity

/-!
# Stored diagrams

A stored diagram belongs to the caller who stored it first. Beside it stands what an editor wants
to keep about its nodes and connections. A value that is the same as the one that is kept is not
written again.

* `inColumn`, `orKept`: what is kept of values;
* `StoredDiagram` and its document; `Shelf`, `Shelf.get?`, `Shelf.save`.
-/

namespace NetSketch.Service

open Number

/-! ## Columns -/

/-- A value as a column keeps it. A number by itself has 64 bits: an integer that fits is kept as
such, and so is a floating-point number that is one; any other is the floating-point number nearest
to it. -/
def inColumn : Json → Json
  | .int i =>
    if -(twoTo 63 : Int) ≤ i ∧ i < twoTo 63 then .int i else .float (Quantity.whole i).rounded
  | .float x =>
    match if x.isIntegral then x.truncate? else none with
    | some i => if i.natAbs < twoTo 63 then .int i else .float x
    | none => .float x
  | v => v

/-- What is kept of a value when another one is given: the value, if the other is null or the same,
else the other one. -/
def orKept (old new : Json) : Json :=
  match new with
  | .null => old
  | new => if new.same old then old else inColumn new

/-! ## Diagrams -/

/-- A stored diagram. -/
structure StoredDiagram where
  id : String
  owner : String
  spec : Spec
  /-- What an editor keeps about the nodes. -/
  nodes : Json := .null
  /-- What an editor keeps about the connections. -/
  edges : Json := .null

/-- The document of a stored diagram. Every stored diagram has a time of its last change. -/
def StoredDiagram.toJson (d : StoredDiagram) : Json :=
  .obj [("id", .str d.id), ("spec", d.spec.toJson), ("nodesJson", d.nodes),
    ("edgesJson", d.edges), ("updatedAt", .bool true)]

/-- What is stored anew. -/
structure Update where
  spec : Spec
  nodes : Json := .null
  edges : Json := .null

/-- A stored diagram with an update; its owner stays. -/
def StoredDiagram.update (d : StoredDiagram) (u : Update) : StoredDiagram :=
  { d with spec := u.spec, nodes := orKept d.nodes u.nodes, edges := orKept d.edges u.edges }

/-- Diagrams by their ids. -/
abbrev Shelf := List StoredDiagram

namespace Shelf

/-- The diagram of an id. -/
def get? (shelf : Shelf) (id : String) : Option StoredDiagram := shelf.find? (·.id == id)

/-- Whether a caller may store a diagram under an id. -/
def mayStore (shelf : Shelf) (caller id : String) : Bool :=
  ((shelf.get? id).map (·.owner)).all (· == caller)

/-- An update stored under an id: the diagram that is there now, and the shelf. A new diagram
belongs to the caller. -/
def save (shelf : Shelf) (caller id : String) (u : Update) : StoredDiagram × Shelf :=
  match shelf.get? id with
  | some old =>
    let new := old.update u
    (new, shelf.map fun d => if d.id = id then new else d)
  | none =>
    let new := { id, owner := caller, spec := u.spec
                 nodes := inColumn u.nodes, edges := inColumn u.edges }
    (new, shelf ++ [new])

end Shelf

end NetSketch.Service
