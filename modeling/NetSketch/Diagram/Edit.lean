import NetSketch.Diagram.Basic

/-!
# Edits of diagrams

Edits give new diagrams. Only those that could break a rule may fail.

* `Spec.addNode`, `Spec.removeNode`, `Spec.updateNode`;
* `Spec.addConnection`, which leaves out edges that dangle or are there already, and
  `Spec.removeConnection`;
* `Spec.connect`: a new edge by its ends.
-/

namespace NetSketch.Spec

variable (s : Spec)

/-- A node added at the end. -/
def addNode (n : Node) : Except Breach Spec := { s with nodes := s.nodes ++ [n] : Spec }.check

/-- The diagram without a node and the connections that touch it. -/
def removeNode (id : String) : Spec :=
  { s with
    nodes := s.nodes.filter (·.id != id)
    connections := s.connections.filter fun c => c.source != id && c.target != id }

/-- Every node with an id changed. -/
def updateNode (id : String) (change : Node → Node) : Except Breach Spec :=
  { s with nodes := s.nodes.map fun (n : Node) => if n.id = id then change n else n : Spec }.check

/-- A connection added at the end, unless an end is missing or the edge is there already. -/
def addConnection (c : Connection) : Spec :=
  if !(s.ids.contains c.source && s.ids.contains c.target) then s
  else if s.hasConnection c.source c.target then s
  else { s with connections := s.connections ++ [c] }

/-- The diagram without the connections from one id to another. -/
def removeConnection (source target : String) : Spec :=
  { s with connections := s.connections.filter fun c => !(c.source == source && c.target == target) }

/-- An edge between two ids added. -/
def connect (source target : String) (flow : Option FlowKind) : Except Breach Spec := do
  return s.addConnection (← Connection.between source target flow)

/-- Edges added one after another. -/
def connectAll (edges : List Connection) : Spec := edges.foldl addConnection s

end NetSketch.Spec
