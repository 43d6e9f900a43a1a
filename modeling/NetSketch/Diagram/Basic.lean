import NetSketch.Catalog.Component
import NetSketch.Text.Blank

/-!
# Diagrams

A diagram is a list of nodes, a list of connections between them and, perhaps, a list of zones. It
is well formed when its node ids are told apart and not blank, no connection is a loop and every
connection ends at nodes of the diagram.

* `Node`, `Connection`, `Zone`, `Spec`;
* `Breach`: how a rule for diagrams is broken, and `Breach.message`;
* `Spec.WellFormed` and the checker `Spec.check`;
* queries: `Spec.node?`, `Spec.nodesOfType`, `Spec.hasConnection`, `Spec.freshId`.
-/

namespace NetSketch

/-! ## Parts -/

/-- A node. Its tier is that of its type unless it says otherwise. -/
structure Node where
  id : String
  type : Component
  label : String
  tierOverride : Option Tier := none
  zone : Option String := none
  description : Option String := none
  deriving DecidableEq, Repr

/-- The tier of a node. -/
def Node.tier (n : Node) : Tier := n.tierOverride.getD n.type.tier

/-- A connection from one node to another. -/
structure Connection where
  source : String
  target : String
  flow : Option FlowKind := none
  label : Option String := none
  bidirectional : Option Bool := none
  deriving DecidableEq, Repr

/-- The ends of a connection. -/
def Connection.ends (c : Connection) : String × String := (c.source, c.target)

/-- A zone that nodes may name. -/
structure Zone where
  id : String
  label : String
  tier : Tier
  deriving DecidableEq, Repr

/-- A diagram. -/
structure Spec where
  nodes : List Node
  connections : List Connection
  zones : Option (List Zone) := none
  deriving DecidableEq, Repr

/-- How a rule for diagrams is broken. -/
inductive Breach where
  | blankId
  | unknownType (name : String)
  | selfLoop (source target : String)
  | duplicateId (id : String)
  | missingNode (source target : String)
  deriving DecidableEq, Repr

/-- The text of a breach. -/
def Breach.message : Breach → String
  | blankId => "node id must not be empty"
  | unknownType name => "unknown node type '" ++ name ++ "'"
  | selfLoop source target => "connection " ++ source ++ " -> " ++ target ++ " is a self loop"
  | duplicateId id => "duplicate node id '" ++ id ++ "'"
  | missingNode source target =>
    "connection " ++ source ++ " -> " ++ target ++ " references a missing node"

/-- A connection between two different ids. -/
def Connection.between (source target : String) (flow : Option FlowKind) :
    Except Breach Connection :=
  if source = target then .error (.selfLoop source target) else .ok { source, target, flow }

namespace Spec

/-- The diagram without nodes. -/
def empty : Spec := ⟨[], [], none⟩

instance : Inhabited Spec := ⟨empty⟩

variable (s : Spec)

/-- The ids of the nodes in order. -/
def ids : List String := s.nodes.map (·.id)

/-- The types of the nodes in order. -/
def types : List Component := s.nodes.map (·.type)

/-- The ends of the connections in order. -/
def ends : List (String × String) := s.connections.map (·.ends)

/-! ## Well-formedness -/

/-- **The rules of a diagram.** -/
structure WellFormed : Prop where
  ids_nodup : s.ids.Nodup
  id_not_blank : ∀ n ∈ s.nodes, Text.isAllBlank n.id = false
  no_loop : ∀ c ∈ s.connections, c.source ≠ c.target
  source_mem : ∀ c ∈ s.connections, c.source ∈ s.ids
  target_mem : ∀ c ∈ s.connections, c.target ∈ s.ids

/-- The first id that occurs again after itself, reading from the front. -/
def firstRepeated (seen : List String) : List String → Option String
  | [] => none
  | id :: rest => if id ∈ seen then some id else firstRepeated (id :: seen) rest

/-- The first breach of a rule about several parts of the diagram. -/
def breach? : Option Breach :=
  match firstRepeated [] s.ids with
  | some id => some (.duplicateId id)
  | none =>
    (s.connections.find? fun c => !(s.ids.contains c.source && s.ids.contains c.target)).map
      fun c => .missingNode c.source c.target

/-- The diagram itself, if its parts fit together. -/
def check : Except Breach Spec :=
  match s.breach? with
  | some b => .error b
  | none => .ok s

/-! ## Queries -/

/-- The first node with an id. -/
def node? (id : String) : Option Node := s.nodes.find? (·.id == id)

/-- The nodes of a type in order. -/
def nodesOfType (type : Component) : List Node := s.nodes.filter (·.type == type)

/-- Whether a connection runs from one id to another. -/
def hasConnection (source target : String) : Bool :=
  s.connections.any fun c => c.source == source && c.target == target

/-- The connections into a node. -/
def incoming (id : String) : List Connection := s.connections.filter (·.target == id)

/-- The connections out of a node. -/
def outgoing (id : String) : List Connection := s.connections.filter (·.source == id)

/-- A numbered id. -/
def numberedId (name : String) (n : Nat) : String := name ++ "-" ++ Nat.repr n

/-- The first unused number from `n` on, trying at most `tries` times. -/
def freshFrom (name : String) (used : List String) : Nat → Nat → Nat
  | 0, n => n
  | tries + 1, n =>
    if used.contains (numberedId name n) then freshFrom name used tries (n + 1) else n

/-- The numbered id of a type name with the smallest number that no node uses. -/
def freshId (name : String) : String :=
  numberedId name (freshFrom name s.ids s.ids.length 1)

end Spec

end NetSketch
