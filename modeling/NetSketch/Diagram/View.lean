import NetSketch.Diagram.Basic
import NetSketch.Json.Basic

/-!
# Views of diagrams

A view tells for every node what it is connected to. It grows node by node and connection by
connection; everything that is asked about the shape of a diagram is asked of its view.

* `NodeView`, `Link`, `View`; `View.addNode`, `View.addLink`, `View.of`, `View.ofSpec?`;
* `View.neighbours`, `View.unguardedPath`, `View.directLink`;
* `architecture`, `View.summary`, `View.text`: what a diagram is, in words;
* `NodeView.toFields`, `Link.toJson`, `View.toFields`: a view as a document.
-/

namespace NetSketch

/-- A node and its neighbourhood. -/
structure NodeView where
  id : String
  type : Component
  label : String
  tier : Tier
  connectedTo : List String := []
  connectedFrom : List String := []
  outgoingTypes : List Component := []
  incomingTypes : List Component := []
  deriving DecidableEq, Repr

/-- The category of a node. -/
def NodeView.category (n : NodeView) : Category := n.type.category

/-- A connection with the types at its ends. -/
structure Link where
  source : String
  target : String
  sourceType : Component
  targetType : Component
  flow : Option FlowKind
  label : Option String
  deriving DecidableEq, Repr

/-- A view of a diagram. -/
structure View where
  nodes : List NodeView
  links : List Link
  deriving DecidableEq, Repr

/-- An element added at the end unless it is there. -/
def addOnce {α : Type} [BEq α] (xs : List α) (a : α) : List α :=
  if xs.contains a then xs else xs ++ [a]

/-- The distinct elements of a list with their counts, in order of first occurrence. -/
def tally {α : Type} [BEq α] (xs : List α) : List (α × Nat) :=
  xs.eraseDups.map fun a => (a, xs.count a)

namespace View

/-! ## Growing a view -/

/-- The view of a node by itself; a node without a label is called by its id. -/
def single (n : Node) : NodeView :=
  { id := n.id, type := n.type, label := if n.label.isEmpty then n.id else n.label, tier := n.tier }

/-- A node put in the place of the one with its id, or at the end. -/
def placed (n : NodeView) : List NodeView → List NodeView
  | [] => [n]
  | m :: rest => if m.id = n.id then n :: rest else m :: placed n rest

/-- The node of an id. -/
def node? (v : View) (id : String) : Option NodeView := v.nodes.find? (·.id == id)

/-- A view with one more node. -/
def addNode (v : View) (n : Node) : View := { v with nodes := placed (single n) v.nodes }

/-- A view with one more connection, if both its ends are known. -/
def addLink (v : View) (c : Connection) : View :=
  match v.node? c.source, v.node? c.target with
  | some a, some b =>
    { nodes := v.nodes.map fun n =>
        let n := if n.id = a.id then
          { n with connectedTo := n.connectedTo ++ [b.id],
                   outgoingTypes := addOnce n.outgoingTypes b.type } else n
        if n.id = b.id then
          { n with connectedFrom := n.connectedFrom ++ [a.id],
                   incomingTypes := addOnce n.incomingTypes a.type } else n
      links := v.links ++ [⟨a.id, b.id, a.type, b.type, c.flow, c.label⟩] }
  | _, _ => v

/-- **The view of nodes and connections.** -/
def of (nodes : List Node) (connections : List Connection) : View :=
  connections.foldl addLink (nodes.foldl addNode ⟨[], []⟩)

/-- The view of a diagram; no diagram is an empty one. -/
def ofSpec? : Option Spec → View
  | some s => of s.nodes s.connections
  | none => of [] []

variable (v : View)

/-! ## Questions -/

/-- The types of the nodes. -/
def types : List Component := v.nodes.map (·.type)

/-- The nodes of some types. -/
def nodesOfTypes (types : List Component) : List NodeView :=
  v.nodes.filter fun n => types.contains n.type

/-- The kinds of flow that connections name. -/
def flows : List FlowKind := v.links.filterMap (·.flow)

/-- The ids of the nodes joined to a node, whichever way the connection runs. -/
def neighbours (id : String) : List String :=
  match v.node? id with
  | some n => n.connectedTo ++ n.connectedFrom
  | none => []

/-- Whether the node of an id is of one of some types. -/
def isOf (types : List Component) (id : String) : Bool :=
  ((v.node? id).map fun n => types.contains n.type).getD false

/-- The ids seen and those reached from them in at most `rounds` steps, where a guard is reached
but not passed. -/
def spread (guards : List Component) : Nat → List String → List String → List String
  | 0, _, seen => seen
  | rounds + 1, frontier, seen =>
    let fresh := ((frontier.flatMap v.neighbours).filter (!seen.contains ·)).eraseDups
    if fresh.isEmpty then seen
    else spread guards rounds (fresh.filter (!v.isOf guards ·)) (seen ++ fresh)

/-- The ids reached from a node without passing a guard. -/
def reached (guards : List Component) (start : String) : List String :=
  (v.spread guards v.nodes.length [start] [start]).filter (· != start)

/-- **Whether some node of the first types reaches one of the second without passing a guard.** -/
def unguardedPath (sources targets guards : List Component) : Bool :=
  (v.nodesOfTypes sources).any fun start => (v.reached guards start.id).any (v.isOf targets)

/-- Whether a connection joins a node of the first types with one of the second. -/
def directLink (a b : List Component) : Bool :=
  v.links.any fun l =>
    (a.contains l.sourceType && b.contains l.targetType) ||
      (b.contains l.sourceType && a.contains l.targetType)

end View

/-! ## In words -/

/-- The kind of architecture that some types make. -/
def architecture (types : List Component) : String :=
  let has (c : Component) : Bool := types.contains c
  if has .webServer && has .appServer && has .dbServer then "3티어 웹 아키텍처"
  else if has .kubernetes || has .container then "컨테이너 기반 아키텍처"
  else if has .webServer && has .dbServer && !has .appServer then "2티어 웹 아키텍처"
  else if has .loadBalancer && (has .webServer || has .appServer) then "로드밸런싱 아키텍처"
  else if has .firewall || has .waf then "보안 중심 아키텍처"
  else "인프라 다이어그램"

/-- Names with their counts. -/
def tallyText (names : List String) : String :=
  String.intercalate ", " ((tally names).map fun (name, n) => name ++ ": " ++ Nat.repr n ++ "개")

namespace View

variable (v : View)

/-- The kind of architecture; none for a view without nodes. -/
def architectureType : String := if v.nodes.isEmpty then "" else architecture v.types

/-- The view in one line. -/
def summary : String :=
  if v.nodes.isEmpty then "빈 다이어그램"
  else
    v.architectureType ++ " (총 " ++ Nat.repr v.nodes.length ++ "개 노드) | 카테고리: " ++
      tallyText (v.nodes.map (·.category.name)) ++ " | 티어: " ++
      tallyText (v.nodes.map (·.tier.name))

/-- A node and what it leads to. -/
def nodeText (n : NodeView) : String :=
  "  " ++ n.id ++ " (" ++ n.type.name ++ ") [" ++ n.tier.name ++ "] -> [" ++
    String.intercalate ", " n.connectedTo ++ "]"

/-- The nodes of the view, then its summary. -/
def text : String :=
  "Nodes:\n" ++ String.intercalate "\n" (v.nodes.map nodeText) ++ "\n\nSummary: " ++ v.summary

end View

/-! ## As documents -/

/-- The fields of a node and its connections. -/
def NodeView.toFields (n : NodeView) : Fields :=
  [("id", .str n.id), ("type", .str n.type.name), ("label", .str n.label),
    ("category", .str n.category.name), ("tier", .str n.tier.name),
    ("connected_to", .arr (n.connectedTo.map .str)),
    ("connected_from", .arr (n.connectedFrom.map .str))]

/-- A text or null. -/
def textOrNull (s : Option String) : Json := (s.map .str).getD .null

/-- The document of a connection with the types at its ends. -/
def Link.toJson (l : Link) : Json :=
  .obj [("source", .str l.source), ("target", .str l.target),
    ("source_type", .str l.sourceType.name), ("target_type", .str l.targetType.name),
    ("flow_type", textOrNull (l.flow.map (·.name))), ("label", textOrNull l.label)]

/-- The fields of a view. -/
def View.toFields (v : View) : Fields :=
  [("nodes", .arr (v.nodes.map fun n => .obj n.toFields)),
    ("connections", .arr (v.links.map (·.toJson))), ("summary", .str v.summary),
    ("architecture_type", .str v.architectureType)]

end NetSketch
