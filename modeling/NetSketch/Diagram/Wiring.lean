import NetSketch.Diagram.Edit

/-!
# Wiring

Where a node goes when nobody says so. Nodes lie on the request path in the order of their tier
and, within a tier, of their type's rank; side components hang off the path. A position may also
be asked for.

* `PathKey`, `Node.pathKey`, `Node.isSide`;
* `chain`: the connections of nodes placed from scratch;
* `Spec.connectByTier`: a new node among the others;
* `Spec.insertAfter`, `Spec.insertBefore`, `Spec.insertBetween`, `Spec.insertAtStart`,
  `Spec.insertAtEnd`: a new node at a position.
-/

namespace NetSketch

/-! ## Places on the path -/

/-- The place of a node on the request path: its tier, then the rank of its type. -/
structure PathKey where
  tier : Nat
  rank : Nat
  deriving DecidableEq, Repr

/-- Strictly further out. -/
def PathKey.before (a b : PathKey) : Bool :=
  a.tier < b.tier || (a.tier == b.tier && a.rank < b.rank)

/-- The rank of a type along a request path within a tier. -/
def Component.rank : Component → Nat
  | user => 0
  | internet => 1
  | cdn => 2
  | dns => 3
  | router => 4
  | sdWan => 5
  | firewall => 6
  | idsIps => 7
  | waf => 8
  | vpnGateway => 9
  | loadBalancer => 10
  | webServer => 11
  | switchL3 => 12
  | switchL2 => 13
  | awsVpc | azureVnet | gcpNetwork | privateCloud => 14
  | kubernetes => 15
  | container => 16
  | vm => 17
  | appServer => 18
  | cache => 20
  | dbServer => 21
  | sanNas => 22
  | objectStorage => 23
  | storage => 24
  | _ => 30

/-- Whether nodes of a type hang off the path. -/
def Component.isSide (c : Component) : Bool :=
  Component.auth.contains c || [.backup, .dlp, .nac, .zone].contains c

namespace Node

/-- The place of a node on the path. -/
def pathKey (n : Node) : PathKey := ⟨n.tier.index, n.type.rank⟩

/-- Whether a node hangs off the path. -/
def isSide (n : Node) : Bool := n.type.isSide

end Node

/-- The innermost node, of several the last one. -/
def innermost? (nodes : List Node) : Option Node :=
  nodes.foldl (fun best n =>
    match best with
    | none => some n
    | some b => if n.pathKey.before b.pathKey then some b else some n) none

/-- The outermost node, of several the first one. -/
def outermost? (nodes : List Node) : Option Node :=
  nodes.foldl (fun best n =>
    match best with
    | none => some n
    | some b => if n.pathKey.before b.pathKey then some n else some b) none

/-- The innermost path node whose tier is not beyond that of a side node; the first one if all are
beyond. -/
def sideAnchor? (path : List Node) (side : Node) : Option Node :=
  match path with
  | [] => none
  | first :: _ =>
    some ((innermost? (path.filter (·.tier.index ≤ side.tier.index))).getD first)

/-! ## Nodes from scratch -/

/-- The flow of a new connection. -/
def defaultFlow : Option FlowKind := some .request

/-- An edge of a new connection. -/
def newEdge (source target : String) : Except Breach Connection :=
  Connection.between source target defaultFlow

/-- Edges from every node of the first list to every node of the second. -/
def edgesAcross (sources targets : List Node) : Except Breach (List Connection) :=
  (sources.flatMap fun a => targets.map fun b => (a, b)).mapM fun (a, b) => newEdge a.id b.id

/-- Edges from each group to the next one. -/
def edgesAlong : List (List Node) → Except Breach (List Connection)
  | a :: b :: rest => do return (← edgesAcross a b) ++ (← edgesAlong (b :: rest))
  | _ => .ok []

/-- Path nodes from the outside inwards, grouped by their place. -/
def pathGroups (path : List Node) : List (List Node) :=
  (path.mergeSort fun a b => !b.pathKey.before a.pathKey).splitBy fun a b => a.pathKey == b.pathKey

/-- **The connections of nodes placed from scratch.** Each group on the path links to the next one
and each side node hangs off its anchor; side nodes alone stand in a row. -/
def chain (nodes : List Node) : Except Breach (List Connection) := do
  let groups := pathGroups (nodes.filter (!·.isSide))
  let side := nodes.filter (·.isSide)
  let along ← edgesAlong groups
  if groups.isEmpty then
    return along ++ (← (side.zip side.tail).mapM fun (a, b) => newEdge a.id b.id)
  else
    let hung ← (side.filterMap fun n => (sideAnchor? groups.flatten n).map (·, n)).mapM
      fun (anchor, n) => newEdge anchor.id n.id
    return along ++ hung

namespace Spec

variable (s : Spec)

/-! ## A node among the others -/

/-- Edges added by their ends and flows. -/
def connectEach (edges : List (String × String × Option FlowKind)) : Except Breach Spec :=
  edges.foldlM (fun s (source, target, flow) => s.connect source target flow) s

/-- A node given the neighbours of another one. -/
def copyNeighbours (peer id : String) : Except Breach Spec :=
  s.connectEach ((s.incoming peer).map (fun c => (c.source, id, c.flow)) ++
    (s.outgoing peer).map fun c => (id, c.target, c.flow))

/-- The diagram of the first peer whose neighbours bring new edges. -/
def copyFirst? (id : String) : List Node → Except Breach (Option Spec)
  | [] => .ok none
  | peer :: rest => do
    let t ← s.copyNeighbours peer.id id
    if t = s then copyFirst? id rest else return some t

/-- The flow of the last connection between two ids, or that of a new one. -/
def flowBetween (first second : String) : Option FlowKind :=
  s.connections.foldl
    (fun flow c => if c.source = first ∧ c.target = second then c.flow else flow) defaultFlow

/-- A node put between two others, with the flow of their connection on both sides. -/
def insertBetween (id first second : String) : Except Breach Spec := do
  let flow := s.flowBetween first second
  let t := (s.removeConnection first second).removeConnection second first
  let t ← t.connect first id flow
  t.connect id second flow

/-- **A node wired to its neighbours by tier.** A side node hangs off its anchor. A path node takes
the neighbours of a peer of its type, else goes between its neighbours on the path. -/
def connectByTier (id : String) : Except Breach Spec := do
  let others := s.nodes.filter (·.id != id)
  match s.node? id with
  | none => return s
  | some node =>
    if others.isEmpty then return s
    let path := others.filter (!·.isSide)
    if node.isSide then
      match sideAnchor? (if path.isEmpty then others else path) node with
      | none => return s
      | some anchor => s.connect anchor.id id defaultFlow
    else
      match ← s.copyFirst? id (path.filter (·.type == node.type)) with
      | some t => return t
      | none =>
        let outer := innermost? (path.filter (·.pathKey.before node.pathKey))
        let inner := outermost? (path.filter (node.pathKey.before ·.pathKey))
        match outer, inner with
        | some a, some b =>
          if s.hasConnection a.id b.id then s.insertBetween id a.id b.id
          else do
            let t ← s.connect a.id id defaultFlow
            if (t.incoming b.id).isEmpty then t.connect id b.id defaultFlow else return t
        | some a, none => s.connect a.id id defaultFlow
        | none, some b => s.connect id b.id defaultFlow
        | none, none => return s

/-! ## Positions -/

/-- A node put behind another one. A path node takes over its outgoing connections. -/
def insertAfter (id ref : String) : Except Breach Spec := do
  let moves := ((s.node? id).map (!·.isSide)).getD false
  let moved := if moves then (s.outgoing ref).filter (·.target != id) else []
  let t ← moved.foldlM (fun (t : Spec) c =>
    (t.removeConnection c.source c.target).connect id c.target c.flow) s
  t.connect ref id defaultFlow

/-- A node put in front of another one, whose incoming connections it takes over. -/
def insertBefore (id ref : String) : Except Breach Spec := do
  let t ← ((s.incoming ref).filter (·.source != id)).foldlM (fun (t : Spec) c =>
    (t.removeConnection c.source c.target).connect c.source id c.flow) s
  t.connect id ref defaultFlow

/-- A node put in front of all nodes that nothing leads to, or of the first one. -/
def insertAtStart (id : String) : Except Breach Spec :=
  let others := s.nodes.filter (·.id != id)
  let entries := others.filter fun n => (s.incoming n.id).isEmpty
  (if entries.isEmpty then others.take 1 else entries).foldlM
    (fun (t : Spec) (n : Node) => t.connect id n.id defaultFlow) s

/-- A node put behind the innermost path node that leads nowhere, or behind the innermost node. -/
def insertAtEnd (id : String) : Except Breach Spec :=
  let others := s.nodes.filter (·.id != id)
  let sinks := others.filter fun n => !n.isSide && (s.outgoing n.id).isEmpty
  match innermost? (if sinks.isEmpty then others else sinks) with
  | none => .ok s
  | some n => s.connect n.id id defaultFlow

end Spec

end NetSketch
