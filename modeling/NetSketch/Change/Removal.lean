import NetSketch.Change.Outcome
import NetSketch.Diagram.Wiring
import NetSketch.Intent.Basic
import NetSketch.Prompt.Reference

/-!
# Removal of nodes

* `Spec.bridgeOver`: a node taken out of its path, which stays whole;
* `Spec.removeAll`: several nodes, one after the other;
* `remove`: the nodes that a prompt or an intent wants to be gone.
-/

namespace NetSketch

open Text

namespace Spec

variable (s : Spec)

/-! ## Bridges -/

/-- The edges that join what leads to a node with what it leads to, other nodes to be removed
aside. -/
def bridges (n : Node) (removed : List String) : List Connection :=
  let sources := (s.incoming n.id).filter fun c => !removed.contains c.source
  let targets := (s.outgoing n.id).filter fun c => !removed.contains c.target
  sources.flatMap fun p => targets.filterMap fun q =>
    if p.source = q.target then none
    else some { source := p.source, target := q.target, flow := p.flow }

/-- A node removed. The path of a path node is bridged. -/
def bridgeOver (n : Node) (removed : List String) : Spec :=
  (s.removeNode n.id).connectAll (if n.isSide then [] else s.bridges n removed)

/-- Nodes removed one after the other, with the steps taken. -/
def removeEach (removed : List String) : Spec → List String → Spec × List Modification
  | s, [] => (s, [])
  | s, id :: rest =>
    match s.node? id with
    | none => removeEach removed s rest
    | some n =>
      let t := s.bridgeOver n removed
      let (u, steps) := removeEach removed t rest
      (u, .removeNode id n.type :: s.connectionChanges t ++ steps)

/-- **Nodes removed**, with the steps taken. -/
def removeAll (ids : List String) : Spec × List Modification := removeEach ids s ids

/-! ## What is affected -/

/-- The types of the nodes that are joined to removed ones and stay. -/
def neighbourTypes (removed : List String) : List Component :=
  s.connections.filterMap fun c =>
    let other :=
      if removed.contains c.source && !removed.contains c.target then some c.target
      else if removed.contains c.target && !removed.contains c.source then some c.source
      else none
    (other.bind s.node?).map (·.type)

/-- The nodes that a prompt wants to be gone: those whose id it holds, else all of the types that
it names. -/
def unwanted (prompt : String) : List Node :=
  let named := s.named prompt
  let byId := named.filter fun n => holds (lower prompt) (lower n.id)
  if byId.isEmpty then
    s.nodes.filter fun n => (named.map (·.type)).contains n.type
  else byId

end Spec

/-- The types that a removal affects: those of neighbours and those that depend on what is gone. -/
def affectedByRemoval (store : Store) (before after : Spec) (targets : List Node) :
    List Component :=
  let gone := (targets.map (·.type)).filter (!after.types.contains ·)
  let neighbours := (before.neighbourTypes (targets.map (·.id))).filter after.types.contains
  let dependants := after.types.filter fun c =>
    (store.dependenciesFor c).any fun (_, needed) => gone.contains needed
  neighbours ++ dependants

/-- The confidence of an edit: that of its intent, if it has one. -/
def confidenceBy (intent : Option Intent) : Number.Binary64 :=
  (intent.map (·.confidence)).getD editConfidence

/-- The components of an intent, none without an intent. -/
def wantedBy (intent : Option Intent) : List Wanted := (intent.map (·.components)).getD []

/-- **Nodes removed on request.** -/
def remove (store : Store) (prompt : String) (spec : Option Spec) (intent : Option Intent) :
    Reading Outcome :=
  match spec with
  | none => .ok (.failed .remove .noDiagram none)
  | some s =>
    let wanted := (wantedBy intent).map (·.type)
    let targets := if wanted.isEmpty then s.unwanted prompt
      else s.nodes.filter fun n => wanted.contains n.type
    if targets.isEmpty then .ok (.failed .remove .nothingToRemove none)
    else
      let (t, steps) := s.removeAll (targets.map (·.id))
      advised store s t (affectedByRemoval store s t targets)
        { command := .remove, spec := t, confidence := confidenceBy intent, modifications := steps }

end NetSketch
