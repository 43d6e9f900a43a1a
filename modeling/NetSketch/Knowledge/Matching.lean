import NetSketch.Diagram.View
import NetSketch.Json.Fault
import NetSketch.Knowledge.Entry

/-!
# Signatures and diagrams

Whether a diagram has the shape that a signature describes. The parts of a signature are used as
they were written; one of the wrong kind is a fault, but only when it is used.

* `Signature.prepared`: the preconditions; `Shape.fits`: the structural check;
* `AntiPattern.fits`, `Blueprint.fits`.
-/

namespace NetSketch

/-! ## Raw parts -/

namespace Json

/-- The texts among the items of a value, all of which must be keys. -/
def keyTexts (v : Json) : Except Fault (List String) := do
  let items ← v.items
  let _ ← items.mapM toKey
  return items.filterMap text?

/-- The component types among the items of a value. -/
def componentsIn (v : Json) : Except Fault (List Component) := do
  return (← v.keyTexts).filterMap Component.ofName?

/-- Whether a word can be found in a value. -/
def mentions (word : String) : Json → Except Fault Bool
  | obj fields => .ok (Fields.get? fields word).isSome
  | str s => .ok (Text.holds s word)
  | arr items => .ok (items.any fun v => v.text? == some word)
  | v => .error (.notSearchable v.kind)

/-- The part under a word, if the word can be found. -/
def bound? (rule : Json) (word : String) : Except Fault (Option Json) := do
  if ← rule.mentions word then rule.part? word else return none

/-- Whether a raw value is one of some component types. -/
def isAmong (types : List Component) (v : Json) : Except Fault Bool := do
  let _ ← v.toKey
  return (v.text?.bind Component.ofName?).any types.contains

end Json

/-! ## Preconditions -/

/-- Whether the preconditions of a signature hold, tested one after the other. -/
def Signature.prepared (s : Signature) (v : View) : Except Fault Bool := do
  if (← Json.order "<" (.int v.nodes.length) s.minNodes) == some .lt then return false
  unless ← (← s.presentAll.items).allM (Json.isAmong v.types) do return false
  if s.presentAny.truthy then
    unless ← (← s.presentAny.items).anyM (Json.isAmong v.types) do return false
  if ← (← s.absentAll.items).anyM (Json.isAmong v.types) then return false
  if s.absentFlows.truthy then
    let flows ← s.absentFlows.keyTexts
    if v.flows.any fun flow => flows.contains flow.name then return false
  return true

/-! ## Structural checks -/

/-- Whether a count keeps a rule. -/
def countFits (n : Nat) (rule : Json) : Except Fault Bool := do
  let n : Json := .int n
  if let some x ← rule.bound? "eq" then
    unless n.sameNumber x do return false
  if let some x ← rule.bound? "min" then
    if (← Json.order "<" n x) == some .lt then return false
  if let some x ← rule.bound? "max" then
    if (← Json.order ">" n x) == some .gt then return false
  return true

/-- How many nodes of a view have a type of this name. -/
def View.countOf (v : View) (name : String) : Nat :=
  ((Component.ofName? name).map v.types.count).getD 0

/-- The tiers in which nodes of some types stand. -/
def View.tiersOf (v : View) (types : List Component) : List Tier :=
  (v.nodesOfTypes types).map (·.tier)

/-- The nodes that a hub leads to and that are not to be ignored. -/
def View.backends (v : View) (ignored : List Component) (hub : NodeView) : List String :=
  hub.connectedTo.filter fun id => (v.node? id).isSome && !v.isOf ignored id

/-- **Whether a view has a shape.** -/
def Shape.fits (shape : Shape) (v : View) : Except Fault Bool :=
  match shape with
  | .presence => .ok true
  | .unguardedPath sources targets guards => do
    let targets ← targets.componentsIn
    let guards ← guards.componentsIn
    return v.unguardedPath (← sources.componentsIn) targets guards
  | .directLink a b => do return v.directLink (← a.componentsIn) (← b.componentsIn)
  | .tierPlacement types tiers => do
    let tiers ← tiers.keyTexts
    return (v.tiersOf (← types.componentsIn)).any fun tier => tiers.contains tier.name
  | .typeCount counts =>
    match counts with
    | .obj fields => fields.allM fun (name, rule) => countFits (v.countOf name) rule
    | counts => .error (.noMember counts.kind "items")
  | .singleTier =>
    let inner := (v.nodes.map (·.tier)).filter (· != .external)
    .ok (2 ≤ inner.length && inner.eraseDups.length == 1)
  | .fanOut hub most ignored => do
    let ignored ← ignored.componentsIn
    let hubs := v.nodesOfTypes (← (Json.arr [hub]).componentsIn)
    hubs.anyM fun hub => do
      let order ← Json.order "<=" (.int (v.backends ignored hub).length) most
      return order == some .lt || order == some .eq
  | .tierSubset inner outer => do
    let inner := v.tiersOf (← inner.componentsIn)
    let outer := v.tiersOf (← outer.componentsIn)
    return !inner.isEmpty && !outer.isEmpty && inner.all outer.contains

/-- Whether a view has a signature; the empty one has none. -/
def Signature.fits (s : Signature) (v : View) : Except Fault Bool := do
  if v.nodes.isEmpty then return false
  if ← s.prepared v then s.shape.fits v else return false

/-- Whether a view shows an anti-pattern. -/
def AntiPattern.fits (a : AntiPattern) (v : View) : Except Fault Bool := a.signature.fits v

/-- Whether a view has as many nodes of a type as a need says. -/
def Need.isMet (need : Need) (v : View) : Except Fault Bool := do
  let order ← Json.order ">=" (.int (v.types.count need.type)) need.least
  return order == some .gt || order == some .eq

/-- Whether a view meets all needs of a blueprint that has some. -/
def Blueprint.fits (b : Blueprint) (v : View) : Except Fault Bool := do
  if b.needs.isEmpty then return false else b.needs.allM (·.isMet v)

end NetSketch
