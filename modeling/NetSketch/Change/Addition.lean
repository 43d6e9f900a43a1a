import NetSketch.Change.Creation
import NetSketch.Change.Removal

/-!
# Addition of nodes

* `Spot`: where a node goes; `Spec.place`;
* `add`: the components that a prompt or an intent wants to have, put where it says.
-/

namespace NetSketch

open Prompt Text

/-! ## Spots -/

/-- Where a node goes. -/
inductive Spot where
  | byTier
  | first
  | last
  | after (ref : String)
  | before (ref : String)
  | between (a b : String)
  deriving DecidableEq, Repr

/-- The spot of a hint whose references mean these nodes. What is not found is as if not said. -/
def Spot.of (hint : Option Hint) (ref second : Option Node) : Spot :=
  match hint with
  | none => .byTier
  | some h =>
    match h.placement, ref, second with
    | .start, _, _ => .first
    | .finish, _, _ => .last
    | _, none, _ => .byTier
    | .after, some a, _ => .after a.id
    | .before, some a, _ => .before a.id
    | .between, some a, some b => .between a.id b.id
    | .between, some a, none => .after a.id

/-- A node of the diagram wired at a spot. -/
def Spec.place (s : Spec) (id : String) : Spot → Except Breach Spec
  | .byTier => s.connectByTier id
  | .first => s.insertAtStart id
  | .last => s.insertAtEnd id
  | .after ref => s.insertAfter id ref
  | .before ref => s.insertBefore id ref
  | .between a b => s.insertBetween id a b

/-! ## Addition -/

/-- The hint of an intent, else of a prompt. -/
def hintBy (intent : Option Intent) (prompt : String) : Option Hint :=
  (intent.bind (·.position)) <|> hint? (lower prompt)

/-- The node that a reference of a hint means. -/
def Spec.resolveIn (s : Spec) (hint : Option Hint) (reference : Hint → Option String) :
    Option Node :=
  hint.bind fun h => s.resolve? (reference h)

/-- Mentions without those that only tell what a hint refers to. -/
def withoutReferences (found : List Mention) (hint : Option Hint) (refs : List Component) :
    List Mention :=
  match hint with
  | none => found
  | some h => found.filter fun m =>
    !(refs.contains m.type && h.span.1 ≤ m.start && m.finish ≤ h.span.2)

/-- Components added one after the other, with the steps taken. Of several components at one spot
each goes behind the one before it, unless they are put in front of something. -/
def Spec.addEach (inRow : Bool) (spot : Spot) (s : Spec) :
    List Wanted → Except Breach (Spec × List Modification)
  | [] => .ok (s, [])
  | w :: rest => do
    let n := w.node s
    let t ← s.addNode n
    let u ← t.place n.id spot
    let (v, steps) ← addEach inRow (if inRow then .after n.id else spot) u rest
    return (v, .addNode n.id n.type (some n.label) :: t.connectionChanges u ++ steps)

/-- Whether components put at a position stand in a row. -/
def Placement.inRow : Placement → Bool
  | .after | .between | .finish => true
  | .before | .start => false

/-- **Components added on request.** -/
def add (store : Store) (prompt : String) (spec : Option Spec) (intent : Option Intent) :
    Reading Outcome := do
  match spec with
  | none => return .failed .add .noDiagram none
  | some s =>
    let hint := hintBy intent prompt
    let ref := s.resolveIn hint (·.reference)
    let second := s.resolveIn hint (·.second)
    let asked := wantedBy intent
    let wanted := if asked.isEmpty then
        (withoutReferences (mentions (lower prompt)) hint
          (([ref, second].filterMap id).map (·.type))).map fun m => { type := m.type }
      else asked
    if wanted.isEmpty then return .failed .add .nothingToAdd none
    let (t, steps) ←
      .ofBreach (s.addEach (hint.any (·.placement.inRow)) (.of hint ref second) wanted)
    advised store s t (wanted.map (·.type))
      { command := .add, spec := t, confidence := confidenceBy intent, modifications := steps }

end NetSketch
