import NetSketch.Change.Outcome
import NetSketch.Diagram.Wiring
import NetSketch.Intent.Basic
import NetSketch.Prompt.Mention
import NetSketch.Template.Explanation

/-!
# New diagrams

* `Spec.addWanted`, `Spec.sketch`: a diagram of components, wired from scratch;
* `Spec.ofPrompt`: a diagram of the components that a text names;
* `create`: a diagram for a prompt, from a template or from the components it names;
* `createFrom`: a diagram of the components of an intent.
-/

namespace NetSketch

open Number Prompt

/-! ## Diagrams of components -/

/-- The node that a component becomes in a diagram. -/
def Wanted.node (w : Wanted) (s : Spec) : Node :=
  { id := s.freshId w.type.name
    type := w.type
    label := (w.label.filter (!·.isEmpty)).getD w.type.label
    description := w.description }

namespace Spec

/-- A diagram with a node for one more component. -/
def addWanted (s : Spec) (w : Wanted) : Except Breach Spec := s.addNode (w.node s)

/-- A diagram of components, wired from scratch. -/
def sketch (wanted : List Wanted) : Except Breach Spec := do
  let s ← wanted.foldlM addWanted empty
  return s.connectAll (← chain s.nodes)

/-- Components with somebody outside who uses them. -/
def withEntry (wanted : List Wanted) : List Wanted :=
  if wanted.any fun w => w.type == .user || w.type == .internet then wanted
  else { type := .user } :: wanted

/-- **A diagram of the components that a text names**, if it names some. -/
def ofPrompt (text : String) : Except Breach (Option Spec) :=
  match allNamed text with
  | [] => .ok none
  | types => (sketch (withEntry (types.map fun type => { type }))).map some

end Spec

/-! ## Creation -/

/-- What may be used to create a diagram. -/
structure Options where
  templates : Bool := true
  detection : Bool := true

/-- The steps that put all nodes into an empty diagram. -/
def Spec.creationSteps (s : Spec) : List Modification :=
  s.nodes.map fun n => .addNode n.id n.type none

/-- A diagram made from scratch, with its explanation. -/
def created (store : Store) (s : Spec) (confidence : Binary64) : Reading Outcome :=
  advised store .empty s s.types
    { command := .create, spec := s, confidence, modifications := s.creationSteps
      explanation := explanation? s none }

/-- The diagram of a template. -/
def createdFrom (store : Store) (t : Template) : Reading Outcome :=
  advised store .empty t.spec t.spec.types
    { command := .create, spec := t.spec, confidence := .ofDecimal false 8 (-1)
      template := t.id, explanation := explanation? t.spec t.id }

/-- The template of a prompt, if templates may be used. -/
def Options.template? (options : Options) (prompt : String) : Option Template :=
  if options.templates then Template.forPrompt? prompt <|> Template.byIdIn? prompt else none

/-- The components named in a prompt as a diagram, if they may be used. -/
def Options.sketch (options : Options) (prompt : String) : Except Breach (Option Spec) :=
  if options.detection then Spec.ofPrompt prompt else .ok none

/-- **A diagram for a prompt.** A template is preferred to the components that the prompt names; if
there is neither, the prompt fails and a fallback is proposed. -/
def create (store : Store) (options : Options) (prompt : String) : Reading Outcome := do
  match options.template? prompt with
  | some t => createdFrom store t
  | none =>
    match ← .ofBreach (options.sketch prompt) with
    | some s => created store s half
    | none =>
      return .failed .create .unrecognized
        (if options.templates then some (Fallback.forPrompt prompt).spec else none)

/-- **A diagram of the components of an intent**, if it has some. -/
def createFrom (store : Store) (intent : Intent) : Reading (Option Outcome) := do
  if intent.components.isEmpty then return none
  let s ← .ofBreach (Spec.sketch (Spec.withEntry intent.components))
  return some (← created store s intent.confidence)

end NetSketch
