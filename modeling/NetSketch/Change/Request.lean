import NetSketch.Change.Amendment
import NetSketch.Change.Joining
import NetSketch.Diagram.View

/-!
# Requests

A prompt is followed by its command; a prompt that an assistant understood, by its intent.

* `query`: a question about a diagram;
* `edit`: an edit by its command;
* `follow`: a prompt by its own words; `followIntent`: by an intent; `followLocally`: a prompt
  where there may be no diagram yet.
-/

namespace NetSketch

open Prompt Text Text.Pattern

/-- A question leaves the diagram as it is and is answered by its summary. -/
def query (spec : Option Spec) : Outcome :=
  .done { command := .query, spec, confidence := .ofRatio false 1 1
          explanation := (View.ofSpec? spec).text }

/-- An edit by its command; what is no edit makes a new diagram. -/
def edit (store : Store) (options : Options) (prompt : String) (spec : Option Spec)
    (intent : Option Intent) : Command → Reading Outcome
  | .add => add store prompt spec intent
  | .remove => remove store prompt spec intent
  | .modify => modify store prompt spec intent
  | .connect => connect store prompt spec intent
  | .disconnect => disconnect store prompt spec intent
  | .query => .ok (query spec)
  | .create => create store options prompt

/-- Whether there is a diagram with nodes. -/
def hasNodes (spec : Option Spec) : Bool := spec.any (!·.nodes.isEmpty)

namespace Prompt

/-- The words for a connection. -/
def connectionWords : Pattern := firstOf ["연결", word ["connect", "link", "connection"]]

end Prompt

/-- Whether a prompt that says to add something only wants to connect two nodes that are there. -/
def addsConnection (prompt : String) (s : Spec) : Bool :=
  connectionWords.occurs true prompt && 2 ≤ (s.named prompt).length &&
    (mentions (lower prompt)).all fun m => s.types.contains m.type

/-- **A prompt followed by its own words.** -/
def follow (store : Store) (options : Options) (prompt : String) (spec : Option Spec) :
    Reading Outcome :=
  match command prompt with
  | .query => .ok (query spec)
  | asked =>
    if hasNodes spec then
      edit store options prompt spec none
        (if asked = .add ∧ spec.any (addsConnection prompt) then .connect else asked)
    else create store options prompt

/-- **A prompt followed by an intent.** A diagram is made of the components of the intent, or else
by the words of the prompt. -/
def followIntent (store : Store) (options : Options) (intent : Intent) (prompt : String)
    (spec : Option Spec) : Reading Outcome := do
  if intent.action ≠ .query ∧ (intent.action = .create ∨ !hasNodes spec) then
    let made ← if intent.action = .create ∨ intent.action = .add then createFrom store intent
      else pure none
    match made with
    | some o => return o
    | none => create store options prompt
  else edit store options prompt spec (some intent) intent.action

/-- **A prompt followed without an assistant**; where there is no diagram one is made. -/
def followLocally (store : Store) (options : Options) (prompt : String) (spec : Option Spec) :
    Reading Outcome :=
  if hasNodes spec then follow store options prompt spec else create store options prompt

end NetSketch
