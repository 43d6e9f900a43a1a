import NetSketch.Change.Removal

/-!
# Connections made and cut

* `endpoints`: the nodes that a prompt or an intent wants to be connected;
* `connect`, `disconnect`.
-/

namespace NetSketch

open Prompt Text Text.Pattern

/-- Both references of an intent, if it has two. -/
def Intent.twoReferences? (i : Intent) : Option (String × String) := do
  let h ← i.position
  let a ← h.reference.filter (!·.isEmpty)
  let b ← h.second.filter (!·.isEmpty)
  return (a, b)

/-- For every type the first node that is not yet among those found. -/
def Spec.pickEach (s : Spec) (types : List Component) : List Node :=
  types.foldl (fun found type =>
    match (s.nodesOfType type).find? (!found.contains ·) with
    | some n => found ++ [n]
    | none => found) []

/-- **The nodes that are to be connected**: by the references of an intent, else by its components,
else by the prompt. -/
def endpoints (prompt : String) (s : Spec) (intent : Option Intent) : List Node :=
  match intent.bind (·.twoReferences?), wantedBy intent with
  | some (a, b), _ => ([s.resolve? a, s.resolve? b].filterMap id).eraseDups
  | none, v :: w :: _ => s.pickEach [v.type, w.type]
  | none, _ => s.named prompt

namespace Prompt

/-- A text that looks like a numbered id. -/
def numbered : Pattern :=
  one ⟨[.range 'a' 'z'], false⟩ ++ star (one .word) ++ "-" ++ plus (one .digit)

end Prompt

/-- Whether two things to be connected were named, found or not. -/
def namesTwo (prompt : String) (intent : Option Intent) : Bool :=
  match intent with
  | some i => 2 ≤ i.components.length || i.twoReferences?.isSome
  | none =>
    2 ≤ (mentions (lower prompt)).length || 2 ≤ (numbered.findAll false (lower prompt)).length

/-- **Two nodes connected on request.** -/
def connect (store : Store) (prompt : String) (spec : Option Spec) (intent : Option Intent) :
    Reading Outcome := do
  match spec with
  | none => return .failed .connect .noDiagram none
  | some s =>
    match endpoints prompt s intent with
    | a :: b :: _ =>
      let t ← .ofBreach (s.connect a.id b.id defaultFlow)
      advised store s t [a.type, b.type]
        { command := .connect, spec := t, confidence := confidenceBy intent
          modifications := s.connectionChanges t }
    | _ =>
      let problem := if namesTwo prompt intent then .componentNotFound else .connectNeedsTwo
      return .failed .connect problem none

/-- **Two nodes disconnected on request**, whichever way the connections between them run. -/
def disconnect (store : Store) (prompt : String) (spec : Option Spec) (intent : Option Intent) :
    Reading Outcome := do
  match spec with
  | none => return .failed .disconnect .noDiagram none
  | some s =>
    match endpoints prompt s intent with
    | a :: b :: _ =>
      let t := (s.removeConnection a.id b.id).removeConnection b.id a.id
      if t.connections.length = s.connections.length then
        return .failed .disconnect .connectionNotFound none
      advised store s t [a.type, b.type]
        { command := .disconnect, spec := t, confidence := confidenceBy intent
          modifications := s.connectionChanges t }
    | _ => return .failed .disconnect .disconnectNeedsTwo none

end NetSketch
