import NetSketch.Prompt.Position

/-!
# Nodes named in prompts

* `Spec.named`: the nodes of a diagram that a text names, by id or by type.
-/

namespace NetSketch

open Prompt Text Text.Pattern

/-- A node that a text names, and where. -/
structure NamedNode where
  start : Nat
  finish : Nat
  node : Node

namespace Prompt

/-- The characters that may be part of an id. -/
def idChar : CharSet := ⟨[.word, .char '-'], false⟩

/-- The pattern of an id that stands by itself. -/
def idAlone (id : String) : Pattern := notAfter [idChar] ++ .text id ++ notAhead (one idChar)

end Prompt

namespace Spec

variable (s : Spec)

/-- The nodes whose id stands in a text. -/
def namedById (text : String) : List NamedNode :=
  s.nodes.filterMap fun n =>
    ((idAlone (lower n.id)).find false text).map fun m => ⟨m.start, m.finish, n⟩

/-- Named nodes, and for a mention outside of them the first node of its type that is not among
them. -/
def withMention (found : List NamedNode) (m : Mention) : List NamedNode :=
  if found.any fun f => f.start ≤ m.start && m.start < f.finish then found
  else
    match (s.nodesOfType m.type).find? fun n => !found.any (·.node.id == n.id) with
    | some n => found ++ [⟨m.start, m.finish, n⟩]
    | none => found

/-- **The nodes that a text names**, by id or else by type, in the order of the text. -/
def named (text : String) : List Node :=
  let text := lower text
  let found := (mentions text).foldl s.withMention (s.namedById text)
  (found.mergeSort fun a b => a.start ≤ b.start).map (·.node)

end Spec

end NetSketch
