import NetSketch.Diagram.Basic
import NetSketch.Json.Basic

/-!
# Differences between diagrams

Nodes are compared by id, connections by their ends.

* `Diff`, `Diff.between`; `Diff.Counts`, `Diff.counts`;
* `endsLe`: the order in which ends are listed.
-/

namespace NetSketch

/-- What has to be changed in one diagram to get another. -/
structure Diff where
  added : List Node
  removed : List Node
  /-- The old and the new form of nodes whose type or label changed. -/
  modified : List (Node × Node)
  addedEnds : List (String × String)
  removedEnds : List (String × String)
  deriving DecidableEq, Repr

/-- Whether ends come before others: by source, then by target. -/
def endsLe (a b : String × String) : Bool :=
  a.1 < b.1 || (a.1 == b.1 && !decide (b.2 < a.2))

namespace Diff

/-- **The difference between two diagrams.** -/
def between (old new : Spec) : Diff where
  added := new.nodes.filter fun n => !old.ids.contains n.id
  removed := old.nodes.filter fun n => !new.ids.contains n.id
  modified := new.nodes.filterMap fun n =>
    match old.node? n.id with
    | some m => if m.type ≠ n.type ∨ m.label ≠ n.label then some (m, n) else none
    | none => none
  addedEnds := (new.ends.filter fun e => !old.ends.contains e).eraseDups
  removedEnds := (old.ends.filter fun e => !new.ends.contains e).eraseDups

/-- How many parts changed. -/
structure Counts where
  addedNodes : Nat
  removedNodes : Nat
  modifiedNodes : Nat
  addedConnections : Nat
  removedConnections : Nat
  deriving DecidableEq, Repr

/-- The number of all changes. -/
def Counts.total (c : Counts) : Nat :=
  c.addedNodes + c.removedNodes + c.modifiedNodes + c.addedConnections + c.removedConnections

/-- The document of counts. -/
def Counts.toJson (c : Counts) : Json :=
  .obj [("addedNodes", .int c.addedNodes), ("removedNodes", .int c.removedNodes),
    ("modifiedNodes", .int c.modifiedNodes), ("addedConnections", .int c.addedConnections),
    ("removedConnections", .int c.removedConnections), ("totalChanges", .int c.total)]

/-- The counts of a difference. -/
def counts (d : Diff) : Counts :=
  ⟨d.added.length, d.removed.length, d.modified.length, d.addedEnds.length, d.removedEnds.length⟩

end Diff

end NetSketch
