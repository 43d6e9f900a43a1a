/-!
# Sets of characters given by ranges

A property of characters is kept as ascending ranges of code points; a balanced tree over them
answers membership in a few comparisons.

* `CharRanges`, `CharRanges.ofList`: the tree and how it is built from ascending ranges;
* `CharRanges.has`: membership.
-/

namespace NetSketch.Text

/-- Disjoint ranges of code points, as a search tree. -/
inductive CharRanges where
  | empty
  | node (below : CharRanges) (first last : Nat) (above : CharRanges)

namespace CharRanges

/-- The tree over ascending ranges. -/
def ofList (ranges : List (Nat × Nat)) : CharRanges :=
  match h : ranges.drop (ranges.length / 2) with
  | [] => .empty
  | (first, last) :: above =>
    .node (ofList (ranges.take (ranges.length / 2))) first last (ofList above)
termination_by ranges.length
decreasing_by
  all_goals
    have := congrArg List.length h
    simp only [List.length_drop, List.length_cons, List.length_take] at *
    omega

/-- Membership of a code point. -/
def hasCode : CharRanges → Nat → Bool
  | empty, _ => false
  | node below first last above, n =>
    if n < first then below.hasCode n else if n ≤ last then true else above.hasCode n

/-- Membership of a character. -/
def has (ranges : CharRanges) (c : Char) : Bool := ranges.hasCode c.toNat

end CharRanges

end NetSketch.Text
