/-!
# Rankings

Things are ranked by a comparison that need not be an order: of two confidences one may be no
number. Which item is compared with which then decides, and so it is laid down here, for lists of
fewer than sixty-four items.

* `runFrom`, `firstRun`: the items in front that are ranked already, perhaps the wrong way round;
* `putIn`: an item put to its place, which halving finds;
* `ranked`: the ranking of a list.
-/

namespace NetSketch

variable {α : Type}

/-- The items from `a` on as long as each goes on from the one in front of it, and the rest. -/
def runFrom (goesOn : α → α → Bool) (a : α) : List α → List α × List α
  | [] => ([a], [])
  | b :: rest =>
    if goesOn a b then (a :: (runFrom goesOn b rest).1, (runFrom goesOn b rest).2)
    else ([a], b :: rest)

/-- The items in front that are ranked, and the rest. If the second item comes before the first one,
they are those up to where that ends, turned round. -/
def firstRun (before : α → α → Bool) : List α → List α × List α
  | [] => ([], [])
  | [a] => ([a], [])
  | a :: b :: rest =>
    if before b a then
      let (run, left) := runFrom (fun x y => before y x) a (b :: rest)
      (run.reverse, left)
    else runFrom (fun x y => !before y x) a (b :: rest)

/-- An item put into a list: in front of the middle one if it comes before that, else behind it. -/
def putIn (before : α → α → Bool) (x : α) (l : List α) : List α :=
  if h : l.length / 2 < l.length then
    if before x l[l.length / 2] then
      putIn before x (l.take (l.length / 2)) ++ l.drop (l.length / 2)
    else l.take (l.length / 2 + 1) ++ putIn before x (l.drop (l.length / 2 + 1))
  else [x]
termination_by l.length
decreasing_by
  · rw [List.length_take]
    omega
  · rw [List.length_drop]
    omega

/-- **A list ranked**: the items behind the first run are put to their places one by one. -/
def ranked (before : α → α → Bool) (l : List α) : List α :=
  (firstRun before l).2.foldl (fun done x => putIn before x done) (firstRun before l).1

end NetSketch
