import NetSketch.Text.Blank
import NetSketch.Text.Case
import NetSketch.Text.DecimalDigit
import NetSketch.Text.WordChar

/-!
# Text patterns

A pattern describes pieces of text. From a place of a text a piece may end at several places, the
preferred one first; a match is the leftmost piece there is, with its preferred end.

* `CharSet`: what one place admits; `Pattern`;
* `Pattern.ends`: all ends from a place, in order of preference;
* `Pattern.run`: the first of them that is accepted, found without the others
  (`run_eq_findSome?_ends`);
* `Pattern.find`: the leftmost match, its span and its groups; `Pattern.occurs`;
* `Pattern.findAll`: the matches from left to right that do not overlap.
-/

namespace NetSketch.Text

/-! ## Sets of characters -/

/-- One part of a set of characters. -/
inductive CharClass where
  | char (c : Char)
  | range (first last : Char)
  | word
  | blank
  | digit
  deriving DecidableEq, Repr

/-- The characters of some classes, or all others. -/
structure CharSet where
  classes : List CharClass
  negated : Bool := false
  deriving DecidableEq, Repr

/-- Whether a class holds a character. -/
def CharClass.admits : CharClass → Char → Bool
  | char d, c => c == d
  | range first last, c => first.toNat ≤ c.toNat && c.toNat ≤ last.toNat
  | word, c => isWord c
  | blank, c => isBlank c
  | digit, c => isDecimalDigit c

namespace CharSet

/-- Whether a set holds a character. -/
def admits (set : CharSet) (c : Char) : Bool := set.classes.any (·.admits c) != set.negated

/-- One character. -/
def only (c : Char) : CharSet := ⟨[.char c], false⟩

/-- The characters of a text. -/
def of (s : String) : CharSet := ⟨s.toList.map .char, false⟩

/-- All characters but those of a text. -/
def butNot (s : String) : CharSet := ⟨s.toList.map .char, true⟩

/-- Word characters. -/
def word : CharSet := ⟨[.word], false⟩

/-- Blanks. -/
def blank : CharSet := ⟨[.blank], false⟩

/-- Decimal digits. -/
def digit : CharSet := ⟨[.digit], false⟩

/-- All characters of a line. -/
def inLine : CharSet := butNot "\n"

/-- All characters. -/
def any : CharSet := ⟨[], true⟩

end CharSet

/-! ## Patterns -/

/-- A description of pieces of text. -/
inductive Pattern where
  /-- These very characters. -/
  | chars (row : List Char)
  /-- One character. -/
  | one (set : CharSet)
  /-- One piece, then another. -/
  | seq (p q : Pattern)
  /-- The first piece if possible, else the second. -/
  | alt (p q : Pattern)
  /-- Any number of pieces, the longest or the shortest row first. -/
  | many (p : Pattern) (longest : Bool)
  /-- A piece to be remembered under a number. -/
  | group (number : Nat) (p : Pattern)
  /-- The start of the text. -/
  | start
  /-- The end of the text, or of its last line. -/
  | finish
  /-- A place between a word character and another character. -/
  | wordEdge
  /-- A place not preceded by these characters in a row. -/
  | notAfter (row : List CharSet)
  /-- A place followed by a piece. -/
  | ahead (p : Pattern)
  /-- A place not followed by a piece. -/
  | notAhead (p : Pattern)

/-- A place in a text: the characters before it (backwards) and after it, how many precede it, and
where the pieces remembered so far begin and end. -/
structure Place where
  before : List Char
  after : List Char
  index : Nat
  groups : List (Nat × Nat × Nat)

namespace Pattern

/-- This very text. -/
def text (s : String) : Pattern := chars s.toList

instance : Coe String Pattern := ⟨text⟩
instance : Append Pattern := ⟨seq⟩

/-- A piece that may be missing. -/
def opt (p : Pattern) : Pattern := alt p (chars [])

/-- Any number of pieces, as many as possible. -/
def star (p : Pattern) : Pattern := many p true

/-- At least one piece, as many as possible. -/
def plus (p : Pattern) : Pattern := seq p (many p true)

/-- At least one piece, as few as possible. -/
def plusFew (p : Pattern) : Pattern := seq p (many p false)

/-- The first of several pieces that is possible. -/
def firstOf : List Pattern → Pattern
  | [] => one ⟨[], false⟩
  | [p] => p
  | p :: q :: rest => alt p (firstOf (q :: rest))

/-! ## Ends of pieces -/

/-- The character that a pattern compares: itself, or the letter it counts as. -/
def seen (ignoreCase : Bool) (c : Char) : Char := if ignoreCase then foldLetter c else c

/-- The place behind a row of characters, if they come next. -/
def skipText (ignoreCase : Bool) : List Char → Place → Option Place
  | [], at_ => some at_
  | d :: row, at_ =>
    match at_.after with
    | [] => none
    | c :: rest =>
      if seen ignoreCase c == d then
        skipText ignoreCase row { at_ with before := c :: at_.before, after := rest, index := at_.index + 1 }
      else none

/-- Whether the sets, the last one first, admit the characters read backwards. -/
def endsWith (ignoreCase : Bool) : List CharSet → List Char → Bool
  | [], _ => true
  | _ :: _, [] => false
  | set :: row, c :: before => set.admits (seen ignoreCase c) && endsWith ignoreCase row before

/-- Whether exactly one side of a place is a word character. -/
def atWordEdge (at_ : Place) : Bool :=
  at_.before.head?.any isWord != at_.after.head?.any isWord

/-- Where up to `most` steps in a row may end, each of which must read something; these places are
put in front of others. -/
def rows (step : Place → List Place) (longest : Bool) : Nat → Place → List Place → List Place
  | 0, at_, others => at_ :: others
  | most + 1, at_, others =>
    let further (others : List Place) : List Place := (step at_).foldr (fun next others =>
      if at_.index < next.index then rows step longest most next others else others) others
    if longest then further (at_ :: others) else at_ :: further others

/-- All places where a piece may end that begins at a place, the preferred one first. -/
def ends (ignoreCase : Bool) : Pattern → Place → List Place
  | chars row, at_ => (skipText ignoreCase row at_).toList
  | one set, at_ =>
    match at_.after with
    | [] => []
    | c :: rest =>
      if set.admits (seen ignoreCase c) then
        [{ at_ with before := c :: at_.before, after := rest, index := at_.index + 1 }]
      else []
  | seq p q, at_ => (ends ignoreCase p at_).flatMap (ends ignoreCase q)
  | alt p q, at_ => ends ignoreCase p at_ ++ ends ignoreCase q at_
  | many p longest, at_ => rows (ends ignoreCase p) longest at_.after.length at_ []
  | group number p, at_ =>
    (ends ignoreCase p at_).map fun next =>
      { next with groups := (number, at_.index, next.index) :: next.groups }
  | start, at_ => if at_.before.isEmpty then [at_] else []
  | finish, at_ => if at_.after.isEmpty || at_.after == ['\n'] then [at_] else []
  | wordEdge, at_ => if atWordEdge at_ then [at_] else []
  | notAfter row, at_ => if endsWith ignoreCase row.reverse at_.before then [] else [at_]
  | ahead p, at_ => if (ends ignoreCase p at_).isEmpty then [] else [at_]
  | notAhead p, at_ => if (ends ignoreCase p at_).isEmpty then [at_] else []

/-! ## Running a pattern -/

/-- What is accepted first at a row of up to `most` steps, which goes on while it can, or stops as
soon as it can. -/
def runRows (step : Place → (Place → Option Place) → Option Place) (longest : Bool) :
    Nat → Place → (Place → Option Place) → Option Place
  | 0, at_, accept => accept at_
  | most + 1, at_, accept =>
    let further (_ : Unit) : Option Place := step at_ fun next =>
      if at_.index < next.index then runRows step longest most next accept else none
    if longest then (further ()).or (accept at_) else (accept at_).or (further ())

/-- What is accepted first of the ends of a piece. -/
def run (ignoreCase : Bool) : Pattern → Place → (Place → Option Place) → Option Place
  | chars row, at_, accept => (skipText ignoreCase row at_).bind accept
  | one set, at_, accept =>
    match at_.after with
    | [] => none
    | c :: rest =>
      if set.admits (seen ignoreCase c) then
        accept { at_ with before := c :: at_.before, after := rest, index := at_.index + 1 }
      else none
  | seq p q, at_, accept => run ignoreCase p at_ fun next => run ignoreCase q next accept
  | alt p q, at_, accept =>
    match run ignoreCase p at_ accept with
    | some stop => some stop
    | none => run ignoreCase q at_ accept
  | many p longest, at_, accept =>
    runRows (run ignoreCase p) longest at_.after.length at_ accept
  | group number p, at_, accept =>
    run ignoreCase p at_ fun next =>
      accept { next with groups := (number, at_.index, next.index) :: next.groups }
  | start, at_, accept => if at_.before.isEmpty then accept at_ else none
  | finish, at_, accept =>
    if at_.after.isEmpty || at_.after == ['\n'] then accept at_ else none
  | wordEdge, at_, accept => if atWordEdge at_ then accept at_ else none
  | notAfter row, at_, accept =>
    if endsWith ignoreCase row.reverse at_.before then none else accept at_
  | ahead p, at_, accept => if (run ignoreCase p at_ some).isSome then accept at_ else none
  | notAhead p, at_, accept => if (run ignoreCase p at_ some).isSome then none else accept at_

theorem findSome?_flatMap {α β γ : Type} (l : List α) (f : α → List β) (g : β → Option γ) :
    (l.flatMap f).findSome? g = l.findSome? fun a => (f a).findSome? g := by
  induction l with
  | nil => rfl
  | cons a l ih =>
    rw [List.flatMap_cons, List.findSome?_append, ih, List.findSome?_cons]
    cases (f a).findSome? g <;> rfl

theorem findSome?_rows {step : Place → List Place}
    {steps : Place → (Place → Option Place) → Option Place}
    (h : ∀ at_ accept, steps at_ accept = (step at_).findSome? accept) (longest : Bool)
    (accept : Place → Option Place) (most : Nat) (at_ : Place) (others : List Place) :
    (rows step longest most at_ others).findSome? accept =
      (runRows steps longest most at_ accept).or (others.findSome? accept) := by
  induction most generalizing at_ others with
  | zero => cases ha : accept at_ <;> simp [rows, runRows, ha]
  | succ most ih =>
    have further (l : List Place) (others : List Place) :
        (l.foldr (fun next others =>
            if at_.index < next.index then rows step longest most next others else others)
          others).findSome? accept =
        (l.findSome? fun next =>
            if at_.index < next.index then runRows steps longest most next accept else none).or
          (others.findSome? accept) := by
      induction l with
      | nil => simp
      | cons next l ihl =>
        by_cases hn : at_.index < next.index
        · rw [List.foldr_cons, if_pos hn, ih, ihl, ← Option.or_assoc, List.findSome?_cons, if_pos hn]
          cases runRows steps longest most next accept <;> rfl
        · rw [List.foldr_cons, if_neg hn, ihl, List.findSome?_cons, if_neg hn]
    cases longest with
    | true =>
      simp only [rows, runRows, if_true, further, h, Option.or_assoc]
      cases ha : accept at_ <;> simp [ha]
    | false =>
      simp only [rows, runRows, h, Bool.false_eq_true, if_false]
      cases ha : accept at_ <;> simp [ha, further]

/-- **A pattern runs through its ends**: what it answers is what is accepted first of them. -/
theorem run_eq_findSome?_ends (ignoreCase : Bool) (p : Pattern) (at_ : Place)
    (accept : Place → Option Place) :
    run ignoreCase p at_ accept = (ends ignoreCase p at_).findSome? accept := by
  induction p generalizing at_ accept with
  | chars row => cases h : skipText ignoreCase row at_ <;> simp [run, ends, h]
  | one set =>
    unfold run ends
    split
    · rfl
    · split <;> simp
  | seq p q ihp ihq => simp [run, ends, ihp, ihq, findSome?_flatMap]
  | alt p q ihp ihq =>
    simp only [run, ends, ihp, ihq, List.findSome?_append]
    cases (ends ignoreCase p at_).findSome? accept <;> rfl
  | many p longest ih => simp [run, ends, findSome?_rows ih]
  | group number p ih => simp [run, ends, ih, List.findSome?_map, Function.comp_def]
  | start => unfold run ends; split <;> simp
  | finish => unfold run ends; split <;> simp
  | wordEdge => unfold run ends; split <;> simp
  | notAfter row => unfold run ends; split <;> simp
  | ahead p ih => cases h : ends ignoreCase p at_ <;> simp [run, ends, ih, h]
  | notAhead p ih => cases h : ends ignoreCase p at_ <;> simp [run, ends, ih, h]

/-! ## Searching -/

/-- A match: where it starts, and the place where it ends. -/
structure Match where
  start : Nat
  stop : Place

/-- The position behind a match. -/
def Match.finish (m : Match) : Nat := m.stop.index

/-- The piece remembered under a number. -/
def Match.group? (m : Match) (number : Nat) : Option String :=
  (m.stop.groups.lookup number).map fun (first, behind) =>
    .ofList ((m.stop.before.reverse.drop first).take (behind - first))

/-- The leftmost place, from the given one on, at which a piece begins. -/
def findFrom (step : Place → Option Place) (before : List Char) (index : Nat) :
    List Char → Option Match
  | [] => (step ⟨before, [], index, []⟩).map (⟨index, ·⟩)
  | c :: rest =>
    match step ⟨before, c :: rest, index, []⟩ with
    | some stop => some ⟨index, stop⟩
    | none => findFrom step (c :: before) (index + 1) rest

/-- The leftmost match in a text. -/
def find (p : Pattern) (ignoreCase : Bool) (s : String) : Option Match :=
  findFrom (p.run ignoreCase · some) [] 0 s.toList

/-- Whether a text holds a match. -/
def occurs (p : Pattern) (ignoreCase : Bool) (s : String) : Bool := (p.find ignoreCase s).isSome

/-- Up to `most` matches from left to right, each beginning where the one before ended. -/
def findAllFrom (step : Place → Option Place) : Nat → Place → List Match
  | 0, _ => []
  | most + 1, at_ =>
    match findFrom step at_.before at_.index at_.after with
    | none => []
    | some m => m :: (if m.start < m.finish then findAllFrom step most m.stop else [])

/-- The matches from left to right that do not overlap, up to the first empty one. -/
def findAll (p : Pattern) (ignoreCase : Bool) (s : String) : List Match :=
  findAllFrom (p.run ignoreCase · some) (s.toList.length + 1) ⟨[], s.toList, 0, []⟩

end Pattern

end NetSketch.Text
