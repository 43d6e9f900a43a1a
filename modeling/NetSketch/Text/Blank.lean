/-!
# Blanks

Blanks are the white space of all scripts and the separator controls, twenty-nine characters in
all.

* `isBlank`;
* `trim`: a text without the blanks at its ends; `words`: the pieces between blanks.
-/

namespace NetSketch.Text

/-- A blank. -/
def isBlank (c : Char) : Bool :=
  let n := c.toNat
  (9 ≤ n && n ≤ 13) || (28 ≤ n && n ≤ 32) || n == 0x85 || n == 0xA0 || n == 0x1680 ||
    (0x2000 ≤ n && n ≤ 0x200A) || n == 0x2028 || n == 0x2029 || n == 0x202F || n == 0x205F ||
    n == 0x3000

/-- Characters without the blanks at both ends. -/
def trimChars (cs : List Char) : List Char :=
  ((cs.dropWhile isBlank).reverse.dropWhile isBlank).reverse

/-- A text without the blanks at both ends. -/
def trim (s : String) : String := .ofList (trimChars s.toList)

/-- The pieces between runs of blanks, from the piece read so far (backwards). -/
def wordsFrom (piece : List Char) : List Char → List (List Char)
  | [] => if piece.isEmpty then [] else [piece.reverse]
  | c :: rest =>
    if isBlank c then
      if piece.isEmpty then wordsFrom [] rest else piece.reverse :: wordsFrom [] rest
    else wordsFrom (c :: piece) rest

/-- The non-empty pieces between blanks. -/
def words (s : String) : List String := (wordsFrom [] s.toList).map .ofList

/-- A text that holds nothing but blanks. -/
def isAllBlank (s : String) : Bool := s.toList.all isBlank

end NetSketch.Text
