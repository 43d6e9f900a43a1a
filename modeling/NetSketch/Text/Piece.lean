/-!
# Pieces of texts

* `holds`: whether a text occurs inside another;
* `replaceChar`: one character replaced everywhere by a text;
* `splitAt`: the pieces between the occurrences of a character.
-/

namespace NetSketch.Text

/-- Whether `part` occurs in the characters. -/
def occursIn (part : List Char) : List Char → Bool
  | [] => part.isEmpty
  | c :: rest => part.isPrefixOf (c :: rest) || occursIn part rest

/-- Whether `part` occurs in `s`. -/
def holds (s part : String) : Bool := occursIn part.toList s.toList

/-- Every `c` in `s` replaced by `new`. -/
def replaceChar (s : String) (c : Char) (new : String) : String :=
  .ofList (s.toList.flatMap fun d => if d = c then new.toList else [d])

/-- The pieces between the occurrences of `sep`, from the piece read so far (backwards). -/
def splitAtFrom (sep : Char) (piece : List Char) : List Char → List (List Char)
  | [] => [piece.reverse]
  | c :: rest =>
    if c = sep then piece.reverse :: splitAtFrom sep [] rest else splitAtFrom sep (c :: piece) rest

/-- The pieces between the occurrences of a character; one more than there are occurrences. -/
def splitAt (s : String) (sep : Char) : List String := (splitAtFrom sep [] s.toList).map .ofList

end NetSketch.Text
