import NetSketch.Json.Convert
import NetSketch.Text.HexDigit

/-!
# Reading JSON text

The reader takes the words `NaN`, `Infinity` and `-Infinity` for numbers, refuses control
characters inside texts and integers of more than `maxDigits` digits, lets the last of two fields
of one name count, and stops at values that are nested too deeply.

* `Json.readPrefix`: a value at the front of a text; `Json.read`: a whole text.
-/

namespace NetSketch.Json

open Number Text

/-- Why a text is not read. -/
inductive ReadFault where
  | malformed
  | tooDeep
  deriving DecidableEq, Repr

/-- White space between the parts of a text. -/
def isSpace (c : Char) : Bool := c == ' ' || c == '\t' || c == '\n' || c == '\r'

/-- The rest behind white space. -/
def skipSpace (cs : List Char) : List Char := cs.dropWhile isSpace

/-! ## Texts -/

/-- The number that four hexadecimal digits denote. -/
def hexCode? (a b c d : Char) : Option Nat := do
  return ((← hexDigit? a) * 16 + (← hexDigit? b)) * 256 + (← hexDigit? c) * 16 + (← hexDigit? d)

/-- The character behind a backslash. -/
def escaped? : Char → Option Char
  | '"' => some '"'
  | '\\' => some '\\'
  | '/' => some '/'
  | 'b' => some (.ofNat 8)
  | 'f' => some (.ofNat 12)
  | 'n' => some '\n'
  | 'r' => some '\r'
  | 't' => some '\t'
  | _ => none

/-- The codes inside quotes, and what follows the closing one. Halves of pairs stand apart. -/
def readCodes : List Char → Except ReadFault (List Nat × List Char)
  | [] => .error .malformed
  | '"' :: rest => .ok ([], rest)
  | '\\' :: 'u' :: a :: b :: c :: d :: rest =>
    match hexCode? a b c d with
    | none => .error .malformed
    | some code => do
      let (codes, rest) ← readCodes rest
      return (code :: codes, rest)
  | '\\' :: c :: rest =>
    match escaped? c with
    | none => .error .malformed
    | some c => do
      let (codes, rest) ← readCodes rest
      return (c.toNat :: codes, rest)
  | c :: rest =>
    if c.toNat < 32 then .error .malformed
    else do
      let (codes, rest) ← readCodes rest
      return (c.toNat :: codes, rest)

/-- The characters of codes: two halves of a pair make one character, and a half by itself the
replacement character. -/
def joinPairs : List Nat → List Char
  | [] => []
  | [n] => [if n < 0xD800 || 0xE000 ≤ n then .ofNat n else .ofNat 0xFFFD]
  | m :: n :: rest =>
    if 0xD800 ≤ m && m < 0xDC00 && 0xDC00 ≤ n && n < 0xE000 then
      .ofNat (0x10000 + (m - 0xD800) * 0x400 + (n - 0xDC00)) :: joinPairs rest
    else
      (if m < 0xD800 || 0xE000 ≤ m then .ofNat m else .ofNat 0xFFFD) :: joinPairs (n :: rest)

/-- The text behind an opening quote. -/
def readText (cs : List Char) : Except ReadFault (String × List Char) := do
  let (codes, rest) ← readCodes cs
  return (.ofList (joinPairs codes), rest)

/-! ## Numbers -/

/-- The decimal digits at the front. -/
def digitsOf (cs : List Char) : List Char × List Char := cs.span Char.isDigit

/-- The number that decimal digits denote. -/
def digitsValue (ds : List Char) : Nat := ds.foldl (fun n c => 10 * n + (c.toNat - 48)) 0

/-- The whole part: a zero, or digits that do not begin with one. -/
def readWhole? : List Char → Option (List Char × List Char)
  | '0' :: rest => some (['0'], rest)
  | cs => match digitsOf cs with
    | ([], _) => none
    | (ds, rest) => some (ds, rest)

/-- The digits behind a point, if there are some. -/
def readPart : List Char → List Char × List Char
  | '.' :: rest => match digitsOf rest with
    | ([], _) => ([], '.' :: rest)
    | (ds, rest) => (ds, rest)
  | cs => ([], cs)

/-- The exponent, if there is one. -/
def readScale : List Char → Option Int × List Char
  | c :: rest =>
    if c == 'e' || c == 'E' then
      let (negative, behind) := readSign rest
      match digitsOf behind with
      | ([], _) => (none, c :: rest)
      | (ds, behind) =>
        (some (if negative then -(digitsValue ds : Int) else digitsValue ds), behind)
    else (none, c :: rest)
  | [] => (none, [])

/-- A number without its sign. -/
def readNumber (negative : Bool) (cs : List Char) : Except ReadFault (Json × List Char) :=
  match readWhole? cs with
  | none => .error .malformed
  | some (whole, rest) =>
    let (part, rest) := readPart rest
    let (scale, rest) := readScale rest
    if part.isEmpty && scale.isNone then
      if maxDigits < whole.length then .error .malformed
      else .ok (.int (if negative then -(digitsValue whole : Int) else digitsValue whole), rest)
    else
      .ok (.float (.ofDecimal negative (digitsValue (whole ++ part))
        (scale.getD 0 - part.length)), rest)

/-! ## Values -/

/-- What follows a word at the front. -/
def afterWord? (word : String) (cs : List Char) : Option (List Char) :=
  if word.toList.isPrefixOf cs then some (cs.drop word.length) else none

/-- A value that is a word or a number. -/
def readScalar (cs : List Char) : Except ReadFault (Json × List Char) :=
  let words : List (String × Json) :=
    [("null", .null), ("true", .bool true), ("false", .bool false), ("NaN", .float .nan),
      ("Infinity", .float (.infinity false)), ("-Infinity", .float (.infinity true))]
  match words.findSome? fun (word, v) => (afterWord? word cs).map (v, ·) with
  | some found => .ok found
  | none =>
    match cs with
    | '-' :: rest => readNumber true rest
    | cs => readNumber false cs

mutual

/-- A value at the front, in at most `steps` steps and with at most `depth` levels. -/
def readValue (steps depth : Nat) (cs : List Char) : Except ReadFault (Json × List Char) :=
  match steps, cs with
  | 0, _ => .error .malformed
  | _ + 1, [] => .error .malformed
  | steps + 1, c :: rest =>
    if c == '"' then do
      let (s, rest) ← readText rest
      return (.str s, rest)
    else if c == '[' then
      match depth with
      | 0 => .error .tooDeep
      | depth + 1 =>
        match skipSpace rest with
        | ']' :: rest => .ok (.arr [], rest)
        | rest => do
          let (items, rest) ← readItems steps depth rest
          return (.arr items, rest)
    else if c == '\x7b' then
      match depth with
      | 0 => .error .tooDeep
      | depth + 1 =>
        match skipSpace rest with
        | '\x7d' :: rest => .ok (.obj [], rest)
        | rest => do
          let (fields, rest) ← readFields steps depth rest
          return (.obj (Fields.ofList fields), rest)
    else readScalar (c :: rest)

/-- The items of a list up to its end. -/
def readItems (steps depth : Nat) (cs : List Char) : Except ReadFault (List Json × List Char) :=
  match steps with
  | 0 => .error .malformed
  | steps + 1 => do
    let (item, rest) ← readValue steps depth cs
    match skipSpace rest with
    | ',' :: rest => do
      let (items, rest) ← readItems steps depth (skipSpace rest)
      return (item :: items, rest)
    | ']' :: rest => return ([item], rest)
    | _ => throw .malformed

/-- The fields of an object up to its end. -/
def readFields (steps depth : Nat) (cs : List Char) :
    Except ReadFault (List (String × Json) × List Char) :=
  match steps, cs with
  | steps + 1, '"' :: rest => do
    let (name, rest) ← readText rest
    match skipSpace rest with
    | ':' :: rest => do
      let (value, rest) ← readValue steps depth (skipSpace rest)
      match skipSpace rest with
      | ',' :: rest => do
        let (fields, rest) ← readFields steps depth (skipSpace rest)
        return ((name, value) :: fields, rest)
      | '\x7d' :: rest => return ([(name, value)], rest)
      | _ => throw .malformed
    | _ => throw .malformed
  | _, _ => .error .malformed

end

/-- The levels that values may be nested. -/
def nestingLimit : Nat := 900

/-- The value that characters denote, with white space around it. -/
def readChars (depth : Nat) (cs : List Char) : Except ReadFault Json := do
  let (v, rest) ← readValue (cs.length + 1) depth (skipSpace cs)
  if (skipSpace rest).isEmpty then return v else throw .malformed

/-- The value that a text denotes. -/
def read (s : String) : Except ReadFault Json := readChars nestingLimit s.toList

end NetSketch.Json
