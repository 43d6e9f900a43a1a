import NetSketch.Json.Basic

/-!
# Writing JSON text

Parts are separated by `, ` and names from values by `: `. Characters beyond the printable ASCII
ones are written by their codes, outside the basic plane as pairs.

* `Json.write`.
-/

namespace NetSketch.Json

open Number Text

/-- A code in four hexadecimal digits behind `\u`. -/
def codeText (n : Nat) : List Char := '\\' :: 'u' :: hexDigits 4 n

/-- A character inside quotes. -/
def writtenChar (c : Char) : List Char :=
  let n := c.toNat
  if c == '"' then ['\\', '"']
  else if c == '\\' then ['\\', '\\']
  else if c == '\n' then ['\\', 'n']
  else if c == '\r' then ['\\', 'r']
  else if c == '\t' then ['\\', 't']
  else if n = 8 then ['\\', 'b']
  else if n = 12 then ['\\', 'f']
  else if 32 ≤ n ∧ n ≤ 126 then [c]
  else if n < 0x10000 then codeText n
  else codeText (0xD800 + (n - 0x10000) / 0x400) ++ codeText (0xDC00 + (n - 0x10000) % 0x400)

/-- A text between quotes. -/
def writtenText (s : String) : String :=
  .ofList ('"' :: s.toList.flatMap writtenChar ++ ['"'])

/-- The word or digits of a floating-point number. -/
def writtenFloat : Binary64 → String
  | .nan => "NaN"
  | .infinity negative => if negative then "-Infinity" else "Infinity"
  | x => x.render

mutual

/-- The text of a value. -/
def write : Json → String
  | null => "null"
  | bool b => if b then "true" else "false"
  | int i => toString i
  | float x => writtenFloat x
  | str s => writtenText s
  | arr items => "[" ++ writeItems items ++ "]"
  | obj fields => "\x7b" ++ writeFields fields ++ "\x7d"

/-- The texts of values with commas between them. -/
def writeItems : List Json → String
  | [] => ""
  | [v] => write v
  | v :: w :: rest => write v ++ ", " ++ writeItems (w :: rest)

/-- The texts of fields with commas between them. -/
def writeFields : List (String × Json) → String
  | [] => ""
  | [(name, v)] => writtenText name ++ ": " ++ write v
  | (name, v) :: w :: rest =>
    writtenText name ++ ": " ++ write v ++ ", " ++ writeFields (w :: rest)

end

end NetSketch.Json
