import NetSketch.Text.Printable

/-!
# Quoted text

Text between quotes, in which every character can be seen. The quotes are single unless the text
holds single and no double ones.

* `hexDigits`: a number in a fixed count of hexadecimal digits;
* `quoted`.
-/

namespace NetSketch.Text

/-- The last `count` hexadecimal digits of a number. -/
def hexDigits (count n : Nat) : List Char :=
  (List.range count).reverse.map fun i => Nat.digitChar (n >>> (4 * i) % 16)

/-- A character inside quotes of the kind `quote`. -/
def quotedChar (quote c : Char) : List Char :=
  let n := c.toNat
  if c == quote || c == '\\' then ['\\', c]
  else if c == '\t' then ['\\', 't']
  else if c == '\n' then ['\\', 'n']
  else if c == '\r' then ['\\', 'r']
  else if isPrintable c then [c]
  else if n < 0x100 then '\\' :: 'x' :: hexDigits 2 n
  else if n < 0x10000 then '\\' :: 'u' :: hexDigits 4 n
  else '\\' :: 'U' :: hexDigits 8 n

/-- The quotes a text is put between. -/
def quoteFor (cs : List Char) : Char :=
  if cs.contains '\'' && !cs.contains '"' then '"' else '\''

/-- A text between quotes. -/
def quoted (s : String) : String :=
  let cs := s.toList
  let quote := quoteFor cs
  .ofList (quote :: cs.flatMap (quotedChar quote) ++ [quote])

end NetSketch.Text
