import NetSketch.Number.Binary64
import NetSketch.Text.Blank
import NetSketch.Text.DecimalDigit

/-!
# Reading numbers from text

The texts that people write for numbers: blanks around, a sign, digits of any script with single
low lines between them, a point, an exponent, and the words for infinities and for what is not a
number.

* `readFloat?`: a floating-point number;
* `IntText`: the text of an integer taken apart, `IntText.value?`.
-/

namespace NetSketch.Number

open NetSketch.Text

/-- The blanks allowed around a number: all but the separator controls. -/
def isNumberBlank (c : Char) : Bool := isBlank c && !(28 ≤ c.toNat && c.toNat ≤ 31)

/-- The characters between the blanks around a number. -/
def numberChars (s : String) : List Char :=
  ((s.toList.dropWhile isNumberBlank).reverse.dropWhile isNumberBlank).reverse

/-- A sign, if there is one, and what follows. -/
def readSign : List Char → Bool × List Char
  | '-' :: rest => (true, rest)
  | '+' :: rest => (false, rest)
  | cs => (false, cs)

/-- The digits at the front, with single low lines between them, and what follows. -/
def readDigits : List Char → List Nat × List Char
  | [] => ([], [])
  | c :: rest =>
    match decimalDigit? c with
    | none => ([], c :: rest)
    | some d =>
      match rest with
      | '_' :: c' :: rest' =>
        if isDecimalDigit c' then
          let (ds, rest'') := readDigits (c' :: rest')
          (d :: ds, rest'')
        else ([d], '_' :: c' :: rest')
      | rest =>
        let (ds, rest'') := readDigits rest
        (d :: ds, rest'')

/-- The number that a row of digits denotes. -/
def ofDigits (ds : List Nat) : Nat := ds.foldl (fun n d => 10 * n + d) 0

/-- An exponent behind the mantissa; none if the text goes on in another way. -/
def readExponent? : List Char → Option Int
  | [] => some 0
  | c :: rest =>
    if c == 'e' || c == 'E' then
      let (negative, rest) := readSign rest
      match readDigits rest with
      | ([], _) => none
      | (ds, []) => some (if negative then -(ofDigits ds : Int) else ofDigits ds)
      | _ => none
    else none

/-- The number after the sign. -/
def readUnsigned? (negative : Bool) (cs : List Char) : Option Binary64 :=
  let small := cs.map Char.toLower
  if small = "inf".toList || small = "infinity".toList then some (.infinity negative)
  else if small = "nan".toList then some .nan
  else
    let (whole, rest) := readDigits cs
    let (part, rest) := match rest with
      | '.' :: rest => readDigits rest
      | _ => ([], rest)
    if whole.isEmpty && part.isEmpty then none
    else (readExponent? rest).map fun e =>
      .ofDecimal negative (ofDigits (whole ++ part)) (e - part.length)

/-- The floating-point number that a text denotes. -/
def readFloat? (s : String) : Option Binary64 :=
  let (negative, rest) := readSign (numberChars s)
  readUnsigned? negative rest

/-- An integer's text taken apart. -/
structure IntText where
  negative : Bool
  digits : List Nat
  /-- What follows the digits. -/
  rest : List Char

/-- An integer's text taken apart. -/
def IntText.of (s : String) : IntText :=
  let (negative, rest) := readSign (numberChars s)
  let (digits, rest) := readDigits rest
  ⟨negative, digits, rest⟩

/-- Whether a low line follows the digits. -/
def IntText.endsInLine (t : IntText) : Bool := t.rest.head? == some '_'

/-- The integer that a text denotes. -/
def IntText.value? (t : IntText) : Option Int :=
  if t.digits.isEmpty || !t.rest.isEmpty then none
  else some (if t.negative then -(ofDigits t.digits : Int) else ofDigits t.digits)

end NetSketch.Number
