/-!
# Binary floating-point numbers of 64 bits

Numbers `± m · 2^e` with a mantissa of at most 53 bits, the infinities, and one value that is not
a number. All operations are exact on naturals and round once, a tie to the even mantissa.

* `Binary64`, `Binary64.ofRatio` (the one rounding), `ofInt?`, `ofDecimal`;
* `lt`, `le`, `eq`: comparisons, false for what is not a number;
* `sub`, `mul`, `roundToInt?`, `truncate?`.
-/

namespace NetSketch.Number

/-- A floating-point number. A finite one is kept with its largest mantissa below `2^53` whose
exponent is at least `-1074`. -/
inductive Binary64 where
  | nan
  | infinity (negative : Bool)
  | finite (negative : Bool) (mantissa : Nat) (exponent : Int)
  deriving DecidableEq, Repr

/-- A power of two. -/
def twoTo (k : Nat) : Nat := Nat.pow 2 k

/-- A power of ten. -/
def tenTo (k : Nat) : Nat := Nat.pow 10 k

/-- A quotient rounded to the nearest natural, a tie to the even one. -/
def roundDiv (num den : Nat) : Nat :=
  let q := num / den
  let r := num % den
  if 2 * r < den then q else if den < 2 * r then q + 1 else q + q % 2

namespace Binary64

/-- Zero. -/
def zero (negative : Bool) : Binary64 := finite negative 0 (-1074)

/-- The least exponent of a mantissa. -/
def minExponent : Int := -1074

/-- The greatest exponent of a mantissa. -/
def maxExponent : Int := 971

/-- The quotient of `num / den` by `2^e`, as numerator and denominator. -/
def scaled (num den : Nat) (e : Int) : Nat × Nat :=
  if 0 ≤ e then (num, den * twoTo e.toNat) else (num * twoTo (-e).toNat, den)

/-- The exponent at which `num / den` has a mantissa of 53 bits, if it is not too small. -/
def exponentFor (num den : Nat) : Int :=
  let high := (num.log2 : Int) - den.log2 - 52
  let (n, d) := scaled num den high
  max (if n < d * twoTo 52 then high - 1 else high) minExponent

/-- The number nearest to `num / den`. -/
def ofRatio (negative : Bool) (num den : Nat) : Binary64 :=
  if num = 0 then zero negative
  else
    let e := exponentFor num den
    let (n, d) := scaled num den e
    let m := roundDiv n d
    let (m, e) := if m = twoTo 53 then (twoTo 52, e + 1) else (m, e)
    if maxExponent < e then infinity negative else finite negative m e

/-- The number nearest to an integer, if it is not too large. -/
def ofInt? (i : Int) : Option Binary64 :=
  match ofRatio (decide (i < 0)) i.natAbs 1 with
  | infinity _ => none
  | x => some x

/-- The number nearest to `digits · 10^scale`. -/
def ofDecimal (negative : Bool) (digits : Nat) (scale : Int) : Binary64 :=
  if digits = 0 then zero negative
  else if 400 < scale then infinity negative
  else if 0 ≤ scale then ofRatio negative (digits * tenTo scale.toNat) 1
  else if (digits.log2 : Int) + 1 + 3 * scale < -1200 then zero negative
  else ofRatio negative digits (tenTo (-scale).toNat)

/-! ## Comparison -/

/-- A signed mantissa. -/
def signed (negative : Bool) (m : Nat) : Int := if negative then -(m : Int) else m

/-- Two signed mantissas brought to the smaller of their exponents. -/
def aligned (a : Int) (ea : Int) (b : Int) (eb : Int) : Int × Int × Int :=
  let e := min ea eb
  (a * twoTo (ea - e).toNat, b * twoTo (eb - e).toNat, e)

/-- Strictly less. -/
def lt : Binary64 → Binary64 → Bool
  | nan, _ => false
  | _, nan => false
  | infinity a, infinity b => a && !b
  | infinity a, finite .. => a
  | finite .., infinity b => !b
  | finite na ma ea, finite nb mb eb =>
    let (a, b, _) := aligned (signed na ma) ea (signed nb mb) eb
    a < b

/-- Equal in value; the two zeros are equal. -/
def eq : Binary64 → Binary64 → Bool
  | nan, _ => false
  | _, nan => false
  | infinity a, infinity b => a == b
  | infinity _, finite .. => false
  | finite .., infinity _ => false
  | finite na ma ea, finite nb mb eb =>
    let (a, b, _) := aligned (signed na ma) ea (signed nb mb) eb
    a == b

/-- At most. -/
def le (x y : Binary64) : Bool := lt x y || eq x y

/-- Whether the number is zero, of either sign. -/
def isZero : Binary64 → Bool
  | finite _ 0 _ => true
  | _ => false

/-! ## Arithmetic -/

/-- The opposite number. -/
def neg : Binary64 → Binary64
  | nan => nan
  | infinity a => infinity !a
  | finite a m e => finite (!a) m e

/-- The number nearest to `i · 2^e`. -/
def ofDyadic (i : Int) (e : Int) : Binary64 :=
  let (n, d) := if 0 ≤ e then (i.natAbs * twoTo e.toNat, 1) else (i.natAbs, twoTo (-e).toNat)
  ofRatio (decide (i < 0)) n d

/-- The difference, rounded. -/
def sub : Binary64 → Binary64 → Binary64
  | nan, _ => nan
  | _, nan => nan
  | infinity a, infinity b => if a == b then nan else infinity a
  | infinity a, finite .. => infinity a
  | finite .., infinity b => infinity !b
  | finite na ma ea, finite nb mb eb =>
    let (a, b, e) := aligned (signed na ma) ea (signed nb mb) eb
    if a = b then zero (na && !nb && ma = 0) else ofDyadic (a - b) e

/-- The product, rounded. -/
def mul : Binary64 → Binary64 → Binary64
  | nan, _ => nan
  | _, nan => nan
  | infinity a, infinity b => infinity (a != b)
  | infinity a, finite b m _ => if m = 0 then nan else infinity (a != b)
  | finite a m _, infinity b => if m = 0 then nan else infinity (a != b)
  | finite a m e, finite b k f =>
    if m * k = 0 then zero (a != b)
    else
      let x := ofDyadic (signed (a != b) (m * k)) (e + f)
      if x.isZero then zero (a != b) else x

/-- The nearest integer, a tie to the even one; none for infinities and what is not a number. -/
def roundToInt? : Binary64 → Option Int
  | finite negative m e =>
    some (signed negative (if 0 ≤ e then m * twoTo e.toNat else roundDiv m (twoTo (-e).toNat)))
  | _ => none

/-- The integer part; none for infinities and what is not a number. -/
def truncate? : Binary64 → Option Int
  | finite negative m e =>
    some (signed negative (if 0 ≤ e then m * twoTo e.toNat else m / twoTo (-e).toNat))
  | _ => none

/-- Whether the number is an integer. -/
def isIntegral : Binary64 → Bool
  | finite _ m e => 0 ≤ e || m % twoTo (-e).toNat == 0
  | _ => false

/-- Percent of a share: the number times one hundred, to the nearest integer. -/
def percent (x : Binary64) : Int := ((x.mul (ofRatio false 100 1)).roundToInt?).getD 0

end Binary64

end NetSketch.Number
