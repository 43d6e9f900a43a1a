import NetSketch.Number.Binary64

/-!
# The shortest text of a number

A floating-point number is written with the fewest decimal digits that are read back as the same
number, and of those with the nearest. The digits are found by exact comparison with the interval
of reals that round to the number.

* `Digits`: a row of decimal digits at a scale; `shortest`;
* `Layout`: where positional writing ends, and how exponents look;
* `Binary64.render`: the text of a number.
-/

namespace NetSketch.Number

/-- The number `value · 10^scale`. -/
structure Digits where
  value : Nat
  scale : Int
  deriving DecidableEq, Repr

/-- The reals `low / den` to `high / den` that round to a number `num / den`, its ends included or
not. -/
structure Interval where
  low : Nat
  num : Nat
  high : Nat
  den : Nat
  closed : Bool

/-- The interval of a finite number other than zero. -/
def intervalOf (m : Nat) (e : Int) : Interval :=
  let below := if m = twoTo 52 ∧ Binary64.minExponent < e then 1 else 2
  let (up, den) := if 0 ≤ e - 2 then (twoTo (e - 2).toNat, 1) else (1, twoTo (2 - e).toNat)
  ⟨(4 * m - below) * up, 4 * m * up, (4 * m + 2) * up, den, m % 2 == 0⟩

/-- The numerator and denominator of `num / den` over `10^scale`. -/
def overPower (num den : Nat) (scale : Int) : Nat × Nat :=
  if 0 ≤ scale then (num, den * tenTo scale.toNat) else (num * tenTo (-scale).toNat, den)

/-- Whether a decimal lies in an interval. -/
def Interval.reads (i : Interval) (d : Digits) : Bool :=
  let (low, den) := overPower i.low i.den d.scale
  let (high, _) := overPower i.high i.den d.scale
  if i.closed then low ≤ d.value * den && d.value * den ≤ high
  else low < d.value * den && d.value * den < high

/-- The least `k` with `num / den < 10^k`, from an estimate that is at most two too small. -/
def decimalPoint (num den : Nat) (estimate : Int) : Int :=
  let isBelow (k : Int) : Bool := let (n, d) := overPower num den k; n < d
  if isBelow estimate then estimate
  else if isBelow (estimate + 1) then estimate + 1
  else estimate + 2

/-- The nearest decimal of an interval on the grid of `10^scale`, if there is one. -/
def Interval.onGrid? (i : Interval) (scale : Int) : Option Digits :=
  let (n, d) := overPower i.num i.den scale
  let lower : Digits := ⟨n / d, scale⟩
  let upper : Digits := ⟨n / d + 1, scale⟩
  match i.reads lower, i.reads upper with
  | true, true =>
    if 2 * n < (2 * lower.value + 1) * d then some lower
    else if (2 * lower.value + 1) * d < 2 * n then some upper
    else if lower.value % 2 = 0 then some lower else some upper
  | true, false => some lower
  | false, true => some upper
  | false, false => none

/-- The first of `most` ever finer grids below `10^top` that holds a decimal of the interval. -/
def Interval.firstGrid? (i : Interval) (top : Int) (most : Nat) : Option Digits :=
  (List.range most).findSome? fun (n : Nat) => i.onGrid? (top - (n + 1))

/-- The shortest digits of a finite number other than zero, without zeros at the end. -/
def shortest (m : Nat) (e : Int) : Digits :=
  let i := intervalOf m e
  let top := decimalPoint i.num i.den (((m.log2 + e) * 30103).fdiv 100000)
  (i.firstGrid? top 17).getD ⟨i.num, 0⟩

/-! ## Layout -/

/-- How digits are laid out: positionally while the decimal point stands at most `highest` digits
to the right and `lowest` digits to the left of the first digit, else with an exponent of at least
`exponentWidth` digits. -/
structure Layout where
  lowest : Int
  highest : Int
  exponentWidth : Nat

/-- Positional below `10^16` and from `10^-4` on; exponents have a sign and two digits. -/
def plainLayout : Layout := ⟨-4, 16, 2⟩

/-- Zeros before a row of digits up to a width. -/
def padded (width : Nat) (n : Nat) : List Char :=
  let ds := Nat.toDigits 10 n
  List.replicate (width - ds.length) '0' ++ ds

/-- The digits of a row without the zeros at its end. -/
def significant (d : Digits) : List Char :=
  ((Nat.toDigits 10 d.value).reverse.dropWhile (· == '0')).reverse

/-- Digits in a layout. -/
def Layout.write (layout : Layout) (d : Digits) : List Char :=
  let ds := significant d
  let point : Int := (Nat.toDigits 10 d.value).length + d.scale
  if layout.lowest < point && point ≤ layout.highest then
    if point ≤ 0 then '0' :: '.' :: List.replicate (-point).toNat '0' ++ ds
    else if point.toNat < ds.length then ds.take point.toNat ++ '.' :: ds.drop point.toNat
    else ds ++ List.replicate (point.toNat - ds.length) '0' ++ ['.', '0']
  else
    let exponent := point - 1
    let lead := match ds with
      | [] => ['0']
      | [c] => [c]
      | c :: rest => c :: '.' :: rest
    lead ++ 'e' :: (if exponent < 0 then '-' else '+') :: padded layout.exponentWidth exponent.natAbs

/-- The text of a number. -/
def Binary64.render : Binary64 → String
  | nan => "nan"
  | infinity negative => if negative then "-inf" else "inf"
  | finite negative m e =>
    let body := if m = 0 then ['0', '.', '0'] else plainLayout.write (shortest m e)
    .ofList (if negative then '-' :: body else body)

/-- The text of a number to the nearest whole one, a tie to the even one. -/
def Binary64.renderWhole (x : Binary64) : String :=
  match x, x.roundToInt? with
  | finite true _ _, some i => "-" ++ Nat.repr i.natAbs
  | _, some i => Nat.repr i.natAbs
  | _, none => x.render

end NetSketch.Number
