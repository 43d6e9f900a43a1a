import NetSketch.Number.Binary64

/-!
# Quantities

A quantity is an integer of any size or a floating-point number. Integers are compared and
subtracted exactly; with a floating-point number the difference is one too.

* `Quantity`, `Quantity.le`, `Quantity.sub`, `Quantity.dividedBy`.
-/

namespace NetSketch.Number

/-- An integer or a floating-point number. -/
inductive Quantity where
  | whole (i : Int)
  | real (x : Binary64)
  deriving DecidableEq, Repr

namespace Quantity

/-- The value of a quantity, of which an integer may have any number of digits. -/
def exact : Quantity → Binary64
  | whole i => .finite (decide (i < 0)) i.natAbs 0
  | real x => x

/-- The floating-point number nearest to a quantity. -/
def rounded : Quantity → Binary64
  | whole i => .ofRatio (decide (i < 0)) i.natAbs 1
  | real x => x

/-- At most, by value. -/
def le (a b : Quantity) : Bool := a.exact.le b.exact

/-- The difference, exact for integers. -/
def sub : Quantity → Quantity → Quantity
  | whole i, whole j => whole (i - j)
  | a, b => real (a.rounded.sub b.rounded)

/-- The floating-point number nearest to a quotient. -/
def dividedBy (a : Quantity) (n : Nat) : Binary64 :=
  match a.exact with
  | .finite negative m e =>
    if 0 ≤ e then .ofRatio negative (m * twoTo e.toNat) n
    else .ofRatio negative m (n * twoTo (-e).toNat)
  | x => x

end Quantity

end NetSketch.Number
