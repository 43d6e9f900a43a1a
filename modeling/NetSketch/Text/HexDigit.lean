/-!
# Hexadecimal digits

* `hexDigit?`: the value of a hexadecimal digit in either case.
-/

namespace NetSketch.Text

/-- The value of a hexadecimal digit. -/
def hexDigit? (c : Char) : Option Nat :=
  if c.isDigit then some (c.toNat - 48)
  else if 'a' ≤ c && c ≤ 'f' then some (c.toNat - 87)
  else if 'A' ≤ c && c ≤ 'F' then some (c.toNat - 55)
  else none

end NetSketch.Text
