/-!
# Characters of bytes

Every character is one byte below 128, or a lead byte and one to three bytes that continue it.
Bytes that are no characters are read too: a lead byte and what could have continued it so far
counts as one broken piece, and so does any other byte, and each piece becomes a replacement
character.

* `continuations`: what may continue a lead byte;
* `charsOf`: the characters of bytes.
-/

namespace NetSketch.Text

/-- What stands for bytes that are no character. -/
def replacement : Char := '\ufffd'

/-- The ranges of the bytes that continue a byte, in their order; none for a byte that leads no
character. Overlong forms, surrogates and numbers that are too large are left out. -/
def continuations (lead : Nat) : List (Nat × Nat) :=
  let whole := (0x80, 0xbf)
  if 0xc2 ≤ lead ∧ lead ≤ 0xdf then [whole]
  else if lead = 0xe0 then [(0xa0, 0xbf), whole]
  else if lead = 0xed then [(0x80, 0x9f), whole]
  else if 0xe1 ≤ lead ∧ lead ≤ 0xef then [whole, whole]
  else if lead = 0xf0 then [(0x90, 0xbf), whole, whole]
  else if 0xf1 ≤ lead ∧ lead ≤ 0xf3 then [whole, whole, whole]
  else if lead = 0xf4 then [(0x80, 0x8f), whole, whole]
  else []

/-- How many bytes at the front lie in the ranges, one after the other. -/
def continued : List (Nat × Nat) → List UInt8 → Nat
  | (low, high) :: ranges, b :: bytes =>
    if low ≤ b.toNat ∧ b.toNat ≤ high then continued ranges bytes + 1 else 0
  | _, _ => 0

/-- The number of a character from the part that its lead byte holds and the bytes behind. -/
def codePoint (part : Nat) (bytes : List UInt8) : Nat :=
  bytes.foldl (fun n b => 64 * n + b.toNat % 64) part

/-- The part of a number that a lead byte holds in front of so many others. -/
def leadPart (lead : Nat) : Nat → Nat
  | 1 => lead % 32
  | 2 => lead % 16
  | _ => lead % 8

/-- **The characters of bytes**, with a replacement for every broken piece. -/
def charsOf : List UInt8 → List Char
  | [] => []
  | b :: bytes =>
    if b.toNat < 128 then .ofNat b.toNat :: charsOf bytes
    else
      let ranges := continuations b.toNat
      let n := continued ranges bytes
      let c := if ranges.isEmpty || n < ranges.length then replacement
        else .ofNat (codePoint (leadPart b.toNat n) (bytes.take n))
      c :: charsOf (bytes.drop n)
termination_by bytes => bytes.length
decreasing_by
  · exact Nat.lt_succ_self _
  · rw [List.length_drop, List.length_cons]; omega

end NetSketch.Text
