import Mathlib.Algebra.Order.Field.Power
import Mathlib.Algebra.Order.Ring.Rat
import Mathlib.Order.WithBot
import Mathlib.Tactic.Ring
import NetSketch.Number.Quantity

/-!
# The order of floating-point numbers

Numbers are compared by value, and a value is a rational or beyond all of them. What is not a number
is not compared at all.

* `Binary64.le_iff`: at most and less, where something may not be a number;
* `Binary64.lt_finite_iff`, `Binary64.lt_or_lt`: the order of numbers;
* `Binary64.value`: the value of a number; **`Binary64.le_iff_value_le`**: the order by value.
-/

namespace NetSketch.Number

theorem twoTo_toNat {k : ℤ} (h : 0 ≤ k) : (twoTo k.toNat : ℚ) = 2 ^ k := by
  rw [twoTo, Nat.pow_eq, Nat.cast_pow, Nat.cast_ofNat, ← zpow_natCast, Int.toNat_of_nonneg h]

namespace Binary64

variable {x y z : Binary64} {nx ny : Bool} {mx my : Nat} {ex ey e : Int}

/-! ## Comparison with what may not be a number -/

theorem ne_nan_of_lt (h : x.lt y = true) : x ≠ .nan ∧ y ≠ .nan := by
  cases x <;> cases y <;> simp_all [lt]

theorem le_iff : x.le y = true ↔ x ≠ .nan ∧ y ≠ .nan ∧ y.lt x = false := by
  unfold le
  cases x with
  | nan => simp [lt, eq]
  | infinity a =>
    cases y with
    | nan => simp [lt, eq]
    | infinity b => cases a <;> cases b <;> simp [lt, eq]
    | finite nb mb eb => simp [lt, eq]
  | finite na ma ea =>
    cases y with
    | nan => simp [lt, eq]
    | infinity b => simp [lt, eq]
    | finite nb mb eb =>
      simp only [lt, eq, Bool.or_eq_true, decide_eq_true_eq, beq_iff_eq,
        decide_eq_false_iff_not, ne_eq, reduceCtorEq, not_false_eq_true, true_and]
      simp only [aligned, Int.min_comm eb ea]
      omega

/-! ## Comparison of numbers -/

/-- Finite numbers are compared by their mantissas under any exponent that is small enough. -/
theorem lt_finite_iff (hx : e ≤ ex) (hy : e ≤ ey) : (finite nx mx ex).lt (finite ny my ey) = true ↔
    signed nx mx * twoTo (ex - e).toNat < signed ny my * twoTo (ey - e).toNat := by
  have hsplit {k : Int} (hk : min ex ey ≤ k) : (twoTo (k - e).toNat : Int) =
      twoTo (k - min ex ey).toNat * twoTo (min ex ey - e).toNat := by
    have hadd (a b : Nat) : twoTo (a + b) = twoTo a * twoTo b := Nat.pow_add 2 a b
    rw [← Int.natCast_mul, ← hadd]
    congr 2
    omega
  have hpos : (0 : Int) < twoTo (min ex ey - e).toNat :=
    Int.natCast_pos.mpr (Nat.pow_pos (by decide))
  rw [hsplit (Int.min_le_left ..), hsplit (Int.min_le_right ..), ← Int.mul_assoc, ← Int.mul_assoc,
    Int.mul_lt_mul_right hpos]
  exact decide_eq_true_iff

theorem lt_or_lt (h : x.lt z = true) (hy : y ≠ .nan) : x.lt y = true ∨ y.lt z = true := by
  cases x with
  | nan => cases h
  | infinity a =>
    cases y <;> cases z <;> simp_all [lt]
  | finite nx mx ex =>
    cases y with
    | nan => exact absurd rfl hy
    | infinity b => cases z <;> simp_all [lt]
    | finite ny my ey =>
      cases z with
      | nan => cases h
      | infinity c => exact .inr h
      | finite nz mz ez =>
        -- all three under one exponent
        obtain ⟨e, hex, hey, hez⟩ : ∃ e, e ≤ ex ∧ e ≤ ey ∧ e ≤ ez :=
          ⟨min ex (min ey ez), by omega, by omega, by omega⟩
        rw [lt_finite_iff hex hez] at h
        rw [lt_finite_iff hex hey, lt_finite_iff hey hez]
        omega

/-! ## Values -/

/-- The rational that a finite number is. -/
def rational (negative : Bool) (m : Nat) (e : Int) : ℚ := signed negative m * 2 ^ e

/-- **The value of a number**: a rational, or one beyond all of them. -/
def value : Binary64 → WithBot (WithTop ℚ)
  | nan => ⊥
  | infinity true => ⊥
  | infinity false => ((⊤ : WithTop ℚ) : WithBot (WithTop ℚ))
  | finite negative m e => ((rational negative m e : WithTop ℚ) : WithBot (WithTop ℚ))

theorem lt_finite_iff_rational :
    (finite nx mx ex).lt (finite ny my ey) = true ↔ rational nx mx ex < rational ny my ey := by
  have hscale {k e : ℤ} (h : e ≤ k) (a : ℤ) :
      ((a * twoTo (k - e).toNat : ℤ) : ℚ) * 2 ^ e = a * 2 ^ k := by
    rw [Int.cast_mul, Int.cast_natCast, twoTo_toNat (by omega), mul_assoc,
      ← zpow_add₀ two_ne_zero, sub_add_cancel]
  have hpos : (0 : ℚ) < 2 ^ min ex ey := zpow_pos two_pos _
  rw [lt_finite_iff (Int.min_le_left ex ey) (Int.min_le_right ex ey), ← Int.cast_lt (R := ℚ),
    ← mul_lt_mul_iff_left₀ hpos, hscale (Int.min_le_left ex ey), hscale (Int.min_le_right ex ey)]
  rfl

theorem lt_iff_value_lt (hx : x ≠ .nan) (hy : y ≠ .nan) : x.lt y = true ↔ x.value < y.value := by
  cases x with
  | nan => exact absurd rfl hx
  | infinity a =>
    cases y with
    | nan => exact absurd rfl hy
    | infinity b => cases a <;> cases b <;> simp [lt, value]
    | finite ny my ey => cases a <;> simp [lt, value]
  | finite nx mx ex =>
    cases y with
    | nan => exact absurd rfl hy
    | infinity b =>
      cases b with
      | false => exact iff_of_true rfl (WithBot.coe_lt_coe.mpr (WithTop.coe_lt_top _))
      | true => simp [lt, value]
    | finite ny my ey =>
      rw [lt_finite_iff_rational, value, value, WithBot.coe_lt_coe, WithTop.coe_lt_coe]

/-- **Numbers are ordered by value.** -/
theorem le_iff_value_le : x.le y = true ↔ x ≠ .nan ∧ y ≠ .nan ∧ x.value ≤ y.value := by
  rw [le_iff]
  refine and_congr_right fun hx => and_congr_right fun hy => ?_
  rw [← not_lt, ← lt_iff_value_lt hy hx, Bool.not_eq_true]

theorem le_trans (hxy : x.le y = true) (hyz : y.le z = true) : x.le z = true := by
  obtain ⟨hx, -, hxy⟩ := le_iff_value_le.mp hxy
  obtain ⟨-, hz, hyz⟩ := le_iff_value_le.mp hyz
  exact le_iff_value_le.mpr ⟨hx, hz, hxy.trans hyz⟩

theorem le_self (hx : x ≠ .nan) : x.le x = true := le_iff_value_le.mpr ⟨hx, hx, le_rfl⟩

end Binary64

end NetSketch.Number
