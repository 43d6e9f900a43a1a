import Mathlib.Data.Nat.Cast.Field
import NetSketch.Proofs.Number.Rounding

/-!
# Differences of quantities

Integers are subtracted exactly, and a difference with a floating-point number is rounded. Among
integers alone differences keep the order, and so they do where all integers, and all differences
of them, are floating-point numbers themselves, as those up to `2^53` are. Otherwise one difference
may be rounded and the other not, and they may change places.

* `Quantity.IsFloat`, `Quantity.isFloat_whole`: the integers that are floating-point numbers;
* `Quantity.Steady`: quantities among which no difference is rounded in one way and not in another;
* **`Quantity.Steady.sub_le_sub`**: their differences keep the order.
-/

namespace NetSketch.Number

namespace Binary64

variable {n d : ℕ}

/-! ## Integers that are not rounded -/

theorem eq_finite_of_value {x : Binary64} {q : ℚ}
    (h : x.value = ((q : WithTop ℚ) : WithBot (WithTop ℚ))) :
    ∃ negative m e, x = finite negative m e ∧ rational negative m e = q := by
  cases x with
  | nan => simp [value] at h
  | infinity b => cases b <;> simp [value] at h
  | finite negative m e =>
    simp only [value, WithBot.coe_inj, WithTop.coe_inj] at h
    exact ⟨_, _, _, rfl, h⟩

theorem unbounded_of_dvd (hd : 0 < d)
    (h : (scaled n d (exponentFor n d)).2 ∣ (scaled n d (exponentFor n d)).1) :
    unbounded n d = n / d := by
  have hpos := scaled_snd_pos (n := n) (e := exponentFor n d) hd
  have hpow : (2 : ℚ) ^ exponentFor n d ≠ 0 := (zpow_pos two_pos _).ne'
  rw [unbounded, mantissaFor, roundDiv_of_dvd hpos h,
    Nat.cast_div h (Nat.cast_ne_zero.mpr hpos.ne'), scaled_div hd, div_mul_cancel₀ _ hpow]

theorem unbounded_whole (h : n ≤ twoTo 53) : unbounded n 1 = n := by
  rcases Nat.eq_zero_or_pos n with rfl | hn
  · exact_mod_cast unbounded_zero 1
  have hfits := fits_exponentFor hn Nat.one_pos
  rw [unbounded_of_dvd Nat.one_pos, Nat.cast_one, div_one]
  generalize exponentFor n 1 = e at *
  unfold scaled
  split_ifs with he
  · dsimp only
    rw [Nat.one_mul]
    rcases he.eq_or_lt with rfl | hpos
    · exact one_dvd n
    · -- only the greatest of them has another exponent
      have hmin : minExponent < 0 := by decide
      have habove := hfits.above.resolve_left (by omega)
      have hle : (2 : ℚ) ^ (e + 52) ≤ 2 ^ (53 : ℤ) :=
        calc (2 : ℚ) ^ (e + 52) ≤ n := by simpa using habove
          _ ≤ twoTo 53 := by exact_mod_cast h
          _ = 2 ^ (53 : ℤ) := twoTo_cast 53
      have hexp := (zpow_le_zpow_iff_right₀ one_lt_two).mp hle
      obtain rfl : e = 1 := by omega
      have hge : twoTo 53 ≤ n := by
        have : (twoTo 53 : ℚ) ≤ n := by
          rw [twoTo_cast]
          simpa using habove
        exact_mod_cast this
      obtain rfl := Nat.le_antisymm h hge
      exact ⟨twoTo 52, by decide⟩
  · exact one_dvd _

theorem value_ofRatio_whole (negative : Bool) (h : n ≤ twoTo 53) :
    (ofRatio negative n 1).value = (((signed negative n : ℚ) : WithTop ℚ) : WithBot (WithTop ℚ)) := by
  have hsmall : (n : ℚ) < 2 ^ (maxExponent + 53) :=
    calc (n : ℚ) ≤ twoTo 53 := by exact_mod_cast h
      _ = 2 ^ (53 : ℤ) := twoTo_cast 53
      _ < 2 ^ (maxExponent + 53) := zpow_lt_zpow_right₀ one_lt_two (by decide)
  have hvalue := value_ofRatio (n := n) Nat.one_pos
  rw [unbounded_whole h, capped, if_neg (not_le.mpr hsmall)] at hvalue
  cases negative with
  | false => simpa [signed] using hvalue
  | true =>
    obtain ⟨a, m, e, hfinite, hrational⟩ := eq_finite_of_value hvalue
    rw [ofRatio_true, hfinite, neg, value, rational_not, hrational]
    simp [signed]

/-- **Integers up to `2^53` are not rounded.** -/
theorem nearest_whole {i : ℤ} (h : i.natAbs ≤ twoTo 53) :
    nearest i = (((i : ℚ) : WithTop ℚ) : WithBot (WithTop ℚ)) := by
  rw [← value_rounded, Quantity.rounded, value_ofRatio_whole _ h, signed_natAbs]

end Binary64

namespace Quantity

open Binary64

variable {a b c d : Quantity} {i j : ℤ} {times others : List Quantity}

/-! ## Integers that are floating-point numbers -/

/-- A quantity is a floating-point number: rounding leaves its value. -/
def IsFloat (a : Quantity) : Prop := a.rounded.value = a.exact.value

theorem isFloat_real (x : Binary64) : (real x).IsFloat := rfl

theorem value_exact_whole (i : ℤ) :
    (whole i).exact.value = (((i : ℚ) : WithTop ℚ) : WithBot (WithTop ℚ)) := by
  rw [exact, value, rational, signed_natAbs, zpow_zero, mul_one]

theorem isFloat_whole (h : i.natAbs ≤ twoTo 53) : (whole i).IsFloat := by
  rw [IsFloat, value_rounded, nearest_whole h, value_exact_whole]

theorem IsFloat.eq_finite (h : (whole i).IsFloat) :
    ∃ negative m e, (whole i).rounded = finite negative m e ∧ rational negative m e = i :=
  eq_finite_of_value (h.trans (value_exact_whole i))

theorem le_whole_iff : (whole i).le (whole j) = true ↔ i ≤ j := by
  rw [Quantity.le, le_iff_value_le, value_exact_whole, value_exact_whole]
  simp [exact]

theorem le_self_of_le (h : a.le b = true) : a.le a = true ∧ b.le b = true :=
  ⟨le_self (le_iff.mp h).1, le_self (le_iff.mp h).2.1⟩

theorem rounded_eq_nan_iff : a.rounded = nan ↔ a.exact = nan := by
  cases a with
  | whole i => exact iff_of_false (ofRatio_ne_nan _ _ _) (by simp [exact])
  | real x => rfl

theorem le_iff_rounded (ha : a.IsFloat) (hb : b.IsFloat) :
    a.le b = true ↔ a.rounded.le b.rounded = true := by
  rw [Quantity.le, le_iff_value_le, le_iff_value_le, ← ha, ← hb, ne_eq, ne_eq, ne_eq, ne_eq,
    rounded_eq_nan_iff, rounded_eq_nan_iff]

/-! ## Differences -/

/-- A difference that is a floating-point number is the rounded one. -/
theorem sub_rounded (ha : a.IsFloat) (hb : b.IsFloat) (hab : (a.sub b).IsFloat) :
    ((a.sub b).exact = nan ↔ a.rounded.sub b.rounded = nan) ∧
      (a.sub b).exact.value = (a.rounded.sub b.rounded).value := by
  cases a with
  | real x => exact ⟨Iff.rfl, rfl⟩
  | whole i =>
    cases b with
    | real y => exact ⟨Iff.rfl, rfl⟩
    | whole j =>
      obtain ⟨na, ma, ea, hi, hia⟩ := ha.eq_finite
      obtain ⟨nb, mb, eb, hj, hjb⟩ := hb.eq_finite
      rw [hi, hj, ← hab, sub, value_rounded, value_sub, hia, hjb, Int.cast_sub]
      exact ⟨iff_of_false (by simp [exact]) sub_finite_ne_nan, rfl⟩

/-- **Quantities of which no difference is rounded in one way and not in another**: integers alone,
or floating-point numbers beside integers that, with their differences, are such numbers. -/
def Steady (times : List Quantity) : Prop :=
  (∀ a ∈ times, ∃ i, a = whole i) ∨
    ∀ a ∈ times, a.IsFloat ∧ ∀ b ∈ times, (a.sub b).IsFloat

theorem Steady.mono (h : Steady times) (hsub : others ⊆ times) : Steady others :=
  h.imp (fun h a ha => h a (hsub ha)) fun h a ha =>
    ⟨(h a (hsub ha)).1, fun b hb => (h a (hsub ha)).2 b (hsub hb)⟩

/-- Integers up to `2^52` are steady, with any floating-point numbers. -/
theorem steady_small (h : ∀ i, whole i ∈ times → i.natAbs ≤ twoTo 52) : Steady times := by
  refine .inr fun a ha => ⟨?_, fun b hb => ?_⟩
  · cases a with
    | real x => exact isFloat_real x
    | whole i => exact isFloat_whole ((h i ha).trans (by decide))
  · cases a with
    | real x => exact isFloat_real _
    | whole i =>
      cases b with
      | real y => exact isFloat_real _
      | whole j =>
        have hi := h i ha
        have hj := h j hb
        have htwice : twoTo 53 = twoTo 52 + twoTo 52 := by decide
        exact isFloat_whole (by omega)

/-- **Differences keep the order**: of steady quantities in order, the outer ones are at least as far
apart as the inner ones. -/
theorem Steady.sub_le_sub (h : Steady times) (ha : a ∈ times) (hb : b ∈ times) (hc : c ∈ times)
    (hd : d ∈ times) (hab : a.le b = true) (hbc : b.le c = true) (hcd : c.le d = true)
    (hdiff : (c.sub b).exact ≠ nan) : (c.sub b).le (d.sub a) = true := by
  obtain hwhole | hfloat := h
  · obtain ⟨i, rfl⟩ := hwhole a ha
    obtain ⟨j, rfl⟩ := hwhole b hb
    obtain ⟨k, rfl⟩ := hwhole c hc
    obtain ⟨l, rfl⟩ := hwhole d hd
    rw [le_whole_iff] at hab hcd
    exact le_whole_iff.mpr (by omega)
  · have hfa := (hfloat a ha).1
    have hfb := (hfloat b hb).1
    have hfc := (hfloat c hc).1
    have hfd := (hfloat d hd).1
    obtain ⟨hnancb, hvaluecb⟩ := sub_rounded hfc hfb ((hfloat c hc).2 b hb)
    obtain ⟨hnanda, hvalueda⟩ := sub_rounded hfd hfa ((hfloat d hd).2 a ha)
    have hle : (c.rounded.sub b.rounded).le (d.rounded.sub a.rounded) = true :=
      Binary64.sub_le_sub ((le_iff_rounded hfa hfb).mp hab) ((le_iff_rounded hfb hfc).mp hbc)
        ((le_iff_rounded hfc hfd).mp hcd) (mt hnancb.mpr hdiff)
    rw [Quantity.le, le_iff_value_le, ne_eq, ne_eq, hnancb, hnanda, hvaluecb, hvalueda]
    exact le_iff_value_le.mp hle

end Quantity

end NetSketch.Number
