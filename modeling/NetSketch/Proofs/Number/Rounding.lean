import Mathlib.Tactic.FieldSimp
import Mathlib.Tactic.Linarith
import Mathlib.Tactic.Positivity
import NetSketch.Proofs.Number.Order

/-!
# Rounding keeps the order

A quotient is rounded to the nearest mantissa under the exponent that fits it. Of two quotients the
greater one has the greater exponent; under one exponent it has the greater mantissa; and the least
mantissa of one exponent is as far as the greatest one of the exponent before it goes. So the order
is kept, and what a quotient is rounded to depends on its value alone.

* `roundDiv_mono`: the nearest natural;
* `Binary64.Fits`, `Binary64.fits_exponentFor`: the exponent of a quotient;
* `Binary64.unbounded`, `Binary64.value_ofRatio`: what a quotient is rounded to;
* `Binary64.nearest`, **`Binary64.nearest_mono`**: rounding of rationals;
* **`Binary64.value_sub`**: a difference is the rounded one; **`Binary64.sub_le_sub`**: differences
  keep the order.
-/

namespace NetSketch.Number

/-! ## The nearest natural -/

section Naturals

variable {n d n₁ d₁ n₂ d₂ : ℕ}

theorem div_le_roundDiv : n / d ≤ roundDiv n d := by
  unfold roundDiv
  dsimp only
  split_ifs <;> omega

theorem roundDiv_le : roundDiv n d ≤ n / d + 1 := by
  unfold roundDiv
  dsimp only
  split_ifs <;> omega

theorem roundDiv_of_dvd (hd : 0 < d) (h : d ∣ n) : roundDiv n d = n / d := by
  unfold roundDiv
  rw [Nat.mod_eq_zero_of_dvd h]
  exact if_pos hd

/-- **Of two quotients the greater one has the greater nearest natural.** -/
theorem roundDiv_mono (h₁ : 0 < d₁) (h₂ : 0 < d₂) (h : n₁ * d₂ ≤ n₂ * d₁) :
    roundDiv n₁ d₁ ≤ roundDiv n₂ d₂ := by
  have hn₁ := Nat.div_add_mod n₁ d₁
  have hn₂ := Nat.div_add_mod n₂ d₂
  have hr₁ := Nat.mod_lt n₁ h₁
  have hr₂ := Nat.mod_lt n₂ h₂
  rcases Nat.lt_trichotomy (n₁ / d₁) (n₂ / d₂) with hlt | heq | hgt
  · exact Nat.le_trans roundDiv_le (Nat.le_trans hlt div_le_roundDiv)
  · -- the remainders are in the same order
    have hrest : n₁ % d₁ * d₂ ≤ n₂ % d₂ * d₁ := by
      rw [← heq] at hn₂
      nlinarith
    have hlow : 2 * (n₂ % d₂) < d₂ → 2 * (n₁ % d₁) < d₁ := fun hlow => by nlinarith
    have hhigh : d₁ < 2 * (n₁ % d₁) → d₂ < 2 * (n₂ % d₂) := fun hhigh => by nlinarith
    unfold roundDiv
    dsimp only
    rw [heq]
    split_ifs <;> omega
  · have hlt : n₂ * d₁ < n₁ * d₂ :=
      calc n₂ * d₁ < d₂ * (n₂ / d₂ + 1) * d₁ :=
            Nat.mul_lt_mul_of_pos_right (Nat.lt_mul_div_succ n₂ h₂) h₁
        _ ≤ d₂ * (n₁ / d₁) * d₁ := Nat.mul_le_mul_right _ (Nat.mul_le_mul_left _ hgt)
        _ = d₁ * (n₁ / d₁) * d₂ := by ring
        _ ≤ n₁ * d₂ := Nat.mul_le_mul_right _ (Nat.mul_div_le n₁ d₁)
    omega

end Naturals

namespace Binary64

variable {n d n₁ d₁ n₂ d₂ : ℕ} {q q₁ q₂ : ℚ} {e e₁ e₂ : ℤ}

theorem two_zpow_add (a b : ℤ) : (2 : ℚ) ^ (a + b) = 2 ^ a * 2 ^ b := zpow_add₀ two_ne_zero a b

/-! ## The exponent of a quotient -/

theorem scaled_snd_pos (hd : 0 < d) : 0 < (scaled n d e).2 := by
  unfold scaled
  split_ifs
  · exact Nat.mul_pos hd (Nat.pow_pos (by decide))
  · exact hd

theorem scaled_div (hd : 0 < d) : ((scaled n d e).1 : ℚ) / (scaled n d e).2 = n / d / 2 ^ e := by
  have hd : (d : ℚ) ≠ 0 := Nat.cast_ne_zero.mpr hd.ne'
  unfold scaled
  split_ifs with he
  · rw [Nat.cast_mul, twoTo_toNat he, div_div]
  · rw [Nat.cast_mul, twoTo_toNat (by omega), zpow_neg]
    field_simp

/-- **An exponent fits a quotient**: under it the mantissa has at most 53 bits, and no fewer unless
the exponent is the least one. -/
structure Fits (q : ℚ) (e : ℤ) : Prop where
  least : minExponent ≤ e
  below : q < 2 ^ (e + 53)
  above : e = minExponent ∨ 2 ^ (e + 52) ≤ q

theorem Fits.mono (h₁ : Fits q₁ e₁) (h₂ : Fits q₂ e₂) (h : q₁ ≤ q₂) : e₁ ≤ e₂ := by
  by_contra hlt
  have habove := h₁.above.resolve_left (by have := h₂.least; omega)
  have hpow : (2 : ℚ) ^ (e₂ + 53) ≤ 2 ^ (e₁ + 52) :=
    zpow_le_zpow_right₀ one_le_two (by omega)
  exact absurd (h₂.below.trans_le (hpow.trans habove)) (not_lt.mpr h)

theorem zpow_log2_bounds (hn : 0 < n) :
    (2 : ℚ) ^ (n.log2 : ℤ) ≤ n ∧ (n : ℚ) < 2 ^ ((n.log2 : ℤ) + 1) := by
  constructor
  · rw [zpow_natCast]
    exact_mod_cast Nat.log2_self_le hn.ne'
  · rw [← Nat.cast_succ, zpow_natCast]
    exact_mod_cast Nat.lt_log2_self

/-- The lengths of numerator and denominator tell the exponent of a quotient up to one. -/
theorem zpow_log2_sub_bounds (hn : 0 < n) (hd : 0 < d) :
    (2 : ℚ) ^ ((n.log2 : ℤ) - d.log2 - 1) ≤ n / d ∧ (n : ℚ) / d < 2 ^ ((n.log2 : ℤ) - d.log2 + 1) := by
  obtain ⟨hn₁, hn₂⟩ := zpow_log2_bounds hn
  obtain ⟨hd₁, hd₂⟩ := zpow_log2_bounds hd
  have hpos : (0 : ℚ) < d := Nat.cast_pos.mpr hd
  constructor
  · rw [le_div_iff₀ hpos]
    calc (2 : ℚ) ^ ((n.log2 : ℤ) - d.log2 - 1) * d
        ≤ 2 ^ ((n.log2 : ℤ) - d.log2 - 1) * 2 ^ ((d.log2 : ℤ) + 1) := by gcongr
      _ = 2 ^ (n.log2 : ℤ) := by
          rw [← two_zpow_add]
          congr 1
          ring
      _ ≤ n := hn₁
  · rw [div_lt_iff₀ hpos]
    calc (n : ℚ) < 2 ^ ((n.log2 : ℤ) + 1) := hn₂
      _ = 2 ^ ((n.log2 : ℤ) - d.log2 + 1) * 2 ^ (d.log2 : ℤ) := by
          rw [← two_zpow_add]
          congr 1
          ring
      _ ≤ 2 ^ ((n.log2 : ℤ) - d.log2 + 1) * d := by gcongr

theorem scaled_lt_iff (hd : 0 < d) (k : ℕ) :
    (scaled n d e).1 < (scaled n d e).2 * twoTo k ↔ (n : ℚ) / d < 2 ^ (e + k) := by
  have hpos : (0 : ℚ) < (scaled n d e).2 := Nat.cast_pos.mpr (scaled_snd_pos hd)
  have hk : (twoTo k : ℚ) = 2 ^ (k : ℤ) := twoTo_toNat (Int.natCast_nonneg k)
  rw [← Nat.cast_lt (α := ℚ), Nat.cast_mul, ← div_lt_iff₀' hpos, scaled_div hd, hk,
    div_lt_iff₀ (zpow_pos two_pos e), ← two_zpow_add, add_comm]

/-- **The exponent of a quotient fits it.** -/
theorem fits_exponentFor (hn : 0 < n) (hd : 0 < d) : Fits (n / d) (exponentFor n d) := by
  obtain ⟨hlow, hhigh⟩ := zpow_log2_sub_bounds hn hd
  unfold exponentFor
  dsimp only
  generalize hlen : (n.log2 : ℤ) - d.log2 - 52 = high
  rw [show (n.log2 : ℤ) - d.log2 - 1 = high + 51 by omega] at hlow
  rw [show (n.log2 : ℤ) - d.log2 + 1 = high + 53 by omega] at hhigh
  generalize hc :
    (if (scaled n d high).1 < (scaled n d high).2 * twoTo 52 then high - 1 else high) = c
  have hbounds : (n : ℚ) / d < 2 ^ (c + 53) ∧ (2 : ℚ) ^ (c + 52) ≤ n / d := by
    split_ifs at hc with h
    · rw [scaled_lt_iff hd] at h
      obtain rfl := hc
      exact ⟨by convert h using 2; push_cast; ring, by convert hlow using 2; ring⟩
    · rw [scaled_lt_iff hd, not_lt] at h
      obtain rfl := hc
      exact ⟨hhigh, h⟩
  refine ⟨le_max_right _ _, hbounds.1.trans_le ?_, ?_⟩
  · exact zpow_le_zpow_right₀ one_le_two (by have := le_max_left c minExponent; omega)
  · rcases le_total c minExponent with h | h
    · exact .inl (max_eq_right h)
    · rw [max_eq_left h]
      exact .inr hbounds.2

/-! ## What a quotient is rounded to -/

/-- The mantissa of a quotient under the exponent that fits it. -/
def mantissaFor (n d : ℕ) : ℕ :=
  roundDiv (scaled n d (exponentFor n d)).1 (scaled n d (exponentFor n d)).2

/-- A quotient rounded as if exponents had no upper bound. -/
def unbounded (n d : ℕ) : ℚ := mantissaFor n d * 2 ^ exponentFor n d

theorem twoTo_cast (k : ℕ) : (twoTo k : ℚ) = 2 ^ (k : ℤ) := twoTo_toNat (Int.natCast_nonneg k)

theorem mantissaFor_le (hn : 0 < n) (hd : 0 < d) : mantissaFor n d ≤ twoTo 53 := by
  have hlt := (scaled_lt_iff (e := exponentFor n d) hd 53).mpr (fits_exponentFor hn hd).below
  exact Nat.le_trans roundDiv_le (Nat.div_lt_of_lt_mul hlt)

theorem le_mantissaFor (hd : 0 < d) (h : (2 : ℚ) ^ (exponentFor n d + 52) ≤ n / d) :
    twoTo 52 ≤ mantissaFor n d := by
  have hle : (scaled n d (exponentFor n d)).2 * twoTo 52 ≤ (scaled n d (exponentFor n d)).1 :=
    not_lt.mp fun hlt => not_lt.mpr h ((scaled_lt_iff hd 52).mp hlt)
  rw [Nat.mul_comm] at hle
  exact Nat.le_trans ((Nat.le_div_iff_mul_le (scaled_snd_pos hd)).mpr hle) div_le_roundDiv

theorem unbounded_nonneg (n d : ℕ) : 0 ≤ unbounded n d := by
  unfold unbounded
  positivity

theorem unbounded_zero (d : ℕ) : unbounded 0 d = 0 := by
  have hzero (k : ℕ) : roundDiv 0 k = 0 := by
    unfold roundDiv
    simp
  have hscaled : (scaled 0 d (exponentFor 0 d)).1 = 0 := by
    unfold scaled
    split_ifs
    · rfl
    · exact Nat.zero_mul _
  rw [unbounded, mantissaFor, hscaled, hzero, Nat.cast_zero, zero_mul]

/-- **Of two quotients the greater one is rounded to the greater number.** -/
theorem unbounded_mono (h₁ : 0 < d₁) (h₂ : 0 < d₂) (h : (n₁ : ℚ) / d₁ ≤ n₂ / d₂) :
    unbounded n₁ d₁ ≤ unbounded n₂ d₂ := by
  rcases Nat.eq_zero_or_pos n₁ with rfl | hn₁
  · rw [unbounded_zero]
    exact unbounded_nonneg n₂ d₂
  have hn₂ : 0 < n₂ := by
    have hpos : (0 : ℚ) < n₁ / d₁ := div_pos (Nat.cast_pos.mpr hn₁) (Nat.cast_pos.mpr h₁)
    by_contra hzero
    obtain rfl : n₂ = 0 := by omega
    rw [Nat.cast_zero, zero_div] at h
    exact absurd hpos (not_lt.mpr h)
  have hfits₁ := fits_exponentFor hn₁ h₁
  have hfits₂ := fits_exponentFor hn₂ h₂
  rcases (hfits₁.mono hfits₂ h).lt_or_eq with hlt | heq
  · -- the mantissas of the exponents in between lie in between
    have habove := hfits₂.above.resolve_left (by have := hfits₁.least; omega)
    calc unbounded n₁ d₁ ≤ twoTo 53 * 2 ^ exponentFor n₁ d₁ := by
          unfold unbounded
          gcongr
          exact mantissaFor_le hn₁ h₁
      _ = 2 ^ (exponentFor n₁ d₁ + 53) := by
          rw [twoTo_cast, ← two_zpow_add, add_comm]
          rfl
      _ ≤ 2 ^ (exponentFor n₂ d₂ + 52) := zpow_le_zpow_right₀ one_le_two (by omega)
      _ = twoTo 52 * 2 ^ exponentFor n₂ d₂ := by
          rw [twoTo_cast, ← two_zpow_add, add_comm]
          rfl
      _ ≤ unbounded n₂ d₂ := by
          unfold unbounded
          gcongr
          exact le_mantissaFor h₂ habove
  · unfold unbounded mantissaFor
    rw [heq]
    gcongr
    have hs₁ := scaled_snd_pos (n := n₁) (e := exponentFor n₂ d₂) h₁
    have hs₂ := scaled_snd_pos (n := n₂) (e := exponentFor n₂ d₂) h₂
    refine roundDiv_mono hs₁ hs₂ ?_
    have hscaled : ((scaled n₁ d₁ (exponentFor n₂ d₂)).1 : ℚ) / (scaled n₁ d₁ (exponentFor n₂ d₂)).2 ≤
        (scaled n₂ d₂ (exponentFor n₂ d₂)).1 / (scaled n₂ d₂ (exponentFor n₂ d₂)).2 := by
      rw [scaled_div h₁, scaled_div h₂]
      gcongr
    rw [div_le_div_iff₀ (Nat.cast_pos.mpr hs₁) (Nat.cast_pos.mpr hs₂)] at hscaled
    exact_mod_cast hscaled

/-- A rounded number that is too great is infinite. -/
def capped (q : ℚ) : WithBot (WithTop ℚ) :=
  if 2 ^ (maxExponent + 53) ≤ q then ((⊤ : WithTop ℚ) : WithBot (WithTop ℚ))
  else ((q : WithTop ℚ) : WithBot (WithTop ℚ))

theorem capped_mono (h : q₁ ≤ q₂) : capped q₁ ≤ capped q₂ := by
  unfold capped
  split_ifs with h₁ h₂ h₂
  · exact le_rfl
  · exact absurd (h₁.trans h) h₂
  · exact WithBot.coe_le_coe.mpr le_top
  · exact WithBot.coe_le_coe.mpr (WithTop.coe_le_coe.mpr h)

/-- A mantissa of 54 bits is carried over to the next exponent. -/
theorem ofRatio_eq {m k : ℕ} (negative : Bool) (hn : 0 < n) (he : exponentFor n d = e)
    (hs : scaled n d e = (m, k)) : ofRatio negative n d =
      if roundDiv m k = twoTo 53 then
        if maxExponent < e + 1 then infinity negative else finite negative (twoTo 52) (e + 1)
      else if maxExponent < e then infinity negative else finite negative (roundDiv m k) e := by
  unfold ofRatio
  rw [if_neg hn.ne', he]
  dsimp only
  rw [hs]
  dsimp only
  split_ifs <;> rfl

theorem value_bounded {m : ℕ} (hm : m < twoTo 53) (hfull : maxExponent < e → twoTo 52 ≤ m) :
    (if maxExponent < e then infinity false else finite false m e).value = capped (m * 2 ^ e) := by
  split_ifs with he
  · have hlarge : (2 : ℚ) ^ (maxExponent + 53) ≤ m * 2 ^ e :=
      calc (2 : ℚ) ^ (maxExponent + 53) ≤ 2 ^ (52 + e) :=
            zpow_le_zpow_right₀ one_le_two (by omega)
        _ = twoTo 52 * 2 ^ e := by
            rw [two_zpow_add, twoTo_cast]
            rfl
        _ ≤ m * 2 ^ e := by
            gcongr
            exact hfull he
    rw [capped, if_pos hlarge]
    rfl
  · have hsmall : (m : ℚ) * 2 ^ e < 2 ^ (maxExponent + 53) :=
      calc (m : ℚ) * 2 ^ e < twoTo 53 * 2 ^ e := by
            gcongr
        _ = 2 ^ (53 + e) := by
            rw [two_zpow_add, twoTo_cast]
            rfl
        _ ≤ 2 ^ (maxExponent + 53) := zpow_le_zpow_right₀ one_le_two (by omega)
    rw [capped, if_neg (not_le.mpr hsmall), value, rational, signed, if_neg (by decide),
      Int.cast_natCast]

/-- **A quotient is rounded to a bounded number.** -/
theorem value_ofRatio (hd : 0 < d) : (ofRatio false n d).value = capped (unbounded n d) := by
  rcases Nat.eq_zero_or_pos n with rfl | hn
  · rw [unbounded_zero, capped, if_neg (not_le.mpr (zpow_pos two_pos _))]
    simp [ofRatio, zero, value, rational, signed]
  have hle := mantissaFor_le hn hd
  have hge := le_mantissaFor (n := n) hd
  have hfits := fits_exponentFor hn hd
  rw [ofRatio_eq false hn rfl Prod.mk.eta.symm]
  unfold unbounded
  change (if mantissaFor n d = twoTo 53 then _ else if _ then _ else finite _ (mantissaFor n d) _ :
    Binary64).value = _
  generalize exponentFor n d = e at *
  generalize mantissaFor n d = m at *
  by_cases hm : m = twoTo 53
  · have hcarry : (m : ℚ) * 2 ^ e = twoTo 52 * 2 ^ (e + 1) := by
      rw [hm, twoTo_cast, twoTo_cast, ← two_zpow_add, ← two_zpow_add]
      congr 1
      push_cast
      ring
    rw [if_pos hm, hcarry]
    exact value_bounded (by decide) fun _ => le_rfl
  · rw [if_neg hm]
    refine value_bounded (by omega) fun he => hge (hfits.above.resolve_left ?_)
    rintro rfl
    exact absurd he (by decide)

/-! ## Signs -/

theorem ofRatio_true (n d : ℕ) : ofRatio true n d = (ofRatio false n d).neg := by
  rcases Nat.eq_zero_or_pos n with rfl | hn
  · rfl
  · rw [ofRatio_eq true hn rfl Prod.mk.eta.symm, ofRatio_eq false hn rfl Prod.mk.eta.symm]
    split_ifs <;> rfl

theorem ofRatio_ne_nan (negative : Bool) (n d : ℕ) : ofRatio negative n d ≠ nan := by
  rcases Nat.eq_zero_or_pos n with rfl | hn
  · simp [ofRatio, zero]
  · rw [ofRatio_eq negative hn rfl Prod.mk.eta.symm]
    split_ifs <;> simp

theorem rational_not (negative : Bool) (m : ℕ) (e : ℤ) :
    rational (!negative) m e = -rational negative m e := by
  cases negative <;> simp [rational, signed]

theorem value_neg_le_value_neg {x y : Binary64} (hx : x ≠ nan) (hy : y ≠ nan)
    (h : x.value ≤ y.value) : y.neg.value ≤ x.neg.value := by
  cases x with
  | nan => exact absurd rfl hx
  | infinity a =>
    cases a with
    | true => exact le_top
    | false =>
      cases y with
      | nan => exact absurd rfl hy
      | infinity b =>
        cases b with
        | false => exact le_rfl
        | true => exact absurd h (by decide)
      | finite ny my ey =>
        exact absurd h (not_le.mpr (WithBot.coe_lt_coe.mpr (WithTop.coe_lt_top _)))
  | finite nx mx ex =>
    cases y with
    | nan => exact absurd rfl hy
    | infinity b =>
      cases b with
      | false => exact bot_le
      | true => exact absurd h (not_le.mpr (WithBot.bot_lt_coe _))
    | finite ny my ey =>
      simp only [neg, value, WithBot.coe_le_coe, WithTop.coe_le_coe, rational_not,
        neg_le_neg_iff] at h ⊢
      exact h

/-! ## Rounding of rationals -/

/-- The quotient that a sign, a numerator and a denominator are. -/
def ratio (negative : Bool) (n d : ℕ) : ℚ := signed negative n / d

theorem ratio_true (n d : ℕ) : ratio true n d = -ratio false n d := by
  simp [ratio, signed, neg_div]

theorem ratio_false_nonneg (n d : ℕ) : 0 ≤ ratio false n d := by
  simp only [ratio, signed, Bool.false_eq_true, if_false, Int.cast_natCast]
  positivity

theorem value_ofRatio_false_mono (h₁ : 0 < d₁) (h₂ : 0 < d₂)
    (h : ratio false n₁ d₁ ≤ ratio false n₂ d₂) :
    (ofRatio false n₁ d₁).value ≤ (ofRatio false n₂ d₂).value := by
  rw [value_ofRatio h₁, value_ofRatio h₂]
  exact capped_mono (unbounded_mono h₁ h₂ h)

theorem value_ofRatio_true_mono (h₁ : 0 < d₁) (h₂ : 0 < d₂)
    (h : ratio true n₁ d₁ ≤ ratio true n₂ d₂) :
    (ofRatio true n₁ d₁).value ≤ (ofRatio true n₂ d₂).value := by
  rw [ratio_true, ratio_true, neg_le_neg_iff] at h
  rw [ofRatio_true, ofRatio_true]
  exact value_neg_le_value_neg (ofRatio_ne_nan false n₂ d₂) (ofRatio_ne_nan false n₁ d₁)
    (value_ofRatio_false_mono h₂ h₁ h)

theorem value_ofRatio_zero : (ofRatio true 0 1).value = (ofRatio false 0 1).value := by
  simp [ofRatio, zero, value, rational, signed]

/-- **Of two quotients the greater one is rounded to the greater number**, whatever their signs. -/
theorem value_ofRatio_mono {s₁ s₂ : Bool} (h₁ : 0 < d₁) (h₂ : 0 < d₂)
    (h : ratio s₁ n₁ d₁ ≤ ratio s₂ n₂ d₂) :
    (ofRatio s₁ n₁ d₁).value ≤ (ofRatio s₂ n₂ d₂).value := by
  have hzero (s : Bool) : ratio s 0 1 = 0 := by cases s <;> simp [ratio, signed]
  have hone : 0 < 1 := Nat.one_pos
  cases s₁ with
  | false =>
    cases s₂ with
    | false => exact value_ofRatio_false_mono h₁ h₂ h
    | true =>
      -- both are zero
      have hn₁ := ratio_false_nonneg n₁ d₁
      have hn₂ := ratio_false_nonneg n₂ d₂
      rw [ratio_true] at h
      calc (ofRatio false n₁ d₁).value ≤ (ofRatio false 0 1).value :=
            value_ofRatio_false_mono h₁ hone (by rw [hzero]; linarith)
        _ = (ofRatio true 0 1).value := value_ofRatio_zero.symm
        _ ≤ (ofRatio true n₂ d₂).value :=
            value_ofRatio_true_mono hone h₂ (by rw [hzero, ratio_true]; linarith)
  | true =>
    cases s₂ with
    | true => exact value_ofRatio_true_mono h₁ h₂ h
    | false =>
      have hn₁ := ratio_false_nonneg n₁ d₁
      have hn₂ := ratio_false_nonneg n₂ d₂
      calc (ofRatio true n₁ d₁).value ≤ (ofRatio true 0 1).value :=
            value_ofRatio_true_mono h₁ hone (by rw [hzero, ratio_true]; linarith)
        _ = (ofRatio false 0 1).value := value_ofRatio_zero
        _ ≤ (ofRatio false n₂ d₂).value :=
            value_ofRatio_false_mono hone h₂ (by rw [hzero]; linarith)

/-! ## Rounding of rationals -/

/-- **What a rational is rounded to.** -/
def nearest (q : ℚ) : WithBot (WithTop ℚ) := (ofRatio (decide (q < 0)) q.num.natAbs q.den).value

theorem signed_natAbs (i : ℤ) : signed (decide (i < 0)) i.natAbs = i := by
  unfold signed
  split_ifs with h
  · have := of_decide_eq_true h
    omega
  · have := of_decide_eq_false (Bool.eq_false_iff.mpr h)
    omega

theorem ratio_num_den (q : ℚ) : ratio (decide (q < 0)) q.num.natAbs q.den = q := by
  have hsign : decide (q < 0) = decide (q.num < 0) := by simp
  rw [ratio, hsign, signed_natAbs]
  exact Rat.num_div_den q

/-- **Rounding keeps the order.** -/
theorem nearest_mono (h : q₁ ≤ q₂) : nearest q₁ ≤ nearest q₂ := by
  refine value_ofRatio_mono q₁.den_pos q₂.den_pos ?_
  rwa [ratio_num_den, ratio_num_den]

theorem value_ofRatio_eq_nearest (negative : Bool) (hd : 0 < d) :
    (ofRatio negative n d).value = nearest (ratio negative n d) := by
  refine le_antisymm (value_ofRatio_mono hd (Rat.den_pos _) ?_)
    (value_ofRatio_mono (Rat.den_pos _) hd ?_)
  · rw [ratio_num_den]
  · rw [ratio_num_den]

theorem signed_mul (negative : Bool) (m k : ℕ) : signed negative (m * k) = signed negative m * k := by
  cases negative <;> simp [signed]

theorem value_ofDyadic (i e : ℤ) : (ofDyadic i e).value = nearest (i * 2 ^ e) := by
  have hpos : 0 < twoTo (-e).toNat := Nat.pow_pos (by decide)
  unfold ofDyadic
  split_ifs with he
  · dsimp only
    rw [value_ofRatio_eq_nearest _ Nat.one_pos, ratio, signed_mul, signed_natAbs, Int.cast_mul,
      Int.cast_natCast, twoTo_toNat he, Nat.cast_one, div_one]
  · dsimp only
    rw [value_ofRatio_eq_nearest _ hpos, ratio, signed_natAbs, twoTo_toNat (by omega), zpow_neg,
      div_inv_eq_mul]

theorem ofDyadic_ne_nan (i e : ℤ) : ofDyadic i e ≠ nan := ofRatio_ne_nan _ _ _

theorem value_rounded (i : ℤ) : (Quantity.whole i).rounded.value = nearest i := by
  rw [Quantity.rounded, value_ofRatio_eq_nearest _ Nat.one_pos, ratio, signed_natAbs,
    Nat.cast_one, div_one]

theorem nearest_zero : nearest 0 = (((0 : ℚ) : WithTop ℚ) : WithBot (WithTop ℚ)) := by
  simp [nearest, ofRatio, zero, value, rational, signed]

/-! ## Differences -/

theorem aligned_rational (na nb : Bool) (ma mb : ℕ) (ea eb : ℤ) :
    ((aligned (signed na ma) ea (signed nb mb) eb).1 : ℚ) *
      2 ^ (aligned (signed na ma) ea (signed nb mb) eb).2.2 = rational na ma ea ∧
    ((aligned (signed na ma) ea (signed nb mb) eb).2.1 : ℚ) *
      2 ^ (aligned (signed na ma) ea (signed nb mb) eb).2.2 = rational nb mb eb := by
  have hshift {k : ℤ} (h : min ea eb ≤ k) (i : ℤ) :
      ((i * twoTo (k - min ea eb).toNat : ℤ) : ℚ) * 2 ^ min ea eb = i * 2 ^ k := by
    rw [Int.cast_mul, Int.cast_natCast, twoTo_toNat (by omega), mul_assoc, ← two_zpow_add,
      sub_add_cancel]
  exact ⟨hshift (min_le_left ea eb) _, hshift (min_le_right ea eb) _⟩

variable {na nb : Bool} {ma mb : ℕ} {ea eb : ℤ}

/-- **A difference of finite numbers is the rounded difference.** -/
theorem value_sub : ((finite na ma ea).sub (finite nb mb eb)).value =
    nearest (rational na ma ea - rational nb mb eb) := by
  obtain ⟨ha, hb⟩ := aligned_rational na nb ma mb ea eb
  rw [sub, ← ha, ← hb]
  generalize aligned (signed na ma) ea (signed nb mb) eb = p
  obtain ⟨a, b, e⟩ := p
  dsimp only
  split_ifs with h
  · rw [h, sub_self, nearest_zero]
    simp [zero, value, rational, signed]
  · rw [value_ofDyadic, Int.cast_sub, sub_mul]

theorem sub_finite_ne_nan : (finite na ma ea).sub (finite nb mb eb) ≠ nan := by
  rw [sub]
  generalize aligned (signed na ma) ea (signed nb mb) eb = p
  obtain ⟨a, b, e⟩ := p
  dsimp only
  split_ifs
  · simp [zero]
  · exact ofDyadic_ne_nan _ _

theorem le_infinity {x : Binary64} (hx : x ≠ nan) : x.le (infinity false) = true :=
  le_iff_value_le.mpr ⟨hx, by simp, le_top⟩

theorem eq_infinity_of_le {x : Binary64} (h : (infinity false).le x = true) : x = infinity false := by
  cases x with
  | nan => simp [le, lt, eq] at h
  | infinity b => cases b <;> simp_all [le, lt, eq]
  | finite n m e => simp [le, lt, eq] at h

theorem eq_infinity_true_of_le {x : Binary64} (h : x.le (infinity true) = true) :
    x = infinity true := by
  cases x with
  | nan => simp [le, lt, eq] at h
  | infinity b => cases b <;> simp_all [le, lt, eq]
  | finite n m e => simp [le, lt, eq] at h

theorem eq_finite_of_between {x : Binary64} (ha : (finite na ma ea).le x = true)
    (hb : x.le (finite nb mb eb) = true) : ∃ n m e, x = finite n m e := by
  cases x with
  | nan => exact absurd rfl (le_iff.mp ha).2.1
  | infinity b =>
    cases b with
    | false => exact absurd (eq_infinity_of_le hb) (by simp)
    | true => exact absurd (eq_infinity_true_of_le ha) (by simp)
  | finite n m e => exact ⟨n, m, e, rfl⟩

/-- **Differences keep the order**: of numbers in order, the outer ones are at least as far apart as
the inner ones. -/
theorem sub_le_sub {w x y z : Binary64} (hxy : x.le y = true) (hyz : y.le z = true)
    (hzw : z.le w = true) (hdiff : z.sub y ≠ nan) : (z.sub y).le (w.sub x) = true := by
  have hxw := le_trans hxy (le_trans hyz hzw)
  -- beyond the finite numbers the outer difference is infinite
  cases x with
  | nan => exact absurd rfl (le_iff.mp hxy).1
  | infinity b =>
    cases b with
    | false =>
      obtain rfl := eq_infinity_of_le hxy
      obtain rfl := eq_infinity_of_le hyz
      exact absurd rfl hdiff
    | true =>
      cases w with
      | nan => exact absurd rfl (le_iff.mp hzw).2.1
      | infinity c =>
        cases c with
        | false => exact le_infinity hdiff
        | true =>
          obtain rfl := eq_infinity_true_of_le hzw
          obtain rfl := eq_infinity_true_of_le hyz
          exact absurd rfl hdiff
      | finite nw mw ew => exact le_infinity hdiff
  | finite nx mx ex =>
    cases w with
    | nan => exact absurd rfl (le_iff.mp hzw).2.1
    | infinity c =>
      cases c with
      | false => exact le_infinity hdiff
      | true => exact absurd (eq_infinity_true_of_le hxw) (by simp)
    | finite nw mw ew =>
      obtain ⟨ny, my, ey, rfl⟩ := eq_finite_of_between hxy (le_trans hyz hzw)
      obtain ⟨nz, mz, ez, rfl⟩ := eq_finite_of_between (le_trans hxy hyz) hzw
      have hxy := (le_iff_value_le.mp hxy).2.2
      have hzw := (le_iff_value_le.mp hzw).2.2
      simp only [value, WithBot.coe_le_coe, WithTop.coe_le_coe] at hxy hzw
      rw [le_iff_value_le, value_sub, value_sub]
      exact ⟨hdiff, sub_finite_ne_nan, nearest_mono (by linarith)⟩

end Binary64

end NetSketch.Number
