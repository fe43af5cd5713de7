import SheetExport.Binary64.Extended
import SheetExport.Proofs.NearestNumerals

/-!
# Errors of extended precision

One rounding moves a value by a part of it and by a share of the unit. A number that is moved by a
power of ten is rounded for every factor, a few dozen times at most.
-/

namespace SheetExport.Extended

open Binary64 (Nearest nearest nearest_nearest)

/-- What a magnitude stands for. -/
def value (x : Extended) : ℚ := x.units / one

theorem one_cast : (one : ℚ) = 2 ^ 1200 := twoTo_cast 1200

theorem one_pos : (0 : ℚ) < one := by
  rw [one_cast]
  exact pow_pos (by norm_num) _

theorem value_nonneg (x : Extended) : 0 ≤ x.value := div_nonneg (Nat.cast_nonneg _) one_pos.le

/-- Half a unit, the least a value can be moved by in a rounding. -/
def share : ℚ := 1 / 2 / one

/-! ## One rounding -/

theorem units_rounded (num : ℕ) {den : ℕ} (hd : 0 < den) :
    |((rounded num den).units : ℚ) - num / den| ≤ num / den / 2 ^ 64 + 1 / 2 := by
  have hr : (0 : ℚ) ≤ num / den := by positivity
  have hfloor := (Binary64.floor_bounds num hd).1
  have hspec (e : ℕ) : |(nearest num (den * 2 ^ e) * 2 ^ e : ℚ) - num / den| ≤ 2 ^ e / 2 := by
    have hn := nearest_nearest num (Nat.mul_pos hd (Nat.two_pow_pos e))
    rw [Nat.cast_mul, ← div_div, Nat.cast_pow, Nat.cast_ofNat] at hn
    have hp : (0 : ℚ) < 2 ^ e := by positivity
    have hl := (le_div_iff₀ hp).1 hn.low
    have hh := (div_le_iff₀ hp).1 hn.high
    exact abs_le.2 ⟨by linarith, by linarith⟩
  have hunits : ((rounded num den).units : ℚ) =
      nearest num (den * 2 ^ ((num / den).log2 - 63)) * 2 ^ ((num / den).log2 - 63) := by
    unfold rounded
    dsimp only
    rw [Nat.cast_mul, twoTo_cast, twoTo_eq]
  rw [hunits]
  refine (hspec _).trans ?_
  by_cases hlog : (num / den).log2 ≤ 63
  · rw [show (num / den).log2 - 63 = 0 by omega, pow_zero]
    have : (0 : ℚ) ≤ num / den / 2 ^ 64 := by positivity
    linarith
  · have hne : num / den ≠ 0 := by
      intro h0
      rw [h0] at hlog
      exact hlog (by decide)
    have hself : 2 ^ ((num / den).log2 - 63 + 63) ≤ num / den := by
      rw [show (num / den).log2 - 63 + 63 = (num / den).log2 by omega]
      exact Nat.log2_self_le hne
    have hself' : (2 : ℚ) ^ ((num / den).log2 - 63) * 2 ^ 63 ≤ (num / den : ℕ) := by
      rw [← pow_add]
      exact_mod_cast hself
    have : (2 : ℚ) ^ ((num / den).log2 - 63) / 2 ≤ num / den / 2 ^ 64 := by
      rw [div_le_div_iff₀ (by norm_num) (by norm_num)]
      linarith
    linarith

theorem value_rounded (num : ℕ) {den : ℕ} (hd : 0 < den) {r : ℚ} (hr : (num : ℚ) / den = r * one) :
    |(rounded num den).value - r| ≤ r / 2 ^ 64 + share := by
  have h := units_rounded num hd
  rw [hr] at h
  have hone := one_pos
  rw [value, share, ← mul_le_mul_iff_of_pos_right hone, ← abs_of_pos hone, ← abs_mul,
    abs_of_pos hone, sub_mul, div_mul_cancel₀ _ hone.ne', add_mul, div_mul_cancel₀ _ hone.ne',
    div_mul_eq_mul_div]
  exact h

theorem value_mul (a b : Extended) :
    |(a.mul b).value - a.value * b.value| ≤ a.value * b.value / 2 ^ 64 + share := by
  have hone := one_pos
  refine value_rounded (a.units * b.units) (Nat.cast_pos.1 hone) ?_
  rw [value, value, Nat.cast_mul]
  field_simp

theorem value_ofPowerOfTen (p : ℤ) :
    |(ofPowerOfTen p).value - 10 ^ p| ≤ 10 ^ p / 2 ^ 64 + share := by
  refine value_rounded ((powerOfTen p).1 * one) (powerOfTen_pos p).2 ?_
  rw [Nat.cast_mul, ← powerOfTen_eq p, mul_div_right_comm]

/-! ## One factor -/

/-- What two roundings leave of a value at least, and what they make of it at most. -/
def loss : ℚ := 1 - 1 / 2 ^ 61

def gain : ℚ := 1 + 1 / 2 ^ 61

theorem share_pos : 0 < share := div_pos (by norm_num) one_pos

theorem share_le {p : ℤ} (hp : -100 ≤ p) : share ≤ 10 ^ p / 2 ^ 64 := by
  have hpow : (10 : ℚ) ^ (-100 : ℤ) ≤ 10 ^ p := zpow_le_zpow_right₀ (by norm_num) hp
  have hshare : share ≤ 10 ^ (-100 : ℤ) / 2 ^ 64 := by
    rw [share, one_cast, pow_mul (2 : ℚ) 240 5]
    norm_num
  exact hshare.trans (div_le_div_of_nonneg_right hpow (by norm_num))

theorem value_mul_power (x : Extended) {p : ℤ} (hp : -100 ≤ p) :
    x.value * 10 ^ p * (1 - 1 / 2 ^ 63) ^ 2 - share ≤ (x.mul (ofPowerOfTen p)).value ∧
      (x.mul (ofPowerOfTen p)).value ≤ x.value * 10 ^ p * (1 + 1 / 2 ^ 63) ^ 2 + share := by
  have hx := value_nonneg x
  obtain ⟨hl, hh⟩ := abs_le.1 (value_ofPowerOfTen p)
  obtain ⟨hml, hmh⟩ := abs_le.1 (value_mul x (ofPowerOfTen p))
  have hs := share_le hp
  generalize (ofPowerOfTen p).value = y at *
  have hten : (0 : ℚ) < 10 ^ p := zpow_pos (by norm_num) p
  generalize (10 : ℚ) ^ p = g at *
  have hlow : x.value * (g * (1 - 1 / 2 ^ 63)) ≤ x.value * y :=
    mul_le_mul_of_nonneg_left (by linarith) hx
  have hhigh : x.value * y ≤ x.value * (g * (1 + 1 / 2 ^ 63)) :=
    mul_le_mul_of_nonneg_left (by linarith) hx
  have hpos : 0 ≤ x.value * g := mul_nonneg hx hten.le
  generalize (x.mul (ofPowerOfTen p)).value = z at *
  constructor <;> nlinarith

section

variable {x : Extended} {p : ℤ}

theorem low_step (hx : 1 ≤ x.value) (hp : 0 < p) :
    x.value * (10 ^ p * loss) ≤ (x.mul (ofPowerOfTen p)).value := by
  refine le_trans ?_ (value_mul_power x (by omega)).1
  have hs := share_le (p := 0) (by decide)
  have hten : (1 : ℚ) ≤ 10 ^ p := one_le_zpow₀ (by norm_num) hp.le
  have hpos := one_le_mul_of_one_le_of_one_le hx hten
  rw [zpow_zero] at hs
  rw [← mul_assoc, loss]
  generalize x.value * 10 ^ p = y at *
  norm_num at hs ⊢
  linarith

theorem one_le_loss (hp : 0 < p) : 1 ≤ 10 ^ p * loss := by
  have hten : (10 : ℚ) ^ (1 : ℤ) ≤ 10 ^ p := zpow_le_zpow_right₀ (by norm_num) hp
  rw [zpow_one] at hten
  unfold loss
  linarith

theorem high_step (hp : -100 ≤ p) :
    (x.mul (ofPowerOfTen p)).value ≤ x.value * (10 ^ p * gain) + share := by
  refine (value_mul_power x hp).2.trans ?_
  have hpos : 0 ≤ x.value * 10 ^ p := mul_nonneg (value_nonneg x) (zpow_nonneg (by norm_num) _)
  rw [← mul_assoc, gain]
  generalize x.value * 10 ^ p = y at *
  norm_num
  linarith

theorem gain_le_one (hp : p < 0) : 10 ^ p * gain ≤ 1 := by
  have hten : (10 : ℚ) ^ p ≤ 10 ^ (-1 : ℤ) := zpow_le_zpow_right₀ (by norm_num) (by omega)
  unfold gain
  norm_num at hten ⊢
  linarith

end

/-! ## A power of a factor -/

section

variable {p : ℤ}

theorem low_timesPower (hp : 0 < p) : ∀ (n : ℕ) {x : Extended}, 1 ≤ x.value →
    1 ≤ (x.timesPower p n).value ∧
      x.value * (10 ^ p * loss) ^ n ≤ (x.timesPower p n).value
  | 0, x, hx => by
    rw [pow_zero, mul_one]
    exact ⟨hx, le_rfl⟩
  | n + 1, x, hx => by
    obtain ⟨hone, ih⟩ := low_timesPower hp n hx
    have hfactor := one_le_loss hp
    have hstep : (x.timesPower p n).value * (10 ^ p * loss) ≤ (x.timesPower p (n + 1)).value :=
      low_step hone hp
    refine ⟨(one_le_mul_of_one_le_of_one_le hone hfactor).trans hstep, ?_⟩
    rw [pow_succ, ← mul_assoc]
    exact (mul_le_mul_of_nonneg_right ih (zero_le_one.trans hfactor)).trans hstep

theorem high_timesPower (hp : p < 0) (hp' : -100 ≤ p) {x : Extended} {v : ℚ} {m : ℕ}
    (hx : x.value ≤ v + m * share) : ∀ n : ℕ,
    (x.timesPower p n).value ≤ v * (10 ^ p * gain) ^ n + (m + n : ℕ) * share
  | 0 => by
    rw [pow_zero, mul_one, Nat.add_zero]
    exact hx
  | n + 1 => by
    have ih := high_timesPower hp hp' hx n
    have hstep : (x.timesPower p (n + 1)).value ≤
        (x.timesPower p n).value * (10 ^ p * gain) + share := high_step hp'
    have hnonneg : 0 ≤ (10 : ℚ) ^ p * gain :=
      mul_nonneg (zpow_nonneg (by norm_num) _) (by unfold gain; norm_num)
    have hmul := mul_le_mul_of_nonneg_right ih hnonneg
    have hshare : (m + n : ℕ) * share * (10 ^ p * gain) ≤ (m + n : ℕ) * share :=
      mul_le_of_le_one_right (mul_nonneg (Nat.cast_nonneg _) share_pos.le) (gain_le_one hp)
    rw [pow_succ, ← mul_assoc, ← Nat.add_assoc, Nat.cast_add_one (m + n)]
    linarith only [hstep, hmul, hshare]

end

/-! ## Scaling -/

/-- How many factors a power of ten is made of. -/
def factors (n : ℕ) : ℕ := n / 100 + n / 10 % 10 + n % 10

theorem factors_le {n : ℕ} (hn : n ≤ 400) : factors n ≤ 22 := by
  unfold factors
  omega

theorem power_eq_factors (f : ℚ) (s : ℤ) (n : ℕ) :
    (10 : ℚ) ^ (s * n) * f ^ factors n =
      (10 ^ (100 * s) * f) ^ (n / 100) * (10 ^ (10 * s) * f) ^ (n / 10 % 10) *
        (10 ^ s * f) ^ (n % 10) := by
  have hn : s * n = 100 * s * (n / 100 : ℕ) + 10 * s * (n / 10 % 10 : ℕ) + s * (n % 10 : ℕ) := by
    have : (n : ℤ) = 100 * (n / 100 : ℕ) + 10 * (n / 10 % 10 : ℕ) + (n % 10 : ℕ) := by omega
    conv_lhs => rw [this]
    ring
  rw [hn, zpow_add₀ (by norm_num), zpow_add₀ (by norm_num), zpow_mul (10 : ℚ) (100 * s),
    zpow_mul (10 : ℚ) (10 * s), zpow_mul (10 : ℚ) s, zpow_natCast, zpow_natCast, zpow_natCast,
    factors, pow_add, pow_add, mul_pow, mul_pow, mul_pow]
  ring

theorem low_scaled {x : Extended} (hx : 1 ≤ x.value) {n : ℕ} (hn : n ≤ 400) :
    x.value * 10 ^ n * (1 - 1 / 2 ^ 56) ≤ (x.scaled n).value := by
  have hloss : 1 - 1 / 2 ^ 56 ≤ loss ^ factors n := by
    refine le_trans ?_ (pow_le_pow_of_le_one (by unfold loss; norm_num) (by unfold loss; norm_num)
      (factors_le hn))
    unfold loss
    norm_num
  have hpos : 0 ≤ x.value * 10 ^ n := mul_nonneg (zero_le_one.trans hx) (by positivity)
  refine (mul_le_mul_of_nonneg_left hloss hpos).trans ?_
  rcases Nat.eq_zero_or_pos n with rfl | hn0
  · rw [show factors 0 = 0 from rfl, pow_zero, pow_zero, mul_one, mul_one]
    exact le_rfl
  have hsign : (n : ℤ).sign = 1 := Int.sign_eq_one_of_pos (by omega)
  have hpower := power_eq_factors loss 1 n
  rw [one_mul, zpow_natCast, mul_one, mul_one] at hpower
  rw [mul_assoc, hpower]
  unfold scaled
  rw [hsign, Int.natAbs_natCast, mul_one, mul_one]
  obtain ⟨hone₁, h₁⟩ := low_timesPower (p := 100) (by decide) (n / 100) hx
  obtain ⟨hone₂, h₂⟩ := low_timesPower (p := 10) (by decide) (n / 10 % 10) hone₁
  obtain ⟨-, h₃⟩ := low_timesPower (p := 1) (by decide) (n % 10) hone₂
  have nonneg (p : ℤ) (k : ℕ) : (0 : ℚ) ≤ (10 ^ p * loss) ^ k :=
    pow_nonneg (mul_nonneg (zpow_nonneg (by norm_num) p) (by unfold loss; norm_num)) k
  refine le_trans ?_ h₃
  rw [← mul_assoc, ← mul_assoc]
  refine mul_le_mul_of_nonneg_right (le_trans ?_ h₂) (nonneg _ _)
  exact mul_le_mul_of_nonneg_right h₁ (nonneg _ _)

theorem high_scaled (x : Extended) {n : ℕ} (hn : n ≤ 400) :
    (x.scaled (-n)).value ≤ x.value * 10 ^ (-n : ℤ) * (1 + 1 / 2 ^ 56) + 22 * share := by
  have hgain : gain ^ factors n ≤ 1 + 1 / 2 ^ 56 := by
    refine (pow_le_pow_right₀ (by unfold gain; norm_num) (factors_le hn)).trans ?_
    unfold gain
    norm_num
  have hpos : 0 ≤ x.value * 10 ^ (-n : ℤ) :=
    mul_nonneg (value_nonneg x) (zpow_nonneg (by norm_num) _)
  have hcount : (factors n : ℚ) * share ≤ 22 * share :=
    mul_le_mul_of_nonneg_right (by exact_mod_cast factors_le hn) share_pos.le
  refine le_trans ?_ (add_le_add (mul_le_mul_of_nonneg_left hgain hpos) hcount)
  rcases Nat.eq_zero_or_pos n with rfl | hn0
  · simp [factors, scaled, timesPower, Nat.repeat]
  have hsign : (-n : ℤ).sign = -1 := Int.sign_eq_neg_one_of_neg (by omega)
  have hpower := power_eq_factors gain (-1) n
  rw [neg_one_mul] at hpower
  rw [mul_assoc, hpower]
  unfold scaled
  rw [hsign, Int.natAbs_neg, Int.natAbs_natCast]
  have hx : x.value ≤ x.value + (0 : ℕ) * share := by rw [Nat.cast_zero, zero_mul, add_zero]
  have h₁ := high_timesPower (p := 100 * -1) (by decide) (by decide) hx (n / 100)
  have h₂ := high_timesPower (p := 10 * -1) (by decide) (by decide) h₁ (n / 10 % 10)
  have h₃ := high_timesPower (p := -1) (by decide) (by decide) h₂ (n % 10)
  rw [Nat.zero_add, mul_assoc, mul_assoc, ← mul_assoc ((10 ^ (100 * -1) * gain) ^ (n / 100))] at h₃
  exact h₃

/-! ## Whole numbers -/

/-- Whole numbers of sixty-four bits are not rounded. -/
theorem units_ofNat {n : ℕ} (hn : n < 2 ^ 64) : (ofNat n).units = n * one := by
  have hlog : (n * twoTo 1200 / 1).log2 - 63 ≤ 1200 := by
    rcases Nat.eq_zero_or_pos n with rfl | hpos
    · simp
    · have hlt : n * twoTo 1200 < 2 ^ (64 + 1200) := by
        rw [pow_add, ← twoTo_eq 1200]
        exact Nat.mul_lt_mul_of_pos_right hn (twoTo_pos 1200)
      have := (Nat.log2_lt (Nat.mul_pos hpos (twoTo_pos 1200)).ne').2 hlt
      rw [Nat.div_one]
      omega
  change nearest (n * twoTo 1200) (1 * twoTo ((n * twoTo 1200 / 1).log2 - 63)) *
    twoTo ((n * twoTo 1200 / 1).log2 - 63) = n * twoTo 1200
  generalize (n * twoTo 1200 / 1).log2 - 63 = e at hlog ⊢
  obtain ⟨k, hk⟩ := Nat.exists_eq_add_of_le hlog
  have hsplit : n * twoTo 1200 = n * 2 ^ k * 2 ^ e := by
    rw [twoTo_eq, hk, pow_add]
    ring
  have hratio : ((n * 2 ^ k * 2 ^ e : ℕ) : ℚ) / (1 * 2 ^ e : ℕ) = (n * 2 ^ k : ℕ) := by
    have : (2 : ℚ) ^ e ≠ 0 := by positivity
    push_cast
    field_simp
  rw [hsplit, twoTo_eq, Binary64.nearest_eq (Nat.mul_pos Nat.one_pos (Nat.two_pow_pos e))
    (hratio ▸ Binary64.nearest_natCast _)]

theorem value_ofNat {n : ℕ} (hn : n < 2 ^ 64) : (ofNat n).value = n := by
  rw [value, units_ofNat hn, Nat.cast_mul, mul_div_cancel_right₀ _ one_pos.ne']

/-! ## The format of 64 bits -/

theorem one_eq_finer : (one : ℚ) = finer * Binary64.one := by
  rw [one_cast, finer, Binary64.one, twoTo_cast, twoTo_cast, ← pow_add]

theorem div_one_mul (r : ℚ) : r / one * Binary64.one = r / finer := by
  rw [one_eq_finer, div_mul_eq_mul_div, mul_div_mul_right _ _ Binary64.cast_one_pos.ne']

theorem units_div_finer (x : Extended) : (x.units : ℚ) / finer = x.value * Binary64.one :=
  (div_one_mul x.units).symm

theorem share_units : share * Binary64.one = 1 / 2 / 2 ^ 126 := by
  rw [share, div_one_mul, finer, twoTo_cast]

theorem largest_lt_iff (x : Extended) :
    largest.units < x.units ↔ (2 ^ 54 - 2 : ℚ) * 2 ^ 2044 < x.value * Binary64.one := by
  have hpos : (0 : ℚ) < finer := by exact_mod_cast twoTo_pos 126
  have hle : twoTo 2045 ≤ Binary64.limit := twoTo_le (n := 2098) (by decide)
  have hlargest : ((Binary64.limit - twoTo 2045 : ℕ) : ℚ) = (2 ^ 54 - 2) * 2 ^ 2044 := by
    rw [Nat.cast_sub hle, Binary64.limit_cast, twoTo_cast, pow_succ _ 2044]
    generalize (2 : ℚ) ^ 2044 = g
    ring
  rw [← units_div_finer, lt_div_iff₀ hpos, ← hlargest, ← Nat.cast_mul, Nat.cast_lt]
  rfl

end SheetExport.Extended
