import SheetExport.Proofs.ShortestDecimals

/-!
# The nearest number of a numeral

A numeral stands for a sign and a magnitude. It is read as the number in whose interval the
magnitude lies, and as infinity from the middle between the largest number and the next one on.
-/

namespace SheetExport

theorem twoTo_eq (n : ℕ) : twoTo n = 2 ^ n := rfl

theorem twoTo_cast (n : ℕ) : (twoTo n : ℚ) = 2 ^ n := by
  rw [twoTo_eq, Nat.cast_pow, Nat.cast_ofNat]

open Binary64 (one limit RoundsTo Counted ofUnits roundUnits gap below)

namespace Binary64

theorem ofUnits_finite {negative n : Bool} {num den u : ℕ}
    (h : ofUnits negative num den = .finite n u) :
    n = negative ∧ u = roundUnits num den ∧ u < limit := by
  unfold ofUnits at h
  dsimp only at h
  split at h
  · next hlt =>
    cases h
    exact ⟨rfl, rfl, hlt⟩
  · exact absurd h (by simp)

theorem ofUnits_infinite {negative n : Bool} {num den : ℕ}
    (h : ofUnits negative num den = .infinite n) :
    n = negative ∧ limit ≤ roundUnits num den := by
  unfold ofUnits at h
  dsimp only at h
  split at h
  · exact absurd h (by simp)
  · next hlt =>
    cases h
    exact ⟨rfl, Nat.not_lt.1 hlt⟩

theorem limit_pos : 0 < limit := twoTo_pos 2098

theorem counted_zero : Counted 0 0 0 := ⟨rfl, by decide, .inl rfl⟩

theorem gap_zero : gap 0 = 1 := by rw [gap, show gapExponent 0 = 0 from rfl, pow_zero]

theorem roundsTo_zero {r : ℚ} (hl : 0 ≤ r) (hh : r ≤ 1 / 2) : RoundsTo r 0 := by
  have hb := below_ge 0
  rw [gap_zero] at hb
  refine ⟨?_, ?_, fun ho => ?_⟩
  · rw [Nat.cast_zero]
    linarith only [hl, hb]
  · rw [gap_zero, Nat.cast_zero, zero_add]
    exact hh
  · rw [Nat.zero_div] at ho
    exact absurd ho (by decide)

theorem ofUnits_eq {u n e : ℕ} (hc : Counted u n e) (hlt : u < limit) (negative : Bool)
    {num den : ℕ} (hd : 0 < den) (hr : RoundsTo (num / den) u) :
    ofUnits negative num den = .finite negative u := by
  unfold ofUnits
  dsimp only
  rw [hc.roundUnits_eq hd hr, if_pos hlt]

theorem ofUnits_zero (negative : Bool) {num den : ℕ} (hd : 0 < den) (h : (num : ℚ) / den ≤ 1 / 2) :
    ofUnits negative num den = .finite negative 0 :=
  ofUnits_eq counted_zero limit_pos negative hd (roundsTo_zero (by positivity) h)

theorem limit_cast : (limit : ℚ) = 2 ^ 54 * 2 ^ 2044 := by
  rw [← pow_add]
  exact twoTo_cast 2098

/-- The middle between the largest number and the first one past it. -/
def halfway : ℚ := (2 ^ 54 - 1) * 2 ^ 2044

theorem limit_le : (limit : ℚ) ≤ 10 ^ ((309 : ℕ) : ℤ) * one := by
  have hlimit : limit ≤ tenTo 309 * one := by decide +kernel
  rw [← Decimal.tenTo_zpow]
  exact_mod_cast hlimit

theorem halfway_le_limit : halfway ≤ limit := by
  rw [halfway, limit_cast]
  exact mul_le_mul_of_nonneg_right (by norm_num) (pow_nonneg (by norm_num) _)

theorem one_le_halfway : 1 ≤ halfway :=
  one_le_mul_of_one_le_of_one_le (by norm_num) (one_le_pow₀ (by norm_num))

/-- What is rounded to a number past the largest one lies past the middle. -/
theorem halfway_le {r : ℚ} {u n e : ℕ} (hc : Counted u n e) (hu : limit ≤ u) (hr : RoundsTo r u) :
    halfway ≤ r := by
  have hlow := (hc.roundsTo_iff.1 hr).1
  obtain ⟨hu', hn, hnormal⟩ := hc
  have he : 2046 ≤ e := by
    by_contra hlt
    have hlimit : twoTo (53 + e) ≤ limit := twoTo_le (n := 2098) (by omega)
    rw [twoTo_eq, pow_add] at hlimit
    have := Nat.mul_lt_mul_of_pos_right hn (Nat.two_pow_pos e)
    omega
  have hn' := hnormal.resolve_left (by omega)
  have hreach : (2 : ℚ) ^ 52 - 1 / 4 ≤ n - reach n e := by
    unfold reach
    split
    · next h =>
      rw [h.1]
      norm_num
    · next h =>
      have : ((2 ^ 52 + 1 : ℕ) : ℚ) ≤ n := by exact_mod_cast (by omega : 2 ^ 52 + 1 ≤ n)
      push_cast at this
      linarith only [this]
  have hpow : (2 : ℚ) ^ 2 * 2 ^ 2044 ≤ 2 ^ e := by
    rw [← pow_add]
    exact pow_le_pow_right₀ (by norm_num) he
  have hpos : (0 : ℚ) < 2 ^ 2044 := pow_pos (by norm_num) _
  have hscaled := hreach.trans hlow
  rw [le_div_iff₀ (pow_pos (by norm_num) e)] at hscaled
  rw [halfway]
  generalize (2 : ℚ) ^ 2044 = half at hpow hpos ⊢
  generalize (2 : ℚ) ^ e = g at hpow hscaled
  linarith only [hpow, hpos, hscaled]

end Binary64

namespace Numeral

def magnitude (x : Numeral) : ℚ := x.digits * 10 ^ x.scale

variable {x : Numeral}

theorem magnitude_nonneg (x : Numeral) : 0 ≤ x.magnitude :=
  mul_nonneg (Nat.cast_nonneg _) (zpow_nonneg (by norm_num) _)

theorem magnitude_pos (h : x.digits ≠ 0) : 0 < x.magnitude := by
  have : (0 : ℚ) < x.digits := by exact_mod_cast Nat.pos_of_ne_zero h
  exact mul_pos this (zpow_pos (by norm_num) _)

theorem magnitude_bounds (h : x.digits ≠ 0) :
    (10 : ℚ) ^ ((digitCount x.digits : ℤ) + x.scale - 1) ≤ x.magnitude ∧
      x.magnitude < 10 ^ ((digitCount x.digits : ℤ) + x.scale) := by
  have hpos := Decimal.digitCount_pos x.digits
  have hl : ((10 ^ (digitCount x.digits - 1) : ℕ) : ℚ) ≤ x.digits := by
    exact_mod_cast Decimal.pow_digitCount_le (Nat.pos_of_ne_zero h)
  have hh : (x.digits : ℚ) < (10 ^ digitCount x.digits : ℕ) := by
    exact_mod_cast Decimal.lt_pow_digitCount x.digits
  have hten : (0 : ℚ) < 10 ^ x.scale := zpow_pos (by norm_num) _
  push_cast at hl hh
  rw [show (digitCount x.digits : ℤ) + x.scale - 1 = (digitCount x.digits - 1 : ℕ) + x.scale by
    omega, zpow_add₀ (by norm_num), zpow_add₀ (by norm_num), zpow_natCast, zpow_natCast]
  exact ⟨mul_le_mul_of_nonneg_right hl hten.le, mul_lt_mul_of_pos_right hh hten⟩

theorem toBinary64_eq_ofUnits (h : x.digits ≠ 0) (hl : -330 ≤ (digitCount x.digits : ℤ) + x.scale)
    (hh : (digitCount x.digits : ℤ) + x.scale ≤ 310) : ∃ num den : ℕ, 0 < den ∧
      (num : ℚ) / den = x.magnitude * one ∧ x.toBinary64 = ofUnits x.negative num den := by
  have htrunc : ¬ (x.digits = 0 ∨ (digitCount x.digits : ℤ) + x.scale < -330) := by omega
  by_cases hs : 0 ≤ x.scale
  · refine ⟨x.digits * tenTo x.scale.toNat * one, 1, Nat.one_pos, ?_, ?_⟩
    · obtain ⟨n, hn⟩ := Int.eq_ofNat_of_zero_le hs
      rw [magnitude, hn, Int.toNat_natCast, Nat.cast_one, div_one, Nat.cast_mul, Nat.cast_mul,
        Decimal.tenTo_zpow]
    · unfold toBinary64
      dsimp only
      rw [if_neg htrunc, if_neg (by omega), if_pos hs]
      rfl
  · refine ⟨x.digits * one, tenTo (-x.scale).toNat, Nat.pow_pos (by decide), ?_, ?_⟩
    · obtain ⟨n, hn⟩ : ∃ n : ℕ, x.scale = -n := ⟨(-x.scale).toNat, by omega⟩
      rw [magnitude, hn, neg_neg, Int.toNat_natCast, Nat.cast_mul, Decimal.tenTo_zpow, zpow_neg,
        div_eq_mul_inv, mul_right_comm]
    · unfold toBinary64
      dsimp only
      rw [if_neg htrunc, if_neg (by omega), if_neg hs]
      rfl

/-- What a numeral is read as, when this is finite. -/
structure Reads (x : Numeral) (u : ℕ) : Prop where
  counted : ∃ n e, Counted u n e
  lt : u < limit
  rounds : RoundsTo (x.magnitude * one) u

theorem toBinary64_cases (x : Numeral) :
    (x.toBinary64 = .finite x.negative 0 ∧ x.magnitude * one ≤ 1 / 2) ∨
      (x.toBinary64 = .infinite x.negative ∧ Binary64.halfway ≤ x.magnitude * one) ∨
      ∃ num den : ℕ, 0 < den ∧ (num : ℚ) / den = x.magnitude * one ∧
        x.toBinary64 = ofUnits x.negative num den := by
  have hone := Binary64.cast_one_pos
  by_cases h0 : x.digits = 0
  · refine .inl ⟨by simp [toBinary64, h0], ?_⟩
    rw [magnitude, h0, Nat.cast_zero, zero_mul, zero_mul]
    norm_num
  obtain ⟨hlow, hhigh⟩ := magnitude_bounds h0
  by_cases hl : (digitCount x.digits : ℤ) + x.scale < -330
  · refine .inl ⟨by simp [toBinary64, hl], ?_⟩
    have hpow : (10 : ℚ) ^ ((digitCount x.digits : ℤ) + x.scale) ≤
        10 ^ Decimal.lastPlace * 10 ^ (-1 : ℤ) := by
      rw [← zpow_add₀ (by norm_num)]
      exact zpow_le_zpow_right₀ (by norm_num) (by unfold Decimal.lastPlace; omega)
    have := mul_le_mul_of_nonneg_right (hhigh.le.trans hpow) hone.le
    have hlast := Decimal.lastPlace_bounds.2
    generalize (10 : ℚ) ^ Decimal.lastPlace = place at this hlast
    generalize (one : ℚ) = w at this hlast ⊢
    norm_num at this
    linarith only [this, hlast]
  by_cases hh : 310 < (digitCount x.digits : ℤ) + x.scale
  · refine .inr (.inl ⟨by simp [toBinary64, h0, hl, hh], ?_⟩)
    have hpow : (10 : ℚ) ^ ((309 : ℕ) : ℤ) ≤ 10 ^ ((digitCount x.digits : ℤ) + x.scale - 1) :=
      zpow_le_zpow_right₀ (by norm_num) (by omega)
    exact (Binary64.halfway_le_limit.trans Binary64.limit_le).trans
      (mul_le_mul_of_nonneg_right (hpow.trans hlow) hone.le)
  · exact .inr (.inr (toBinary64_eq_ofUnits h0 (by omega) (by omega)))

theorem Reads.ofUnits_eq {u : ℕ} (h : x.Reads u) (negative : Bool) {num den : ℕ} (hd : 0 < den)
    (hr : (num : ℚ) / den = x.magnitude * one) : ofUnits negative num den = .finite negative u := by
  obtain ⟨n, e, hc⟩ := h.counted
  exact Binary64.ofUnits_eq hc h.lt negative hd (hr ▸ h.rounds)

theorem reads_of_toBinary64 {n : Bool} {u : ℕ} (h : x.toBinary64 = .finite n u) :
    n = x.negative ∧ x.Reads u := by
  rcases toBinary64_cases x with ⟨hx, hm⟩ | ⟨hx, -⟩ | ⟨num, den, hd, hr, hx⟩
  · rw [hx] at h
    cases h
    have hm' : 0 ≤ x.magnitude * one := mul_nonneg (magnitude_nonneg x) (Nat.cast_nonneg _)
    exact ⟨rfl, ⟨0, 0, Binary64.counted_zero⟩, Binary64.limit_pos, Binary64.roundsTo_zero hm' hm⟩
  · rw [hx] at h
    exact absurd h (by simp)
  · rw [hx] at h
    obtain ⟨hn, hu, hlt⟩ := Binary64.ofUnits_finite h
    obtain ⟨hc, hround⟩ := Binary64.roundUnits_counted num hd
    rw [hr] at hround
    exact ⟨hn, hu ▸ hc, hlt, hu ▸ hround⟩

theorem halfway_le_of_toBinary64 {n : Bool} (h : x.toBinary64 = .infinite n) :
    n = x.negative ∧ Binary64.halfway ≤ x.magnitude * one := by
  rcases toBinary64_cases x with ⟨hx, -⟩ | ⟨hx, hm⟩ | ⟨num, den, hd, hr, hx⟩
  · rw [hx] at h
    exact absurd h (by simp)
  · rw [hx] at h
    cases h
    exact ⟨rfl, hm⟩
  · rw [hx] at h
    obtain ⟨hn, hu⟩ := Binary64.ofUnits_infinite h
    obtain ⟨⟨m, e, hc⟩, hround⟩ := Binary64.roundUnits_counted num hd
    rw [hr] at hround
    exact ⟨hn, Binary64.halfway_le hc hu hround⟩

end Numeral

end SheetExport
