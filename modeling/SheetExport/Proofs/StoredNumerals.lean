import SheetExport.Binary64.Stored
import SheetExport.Proofs.LiteralNumerals

/-!
# How the store reads numerals

The store takes digits of a numeral as long as they fit and moves powers of ten between digits and
scale. Where all digits fit, what it reads depends on the sign and the magnitude alone.
-/

namespace SheetExport.Numeral

/-! ## Zeros at the end -/

theorem extended_zero (negative : Bool) {d : ℕ} (hd : d ≤ enoughDigits) (q : ℤ) :
    extended ⟨negative, 10 * d, q - 1⟩ = extended ⟨negative, d, q⟩ := by
  have narrowed_zero (n : ℕ) : narrowed (10 * d) (n + 1) = narrowed d n := by
    rw [narrowed, if_pos (Nat.mul_mod_right 10 d), Nat.mul_div_cancel_left d (by decide)]
  unfold extended
  dsimp only
  rcases lt_trichotomy q 0 with hq | rfl | hq
  · rw [if_neg (by omega), if_neg (by omega), show (-(q - 1)).toNat = (-q).toNat + 1 by omega,
      narrowed_zero]
  · rw [if_neg (by omega), if_pos le_rfl, show (-((0 : ℤ) - 1)).toNat = 0 + 1 by rfl, narrowed_zero]
    rfl
  · obtain ⟨n, rfl⟩ : ∃ n : ℕ, q = n + 1 := ⟨(q - 1).toNat, by omega⟩
    rw [if_pos (by omega), if_pos (by omega), show ((n : ℤ) + 1 - 1).toNat = n by omega,
      show ((n : ℤ) + 1).toNat = n + 1 by omega, widened, if_pos hd]

theorem extended_zeros (negative : Bool) {d : ℕ} : ∀ {j : ℕ}, d * 10 ^ j ≤ 10 * enoughDigits →
    ∀ q : ℤ, extended ⟨negative, d * 10 ^ j, q - j⟩ = extended ⟨negative, d, q⟩
  | 0, _, q => by simp
  | j + 1, h, q => by
    rw [pow_succ, ← mul_assoc, Nat.mul_comm _ 10] at h ⊢
    have hj : d * 10 ^ j ≤ enoughDigits := by omega
    rw [← extended_zeros negative (hj.trans (by decide)) q, ← extended_zero negative hj (q - j)]
    congr 2
    push_cast
    ring

/-- A numeral with as many digits as are taken at most. -/
def Fits (x : Numeral) : Prop := x.digits < 10 * enoughDigits

theorem extended_congr {x y : Numeral} (hx : x.Fits) (hy : y.Fits)
    (h : x.magnitude = y.magnitude) : x.extended = y.extended := by
  have key {x y : Numeral} (hx : x.Fits) (h : x.magnitude = y.magnitude)
      (hle : x.scale ≤ y.scale) : x.extended = y.extended := by
    obtain ⟨n, d, q⟩ := y
    dsimp only at hle
    obtain ⟨j, hj⟩ : ∃ j : ℕ, x.scale = q - j := ⟨(q - x.scale).toNat, by omega⟩
    have hd : x.digits = d * 10 ^ j := by
      rw [magnitude, magnitude, hj, sub_eq_add_neg, add_comm, zpow_add₀ (by norm_num), ← mul_assoc,
        mul_left_inj' (zpow_ne_zero q (by norm_num)), zpow_neg, ← div_eq_mul_inv, zpow_natCast,
        div_eq_iff (by positivity)] at h
      exact_mod_cast h
    have he : x.extended = extended ⟨n, x.digits, x.scale⟩ := rfl
    rw [he, hd, hj]
    refine extended_zeros n ?_ q
    rw [← hd]
    exact hx.le
  rcases le_total x.scale y.scale with hle | hle
  · exact key hx h hle
  · exact (key hy h.symm hle).symm

/-! ## Digits that are taken -/

theorem shortened_eq (x : Numeral) : ∃ k : ℕ,
    x.shortened = ⟨x.negative, x.digits / 10 ^ k, x.scale + k⟩ ∧ x.shortened.Fits ∧
      (k = 0 ∨ enoughDigits ≤ x.digits / 10 ^ k) := by
  have hlt := Decimal.lt_pow_digitCount x.digits
  by_cases hcount : digitCount x.digits ≤ 19
  · have hk : digitCount x.digits - 19 = 0 := by omega
    refine ⟨0, ?_, ?_, .inl rfl⟩
    · simp [shortened, hk, tenTo]
    · have : x.digits < 10 ^ 19 := hlt.trans_le (Nat.pow_le_pow_right (by decide) hcount)
      simp only [Fits, shortened, hk, Nat.zero_sub, ite_self]
      change x.digits / 1 < _
      rw [Nat.div_one]
      exact this.trans (by decide)
  · obtain ⟨k, hk⟩ : ∃ k, digitCount x.digits = 20 + k := ⟨digitCount x.digits - 20, by omega⟩
    have hextra : digitCount x.digits - 19 = k + 1 := by omega
    have hge : 10 ^ (19 + k) ≤ x.digits := by
      have := Decimal.pow_digitCount_le (n := x.digits) (by
        by_contra h0
        rw [Nat.eq_zero_of_not_pos h0] at hcount
        exact hcount (by decide))
      rwa [hk, show 20 + k - 1 = 19 + k by omega] at this
    have hpos : 0 < 10 ^ k := Nat.pow_pos (by decide)
    by_cases h : enoughDigits ≤ x.digits / tenTo (k + 1)
    · have hs : x.shortened = ⟨x.negative, x.digits / 10 ^ (k + 1), x.scale + (k + 1 : ℕ)⟩ := by
        rw [shortened, hextra, if_pos h]
        rfl
      refine ⟨k + 1, hs, ?_, .inr h⟩
      have hdiv : x.digits / 10 ^ (k + 1) < 10 ^ 19 := by
        rw [Nat.div_lt_iff_lt_mul (Nat.pow_pos (by decide)), ← pow_add]
        rwa [hk, show 20 + k = 19 + (k + 1) by omega] at hlt
      rw [Fits, hs]
      exact hdiv.trans (by decide)
    · have hs : x.shortened = ⟨x.negative, x.digits / 10 ^ k, x.scale + k⟩ := by
        rw [shortened, hextra, if_neg h]
        rfl
      refine ⟨k, hs, ?_, .inr ?_⟩
      · have hdiv : x.digits / 10 ^ (k + 1) < enoughDigits := Nat.not_le.1 h
        rw [pow_succ, ← Nat.div_div_eq_div_mul] at hdiv
        rw [Fits, hs]
        dsimp only
        omega
      · rw [Nat.le_div_iff_mul_le hpos]
        refine le_trans ?_ hge
        rw [pow_add]
        exact Nat.mul_le_mul_right _ (by decide)

/-- A magnitude of digits that fit. -/
def Short (m : ℚ) : Prop := ∃ (c : ℕ) (p : ℤ), c < 10 * enoughDigits ∧ m = c * 10 ^ p

/-- Only zeros are dropped where the magnitude needs no more digits than fit. -/
theorem magnitude_shortened {x : Numeral} (h : Short x.magnitude) :
    x.shortened.magnitude = x.magnitude := by
  -- The digits are some that fit with zeros behind them.
  obtain ⟨c, j, hd, hc⟩ : ∃ c j, x.digits = c * 10 ^ j ∧ c < 10 * enoughDigits := by
    obtain ⟨c, p, hc, hm⟩ := h
    rcases le_total x.scale p with hle | hle
    · refine ⟨c, (p - x.scale).toNat, ?_, hc⟩
      rw [Decimal.finer_grid c hle, magnitude, mul_left_inj' (zpow_ne_zero _ (by norm_num))] at hm
      exact_mod_cast hm
    · refine ⟨x.digits, 0, by simp, hc.trans_le' ?_⟩
      rw [magnitude, Decimal.finer_grid x.digits hle,
        mul_left_inj' (zpow_ne_zero _ (by norm_num))] at hm
      have : x.digits * 10 ^ (x.scale - p).toNat = c := by exact_mod_cast hm
      rw [← this]
      exact Nat.le_mul_of_pos_right _ (Nat.pow_pos (by decide))
  obtain ⟨k, hs, -, hk⟩ := shortened_eq x
  have hkj : k ≤ j := by
    by_contra hlt
    obtain ⟨m, rfl⟩ : ∃ m, k = j + (m + 1) := ⟨k - j - 1, by omega⟩
    have hge := hk.resolve_left (by omega)
    rw [hd, pow_add, ← Nat.div_div_eq_div_mul, Nat.mul_div_cancel _ (Nat.pow_pos (by decide)),
      Nat.le_div_iff_mul_le (Nat.pow_pos (by decide)), pow_succ] at hge
    have : enoughDigits * 10 ≤ enoughDigits * (10 ^ m * 10) :=
      Nat.mul_le_mul_left _ (Nat.le_mul_of_pos_left _ (Nat.pow_pos (by decide)))
    omega
  have hdvd : x.digits / 10 ^ k * 10 ^ k = x.digits :=
    Nat.div_mul_cancel (hd ▸ Dvd.dvd.mul_left (pow_dvd_pow 10 hkj) c)
  rw [hs, magnitude, magnitude, zpow_add₀ (by norm_num), mul_comm ((10 : ℚ) ^ x.scale), ← mul_assoc,
    zpow_natCast]
  congr 1
  exact_mod_cast hdvd

theorem shortened_bounds (x : Numeral) : x.shortened.magnitude ≤ x.magnitude ∧
    x.magnitude ≤ x.shortened.magnitude * (1 + 1 / enoughDigits) := by
  obtain ⟨k, hs, -, hk⟩ := shortened_eq x
  have hten : (0 : ℚ) < 10 ^ x.scale := zpow_pos (by norm_num) _
  have hpow : (0 : ℚ) < 10 ^ k := by positivity
  have hmag : x.shortened.magnitude = (x.digits / 10 ^ k : ℕ) * 10 ^ k * 10 ^ x.scale := by
    rw [hs, magnitude, add_comm, zpow_add₀ (by norm_num), zpow_natCast, mul_assoc]
  obtain ⟨hl, hh⟩ := Binary64.floor_bounds x.digits (Nat.pow_pos (n := k) (by decide : 0 < 10))
  rw [Nat.cast_pow, Nat.cast_ofNat, le_div_iff₀ hpow] at hl
  rw [Nat.cast_pow, Nat.cast_ofNat, div_lt_iff₀ hpow] at hh
  rw [hmag, magnitude]
  refine ⟨mul_le_mul_of_nonneg_right hl hten.le, ?_⟩
  rw [mul_right_comm]
  refine mul_le_mul_of_nonneg_right ?_ hten.le
  rcases hk with rfl | hk
  · rw [pow_zero, pow_zero, Nat.div_one, mul_one]
    exact le_mul_of_one_le_right (Nat.cast_nonneg _) (by norm_num [enoughDigits])
  · have hk' : (enoughDigits : ℚ) ≤ (x.digits / 10 ^ k : ℕ) := by exact_mod_cast hk
    have hone : 1 ≤ ((x.digits / 10 ^ k : ℕ) : ℚ) * (1 / enoughDigits) := by
      rw [mul_one_div, one_le_div (by norm_num [enoughDigits])]
      exact hk'
    rw [mul_right_comm]
    refine hh.le.trans (mul_le_mul_of_nonneg_right ?_ hpow.le)
    linarith only [hone]

/-! ## What is stored -/

theorem negative_shortened (x : Numeral) : x.shortened.negative = x.negative := by
  obtain ⟨k, hs, -⟩ := shortened_eq x
  rw [hs]

theorem stored_def (x : Numeral) : x.stored =
    if x.shortened.digits = 0 ∨ x.shortened.scale < -(scaleLimit : ℤ) then .finite x.negative 0
    else if scaleLimit < x.shortened.scale then .infinite x.negative
    else x.shortened.extended.toBinary64 x.negative := by
  unfold stored
  rw [← negative_shortened x]

theorem scale_bounds {y : Numeral} (hf : y.Fits) (h0 : y.digits ≠ 0) {a b : ℤ}
    (hl : (10 : ℚ) ^ a ≤ y.magnitude) (hh : y.magnitude < 10 ^ b) :
    a - 20 < y.scale ∧ y.scale < b := by
  have hcount : digitCount y.digits ≤ 20 :=
    (Nat.length_toDigits_le_iff (by decide) (by decide)).2 (hf.trans (by decide))
  have hpos := Decimal.digitCount_pos y.digits
  obtain ⟨hlow, hhigh⟩ := magnitude_bounds h0
  have h1 := (zpow_lt_zpow_iff_right₀ (by norm_num)).1 (hl.trans_lt hhigh)
  have h2 := (zpow_lt_zpow_iff_right₀ (by norm_num)).1 (hlow.trans_lt hh)
  omega

/-- Scales past the limit are those of magnitudes far outside the range of the format. -/
theorem stored_eq {x : Numeral} (hl : (10 : ℚ) ^ (-380 : ℤ) ≤ x.shortened.magnitude)
    (hh : x.shortened.magnitude < 10 ^ (401 : ℤ)) :
    x.stored = x.shortened.extended.toBinary64 x.negative := by
  obtain ⟨-, -, hfits, -⟩ := shortened_eq x
  have h0 : x.shortened.digits ≠ 0 := by
    intro h0
    rw [magnitude, h0, Nat.cast_zero, zero_mul] at hl
    exact absurd hl (not_le.2 (zpow_pos (by norm_num) _))
  have hscale := scale_bounds hfits h0 hl hh
  rw [stored_def, if_neg (by unfold scaleLimit; omega), if_neg (by unfold scaleLimit; omega)]

theorem stored_congr {x y : Numeral} (hn : x.negative = y.negative)
    (h : x.magnitude = y.magnitude) (hs : Short x.magnitude)
    (hl : (10 : ℚ) ^ (-380 : ℤ) ≤ x.magnitude) (hh : x.magnitude < 10 ^ (401 : ℤ)) :
    x.stored = y.stored := by
  have hx := magnitude_shortened hs
  have hy := magnitude_shortened (h ▸ hs)
  rw [stored_eq (hx.symm ▸ hl) (hx.symm ▸ hh), stored_eq (hy.symm ▸ h ▸ hl) (hy.symm ▸ h ▸ hh), hn]
  obtain ⟨-, -, hfx, -⟩ := shortened_eq x
  obtain ⟨-, -, hfy, -⟩ := shortened_eq y
  rw [extended_congr hfx hfy (hx.trans (h.trans hy.symm))]

theorem stored_zero {x : Numeral} (h : x.digits = 0) : x.stored = .finite x.negative 0 := by
  obtain ⟨k, hs, -⟩ := shortened_eq x
  have h0 : x.shortened.digits = 0 := by
    rw [hs, h]
    exact Nat.zero_div _
  rw [stored_def, if_pos (.inl h0)]

end SheetExport.Numeral
