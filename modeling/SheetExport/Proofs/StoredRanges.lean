import SheetExport.Proofs.ExtendedErrors
import SheetExport.Proofs.StoredNumerals

/-!
# Where the store reads exactly

The store reads a whole number of up to nineteen digits as the nearest number. What is past the
largest number it reads as infinite, and what is far below the smallest one as zero.
-/

namespace SheetExport.Numeral

open Binary64 (limit halfway RoundsTo Counted ofUnits roundUnits)

/-! ## Digits and a power of ten -/

theorem widened_spec {d : ℕ} : ∀ {e : ℕ}, d ≤ 10 * enoughDigits →
    (widened d e).1 * 10 ^ (widened d e).2 = d * 10 ^ e ∧ (widened d e).2 ≤ e ∧
      (widened d e).1 ≤ 10 * enoughDigits
  | 0, hd => ⟨rfl, le_rfl, hd⟩
  | e + 1, hd => by
    unfold widened
    split
    · next h =>
      obtain ⟨hv, he, hw⟩ := widened_spec (d := 10 * d) (e := e) (Nat.mul_le_mul_left 10 h)
      exact ⟨by rw [hv, pow_succ]; ring, he.trans (Nat.le_succ e), hw⟩
    · exact ⟨rfl, le_rfl, hd⟩

theorem narrowed_spec {d : ℕ} : ∀ {e : ℕ},
    (narrowed d e).1 * 10 ^ e = d * 10 ^ (narrowed d e).2 ∧ (narrowed d e).2 ≤ e ∧
      (narrowed d e).1 ≤ d
  | 0 => ⟨rfl, le_rfl, le_rfl⟩
  | e + 1 => by
    unfold narrowed
    split
    · next h =>
      obtain ⟨hv, he, hw⟩ := narrowed_spec (d := d / 10) (e := e)
      refine ⟨?_, he.trans (Nat.le_succ e), hw.trans (Nat.div_le_self d 10)⟩
      rw [pow_succ, ← mul_assoc, hv, mul_right_comm, Nat.div_mul_cancel (Nat.dvd_of_mod_eq_zero h)]
    · exact ⟨rfl, le_rfl, le_rfl⟩

theorem extended_eq {y : Numeral} (hf : y.Fits) : ∃ (d : ℕ) (q : ℤ), d < 2 ^ 64 ∧
    d * (10 : ℚ) ^ q = y.magnitude ∧ y.extended = (Extended.ofNat d).scaled q ∧
      min y.scale 0 ≤ q ∧ q ≤ max y.scale 0 := by
  have hsize : 10 * enoughDigits < 2 ^ 64 := by decide
  unfold extended magnitude
  split
  · next h =>
    obtain ⟨n, hn⟩ := Int.eq_ofNat_of_zero_le h
    obtain ⟨hv, he, hw⟩ := widened_spec (e := y.scale.toNat) (Nat.le_of_lt hf)
    refine ⟨_, _, hw.trans_lt hsize, ?_, rfl, ?_, ?_⟩
    · rw [hn, Int.toNat_natCast] at hv ⊢
      rw [zpow_natCast, zpow_natCast]
      exact_mod_cast hv
    · omega
    · omega
  · next h =>
    obtain ⟨n, hn⟩ : ∃ n : ℕ, y.scale = -n := ⟨(-y.scale).toNat, by omega⟩
    obtain ⟨hv, he, hw⟩ := narrowed_spec (d := y.digits) (e := (-y.scale).toNat)
    refine ⟨_, _, (hw.trans_lt hf).trans hsize, ?_, rfl, ?_, ?_⟩
    · rw [hn, neg_neg, Int.toNat_natCast] at hv ⊢
      rw [zpow_neg, zpow_neg, zpow_natCast, zpow_natCast, ← div_eq_mul_inv, ← div_eq_mul_inv,
        div_eq_div_iff (by positivity) (by positivity)]
      exact_mod_cast hv
    · omega
    · omega

/-! ## Whole numbers -/

theorem stored_whole {x : Numeral} {k : ℕ} (hk : 0 < k) (hfit : k < 10 * enoughDigits)
    (h : x.magnitude = k) : ∃ num den : ℕ, 0 < den ∧ (num : ℚ) / den = k * Binary64.one ∧
      x.stored = ofUnits x.negative num den := by
  have hk1 : (1 : ℚ) ≤ k := by exact_mod_cast hk
  have hk64 : k < 2 ^ 64 := hfit.trans (by decide)
  have hmag : x.shortened.magnitude = k := by
    rw [magnitude_shortened ⟨k, 0, hfit, by rw [h, zpow_zero, mul_one]⟩, h]
  have hl : (10 : ℚ) ^ (-380 : ℤ) ≤ k :=
    (zpow_le_one_of_nonpos₀ (by norm_num) (by decide)).trans hk1
  have hh : (k : ℚ) < 10 ^ (401 : ℤ) := by
    have h20 : (k : ℚ) < 10 ^ (20 : ℤ) := by exact_mod_cast hk64.trans (by decide)
    exact h20.trans_le (zpow_le_zpow_right₀ (by norm_num) (by decide))
  obtain ⟨-, -, hfits, -⟩ := shortened_eq x
  have hext : x.shortened.extended = Extended.ofNat k :=
    extended_congr (y := ⟨x.negative, k, 0⟩) hfits hfit (by
      rw [hmag, magnitude, zpow_zero, mul_one])
  have hratio := Extended.units_div_finer (Extended.ofNat k)
  rw [Extended.value_ofNat hk64] at hratio
  refine ⟨_, Extended.finer, twoTo_pos 126, hratio, ?_⟩
  have hsmall : ¬ Extended.largest.units < (Extended.ofNat k).units := by
    rw [Extended.largest_lt_iff, Extended.value_ofNat hk64, not_lt]
    have hone : k * Binary64.one ≤ twoTo 2044 := calc
      k * Binary64.one ≤ twoTo 64 * Binary64.one := Nat.mul_le_mul_right Binary64.one hk64.le
      _ = twoTo (64 + 1074) := by rw [Binary64.one, ← twoTo_add]
      _ ≤ twoTo 2044 := twoTo_le (by decide)
    have hone' : (k : ℚ) * Binary64.one ≤ 2 ^ 2044 := by
      rw [← twoTo_cast]
      exact_mod_cast hone
    exact hone'.trans (le_mul_of_one_le_left (pow_nonneg (by norm_num) _) (by norm_num))
  rw [stored_eq (hmag.symm ▸ hl) (hmag.symm ▸ hh), hext, Extended.toBinary64, if_neg hsmall]

/-! ## Past the largest number -/

/-- What is left of a magnitude past the middle, in units, when digits are dropped is large. -/
theorem large_of_halfway {z : ℚ} (hz : 0 ≤ z) (h : halfway ≤ z * (1 + 1 / 2 ^ 60)) :
    (10 : ℚ) ^ ((307 : ℕ) : ℤ) * Binary64.one ≤ z := by
  have hlimit : 4 * (tenTo 307 * Binary64.one) ≤ limit := by decide +kernel
  have hlimit' : 4 * ((tenTo 307 : ℚ) * Binary64.one) ≤ limit := by exact_mod_cast hlimit
  have hg : (0 : ℚ) < 2 ^ 2044 := pow_pos (by norm_num) _
  rw [Decimal.tenTo_zpow, Binary64.limit_cast] at hlimit'
  rw [halfway] at h
  generalize (10 : ℚ) ^ ((307 : ℕ) : ℤ) * Binary64.one = power at hlimit' ⊢
  generalize (2 : ℚ) ^ 2044 = g at h hg hlimit'
  norm_num at h
  linarith only [h, hz, hlimit', hg]

theorem largest_lt_of_halfway {z : ℚ} (h : halfway ≤ z * (1 + 1 / 2 ^ 60)) :
    (2 ^ 54 - 2 : ℚ) * 2 ^ 2044 < z * (1 - 1 / 2 ^ 56) := by
  have hg : (0 : ℚ) < 2 ^ 2044 := pow_pos (by norm_num) _
  rw [halfway] at h
  generalize (2 : ℚ) ^ 2044 = g at h hg ⊢
  norm_num at h ⊢
  linarith only [h, hg]

/-- The errors of reading do not bring a number back that is past the largest one. -/
theorem stored_infinite {x : Numeral} (h : halfway ≤ x.magnitude * Binary64.one) :
    x.stored = .infinite x.negative := by
  have hone := Binary64.cast_one_pos
  obtain ⟨-, -, hfits, -⟩ := shortened_eq x
  have hloss := (shortened_bounds x).2
  rw [stored_def]
  generalize x.shortened = y at hfits hloss ⊢
  have hpos : 0 ≤ y.magnitude * Binary64.one := mul_nonneg (magnitude_nonneg y) hone.le
  have hmiddle : halfway ≤ y.magnitude * Binary64.one * (1 + 1 / 2 ^ 60) := by
    have hpart : (1 : ℚ) / enoughDigits ≤ 1 / 2 ^ 60 := by norm_num [enoughDigits]
    have hleft := hloss.trans
      (mul_le_mul_of_nonneg_left (add_le_add_right hpart 1) (magnitude_nonneg y))
    rw [mul_right_comm]
    exact h.trans (mul_le_mul_of_nonneg_right hleft hone.le)
  have hlarge := (mul_le_mul_iff_of_pos_right hone).1 (large_of_halfway hpos hmiddle)
  have h0 : y.digits ≠ 0 := by
    intro h0
    rw [magnitude, h0, Nat.cast_zero, zero_mul] at hlarge
    exact absurd hlarge (not_le.2 (zpow_pos (by norm_num) _))
  have hscale := (scale_bounds hfits h0 hlarge (magnitude_bounds h0).2).1
  rw [if_neg (by unfold scaleLimit; omega)]
  split
  · rfl
  next hle =>
  unfold scaleLimit at hle
  obtain ⟨d, q, hd, hmag, hext, hql, hqh⟩ := extended_eq hfits
  obtain ⟨n, rfl⟩ : ∃ n : ℕ, q = n := ⟨q.toNat, by omega⟩
  have hd1 : (1 : ℚ) ≤ (Extended.ofNat d).value := by
    rw [Extended.value_ofNat hd, Nat.one_le_cast, Nat.one_le_iff_ne_zero]
    rintro rfl
    rw [Nat.cast_zero, zero_mul] at hmag
    exact absurd (hmag ▸ hlarge) (not_le.2 (zpow_pos (by norm_num) _))
  have hlow := Extended.low_scaled hd1 (n := n) (by omega)
  rw [Extended.value_ofNat hd, ← zpow_natCast, hmag, ← hext] at hlow
  have hunits := mul_le_mul_of_nonneg_right hlow hone.le
  rw [mul_right_comm] at hunits
  have hpast : Extended.largest.units < y.extended.units :=
    (Extended.largest_lt_iff _).2 ((largest_lt_of_halfway hmiddle).trans_le hunits)
  rw [Extended.toBinary64, if_pos hpast]

/-! ## Below the smallest number -/

/-- A magnitude that is far from the middle between zero and the smallest number. -/
def faint : ℚ := 2 * 10 ^ (-324 : ℤ)

theorem faint_units : faint * Binary64.one ≤ 9 / 20 := by
  have hlast : 4 * Binary64.one ≤ 9 * tenTo 323 := by decide +kernel
  have hlast' : 4 * (Binary64.one : ℚ) ≤ 9 * tenTo 323 := by exact_mod_cast hlast
  have hsplit : (10 : ℚ) ^ (-324 : ℤ) = 10 ^ (-((323 : ℕ) : ℤ)) * 10 ^ (-1 : ℤ) :=
    zpow_add₀ (by norm_num) (-323) (-1)
  have hpos : (0 : ℚ) < 10 ^ ((323 : ℕ) : ℤ) := zpow_pos (by norm_num) _
  rw [Decimal.tenTo_zpow, ← div_le_iff₀ hpos, ← mul_div_assoc', div_eq_mul_inv, ← zpow_neg]
    at hlast'
  rw [faint, hsplit]
  generalize (10 : ℚ) ^ (-((323 : ℕ) : ℤ)) = place at hlast' ⊢
  generalize (Binary64.one : ℚ) = w at hlast' ⊢
  norm_num
  linarith only [hlast']

theorem toBinary64_faint {x : Numeral} (h : x.magnitude ≤ faint) :
    x.toBinary64 = .finite x.negative 0 := by
  have hone := Binary64.cast_one_pos
  have hsmall := (mul_le_mul_of_nonneg_right h hone.le).trans faint_units
  rcases toBinary64_cases x with ⟨hx, -⟩ | ⟨-, hm⟩ | ⟨num, den, hd, hr, hx⟩
  · exact hx
  · have hlarge := Binary64.one_le_halfway.trans (hm.trans hsmall)
    norm_num at hlarge
  · rw [hx]
    exact Binary64.ofUnits_zero _ hd (hr ▸ hsmall.trans (by norm_num))

theorem stored_faint {x : Numeral} (h : x.magnitude ≤ faint) :
    x.stored = .finite x.negative 0 := by
  have hone := Binary64.cast_one_pos
  obtain ⟨-, -, hfits, -⟩ := shortened_eq x
  have hle := (shortened_bounds x).1.trans h
  rw [stored_def]
  generalize x.shortened = y at hfits hle ⊢
  split
  · rfl
  next hfar =>
  rw [not_or] at hfar
  have hneg : y.scale < 0 := by
    have hlt : y.magnitude < 10 ^ (0 : ℤ) := by
      have hten : (10 : ℚ) ^ (-324 : ℤ) ≤ 10 ^ (-1 : ℤ) :=
        zpow_le_zpow_right₀ (by norm_num) (by decide)
      refine hle.trans_lt ((mul_le_mul_of_nonneg_left hten zero_le_two).trans_lt ?_)
      norm_num
    exact (scale_bounds hfits hfar.1 (magnitude_bounds hfar.1).1 hlt).2
  rw [if_neg (by unfold scaleLimit; omega)]
  obtain ⟨d, q, hd, hmag, hext, hql, hqh⟩ := extended_eq hfits
  obtain ⟨n, rfl⟩ : ∃ n : ℕ, q = -n := ⟨(-q).toNat, by omega⟩
  have hn : n ≤ 400 := by
    unfold scaleLimit at hfar
    omega
  have hhigh := Extended.high_scaled (Extended.ofNat d) hn
  rw [Extended.value_ofNat hd, hmag, ← hext] at hhigh
  have hsmall : y.extended.value * Binary64.one ≤ 1 / 2 := by
    have hvalue := mul_le_mul_of_nonneg_right hhigh hone.le
    have hmagnitude := (mul_le_mul_of_nonneg_right hle hone.le).trans faint_units
    rw [add_mul, mul_assoc 22, Extended.share_units, mul_right_comm] at hvalue
    generalize (Binary64.one : ℚ) = w at hvalue hmagnitude ⊢
    norm_num at hvalue
    linarith only [hvalue, hmagnitude]
  have hpast : ¬ Extended.largest.units < y.extended.units := by
    rw [Extended.largest_lt_iff, not_lt]
    refine hsmall.trans (le_trans (by norm_num) (one_le_mul_of_one_le_of_one_le
      (by norm_num : (1 : ℚ) ≤ 2 ^ 54 - 2) (one_le_pow₀ (by norm_num))))
  rw [Extended.toBinary64, if_neg hpast]
  exact Binary64.ofUnits_zero _ (twoTo_pos 126) (Extended.units_div_finer _ ▸ hsmall)

end SheetExport.Numeral
