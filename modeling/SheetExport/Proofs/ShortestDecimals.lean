import Mathlib.Data.Int.Log
import SheetExport.Binary64.Decimal
import SheetExport.Proofs.Rounding

/-!
# Shortest decimals

The shortest decimal of a number is found on the coarsest grid that has a decimal in the interval
of the number. It rounds to the number, has seventeen digits at most, and is the decimal that was
rounded if that one has no more than fifteen.
-/

namespace SheetExport

open Binary64 (one gap below gapExponent RoundsTo Counted cast_one_pos floor_bounds)

theorem powerOfTen_pos (p : ℤ) : 0 < (powerOfTen p).1 ∧ 0 < (powerOfTen p).2 := by
  have ten (n : ℕ) : 0 < tenTo n := Nat.pow_pos (by decide)
  unfold powerOfTen
  split
  · exact ⟨ten _, Nat.one_pos⟩
  · exact ⟨Nat.one_pos, ten _⟩

theorem powerOfTen_eq (p : ℤ) : ((powerOfTen p).1 : ℚ) / (powerOfTen p).2 = 10 ^ p := by
  have ten (n : ℕ) : (tenTo n : ℚ) = 10 ^ n := by exact_mod_cast rfl
  unfold powerOfTen
  split
  · next h =>
    obtain ⟨n, rfl⟩ := Int.eq_ofNat_of_zero_le h
    rw [Int.toNat_natCast, ten, zpow_natCast, Nat.cast_one, div_one]
  · next h =>
    obtain ⟨n, rfl⟩ : ∃ n : ℕ, p = -n := ⟨(-p).toNat, by omega⟩
    rw [neg_neg, Int.toNat_natCast, ten, zpow_neg, zpow_natCast, Nat.cast_one, one_div]

namespace Decimal

/-! ## The interval of a number -/

section

variable {u : ℕ}

theorem gap_le (hu : 0 < u) : gap u ≤ u := by
  unfold gap
  rcases (Binary64.gapExponent_bounds u).1 with h | h
  · rw [h, pow_zero]
    exact_mod_cast hu
  · have : 2 ^ gapExponent u ≤ u := (Nat.pow_le_pow_right (by decide) (by omega)).trans h
    exact_mod_cast this

theorem low_span (hu : 0 < u) : ((span u).low : ℚ) = 4 * (u - below u) := by
  have hg := gap_le hu
  have hg' : 2 ^ gapExponent u ≤ u := by
    unfold gap at hg
    exact_mod_cast hg
  unfold span below gap
  dsimp only
  change ((4 * u - if u = 2 ^ (52 + gapExponent u) ∧ 0 < gapExponent u then 2 ^ gapExponent u
    else 2 * 2 ^ gapExponent u : ℕ) : ℚ) = _
  split
  · rw [Nat.cast_sub (by omega)]
    push_cast
    ring
  · rw [Nat.cast_sub (by omega)]
    push_cast
    ring

theorem high_span (u : ℕ) : ((span u).high : ℚ) = 4 * (u + gap u / 2) := by
  unfold span gap
  change ((4 * u + 2 * 2 ^ gapExponent u : ℕ) : ℚ) = _
  push_cast
  ring

theorem closed_span (u : ℕ) : (span u).closed = decide (u / 2 ^ gapExponent u % 2 = 0) := rfl

/-- A decimal is in the span of a number exactly when it rounds to it. -/
theorem has_span_iff (hu : 0 < u) (p : ℤ) (c : ℕ) :
    (span u).has p c = true ↔ RoundsTo (c * 10 ^ p * one) u := by
  obtain ⟨-, hb⟩ := powerOfTen_pos p
  have hr := powerOfTen_eq p
  unfold Span.has
  generalize powerOfTen p = ab at hb hr ⊢
  obtain ⟨a, b⟩ := ab
  dsimp only at hb hr ⊢
  have hb' : (0 : ℚ) < b := by exact_mod_cast hb
  have hx : ((4 * c * a * one : ℕ) : ℚ) = 4 * (c * 10 ^ p * one) * b := by
    rw [← hr]
    generalize one = w
    push_cast
    field_simp
  have h4 : (0 : ℚ) < 4 * b := by positivity
  have hlow : ((span u).low * b : ℚ) = (u - below u) * (4 * b) := by rw [low_span hu]; ring
  have hhigh : ((span u).high * b : ℚ) = (u + gap u / 2) * (4 * b) := by rw [high_span u]; ring
  have hx' : ((4 * c * a * one : ℕ) : ℚ) = c * 10 ^ p * one * (4 * b) := by rw [hx]; ring
  have hle (m n : ℕ) : m ≤ n ↔ (m : ℚ) ≤ n := Nat.cast_le.symm
  have hlt (m n : ℕ) : m < n ↔ (m : ℚ) < n := Nat.cast_lt.symm
  rw [closed_span]
  simp only [decide_eq_true_eq, hle, hlt, Nat.cast_mul (span u).low, Nat.cast_mul (span u).high,
    hx', hlow, hhigh, mul_le_mul_iff_of_pos_right h4, mul_lt_mul_iff_of_pos_right h4]
  generalize (c : ℚ) * 10 ^ p * one = r
  by_cases he : u / 2 ^ gapExponent u % 2 = 0
  · rw [if_pos he, Bool.and_eq_true, decide_eq_true_eq, decide_eq_true_eq]
    exact ⟨fun ⟨hl, hh⟩ => ⟨hl, hh, fun ho => by omega⟩, fun h => ⟨h.low, h.high⟩⟩
  · rw [if_neg he, Bool.and_eq_true, decide_eq_true_eq, decide_eq_true_eq]
    exact ⟨fun ⟨hl, hh⟩ => ⟨hl.le, hh.le, fun _ => ⟨hl, hh⟩⟩, fun h => h.strict (by omega)⟩

end

/-! ## The leading digit -/

theorem digitCount_pos (n : ℕ) : 0 < Numeral.digitCount n :=
  List.length_pos_iff.2 Nat.toDigits_ne_nil

theorem lt_pow_digitCount (n : ℕ) : n < 10 ^ Numeral.digitCount n :=
  (Nat.length_toDigits_le_iff (by decide) (digitCount_pos n)).1 le_rfl

theorem pow_digitCount_le {n : ℕ} (hn : 0 < n) : 10 ^ (Numeral.digitCount n - 1) ≤ n := by
  by_contra h
  have hpos := digitCount_pos n
  rcases Nat.eq_zero_or_pos (Numeral.digitCount n - 1) with h0 | h0
  · rw [h0, pow_zero] at h
    omega
  · have := (Nat.length_toDigits_le_iff (by decide) h0).2 (Nat.not_le.1 h)
    unfold Numeral.digitCount at *
    omega

theorem one_pos : 0 < one := by decide +kernel

theorem one_le_tenTo : one ≤ tenTo 340 := by decide +kernel

theorem shifted_bounds {K k n : ℕ} {v : ℚ} (hl : K ≤ v * 10 ^ n) (hh : v * 10 ^ n < K + 1)
    (hK : 0 < K) (hk : k = Numeral.digitCount K) :
    (10 : ℚ) ^ ((k : ℤ) - (n + 1)) ≤ v ∧ v < 10 ^ ((k : ℤ) - (n + 1) + 1) := by
  have hpos : 0 < k := hk ▸ digitCount_pos K
  have hlow : ((10 ^ (k - 1) : ℕ) : ℚ) ≤ K := by exact_mod_cast hk ▸ pow_digitCount_le hK
  have hhigh : ((K + 1 : ℕ) : ℚ) ≤ (10 ^ k : ℕ) := by exact_mod_cast hk ▸ lt_pow_digitCount K
  push_cast at hlow hhigh
  have h10 : (0 : ℚ) < 10 ^ n := by positivity
  constructor
  · rw [← mul_le_mul_iff_of_pos_right h10, ← zpow_natCast (10 : ℚ) n, ← zpow_add₀ (by norm_num),
      show (k : ℤ) - (n + 1) + n = (k - 1 : ℕ) by omega, zpow_natCast, zpow_natCast]
    exact hlow.trans hl
  · rw [← mul_lt_mul_iff_of_pos_right h10, ← zpow_natCast (10 : ℚ) n, ← zpow_add₀ (by norm_num),
      show (k : ℤ) - (n + 1) + 1 + n = (k : ℕ) by omega, zpow_natCast, zpow_natCast]
    exact hh.trans_le hhigh

theorem leading_spec {u : ℕ} (hu : 0 < u) :
    (10 : ℚ) ^ leading u ≤ u / one ∧ (u : ℚ) / one < 10 ^ (leading u + 1) := by
  have hK : 0 < u * tenTo 340 / one :=
    Nat.div_pos (one_le_tenTo.trans (Nat.le_mul_of_pos_left _ hu)) one_pos
  have hten (n : ℕ) : (tenTo n : ℚ) = 10 ^ n := by exact_mod_cast rfl
  obtain ⟨hl, hh⟩ := floor_bounds (u * tenTo 340) one_pos
  rw [Nat.cast_mul, hten, mul_div_right_comm] at hl hh
  exact shifted_bounds hl hh hK rfl

theorem neighbours_spec (tie : Tie) (u : ℕ) (p : ℤ) :
    ∃ c : ℕ, c * (10 : ℚ) ^ p ≤ u / one ∧ (u : ℚ) / one < (c + 1) * 10 ^ p ∧
      ∀ z, z ∈ neighbours tie u p ↔ z = c ∨ z = c + 1 := by
  have hone := cast_one_pos
  obtain ⟨ha, hb⟩ := powerOfTen_pos p
  have hr := powerOfTen_eq p
  unfold neighbours
  generalize powerOfTen p = ab at ha hb hr ⊢
  obtain ⟨a, b⟩ := ab
  dsimp only at ha hb hr ⊢
  have ha' : (0 : ℚ) < a := by exact_mod_cast ha
  have hb' : (0 : ℚ) < b := by exact_mod_cast hb
  obtain ⟨hl, hh⟩ := floor_bounds (u * b) (Nat.mul_pos ha one_pos)
  have hv : ((u * b : ℕ) : ℚ) / (a * one : ℕ) = u / one / 10 ^ p := by
    rw [← hr]
    push_cast
    field_simp
  rw [hv] at hl hh
  have h10 : (0 : ℚ) < 10 ^ p := zpow_pos (by norm_num) p
  refine ⟨u * b / (a * one), ?_, ?_, fun z => ?_⟩
  · rwa [le_div_iff₀ h10] at hl
  · rwa [div_lt_iff₀ h10] at hh
  · split
    · simp
    · simp [or_comm]

/-! ## Candidates -/

/-- The decimal that is tried on the grid of `10 ^ p`. -/
def candidate? (tie : Tie) (u : ℕ) (p : ℤ) : Option ℕ :=
  (neighbours tie u p).find? ((span u).has p)

section

variable {tie : Tie} {u c j : ℕ} {p : ℤ}

theorem roundsTo_candidate (hu : 0 < u) (h : candidate? tie u p = some c) :
    RoundsTo (c * 10 ^ p * one) u :=
  (has_span_iff hu p c).1 (List.find?_some h)

theorem exists_candidate (tie : Tie) (hu : 0 < u) (h : RoundsTo (j * 10 ^ p * one) u) :
    ∃ c, candidate? tie u p = some c := by
  obtain ⟨c, hl, hh, hmem⟩ := neighbours_spec tie u p
  have hone := cast_one_pos
  have h10 : (0 : ℚ) < 10 ^ p := zpow_pos (by norm_num) p
  rw [le_div_iff₀ hone] at hl
  rw [div_lt_iff₀ hone] at hh
  have mono {m n : ℕ} (hmn : m ≤ n) : (m : ℚ) * 10 ^ p * one ≤ n * 10 ^ p * one := by
    have : (m : ℚ) ≤ n := by exact_mod_cast hmn
    exact mul_le_mul_of_nonneg_right (mul_le_mul_of_nonneg_right this h10.le) hone.le
  refine Option.isSome_iff_exists.1 (List.find?_isSome.2 ?_)
  rcases Nat.lt_or_ge c j with hlt | hge
  · refine ⟨c + 1, (hmem _).2 (.inr rfl), (has_span_iff hu p _).2 ?_⟩
    have hc : (u : ℚ) ≤ (c + 1 : ℕ) * 10 ^ p * one := by
      push_cast
      exact hh.le
    exact (Binary64.roundsTo_self u).between h hc (mono hlt)
  · refine ⟨c, (hmem _).2 (.inl rfl), (has_span_iff hu p _).2 ?_⟩
    exact h.between (Binary64.roundsTo_self u) (mono hge) hl

end

/-! ## The shortest decimal -/

def magnitude (d : Decimal) : ℚ := d.digits * 10 ^ d.exponent

theorem magnitude_trim : ∀ (fuel : ℕ) (d : Decimal), (trim fuel d).magnitude = d.magnitude
  | 0, d => rfl
  | fuel + 1, d => by
    unfold trim
    split
    · next h =>
      rw [magnitude_trim fuel]
      have hd : d.digits = 10 * (d.digits / 10) := by omega
      unfold magnitude
      rw [zpow_add₀ (by norm_num), zpow_one]
      conv_rhs => rw [hd]
      push_cast
      ring
    · rfl

theorem magnitude_shortest {tie : Tie} {u n c : ℕ} (hn : n < 17)
    (hc : candidate? tie u (leading u - n) = some c)
    (hb : ∀ m < n, candidate? tie u (leading u - m) = none) :
    (shortest tie u).magnitude = c * 10 ^ (leading u - n) := by
  obtain ⟨k, hk⟩ : ∃ k, 17 = n + (k + 1) := ⟨16 - n, by omega⟩
  have hsplit : List.range 17 = List.range n ++ n :: ((List.range k).map Nat.succ).map (n + ·) := by
    rw [hk, List.range_add, List.range_succ_eq_map, List.map_cons, Nat.add_zero]
  have hfound : (List.range 17).findSome? (fun m : ℕ =>
      (candidate? tie u (leading u - m)).map (⟨·, leading u - m⟩ : ℕ → Decimal)) =
        some ⟨c, leading u - n⟩ := by
    refine List.findSome?_eq_some_iff.2 ⟨_, n, _, hsplit, by rw [hc]; rfl, fun m hm => ?_⟩
    rw [hb m (List.mem_range.1 hm)]
    rfl
  simp only [candidate?] at hfound
  simp only [shortest, hfound, magnitude_trim, Option.getD_some]
  rfl

/-! ## Seventeen digits -/

section

variable {u : ℕ}

theorem lt_gap (u : ℕ) : (u : ℚ) < 2 ^ 53 * gap u := by
  have := (Binary64.gapExponent_bounds u).2
  rw [pow_add] at this
  unfold gap
  exact_mod_cast this

theorem le_below (u : ℕ) : (u : ℚ) / 2 ^ 54 ≤ below u := by
  have hlt := lt_gap u
  unfold below
  split
  · next h =>
    have hu : (u : ℚ) = 2 ^ 52 * gap u := by
      unfold gap
      rw [pow_add] at h
      exact_mod_cast h.1
    linarith
  · linarith

theorem exists_candidate_seventeen (tie : Tie) (hu : 0 < u) :
    ∃ c, candidate? tie u (leading u - 16) = some c := by
  obtain ⟨c, hl, hh, -⟩ := neighbours_spec tie u (leading u - 16)
  obtain ⟨htop, -⟩ := leading_spec hu
  have hone := cast_one_pos
  have hu' : (0 : ℚ) < u := by exact_mod_cast hu
  have hgrid : (10 : ℚ) ^ (leading u - 16) * 10 ^ 16 ≤ u / one := by
    rw [← zpow_natCast (10 : ℚ) 16, ← zpow_add₀ (by norm_num), Nat.cast_ofNat, sub_add_cancel]
    exact htop
  have hgap := lt_gap u
  have hbelow := le_below u
  have h10 : (0 : ℚ) < 10 ^ (leading u - 16) := zpow_pos (by norm_num) _
  rw [le_div_iff₀ hone] at hl hgrid
  rw [div_lt_iff₀ hone] at hh
  -- The nearer neighbour is at most half a step away.
  have near (j : ℕ) (hj : |(u : ℚ) - j * 10 ^ (leading u - 16) * one| ≤
      10 ^ (leading u - 16) * one / 2) : RoundsTo (j * 10 ^ (leading u - 16) * one) u := by
    obtain ⟨h1, h2⟩ := abs_le.1 hj
    have hlow : (u : ℚ) - below u < j * 10 ^ (leading u - 16) * one := by linarith
    have hhigh : (j : ℚ) * 10 ^ (leading u - 16) * one < u + gap u / 2 := by linarith
    exact ⟨hlow.le, hhigh.le, fun _ => ⟨hlow, hhigh⟩⟩
  by_cases hc : (u : ℚ) - c * 10 ^ (leading u - 16) * one ≤ 10 ^ (leading u - 16) * one / 2
  · exact exists_candidate tie hu (near c (abs_le.2 ⟨by linarith, hc⟩))
  · refine exists_candidate tie hu (near (c + 1) (abs_le.2 ⟨?_, ?_⟩))
    · push_cast
      linarith
    · push_cast
      linarith

theorem exists_first_candidate (tie : Tie) (hu : 0 < u) :
    ∃ n c : ℕ, n < 17 ∧ candidate? tie u (leading u - n) = some c ∧
      ∀ m : ℕ, m < n → candidate? tie u (leading u - m) = none := by
  obtain ⟨c, hc⟩ := exists_candidate_seventeen tie hu
  have hex : ∃ n : ℕ, (candidate? tie u (leading u - n)).isSome := ⟨16, by simp [hc]⟩
  have hmin : ∀ m < Nat.find hex, candidate? tie u (leading u - m) = none := fun m hm =>
    Option.not_isSome_iff_eq_none.1 (Nat.find_min hex hm)
  have hle : Nat.find hex ≤ 16 := Nat.find_le (by simp [hc])
  obtain ⟨c, hc⟩ := Option.isSome_iff_exists.1 (Nat.find_spec hex)
  exact ⟨Nat.find hex, c, by omega, hc, hmin⟩

theorem roundsTo_shortest (tie : Tie) (hu : 0 < u) :
    RoundsTo ((shortest tie u).magnitude * one) u := by
  obtain ⟨n, c, hn, hc, hb⟩ := exists_first_candidate tie hu
  rw [magnitude_shortest hn hc hb]
  exact roundsTo_candidate hu hc

/-! ## How far the digits go -/

theorem mem_neighbours {tie : Tie} {c : ℕ} {p : ℤ} (h : candidate? tie u p = some c) :
    c ∈ neighbours tie u p := by
  unfold candidate? at h
  exact List.mem_of_find?_eq_some h

theorem exists_short (tie : Tie) (hu : 0 < u) :
    ∃ (c : ℕ) (p : ℤ), c ≤ 10 ^ 17 ∧ (shortest tie u).magnitude = c * 10 ^ p := by
  obtain ⟨n, c, hn, hc, hb⟩ := exists_first_candidate tie hu
  refine ⟨c, leading u - n, ?_, magnitude_shortest hn hc hb⟩
  obtain ⟨b, hl, -, hmem⟩ := neighbours_spec tie u (leading u - n)
  have hcb := (hmem c).1 (mem_neighbours hc)
  have hlt := hl.trans_lt (leading_spec hu).2
  have hsplit : leading u + 1 = ((n + 1 : ℕ) : ℤ) + (leading u - n) := by
    generalize leading u = top
    push_cast
    ring
  rw [hsplit, zpow_add₀ (by norm_num), mul_lt_mul_iff_of_pos_right (zpow_pos (by norm_num) _),
    zpow_natCast] at hlt
  have hb : b < 10 ^ (n + 1) := by exact_mod_cast hlt
  have hpow : 10 ^ (n + 1) ≤ 10 ^ 17 := Nat.pow_le_pow_right (by decide) (by omega)
  omega

theorem magnitude_shortest_whole (tie : Tie) {k : ℕ} (hk : 0 < k) :
    ∃ m : ℕ, (shortest tie (k * one)).magnitude = m := by
  have hu : 0 < k * one := Nat.mul_pos hk one_pos
  obtain ⟨n, c, hn, hc, hb⟩ := exists_first_candidate tie hu
  have htop : 0 ≤ leading (k * one) := by
    by_contra hlt
    have hone := cast_one_pos
    have hle : (10 : ℚ) ^ (leading (k * one) + 1) ≤ 10 ^ (0 : ℤ) :=
      zpow_le_zpow_right₀ (by norm_num) (by omega)
    have hlt := (leading_spec hu).2.trans_le hle
    rw [Nat.cast_mul, mul_div_assoc, div_self hone.ne', mul_one, zpow_zero] at hlt
    have : k < 1 := by exact_mod_cast hlt
    omega
  have hp : 0 ≤ leading (k * one) - n := by
    by_contra hlt
    have hgrid : RoundsTo (k * 10 ^ (0 : ℤ) * one) (k * one) := by
      rw [zpow_zero, mul_one, ← Nat.cast_mul]
      exact Binary64.roundsTo_self _
    obtain ⟨a, ha⟩ := exists_candidate tie hu hgrid
    have hnone := hb (leading (k * one)).toNat (by omega)
    rw [Int.toNat_of_nonneg htop, sub_self, ha] at hnone
    exact absurd hnone (by simp)
  obtain ⟨m, hm⟩ := Int.eq_ofNat_of_zero_le hp
  refine ⟨c * 10 ^ m, ?_⟩
  rw [magnitude_shortest hn hc hb, hm, zpow_natCast]
  push_cast
  rfl

/-! ## Decimals that are printed as they are -/

/-- A grid that is wider than the gap has one point at most that rounds to a number. -/
theorem eq_of_roundsTo {a b : ℕ} {g : ℤ} (hg : gap u < 10 ^ g * one)
    (ha : RoundsTo (a * 10 ^ g * one) u) (hb : RoundsTo (b * 10 ^ g * one) u) : a = b := by
  have key {a b : ℕ} (ha : RoundsTo (a * 10 ^ g * one) u) (hb : RoundsTo (b * 10 ^ g * one) u) :
      a ≤ b := by
    by_contra hlt
    have hab : ((b + 1 : ℕ) : ℚ) ≤ a := by exact_mod_cast Nat.not_le.1 hlt
    have hsub := hb.sub_le ha
    have hpos : (0 : ℚ) < 10 ^ g * one := hg.trans' (by unfold gap; positivity)
    have hmul := mul_le_mul_of_nonneg_right hab hpos.le
    push_cast at hmul
    linarith
  exact Nat.le_antisymm (key ha hb) (key hb ha)

theorem exists_trimmed {d : ℕ} (hd : 0 < d) : ∃ d' j, d = d' * 10 ^ j ∧ d' % 10 ≠ 0 := by
  induction d using Nat.strong_induction_on with
  | _ d ih =>
    by_cases h : d % 10 = 0
    · obtain ⟨d', j, hd', hmod⟩ := ih (d / 10) (by omega) (by omega)
      refine ⟨d', j + 1, ?_, hmod⟩
      rw [pow_succ, ← mul_assoc, ← hd']
      omega
    · exact ⟨d, 0, by simp, h⟩

theorem finer_grid (d : ℕ) {q g : ℤ} (h : g ≤ q) :
    (d : ℚ) * 10 ^ q = (d * 10 ^ (q - g).toNat : ℕ) * 10 ^ g := by
  push_cast
  rw [mul_assoc, ← zpow_natCast, ← zpow_add₀ (by norm_num)]
  congr 2
  omega

theorem magnitude_shortest_of_gap {tie : Tie} {d : ℕ} {q : ℤ} (hu : 0 < u) (hd : d % 10 ≠ 0)
    (hr : RoundsTo (d * 10 ^ q * one) u) (hn : leading u - q < 17)
    (hg : gap u < 10 ^ min q (leading u) * one) :
    (shortest tie u).magnitude = d * 10 ^ q := by
  have hgrid : leading u - (leading u - q).toNat = min q (leading u) := by omega
  have hpoint := finer_grid d (min_le_left q (leading u))
  have hr' := hr
  rw [hpoint] at hr'
  obtain ⟨c, hc⟩ := exists_candidate tie hu hr'
  have hcd : c = d * 10 ^ (q - min q (leading u)).toNat :=
    eq_of_roundsTo hg (roundsTo_candidate hu hc) hr'
  have hb : ∀ m : ℕ, m < (leading u - q).toNat → candidate? tie u (leading u - m) = none := by
    intro m hm
    have hq : min q (leading u) = q := by omega
    refine Option.eq_none_iff_forall_ne_some.2 fun b hb => hd ?_
    -- A decimal of a coarser grid would be the same point and end in a zero.
    have hround := roundsTo_candidate hu hb
    rw [finer_grid b (g := q) (by omega)] at hround
    rw [hq] at hg
    have hdb : d = b * 10 ^ (leading u - m - q).toNat := eq_of_roundsTo hg hr hround
    have hpos : 0 < (leading u - m - q).toNat := by
      generalize leading u = top at hm ⊢
      omega
    obtain ⟨k, hk⟩ := Nat.exists_eq_add_one.2 hpos
    rw [hdb, hk, pow_succ, ← mul_assoc]
    exact Nat.mul_mod_left _ 10
  rw [← hgrid] at hc
  rw [magnitude_shortest (by omega) hc hb, hgrid, hcd, hpoint]

/-- The last decimal place whose unit is more than the smallest gap. -/
def lastPlace : ℤ := -(323 : ℕ)

theorem tenTo_zpow (n : ℕ) : (tenTo n : ℚ) = 10 ^ (n : ℤ) := by
  rw [zpow_natCast]
  exact_mod_cast rfl

theorem lastPlace_bounds : (2 : ℚ) ≤ 10 ^ lastPlace * one ∧ 10 ^ lastPlace * one < (3 : ℚ) := by
  have hl : 2 * tenTo 323 ≤ one := by decide +kernel
  have hh : one < 3 * tenTo 323 := by decide +kernel
  have hpos : (0 : ℚ) < tenTo 323 := by
    rw [tenTo_zpow]
    exact zpow_pos (by norm_num) _
  rw [lastPlace, zpow_neg, ← tenTo_zpow, inv_mul_eq_div, le_div_iff₀ hpos, div_lt_iff₀ hpos]
  exact ⟨by exact_mod_cast hl, by exact_mod_cast hh⟩

theorem half_le (hu : 0 < u) {r : ℚ} (hr : RoundsTo r u) : (u : ℚ) / 2 ≤ r := by
  have hgap := gap_le hu
  have hbelow := Binary64.below_le u
  linarith only [hr.low, hgap, hbelow]

/-- Two units begin below the last place, and one decimal above it rounds to them. -/
theorem magnitude_shortest_two (tie : Tie) {c : ℕ} {q : ℤ} (hq : lastPlace ≤ q)
    (hr : RoundsTo (c * 10 ^ q * one) 2) : (shortest tie 2).magnitude = c * 10 ^ q := by
  have hshort : shortest tie 2 = ⟨1, lastPlace⟩ := by cases tie <;> decide +kernel
  have hg : gap 2 = 1 := by rw [gap, show gapExponent 2 = 0 from by decide, pow_zero]
  rw [finer_grid c hq] at hr ⊢
  have hhigh := hr.high
  have hhalf := half_le (by decide) hr
  rw [hg, Nat.cast_ofNat] at hhigh
  generalize c * 10 ^ (q - lastPlace).toNat = n at hhigh hhalf ⊢
  have hn : n = 1 := by
    have hne : n ≠ 0 := by
      rintro rfl
      rw [Nat.cast_zero, zero_mul, zero_mul] at hhalf
      norm_num at hhalf
    have hlt : n < 2 := by
      by_contra hge
      have hn2 : (2 : ℚ) ≤ n := by exact_mod_cast Nat.not_lt.1 hge
      have hplace := lastPlace_bounds.1
      rw [mul_assoc] at hhigh
      have hmul := mul_le_mul hn2 hplace zero_le_two (Nat.cast_nonneg n)
      linarith only [hmul, hhigh]
    omega
  rw [hshort, hn, magnitude]

theorem leading_sub_lt (hu : 0 < u) {c : ℕ} (hc : c < 10 ^ 15) {q : ℤ}
    (hr : RoundsTo (c * 10 ^ q * one) u) : leading u - q < 17 := by
  have hone := cast_one_pos
  have hhalf := half_le hu hr
  have hc15 : (c : ℚ) < 10 ^ 15 := by exact_mod_cast hc
  by_contra hge
  have hle : (10 : ℚ) ^ (q + 17) ≤ 10 ^ leading u := zpow_le_zpow_right₀ (by norm_num) (by omega)
  rw [zpow_add₀ (by norm_num)] at hle
  have hwide := hle.trans (leading_spec hu).1
  have hstep : (0 : ℚ) < 10 ^ q * one := mul_pos (zpow_pos (by norm_num) _) hone
  rw [le_div_iff₀ hone, mul_right_comm] at hwide
  rw [mul_assoc] at hhalf
  generalize (10 : ℚ) ^ q * one = step at hhalf hwide hstep
  have hmul := mul_lt_mul_of_pos_right hc15 hstep
  norm_num at hwide hmul
  linarith only [hwide, hmul, hhalf, hstep]

/-- Only one unit and two begin below the last place, and no decimal rounds to one unit. -/
theorem lastPlace_le_leading (hu : 0 < u) (hu2 : u ≠ 2) (hg : gap u = 1) {c : ℕ} (hc0 : c ≠ 0)
    {q : ℤ} (hq : lastPlace ≤ q) (hr : RoundsTo (c * 10 ^ q * one) u) :
    lastPlace ≤ leading u := by
  have hone := cast_one_pos
  have hc1 : (1 : ℚ) ≤ c := by exact_mod_cast Nat.one_le_iff_ne_zero.2 hc0
  have hpow : (0 : ℚ) < 10 ^ q := zpow_pos (by norm_num) _
  obtain ⟨hl2, hl3⟩ := lastPlace_bounds
  by_contra hlt
  have hle : (10 : ℚ) ^ (leading u + 1) ≤ 10 ^ lastPlace :=
    zpow_le_zpow_right₀ (by norm_num) (by omega)
  have hlt3 := (leading_spec hu).2.trans_le hle
  rw [div_lt_iff₀ hone] at hlt3
  have hu3 : u < 3 := by exact_mod_cast hlt3.trans hl3
  obtain rfl : u = 1 := by omega
  have hhigh := hr.high
  rw [hg, Nat.cast_one] at hhigh
  have hlast : (10 : ℚ) ^ lastPlace ≤ 10 ^ q := zpow_le_zpow_right₀ (by norm_num) hq
  have hplace := mul_le_mul_of_nonneg_right hlast hone.le
  have hcount := mul_le_mul_of_nonneg_right (le_mul_of_one_le_left hpow.le hc1) hone.le
  linarith only [hl2, hplace, hcount, hhigh]

theorem gap_lt_grid (hu : 0 < u) (hu2 : u ≠ 2) {c : ℕ} (hc : c < 10 ^ 15) (hc0 : c ≠ 0) {q : ℤ}
    (hq : lastPlace ≤ q) (hr : RoundsTo (c * 10 ^ q * one) u) :
    gap u < 10 ^ min q (leading u) * one := by
  have hone := cast_one_pos
  rcases (Binary64.gapExponent_bounds u).1 with he | he
  · have hg : gap u = 1 := by rw [gap, he, pow_zero]
    have htop := lastPlace_le_leading hu hu2 hg hc0 hq hr
    have hmin : (10 : ℚ) ^ lastPlace ≤ 10 ^ min q (leading u) :=
      zpow_le_zpow_right₀ (by norm_num) (le_min hq htop)
    have hwide := mul_le_mul_of_nonneg_right hmin hone.le
    obtain ⟨hl2, -⟩ := lastPlace_bounds
    rw [hg]
    linarith only [hwide, hl2]
  · have hgu : 2 ^ 52 * gap u ≤ u := by
      rw [pow_add] at he
      unfold gap
      exact_mod_cast he
    have hpos : (0 : ℚ) < gap u := by unfold gap; positivity
    rcases min_choice q (leading u) with h | h
    · rw [h]
      have hhalf := half_le hu hr
      have hc15 : (c : ℚ) < 10 ^ 15 := by exact_mod_cast hc
      have hstep : (0 : ℚ) < 10 ^ q * one := mul_pos (zpow_pos (by norm_num) _) hone
      rw [mul_assoc] at hhalf
      generalize (10 : ℚ) ^ q * one = step at hhalf hstep ⊢
      have hmul := mul_lt_mul_of_pos_right hc15 hstep
      norm_num at hmul hgu
      linarith only [hmul, hgu, hhalf, hstep]
    · rw [h]
      obtain ⟨-, htop⟩ := leading_spec hu
      rw [zpow_add₀ (by norm_num), zpow_one, div_lt_iff₀ hone] at htop
      linarith only [hgu.trans_lt htop, hpos]

/-- Fifteen digits come back as they are, down to the last place. -/
theorem magnitude_shortest_of_fifteen {tie : Tie} {d : ℕ} {q : ℤ} (hu : 0 < u) (hd : d < 10 ^ 15)
    (hq : lastPlace ≤ q) (hr : RoundsTo (d * 10 ^ q * one) u) :
    (shortest tie u).magnitude = d * 10 ^ q := by
  have hdpos : 0 < d := by
    refine Nat.pos_of_ne_zero ?_
    rintro rfl
    have hhalf := half_le hu hr
    have hu' : (0 : ℚ) < u := by exact_mod_cast hu
    rw [Nat.cast_zero, zero_mul, zero_mul] at hhalf
    linarith only [hhalf, hu']
  obtain ⟨c, j, hc, hmod⟩ := exists_trimmed hdpos
  have hX : (d : ℚ) * 10 ^ q = c * 10 ^ (q + j) := by
    rw [hc, zpow_add₀ (by norm_num), zpow_natCast]
    push_cast
    ring
  have hc0 : c ≠ 0 := by
    rintro rfl
    exact hmod rfl
  have hcd : c < 10 ^ 15 :=
    (Nat.le_mul_of_pos_right c (Nat.pow_pos (by decide))).trans_lt (hc ▸ hd)
  rw [hX] at hr ⊢
  by_cases hu2 : u = 2
  · subst hu2
    exact magnitude_shortest_two tie (by omega) hr
  · exact magnitude_shortest_of_gap hu hmod hr (leading_sub_lt hu hcd hr)
      (gap_lt_grid hu hu2 hcd hc0 (by omega) hr)

end

end Decimal

end SheetExport
