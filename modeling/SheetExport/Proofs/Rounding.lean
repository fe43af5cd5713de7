import Mathlib.Algebra.Order.Floor.Semifield
import Mathlib.Data.Rat.Floor
import Mathlib.Tactic.FieldSimp
import Mathlib.Tactic.Linarith
import Mathlib.Tactic.Positivity
import Mathlib.Tactic.Ring
import SheetExport.Binary64

/-!
# Which reals round to a number

A magnitude is counted in units, and a quotient of units is rounded to the number in whose interval
it lies. The interval ends halfway to the neighbours. Its ends belong to it when the number is even.
-/

namespace SheetExport.Binary64

theorem cast_one_pos : (0 : ℚ) < one := Nat.cast_pos.2 (twoTo_pos 1074)

theorem floor_bounds (num : ℕ) {den : ℕ} (hd : 0 < den) :
    ((num / den : ℕ) : ℚ) ≤ num / den ∧ (num : ℚ) / den < (num / den : ℕ) + 1 := by
  have hfloor : ⌊(num : ℚ) / den⌋₊ = num / den := Nat.floor_div_eq_div num den
  exact ⟨hfloor ▸ Nat.floor_le (by positivity), hfloor ▸ Nat.lt_floor_add_one _⟩

/-! ## The nearest natural number -/

/-- Halves are rounded to even numbers. -/
structure Nearest (t : ℚ) (n : ℕ) : Prop where
  low : n - 1 / 2 ≤ t
  high : t ≤ n + 1 / 2
  strict : n % 2 = 1 → (n : ℚ) - 1 / 2 < t ∧ t < n + 1 / 2

theorem Nearest.le {t : ℚ} {m n : ℕ} (hm : Nearest t m) (hn : Nearest t n) : m ≤ n := by
  by_contra hlt
  have hmn : ((n + 1 : ℕ) : ℚ) ≤ m := by exact_mod_cast Nat.not_le.1 hlt
  have h1 := hm.low
  have h2 := hn.high
  push_cast at hmn
  -- Only a half between the two leaves room, and one of two neighbours is odd.
  have heq : m = n + 1 := by
    have : (m : ℚ) < (n + 2 : ℕ) := by push_cast; linarith
    have : m < n + 2 := by exact_mod_cast this
    omega
  rcases Nat.mod_two_eq_zero_or_one n with he | ho
  · have := (hm.strict (by omega)).1
    linarith
  · have := (hn.strict ho).2
    linarith

theorem Nearest.unique {t : ℚ} {m n : ℕ} (hm : Nearest t m) (hn : Nearest t n) : m = n :=
  Nat.le_antisymm (hm.le hn) (hn.le hm)

theorem nearest_nearest (num : ℕ) {den : ℕ} (hd : 0 < den) :
    Nearest (num / den) (nearest num den) := by
  have hpos : (0 : ℚ) < den := by exact_mod_cast hd
  have hsum : (num : ℚ) / den = (num / den : ℕ) + (num % den : ℕ) / den := by
    have := Nat.div_add_mod num den
    field_simp
    exact_mod_cast this.symm
  have hlt : num % den < den := Nat.mod_lt num hd
  rw [hsum, nearest]
  generalize num / den = q
  generalize num % den = r at hlt ⊢
  have hx0 : (0 : ℚ) ≤ r / den := by positivity
  have hx1 : (r : ℚ) / den < 1 := by
    rw [div_lt_one hpos]
    exact_mod_cast hlt
  have hhalf : (r : ℚ) / den < 1 / 2 ↔ 2 * r < den := by
    rw [div_lt_div_iff₀ hpos (by norm_num), one_mul, mul_comm]
    exact_mod_cast Iff.rfl
  have htie : (r : ℚ) / den = 1 / 2 ↔ 2 * r = den := by
    rw [div_eq_div_iff hpos.ne' (by norm_num), one_mul, mul_comm]
    exact_mod_cast Iff.rfl
  split
  · next h =>
    rw [← hhalf, ← htie] at h
    rcases h with h | ⟨h, heven⟩
    · exact ⟨by linarith, by linarith, fun _ => ⟨by linarith, by linarith⟩⟩
    · exact ⟨by linarith, by linarith, fun hodd => by omega⟩
  · next h =>
    rw [← hhalf, ← htie, not_or, not_lt, not_and] at h
    obtain ⟨hge, hodd⟩ := h
    refine ⟨by push_cast; linarith, by push_cast; linarith, fun hq => ?_⟩
    have hgt : 1 / 2 < (r : ℚ) / den := lt_of_le_of_ne hge fun h => hodd h.symm (by omega)
    push_cast
    exact ⟨by linarith, by linarith⟩

theorem nearest_eq {num den n : ℕ} (hd : 0 < den) (h : Nearest (num / den) n) :
    nearest num den = n := (nearest_nearest num hd).unique h

theorem nearest_natCast (n : ℕ) : Nearest n n :=
  ⟨by linarith, by linarith, fun _ => ⟨by linarith, by linarith⟩⟩

/-! ## Numbers of the format -/

/-- The distance to the next larger number of the format. -/
def gap (u : ℕ) : ℚ := 2 ^ gapExponent u

/-- A magnitude of the format, apart from its upper end. -/
structure Counted (u n e : ℕ) : Prop where
  eq : u = n * 2 ^ e
  lt : n < 2 ^ 53
  normal : e = 0 ∨ 2 ^ 52 ≤ n

theorem log2_eq {n k : ℕ} (hl : 2 ^ k ≤ n) (hr : n < 2 ^ (k + 1)) : n.log2 = k :=
  (Nat.log2_eq_iff (by have := Nat.two_pow_pos k; omega)).2 ⟨hl, hr⟩

/-- A real between a number of the format and the next power of two has the gap of the number. -/
theorem gapExponent_of {q e : ℕ} (hl : e = 0 ∨ 2 ^ (52 + e) ≤ q) (hr : q < 2 ^ (53 + e)) :
    gapExponent q = e := by
  unfold gapExponent
  rcases hl with rfl | hl
  · rcases Nat.eq_zero_or_pos q with rfl | hq
    · simp
    · have := (Nat.log2_lt hq.ne').2 hr
      omega
  · rw [log2_eq hl (by rwa [show 52 + e + 1 = 53 + e by omega])]
    omega

theorem Counted.gapExponent_eq {u n e : ℕ} (h : Counted u n e) : gapExponent u = e := by
  obtain ⟨rfl, hlt, hn⟩ := h
  have hp := Nat.two_pow_pos e
  refine gapExponent_of ?_ ?_
  · rcases hn with rfl | hn
    · exact .inl rfl
    · rw [pow_add]
      exact .inr (Nat.mul_le_mul_right _ hn)
  · rw [pow_add]
    exact Nat.mul_lt_mul_of_pos_right hlt hp

/-- How far the reals that round to a number of the format reach below it. -/
def below (u : ℕ) : ℚ :=
  if u = 2 ^ (52 + gapExponent u) ∧ 0 < gapExponent u then gap u / 4 else gap u / 2

/-- A real rounds to a number of the format, one in the middle to the even one. -/
structure RoundsTo (r : ℚ) (u : ℕ) : Prop where
  low : u - below u ≤ r
  high : r ≤ u + gap u / 2
  strict : u / 2 ^ gapExponent u % 2 = 1 → u - below u < r ∧ r < u + gap u / 2

theorem gapExponent_bounds (q : ℕ) :
    (gapExponent q = 0 ∨ 2 ^ (52 + gapExponent q) ≤ q) ∧ q < 2 ^ (53 + gapExponent q) := by
  have hlt : q < 2 ^ (q.log2 + 1) := Nat.lt_log2_self
  have hmono : 2 ^ (q.log2 + 1) ≤ 2 ^ (53 + gapExponent q) :=
    Nat.pow_le_pow_right (by decide) (by unfold gapExponent; omega)
  refine ⟨?_, hlt.trans_le hmono⟩
  by_cases h : q.log2 ≤ 52
  · exact .inl (by unfold gapExponent; omega)
  · have hq : q ≠ 0 := by
      rintro rfl
      exact h (by decide)
    have he : 52 + gapExponent q = q.log2 := by unfold gapExponent; omega
    rw [he]
    exact .inr (Nat.log2_self_le hq)

section

variable {u : ℕ} {r s x : ℚ}

theorem below_le (u : ℕ) : below u ≤ gap u / 2 := by
  have : (0 : ℚ) < gap u := by unfold gap; positivity
  unfold below
  split <;> linarith

theorem below_ge (u : ℕ) : gap u / 4 ≤ below u := by
  have : (0 : ℚ) < gap u := by unfold gap; positivity
  unfold below
  split <;> linarith

theorem RoundsTo.between (hr : RoundsTo r u) (hs : RoundsTo s u) (h : r ≤ x) (h' : x ≤ s) :
    RoundsTo x u :=
  ⟨hr.low.trans h, h'.trans hs.high, fun ho =>
    ⟨(hr.strict ho).1.trans_le h, h'.trans_lt (hs.strict ho).2⟩⟩

theorem roundsTo_self (u : ℕ) : RoundsTo (u : ℚ) u := by
  have hg : (0 : ℚ) < gap u := by unfold gap; positivity
  have hb := below_ge u
  exact ⟨by linarith, by linarith, fun _ => ⟨by linarith, by linarith⟩⟩

theorem RoundsTo.sub_le (hr : RoundsTo r u) (hs : RoundsTo s u) : s - r ≤ gap u := by
  have := below_le u
  have := hr.low
  have := hs.high
  linarith

end

theorem roundUnits_spec (num : ℕ) {den : ℕ} (hd : 0 < den) :
    ∃ n e, roundUnits num den = n * 2 ^ e ∧ Nearest (num / den / 2 ^ e) n ∧
      (num : ℚ) / den / 2 ^ e < 2 ^ 53 ∧ (e = 0 ∨ (2 : ℚ) ^ 52 ≤ num / den / 2 ^ e) := by
  obtain ⟨hlow, hhigh⟩ := floor_bounds num hd
  obtain ⟨hl, hr⟩ := gapExponent_bounds (num / den)
  refine ⟨_, gapExponent (num / den), rfl, ?_, ?_, ?_⟩
  · have := nearest_nearest num (Nat.mul_pos hd (Nat.two_pow_pos (gapExponent (num / den))))
    rwa [Nat.cast_mul, ← div_div, Nat.cast_pow, Nat.cast_ofNat] at this
  · rw [div_lt_iff₀ (by positivity), ← pow_add]
    have : ((num / den : ℕ) : ℚ) + 1 ≤ 2 ^ (53 + gapExponent (num / den)) := by exact_mod_cast hr
    linarith
  · refine hl.imp_right fun hl => ?_
    rw [le_div_iff₀ (by positivity), ← pow_add]
    have : (2 : ℚ) ^ (52 + gapExponent (num / den)) ≤ (num / den : ℕ) := by exact_mod_cast hl
    linarith

/-- How far below a number the reals that round to it reach, in its gaps. -/
def reach (n e : ℕ) : ℚ := if n = 2 ^ 52 ∧ 0 < e then 1 / 4 else 1 / 2

theorem Counted.roundsTo_iff {u n e : ℕ} (h : Counted u n e) {r : ℚ} :
    RoundsTo r u ↔ n - reach n e ≤ r / 2 ^ e ∧ r / 2 ^ e ≤ n + 1 / 2 ∧
      (n % 2 = 1 → n - reach n e < r / 2 ^ e ∧ r / 2 ^ e < n + 1 / 2) := by
  have hp : (0 : ℚ) < 2 ^ e := by positivity
  have hg : gap u = 2 ^ e := by rw [gap, h.gapExponent_eq]
  have hu : (u : ℚ) = n * 2 ^ e := by rw [h.eq]; push_cast; rfl
  have hb : below u = reach n e * 2 ^ e := by
    have hpow : u = 2 ^ (52 + e) ↔ n = 2 ^ 52 := by
      rw [h.eq, pow_add, Nat.mul_left_inj (Nat.two_pow_pos e).ne']
    simp only [below, reach, h.gapExponent_eq, hpow, hg]
    split <;> ring
  have hn : u / 2 ^ gapExponent u = n := by
    rw [h.gapExponent_eq, h.eq, Nat.mul_div_cancel _ (Nat.two_pow_pos e)]
  have hlow : (u : ℚ) - below u = (n - reach n e) * 2 ^ e := by rw [hu, hb]; ring
  have hhigh : (u : ℚ) + gap u / 2 = (n + 1 / 2) * 2 ^ e := by rw [hu, hg]; ring
  rw [le_div_iff₀ hp, div_le_iff₀ hp, lt_div_iff₀ hp, div_lt_iff₀ hp, ← hlow, ← hhigh]
  constructor
  · rintro ⟨hl, hh, hs⟩
    exact ⟨hl, hh, hn ▸ hs⟩
  · rintro ⟨hl, hh, hs⟩
    exact ⟨hl, hh, hn.symm ▸ hs⟩

theorem roundUnits_counted (num : ℕ) {den : ℕ} (hd : 0 < den) :
    (∃ n e, Counted (roundUnits num den) n e) ∧ RoundsTo (num / den) (roundUnits num den) := by
  obtain ⟨n, e, hu, hn, hlt, he⟩ := roundUnits_spec num hd
  obtain ⟨hl, hh, hs⟩ := hn
  rw [hu]
  have hmax : n ≤ 2 ^ 53 := by
    have : (n : ℚ) < (2 ^ 53 + 1 : ℕ) := by push_cast; linarith
    have : n < 2 ^ 53 + 1 := by exact_mod_cast this
    omega
  have hmin : e = 0 ∨ 2 ^ 52 ≤ n := by
    refine he.imp_right fun he => ?_
    have : ((2 ^ 52 : ℕ) : ℚ) < (n + 1 : ℕ) := by push_cast; linarith
    have : 2 ^ 52 < n + 1 := by exact_mod_cast this
    omega
  rcases Nat.lt_or_eq_of_le hmax with hn | rfl
  · have hc : Counted (n * 2 ^ e) n e := ⟨rfl, hn, hmin⟩
    refine ⟨⟨n, e, hc⟩, hc.roundsTo_iff.2 ?_⟩
    by_cases hr : n = 2 ^ 52 ∧ 0 < e
    · -- Nothing below a power of two is rounded with its gap.
      have hpow : (n : ℚ) ≤ num / den / 2 ^ e := by
        rw [hr.1]
        exact_mod_cast he.resolve_left hr.2.ne'
      have hreach : reach n e = 1 / 4 := if_pos hr
      exact ⟨by linarith, hh, fun ho => ⟨by linarith, (hs ho).2⟩⟩
    · have hreach : reach n e = 1 / 2 := if_neg hr
      rw [hreach]
      exact ⟨hl, hh, hs⟩
  · have hc : Counted (2 ^ 53 * 2 ^ e) (2 ^ 52) (e + 1) :=
      ⟨by rw [pow_succ 2 e]; ring, by norm_num, .inr le_rfl⟩
    refine ⟨⟨2 ^ 52, e + 1, hc⟩, hc.roundsTo_iff.2 ?_⟩
    have hreach : reach (2 ^ 52) (e + 1) = 1 / 4 := if_pos ⟨rfl, Nat.succ_pos e⟩
    have hhalf : (num : ℚ) / den / 2 ^ (e + 1) = num / den / 2 ^ e / 2 := by
      rw [pow_succ, div_div _ _ (2 : ℚ)]
    rw [hreach, hhalf]
    push_cast at hl ⊢
    exact ⟨by linarith, by linarith, fun ho => by norm_num at ho⟩

/-- A real fixes the gap in which it is rounded. -/
theorem exponent_unique {r : ℚ} {e f : ℕ} (he : r / 2 ^ e < 2 ^ 53)
    (he' : e = 0 ∨ (2 : ℚ) ^ 52 ≤ r / 2 ^ e) (hf : r / 2 ^ f < 2 ^ 53)
    (hf' : f = 0 ∨ (2 : ℚ) ^ 52 ≤ r / 2 ^ f) : e = f := by
  have key : ∀ {e f : ℕ}, r / 2 ^ e < 2 ^ 53 → (f = 0 ∨ (2 : ℚ) ^ 52 ≤ r / 2 ^ f) → f ≤ e := by
    intro e f he hf
    by_contra hlt
    have hf := hf.resolve_left (by omega)
    rw [div_lt_iff₀ (by positivity), ← pow_add] at he
    rw [le_div_iff₀ (by positivity), ← pow_add] at hf
    have : (2 : ℚ) ^ (53 + e) ≤ 2 ^ (52 + f) := pow_le_pow_right₀ (by norm_num) (by omega)
    linarith
  exact Nat.le_antisymm (key hf he') (key he hf')

theorem Counted.roundUnits_eq {u n e : ℕ} (h : Counted u n e) {num den : ℕ} (hd : 0 < den)
    (hr : RoundsTo (num / den) u) : roundUnits num den = u := by
  obtain ⟨n', e', hu, hn', hlt', he'⟩ := roundUnits_spec num hd
  obtain ⟨hl, hh, hs⟩ := h.roundsTo_iff.1 hr
  rw [hu]
  generalize (num : ℚ) / den = r at *
  have hmax : (n : ℚ) + 1 ≤ 2 ^ 53 := by exact_mod_cast h.lt
  by_cases hpow : n = 2 ^ 52 ∧ 0 < e ∧ r / 2 ^ e < n
  · -- Below a power of two a real is rounded with half the gap, up to the power.
    obtain ⟨rfl, hpos, hlt⟩ := hpow
    obtain ⟨f, rfl⟩ : ∃ f, e = f + 1 := ⟨e - 1, by omega⟩
    have hreach : reach (2 ^ 52) (f + 1) = 1 / 4 := if_pos ⟨rfl, Nat.succ_pos f⟩
    have hdouble : r / 2 ^ f = 2 * (r / 2 ^ (f + 1)) := by rw [pow_succ]; field_simp
    rw [hreach] at hl
    push_cast at hl hlt
    have hf : e' = f := exponent_unique hlt' he' (by rw [hdouble]; linarith)
      (.inr (by rw [hdouble]; linarith))
    subst hf
    have : n' = 2 ^ 53 := hn'.unique
      ⟨by push_cast; linarith, by push_cast; linarith, fun ho => by norm_num at ho⟩
    rw [this, h.eq, pow_succ 2 e']
    ring
  · have hnear : Nearest (r / 2 ^ e) n := by
      by_cases hp : n = 2 ^ 52 ∧ 0 < e
      · have hge : (n : ℚ) ≤ r / 2 ^ e := not_lt.1 fun hlt => hpow ⟨hp.1, hp.2, hlt⟩
        exact ⟨by linarith, hh, fun ho => ⟨by linarith, (hs ho).2⟩⟩
      · have hreach : reach n e = 1 / 2 := if_neg hp
        rw [hreach] at hl hs
        exact ⟨hl, hh, hs⟩
    have hnormal : e = 0 ∨ (2 : ℚ) ^ 52 ≤ r / 2 ^ e := by
      rcases Nat.eq_zero_or_pos e with he | he
      · exact .inl he
      rcases Nat.eq_or_lt_of_le (h.normal.resolve_left he.ne') with heq | hlt
      · have hge : (n : ℚ) ≤ r / 2 ^ e := not_lt.1 fun hlt => hpow ⟨heq.symm, he, hlt⟩
        rw [← heq] at hge
        exact .inr (by exact_mod_cast hge)
      · have : ((2 ^ 52 : ℕ) : ℚ) + 1 ≤ n := by exact_mod_cast hlt
        push_cast at this
        exact .inr (by linarith [hnear.low])
    have he : e' = e := exponent_unique hlt' he' (by linarith) hnormal
    subst he
    rw [hn'.unique hnear, h.eq]

end SheetExport.Binary64
