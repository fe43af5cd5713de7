import SheetExport.Proofs.NearestNumerals
import SheetExport.Proofs.NumberTokens

/-!
# Number literals are numerals

What is written for a number is one numeral from its first character to its last, with the sign of
the number and the magnitude of its shortest decimal.
-/

namespace SheetExport

open Binary64 (signText)

namespace Numeral

/-! ## Scanning what is written -/

/-- What follows a run of digits. -/
def Ends (t : List Char) : Prop := ∀ c ∈ t.head?, c.isDigit = false

theorem ends_nil : Ends [] := by simp [Ends]

theorem ends_cons {c : Char} {t : List Char} (h : c.isDigit = false) : Ends (c :: t) := by
  simp [Ends, h]

theorem takeSign_signText (negative : Bool) {cs : List Char}
    (h : ∀ c ∈ cs.head?, c ≠ '-' ∧ c ≠ '+') :
    takeSign ((signText negative).toList ++ cs) = (negative, cs) := by
  cases negative with
  | true => rfl
  | false =>
    change takeSign cs = (false, cs)
    unfold takeSign
    split
    · exact absurd rfl (h '-' rfl).1
    · exact absurd rfl (h '+' rfl).2
    · rfl

section

variable {ds w f t : List Char} {e : ℤ}

theorem not_sign_of_isDigit (hne : ds ≠ []) (hd : ∀ c ∈ ds, c.isDigit = true) (t : List Char) :
    ∀ c ∈ (ds ++ t).head?, c ≠ '-' ∧ c ≠ '+' := by
  intro c hc
  obtain ⟨d, ds, rfl⟩ := List.exists_cons_of_ne_nil hne
  obtain rfl : d = c := by simpa using hc
  have := hd d List.mem_cons_self
  constructor <;> (rintro rfl; exact absurd this (by decide))

theorem takeWhile_digits (hd : ∀ c ∈ ds, c.isDigit = true) (ht : Ends t) :
    (ds ++ t).takeWhile Char.isDigit = ds := by
  rw [List.takeWhile_append_of_pos hd]
  cases t with
  | nil => simp
  | cons c t => simp [ht c rfl]

theorem dropWhile_digits (hd : ∀ c ∈ ds, c.isDigit = true) (ht : Ends t) :
    (ds ++ t).dropWhile Char.isDigit = t := by
  rw [List.dropWhile_append_of_pos hd]
  cases t with
  | nil => rfl
  | cons c t => simp [ht c rfl]

theorem takeExponent_written (negative : Bool) (hne : ds ≠ []) (hd : ∀ c ∈ ds, c.isDigit = true) :
    takeExponent ('e' :: ((signText negative).toList ++ ds)) =
      (if negative then -(digitsValue ds : ℤ) else digitsValue ds, []) := by
  have hsign := takeSign_signText negative (not_sign_of_isDigit hne hd [])
  have hw := takeWhile_digits hd ends_nil
  have hr := dropWhile_digits hd ends_nil
  rw [List.append_nil] at hsign hw hr
  simp [takeExponent, hsign, hw, hr, hne]

theorem scan_pointed (negative : Bool) (hne : w ≠ []) (hw : ∀ c ∈ w, c.isDigit = true)
    (hf : ∀ c ∈ f, c.isDigit = true) (ht : Ends t) (he : takeExponent t = (e, [])) :
    scan ((signText negative).toList ++ (w ++ '.' :: (f ++ t))) =
      some (⟨negative, digitsValue (w ++ f), e - f.length⟩, []) := by
  have hpoint : Ends ('.' :: (f ++ t)) := ends_cons rfl
  have hfraction : takeFraction w ('.' :: (f ++ t)) = (f, t) := by
    simp [takeFraction, takeWhile_digits hf ht, dropWhile_digits hf ht, hne]
  unfold scan
  rw [takeSign_signText negative (not_sign_of_isDigit hne hw _)]
  simp only [takeWhile_digits hw hpoint, dropWhile_digits hw hpoint, hfraction, he]
  simp [hne]

theorem scan_whole (negative : Bool) (hne : w ≠ []) (hw : ∀ c ∈ w, c.isDigit = true)
    (ht : Ends t) (hpoint : t.head? ≠ some '.') (he : takeExponent t = (e, [])) :
    scan ((signText negative).toList ++ (w ++ t)) = some (⟨negative, digitsValue w, e⟩, []) := by
  have hfraction : takeFraction w t = ([], t) := by
    unfold takeFraction
    split
    · exact absurd rfl hpoint
    · rfl
  unfold scan
  rw [takeSign_signText negative (not_sign_of_isDigit hne hw _)]
  simp only [takeWhile_digits hw ht, dropWhile_digits hw ht, hfraction, he]
  simp [hne]

end

/-! ## Values -/

theorem digitsValue_append (as bs : List Char) :
    digitsValue (as ++ bs) = digitsValue as * 10 ^ bs.length + digitsValue bs := by
  change Nat.ofDigitChars 10 (as ++ bs) 0 =
    Nat.ofDigitChars 10 as 0 * 10 ^ bs.length + Nat.ofDigitChars 10 bs 0
  rw [Nat.ofDigitChars_append, Nat.ofDigitChars_eq_ofDigitChars_zero, Nat.mul_comm]

theorem digitsValue_zeros (n : ℕ) : digitsValue (List.replicate n '0') = 0 :=
  (Nat.ofDigitChars_replicate_zero (b := 10)).trans (Nat.mul_zero _)

theorem digitsValue_toDigits (n : ℕ) : digitsValue (Nat.toDigits 10 n) = n :=
  Nat.ofDigitChars_ten_toDigits

theorem digitsValue_natAbs (t : ℤ) :
    (if decide (t < 0) = true then -(digitsValue (Nat.toDigits 10 t.natAbs) : ℤ)
      else digitsValue (Nat.toDigits 10 t.natAbs)) = t := by
  simp only [digitsValue_toDigits, decide_eq_true_eq]
  split <;> omega

/-! ## Written decimals -/

/-- The text is one numeral of a sign and a magnitude. -/
def Writes (cs : List Char) (negative : Bool) (m : ℚ) : Prop :=
  ∃ x : Numeral, scan cs = some (x, []) ∧ x.negative = negative ∧ x.magnitude = m

theorem writes_positional (negative : Bool) (d : Decimal) :
    Writes ((signText negative).toList ++ d.positional.toList) negative d.magnitude := by
  obtain ⟨w, f, h⟩ := d.exists_pointed
  have hscan := scan_pointed negative h.left (fun c hc => h.digits c (List.mem_append_left _ hc))
    (fun c hc => h.digits c (List.mem_append_right _ hc)) ends_nil rfl
  have hvalue : digitsValue d.digitText = d.digits := digitsValue_toDigits d.digits
  rw [List.append_nil] at hscan
  rw [h.text]
  refine ⟨_, hscan, rfl, ?_⟩
  unfold magnitude Decimal.magnitude
  dsimp only
  rcases h.value with ⟨n, hn, hall, hf⟩ | ⟨n, hn, hall⟩
  · rw [hall, hf, hn, digitsValue_append, digitsValue_zeros, hvalue, List.length_replicate,
      zpow_natCast]
    push_cast
    ring
  · rw [hall, hn, digitsValue_append, digitsValue_zeros, hvalue, Nat.zero_mul, Nat.zero_add,
      zero_sub]

theorem writes_scientific (negative : Bool) (d : Decimal) :
    Writes ((signText negative).toList ++ (d.scientific ⟨false, 1, false⟩).toList) negative
      d.magnitude := by
  have digits : ∀ c ∈ d.digitText, c.isDigit = true := fun c hc => d.isDigit_of_mem_digitText hc
  have hvalue : digitsValue d.digitText = d.digits := digitsValue_toDigits d.digits
  have hends : Ends ('e' :: d.powerText) := ends_cons rfl
  have hdigits : ∀ c ∈ Nat.toDigits 10 d.top.natAbs, c.isDigit = true :=
    fun c hc => Nat.isDigit_of_mem_toDigits (by decide) (by decide) hc
  have hexp := takeExponent_written (decide (d.top < 0)) Nat.toDigits_ne_nil hdigits
  rw [digitsValue_natAbs] at hexp
  have htop : d.top = d.exponent + d.digitText.length - 1 := rfl
  rcases d.toList_scientific with ⟨c, ht, htext⟩ | ⟨c, f, ht, htext⟩
  · rw [ht] at digits hvalue htop
    rw [htext]
    refine ⟨_, scan_whole negative (List.cons_ne_nil c []) digits hends (by simp) hexp, rfl, ?_⟩
    refine congrArg₂ (fun (n : ℕ) (p : ℤ) => (n : ℚ) * 10 ^ p) hvalue ?_
    rw [htop]
    simp
  · rw [ht] at digits hvalue htop
    rw [htext]
    refine ⟨_, scan_pointed negative (List.cons_ne_nil c [])
      (List.forall_mem_singleton.2 (digits c List.mem_cons_self))
      (fun x hx => digits x (List.mem_cons_of_mem _ hx)) hends hexp, rfl, ?_⟩
    refine congrArg₂ (fun (n : ℕ) (p : ℤ) => (n : ℚ) * 10 ^ p) hvalue ?_
    change d.top - f.length = d.exponent
    rw [htop, List.length_cons]
    push_cast
    ring

/-! ## Literals -/

/-- The magnitude that is written for a finite number. -/
def writtenMagnitude (units : ℕ) : ℚ :=
  if units = 0 then 0 else (Decimal.shortest .upward units).magnitude

theorem writes_literal (negative : Bool) (units : ℕ) :
    Writes (Binary64.finite negative units).literal.toList negative (writtenMagnitude units) := by
  unfold Binary64.literal Binary64.literalText writtenMagnitude
  rw [String.toList_append]
  by_cases h0 : units = 0
  · rw [if_pos h0, if_pos h0]
    cases negative
    · exact ⟨⟨false, 0, -1⟩, rfl, rfl, by simp [magnitude]⟩
    · exact ⟨⟨true, 0, -1⟩, rfl, rfl, by simp [magnitude]⟩
  · rw [if_neg h0, if_neg h0]
    by_cases hp : -4 ≤ (Decimal.shortest .upward units).top ∧
        (Decimal.shortest .upward units).top < 16
    · simp only [hp, and_self, if_true]
      exact writes_positional negative _
    · simp only [hp, if_false]
      exact writes_scientific negative _

end Numeral

end SheetExport
