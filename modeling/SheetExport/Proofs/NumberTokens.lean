import SheetExport.Binary64.Decimal
import SheetExport.Proofs.Lexer

/-!
# Number literals are tokens

Every number that a filter compares with is written as one token: perhaps a sign, then digits, and
perhaps a point and an exponent.
-/

namespace SheetExport

namespace Sql

/-! ## Runs of digits -/

/-- A mode that digits go on with takes in a run of them. -/
theorem after_digits {build : List Char → Mode}
    (hb : ∀ cs c, c.isDigit = true → (build cs).extend? c = some (build (cs ++ [c])))
    {ds : List Char} (hd : ∀ c ∈ ds, c.isDigit = true) : ∀ cs : List Char,
    (build cs).emitted ds = [] ∧ (build cs).after ds = build (cs ++ ds) := by
  induction ds with
  | nil => intro cs; simp
  | cons d ds ih =>
    intro cs
    have hs : (build cs).step d = ([], build (cs ++ [d])) := by
      rw [Mode.step, hb cs d (hd d List.mem_cons_self)]
    have := ih (fun c hc => hd c (List.mem_cons_of_mem _ hc)) (cs ++ [d])
    simp [hs, this]

theorem whole_extend (cs : List Char) (c : Char) (h : c.isDigit = true) :
    (Mode.whole cs).extend? c = some (.whole (cs ++ [c])) := by simp [Mode.extend?, h]

theorem fraction_extend (cs : List Char) (c : Char) (h : c.isDigit = true) :
    (Mode.fraction cs).extend? c = some (.fraction (cs ++ [c])) := by simp [Mode.extend?, h]

theorem power_extend (cs : List Char) (c : Char) (h : c.isDigit = true) :
    (Mode.power cs).extend? c = some (.power (cs ++ [c])) := by simp [Mode.extend?, h]

/-! ## Numerals -/

/-- A text that is a number as far as it goes. -/
structure IsNumeral (cs : List Char) : Prop where
  emitted : Mode.start.emitted cs = []
  after : Mode.start.after cs = .whole cs ∨ Mode.start.after cs = .fraction cs ∨
    Mode.start.after cs = .power cs

theorem isAsciiBlank_of_isDigit {c : Char} (h : c.isDigit = true) :
    Text.isAsciiBlank c = false := by
  have hd := toNat_of_isDigit h
  have hs : c ≠ ' ' := by
    rintro rfl
    exact absurd h (by decide)
  simp only [Text.isAsciiBlank, Bool.or_eq_false_iff, Bool.and_eq_false_iff,
    decide_eq_false_iff_not, beq_eq_false_iff_ne, ne_eq, hs, not_false_eq_true, and_true]
  omega

theorem whole_numeral (negative : Bool) {w : List Char} (hw : w ≠ [])
    (hd : ∀ c ∈ w, c.isDigit = true) :
    Mode.start.emitted ((Binary64.signText negative).toList ++ w) = [] ∧
      Mode.start.after ((Binary64.signText negative).toList ++ w) =
        .whole ((Binary64.signText negative).toList ++ w) := by
  cases w with
  | nil => exact absurd rfl hw
  | cons d ds =>
    have hfirst := hd d List.mem_cons_self
    have rest := after_digits whole_extend fun c hc => hd c (List.mem_cons_of_mem _ hc)
    cases negative with
    | false =>
      have hs : Mode.start.step d = ([], .whole [d]) := by
        simp [Mode.step, Mode.extend?, Mode.begin, Mode.pending, hfirst,
          isAsciiBlank_of_isDigit hfirst]
      simp [Binary64.signText, hs, rest]
    | true =>
      have hm : Mode.start.step '-' = ([], .sign '-') := by rfl
      have hs : (Mode.sign '-').step d = ([], .whole ['-', d]) := by
        simp [Mode.step, Mode.extend?, hfirst]
      simp [Binary64.signText, hm, hs, rest]

theorem fraction_numeral (negative : Bool) {w f : List Char} (hw : w ≠ [])
    (hd : ∀ c ∈ w, c.isDigit = true) (hf : ∀ c ∈ f, c.isDigit = true) :
    Mode.start.emitted ((Binary64.signText negative).toList ++ w ++ '.' :: f) = [] ∧
      Mode.start.after ((Binary64.signText negative).toList ++ w ++ '.' :: f) =
        .fraction ((Binary64.signText negative).toList ++ w ++ '.' :: f) := by
  obtain ⟨he, ha⟩ := whole_numeral negative hw hd
  have hs (cs : List Char) : (Mode.whole cs).step '.' = ([], .fraction (cs ++ ['.'])) := by
    simp [Mode.step, Mode.extend?]
  have rest := after_digits fraction_extend hf
  generalize (Binary64.signText negative).toList ++ w = cs at he ha ⊢
  simp [Mode.emitted_append, Mode.after_append, he, ha, hs, rest]

theorem power_numeral {cs : List Char} (he : Mode.start.emitted cs = [])
    (ha : Mode.start.after cs = .whole cs ∨ Mode.start.after cs = .fraction cs) (negative : Bool)
    {x : List Char} (hx : x ≠ []) (hd : ∀ c ∈ x, c.isDigit = true) :
    IsNumeral (cs ++ 'e' :: ((Binary64.signText negative).toList ++ x)) := by
  have hm : (Mode.start.after cs).step 'e' = ([], .exponent (cs ++ ['e'])) := by
    obtain h | h := ha <;>
      simp [h, Mode.step, Mode.extend?, Mode.numberGoesOn, isExponentMark]
  cases x with
  | nil => exact absurd rfl hx
  | cons d ds =>
    have hfirst := hd d List.mem_cons_self
    have rest := after_digits power_extend fun c hc => hd c (List.mem_cons_of_mem _ hc)
    cases negative with
    | false =>
      have hs (cs : List Char) : (Mode.exponent cs).step d = ([], .power (cs ++ [d])) := by
        simp [Mode.step, Mode.extend?, hfirst]
      constructor
      · simp [Mode.emitted_append, he, hm, hs, rest, Binary64.signText]
      · simp [Mode.after_append, hm, hs, rest, Binary64.signText]
    | true =>
      have hg (cs : List Char) : (Mode.exponent cs).step '-' = ([], .exponentSign cs '-') := by
        simp [Mode.step, Mode.extend?]
      have hs (cs : List Char) :
          (Mode.exponentSign cs '-').step d = ([], .power (cs ++ ['-', d])) := by
        simp [Mode.step, Mode.extend?, hfirst]
      constructor
      · simp [Mode.emitted_append, he, hm, hg, hs, rest, Binary64.signText]
      · simp [Mode.after_append, hm, hg, hs, rest, Binary64.signText]

end Sql

/-! ## Written decimals -/

namespace Decimal

open Binary64 (signText)

theorem isDigit_of_mem_digitText (d : Decimal) {c : Char} (h : c ∈ d.digitText) :
    c.isDigit = true := Nat.isDigit_of_mem_toDigits (by decide) (by decide) h

theorem digitText_ne_nil (d : Decimal) : d.digitText ≠ [] := Nat.toDigits_ne_nil

/-- Digits on either side of the point. The point stands before a zero, or as many digits from the
end as there are places. -/
structure Pointed (d : Decimal) (w f : List Char) : Prop where
  text : d.positional.toList = w ++ '.' :: f
  left : w ≠ []
  digits : ∀ c ∈ w ++ f, c.isDigit = true
  value : (∃ n : Nat, d.exponent = n ∧ w ++ f = d.digitText ++ List.replicate (n + 1) '0' ∧
      f.length = 1) ∨
    ∃ n : Nat, d.exponent = -(f.length : Int) ∧ w ++ f = List.replicate n '0' ++ d.digitText

theorem isDigit_of_mem_zeros {n : Nat} {c : Char} (h : c ∈ List.replicate n '0') :
    c.isDigit = true := by
  rw [List.eq_of_mem_replicate h]
  rfl

theorem exists_pointed (d : Decimal) : ∃ w f, d.Pointed w f := by
  have digits : ∀ c ∈ d.digitText, c.isDigit = true := fun c hc => d.isDigit_of_mem_digitText hc
  by_cases h : 0 ≤ d.exponent
  · obtain ⟨n, hn⟩ := Int.eq_ofNat_of_zero_le h
    have hall : d.digitText ++ List.replicate n '0' ++ ['0'] =
        d.digitText ++ List.replicate (n + 1) '0' := by
      rw [List.append_assoc, List.replicate_succ']
    refine ⟨d.digitText ++ List.replicate n '0', ['0'], ?_,
      List.append_ne_nil_of_left_ne_nil (digitText_ne_nil d) _, ?_, .inl ⟨n, hn, hall, rfl⟩⟩
    · simp [positional, hn]
    · rw [hall]
      intro c hc
      exact (List.mem_append.1 hc).elim (digits c) isDigit_of_mem_zeros
  · obtain ⟨n, hn⟩ : ∃ n : Nat, d.exponent = -n := ⟨(-d.exponent).toNat, by omega⟩
    generalize hp : List.replicate (n + 1 - d.digitText.length) '0' ++ d.digitText = padded
    have hlen : n + 1 ≤ padded.length := by
      rw [← hp, List.length_append, List.length_replicate]
      omega
    refine ⟨padded.take (padded.length - n), padded.drop (padded.length - n), ?_, ?_, ?_,
      .inr ⟨n + 1 - d.digitText.length, ?_, ?_⟩⟩
    · have hplaces : (-d.exponent).toNat = n := by omega
      unfold positional
      simp only [if_neg h, hplaces, hp, String.toList_append, String.toList_ofList]
      simp
    · rw [← List.length_pos_iff, List.length_take]
      omega
    · rw [List.take_append_drop, ← hp]
      intro c hc
      exact (List.mem_append.1 hc).elim isDigit_of_mem_zeros (digits c)
    · rw [hn, List.length_drop]
      omega
    · rw [List.take_append_drop, hp]

/-- The power of ten of a number in scientific notation. -/
def powerText (d : Decimal) : List Char :=
  (signText (decide (d.top < 0))).toList ++ Nat.toDigits 10 d.top.natAbs

theorem toList_scientific (d : Decimal) :
    (∃ c, d.digitText = [c] ∧
        (d.scientific ⟨false, 1, false⟩).toList = [c] ++ 'e' :: d.powerText) ∨
      ∃ c f, d.digitText = c :: f ∧
        (d.scientific ⟨false, 1, false⟩).toList = [c] ++ '.' :: (f ++ 'e' :: d.powerText) := by
  have hpower : (Text.padLeft 1 '0' (toString d.top.natAbs)).toList =
      Nat.toDigits 10 d.top.natAbs := by
    have hpos : 0 < (toString d.top.natAbs).length := by
      rw [← String.length_toList, toList_toString]
      exact List.length_pos_iff.2 Nat.toDigits_ne_nil
    rw [Text.padLeft, show 1 - (toString d.top.natAbs).length = 0 by omega, String.toList_append,
      toList_toString]
    rfl
  have hsign : (if d.top < 0 then "-" else if false = true then "+" else "") =
      signText (decide (d.top < 0)) := by
    by_cases h : d.top < 0 <;> simp [h, signText]
  unfold scientific powerText
  simp only [hsign, String.toList_append, hpower, List.append_assoc]
  cases ht : d.digitText with
  | nil => exact absurd ht (digitText_ne_nil d)
  | cons c f =>
    cases f with
    | nil => exact .inl ⟨c, rfl, by simp⟩
    | cons c' f => exact .inr ⟨c, c' :: f, rfl, by simp⟩

end Decimal

/-! ## Literals -/

namespace Sql

theorem isNumeral_positional (negative : Bool) (d : Decimal) :
    IsNumeral ((Binary64.signText negative).toList ++ d.positional.toList) := by
  obtain ⟨w, f, h⟩ := d.exists_pointed
  have hn := fraction_numeral negative h.left (fun c hc => h.digits c (List.mem_append_left _ hc))
    (fun c hc => h.digits c (List.mem_append_right _ hc))
  rw [h.text, ← List.append_assoc]
  exact ⟨hn.1, .inr (.inl hn.2)⟩

theorem isNumeral_scientific (negative : Bool) (d : Decimal) :
    IsNumeral ((Binary64.signText negative).toList ++ (d.scientific ⟨false, 1, false⟩).toList) := by
  have digits : ∀ c ∈ d.digitText, c.isDigit = true := fun c hc => d.isDigit_of_mem_digitText hc
  have power {cs : List Char} (he : Mode.start.emitted cs = [])
      (ha : Mode.start.after cs = .whole cs ∨ Mode.start.after cs = .fraction cs) :
      IsNumeral (cs ++ 'e' :: d.powerText) :=
    power_numeral he ha _ Nat.toDigits_ne_nil
      fun c hc => Nat.isDigit_of_mem_toDigits (by decide) (by decide) hc
  rcases d.toList_scientific with ⟨c, ht, htext⟩ | ⟨c, f, ht, htext⟩
  · rw [ht] at digits
    obtain ⟨he, ha⟩ := whole_numeral negative (List.cons_ne_nil c []) digits
    rw [htext, ← List.append_assoc]
    exact power he (.inl ha)
  · rw [ht] at digits
    obtain ⟨he, ha⟩ := fraction_numeral negative (List.cons_ne_nil c [])
      (List.forall_mem_singleton.2 (digits c List.mem_cons_self))
      (fun x hx => digits x (List.mem_cons_of_mem _ hx))
    have hn := power he (.inr ha)
    rw [htext]
    simpa using hn

theorem isNumeral_literal (b : Binary64) : IsNumeral b.literal.toList := by
  cases b with
  | undefined => exact ⟨rfl, .inr (.inl rfl)⟩
  | infinite negative =>
    cases negative
    · exact ⟨rfl, .inr (.inr rfl)⟩
    · exact ⟨rfl, .inr (.inr rfl)⟩
  | finite negative units =>
    unfold Binary64.literal Binary64.literalText
    rw [String.toList_append]
    by_cases h0 : units = 0
    · rw [if_pos h0]
      cases negative
      · exact ⟨rfl, .inr (.inl rfl)⟩
      · exact ⟨rfl, .inr (.inl rfl)⟩
    · rw [if_neg h0]
      by_cases hp : -4 ≤ (Decimal.shortest .upward units).top ∧
          (Decimal.shortest .upward units).top < 16
      · simp only [hp, and_self, if_true]
        exact isNumeral_positional negative _
      · simp only [hp, if_false]
        exact isNumeral_scientific negative _

end Sql

end SheetExport
