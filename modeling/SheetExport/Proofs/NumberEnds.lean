import SheetExport.Binary64.Front
import SheetExport.Proofs.LongestNumerals
import SheetExport.Proofs.NumberFilters
import SheetExport.Proofs.Tokens
import SheetExport.Proofs.ValueTexts

/-!
# Where the number of a filter ends

The search over the bytes of a filter value stops where the numeral that `scan` takes stops. This is
always between two characters, and the text before it is converted.
-/

namespace SheetExport

namespace Numeral

/-! ## Places between characters -/

theorem utf8EncodeChar_ascii {c : Char} (h : c.toNat < 128) :
    String.utf8EncodeChar c = [UInt8.ofNat c.toNat] :=
  if_pos (Nat.le_of_lt_succ h)

theorem exists_lead {c : Char} (h : 128 ≤ c.toNat) :
    ∃ b bs, String.utf8EncodeChar c = b :: bs ∧ 128 ≤ b.toNat := by
  have hu := c.valid
  simp only [UInt32.isValidChar, Nat.isValidChar] at hu
  unfold String.utf8EncodeChar
  rw [show c.val.toNat = c.toNat from rfl] at hu ⊢
  generalize c.toNat = n at h hu
  dsimp only
  rw [if_neg (by omega)]
  repeat' split
  all_goals
    refine ⟨_, _, rfl, ?_⟩
    rw [UInt8.toNat_ofNat']
    omega

/-- The place in the bytes of a text from which the given characters are left. -/
structure At (bytes : Bytes) (i : Nat) (rest : List Char) : Prop where
  within : i ≤ bytes.length
  left : bytes.drop i = rest.flatMap String.utf8EncodeChar

section

variable {bytes : Bytes} {i : Nat} {c d : Char} {cs rest : List Char}

theorem At.start (s : String) : At (bytesOf s) 0 s.toList :=
  ⟨Nat.zero_le _, bytesOf_eq s⟩

theorem At.getElem?_nil (h : At bytes i []) : bytes[i]? = none := by
  rw [← List.head?_drop, h.left]
  rfl

/-- The byte at a place is the next character, or both are past ASCII. -/
theorem At.getElem?_cons (h : At bytes i (c :: cs)) : ∃ b, bytes[i]? = some b ∧
    (b = UInt8.ofNat c.toNat ∧ c.toNat < 128 ∨ 128 ≤ b.toNat ∧ 128 ≤ c.toNat) := by
  rw [← List.head?_drop, h.left, List.flatMap_cons]
  rcases Nat.lt_or_ge c.toNat 128 with hc | hc
  · rw [utf8EncodeChar_ascii hc]
    exact ⟨_, rfl, .inl ⟨rfl, hc⟩⟩
  · obtain ⟨b, bs, hb, hle⟩ := exists_lead hc
    rw [hb]
    exact ⟨b, rfl, .inr ⟨hle, hc⟩⟩

theorem toNat_ascii (hd : d.toNat < 128) : (UInt8.ofNat d.toNat).toNat = d.toNat := by
  rw [UInt8.toNat_ofNat']
  omega

theorem At.getElem?_iff (h : At bytes i cs) (d : Char) (hd : d.toNat < 128) :
    bytes[i]? = some (UInt8.ofNat d.toNat) ↔ cs.head? = some d := by
  cases cs with
  | nil => simp [h.getElem?_nil]
  | cons c cs =>
    obtain ⟨b, hb, hcase⟩ := h.getElem?_cons
    rw [hb, List.head?_cons, Option.some.injEq, Option.some.injEq, ← UInt8.toNat_inj,
      toNat_ascii hd, ← Char.toNat_inj]
    rcases hcase with ⟨rfl, hc⟩ | ⟨hb, hc⟩
    · rw [toNat_ascii hc]
    · omega

theorem At.next (h : At bytes i (c :: cs)) (hc : c.toNat < 128) : At bytes (i + 1) cs := by
  have hleft := h.left
  rw [List.flatMap_cons, utf8EncodeChar_ascii hc, List.singleton_append] at hleft
  refine ⟨?_, ?_⟩
  · have hlength := congrArg List.length hleft
    rw [List.length_drop, List.length_cons] at hlength
    omega
  · rw [← List.drop_drop, hleft]
    rfl

/-! ## Each part -/

theorem At.sign (h : At bytes i cs) : At bytes (signEnd bytes i) (takeSign cs).2 := by
  have hplus : bytes[i]? = some 43 ↔ cs.head? = some '+' := h.getElem?_iff '+' (by decide)
  have hminus : bytes[i]? = some 45 ↔ cs.head? = some '-' := h.getElem?_iff '-' (by decide)
  by_cases hhead : cs.head? = some '+' ∨ cs.head? = some '-'
  · have hstep : signEnd bytes i = i + 1 := by
      simp only [signEnd, hplus, hminus, hhead, if_true]
    rw [hstep]
    rcases hhead with hhead | hhead
    · obtain ⟨rest, rfl⟩ := List.head?_eq_some_iff.1 hhead
      exact h.next (by decide)
    · obtain ⟨rest, rfl⟩ := List.head?_eq_some_iff.1 hhead
      exact h.next (by decide)
  · have hstay : signEnd bytes i = i := by
      simp only [signEnd, hplus, hminus, hhead, if_false]
    have hnone : (takeSign cs).2 = cs := by
      refine takeSign_append (.inl rfl) fun c hc => ?_
      constructor <;> (rintro rfl; simp_all)
    rwa [hstay, hnone]

theorem At.isDigitByte (h : At bytes i (c :: cs)) : ∃ b, bytes[i]? = some b ∧
    isDigitByte b = c.isDigit := by
  obtain ⟨b, hb, hcase⟩ := h.getElem?_cons
  refine ⟨b, hb, Bool.eq_iff_iff.2 ?_⟩
  have hchar : c.isDigit = true ↔ 48 ≤ c.toNat ∧ c.toNat ≤ 57 := by
    simp [Char.isDigit, UInt32.le_iff_toNat_le]
  have hbyte : Numeral.isDigitByte b = true ↔ 48 ≤ b.toNat ∧ b.toNat ≤ 57 := by
    simp [Numeral.isDigitByte, UInt8.le_iff_toNat_le]
  rw [hchar, hbyte]
  rcases hcase with ⟨rfl, hc⟩ | ⟨hb, hc⟩
  · rw [toNat_ascii hc]
  · omega

theorem toNat_lt_of_isDigit (h : c.isDigit = true) : c.toNat < 128 := by
  have := toNat_of_isDigit h
  omega

/-- By induction on the characters that are left. -/
theorem At.digits (h : At bytes i cs) :
    digitsEnd bytes i = i + (cs.takeWhile Char.isDigit).length ∧
      At bytes (digitsEnd bytes i) (cs.dropWhile Char.isDigit) := by
  induction cs generalizing i with
  | nil =>
    have hstop : digitsEnd bytes i = i := by
      rw [digitsEnd, dif_neg (List.getElem?_eq_none_iff.1 h.getElem?_nil).not_gt]
    rw [hstop]
    exact ⟨rfl, h⟩
  | cons c cs ih =>
    obtain ⟨b, hb, hdigit⟩ := h.isDigitByte
    obtain ⟨hi, rfl⟩ := List.getElem?_eq_some_iff.1 hb
    rw [digitsEnd, dif_pos hi, hdigit]
    by_cases hc : c.isDigit = true
    · obtain ⟨hlength, hat⟩ := ih (h.next (toNat_lt_of_isDigit hc))
      rw [if_pos hc, List.takeWhile_cons_of_pos hc, List.dropWhile_cons_of_pos hc, List.length_cons]
      exact ⟨by omega, hat⟩
    · rw [if_neg hc, List.takeWhile_cons_of_neg hc, List.dropWhile_cons_of_neg hc]
      exact ⟨rfl, h⟩

theorem At.exponent (h : At bytes i cs) :
    At bytes (exponentEnd bytes i) (takeExponent cs).2 := by
  have hlower : bytes[i]? = some 101 ↔ cs.head? = some 'e' := h.getElem?_iff 'e' (by decide)
  have hupper : bytes[i]? = some 69 ↔ cs.head? = some 'E' := h.getElem?_iff 'E' (by decide)
  unfold exponentEnd
  cases cs with
  | nil =>
    simp only [hlower, hupper, List.head?_nil, reduceCtorEq, or_self, if_false]
    exact h
  | cons c cs =>
    simp only [hlower, hupper, List.head?_cons, Option.some.injEq]
    by_cases hc : c = 'e' ∨ c = 'E'
    · have hnext : At bytes (i + 1) cs := h.next (by rcases hc with rfl | rfl <;> decide)
      obtain ⟨hlength, hdigits⟩ := hnext.sign.digits
      by_cases hne : (takeSign cs).2.takeWhile Char.isDigit = []
      · rw [hne, List.length_nil, Nat.add_zero] at hlength
        rw [if_pos hc, if_neg (by omega)]
        simpa [takeExponent, hc, hne] using h
      · have := List.length_pos_iff.2 hne
        rw [if_pos hc, if_pos (by omega), takeExponent_power hc rfl hne]
        exact hdigits
    · rw [if_neg hc, takeExponent, if_neg hc]
      exact h

theorem At.mantissa (h : At bytes 0 cs) {w f rest : List Char}
    (hw : (takeSign cs).2.takeWhile Char.isDigit = w)
    (hf : takeFraction w ((takeSign cs).2.dropWhile Char.isDigit) = (f, rest)) :
    At bytes (mantissaEnd bytes).1 rest ∧ (mantissaEnd bytes).2 = (w ++ f).length := by
  obtain ⟨hlength, hat⟩ := h.sign.digits
  have hpoint : bytes[digitsEnd bytes (signEnd bytes 0)]? = some 46 ↔
      ((takeSign cs).2.dropWhile Char.isDigit).head? = some '.' := hat.getElem?_iff '.' (by decide)
  rw [hw] at hlength
  unfold mantissaEnd
  simp only [hpoint]
  generalize digitsEnd bytes (signEnd bytes 0) = stop at hlength hat
  generalize (takeSign cs).2.dropWhile Char.isDigit = after at hf hat
  by_cases hhead : after.head? = some '.'
  · obtain ⟨after, rfl⟩ := List.head?_eq_some_iff.1 hhead
    obtain ⟨hfraction, hbehind⟩ := (hat.next (by decide)).digits
    by_cases hnone : w ++ after.takeWhile Char.isDigit = []
    · have hzero := congrArg List.length hnone
      rw [List.length_append, List.length_nil] at hzero
      rw [takeFraction, if_pos (by simpa using hnone), Prod.mk.injEq] at hf
      obtain ⟨rfl, rfl⟩ := hf
      rw [if_pos hhead, if_neg (by omega), List.append_nil]
      exact ⟨hat, by omega⟩
    · have hpos := List.length_pos_iff.2 hnone
      rw [List.length_append] at hpos
      rw [takeFraction_point hnone, Prod.mk.injEq] at hf
      obtain ⟨rfl, rfl⟩ := hf
      rw [if_pos hhead, if_pos (by omega), List.length_append]
      exact ⟨hbehind, by dsimp only; omega⟩
  · rw [takeFraction_of_head hhead, Prod.mk.injEq] at hf
    obtain ⟨rfl, rfl⟩ := hf
    rw [if_neg hhead, List.append_nil]
    exact ⟨hat, by dsimp only; omega⟩

theorem At.number (h : At bytes 0 cs) :
    (scan cs = none ∧ numberEnd? bytes = none) ∨
      ∃ x rest stop, scan cs = some (x, rest) ∧ numberEnd? bytes = some stop ∧
        At bytes stop rest := by
  generalize hw : (takeSign cs).2.takeWhile Char.isDigit = w
  generalize hf : takeFraction w ((takeSign cs).2.dropWhile Char.isDigit) = fraction
  obtain ⟨f, rest⟩ := fraction
  obtain ⟨hat, hcount⟩ := h.mantissa hw hf
  unfold numberEnd? scan
  generalize takeSign cs = sign at hw hf
  obtain ⟨negative, after⟩ := sign
  generalize mantissaEnd bytes = mantissa at hat hcount
  obtain ⟨stop, digits⟩ := mantissa
  dsimp only at hw hf hat hcount ⊢
  rw [hw, hf]
  by_cases hnone : w ++ f = []
  · left
    simp [hcount, hnone]
  · right
    have hdigits : digits ≠ 0 := by rw [hcount]; exact (List.length_pos_iff.2 hnone).ne'
    have hempty : ¬ (w ++ f).isEmpty = true := by simpa using hnone
    rw [if_neg hdigits, if_neg hempty]
    exact ⟨_, _, _, rfl, rfl, hat.exponent⟩

theorem At.cut {s : String} (h : At (bytesOf s) i rest) (text : String)
    (hs : s.toList = text.toList ++ rest) :
    (bytesOf s).take i = bytesOf text ∧ (bytesOf text).length = i := by
  have hcut : (bytesOf s).take i = bytesOf text := by
    have hall := List.take_append_drop i (bytesOf s)
    rw [h.left] at hall
    nth_rewrite 2 [bytesOf_eq] at hall
    rw [hs, List.flatMap_append, ← bytesOf_eq] at hall
    exact List.append_cancel_right hall
  refine ⟨hcut, ?_⟩
  rw [← hcut, List.length_take]
  exact Nat.min_eq_left h.within

end

end Numeral

/-! ## Conversion -/

namespace Binary64

open Numeral (scan numberEnd? Longest IsText At)

theorem parse?_of_scan {s : String} {x : Numeral} (h : scan s.toList = some (x, [])) :
    parse? s = some x.toBinary64 := by
  rw [parse?, h]

/-- What the number of a filter is read from: a numeral that is converted and the longest in front
of the text, or none. -/
def ReadFrom (text : String) (number : Binary64) : Option Nat → Prop
  | none => (∀ front, front <+: text.toList → ¬ IsText front) ∧ number = zero
  | some stop => ∃ front : String, textOf? ((bytesOf text).take stop) = some front ∧
      (bytesOf front).length = stop ∧ Longest front.toList text.toList ∧
      parse? front = some number

theorem readFrom (s : String) :
    ReadFrom (Text.trimStart s) (ofFilterValue s) (numberEnd? (bytesOf (Text.trimStart s))) := by
  have hvalue : ofFilterValue s =
      ((scan (Text.trimStart s).toList).map fun found => found.1.toBinary64).getD zero := by
    rw [ofFilterValue, Numeral.atStart?, Text.trimStart, String.toList_ofList]
    cases scan (s.toList.dropWhile Text.isBlank) <;> rfl
  rcases (At.start (Text.trimStart s)).number with ⟨hscan, hend⟩ | ⟨x, rest, stop, hscan, hend, hat⟩
  · rw [hend, hvalue, hscan]
    exact ⟨fun front => Numeral.not_isText_of_scan hscan, rfl⟩
  · obtain ⟨front, hfront, hs, halone⟩ := Numeral.longest_of_scan hscan
    have hcut := hat.cut (String.ofList front) (by rwa [String.toList_ofList])
    rw [hend, hvalue, hscan]
    refine ⟨String.ofList front, ?_, hcut.2, ?_, ?_⟩
    · rw [hcut.1, textOf?_bytesOf]
    · rwa [String.toList_ofList]
    · exact parse?_of_scan (by rwa [String.toList_ofList])

theorem ofFront?_eq (s : String) : ofFront? s = some (ofFilterValue s) := by
  have h := readFrom s
  rw [ofFront?]
  cases hend : numberEnd? (bytesOf (Text.trimStart s)) with
  | none =>
    rw [hend] at h
    simp only [h.2]
  | some stop =>
    rw [hend] at h
    obtain ⟨front, htext, -, -, hparse⟩ := h
    simp only [htext, Option.map_some, hparse, Option.getD_some]

theorem ofFilterValue_ne_undefined (s : String) : ofFilterValue s ≠ .undefined := by
  unfold ofFilterValue
  split
  · exact Numeral.toBinary64_ne_undefined _
  · simp [zero]

/-! ## Literals -/

theorem isText_literal (b : Binary64) : IsText b.literal.toList := by
  have hscan : ∃ x, scan b.literal.toList = some (x, []) := by
    cases b with
    | finite negative units =>
      obtain ⟨x, hx, -⟩ := Numeral.writes_literal negative units
      exact ⟨x, hx⟩
    | infinite negative => cases negative <;> exact ⟨_, rfl⟩
    | undefined => exact ⟨_, rfl⟩
  obtain ⟨x, hx⟩ := hscan
  obtain ⟨text, htext, hs, -⟩ := Numeral.isText_of_scan hx
  rw [hs, List.append_nil]
  exact htext

theorem point_or_power_literal (b : Binary64) :
    '.' ∈ b.literal.toList ∨ 'e' ∈ b.literal.toList := by
  cases b with
  | undefined => exact .inl (by decide)
  | infinite negative => exact .inr (by cases negative <;> decide)
  | finite negative units =>
    unfold literal literalText
    rw [String.toList_append]
    split
    · exact .inl (List.mem_append_right _ (by decide))
    · generalize Decimal.shortest .upward units = d
      dsimp only
      split
      · obtain ⟨w, f, h⟩ := d.exists_pointed
        rw [h.text]
        exact .inl (by simp)
      · rcases d.toList_scientific with ⟨c, -, htext⟩ | ⟨c, f, -, htext⟩
        · rw [htext]
          exact .inr (by simp)
        · rw [htext]
          exact .inr (by simp)

/-- The number of a filter is read from the longest numeral in front, which ends between two
characters and is converted as it stands, and is zero when there is none. It is never undefined,
and its literal is one real numeral and one token. -/
theorem ofFilterValue_longest (s : String) :
    ofFront? s = some (ofFilterValue s) ∧
      ReadFrom (Text.trimStart s) (ofFilterValue s)
        (numberEnd? (bytesOf (Text.trimStart s))) ∧
      ofFilterValue s ≠ .undefined ∧
      IsText (ofFilterValue s).literal.toList ∧
      ('.' ∈ (ofFilterValue s).literal.toList ∨ 'e' ∈ (ofFilterValue s).literal.toList) ∧
      Sql.Lexes (ofFilterValue s).literal [.number (ofFilterValue s).literal] :=
  ⟨ofFront?_eq s, readFrom s, ofFilterValue_ne_undefined s, isText_literal _,
    point_or_power_literal _, Sql.lexes_number (Sql.isNumeral_literal _)⟩

end Binary64

end SheetExport
