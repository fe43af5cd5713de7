import SheetExport.Proofs.Comparisons
import SheetExport.Proofs.ByteOrder
import SheetExport.Proofs.LiteralNumerals

/-!
# Values and their texts

A column is equal to the text that it holds. It is equal to the text of an integer that it holds if
the column has a type that meets texts halfway.
-/

namespace SheetExport

open Value (isKnown)

/-! ## Bytes -/

theorem toArray_bytesOf (s : String) : ByteArray.mk (bytesOf s).toArray = s.toByteArray := by
  rw [bytesOf, ByteArray.toList, toList_loop _ _ 0 [] rfl]
  simp

theorem textOf?_bytesOf (s : String) : textOf? (bytesOf s) = some s := by
  rw [textOf?, toArray_bytesOf, String.fromUTF8?, dif_pos s.isValidUTF8]
  rfl

theorem eq_bytesOf {bytes : Bytes} {s : String} (h : textOf? bytes = some s) :
    bytes = bytesOf s := by
  rw [textOf?, String.fromUTF8?] at h
  split at h
  · rename_i hv
    have hs := congrArg String.toByteArray (Option.some.inj h)
    have hb : ByteArray.mk bytes.toArray = ByteArray.mk (bytesOf s).toArray :=
      hs.trans (toArray_bytesOf s).symm
    simpa using congrArg (fun b => b.data.toList) hb
  · exact absurd h (by simp)

/-! ## Integers -/

namespace Value

theorem toList_toString_int (i : Int) : (toString i).toList =
    (Binary64.signText (decide (i < 0))).toList ++ Nat.toDigits 10 i.natAbs := by
  change i.repr.toList = _
  cases i with
  | ofNat n => rw [Int.repr, Nat.toList_repr]; rfl
  | negSucc n =>
    rw [Int.repr, String.toList_append, Nat.toList_repr, decide_eq_true (Int.negSucc_lt_zero n)]
    rfl

theorem isDigit_of_mem_natAbs (i : Int) : ∀ c ∈ Nat.toDigits 10 i.natAbs, c.isDigit = true :=
  fun _ hc => Nat.isDigit_of_mem_toDigits (by decide) (by decide) hc

theorem isAsciiBlank_of_mem_toString {i : Int} {c : Char} (h : c ∈ (toString i).toList) :
    Text.isAsciiBlank c = false := by
  rw [toList_toString_int, List.mem_append] at h
  rcases h with h | h
  · cases hs : decide (i < 0) with
    | true =>
      rw [hs] at h
      obtain rfl : c = '-' := List.mem_singleton.1 h
      decide
    | false =>
      rw [hs] at h
      exact absurd h List.not_mem_nil
  · have hd := toNat_of_isDigit (isDigit_of_mem_natAbs i c h)
    simp only [Text.isAsciiBlank, Bool.or_eq_false_iff, Bool.and_eq_false_iff,
      decide_eq_false_iff_not, beq_eq_false_iff_ne]
    constructor
    · omega
    · rintro rfl
      exact absurd hd.1 (by decide)

theorem dropWhile_toString (i : Int) :
    (toString i).toList.dropWhile Text.isAsciiBlank = (toString i).toList ∧
      (toString i).toList.reverse.dropWhile Text.isAsciiBlank = (toString i).toList.reverse := by
  have keep {cs : List Char} (h : ∀ c ∈ cs, Text.isAsciiBlank c = false) :
      cs.dropWhile Text.isAsciiBlank = cs := by
    cases cs with
    | nil => rfl
    | cons c cs => exact List.dropWhile_cons_of_neg (by simp [h c List.mem_cons_self])
  exact ⟨keep fun c hc => isAsciiBlank_of_mem_toString hc,
    keep fun c hc => isAsciiBlank_of_mem_toString (List.mem_reverse.1 hc)⟩

theorem ofWhole?_toString (i : Int) :
    Numeral.ofWhole? (toString i) = some ⟨decide (i < 0), i.natAbs, 0⟩ := by
  have hscan := Numeral.scan_whole (decide (i < 0)) Nat.toDigits_ne_nil
    (isDigit_of_mem_natAbs i) Numeral.ends_nil (by simp) rfl
  rw [List.append_nil, ← toList_toString_int, Numeral.digitsValue_toDigits] at hscan
  rw [Numeral.ofWhole?, (dropWhile_toString i).1, hscan]
  rfl

theorem digitsOnly_toString (i : Int) : digitsOnly (toString i) = true := by
  have hsign := Numeral.takeSign_signText (decide (i < 0))
    (Numeral.not_sign_of_isDigit Nat.toDigits_ne_nil (isDigit_of_mem_natAbs i) [])
  rw [List.append_nil, ← toList_toString_int] at hsign
  unfold digitsOnly
  dsimp only
  rw [(dropWhile_toString i).1, (dropWhile_toString i).2, List.reverse_reverse, hsign]
  exact List.all_eq_true.2 (isDigit_of_mem_natAbs i)

theorem numberOf?_toString {i : Int} (h : fitsInteger i = true) :
    numberOf? (toString i) = some (integer i) := by
  have hvalue : (if decide (i < 0) = true then -(i.natAbs : Int) else i.natAbs) = i := by
    simp only [decide_eq_true_eq]
    split <;> omega
  rw [numberOf?, ofWhole?_toString, Option.map_some]
  dsimp only
  rw [hvalue, if_pos ⟨digitsOnly_toString i, h⟩]

theorem toString_ne_empty (i : Int) : toString i ≠ "" := by
  intro h
  have hlist := toList_toString_int i
  rw [h] at hlist
  exact Nat.toDigits_ne_nil (List.append_eq_nil_iff.1 hlist.symm).2

/-! ## Real numbers -/

theorem storedText_ne_empty {x : Binary64} (h : x ≠ .undefined) : x.storedText ≠ "" := by
  have pointed (d : Decimal) : d.positional ≠ "" := by
    unfold Decimal.positional
    dsimp only
    split <;> simp
  have powered (form : Decimal.ScientificForm) (d : Decimal) : d.scientific form ≠ "" := by
    unfold Decimal.scientific
    simp
  cases x with
  | undefined => exact absurd rfl h
  | infinite negative => cases negative <;> decide
  | finite negative units =>
    simp only [Binary64.storedText]
    split
    · decide
    · split <;> simp [pointed, powered]

end Value

/-! ## Columns -/

namespace Operand

variable {o : Operand} {v : String}

theorem is_of_text (h : o.value = .text v) : o.is v = true := by
  have known : isKnown (.text v) = true := rfl
  refine equals_iff.2 ?_
  rw [order, h]
  cases meetingAffinity o.affinity (literal (.text v)).affinity with
  | integer | real => exact Value.order_self (Value.isKnown_toNumeric known)
  | text | blob => exact Value.order_self known

theorem is_of_integer {i : Int} (h : o.value = .integer i) (hi : Value.fitsInteger i = true)
    {a : Affinity} (ha : o.affinity = some a) (hb : a ≠ .blob) : o.is (toString i) = true := by
  refine equals_iff.2 ?_
  rw [order, h, ha]
  have hread : (Value.text (toString i)).toNumeric = .integer i := by
    rw [Value.toNumeric, Value.numberOf?_toString hi]
    rfl
  cases a with
  | integer | real =>
    change (Value.integer i).order (Value.text (toString i)).toNumeric = some .eq
    rw [hread]
    exact Value.order_self rfl
  | text => exact Value.order_self rfl
  | blob => exact absurd rfl hb

theorem ne_null_of_equals {a b : Operand} (h : a.equals b = true) :
    a.value ≠ .null ∧ b.value ≠ .null := by
  have ne_null {x y : Operand} (hxy : x.equals y = true) : x.value ≠ .null := by
    intro hn
    have horder := equals_iff.1 hxy
    rw [order_of_null hn] at horder
    exact absurd horder (by simp)
  exact ⟨ne_null h, ne_null (equals_comm a b ▸ h)⟩

end Operand

end SheetExport
