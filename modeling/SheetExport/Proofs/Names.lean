import SheetExport.Plan

/-!
# Names in a query

Table names are told apart without regard to the case of ASCII letters. A numbered name has a stem
of small letters and a number after it, so it differs from every table of a site and from every
numbered name with another stem or another number.
-/

namespace SheetExport

open Text

/-! ## Equality of names -/

theorem sameName_iff {a b : String} : sameName a b = true ↔ lowerAscii a = lowerAscii b := by
  simp [sameName]

@[simp] theorem sameName_self (a : String) : sameName a a = true := by simp [sameName]

theorem sameName_comm (a b : String) : sameName a b = sameName b a := by
  simp only [sameName, Bool.beq_comm]

theorem sameName_congr {a b : String} (h : sameName a b = true) (c : String) :
    sameName a c = sameName b c := by
  simp [sameName, sameName_iff.1 h]

theorem toList_lowerAscii (s : String) : (lowerAscii s).toList = s.toList.map Char.toLower := by
  simp [lowerAscii]

/-! ## Numbered names -/

/-- The stem of a numbered name. -/
def IsStem (s : String) : Prop := ∀ c ∈ s.toList, c.isLower = true

instance (s : String) : Decidable (IsStem s) :=
  decidable_of_iff (s.toList.all Char.isLower = true) List.all_eq_true

theorem isLower_iff_toNat {c : Char} : c.isLower = true ↔ 97 ≤ c.toNat ∧ c.toNat ≤ 122 := by
  change (decide (97 ≤ c.val) && decide (c.val ≤ 122)) = true ↔ _
  simp [UInt32.le_iff_toNat_le, ← Char.toNat_val]

theorem toLower_of_toNat {c : Char} (h : c.toNat < 65 ∨ 90 < c.toNat) : c.toLower = c := by
  refine dif_neg ?_
  simp only [GE.ge, UInt32.le_iff_toNat_le, Char.toNat_val]
  have : 'A'.toNat = 65 := rfl
  have : 'Z'.toNat = 90 := rfl
  omega

theorem toLower_of_isLower {c : Char} (h : c.isLower = true) : c.toLower = c := by
  have := isLower_iff_toNat.1 h
  exact toLower_of_toNat (by omega)

theorem toNat_of_isDigit {c : Char} (h : c.isDigit = true) : 48 ≤ c.toNat ∧ c.toNat ≤ 57 :=
  Char.isDigit_iff_toNat.1 h

theorem toLower_of_isDigit {c : Char} (h : c.isDigit = true) : c.toLower = c := by
  have := toNat_of_isDigit h
  exact toLower_of_toNat (by omega)

theorem not_isLower_of_isDigit {c : Char} (h : c.isDigit = true) : c.isLower = false := by
  have := toNat_of_isDigit h
  rw [← Bool.not_eq_true, isLower_iff_toNat]
  omega

theorem toList_toString (n : Nat) : (toString n).toList = Nat.toDigits 10 n := by
  rw [Nat.toString_eq_repr, Nat.toList_repr]

theorem isDigit_of_mem_toString {n : Nat} {c : Char} (h : c ∈ (toString n).toList) :
    c.isDigit = true := by
  rw [toList_toString] at h
  exact Nat.isDigit_of_mem_toDigits (by decide) (by decide) h

theorem toString_nat_inj {m n : Nat} : toString m = toString n ↔ m = n := by
  constructor
  · intro h
    have hl := congrArg String.toList h
    rw [toList_toString, toList_toString] at hl
    rw [← Nat.ofDigitChars_ten_toDigits (n := m), hl, Nat.ofDigitChars_ten_toDigits]
  · rintro rfl
    rfl

theorem toList_numbered (stem : String) (i : Nat) :
    (numbered stem i).toList = stem.toList ++ (toString i).toList := by
  simp [numbered]

theorem lowerAscii_numbered {stem : String} (h : IsStem stem) (i : Nat) :
    lowerAscii (numbered stem i) = numbered stem i := by
  apply String.toList_inj.1
  rw [toList_lowerAscii, toList_numbered, List.map_append]
  have hs : stem.toList.map Char.toLower = stem.toList :=
    (List.map_congr_left fun c hc => toLower_of_isLower (h c hc)).trans (List.map_id _)
  have hd : (toString i).toList.map Char.toLower = (toString i).toList :=
    (List.map_congr_left fun c hc => toLower_of_isDigit (isDigit_of_mem_toString hc)).trans
      (List.map_id _)
  rw [hs, hd]

theorem takeWhile_numbered {stem : String} (h : IsStem stem) (i : Nat) :
    (numbered stem i).toList.takeWhile Char.isLower = stem.toList := by
  rw [toList_numbered, List.takeWhile_append_of_pos h]
  have hd : (toString i).toList.takeWhile Char.isLower = [] := by
    cases hi : (toString i).toList with
    | nil => rfl
    | cons c cs =>
      have hc : c ∈ (toString i).toList := hi ▸ List.mem_cons_self
      rw [List.takeWhile_cons, not_isLower_of_isDigit (isDigit_of_mem_toString hc)]
      rfl
  rw [hd, List.append_nil]

theorem numbered_inj {a b : String} (ha : IsStem a) (hb : IsStem b) {i j : Nat} :
    numbered a i = numbered b j ↔ a = b ∧ i = j := by
  constructor
  · intro h
    have hab : a = b := by
      apply String.toList_inj.1
      rw [← takeWhile_numbered ha i, ← takeWhile_numbered hb j, h]
    subst hab
    have hl := congrArg String.toList h
    rw [toList_numbered, toList_numbered, List.append_cancel_left_eq] at hl
    exact ⟨rfl, toString_nat_inj.1 (String.toList_inj.1 hl)⟩
  · rintro ⟨rfl, rfl⟩
    rfl

theorem sameName_numbered {a b : String} (ha : IsStem a) (hb : IsStem b) (i j : Nat) :
    sameName (numbered a i) (numbered b j) = (decide (a = b) && decide (i = j)) := by
  rw [Bool.eq_iff_iff, sameName_iff, lowerAscii_numbered ha, lowerAscii_numbered hb,
    numbered_inj ha hb]
  simp

/-! ## Tables of a site -/

/-- A name that no numbered name equals, since no digit stands at its end. -/
def Unnumbered (s : String) : Prop := ∃ c ∈ s.toList.getLast?, c.toLower.isDigit = false

theorem Unnumbered.sameName {s : String} (h : Unnumbered s) {stem : String} (hs : IsStem stem)
    (i : Nat) : sameName s (numbered stem i) = false := by
  obtain ⟨c, hc, hd⟩ := h
  rw [← Bool.not_eq_true, sameName_iff, lowerAscii_numbered hs]
  intro he
  have hl := congrArg (fun l => (String.toList l).getLast?) he
  simp only [toList_lowerAscii, List.getLast?_map, Option.mem_def.1 hc, Option.map_some] at hl
  have hm : c.toLower ∈ (toString i).toList := by
    rw [toList_numbered, List.getLast?_append] at hl
    cases hi : (toString i).toList.getLast? with
    | none =>
      rw [List.getLast?_eq_none_iff, toList_toString] at hi
      exact absurd hi Nat.toDigits_ne_nil
    | some d =>
      rw [hi] at hl
      simp only [Option.some_or, Option.some.injEq] at hl
      rw [hl]
      exact List.mem_of_getLast? hi
  rw [isDigit_of_mem_toString hm] at hd
  exact Bool.noConfusion hd

theorem unnumbered_append {p s : String} (h : Unnumbered s) : Unnumbered (p ++ s) := by
  obtain ⟨c, hc, hd⟩ := h
  refine ⟨c, ?_, hd⟩
  rw [String.toList_append, List.getLast?_append, Option.mem_def.1 hc]
  rfl

theorem unnumbered_entityTable (schema : Schema) (typeName : String) :
    Unnumbered (schema.entityType typeName).entityTable := by
  unfold Schema.entityType
  split
  · exact unnumbered_append ⟨'s', by decide, by decide⟩
  · split
    · exact unnumbered_append ⟨'s', by decide, by decide⟩
    · split
      · exact unnumbered_append ⟨'s', by decide, by decide⟩
      · exact unnumbered_append ⟨'s', by decide, by decide⟩

end SheetExport
