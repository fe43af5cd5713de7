import Mathlib.Data.List.TakeWhile
import SheetExport.Proofs.Patterns
import SheetExport.Proofs.Tokens
import SheetExport.Store.Limit
import SheetExport.Store.Truth

/-!
# Contained texts

A filter value stands in its pattern as it is, between two `%`. Where the value occurs in a stored
text the pattern matches, also if the value itself has wildcards. Without wildcards the pattern
matches nothing else, but for the characters that the engine takes for one another.
-/

namespace SheetExport.Store

open Sql (Condition Reference)

/-- The characters of a text that a pattern is matched with: a zero ends them. -/
def visible (x : String) : List Char := x.toList.takeWhile (· ≠ '\x00')

/-- A text is a part of another one, where characters count by what is made of them. -/
def OccursBy (reading : Char → Char) (v x : List Char) : Prop := v.map reading <:+: x.map reading

/-- What the engine tells characters apart by. -/
def foldedChar (c : Char) : Char := readChar c.toLower

/-! ## Characters -/

theorem toNat_toLower (c : Char) : c.toLower.toNat = foldedCode c.toNat := by
  have hu : c.val ≥ 'A'.val ∧ c.val ≤ 'Z'.val ↔ 65 ≤ c.toNat ∧ c.toNat ≤ 90 := by
    rw [ge_iff_le, UInt32.le_iff_toNat_le, UInt32.le_iff_toNat_le]
    rfl
  unfold Char.toLower foldedCode
  by_cases h : 65 ≤ c.toNat ∧ c.toNat ≤ 90
  · rw [dif_pos (hu.2 h), if_pos h]
    change (c.val + ('a'.val - 'A'.val)).toNat = c.val.toNat + 32
    rw [UInt32.toNat_add, show ('a'.val - 'A'.val).toNat = 32 from rfl]
    have : c.val.toNat ≤ 90 := h.2
    omega
  · rw [dif_neg (mt hu.1 h), if_neg h]

theorem foldedCode_readChar (c : Char) : foldedCode (readChar c).toNat = (foldedChar c).toNat := by
  by_cases hs : c = '\uFFFE' ∨ c = '\uFFFF'
  · rcases hs with rfl | rfl <;> decide
  · have hl : readChar c.toLower = c.toLower := by
      by_cases hu : 65 ≤ c.toNat ∧ c.toNat ≤ 90
      · refine readChar_of_short ?_
        rw [toNat_toLower, foldedCode, if_pos hu]
        omega
      · have : c.toLower = c := by
          rw [← Char.toNat_inj, toNat_toLower, foldedCode, if_neg hu]
        rw [this]
        exact if_neg hs
    rw [foldedChar, hl, toNat_toLower, readChar, if_neg hs]

theorem foldedCodes_eq (cs : List Char) :
    ((cs.map readChar).map Char.toNat).map foldedCode = (cs.map foldedChar).map Char.toNat := by
  rw [List.map_map, List.map_map, List.map_map]
  exact List.map_congr_left fun c _ => foldedCode_readChar c

theorem infix_map_toNat {a b : List Char} : a.map Char.toNat <:+: b.map Char.toNat ↔ a <:+: b := by
  refine ⟨?_, fun h => h.map _⟩
  rintro ⟨before, after, h⟩
  obtain ⟨l, r, rfl, hl, -⟩ := List.map_eq_append_iff.1 h.symm
  obtain ⟨pre, u, rfl, -, hu⟩ := List.map_eq_append_iff.1 hl
  rw [List.map_injective_iff.2 (fun _ _ => Char.toNat_inj.1) hu]
  exact ⟨pre, r, rfl⟩

theorem occursBy_foldedChar {v x : List Char} (h : OccursBy Char.toLower v x) :
    OccursBy foldedChar v x := by
  have := h.map readChar
  rwa [List.map_map, List.map_map] at this

/-! ## Patterns of values -/

theorem codesOf_visible (x : String) :
    codesOf (bytesOf x) = ((visible x).map readChar).map Char.toNat := codesOf_bytesOf x

theorem codesOf_containing {v : String} (h : '\x00' ∉ v.toList) :
    codesOf (bytesOf (Condition.containing v)) =
      anyText :: ((v.toList.map readChar).map Char.toNat ++ [anyText]) := by
  have hp : (Condition.containing v).toList = '%' :: (v.toList ++ ['%']) := by
    simp [Condition.containing]
  have hn : ∀ c ∈ (Condition.containing v).toList, decide (c ≠ '\x00') = true := by
    intro c hc
    rw [decide_eq_true_eq]
    rintro rfl
    simp [hp, h] at hc
  have hv : visible (Condition.containing v) = '%' :: (v.toList ++ ['%']) := by
    rw [visible, List.takeWhile_eq_self_iff.2 hn, hp]
  rw [codesOf_visible, hv]
  simp only [List.map_cons, List.map_append, List.map_nil]
  rfl

/-- No other character is read as one of ASCII. -/
theorem mem_readCodes {d : Char} (hd : d.toNat < 0x80) {cs : List Char}
    (h : d.toNat ∈ (cs.map readChar).map Char.toNat) : d ∈ cs := by
  obtain ⟨r, hr, hrd⟩ := List.mem_map.1 h
  obtain ⟨c, hc, rfl⟩ := List.mem_map.1 hr
  have hcd : readChar c = d := Char.toNat_inj.1 hrd
  unfold readChar at hcd
  split at hcd
  · rw [← hcd] at hd
    exact absurd hd (by decide)
  · rwa [← hcd]

section

variable {now : Int} {o : Operand} {v x : String}

theorem conditionTruth_contains (ho : o.value = .text x) (v : String) (cast : Option Cast) :
    conditionTruth now o (.ofRule .contains v cast) =
      some (likeCodes (codesOf (bytesOf (Condition.containing v))) (codesOf (bytesOf x))) := by
  unfold Condition.ofRule conditionTruth like
  rw [ho]
  rfl

theorem conditionTruth_notContains (now : Int) (o : Operand) (v : String) (cast : Option Cast) :
    conditionTruth now o (.ofRule .notContains v cast) =
      (conditionTruth now o (.ofRule .contains v cast)).not := rfl

theorem contains_of_occurs (hv : '\x00' ∉ v.toList) (ho : o.value = .text x) (cast : Option Cast)
    (h : OccursBy foldedChar v.toList (visible x)) :
    conditionTruth now o (.ofRule .contains v cast) = some true := by
  rw [conditionTruth_contains ho, codesOf_containing hv, codesOf_visible, Option.some.injEq]
  refine likeCodes_of_spelled ?_
  rw [foldedCodes_eq, foldedCodes_eq]
  exact infix_map_toNat.2 h

theorem occurs_of_contains (hv : '\x00' ∉ v.toList) (ho : o.value = .text x) (ha : '%' ∉ v.toList)
    (hc : '_' ∉ v.toList) {cast : Option Cast}
    (h : conditionTruth now o (.ofRule .contains v cast) = some true) :
    OccursBy foldedChar v.toList (visible x) := by
  rw [conditionTruth_contains ho, codesOf_containing hv, codesOf_visible, Option.some.injEq] at h
  have hany : anyText ∉ (v.toList.map readChar).map Char.toNat :=
    mt (mem_readCodes (by decide)) ha
  have hone : anyCode ∉ (v.toList.map readChar).map Char.toNat :=
    mt (mem_readCodes (by decide)) hc
  have := spelled_of_likeCodes hany hone h
  rw [foldedCodes_eq, foldedCodes_eq] at this
  exact infix_map_toNat.1 this

theorem isLongPattern_containing (r : Reference) {rule : Rule}
    (h : rule = .contains ∨ rule = .notContains) (v : String) (cast : Option Cast) :
    isLongPattern (.test (.holds r (.ofRule rule v cast))) = true ↔ 49998 < v.utf8ByteSize := by
  have hs : (Condition.containing v).utf8ByteSize = v.utf8ByteSize + 2 := by
    unfold Condition.containing
    rw [String.utf8ByteSize_append, String.utf8ByteSize_append, show "%".utf8ByteSize = 1 from rfl]
    omega
  have hp : isLongPattern (.test (.holds r (.ofRule rule v cast))) =
      decide (patternLimit < (Condition.containing v).utf8ByteSize) := by
    rcases h with rfl | rfl <;> rfl
  rw [hp, decide_eq_true_eq, hs, patternLimit]
  omega

/-! ## The comparison of a contained value -/

/-- The comparison that looks for a value in a column is written with the value in one text, finds
the value wherever it occurs in what is visible of a stored text, and finds no more if the value
has no wildcard. -/
theorem contains_finds_occurrences (hv : '\x00' ∉ v.toList) (ho : o.value = .text x)
    (cast : Option Cast) :
    (OccursBy Char.toLower v.toList (visible x) →
        conditionTruth now o (.ofRule .contains v cast) = some true ∧
        conditionTruth now o (.ofRule .notContains v cast) = some false) ∧
      ('%' ∉ v.toList → '_' ∉ v.toList →
        (conditionTruth now o (.ofRule .contains v cast) = some true ↔
          OccursBy foldedChar v.toList (visible x)) ∧
        (conditionTruth now o (.ofRule .notContains v cast) = some true ↔
          ¬ OccursBy foldedChar v.toList (visible x))) ∧
      (∀ column : Reference, Sql.lex ((Condition.ofRule .contains v cast).render column.render) =
        column.tokens ++ [.word "LIKE", .text ("%" ++ v ++ "%")]) ∧
      ∀ (column : Reference) (rule : Rule), rule = .contains ∨ rule = .notContains →
        (isLongPattern (.test (.holds column (.ofRule rule v cast))) = true ↔
          49998 < v.utf8ByteSize) := by
  refine ⟨fun h => ?_, fun ha hc => ?_, fun column => ?_, fun column rule h => ?_⟩
  · have found : conditionTruth now o (.ofRule .contains v cast) = some true :=
      contains_of_occurs hv ho cast (occursBy_foldedChar h)
    refine ⟨found, ?_⟩
    rw [conditionTruth_notContains, found]
    rfl
  · have found : conditionTruth now o (.ofRule .contains v cast) = some true ↔
        OccursBy foldedChar v.toList (visible x) :=
      ⟨occurs_of_contains hv ho ha hc, contains_of_occurs hv ho cast⟩
    refine ⟨found, ?_⟩
    rw [← found, conditionTruth_notContains, conditionTruth_contains ho]
    cases likeCodes _ _ <;> decide
  · have hl : Sql.lex " LIKE " = [.word "LIKE"] := by decide
    have := (Sql.lexes_condition (Sql.lexes_reference column)
      (show (Condition.ofRule .contains v cast).IsLexical from trivial)).lex
    rw [this]
    change column.tokens ++ Sql.lex " LIKE " ++ [.text (Condition.containing v)] = _
    rw [hl, List.append_assoc]
    rfl
  · exact isLongPattern_containing column h v cast

end

/-- The first value has a wildcard and stands in the text in other letters, the second has none and
is not there. -/
theorem contains_finds_occurrences_discount :
    ('\x00' ∉ "50% off".toList ∧
        OccursBy Char.toLower "50% off".toList (visible "It's 50% OFF") ∧
        conditionTruth 0 ⟨some .text, .text "It's 50% OFF"⟩ (.ofRule .contains "50% off" none) =
          some true) ∧
      '\x00' ∉ "its".toList ∧ '%' ∉ "its".toList ∧ '_' ∉ "its".toList ∧
        ¬ OccursBy foldedChar "its".toList (visible "It's 50% OFF") ∧
        conditionTruth 0 ⟨some .text, .text "It's 50% OFF"⟩ (.ofRule .notContains "its" none) =
          some true := by
  have hv : '\x00' ∉ "50% off".toList := by decide
  have hw : '\x00' ∉ "its".toList := by decide
  have ho : OccursBy Char.toLower "50% off".toList (visible "It's 50% OFF") := by
    unfold OccursBy
    decide
  have hn : ¬ OccursBy foldedChar "its".toList (visible "It's 50% OFF") := by
    unfold OccursBy
    decide
  refine ⟨⟨hv, ho, ((contains_finds_occurrences hv rfl none).1 ho).1⟩, hw, by decide, by decide, hn,
    ?_⟩
  exact ((contains_finds_occurrences hw rfl none).2.1 (by decide) (by decide)).2.2 hn

/-- What stands after a zero in a stored text is not found. -/
theorem contains_misses_after_zero :
    ¬ ∀ (now : Int) (v x : String) (o : Operand) (cast : Option Cast), o.value = .text x →
      OccursBy Char.toLower v.toList x.toList →
        conditionTruth now o (.ofRule .contains v cast) = some true ∧
          conditionTruth now o (.ofRule .notContains v cast) = some false := by
  intro h
  have hb : OccursBy Char.toLower "b".toList "a\x00b".toList := ⟨['a', '\x00'], [], by decide⟩
  have found := (h 0 "b" "a\x00b" ⟨some .text, .text "a\x00b"⟩ none rfl hb).1
  rw [conditionTruth_contains rfl, codesOf_containing (by decide), codesOf_visible] at found
  exact absurd found (by decide)

end SheetExport.Store
