import SheetExport.Proofs.Comparisons
import SheetExport.Proofs.ScannedKeys
import SheetExport.Proofs.SelectedIds
import SheetExport.Proofs.StoredRanges

/-!
# Number filters and the values they are copied from

A number filter writes the number at the front of its value as a literal, and the store reads the
literal and the stored texts in its own way. Both find the same numeral unless a blank before it is
not of ASCII, and for the numerals listed here the literal stands for the number that the store
reads from the numeral itself.
-/

namespace SheetExport

open Binary64 (RoundsTo Counted)
open Text (isBlank isAsciiBlank)

/-! ## The numeral at the front -/

namespace Numeral

theorem isBlank_of_isAsciiBlank {c : Char} (h : isAsciiBlank c = true) : isBlank c = true := by
  unfold isAsciiBlank at h
  rw [Bool.or_eq_true] at h
  rcases h with h | h
  · simp [isBlank, h]
  · rw [beq_iff_eq] at h
    rw [h]
    rfl

theorem isDigit_of_isBlank {c : Char} (h : isBlank c = true) : c.isDigit = false := by
  by_contra hd
  have := toNat_of_isDigit (Bool.not_eq_false _ ▸ hd)
  simp only [isBlank, Bool.or_eq_true, Bool.and_eq_true, decide_eq_true_eq, beq_iff_eq] at h
  omega

theorem scan_of_isBlank {c : Char} (h : isBlank c = true) (cs : List Char) :
    scan (c :: cs) = none := by
  have hd := isDigit_of_isBlank h
  have hne (d : Char) (hd : isBlank d = false) : c ≠ d := by
    rintro rfl
    rw [h] at hd
    exact absurd hd (by decide)
  have hsign : takeSign (c :: cs) = (false, c :: cs) := by
    unfold takeSign
    split
    · exact absurd (List.cons.inj ‹_›).1 (hne '-' rfl)
    · exact absurd (List.cons.inj ‹_›).1 (hne '+' rfl)
    · rfl
  have hfraction : takeFraction [] (c :: cs) = ([], c :: cs) := by
    unfold takeFraction
    split
    · exact absurd (List.cons.inj ‹_›).1 (hne '.' rfl)
    · rfl
  simp [scan, hsign, hd, hfraction]

section

variable {blank : Char → Bool} {cs : List Char}

theorem dropWhile_of_scan (hb : ∀ c, blank c = true → isBlank c = true) (h : scan cs ≠ none) :
    cs.dropWhile blank = cs := by
  cases cs with
  | nil => rfl
  | cons c cs =>
    refine List.dropWhile_cons_of_neg fun hc => ?_
    exact h (scan_of_isBlank (hb c hc) cs)

end

/-- The store finds the numeral that a filter finds, unless a blank before it is not of ASCII. -/
theorem atStart_isAsciiBlank (v : String) : atStart? isAsciiBlank v =
    if (v.toList.takeWhile isBlank).all isAsciiBlank then atStart? isBlank v else none := by
  unfold atStart?
  generalize v.toList = cs
  induction cs with
  | nil => rfl
  | cons c cs ih =>
    by_cases ha : isAsciiBlank c = true
    · have hb := isBlank_of_isAsciiBlank ha
      simpa [ha, hb] using ih
    · by_cases hb : isBlank c = true
      · simp [ha, hb, scan_of_isBlank hb]
      · simp [ha, hb]

theorem ofStoredText_some {s : String} {x : Numeral} (h : atStart? isAsciiBlank s = some x) :
    Binary64.ofStoredText s = x.stored := by
  rw [Binary64.ofStoredText, h]

theorem ofStoredText_none {s : String} (h : atStart? isAsciiBlank s = none) :
    Binary64.ofStoredText s = .zero := by
  rw [Binary64.ofStoredText, h]

/-! ## The literal of a filter -/

theorem Writes.read {s : String} {negative : Bool} {m : ℚ} (h : Writes s.toList negative m) :
    ∃ y, atStart? isAsciiBlank s = some y ∧ ofWhole? s = some y ∧ y.negative = negative ∧
      y.magnitude = m := by
  obtain ⟨y, hy, hn, hm⟩ := h
  have hdrop : s.toList.dropWhile isAsciiBlank = s.toList :=
    dropWhile_of_scan (fun c => isBlank_of_isAsciiBlank) (by rw [hy]; simp)
  refine ⟨y, ?_, ?_, hn, hm⟩
  · rw [atStart?, hdrop, hy]
    rfl
  · rw [ofWhole?, hdrop, hy]
    rfl

section

variable {x y : Numeral} {u : ℕ}

theorem digits_eq_zero (h : x.magnitude = 0) : x.digits = 0 := by
  by_contra hne
  exact (magnitude_pos hne).ne' h

theorem Reads.range (h : x.Reads u) (hu : 0 < u) :
    (10 : ℚ) ^ (-380 : ℤ) ≤ x.magnitude ∧ x.magnitude < 10 ^ (401 : ℤ) := by
  have hone := Binary64.cast_one_pos
  have hu1 : (1 : ℚ) ≤ u := by exact_mod_cast hu
  have hhalf := Decimal.half_le hu h.rounds
  have hgap := Decimal.gap_le hu
  have hhigh := h.rounds.high
  have hlt : (u : ℚ) < Binary64.limit := by exact_mod_cast h.lt
  have hlast := Decimal.lastPlace_bounds.2
  have hlimit := Binary64.limit_le
  have hsmall : (10 : ℚ) ^ (-380 : ℤ) = 10 ^ Decimal.lastPlace * 10 ^ (-57 : ℤ) :=
    zpow_add₀ (by norm_num) (-323) (-57)
  have hlarge : (10 : ℚ) ^ (401 : ℤ) = 10 ^ ((309 : ℕ) : ℤ) * 10 ^ (92 : ℤ) :=
    zpow_add₀ (by norm_num) 309 92
  rw [← mul_le_mul_iff_of_pos_right hone, ← mul_lt_mul_iff_of_pos_right hone, hsmall, hlarge,
    mul_right_comm _ ((10 : ℚ) ^ (-57 : ℤ)), mul_right_comm _ ((10 : ℚ) ^ (92 : ℤ))]
  generalize x.magnitude * Binary64.one = r at hhalf hhigh ⊢
  generalize (10 : ℚ) ^ Decimal.lastPlace * Binary64.one = place at hlast ⊢
  generalize (10 : ℚ) ^ ((309 : ℕ) : ℤ) * Binary64.one = power at hlimit ⊢
  generalize (Binary64.limit : ℚ) = bound at hlimit hlt
  norm_num
  constructor
  · linarith only [hlast, hhalf, hu1]
  · linarith only [hlimit, hlt, hhigh, hgap, hu1]

theorem stored_of_written (hx : x.Reads u) (hm : writtenMagnitude u = x.magnitude)
    (hn : y.negative = x.negative) (hy : y.magnitude = x.magnitude) : y.stored = x.stored := by
  rcases Nat.eq_zero_or_pos u with rfl | hu
  · have h0 : x.magnitude = 0 := hm.symm.trans (if_pos rfl)
    rw [stored_zero (digits_eq_zero h0), stored_zero (digits_eq_zero (hy.trans h0)), hn]
  · obtain ⟨hl, hh⟩ := hx.range hu
    obtain ⟨c, p, hc, hshort⟩ := Decimal.exists_short .upward hu
    rw [writtenMagnitude, if_neg hu.ne', hshort] at hm
    refine stored_congr hn hy ⟨c, p, hc.trans_lt (by decide), hy.trans hm.symm⟩ ?_ ?_
    · rwa [hy]
    · rwa [hy]

theorem written_of_few {d : ℕ} {q : ℤ} (hx : x.Reads u) (hd : d < 10 ^ 15)
    (hq : Decimal.lastPlace ≤ q) (h : x.magnitude = d * 10 ^ q) :
    writtenMagnitude u = x.magnitude := by
  have hr := hx.rounds
  rw [h] at hr ⊢
  rcases Nat.eq_zero_or_pos u with rfl | hu
  · have hone := Binary64.cast_one_pos
    have hd0 : d = 0 := by
      by_contra hne
      have hd1 : (1 : ℚ) ≤ d := by exact_mod_cast Nat.one_le_iff_ne_zero.2 hne
      have hlast : (10 : ℚ) ^ Decimal.lastPlace ≤ 10 ^ q := zpow_le_zpow_right₀ (by norm_num) hq
      have hcount : (10 : ℚ) ^ q ≤ d * 10 ^ q :=
        le_mul_of_one_le_left (zpow_nonneg (by norm_num) q) hd1
      have hlarge := Decimal.lastPlace_bounds.1.trans
        ((mul_le_mul_of_nonneg_right (hlast.trans hcount) hone.le).trans hr.high)
      rw [Binary64.gap_zero, Nat.cast_zero] at hlarge
      norm_num at hlarge
    rw [writtenMagnitude, if_pos rfl, hd0, Nat.cast_zero, zero_mul]
  · rw [writtenMagnitude, if_neg hu.ne']
    exact Decimal.magnitude_shortest_of_fifteen hu hd hq hr

theorem Reads.whole {k : ℕ} (h : x.Reads u) (hk : 0 < k) (hm : x.magnitude = k) :
    ∃ j, 0 < j ∧ u = j * Binary64.one := by
  obtain ⟨n, e, hc⟩ := h.counted
  rcases Nat.le_total 1074 e with he | he
  · obtain ⟨i, rfl⟩ := Nat.exists_eq_add_of_le he
    have hn : 0 < n := lt_of_lt_of_le (by decide) (hc.normal.resolve_left (by omega))
    refine ⟨n * 2 ^ i, Nat.mul_pos hn (Nat.two_pow_pos i), ?_⟩
    rw [hc.eq, Nat.add_comm 1074 i, ← twoTo_eq (i + 1074), twoTo_add, ← mul_assoc, twoTo_eq i]
    rfl
  · obtain ⟨i, hi⟩ := Nat.exists_eq_add_of_le he
    have hone : Binary64.one = 2 ^ i * 2 ^ e := by
      rw [Binary64.one, hi, Nat.add_comm, twoTo_add, twoTo_eq, twoTo_eq]
    -- A number with a finer gap than one is not rounded when it is whole.
    have hratio : x.magnitude * Binary64.one / 2 ^ e = (k * 2 ^ i : ℕ) := by
      have hpow : (2 : ℚ) ^ e ≠ 0 := by positivity
      rw [hm, hone]
      push_cast
      field_simp
    obtain ⟨hlow, hhigh, -⟩ := hc.roundsTo_iff.1 h.rounds
    have hreach : Binary64.reach n e ≤ 1 / 2 := by
      unfold Binary64.reach
      split <;> norm_num
    rw [hratio] at hlow hhigh
    have hle : n < k * 2 ^ i + 1 := by
      have : (n : ℚ) < (k * 2 ^ i + 1 : ℕ) := by
        rw [Nat.cast_add_one]
        linarith only [hlow, hreach]
      exact_mod_cast this
    have hge : k * 2 ^ i < n + 1 := by
      have : ((k * 2 ^ i : ℕ) : ℚ) < (n + 1 : ℕ) := by
        rw [Nat.cast_add_one]
        linarith only [hhigh]
      exact_mod_cast this
    refine ⟨k, hk, ?_⟩
    rw [hc.eq, hone, ← mul_assoc, show n = k * 2 ^ i by omega]

theorem gap_whole {j : ℕ} (hj : 0 < j) (hu : u = j * Binary64.one) :
    2 ^ 52 * Binary64.gap u ≤ u := by
  have hle : 2 ^ (52 + Binary64.gapExponent u) ≤ u := by
    rcases (Binary64.gapExponent_bounds u).1 with he | he
    · have hone : twoTo 52 ≤ Binary64.one := twoTo_le (n := 1074) (by decide)
      rw [he, Nat.add_zero, ← twoTo_eq, hu]
      exact hone.trans (Nat.le_mul_of_pos_left _ hj)
    · exact he
  rw [pow_add] at hle
  unfold Binary64.gap
  exact_mod_cast hle

/-- Two whole numbers that are rounded to one number are close to each other. -/
theorem fits_of_whole {k m : ℕ} (hgap : 2 ^ 52 * Binary64.gap u ≤ u) (hk : k < 10 ^ 19)
    (hrk : RoundsTo (k * Binary64.one) u) (hrm : RoundsTo (m * Binary64.one) u) :
    m < 10 * enoughDigits := by
  have hone := Binary64.cast_one_pos
  have hbelow := Binary64.below_le u
  have hk' : (k : ℚ) * Binary64.one ≤ 10 ^ 19 * Binary64.one :=
    mul_le_mul_of_nonneg_right (by exact_mod_cast hk.le) hone.le
  have hlow := hrk.low
  have hhigh := hrm.high
  have hlt : (m : ℚ) * Binary64.one < (10 * enoughDigits : ℕ) * Binary64.one := by
    rw [show ((10 * enoughDigits : ℕ) : ℚ) = 18446744073709551600 by norm_num [enoughDigits]]
    generalize (Binary64.one : ℚ) = w at hk' hlow hhigh hone ⊢
    norm_num at hgap hk'
    linarith only [hgap, hk', hlow, hhigh, hbelow, hone]
  exact_mod_cast (mul_lt_mul_iff_of_pos_right hone).1 hlt

theorem stored_of_whole {k : ℕ} (hx : x.Reads u) (hk : k < 10 ^ 19) (h : x.magnitude = k)
    (hn : y.negative = x.negative) (hy : y.magnitude = writtenMagnitude u) :
    y.stored = x.stored := by
  rcases Nat.eq_zero_or_pos k with rfl | hpos
  · have hwritten := written_of_few (d := 0) hx (by decide) le_rfl (by
      rw [h, Nat.cast_zero, zero_mul])
    exact stored_of_written hx hwritten hn (hy.trans hwritten)
  obtain ⟨j, hj, hju⟩ := hx.whole hpos h
  have hu : 0 < u := hju ▸ Nat.mul_pos hj Decimal.one_pos
  -- The literal is a whole number too, and is rounded back to the same one.
  obtain ⟨m, hm⟩ := Decimal.magnitude_shortest_whole .upward hj
  rw [← hju] at hm
  have hround := Decimal.roundsTo_shortest .upward hu
  rw [writtenMagnitude, if_neg hu.ne', hm] at hy
  rw [hm] at hround
  have hrounds := hx.rounds
  rw [h] at hrounds
  have hfit := fits_of_whole (gap_whole hj hju) hk hrounds hround
  have hmpos : 0 < m := by
    refine Nat.pos_of_ne_zero ?_
    rintro rfl
    have hhalf := Decimal.half_le hu hround
    have hu' : (0 : ℚ) < u := by exact_mod_cast hu
    rw [Nat.cast_zero, zero_mul] at hhalf
    linarith only [hhalf, hu']
  obtain ⟨num, den, hd, hr, hs⟩ := stored_whole hpos (hk.trans (by decide)) h
  obtain ⟨num', den', hd', hr', hs'⟩ := stored_whole hmpos hfit hy
  obtain ⟨n, e, hc⟩ := hx.counted
  rw [← hr'] at hround
  rw [← h] at hr
  rw [hs, hs', hn, hx.ofUnits_eq _ hd hr, Binary64.ofUnits_eq hc hx.lt _ hd' hround]

end

/-! ## Numerals that are kept -/

/-- The numerals that a literal hands on without loss: those of up to fifteen digits that end before
the last place, whole numbers of up to nineteen digits, magnitudes past both ends of the format, and
whatever the literal repeats. -/
inductive Kept (x : Numeral) : Prop
  | few (d : ℕ) (q : ℤ) (hd : d < 10 ^ 15) (hq : -323 ≤ q) (h : x.magnitude = d * 10 ^ q)
  | whole (k : ℕ) (hk : k < 10 ^ 19) (h : x.magnitude = k)
  | infinite (negative : Bool) (h : x.toBinary64 = .infinite negative)
  | faint (h : x.magnitude ≤ 2 * 10 ^ (-324 : ℤ))
  | written (y : Numeral) (hy : ofWhole? x.toBinary64.literal = some y)
      (h : y.magnitude = x.magnitude)

section

variable {x : Numeral}

theorem toBinary64_ne_undefined (x : Numeral) : x.toBinary64 ≠ .undefined := by
  rcases toBinary64_cases x with ⟨h, -⟩ | ⟨h, -⟩ | ⟨num, den, -, -, h⟩
  · simp [h]
  · simp [h]
  · exact h ▸ Binary64.ofUnits_ne_undefined _ _ _

theorem stored_literal_infinite {negative : Bool} (h : x.toBinary64 = .infinite negative) :
    Binary64.ofStoredText x.toBinary64.literal = x.stored := by
  obtain ⟨rfl, hm⟩ := halfway_le_of_toBinary64 h
  have hread : atStart? isAsciiBlank (Binary64.infinite x.negative).literal =
      some ⟨x.negative, 9, 999⟩ := by
    cases x.negative <;> rfl
  rw [h, stored_infinite hm, ofStoredText_some hread]
  cases x.negative <;> rfl

theorem stored_literal_finite {u : ℕ} (h : x.toBinary64 = .finite x.negative u) :
    ∃ y : Numeral, ofWhole? x.toBinary64.literal = some y ∧ y.negative = x.negative ∧
      y.magnitude = writtenMagnitude u ∧ Binary64.ofStoredText x.toBinary64.literal = y.stored := by
  obtain ⟨y, hread, hwhole, hn, hm⟩ := (writes_literal x.negative u).read
  rw [← h] at hread hwhole
  exact ⟨y, hwhole, hn, hm, ofStoredText_some hread⟩

theorem Kept.stored_literal (hk : x.Kept) :
    Binary64.ofStoredText x.toBinary64.literal = x.stored := by
  cases hx : x.toBinary64 with
  | undefined => exact absurd hx (toBinary64_ne_undefined x)
  | infinite negative => exact hx ▸ stored_literal_infinite hx
  | finite negative u =>
    obtain ⟨rfl, hr⟩ := reads_of_toBinary64 hx
    obtain ⟨y, hwhole, hn, hm, hs⟩ := stored_literal_finite hx
    rw [← hx, hs]
    cases hk with
    | few d q hd hq h =>
      have hwritten := written_of_few hr hd hq h
      exact stored_of_written hr hwritten hn (hm.trans hwritten)
    | whole k hk h => exact stored_of_whole hr hk h hn hm
    | infinite negative h => exact absurd (hx.symm.trans h) (by simp)
    | faint h =>
      rw [toBinary64_faint h] at hx
      cases hx
      rw [stored_faint h, stored_zero (digits_eq_zero (hm.trans (if_pos rfl))), hn]
    | written z hz h =>
      obtain rfl : y = z := Option.some.inj (hwhole.symm.trans hz)
      exact stored_of_written hr (hm.symm.trans h) hn h

end

end Numeral

/-! ## Filters on a number -/

/-- The filter that compares an attribute with a number. -/
def numberFilter (key label : String) (c : Comparison) (v : String) : Filter :=
  ⟨⟨.custom, key, label⟩, .compare c, some v, some .number⟩

/-- A text whose number a filter can hand on: no blank before it is other than of ASCII, and its
numeral is kept. A text without a number reads as zero on both sides. -/
def Copied (v : String) : Prop :=
  ∀ x, Numeral.atStart? isBlank v = some x →
    (v.toList.takeWhile isBlank).all isAsciiBlank = true ∧ x.Kept

theorem ofStoredText_copied {v : String} (h : Copied v) :
    Binary64.ofStoredText (Binary64.ofFilterValue v).literal = Binary64.ofStoredText v := by
  have hread := Numeral.atStart_isAsciiBlank v
  cases hx : Numeral.atStart? isBlank v with
  | none =>
    rw [hx, ite_self] at hread
    rw [Binary64.ofFilterValue, hx, Numeral.ofStoredText_none hread]
    rfl
  | some x =>
    obtain ⟨hblank, hkept⟩ := h x hx
    rw [if_pos hblank, hx] at hread
    rw [Binary64.ofFilterValue, hx, Numeral.ofStoredText_some hread]
    exact hkept.stored_literal

namespace Operand

variable {o : Operand} {now : Int} {v : String}

theorem meets_number (hc : Copied v) (ho : o.value = .text v) (c : Comparison) :
    o.meets now (.ofRule (.compare c) v (some .number)) = c.accepts .eq := by
  have horder : o.comparedTo now (some .number) v = some .eq := by
    change o.value.castReal.order _ = _
    rw [ofStoredText_copied hc, ho]
    exact Binary64.order_self (Binary64.ofStoredText_ne_undefined v)
  rw [meets_compare, horder]
  rfl

end Operand

namespace Store

/-- A filter and the store find one numeral at the front of a text, unless a blank before it is not
of ASCII; then the store reads zero. Where the numeral is kept, the number of the filter is the
number of the text: an entity with the text in an attribute row is selected by the filter for the
same number, and filters for another, a smaller or a larger one do not take the row. -/
theorem number_filter_finds_copies (v : String) :
    Numeral.atStart? isAsciiBlank v =
        (if (v.toList.takeWhile isBlank).all isAsciiBlank then Numeral.atStart? isBlank v
          else none) ∧
      (Copied v →
        Binary64.ofStoredText (Binary64.ofFilterValue v).literal = Binary64.ofStoredText v ∧
        ∀ (s : Store) (now : Int) (schema : Schema) (typeName key label : String),
          ∀ e ∈ s.entitiesOf (schema.entityType typeName),
          ∀ m ∈ s.attributesOf (schema.entityType typeName) e key,
          (m "meta_value").value = .text v →
            s.passes now schema.tagTables (schema.entityType typeName) e
                (numberFilter key label .eq v) = true ∧
              (∀ c ∈ [Comparison.ne, .lt, .gt], (m "meta_value").meets now
                (Sql.Condition.ofFilter (numberFilter key label c v)) = false) ∧
              ∀ fields tables plan, Plan.compile schema typeName fields
                  [numberFilter key label .eq v] tables = .ok plan →
                ∃ q, plan.dataStatements[1]? = some (.insertIds tables.scratch q) ∧
                  ∃ id ∈ s.selected now q, id = (e (schema.entityType typeName).entityId).value ∨
                    id.same (e (schema.entityType typeName).entityId).value = true) := by
  refine ⟨Numeral.atStart_isAsciiBlank v, fun hc => ⟨ofStoredText_copied hc, ?_⟩⟩
  intro s now schema typeName key label e he m hm hv
  have meets (c : Comparison) : (m "meta_value").meets now
      (Sql.Condition.ofFilter (numberFilter key label c v)) = c.accepts .eq :=
    Operand.meets_number hc hv c
  have hany : (s.attributesOf (schema.entityType typeName) e key).any (fun m =>
      (m "meta_value").meets now (Sql.Condition.ofFilter (numberFilter key label .eq v))) = true :=
    List.any_eq_true.2 ⟨m, hm, meets .eq⟩
  refine ⟨hany, fun c hc => ?_, fun fields tables plan hplan => ?_⟩
  · rw [meets c]
    simp only [List.mem_cons, List.not_mem_nil, or_false] at hc
    rcases hc with rfl | rfl | rfl <;> rfl
  · obtain ⟨-, parts, hp, rfl⟩ := Plan.compile_eq_ok.1 hplan
    refine ⟨_, by rw [Plan.dataStatements_ofSelection]; rfl, ?_⟩
    obtain rfl := parts_of_attribute rfl hp
    rw [selected_eq]
    exact exists_distinct_of_mem ((mem_selectedScopes_attribute
      (unnumbered_entityTable schema typeName) rfl _).2 ⟨e, he, hany, rfl⟩)

/-! ## A store with one attribute -/

def attributedUser (v : String) : Store :=
  ⟨[⟨"users", [.free "ID" .integer], .integer, Row.numbered [[.integer 1]]⟩,
    ⟨"usermeta", [.free "umeta_id" .integer, .free "user_id" .integer, .free "meta_key" .text,
      .free "meta_value" .text], .integer,
      Row.numbered [[.integer 1, .integer 1, .text "k", .text v]]⟩,
    idTable "s"]⟩

/-- The number ends before the letters, and its blank is of ASCII. -/
theorem number_filter_finds_copies_apples :
    Copied "\t-12.50e1 apples" ∧
    ∃ e ∈ (attributedUser "\t-12.50e1 apples").entitiesOf (Schema.entityType ⟨""⟩ "user"),
      ∃ m ∈ (attributedUser "\t-12.50e1 apples").attributesOf (Schema.entityType ⟨""⟩ "user") e "k",
        (m "meta_value").value = .text "\t-12.50e1 apples" ∧
        (attributedUser "\t-12.50e1 apples").passes 0 (Schema.tagTables ⟨""⟩)
          (Schema.entityType ⟨""⟩ "user") e (numberFilter "k" "" .eq "\t-12.50e1 apples") = true ∧
        (m "meta_value").meets 0
          (Sql.Condition.ofFilter (numberFilter "k" "" .lt "\t-12.50e1 apples")) = false := by
  have hread : Numeral.atStart? isBlank "\t-12.50e1 apples" = some ⟨true, 1250, -1⟩ := by decide
  have hc : Copied "\t-12.50e1 apples" := by
    intro x hx
    rw [hread] at hx
    obtain rfl := Option.some.inj hx
    refine ⟨by decide, .few 125 0 (by decide) (by decide) ?_⟩
    norm_num [Numeral.magnitude]
  obtain ⟨e, he, m, hm, hv⟩ :
      ∃ e ∈ (attributedUser "\t-12.50e1 apples").entitiesOf (Schema.entityType ⟨""⟩ "user"),
        ∃ m ∈ (attributedUser "\t-12.50e1 apples").attributesOf (Schema.entityType ⟨""⟩ "user") e
          "k", (m "meta_value").value = .text "\t-12.50e1 apples" := by
    decide +kernel
  obtain ⟨-, hfound⟩ := (number_filter_finds_copies "\t-12.50e1 apples").2 hc
  obtain ⟨hpass, hmeets, -⟩ := hfound _ 0 ⟨""⟩ "user" "k" "" e he m hm hv
  exact ⟨hc, e, he, m, hm, hv, hpass, hmeets .lt (by decide)⟩

/-- The user is left out by the filter for the number of the attribute, and taken by the filter for
any other number. -/
def Missed (v : String) : Prop :=
  ∃ e ∈ (attributedUser v).entitiesOf (Schema.entityType ⟨""⟩ "user"),
    ∃ m ∈ (attributedUser v).attributesOf (Schema.entityType ⟨""⟩ "user") e "k",
      (m "meta_value").value = .text v ∧
      (attributedUser v).passes 0 (Schema.tagTables ⟨""⟩) (Schema.entityType ⟨""⟩ "user") e
        (numberFilter "k" "" .eq v) = false ∧
      (m "meta_value").meets 0 (Sql.Condition.ofFilter (numberFilter "k" "" .ne v)) = true

/-- A blank that is not of ASCII hides a number from the store, and of seventeen digits the store
does not always read the nearest number. -/
theorem number_filter_misses_copies : Missed "\u00a05" ∧ Missed "0.29364018621725127" := by
  unfold Missed
  decide +kernel

end Store

end SheetExport
