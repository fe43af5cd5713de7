import SheetExport.Json.Skipped
import SheetExport.Proofs.StringSpellings

/-!
# Spellings that are passed over

The form of a JSON value, with blanks wherever they may stand. A value of this form is passed over
to its last character, whatever it holds and however deep it nests.
-/

namespace SheetExport.Json

/-! ## What may stand next to a value -/

/-- What may stand behind a value. -/
def stopChars : List Char := blankChars ++ [',', ']', '\x7d']

/-- A rest that no value can reach into: it starts with a blank, a comma or a closing bracket. -/
def Stops (rest : List Char) : Prop :=
  ∀ c ∈ rest.head?, c ∈ stopChars

/-- A text with something to read after its blanks that is no comma and no closing bracket. -/
def Starts (text : List Char) : Prop :=
  ∃ blanks c body, text = blanks ++ c :: body ∧ Blanks blanks ∧
    c ∉ stopChars

theorem stops_blanks {blanks : List Char} (h : Blanks blanks) : Stops blanks :=
  fun c hc => List.mem_append_left [',', ']', '\x7d'] (h c (List.mem_of_mem_head? hc))

theorem stops_mark {blanks : List Char} (h : Blanks blanks) {c : Char}
    (hc : c ∈ [',', ']', '\x7d']) (rest : List Char) : Stops (blanks ++ c :: rest) := by
  intro d hd
  cases blanks with
  | nil =>
    obtain rfl : c = d := by simpa using hd
    exact List.mem_append_right _ hc
  | cons b blanks =>
    obtain rfl : b = d := by simpa using hd
    exact List.mem_append_left _ (h b List.mem_cons_self)

theorem starts_mark {blanks : List Char} (h : Blanks blanks) {c : Char}
    (hc : c ∉ stopChars) (body : List Char) :
    Starts (blanks ++ c :: body) := ⟨blanks, c, body, rfl, h, hc⟩

theorem Starts.skipBlanks_eq {text : List Char} (h : Starts text) (rest : List Char) :
    ∃ c body, skipBlanks (text ++ rest) = c :: body ∧
      c ∉ stopChars := by
  obtain ⟨blanks, c, body, rfl, hb, hc⟩ := h
  refine ⟨c, body ++ rest, ?_, hc⟩
  rw [List.append_assoc, List.cons_append, skipBlanks_mark hb]
  exact isBlank_eq_false fun hblank => hc (List.mem_append_left [',', ']', '\x7d'] hblank)

/-! ## Entries between brackets -/

/-- What is left between brackets: entries with a comma before each but the first of all, and the
closing bracket. -/
inductive Entries (closing : Char) : Bool → List (List Char) → List Char → Prop where
  | closed {first : Bool} {blanks : List Char} (hb : Blanks blanks) :
    Entries closing first [] (blanks ++ [closing])
  | first {entry text : List Char} {entries : List (List Char)}
    (h : Entries closing false entries text) :
    Entries closing true (entry :: entries) (entry ++ text)
  | next {blanks entry text : List Char} {entries : List (List Char)} (hb : Blanks blanks)
    (h : Entries closing false entries text) :
    Entries closing false (entry :: entries) (blanks ++ ',' :: (entry ++ text))

/-- Entries between an opening and a closing bracket. -/
def Enclosed (opening closing : Char) (entries : List (List Char)) (text : List Char) : Prop :=
  ∃ before inner, Blanks before ∧ Entries closing true entries inner ∧
    text = before ++ opening :: inner

theorem Entries.stops {closing : Char} (hc : closing ∈ [',', ']', '\x7d'])
    {entries : List (List Char)} {text : List Char} (h : Entries closing false entries text)
    (rest : List Char) : Stops (text ++ rest) := by
  cases h with
  | closed hb => simpa using stops_mark hb hc rest
  | next hb _ => simpa using stops_mark hb (by simp) _

theorem Enclosed.starts {opening closing : Char}
    (ho : opening ∉ stopChars) {entries : List (List Char)}
    {text : List Char} (h : Enclosed opening closing entries text) : Starts text := by
  obtain ⟨before, inner, hb, -, rfl⟩ := h
  exact starts_mark hb ho inner

/-! ## Numbers -/

def Digits (text : List Char) : Prop := text ≠ [] ∧ ∀ d ∈ text, d.isDigit = true

/-- The digits before the point. A zero stands alone. -/
def WholeDigits (text : List Char) : Prop := Digits text ∧ (text.head? = some '0' → text = ['0'])

def FractionText (text : List Char) : Prop := text = [] ∨ ∃ ds, Digits ds ∧ text = '.' :: ds

def ExponentText (text : List Char) : Prop :=
  text = [] ∨ ∃ e ∈ ['e', 'E'], ∃ sign ∈ [[], ['+'], ['-']], ∃ ds, Digits ds ∧
    text = e :: (sign ++ ds)

/-- A text that has the form of a number. -/
def IsNumber (text : List Char) : Prop :=
  ∃ sign ∈ [[], ['-']], ∃ whole fraction exponent, WholeDigits whole ∧ FractionText fraction ∧
    ExponentText exponent ∧ text = sign ++ (whole ++ (fraction ++ exponent))

theorem Digits.head {ds : List Char} (h : Digits ds) :
    ∃ d rest, ds = d :: rest ∧ d.isDigit = true := by
  obtain ⟨d, rest, rfl⟩ := List.exists_cons_of_ne_nil h.1
  exact ⟨d, rest, rfl, h.2 d List.mem_cons_self⟩

theorem readDigits_append {ds rest : List Char} (h : Digits ds)
    (hrest : ∀ c ∈ rest.head?, c.isDigit = false) : readDigits (ds ++ rest) = .ok (ds, rest) := by
  have htake : (ds ++ rest).takeWhile Char.isDigit = ds := by
    rw [List.takeWhile_append_of_pos h.2]
    cases rest with
    | nil => simp
    | cons c rest => simp [hrest c (by simp)]
  have hdrop : (ds ++ rest).dropWhile Char.isDigit = rest := by
    rw [List.dropWhile_append_of_pos h.2]
    cases rest with
    | nil => simp
    | cons c rest => simp [hrest c (by simp)]
  obtain ⟨d, more, rfl, hd⟩ := h.head
  rw [List.cons_append] at htake hdrop ⊢
  simp only [readDigits, if_pos hd, htake, hdrop]

theorem Stops.no_number {rest : List Char} (h : Stops rest) :
    ∀ c ∈ rest.head?, c.isDigit = false ∧ c ≠ '.' ∧ c ≠ 'e' ∧ c ≠ 'E' := by
  have all : ∀ c ∈ stopChars, c.isDigit = false ∧ c ≠ '.' ∧ c ≠ 'e' ∧ c ≠ 'E' := by
    simp [stopChars, blankChars]
  exact fun c hc => all c (h c hc)

theorem readExponent_append {exponent rest : List Char} (h : ExponentText exponent)
    (hrest : Stops rest) : ∃ value, readExponent (exponent ++ rest) = .ok (value, rest) := by
  rcases h with rfl | ⟨e, he, sign, hsign, ds, hds, rfl⟩
  · refine ⟨none, ?_⟩
    cases rest with
    | nil => rfl
    | cons c rest =>
      obtain ⟨-, -, he, hE⟩ := hrest.no_number c (by simp)
      simp only [List.nil_append, readExponent, he, hE, or_self, if_false]
  · have he : e = 'e' ∨ e = 'E' := by simpa using he
    have hread := readDigits_append hds fun c hc => (hrest.no_number c hc).1
    obtain ⟨d, more, hmore, hd⟩ := hds.head
    have hsigned : ∃ negative,
        Numeral.takeSign (sign ++ (ds ++ rest)) = (negative, ds ++ rest) := by
      have hplus : d ≠ '+' := by rintro rfl; exact absurd hd (by decide)
      have hminus : d ≠ '-' := by rintro rfl; exact absurd hd (by decide)
      have hsign : sign = [] ∨ sign = ['+'] ∨ sign = ['-'] := by simpa using hsign
      rcases hsign with rfl | rfl | rfl
      · refine ⟨false, ?_⟩
        rw [hmore]
        simp [Numeral.takeSign, hplus, hminus]
      · exact ⟨false, rfl⟩
      · exact ⟨true, rfl⟩
    obtain ⟨negative, hsigned⟩ := hsigned
    refine ⟨some (negative, ds), ?_⟩
    simp only [List.cons_append, List.append_assoc, readExponent, if_pos he, hsigned, hread, bind,
      Except.bind, pure, Except.pure]

/-- Neither an exponent nor what may stand behind a number starts with a digit or a point. -/
theorem ExponentText.no_fraction {exponent rest : List Char} (h : ExponentText exponent)
    (hrest : Stops rest) : ∀ c ∈ (exponent ++ rest).head?, c.isDigit = false ∧ c ≠ '.' := by
  intro c hc
  rcases h with rfl | ⟨e, he, sign, -, ds, -, rfl⟩
  · exact ⟨(hrest.no_number c hc).1, (hrest.no_number c hc).2.1⟩
  · obtain rfl : e = c := by simpa using hc
    have all : ∀ e ∈ ['e', 'E'], e.isDigit = false ∧ e ≠ '.' := by simp
    exact all e he

theorem FractionText.no_digit {fraction after : List Char} (h : FractionText fraction)
    (hafter : ∀ c ∈ after.head?, c.isDigit = false) :
    ∀ c ∈ (fraction ++ after).head?, c.isDigit = false := by
  intro c hc
  rcases h with rfl | ⟨ds, -, rfl⟩
  · exact hafter c hc
  · obtain rfl : '.' = c := by simpa using hc
    decide

theorem readNumberText_append {text rest : List Char} (h : IsNumber text) (hrest : Stops rest) :
    ∃ number, readNumberText (text ++ rest) = .ok (number, rest) := by
  obtain ⟨sign, hsign, whole, fraction, exponent, ⟨hwhole, hzero⟩, hfraction, hexponent, rfl⟩ := h
  have hsign : sign = [] ∨ sign = ['-'] := by simpa using hsign
  obtain ⟨d, more, hmore, hd⟩ := hwhole.head
  have hminus : d ≠ '-' := by rintro rfl; exact absurd hd (by decide)
  obtain ⟨value, hexp⟩ := readExponent_append hexponent hrest
  have hafter := hexponent.no_fraction hrest
  have hpointed := hfraction.no_digit fun c hc => (hafter c hc).1
  have hread : readWhole (whole ++ (fraction ++ (exponent ++ rest))) =
      .ok (whole, fraction ++ (exponent ++ rest)) := by
    simp only [readWhole, readDigits_append hwhole hpointed, bind, Except.bind]
    rw [if_neg fun h => h.2 (hzero h.1)]
  unfold readNumberText
  split
  next negative cs hsigned =>
    obtain rfl : cs = whole ++ (fraction ++ (exponent ++ rest)) := by
      rcases hsign with rfl | rfl
      · simp only [hmore, List.nil_append, List.append_assoc, List.cons_append] at hsigned ⊢
        split at hsigned
        · next heq => exact absurd (List.cons.inj heq).1 hminus
        · exact (Prod.mk.inj hsigned).2.symm
      · simpa using (Prod.mk.inj hsigned).2.symm
    simp only [hread, bind, Except.bind, pure, Except.pure]
    rcases hfraction with rfl | ⟨ds, hds, rfl⟩
    · rw [List.nil_append]
      generalize exponent ++ rest = after at hafter hexp
      split
      · next heq => exact absurd rfl (hafter '.' (by simp)).2
      · simp only [hexp]
        exact ⟨_, rfl⟩
    · simp only [List.cons_append, readDigits_append hds fun c hc => (hafter c hc).1, hexp]
      exact ⟨_, rfl⟩

theorem skipNumber_append {text rest : List Char} (h : IsNumber text) (hrest : Stops rest) :
    skipNumber (text ++ rest) = .ok ((), rest) := by
  obtain ⟨number, hread⟩ := readNumberText_append h hrest
  rw [skipNumber, hread]

theorem IsNumber.head {text : List Char} (h : IsNumber text) :
    ∃ c body, text = c :: body ∧ (c = '-' ∨ c.isDigit = true) := by
  obtain ⟨sign, hsign, whole, fraction, exponent, ⟨hwhole, -⟩, -, -, rfl⟩ := h
  have hsign : sign = [] ∨ sign = ['-'] := by simpa using hsign
  rcases hsign with rfl | rfl
  · obtain ⟨d, more, rfl, hd⟩ := hwhole.head
    exact ⟨d, _, rfl, .inr hd⟩
  · exact ⟨'-', _, rfl, .inl rfl⟩

/-! ## Values -/

/-- A key with its colon. -/
def IsKey (text : List Char) : Prop :=
  ∃ before string after, Blanks before ∧ IsString string ∧ Blanks after ∧
    text = before ++ (string ++ (after ++ [':']))

/-- A text that has the form of a value. -/
inductive IsValue : List Char → Prop where
  | word {before : List Char} {w : String} (hb : Blanks before)
    (hw : w ∈ ["null", "true", "false"]) : IsValue (before ++ w.toList)
  | number {before text : List Char} (hb : Blanks before) (h : IsNumber text) :
    IsValue (before ++ text)
  | string {before text : List Char} (hb : Blanks before) (h : IsString text) :
    IsValue (before ++ text)
  | list {items : List (List Char)} {text : List Char} (h : Enclosed '[' ']' items text)
    (hitems : ∀ item ∈ items, IsValue item) : IsValue text
  | object {members : List (List Char × List Char)} {text : List Char}
    (h : Enclosed '\x7b' '\x7d' (members.map fun m => m.1 ++ m.2) text)
    (hkeys : ∀ m ∈ members, IsKey m.1) (hvalues : ∀ m ∈ members, IsValue m.2) : IsValue text

theorem IsValue.starts {text : List Char} (h : IsValue text) : Starts text := by
  cases h with
  | @word _ w hb hw =>
    have hw : w = "null" ∨ w = "true" ∨ w = "false" := by simpa using hw
    rcases hw with rfl | rfl | rfl <;> exact starts_mark hb (by decide) _
  | number hb h =>
    obtain ⟨c, body, rfl, hc⟩ := h.head
    refine starts_mark hb ?_ body
    rcases hc with rfl | hc
    · decide
    · have all : ∀ c ∈ stopChars, c.isDigit = false := by simp [stopChars, blankChars]
      exact fun hmem => absurd hc (by simp [all c hmem])
  | string hb h =>
    obtain ⟨pieces, -, rfl⟩ := h
    exact starts_mark hb (by decide) _
  | list h => exact h.starts (by decide)
  | object h => exact h.starts (by decide)

theorem readWord_append (w rest : List Char) : readWord w (w ++ rest) = .ok ((), rest) := by
  induction w with
  | nil => rfl
  | cons c w ih => simp [readWord, ih]

/-- Fuel above the length of a text is enough to pass over it, with or without its blanks. -/
def Skipped (text : List Char) : Prop :=
  ∀ fuel, text.length < fuel → ∀ rest, Stops rest → ∀ cs,
    skipBlanks cs = skipBlanks (text ++ rest) → skipValueWithin fuel cs = .ok rest

theorem skipItems_entries : ∀ {items : List (List Char)} {text : List Char},
    Entries ']' false items text → (∀ item ∈ items, Skipped item) →
    ∀ rest fuel, text.length < fuel → skipItemsWithin fuel (text ++ rest) = .ok rest := by
  intro items
  induction items with
  | nil =>
    intro text h _ rest fuel hfuel
    obtain ⟨fuel, rfl⟩ := Nat.exists_eq_succ_of_ne_zero (Nat.ne_zero_of_lt hfuel)
    cases h with
    | closed hb =>
      simp only [skipItemsWithin, List.append_assoc, List.singleton_append,
        skipBlanks_mark hb (c := ']') rfl]
  | cons item items ih =>
    intro text h hitems rest fuel hfuel
    obtain ⟨hitem, hmore⟩ := List.forall_mem_cons.1 hitems
    obtain ⟨fuel, rfl⟩ := Nat.exists_eq_succ_of_ne_zero (Nat.ne_zero_of_lt hfuel)
    cases h with
    | @next blanks _ text _ hb h =>
      simp only [List.length_append, List.length_cons] at hfuel
      have hskip := hitem fuel (by omega) (text ++ rest) (h.stops (by simp) rest) _ rfl
      simp only [skipItemsWithin, List.append_assoc, List.cons_append,
        skipBlanks_mark hb (c := ',') rfl, hskip, bind, Except.bind]
      exact ih h hmore rest fuel (by omega)

theorem skipKey_isKey {text : List Char} (h : IsKey text) (rest : List Char) {cs : List Char}
    (hcs : skipBlanks cs = skipBlanks (text ++ rest)) : skipKey cs = .ok rest := by
  obtain ⟨before, string, after, hb, hs, ha, rfl⟩ := h
  obtain ⟨body, rfl, hread⟩ := skipString_isString hs
  rw [List.append_assoc, List.cons_append, List.cons_append,
    skipBlanks_mark hb (c := '"') rfl] at hcs
  simp only [skipKey, hcs, List.append_assoc, List.singleton_append, hread, bind, Except.bind,
    skipBlanks_mark ha (c := ':') rfl]

theorem IsKey.starts {text : List Char} (h : IsKey text) : Starts text := by
  obtain ⟨before, string, after, hb, ⟨pieces, -, rfl⟩, -, rfl⟩ := h
  exact starts_mark hb (by decide) _

theorem skipMembers_entries : ∀ {members : List (List Char × List Char)} {text : List Char},
    Entries '\x7d' false (members.map fun m => m.1 ++ m.2) text → (∀ m ∈ members, IsKey m.1) →
    (∀ m ∈ members, Skipped m.2) → ∀ rest fuel, text.length < fuel →
      skipMembersWithin fuel (text ++ rest) = .ok rest := by
  intro members
  induction members with
  | nil =>
    intro text h _ _ rest fuel hfuel
    obtain ⟨fuel, rfl⟩ := Nat.exists_eq_succ_of_ne_zero (Nat.ne_zero_of_lt hfuel)
    cases h with
    | closed hb =>
      simp only [skipMembersWithin, List.append_assoc, List.singleton_append,
        skipBlanks_mark hb (c := '\x7d') rfl]
  | cons m members ih =>
    intro text h hkeys hvalues rest fuel hfuel
    obtain ⟨hkey, hkeys⟩ := List.forall_mem_cons.1 hkeys
    obtain ⟨hvalue, hvalues⟩ := List.forall_mem_cons.1 hvalues
    obtain ⟨fuel, rfl⟩ := Nat.exists_eq_succ_of_ne_zero (Nat.ne_zero_of_lt hfuel)
    cases h with
    | @next blanks _ text _ hb h =>
      simp only [List.length_append, List.length_cons] at hfuel
      have hskip := hvalue fuel (by omega) (text ++ rest) (h.stops (by simp) rest) _ rfl
      simp only [skipMembersWithin, List.append_assoc, List.cons_append,
        skipBlanks_mark hb (c := ',') rfl, skipKey_isKey hkey _ rfl, hskip, bind, Except.bind]
      exact ih h hkeys hvalues rest fuel (by omega)

theorem skipped_plain {before text : List Char} (hb : Blanks before)
    (hstart : ∃ c body, text = c :: body ∧ c ∉ blankChars ++ ['[', '\x7b'])
    (h : ∀ rest, Stops rest → skipPlain (text ++ rest) = .ok rest) : Skipped (before ++ text) := by
  intro fuel hfuel rest hrest cs hcs
  obtain ⟨fuel, rfl⟩ := Nat.exists_eq_succ_of_ne_zero (Nat.ne_zero_of_lt hfuel)
  obtain ⟨c, body, rfl, hc⟩ := hstart
  have hblank : isBlank c = false :=
    isBlank_eq_false fun hmem => hc (List.mem_append_left ['[', '\x7b'] hmem)
  rw [List.append_assoc, List.cons_append, skipBlanks_mark hb hblank] at hcs
  rw [skipValueWithin, hcs]
  split
  · next heq => exact absurd (by simp [(List.cons.inj heq).1]) hc
  · next heq => exact absurd (by simp [(List.cons.inj heq).1]) hc
  · exact h rest hrest

theorem skipPlain_word {w : String} (hw : w ∈ ["null", "true", "false"]) (rest : List Char) :
    skipPlain (w.toList ++ rest) = .ok rest := by
  have hw : w = "null" ∨ w = "true" ∨ w = "false" := by simpa using hw
  have letters : "null".toList = 'n' :: "ull".toList ∧ "true".toList = 't' :: "rue".toList ∧
      "false".toList = 'f' :: "alse".toList := by decide
  rcases hw with rfl | rfl | rfl
  all_goals
    simp only [letters, List.cons_append, skipPlain, Char.reduceEq, if_false, if_true,
      readWord_append, bind, Except.bind, pure, Except.pure]

theorem skipPlain_string {text : List Char} (h : IsString text) (rest : List Char) :
    skipPlain (text ++ rest) = .ok rest := by
  obtain ⟨body, rfl, hread⟩ := skipString_isString h
  simp only [List.cons_append, skipPlain, if_true, hread, bind, Except.bind, pure, Except.pure]

theorem skipPlain_number {text rest : List Char} (h : IsNumber text) (hrest : Stops rest) :
    skipPlain (text ++ rest) = .ok rest := by
  have hskip := skipNumber_append h hrest
  obtain ⟨c, body, rfl, hc⟩ := h.head
  have other : ∀ d ∈ ['"', 'n', 't', 'f'], c ≠ d := by
    rintro d hd rfl
    rcases hc with rfl | hc
    · exact absurd hd (by decide)
    · have all : ∀ d ∈ ['"', 'n', 't', 'f'], d.isDigit = false := by simp
      rw [all c hd] at hc
      exact Bool.false_ne_true hc
  rw [List.cons_append] at hskip ⊢
  simp only [skipPlain, if_neg (other '"' (by simp)), if_neg (other 'n' (by simp)),
    if_neg (other 't' (by simp)), if_neg (other 'f' (by simp)), if_pos hc, hskip, bind, Except.bind,
    pure, Except.pure]

theorem skipped_list {items : List (List Char)} {text : List Char}
    (h : Enclosed '[' ']' items text) (hstarts : ∀ item ∈ items, Starts item)
    (hitems : ∀ item ∈ items, Skipped item) : Skipped text := by
  intro fuel hfuel rest hrest cs hcs
  obtain ⟨before, inner, hb, h, rfl⟩ := h
  obtain ⟨fuel, rfl⟩ := Nat.exists_eq_succ_of_ne_zero (Nat.ne_zero_of_lt hfuel)
  rw [List.append_assoc, List.cons_append, skipBlanks_mark hb (c := '[') rfl] at hcs
  cases h with
  | closed hi =>
    simp only [skipValueWithin, hcs, List.append_assoc, List.singleton_append,
      skipBlanks_mark hi (c := ']') rfl]
  | @first item text items h =>
    rw [List.append_assoc] at hcs
    simp only [List.length_append, List.length_cons] at hfuel
    obtain ⟨hitem, hmore⟩ := List.forall_mem_cons.1 hitems
    obtain ⟨c, body, heq, hc⟩ :=
      (List.forall_mem_cons.1 hstarts).1.skipBlanks_eq (text ++ rest)
    have hskip := hitem fuel (by omega) (text ++ rest) (h.stops (by simp) rest) (c :: body)
      (by rw [← heq, skipBlanks_skipBlanks])
    simp only [skipValueWithin, hcs, heq]
    split
    · next heq => exact absurd heq (List.cons_ne_nil _ _)
    · next heq => exact absurd (by simp [(List.cons.inj heq).1, stopChars]) hc
    · rw [hskip]
      exact skipItems_entries h hmore rest fuel (by omega)

theorem skipped_object {members : List (List Char × List Char)} {text : List Char}
    (h : Enclosed '\x7b' '\x7d' (members.map fun m => m.1 ++ m.2) text)
    (hkeys : ∀ m ∈ members, IsKey m.1) (hvalues : ∀ m ∈ members, Skipped m.2) : Skipped text := by
  intro fuel hfuel rest hrest cs hcs
  obtain ⟨before, inner, hb, h, rfl⟩ := h
  obtain ⟨fuel, rfl⟩ := Nat.exists_eq_succ_of_ne_zero (Nat.ne_zero_of_lt hfuel)
  rw [List.append_assoc, List.cons_append, skipBlanks_mark hb (c := '\x7b') rfl] at hcs
  cases members with
  | nil =>
    cases h with
    | closed hi =>
      simp only [skipValueWithin, hcs, List.append_assoc, List.singleton_append,
        skipBlanks_mark hi (c := '\x7d') rfl]
  | cons m members =>
    obtain ⟨hkey, hkeys⟩ := List.forall_mem_cons.1 hkeys
    obtain ⟨hvalue, hmore⟩ := List.forall_mem_cons.1 hvalues
    cases h with
    | @first _ text _ h =>
      rw [List.append_assoc, List.append_assoc] at hcs
      simp only [List.length_append, List.length_cons] at hfuel
      obtain ⟨c, body, heq, hc⟩ := hkey.starts.skipBlanks_eq (m.2 ++ (text ++ rest))
      have hskipped := skipKey_isKey hkey (m.2 ++ (text ++ rest))
        (show skipBlanks (c :: body) = _ by rw [← heq, skipBlanks_skipBlanks])
      have hskip := hvalue fuel (by omega) (text ++ rest) (h.stops (by simp) rest) _ rfl
      simp only [skipValueWithin, hcs, heq]
      split
      · next heq => exact absurd heq (List.cons_ne_nil _ _)
      · next heq => exact absurd (by simp [(List.cons.inj heq).1, stopChars]) hc
      · simp only [hskipped, hskip, bind, Except.bind]
        exact skipMembers_entries h hkeys hmore rest fuel (by omega)

/-- A value is passed over. The induction is on its form. -/
theorem IsValue.skipped {text : List Char} (h : IsValue text) : Skipped text := by
  induction h with
  | @word before w hb hw =>
    refine skipped_plain hb ?_ fun rest _ => skipPlain_word hw rest
    have hw : w = "null" ∨ w = "true" ∨ w = "false" := by simpa using hw
    rcases hw with rfl | rfl | rfl
    · exact ⟨'n', "ull".toList, by decide, by decide⟩
    · exact ⟨'t', "rue".toList, by decide, by decide⟩
    · exact ⟨'f', "alse".toList, by decide, by decide⟩
  | number hb h =>
    refine skipped_plain hb ?_ fun rest hrest => skipPlain_number h hrest
    obtain ⟨c, body, rfl, hc⟩ := h.head
    refine ⟨c, body, rfl, ?_⟩
    rcases hc with rfl | hc
    · decide
    · have all : ∀ c ∈ blankChars ++ ['[', '\x7b'], c.isDigit = false := by simp [blankChars]
      exact fun hmem => absurd hc (by simp [all c hmem])
  | string hb h =>
    refine skipped_plain hb ?_ fun rest _ => skipPlain_string h rest
    obtain ⟨pieces, -, rfl⟩ := h
    exact ⟨'"', _, rfl, by decide⟩
  | list h hitems ih => exact skipped_list h (fun item hmem => (hitems item hmem).starts) ih
  | object h hkeys _ ih => exact skipped_object h hkeys ih

theorem skipValue_append {text rest : List Char} (h : IsValue text) (hrest : Stops rest) :
    skipValue (text ++ rest) = .ok rest :=
  h.skipped _ (by rw [List.length_append]; omega) rest hrest _ rfl

end SheetExport.Json
