import Mathlib.Algebra.Group.Nat.Defs
import SheetExport.Instant
import SheetExport.Proofs.Names

/-!
# Stored times read back

A time is stored as digits of fixed widths with marks between them. Reading takes as many digits
as were written, so a stored time is read as the same instant, down to the nanoseconds.
-/

namespace SheetExport

/-! ## Padded numbers -/

/-- The digits of a number, with zeros before them. -/
def paddedDigits (width n : Nat) : List Char := (Text.padLeft width '0' (toString n)).toList

theorem paddedDigits_eq (width n : Nat) :
    paddedDigits width n =
      List.replicate (width - (Nat.toDigits 10 n).length) '0' ++ Nat.toDigits 10 n := by
  rw [paddedDigits, Text.padLeft, String.toList_append, String.toList_ofList, toList_toString,
    ← String.length_toList, toList_toString]

theorem length_paddedDigits {width n : Nat} (hw : 0 < width) (h : n < 10 ^ width) :
    (paddedDigits width n).length = width := by
  have := (Nat.length_toDigits_le_iff (b := 10) (by decide) hw).2 h
  rw [paddedDigits_eq, List.length_append, List.length_replicate]
  omega

theorem isDigit_of_mem_paddedDigits {width n : Nat} {c : Char} (h : c ∈ paddedDigits width n) :
    c.isDigit = true := by
  rw [paddedDigits_eq] at h
  rcases List.mem_append.1 h with h | h
  · rw [List.eq_of_mem_replicate h]
    decide
  · exact Nat.isDigit_of_mem_toDigits (by decide) (by decide) h

/-- The number that digits stand for. -/
def digitsValue (ds : List Char) : Nat := ds.foldl (fun n d => 10 * n + Instant.digitValue d) 0

theorem digitsValue_paddedDigits (width n : Nat) : digitsValue (paddedDigits width n) = n := by
  change Nat.ofDigitChars 10 (paddedDigits width n) 0 = n
  rw [paddedDigits_eq, Nat.ofDigitChars_append, Nat.ofDigitChars_replicate_zero, Nat.mul_zero,
    Nat.ofDigitChars_ten_toDigits]

theorem length_le_byteCount (cs : List Char) : cs.length ≤ Text.byteCount cs := by
  have fold : ∀ (cs : List Char) (n : Nat),
      n + cs.length ≤ cs.foldl (fun n c => n + c.utf8Size) n := by
    intro cs
    induction cs with
    | nil => intro n; simp
    | cons c cs ih =>
      intro n
      have hc := Char.utf8Size_pos c
      have := ih (n + c.utf8Size)
      rw [List.foldl_cons, List.length_cons]
      omega
  have := fold cs 0
  rw [Text.byteCount]
  omega

theorem Calendar.daysIn_le (year : Int) (month : Nat) : daysIn year month ≤ 31 := by
  unfold daysIn
  split
  · split <;> omega
  · split <;> omega

namespace Instant

theorem readNumber_append {count : Nat} {ds : List Char} (hl : ds.length = count)
    (hd : ∀ c ∈ ds, c.isDigit = true) (rest : List Char) :
    readNumber count (ds ++ rest) = .ok (digitsValue ds, rest) := by
  have hb : ¬ Text.byteCount (ds ++ rest) < count := by
    have := length_le_byteCount (ds ++ rest)
    rw [List.length_append] at this
    omega
  subst hl
  unfold readNumber
  rw [if_neg hb, List.take_left, List.drop_left, if_pos ⟨rfl, List.all_eq_true.2 hd⟩]
  rfl

theorem readNumber_padded {count n : Nat} (hc : 0 < count) (h : n < 10 ^ count)
    (rest : List Char) : readNumber count (paddedDigits count n ++ rest) = .ok (n, rest) := by
  rw [readNumber_append (length_paddedDigits hc h) fun c => isDigit_of_mem_paddedDigits,
    digitsValue_paddedDigits]

/-! ## Fractions -/

theorem readFraction_padded (width n : Nat) (hw : 0 < width) (h9 : width ≤ 9)
    (h : n < 10 ^ width) {rest : List Char} (hr : ∀ c ∈ rest.head?, c.isDigit = false) :
    readFraction ('.' :: (paddedDigits width n ++ rest)) =
      .ok (n * tenTo (9 - width), rest) := by
  have hlen := length_paddedDigits hw h
  have hdigits : ∀ c ∈ paddedDigits width n, c.isDigit = true :=
    fun c => isDigit_of_mem_paddedDigits
  have htake : (paddedDigits width n ++ rest).takeWhile Char.isDigit = paddedDigits width n := by
    rw [List.takeWhile_append_of_pos hdigits]
    cases rest with
    | nil => simp
    | cons c rest => simp [hr c rfl]
  have hdrop : (paddedDigits width n ++ rest).dropWhile Char.isDigit = rest := by
    rw [List.dropWhile_append_of_pos hdigits]
    cases rest with
    | nil => rfl
    | cons c rest => simp [hr c rfl]
  have hne : paddedDigits width n ≠ [] := by
    rw [← List.length_pos_iff]
    omega
  have hkept : (paddedDigits width n).take 9 = paddedDigits width n :=
    List.take_of_length_le (by omega)
  have hvalue := digitsValue_paddedDigits width n
  rw [digitsValue] at hvalue
  unfold readFraction
  simp only [htake, hdrop, List.isEmpty_iff, List.append_eq_nil_iff, hne, false_and, if_false,
    hkept, hvalue, hlen]

theorem readFraction_fractionText {n : Nat} (h : n < 1000000000) {rest : List Char}
    (hr : ∀ c ∈ rest.head?, c.isDigit = false ∧ c ≠ '.') :
    readFraction ((fractionText n).toList ++ rest) = .ok (n, rest) := by
  have hd : ∀ c ∈ rest.head?, c.isDigit = false := fun c hc => (hr c hc).1
  unfold fractionText
  split
  · rename_i h0
    subst h0
    cases rest with
    | nil => rfl
    | cons c rest =>
      have hc := (hr c rfl).2
      change readFraction (c :: rest) = _
      unfold readFraction
      split
      · rename_i heq
        exact absurd (List.cons.inj heq).1 hc
      · rfl
  · -- However many digits are written, they are those of the nanoseconds cut after the last.
    have written (width m : Nat) (hw : 0 < width) (h9 : width ≤ 9) (hm : m < 10 ^ width)
        (he : m * tenTo (9 - width) = n) :
        readFraction (("." ++ Text.padLeft width '0' (toString m)).toList ++ rest) =
          .ok (n, rest) := by
      have hl : ("." ++ Text.padLeft width '0' (toString m)).toList ++ rest =
          '.' :: (paddedDigits width m ++ rest) := by
        rw [String.toList_append]
        rfl
      rw [hl, readFraction_padded width m hw h9 hm hd, he]
    split
    · refine written 3 (n / 1000000) (by decide) (by decide) (by omega) ?_
      change n / 1000000 * 1000000 = n
      omega
    · split
      · refine written 6 (n / 1000) (by decide) (by decide) (by omega) ?_
        change n / 1000 * 1000 = n
        omega
      · exact written 9 n (by decide) (by decide) (by omega) (Nat.mul_one n)

/-! ## Whole instants -/
/-- Years that are written with four digits. -/
def FourDigits (t : Instant) : Prop := 0 ≤ t.date.year ∧ t.date.year ≤ 9999

instance (t : Instant) : Decidable t.FourDigits := inferInstanceAs (Decidable (_ ∧ _))

theorem toList_dateText {d : Date} (h0 : 0 ≤ d.year) (h : d.year ≤ 9999) (rest : List Char) :
    d.text.toList ++ rest =
      paddedDigits 4 d.year.natAbs ++ ('-' :: (paddedDigits 2 d.month ++
        ('-' :: (paddedDigits 2 d.day ++ rest)))) := by
  have hy : Date.yearText d.year = Text.padLeft 4 '0' (toString d.year.natAbs) := by
    unfold Date.yearText
    rw [if_neg (by omega), if_neg (by omega)]
  have hm : "-".toList = ['-'] := rfl
  simp only [Date.text, hy, Date.twoDigits, paddedDigits, String.toList_append, hm,
    List.append_assoc, List.cons_append, List.nil_append]

theorem toList_storedText {t : Instant} (h : t.FourDigits) :
    t.storedText.toList =
      paddedDigits 4 t.date.year.natAbs ++ ('-' :: (paddedDigits 2 t.date.month ++
        ('-' :: (paddedDigits 2 t.date.day ++ ('T' :: (paddedDigits 2 t.hour ++
          (':' :: (paddedDigits 2 t.minute ++ (':' :: (paddedDigits 2 t.second ++
            ((fractionText t.nanosecond).toList ++ "+00:00".toList))))))))))) := by
  have hT : "T".toList = ['T'] := rfl
  have hc : ":".toList = [':'] := rfl
  simp only [storedText, localText, Date.twoDigits, String.toList_append, List.append_assoc, hT, hc,
    List.cons_append, List.nil_append, toList_dateText h.1 h.2, paddedDigits]

theorem readMark_cons {isMark : Char → Bool} {c : Char} (h : isMark c = true) (rest : List Char) :
    readMark isMark (c :: rest) = .ok rest := by
  rw [readMark, if_pos h]

theorem readDate_padded {d : Date} (h0 : 0 ≤ d.year) (h : d.year ≤ 9999) (rest : List Char) :
    readDate (paddedDigits 4 d.year.natAbs ++ ('-' :: (paddedDigits 2 d.month ++
      ('-' :: (paddedDigits 2 d.day ++ rest))))) = .ok (d, rest) := by
  have hm := d.month_mem
  have hd := d.day_mem
  have hdays := Calendar.daysIn_le d.year d.month
  have hyear : ((d.year.natAbs : Nat) : Int) = d.year := by omega
  have hof : Date.of? d.year d.month d.day = some d := by
    unfold Date.of?
    rw [dif_pos ⟨hm, hd⟩]
  unfold readDate
  rw [readNumber_padded (by decide) (by omega)]
  dsimp only [bind, Except.bind]
  rw [readMark_cons rfl]
  dsimp only
  rw [readNumber_padded (by decide) (by omega)]
  dsimp only
  rw [readMark_cons rfl]
  dsimp only
  rw [readNumber_padded (by decide) (by omega)]
  dsimp only
  rw [hyear, hof]
  rfl

theorem ofLocal_zero (t : Instant) (hs : t.second ≤ 60) (hn : t.nanosecond < 1000000000) :
    ofLocal t.date t.hour t.minute t.second t.nanosecond 0 hs hn = t := by
  have hh := t.hour_lt
  have hm := t.minute_lt
  obtain ⟨date, hour, minute, second, nanosecond, _, _, _, _⟩ := t
  simp only [ofLocal, Int.sub_zero, mk.injEq, and_true]
  dsimp only at hh hm
  refine ⟨?_, ?_, ?_⟩
  · rw [if_neg (by omega), if_pos (by omega)]
  · omega
  · omega

theorem leastLength_le_storedText {t : Instant} (h : t.FourDigits) :
    leastLength ≤ Text.byteCount t.storedText.toList := by
  have hd := t.date.day_mem
  have four : (paddedDigits 4 t.date.year.natAbs).length = 4 :=
    length_paddedDigits (by decide) (by have := h.1; have := h.2; omega)
  have two {n : Nat} (hn : n < 100) : (paddedDigits 2 n).length = 2 :=
    length_paddedDigits (by decide) hn
  have hmonth := two (n := t.date.month) (by have := t.date.month_mem; omega)
  have hday := two (n := t.date.day) (by have := Calendar.daysIn_le t.date.year t.date.month; omega)
  have hhour := two (n := t.hour) (by have := t.hour_lt; omega)
  have hminute := two (n := t.minute) (by have := t.minute_lt; omega)
  have hsecond := two (n := t.second) (by have := t.second_le; omega)
  refine Nat.le_trans ?_ (length_le_byteCount _)
  rw [toList_storedText h]
  simp only [List.length_append, List.length_cons, four, hmonth, hday, hhour, hminute, hsecond,
    leastLength]
  omega

theorem parse_storedText {t : Instant} (h : t.FourDigits) : parse t.storedText = .ok t := by
  have hh := t.hour_lt
  have hm := t.minute_lt
  have hs := t.second_le
  have hn := t.nanosecond_lt
  have hlong : ¬ Text.byteCount t.storedText.toList < leastLength := by
    have := leastLength_le_storedText h
    omega
  have hzone : readZone "+00:00".toList = .ok (0, []) := rfl
  have hplus : ∀ c ∈ "+00:00".toList.head?, c.isDigit = false ∧ c ≠ '.' := by
    rw [show "+00:00".toList.head? = some '+' from rfl]
    rintro c ⟨⟩
    exact ⟨rfl, by decide⟩
  unfold parse
  rw [if_neg hlong, toList_storedText h]
  dsimp only [bind, Except.bind]
  rw [readDate_padded h.1 h.2]
  dsimp only
  rw [readMark_cons rfl]
  dsimp only
  rw [readNumber_padded (by decide) (by omega)]
  dsimp only
  rw [readMark_cons rfl]
  dsimp only
  rw [readNumber_padded (by decide) (by omega)]
  dsimp only
  rw [readMark_cons rfl]
  dsimp only
  rw [readNumber_padded (by decide) (by omega)]
  dsimp only
  rw [readFraction_fractionText hn hplus]
  dsimp only
  rw [dif_pos ⟨hh, hm, hs, hn⟩, hzone]
  exact congrArg Except.ok (ofLocal_zero t hs hn)

end Instant

end SheetExport
