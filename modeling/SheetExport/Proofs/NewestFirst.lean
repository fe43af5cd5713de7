import Mathlib.Tactic.Linarith
import Mathlib.Tactic.Ring
import SheetExport.Proofs.StoredJobs

/-!
# Jobs are listed newest first

The registry sorts the texts of start times. For years of four digits this is the order of the
instants, whatever number of digits their fractions have, because a plus sign is smaller than a
point and both are smaller than a digit.
-/

namespace SheetExport

/-! ## Days -/

namespace Calendar

/-- The days of the first months of a year. -/
def daysOfMonths (year : Int) : Nat → Nat
  | 0 => 0
  | month + 1 => daysOfMonths year month + daysIn year (month + 1)

/-- The days of all years from the year 0 to a year, without it. -/
def daysBeforeYear (year : Int) : Int :=
  365 * year + (year + 3) / 4 - (year + 99) / 100 + (year + 399) / 400

theorem daysOfMonths_mono (year : Int) {m n : Nat} (h : m ≤ n) :
    daysOfMonths year m ≤ daysOfMonths year n := by
  induction h with
  | refl => exact Nat.le_refl _
  | step _ ih => exact Nat.le_trans ih (Nat.le_add_right ..)

theorem daysBeforeYear_succ (year : Int) :
    daysBeforeYear (year + 1) = daysBeforeYear year + daysOfMonths year 12 := by
  have htwelve : daysOfMonths year 12 = if isLeap year then 366 else 365 := by
    simp only [daysOfMonths, daysIn]
    cases isLeap year <;> rfl
  have hleap : isLeap year = true ↔ year % 4 = 0 ∧ (year % 100 ≠ 0 ∨ year % 400 = 0) := by
    simp [isLeap]
  rw [htwelve]
  unfold daysBeforeYear
  split <;> rename_i h <;> rw [hleap] at h <;> omega

theorem daysBeforeYear_mono {a b : Int} (h : a ≤ b) : daysBeforeYear a ≤ daysBeforeYear b := by
  unfold daysBeforeYear
  omega

end Calendar

namespace Date

open Calendar

variable {a b : Date}

/-- The place of a date among all days. -/
def dayNumber (d : Date) : Int := daysBeforeYear d.year + daysOfMonths d.year (d.month - 1) + d.day

theorem daysOfMonths_month (d : Date) :
    daysOfMonths d.year (d.month - 1) + daysIn d.year d.month = daysOfMonths d.year d.month := by
  obtain ⟨m, hm⟩ : ∃ m, d.month = m + 1 := ⟨d.month - 1, by have := d.month_mem.1; omega⟩
  rw [hm, Nat.add_sub_cancel, daysOfMonths]

theorem dayNumber_lt_of_year (h : a.year < b.year) : a.dayNumber < b.dayNumber := by
  have ha := daysOfMonths_month a
  have hday := a.day_mem.2
  have hyear := daysOfMonths_mono a.year a.month_mem.2
  have hnext := daysBeforeYear_succ a.year
  have hle := daysBeforeYear_mono (Int.add_one_le_iff.2 h)
  have hb := b.day_mem.1
  unfold dayNumber
  omega

theorem dayNumber_lt_of_month (hy : a.year = b.year) (h : a.month < b.month) :
    a.dayNumber < b.dayNumber := by
  have ha := daysOfMonths_month a
  have hday := a.day_mem.2
  have hmonth := daysOfMonths_mono a.year (Nat.le_sub_one_of_lt h)
  have hb := b.day_mem.1
  unfold dayNumber
  rw [← hy]
  omega

theorem dayNumber_lt_iff : a.dayNumber < b.dayNumber ↔ a.year < b.year ∨
    a.year = b.year ∧ (a.month < b.month ∨ a.month = b.month ∧ a.day < b.day) := by
  constructor
  · intro h
    rcases lt_trichotomy a.year b.year with hy | hy | hy
    · exact .inl hy
    · refine .inr ⟨hy, ?_⟩
      rcases lt_trichotomy a.month b.month with hm | hm | hm
      · exact .inl hm
      · refine .inr ⟨hm, ?_⟩
        unfold dayNumber at h
        rw [hy, hm] at h
        omega
      · exact absurd h (lt_asymm (dayNumber_lt_of_month hy.symm hm))
    · exact absurd h (lt_asymm (dayNumber_lt_of_year hy))
  · rintro (hy | ⟨hy, hm | ⟨hm, hd⟩⟩)
    · exact dayNumber_lt_of_year hy
    · exact dayNumber_lt_of_month hy hm
    · unfold dayNumber
      rw [hy, hm]
      omega

theorem eq_of_dayNumber_eq (h : a.dayNumber = b.dayNumber) :
    a.year = b.year ∧ a.month = b.month ∧ a.day = b.day := by
  have hab : ¬ a.dayNumber < b.dayNumber := by omega
  have hba : ¬ b.dayNumber < a.dayNumber := by omega
  rw [dayNumber_lt_iff] at hab hba
  omega

end Date

/-! ## Digits -/

theorem digitsValue_cons (d : Char) (ds : List Char) :
    digitsValue (d :: ds) = 10 ^ ds.length * Instant.digitValue d + digitsValue ds := by
  change Nat.ofDigitChars 10 (d :: ds) 0 = _
  rw [Nat.ofDigitChars_cons, Nat.mul_zero, Nat.zero_add, Nat.ofDigitChars_eq_ofDigitChars_zero]
  rfl

theorem digitValue_lt {d : Char} (h : d.isDigit = true) : Instant.digitValue d < 10 := by
  have := toNat_of_isDigit h
  unfold Instant.digitValue
  omega

theorem digitsValue_lt {ds : List Char} (h : ∀ d ∈ ds, d.isDigit = true) :
    digitsValue ds < 10 ^ ds.length := by
  induction ds with
  | nil => exact Nat.one_pos
  | cons d ds ih =>
    obtain ⟨hd, hds⟩ := List.forall_mem_cons.1 h
    have hlt := ih hds
    have hle := Nat.mul_le_mul_left (10 ^ ds.length) (Nat.le_of_lt_succ (digitValue_lt hd))
    rw [digitsValue_cons, List.length_cons, Nat.pow_succ]
    omega

theorem lt_of_digitValue_lt {a b : Char} (h : Instant.digitValue a < Instant.digitValue b) :
    a < b := by
  rw [Char.lt_def, UInt32.lt_iff_toNat_lt, Char.toNat_val, Char.toNat_val]
  unfold Instant.digitValue at h
  omega

theorem eq_of_digitValue_eq {a b : Char} (ha : a.isDigit = true) (hb : b.isDigit = true)
    (h : Instant.digitValue a = Instant.digitValue b) : a = b := by
  have ha := toNat_of_isDigit ha
  have hb := toNat_of_isDigit hb
  unfold Instant.digitValue at h
  exact Char.toNat_inj.1 (by omega)

/-- Of two rows of digits the one that is the smaller fraction is the smaller text, where what
follows a shorter row is smaller than a digit. -/
theorem digits_lt {as bs x y : List Char} (ha : ∀ d ∈ as, d.isDigit = true)
    (hb : ∀ d ∈ bs, d.isDigit = true)
    (h : digitsValue as * 10 ^ bs.length < digitsValue bs * 10 ^ as.length)
    (hx : as.length < bs.length → ∀ d : Char, d.isDigit = true → ∀ ds, x < d :: ds) :
    as ++ x < bs ++ y := by
  induction as generalizing bs with
  | nil =>
    cases bs with
    | nil => exact absurd h (Nat.lt_irrefl _)
    | cons b bs => exact hx (Nat.succ_pos _) b (hb b List.mem_cons_self) (bs ++ y)
  | cons a as ih =>
    cases bs with
    | nil => exact absurd h (by simp [digitsValue])
    | cons b bs =>
      obtain ⟨hda, has⟩ := List.forall_mem_cons.1 ha
      obtain ⟨hdb, hbs⟩ := List.forall_mem_cons.1 hb
      rw [digitsValue_cons, digitsValue_cons, List.length_cons, List.length_cons, Nat.pow_succ,
        Nat.pow_succ] at h
      have hp : 0 < 10 ^ as.length := Nat.pow_pos (by decide)
      rcases lt_trichotomy (Instant.digitValue a) (Instant.digitValue b) with hab | hab | hab
      · exact List.cons_lt_cons_iff.2 (.inl (lt_of_digitValue_lt hab))
      · obtain rfl := eq_of_digitValue_eq hda hdb hab
        refine List.cons_lt_cons_iff.2 (.inr ⟨rfl, ih has hbs ?_ fun hlen => ?_⟩)
        · linarith
        · exact hx (Nat.succ_lt_succ hlen)
      · -- The digits behind a smaller first digit do not make up for it.
        have hfirst : 10 ^ as.length * 10 ^ bs.length * (Instant.digitValue b + 1) ≤
            10 ^ as.length * 10 ^ bs.length * Instant.digitValue a := Nat.mul_le_mul_left _ hab
        have hrest := Nat.mul_lt_mul_of_pos_right (digitsValue_lt hbs) hp
        have hnone := Nat.zero_le (digitsValue as * 10 ^ bs.length)
        linarith

theorem padded_lt {width m n : Nat} (hw : 0 < width) (hm : m < 10 ^ width) (hn : n < 10 ^ width)
    {x y : List Char} (h : m < n ∨ m = n ∧ x < y) :
    paddedDigits width m ++ x < paddedDigits width n ++ y := by
  rcases h with h | ⟨rfl, h⟩
  · have hlm := length_paddedDigits hw hm
    have hln := length_paddedDigits hw hn
    refine digits_lt (fun _ => isDigit_of_mem_paddedDigits) (fun _ => isDigit_of_mem_paddedDigits)
      ?_ fun hlt => absurd hlt (by omega)
    rw [hlm, hln, digitsValue_paddedDigits, digitsValue_paddedDigits]
    exact Nat.mul_lt_mul_of_pos_right h (Nat.pow_pos (by decide))
  · exact List.append_left_lt h

theorem mark_lt (c : Char) {x y : List Char} (h : x < y) : c :: x < c :: y :=
  List.cons_lt_cons_iff.2 (.inr ⟨rfl, h⟩)

namespace Instant

/-! ## Fractions -/

/-- The digits of a fraction, of which there may be fewer than nine. -/
theorem toList_fractionText (n : Nat) (h : n < 1000000000) :
    n = 0 ∧ (fractionText n).toList = [] ∨
      ∃ width m, 0 < width ∧ width ≤ 9 ∧ m < 10 ^ width ∧ m * 10 ^ (9 - width) = n ∧
        (fractionText n).toList = '.' :: paddedDigits width m := by
  have hdot (width m : Nat) : ("." ++ Text.padLeft width '0' (toString m)).toList =
      '.' :: paddedDigits width m := by
    rw [String.toList_append]
    rfl
  unfold fractionText
  split
  · exact .inl ⟨‹_›, rfl⟩
  · refine .inr ?_
    split
    · exact ⟨3, n / 1000000, by decide, by decide, by omega, by omega, hdot _ _⟩
    · split
      · exact ⟨6, n / 1000, by decide, by decide, by omega, by omega, hdot _ _⟩
      · exact ⟨9, n, by decide, by decide, h, by omega, hdot _ _⟩

theorem fractionText_lt {m n : Nat} (hn : n < 1000000000) (h : m < n) :
    (fractionText m).toList ++ "+00:00".toList < (fractionText n).toList ++ "+00:00".toList := by
  have hplus : "+00:00".toList = '+' :: "00:00".toList := rfl
  obtain ⟨rfl, -⟩ | ⟨wn, n', hwn, hwn9, hn', rfl, htn⟩ := toList_fractionText n hn
  · exact absurd h (Nat.not_lt_zero m)
  obtain ⟨rfl, htm⟩ | ⟨wm, m', hwm, hwm9, hm', rfl, htm⟩ := toList_fractionText m (by omega)
  · rw [htm, htn, hplus]
    exact List.cons_lt_cons_iff.2 (.inl (by decide))
  · have hlm := length_paddedDigits hwm hm'
    have hln := length_paddedDigits hwn hn'
    -- Both fractions are counted in units of the ninth digit.
    have hnine {w : Nat} (hw : w ≤ 9) : 10 ^ w * 10 ^ (9 - w) = 10 ^ 9 := by
      rw [← Nat.pow_add, Nat.add_sub_cancel' hw]
    have hscaled : m' * 10 ^ wn < n' * 10 ^ wm := by
      refine Nat.lt_of_mul_lt_mul_right (a := 10 ^ (9 - wm) * 10 ^ (9 - wn)) ?_
      calc m' * 10 ^ wn * (10 ^ (9 - wm) * 10 ^ (9 - wn))
          = m' * 10 ^ (9 - wm) * (10 ^ wn * 10 ^ (9 - wn)) := by ring
        _ = m' * 10 ^ (9 - wm) * 10 ^ 9 := by rw [hnine hwn9]
        _ < n' * 10 ^ (9 - wn) * 10 ^ 9 := Nat.mul_lt_mul_of_pos_right h (by decide)
        _ = n' * 10 ^ (9 - wn) * (10 ^ wm * 10 ^ (9 - wm)) := by rw [hnine hwm9]
        _ = n' * 10 ^ wm * (10 ^ (9 - wm) * 10 ^ (9 - wn)) := by ring
    rw [htm, htn, List.cons_append, List.cons_append]
    refine mark_lt '.' (digits_lt (fun _ => isDigit_of_mem_paddedDigits)
      (fun _ => isDigit_of_mem_paddedDigits) ?_ fun _ d hd ds => ?_)
    · rwa [hlm, hln, digitsValue_paddedDigits, digitsValue_paddedDigits]
    · rw [hplus]
      refine List.cons_lt_cons_iff.2 (.inl ?_)
      have := toNat_of_isDigit hd
      rw [Char.lt_def, UInt32.lt_iff_toNat_lt, Char.toNat_val, Char.toNat_val]
      have : '+'.toNat = 43 := rfl
      omega

/-! ## Instants -/

/-- The time of day. A leap second is behind the other seconds of its minute. -/
def clock (t : Instant) : List Nat := [t.hour, t.minute, t.second, t.nanosecond]

def Earlier (a b : Instant) : Prop :=
  a.date.dayNumber < b.date.dayNumber ∨
    a.date.dayNumber = b.date.dayNumber ∧ a.clock < b.clock

instance (a b : Instant) : Decidable (a.Earlier b) := inferInstanceAs (Decidable (_ ∨ _))

variable {a b : Instant}

theorem Earlier.fields (h : a.Earlier b) :
    a.date.year < b.date.year ∨ a.date.year = b.date.year ∧
      (a.date.month < b.date.month ∨ a.date.month = b.date.month ∧
        (a.date.day < b.date.day ∨ a.date.day = b.date.day ∧ a.clock < b.clock)) := by
  rcases h with h | ⟨h, hclock⟩
  · rcases Date.dayNumber_lt_iff.1 h with hy | ⟨hy, hm | ⟨hm, hd⟩⟩
    · exact .inl hy
    · exact .inr ⟨hy, .inl hm⟩
    · exact .inr ⟨hy, .inr ⟨hm, .inl hd⟩⟩
  · obtain ⟨hy, hm, hd⟩ := Date.eq_of_dayNumber_eq h
    exact .inr ⟨hy, .inr ⟨hm, .inr ⟨hd, hclock⟩⟩⟩

/-- The clock with its marks, as it stands in a stored text. -/
def clockText (t : Instant) : List Char :=
  paddedDigits 2 t.hour ++ (':' :: (paddedDigits 2 t.minute ++ (':' ::
    (paddedDigits 2 t.second ++ ((fractionText t.nanosecond).toList ++ "+00:00".toList)))))

theorem clockText_lt (h : a.clock < b.clock) : a.clockText < b.clockText := by
  have ha := And.intro a.hour_lt (And.intro a.minute_lt a.second_le)
  have hb := And.intro b.hour_lt (And.intro b.minute_lt b.second_le)
  simp only [clock, List.cons_lt_cons_iff, List.not_lt_nil, and_false, or_false] at h
  refine padded_lt (by decide) (by omega) (by omega)
    (h.imp_right (.imp_right fun h => mark_lt ':' ?_))
  refine padded_lt (by decide) (by omega) (by omega)
    (h.imp_right (.imp_right fun h => mark_lt ':' ?_))
  refine padded_lt (by decide) (by omega) (by omega) (h.imp_right (.imp_right fun h => ?_))
  exact fractionText_lt b.nanosecond_lt h

theorem storedText_lt (ha : a.FourDigits) (hb : b.FourDigits) (h : a.Earlier b) :
    a.storedText < b.storedText := by
  have hday (d : Date) : d.day < 10 ^ 2 := by
    have := d.day_mem.2
    have := Calendar.daysIn_le d.year d.month
    omega
  have hmonth (d : Date) : d.month < 10 ^ 2 := by
    have := d.month_mem.2
    omega
  have hyear {t : Instant} (ht : t.FourDigits) :
      t.date.year.natAbs < 10 ^ 4 ∧ (t.date.year.natAbs : Int) = t.date.year := by
    have := ht.1
    have := ht.2
    omega
  obtain ⟨hya, hca⟩ := hyear ha
  obtain ⟨hyb, hcb⟩ := hyear hb
  have hfields := h.fields
  rw [← hca, ← hcb, Int.ofNat_lt, Int.ofNat_inj] at hfields
  rw [String.lt_iff, toList_storedText ha, toList_storedText hb]
  refine padded_lt (by decide) hya hyb (hfields.imp_right (.imp_right fun h => mark_lt '-' ?_))
  refine padded_lt (by decide) (hmonth _) (hmonth _)
    (h.imp_right (.imp_right fun h => mark_lt '-' ?_))
  refine padded_lt (by decide) (hday _) (hday _) (h.imp_right (.imp_right fun h => mark_lt 'T' ?_))
  exact clockText_lt h

end Instant

/-! ## Listings -/

namespace Registry

variable {s : Store} {jobs : List (Int × Job)}

theorem pairwise_mergeSort_text (js : List Job) :
    (js.mergeSort fun a b => !decide (a.startTime.storedText < b.startTime.storedText)).Pairwise
      fun a b => ¬ a.startTime.storedText < b.startTime.storedText := by
  refine (List.pairwise_mergeSort (fun a b c hab hbc => ?_) (fun a b => ?_) js).imp fun hab => ?_
  · simp only [Bool.not_eq_true', decide_eq_false_iff_not, String.not_lt] at hab hbc ⊢
    exact String.le_trans hbc hab
  · simp only [Bool.or_eq_true, Bool.not_eq_true', decide_eq_false_iff_not, String.not_lt]
    exact String.le_total b.startTime.storedText a.startTime.storedText
  · simpa using hab

/-- The registry lists all its jobs, or those of an owner, each of them once and none before one
that started later. -/
theorem list_newest_first (h : Holds s jobs) (owner : Option Int) :
    ∃ listed, list s owner = .ok listed ∧
      listed.Perm ((jobs.map Prod.snd).filter fun j => owner.all (· = j.owner)) ∧
      (listed.map Job.id).Nodup ∧
      listed.Pairwise fun a b => ¬ a.startTime.Earlier b.startTime := by
  obtain ⟨found, hfound, hlist⟩ := list_mergeSort h owner
  have hperm := (List.mergeSort_perm found fun a b : Job =>
    !decide (a.startTime.storedText < b.startTime.storedText)).trans hfound
  have hdistinct : (jobs.map Prod.snd).Pairwise fun a b => a.id ≠ b.id :=
    List.pairwise_map.2 h.distinct
  have htimed {j : Job} (hj : j ∈ found.mergeSort fun a b =>
      !decide (a.startTime.storedText < b.startTime.storedText)) : j.startTime.FourDigits := by
    obtain ⟨e, he, rfl⟩ := List.mem_map.1 (List.mem_filter.1 (hperm.mem_iff.1 hj)).1
    exact h.timed e he
  refine ⟨_, hlist, hperm, ?_, ?_⟩
  · exact (hperm.map Job.id).nodup_iff.2 (List.pairwise_map.2 (hdistinct.filter _))
  · exact (pairwise_mergeSort_text found).imp_of_mem fun ha hb hab hearlier =>
      hab (Instant.storedText_lt (htimed ha) (htimed hb) hearlier)

/-- A job of the first minutes after the leap second of another. -/
def nextDayJob : Job :=
  { lateJob with
    id := ⟨List.replicate 32 (Fin.last 15), List.length_replicate⟩
    startTime := ⟨⟨2015, 7, 1, by decide, by decide⟩, 0, 1, 2, 3, by decide, by decide, by decide,
      by decide⟩ }

theorem list_newest_first_leapSecond :
    Holds ⟨[holding [(1, lateJob), (2, nextDayJob)]]⟩ [(1, lateJob), (2, nextDayJob)] ∧
      lateJob.startTime.Earlier nextDayJob.startTime ∧
      ∃ listed, list ⟨[holding [(1, lateJob), (2, nextDayJob)]]⟩ (some 7) = .ok listed ∧
        listed.Perm [lateJob, nextDayJob] ∧
        listed.Pairwise fun a b => ¬ a.startTime.Earlier b.startTime := by
  have holds : Holds ⟨[holding [(1, lateJob), (2, nextDayJob)]]⟩
      [(1, lateJob), (2, nextDayJob)] := ⟨rfl, by decide, by decide, by decide⟩
  obtain ⟨listed, hlist, hperm, -, hsorted⟩ := list_newest_first holds (some 7)
  exact ⟨holds, by decide, listed, hlist, hperm, hsorted⟩

end Registry

end SheetExport
