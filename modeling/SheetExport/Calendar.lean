import SheetExport.Text.Blank

/-! # Calendar dates

Dates of the Gregorian calendar, continued to all years.
-/

namespace SheetExport

namespace Calendar

def isLeap (year : Int) : Bool := year % 4 == 0 && (year % 100 != 0 || year % 400 == 0)

def daysIn (year : Int) (month : Nat) : Nat :=
  if month = 2 then (if isLeap year then 29 else 28)
  else if month = 4 ∨ month = 6 ∨ month = 9 ∨ month = 11 then 30
  else 31

theorem daysIn_pos (year : Int) (month : Nat) : 0 < daysIn year month := by
  unfold daysIn
  split
  · split <;> decide
  · split <;> decide

end Calendar

open Calendar

structure Date where
  year : Int
  month : Nat
  day : Nat
  month_mem : 1 ≤ month ∧ month ≤ 12
  day_mem : 1 ≤ day ∧ day ≤ daysIn year month
  deriving DecidableEq

namespace Date

def of? (year : Int) (month day : Nat) : Option Date :=
  if h : (1 ≤ month ∧ month ≤ 12) ∧ 1 ≤ day ∧ day ≤ daysIn year month then
    some ⟨year, month, day, h.1, h.2⟩
  else none

/-! ## Neighbours -/

def firstOfMonth (year : Int) (month : Nat) (h : 1 ≤ month ∧ month ≤ 12) : Date :=
  ⟨year, month, 1, h, Nat.le_refl 1, daysIn_pos year month⟩

def lastOfMonth (year : Int) (month : Nat) (h : 1 ≤ month ∧ month ≤ 12) : Date :=
  ⟨year, month, daysIn year month, h, daysIn_pos year month, Nat.le_refl _⟩

def next (d : Date) : Date :=
  if h : d.day < daysIn d.year d.month then
    ⟨d.year, d.month, d.day + 1, d.month_mem, Nat.le_add_left 1 d.day, h⟩
  else if h : d.month < 12 then
    firstOfMonth d.year (d.month + 1) ⟨Nat.le_add_left 1 d.month, h⟩
  else firstOfMonth (d.year + 1) 1 (by decide)

def previous (d : Date) : Date :=
  if h : 1 < d.day then
    ⟨d.year, d.month, d.day - 1, d.month_mem, by omega, by have := d.day_mem.2; omega⟩
  else if h : 1 < d.month then
    lastOfMonth d.year (d.month - 1) ⟨by omega, by have := d.month_mem.2; omega⟩
  else lastOfMonth (d.year - 1) 12 (by decide)

/-! ## Text -/

def twoDigits (n : Nat) : String := Text.padLeft 2 '0' (toString n)

/-- Four digits, and a sign where four digits do not do. -/
def yearText (year : Int) : String :=
  let digits := Text.padLeft 4 '0' (toString year.natAbs)
  if year < 0 then "-" ++ digits else if 9999 < year then "+" ++ digits else digits

def text (d : Date) : String :=
  yearText d.year ++ "-" ++ twoDigits d.month ++ "-" ++ twoDigits d.day

end Date

end SheetExport
