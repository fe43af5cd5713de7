import SheetExport.Calendar
import SheetExport.Power

/-! # Instants

A moment in universal time, down to nanoseconds. It is written as a date, a time and a zone, and
read from any zone.
-/

namespace SheetExport

/-- A leap second is second 60. -/
structure Instant where
  date : Date
  hour : Nat
  minute : Nat
  second : Nat
  nanosecond : Nat
  hour_lt : hour < 24
  minute_lt : minute < 60
  second_le : second ≤ 60
  nanosecond_lt : nanosecond < 1000000000
  deriving DecidableEq

namespace Instant

/-! ## Writing -/

/-- Nothing, milliseconds, microseconds or nanoseconds, as many as are needed. -/
def fractionText (nanosecond : Nat) : String :=
  if nanosecond = 0 then ""
  else if nanosecond % 1000000 = 0 then
    "." ++ Text.padLeft 3 '0' (toString (nanosecond / 1000000))
  else if nanosecond % 1000 = 0 then
    "." ++ Text.padLeft 6 '0' (toString (nanosecond / 1000))
  else "." ++ Text.padLeft 9 '0' (toString nanosecond)

def localText (t : Instant) : String :=
  t.date.text ++ "T" ++ Date.twoDigits t.hour ++ ":" ++ Date.twoDigits t.minute ++ ":" ++
    Date.twoDigits t.second ++ fractionText t.nanosecond

/-- How an instant is shown to callers. -/
def text (t : Instant) : String := t.localText ++ "Z"

/-- How an instant is kept in the registry. -/
def storedText (t : Instant) : String := t.localText ++ "+00:00"

/-! ## Reading -/

inductive Fault where
  | tooShort
  | invalid
  | outOfRange
  | tooLong
  deriving DecidableEq

def Fault.message : Fault → String
  | tooShort => "premature end of input"
  | invalid => "input contains invalid characters"
  | outOfRange => "input is out of range"
  | tooLong => "trailing input"

def digitValue (c : Char) : Nat := c.toNat - 48

/-- A number of exactly `count` digits. Too few bytes count as a text cut short. -/
def readNumber (count : Nat) (cs : List Char) : Except Fault (Nat × List Char) :=
  if Text.byteCount cs < count then .error .tooShort
  else
    let ds := cs.take count
    if ds.length = count ∧ ds.all Char.isDigit then
      .ok (ds.foldl (fun n d => 10 * n + digitValue d) 0, cs.drop count)
    else .error .invalid

def readBetween (count low high : Nat) (cs : List Char) : Except Fault (Nat × List Char) := do
  let (n, rest) ← readNumber count cs
  if low ≤ n ∧ n ≤ high then .ok (n, rest) else .error .outOfRange

def readMark (isMark : Char → Bool) : List Char → Except Fault (List Char)
  | [] => .error .tooShort
  | c :: rest => if isMark c then .ok rest else .error .invalid

/-- Digits past the ninth are passed over. -/
def readFraction : List Char → Except Fault (Nat × List Char)
  | '.' :: rest =>
    let ds := rest.takeWhile Char.isDigit
    if rest.isEmpty then .error .tooShort
    else if ds.isEmpty then .error .invalid
    else
      let kept := ds.take 9
      .ok (kept.foldl (fun n d => 10 * n + digitValue d) 0 * tenTo (9 - kept.length),
        rest.dropWhile Char.isDigit)
  | cs => .ok (0, cs)

/-- The zone as minutes east. -/
def readZone (cs : List Char) : Except Fault (Int × List Char) :=
  match cs with
  | [] => .error .tooShort
  | c :: rest =>
    if c = 'Z' ∨ c = 'z' then .ok (0, rest)
    else if c = '+' ∨ c = '-' ∨ c = '−' then do
      let (hours, rest) ← readNumber 2 rest
      let rest ← readMark (· == ':') rest
      let (minutes, rest) ← readBetween 2 0 59 rest
      let east : Int := 60 * hours + minutes
      return (if c = '+' then east else -east, rest)
    else .error .invalid

/-- A local time moved to universal time. -/
def ofLocal (date : Date) (hour minute second nanosecond : Nat) (east : Int)
    (second_le : second ≤ 60) (nanosecond_lt : nanosecond < 1000000000) : Instant :=
  let minutes : Int := 60 * hour + minute - east
  let day := if minutes < 0 then date.previous else if minutes < 1440 then date else date.next
  let inDay := (minutes % 1440).toNat
  have inDay_lt : inDay < 1440 := by
    have := Int.emod_lt_of_pos minutes (by decide : (0 : Int) < 1440)
    have := Int.emod_nonneg minutes (by decide : (1440 : Int) ≠ 0)
    omega
  { date := day
    hour := inDay / 60
    minute := inDay % 60
    second := second
    nanosecond := nanosecond
    hour_lt := by omega
    minute_lt := by omega
    second_le := second_le
    nanosecond_lt := nanosecond_lt }

/-- The widest zone, in minutes. -/
def zoneLimit : Nat := 23 * 60 + 59

/-- The bytes of a date and a time to the second. -/
def leastLength : Nat := 19

def readDate (cs : List Char) : Except Fault (Date × List Char) := do
  let (year, cs) ← readNumber 4 cs
  let cs ← readMark (· == '-') cs
  let (month, cs) ← readNumber 2 cs
  let cs ← readMark (· == '-') cs
  let (day, cs) ← readNumber 2 cs
  match Date.of? year month day with
  | some date => return (date, cs)
  | none => throw .outOfRange

def parse (s : String) : Except Fault Instant := do
  if Text.byteCount s.toList < leastLength then throw .tooShort
  let (date, cs) ← readDate s.toList
  let cs ← readMark (fun c => c == 'T' || c == 't' || c == ' ') cs
  let (hour, cs) ← readNumber 2 cs
  let cs ← readMark (· == ':') cs
  let (minute, cs) ← readNumber 2 cs
  let cs ← readMark (· == ':') cs
  let (second, cs) ← readNumber 2 cs
  let (nanosecond, cs) ← readFraction cs
  if h : hour < 24 ∧ minute < 60 ∧ second ≤ 60 ∧ nanosecond < 1000000000 then
    let (east, cs) ← readZone cs
    if ¬ cs.isEmpty then throw .tooLong
    if zoneLimit < east.natAbs then throw .outOfRange
    return ofLocal date hour minute second nanosecond east h.2.2.1 h.2.2.2
  else throw .outOfRange

end Instant

end SheetExport
