import SheetExport.Calendar
import SheetExport.Store.Value

/-! # Moments of the store

How the store reads a date and time from a value. A value that is a number counts days from noon
of the day where Julian days begin. A day that its month lacks falls into the next month.
-/

namespace SheetExport.Store

/-- A date and time as written, so hour 24 may stand for the end of a day. -/
structure Moment where
  year : Int
  month : Nat
  day : Nat
  hour : Nat
  minute : Nat
  second : Nat
  /-- The thousandths of the second, where they are shown. -/
  millis : Option Nat
  deriving DecidableEq

namespace Moment

def text (m : Moment) : String :=
  (if m.year < 0 then "-" else "") ++ Text.padLeft 4 '0' (toString m.year.natAbs) ++ "-" ++
    Date.twoDigits m.month ++ "-" ++ Date.twoDigits m.day ++ " " ++ Date.twoDigits m.hour ++ ":" ++
    Date.twoDigits m.minute ++ ":" ++ Date.twoDigits m.second ++
    match m.millis with
    | some n => "." ++ Text.padLeft 3 '0' (toString n)
    | none => ""

/-! ## Counting milliseconds -/

def dayMillis : Nat := 86400000

/-- The first millisecond that is no longer counted, after the last day of year 9999. -/
def millisLimit : Int := 464269060800000

/-- The milliseconds from the start of Julian days to midnight of a date. A year begins with March
here, so that a leap day is its last. Before year 0 the store rounds centuries towards it, and so
the last year of a century may have a leap day too many. -/
def midnight (year : Int) (month day : Nat) : Int :=
  let y := if month ≤ 2 then year - 1 else year
  let m := if month ≤ 2 then month + 12 else month
  let century := y.tdiv 100
  let days := 36525 * (y + 4716) / 100 + (306001 * (m + 1) / 10000 : Nat) + day + 2 - century +
    century.tdiv 4
  (days - 1524) * dayMillis - dayMillis / 2

/-- The date of a Julian day, with the same centuries. -/
def dateOf (n : Int) : Int × Nat × Nat :=
  let century := (4 * n - 7468865).tdiv 146097
  let shifted := n + 1525 + century - century.tdiv 4
  let year := (20 * shifted - 2442) / 7305
  let inYear := shifted - 36525 * year / 100
  let m := inYear * 10000 / 306001
  let day := inYear - 306001 * m / 10000
  if m < 14 then (year - if m ≤ 3 then 4715 else 4716, (m - 1).toNat, day.toNat)
  else (year - 4715, (m - 13).toNat, day.toNat)

def ofMillis (t : Int) : Moment :=
  let shifted := t + dayMillis / 2
  let (year, month, day) := dateOf (shifted / dayMillis)
  let seconds := (shifted % dayMillis / 1000).toNat
  ⟨year, month, day, seconds / 3600, seconds / 60 % 60, seconds % 60, none⟩

def inRange (t : Int) : Bool := 0 ≤ t && t < millisLimit

/-! ## Reading text -/

def takeNumber (count low high : Nat) (cs : List Char) : Option (Nat × List Char) :=
  let ds := cs.take count
  let n := Numeral.digitsValue ds
  if ds.length = count ∧ ds.all Char.isDigit ∧ low ≤ n ∧ n ≤ high then some (n, cs.drop count)
  else none

def takeMark (mark : Char) : List Char → Option (List Char)
  | [] => none
  | c :: rest => if c = mark then some rest else none

def skipBlanks (cs : List Char) : List Char := cs.dropWhile Text.isAsciiBlank

/-- The zone at the end of a text, as minutes east. -/
def readZone (cs : List Char) : Option Int :=
  match skipBlanks cs with
  | [] => some 0
  | c :: rest =>
    if c = 'Z' ∨ c = 'z' then if (skipBlanks rest).isEmpty then some 0 else none
    else if c = '+' ∨ c = '-' then do
      let (hours, rest) ← takeNumber 2 0 14 rest
      let rest ← takeMark ':' rest
      let (minutes, rest) ← takeNumber 2 0 59 rest
      let east : Int := 60 * hours + minutes
      if (skipBlanks rest).isEmpty then some (if c = '-' then -east else east) else none
    else none

/-! ## Fractions of a second

They are counted in floating point, in units of its smallest number.
-/

/-- A magnitude, if it is not past the largest finite number. -/
def finite? (units : Nat) : Option Nat := if units < Binary64.limit then some units else none

def tenfold? (units : Nat) : Option Nat := finite? (Binary64.mulUnits units (10 * Binary64.one))

/-- A digit is added by its code, and the code of zero is taken off again. -/
def withDigit? (digits : Nat) (c : Char) : Option Nat := do
  let sum ← finite? (Binary64.roundUnits ((← tenfold? digits) + c.toNat * Binary64.one) 1)
  return Binary64.roundUnits (sum - '0'.toNat * Binary64.one) 1

/-- The fraction with the given digits. There may be so many of them that it is lost, or even has
no value. -/
def fraction? (digits : List Char) : Option Nat :=
  (digits.foldlM withDigit? 0).map fun n =>
    match digits.foldlM (fun scale _ => tenfold? scale) Binary64.one with
    | some scale => Binary64.divUnits n scale
    | none => 0

/-- Seconds with their fraction. -/
def readSeconds (cs : List Char) : Option (Nat × List Char) := do
  let (seconds, cs) ← takeNumber 2 0 59 cs
  let (digits, rest) := match cs with
    | '.' :: rest => (rest.takeWhile Char.isDigit, rest.dropWhile Char.isDigit)
    | _ => ([], cs)
  if digits.isEmpty then return (seconds * Binary64.one, cs)
  else return (Binary64.roundUnits (seconds * Binary64.one + (← fraction? digits)) 1, rest)

/-! ## Times of day -/

structure Clock where
  hour : Nat
  minute : Nat
  /-- In units, for the sake of fractions. -/
  seconds : Nat
  east : Int

namespace Clock

/-- The second that is shown. -/
def second (c : Clock) : Nat := c.seconds / Binary64.one

/-- The milliseconds since midnight, the nearest to the fraction. -/
def millis (c : Clock) : Int :=
  let rounded := Binary64.roundUnits
    (Binary64.mulUnits c.seconds (1000 * Binary64.one) + Binary64.one / 2) 1
  ((c.hour * 60 + c.minute) * 60000 + rounded / Binary64.one : Nat)

def midnight : Clock := ⟨0, 0, 0, 0⟩

end Clock

def readClock (cs : List Char) : Option Clock := do
  let (hour, cs) ← takeNumber 2 0 24 cs
  let cs ← takeMark ':' cs
  let (minute, cs) ← takeNumber 2 0 59 cs
  match cs with
  | ':' :: rest => do
    let (seconds, rest) ← readSeconds rest
    return ⟨hour, minute, seconds, ← readZone rest⟩
  | cs => return ⟨hour, minute, 0, ← readZone cs⟩

/-! ## Dates with times -/

/-- A date with the text after it. -/
def readDate (cs : List Char) : Option ((Int × Nat × Nat) × List Char) := do
  let (negative, cs) := match cs with
    | '-' :: rest => (true, rest)
    | cs => (false, cs)
  let (year, cs) ← takeNumber 4 0 9999 cs
  let cs ← takeMark '-' cs
  let (month, cs) ← takeNumber 2 1 12 cs
  let cs ← takeMark '-' cs
  let (day, cs) ← takeNumber 2 1 31 cs
  return ((if negative then -year else year, month, day), cs)

/-- The last day that every month has. -/
def commonDay : Nat := 28

/-- A time of a day. Without a zone the time stays as it is written, and so does a day that every
month has. Any other day follows from the milliseconds. -/
def atClock (year : Int) (month day : Nat) (c : Clock) : Option Moment :=
  let t := midnight year month day + c.millis - c.east * 60000
  if ! inRange t then none
  else if c.east ≠ 0 then some (ofMillis t)
  else if day ≤ commonDay then some ⟨year, month, day, c.hour, c.minute, c.second, none⟩
  else some { ofMillis t with hour := c.hour, minute := c.minute, second := c.second }

/-- A time without a date, on the first day of the year 2000. -/
def clockAlone (c : Clock) : Moment :=
  let t := midnight 2000 1 1 + c.millis - c.east * 60000
  if c.east ≠ 0 then ofMillis t
  else { ofMillis t with hour := c.hour, minute := c.minute, second := c.second }

def ofJulianDay (x : Binary64) : Option Moment :=
  match x with
  | .finite negative units =>
    if negative ∧ units ≠ 0 then none
    else
      let half := Binary64.one / 2
      let t := Binary64.roundUnits (Binary64.mulUnits units (dayMillis * Binary64.one) + half) 1
      let t : Int := (t / Binary64.one : Nat)
      if inRange t then some (ofMillis t) else none
  | _ => none

/-! ## The clock -/

def clockName : String := "now"

/-- Names of the time of the clock with thousandths. -/
def preciseNames : List String := ["subsec", "subsecond"]

/-- What a name of the clock stands for at a time, in milliseconds since Julian days begin. -/
def ofClock? (now : Int) (name : String) : Option Moment :=
  let m : Option Moment := if 0 < now ∧ now < millisLimit then some (ofMillis now) else none
  if Text.sameName name clockName then m
  else if preciseNames.any (Text.sameName name) then
    m.map fun m => { m with millis := some ((now + dayMillis / 2) % 1000).toNat }
  else none

def namesClock (name : String) : Bool :=
  Text.sameName name clockName || preciseNames.any (Text.sameName name)

/-! ## Moments of values -/

def ofText? (now : Int) (s : String) : Option Moment :=
  let dated : Option Moment := do
    let ((year, month, day), rest) ← readDate s.toList
    let rest := rest.dropWhile fun c => Text.isAsciiBlank c || c == 'T'
    atClock year month day (← if rest.isEmpty then some .midnight else readClock rest)
  let timed : Option Moment := (readClock s.toList).map clockAlone
  let counted : Option Moment := (Numeral.ofWhole? s).bind fun x => ofJulianDay x.stored
  dated <|> timed <|> counted <|> ofClock? now s

/-- A text as it is read: a zero ends it. -/
def written (v : Value) : String := byteText (untilZero v.textBytes)

def ofValue? (now : Int) (v : Value) : Option Moment :=
  match v with
  | .null => none
  | .integer i => ofJulianDay (.ofInt i)
  | .real x => ofJulianDay x
  | .text _ | .blob _ => ofText? now (written v)

/-- Whether a value stands for a time of the clock. -/
def readsClock : Value → Bool
  | .text s => namesClock (written (.text s))
  | .blob bytes => namesClock (written (.blob bytes))
  | _ => false

end Moment

/-- The moment of a value as text, null when it has none. -/
def momentOf (now : Int) (v : Value) : Value :=
  match Moment.ofValue? now v with
  | some m => .text m.text
  | none => .null

end SheetExport.Store
