import SheetExport.Json.Fault
import SheetExport.Binary64.Numeral

/-! # Numbers of a document

A number that is written without a point or an exponent and fits a word is an integer. Every other
number is rounded to binary.
-/

namespace SheetExport.Json

/-- The parts of a number as they are written. -/
structure NumberText where
  negative : Bool
  whole : List Char
  fraction : List Char
  /-- The sign and the digits of the exponent. -/
  exponent : Option (Bool × List Char)
  hasPoint : Bool

/-! ## Reading -/

/-- The digits at the front, of which there must be one. -/
def readDigits (cs : List Char) : Except Fault (List Char × List Char) :=
  match cs with
  | [] => .error .endInValue
  | c :: _ =>
    if c.isDigit then .ok (cs.takeWhile Char.isDigit, cs.dropWhile Char.isDigit)
    else .error .badNumber

/-- A zero stands alone before the point. -/
def readWhole (cs : List Char) : Except Fault (List Char × List Char) := do
  let (ds, rest) ← readDigits cs
  if ds.head? = some '0' ∧ ds ≠ ['0'] then .error .badNumber else .ok (ds, rest)

def readExponent : Reader (Option (Bool × List Char))
  | c :: rest =>
    if c = 'e' ∨ c = 'E' then do
      let (negative, rest) := Numeral.takeSign rest
      let (ds, rest) ← readDigits rest
      return (some (negative, ds), rest)
    else .ok (none, c :: rest)
  | [] => .ok (none, [])

/-- A number from its sign on. -/
def readNumberText (cs : List Char) : Except Fault (NumberText × List Char) := do
  let (negative, cs) := match cs with
    | '-' :: rest => (true, rest)
    | cs => (false, cs)
  let (whole, cs) ← readWhole cs
  let (hasPoint, fraction, cs) ← match cs with
    | '.' :: rest => do
      let (ds, rest) ← readDigits rest
      pure (true, ds, rest)
    | cs => pure (false, [], cs)
  let (exponent, cs) ← readExponent cs
  return (⟨negative, whole, fraction, exponent, hasPoint⟩, cs)

/-! ## Values -/

inductive Number where
  | integer (n : Int)
  | float (x : Binary64)
  deriving DecidableEq

/-- The first natural number past a word. -/
def wordLimit : Nat := twoTo 64

/-- The largest exponent that is counted. -/
def exponentLimit : Nat := twoTo 31 - 1

/-- The digits taken into a significand as long as it stays a word, and the digits left over. -/
def takeSignificand (start : Nat) : List Char → Nat × List Char
  | [] => (start, [])
  | d :: rest =>
    let next := 10 * start + (d.toNat - 48)
    if next < wordLimit then takeSignificand next rest else (start, d :: rest)

/-- The magnitude of a power of ten. -/
def powerUnits (n : Nat) : Nat := Binary64.roundUnits (tenTo n * Binary64.one) 1

/-- The largest power of ten that is finite. -/
def largestPower : Nat := 308

/-- Divides a magnitude by a power of ten, a large one in several steps. -/
def divideByPower : Nat → Nat → Nat → Nat
  | 0, units, _ => units
  | fuel + 1, units, n =>
    if n ≤ largestPower then Binary64.divUnits units (powerUnits n)
    else if units = 0 then 0
    else divideByPower fuel (Binary64.divUnits units (powerUnits largestPower)) (n - largestPower)

/-- The magnitude of `significand * 10 ^ scale`. -/
def scaledUnits (significand : Nat) (scale : Int) : Except Fault Nat :=
  let units := Binary64.roundUnits (significand * Binary64.one) 1
  if scale < 0 then .ok (divideByPower 4 units (-scale).toNat)
  else if units = 0 then .ok 0
  else if scale ≤ largestPower then
    let product := Binary64.mulUnits units (powerUnits scale.toNat)
    if product < Binary64.limit then .ok product else .error .numberTooLarge
  else .error .numberTooLarge

namespace NumberText

def exponentValue (t : NumberText) : Int :=
  match t.exponent with
  | none => 0
  | some (negative, ds) =>
    if negative then -(Numeral.digitsValue ds : Int) else Numeral.digitsValue ds

/-- The magnitude of a number that is not an integer. Digits that do not fit the significand are
dropped, those before the point count as zeros. -/
def units (t : NumberText) : Except Fault Nat :=
  let (first, dropped) := takeSignificand 0 t.whole
  let (significand, unused) := takeSignificand first t.fraction
  let scale : Int := dropped.length - (t.fraction.length - unused.length : Nat)
  if exponentLimit < t.exponentValue.natAbs then
    if significand ≠ 0 ∧ 0 < t.exponentValue then .error .numberTooLarge else .ok 0
  else scaledUnits significand (scale + t.exponentValue)

def value (t : NumberText) : Except Fault Number :=
  let n := Numeral.digitsValue t.whole
  if t.hasPoint ∨ t.exponent.isSome ∨ wordLimit ≤ n then do
    return .float (.finite t.negative (← t.units))
  else if ¬ t.negative then .ok (.integer n)
  else if n = 0 ∨ twoTo 63 < n then .ok (.float (.ofRatio true n 1))
  else .ok (.integer (-n))

end NumberText

def readNumber : Reader Number := fun cs => do
  let (t, rest) ← readNumberText cs
  return (← t.value, rest)

/-- Passes over a number whose value is not wanted. -/
def skipNumber : Reader Unit := fun cs =>
  match readNumberText cs with
  | .ok (_, rest) => .ok ((), rest)
  | .error _ => .error .badNumber

end SheetExport.Json
