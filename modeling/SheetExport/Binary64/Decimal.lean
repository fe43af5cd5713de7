import SheetExport.Binary64.Numeral

/-! # Decimal text of a number

`shortest` gives the fewest digits that read back as the same number, and of those the digits
nearest to it. A notation then decides where the point goes.
-/

namespace SheetExport

/-- Stands for `digits * 10 ^ exponent`; a nonzero `digits` does not end in zero once trimmed. -/
structure Decimal where
  digits : Nat
  exponent : Int
  deriving DecidableEq

namespace Decimal

/-- Drops trailing zero digits, at most `fuel` of them. -/
def trim : Nat → Decimal → Decimal
  | 0, d => d
  | fuel + 1, d =>
    if d.digits ≠ 0 ∧ d.digits % 10 = 0 then trim fuel ⟨d.digits / 10, d.exponent + 1⟩ else d

/-! ## Choosing digits -/

/-- The exponent of the leading decimal digit of a nonzero magnitude. -/
def leading (units : Nat) : Int :=
  (Numeral.digitCount (units * tenTo 340 / Binary64.one) : Int) - 341

/-- The reals that round to a magnitude, in quarters of a unit. The ends count when closed. -/
structure Span where
  low : Nat
  high : Nat
  closed : Bool

def span (units : Nat) : Span :=
  let e := Binary64.gapExponent units
  let below := if units = twoTo (52 + e) ∧ 0 < e then twoTo e else 2 * twoTo e
  ⟨4 * units - below, 4 * units + 2 * twoTo e, units / twoTo e % 2 = 0⟩

/-- Whether `c * 10 ^ p` rounds to the magnitude of a span. -/
def Span.has (s : Span) (p : Int) (c : Nat) : Bool :=
  let (a, b) := powerOfTen p
  let x := 4 * c * a * Binary64.one
  if s.closed then s.low * b ≤ x && x ≤ s.high * b else s.low * b < x && x < s.high * b

/-- Which of two decimals at the same distance is taken. -/
inductive Tie where
  | upward
  | toEven

def Tie.takesLower : Tie → Nat → Bool
  | upward, _ => false
  | toEven, lower => lower % 2 == 0

/-- The neighbours of a magnitude on the grid of `10 ^ p`, with the nearer one first. -/
def neighbours (tie : Tie) (units : Nat) (p : Int) : List Nat :=
  let (a, b) := powerOfTen p
  let grid := a * Binary64.one
  let c := units * b / grid
  let twice := 2 * (units * b - c * grid)
  if twice < grid ∨ (twice = grid ∧ tie.takesLower c) then [c, c + 1] else [c + 1, c]

def shortest (tie : Tie) (units : Nat) : Decimal :=
  let top := leading units
  let onGrid (n : Nat) : Option Decimal :=
    ((neighbours tie units (top - n)).find? ((span units).has (top - n))).map (⟨·, top - n⟩)
  trim 18 ((List.range 17).findSome? onGrid |>.getD ⟨0, 0⟩)

/-- The first digits up to a count, rounded by the digit after them. -/
def significant (count : Nat) (d : Decimal) : Decimal :=
  match Numeral.digitCount d.digits - count with
  | 0 => trim count d
  | n + 1 => trim (count + 1) ⟨(d.digits / tenTo n + 5) / 10, d.exponent + (n + 1 : Nat)⟩

/-! ## Notation -/

def digitText (d : Decimal) : List Char := Nat.toDigits 10 d.digits

/-- The exponent of the leading digit. -/
def top (d : Decimal) : Int := d.exponent + d.digitText.length - 1

/-- Digits with a point, always with at least one digit on either side. -/
def positional (d : Decimal) : String :=
  let ds := d.digitText
  if 0 ≤ d.exponent then String.ofList (ds ++ List.replicate d.exponent.toNat '0') ++ ".0"
  else
    let places := (-d.exponent).toNat
    let padded := List.replicate (places + 1 - ds.length) '0' ++ ds
    String.ofList (padded.take (padded.length - places)) ++ "." ++
      String.ofList (padded.drop (padded.length - places))

/-- How the exponent of a number in scientific notation is written. -/
structure ScientificForm where
  plusSign : Bool
  exponentWidth : Nat
  /-- Whether a single digit is followed by `.0`. -/
  pointAlways : Bool

def scientific (form : ScientificForm) (d : Decimal) : String :=
  let mantissa := match d.digitText with
    | [c] => String.ofList [c] ++ if form.pointAlways then ".0" else ""
    | c :: rest => String.ofList (c :: '.' :: rest)
    | [] => ""
  let sign := if d.top < 0 then "-" else if form.plusSign then "+" else ""
  mantissa ++ "e" ++ sign ++ Text.padLeft form.exponentWidth '0' (toString d.top.natAbs)

end Decimal

namespace Binary64

def signText (negative : Bool) : String := if negative then "-" else ""

/-- Notation of number literals: positional from `0.0001` up to `10 ^ 16`. -/
def literalText (units : Nat) : String :=
  if units = 0 then "0.0"
  else
    let d := Decimal.shortest .upward units
    if -4 ≤ d.top ∧ d.top < 16 then d.positional else d.scientific ⟨false, 1, false⟩

/-- A number as a literal of the store's language. A numeral past the largest number stands for
infinity, and an undefined number is written as zero. -/
def literal : Binary64 → String
  | finite negative units => signText negative ++ literalText units
  | infinite negative => signText negative ++ "9e999"
  | undefined => "0.0"

/-- Notation of numbers in messages about documents: positional from `0.00001` up to `10 ^ 16`. -/
def messageText : Binary64 → String
  | finite negative units =>
    signText negative ++
      if units = 0 then "0.0"
      else
        let d := Decimal.shortest .toEven units
        if -5 ≤ d.top ∧ d.top < 16 then d.positional else d.scientific ⟨true, 1, false⟩
  | infinite negative => signText negative ++ "inf"
  | undefined => "NaN"

end Binary64

end SheetExport
