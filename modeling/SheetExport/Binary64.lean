import SheetExport.Power

/-! # Binary floating point numbers of 64 bits

A finite number is a sign and a magnitude counted in units of `2 ^ -1074`, the distance between
the two smallest numbers of the format. Every finite number of the format is such a multiple, so
order and equality are those of the natural numbers.
-/

namespace SheetExport

inductive Binary64 where
  | finite (negative : Bool) (units : Nat)
  | infinite (negative : Bool)
  | undefined
  deriving DecidableEq

namespace Binary64

/-- The number one, in units. -/
def one : Nat := twoTo 1074

/-- The first magnitude past the largest finite number. -/
def limit : Nat := twoTo 2098

def zero : Binary64 := finite false 0

/-! ## Rounding -/

/-- The quotient rounded to the nearest natural number, an exact half to the even one. -/
def nearest (num den : Nat) : Nat :=
  let q := num / den
  let r := num % den
  if 2 * r < den ∨ (2 * r = den ∧ q % 2 = 0) then q else q + 1

/-- The distance to the next larger number of the format, as a power of two. -/
def gapExponent (units : Nat) : Nat := units.log2 - 52

/-- A quotient of units rounded to 53 significant bits. -/
def roundUnits (num den : Nat) : Nat :=
  let e := gapExponent (num / den)
  nearest num (den * twoTo e) * twoTo e

def ofUnits (negative : Bool) (num den : Nat) : Binary64 :=
  let units := roundUnits num den
  if units < limit then finite negative units else infinite negative

def ofRatio (negative : Bool) (num den : Nat) : Binary64 := ofUnits negative (num * one) den

def ofInt (i : Int) : Binary64 := ofRatio (i < 0) i.natAbs 1

/-! ## The encoding -/

def magnitudeBits (units : Nat) : Nat :=
  if units < twoTo 52 then units
  else
    let e := gapExponent units
    (e + 1) * twoTo 52 + (units / twoTo e - twoTo 52)

def toBits : Binary64 → Nat
  | finite negative units => (if negative then twoTo 63 else 0) + magnitudeBits units
  | infinite negative => (if negative then twoTo 63 else 0) + 2047 * twoTo 52
  | undefined => 2047 * twoTo 52 + twoTo 51

def ofBits (word : Nat) : Binary64 :=
  let negative := decide (twoTo 63 ≤ word)
  let field := word / twoTo 52 % 2048
  let fraction := word % twoTo 52
  if field = 2047 then (if fraction = 0 then infinite negative else undefined)
  else if field = 0 then finite negative fraction
  else finite negative ((twoTo 52 + fraction) * twoTo (field - 1))

/-! ## Order -/

/-- The value in units, with its sign. -/
def signed (negative : Bool) (units : Nat) : Int := if negative then -units else units

/-- Gives `none` when one of the numbers is undefined. Both zeros are equal. -/
def order : Binary64 → Binary64 → Option Ordering
  | undefined, _ => none
  | _, undefined => none
  | infinite a, infinite b => some (compare b a)
  | infinite a, finite _ _ => some (if a then .lt else .gt)
  | finite _ _, infinite b => some (if b then .gt else .lt)
  | finite a m, finite b n => some (compare (signed a m) (signed b n))

/-- The order of an integer and a number, without rounding the integer. -/
def orderInt (i : Int) : Binary64 → Option Ordering
  | undefined => none
  | infinite b => some (if b then .gt else .lt)
  | finite b n => some (compare (i * one) (signed b n))

/-- The integer that the number is, if it is one. -/
def toInt? : Binary64 → Option Int
  | finite negative units =>
    if units % one = 0 then some (signed negative (units / one)) else none
  | _ => none

/-! ## Products and quotients of magnitudes -/

def mulUnits (a b : Nat) : Nat := roundUnits (a * b) one

def divUnits (a b : Nat) : Nat := roundUnits (a * one) b

end Binary64

end SheetExport
