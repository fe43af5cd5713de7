import SheetExport.Binary64
import SheetExport.Text.Blank

/-! # Numerals

A numeral is an optional sign, digits with at most one point among or beside them, and an optional
exponent that counts only when digits follow it. `scan` takes the longest numeral at the front of
a text.
-/

namespace SheetExport

/-- Stands for `digits * 10 ^ scale`, with a sign. -/
structure Numeral where
  negative : Bool
  digits : Nat
  scale : Int
  deriving DecidableEq

namespace Numeral

def digitsValue (ds : List Char) : Nat :=
  ds.foldl (fun n d => 10 * n + (d.toNat - 48)) 0

/-! ## Scanning -/

def takeSign : List Char → Bool × List Char
  | '-' :: rest => (true, rest)
  | '+' :: rest => (false, rest)
  | cs => (false, cs)

/-- The digits after a point. A point with no digit on either side is left alone. -/
def takeFraction (whole : List Char) : List Char → List Char × List Char
  | '.' :: rest =>
    if whole.isEmpty && (rest.takeWhile Char.isDigit).isEmpty then ([], '.' :: rest)
    else (rest.takeWhile Char.isDigit, rest.dropWhile Char.isDigit)
  | cs => ([], cs)

def takeExponent (cs : List Char) : Int × List Char :=
  match cs with
  | c :: rest =>
    if c = 'e' ∨ c = 'E' then
      let (negative, after) := takeSign rest
      let ds := after.takeWhile Char.isDigit
      if ds.isEmpty then (0, cs)
      else (if negative then -(digitsValue ds : Int) else digitsValue ds,
        after.dropWhile Char.isDigit)
    else (0, cs)
  | [] => (0, [])

def scan (cs : List Char) : Option (Numeral × List Char) :=
  let (negative, afterSign) := takeSign cs
  let whole := afterSign.takeWhile Char.isDigit
  let (fraction, afterFraction) := takeFraction whole (afterSign.dropWhile Char.isDigit)
  if (whole ++ fraction).isEmpty then none
  else
    let (exponent, rest) := takeExponent afterFraction
    some (⟨negative, digitsValue (whole ++ fraction), exponent - fraction.length⟩, rest)

/-! ## Values -/

def digitCount (n : Nat) : Nat := (Nat.toDigits 10 n).length

/-- The nearest number. Magnitudes past both ends of the format are settled by their digit count. -/
def toBinary64 (x : Numeral) : Binary64 :=
  let size : Int := digitCount x.digits + x.scale
  if x.digits = 0 ∨ size < -330 then .finite x.negative 0
  else if 310 < size then .infinite x.negative
  else if 0 ≤ x.scale then .ofRatio x.negative (x.digits * tenTo x.scale.toNat) 1
  else .ofRatio x.negative x.digits (tenTo (-x.scale).toNat)

/-! ## Reading text -/

/-- The numeral at the front of a text after its leading blanks. -/
def atStart? (blank : Char → Bool) (s : String) : Option Numeral :=
  (scan (s.toList.dropWhile blank)).map Prod.fst

/-- The numeral that a whole text is, with blanks allowed around it. -/
def ofWhole? (s : String) : Option Numeral :=
  match scan (s.toList.dropWhile Text.isAsciiBlank) with
  | some (x, rest) => if rest.all Text.isAsciiBlank then some x else none
  | none => none

end Numeral

/-- How a filter value is read as a number, zero when there is none. -/
def Binary64.ofFilterValue (s : String) : Binary64 :=
  match Numeral.atStart? Text.isBlank s with
  | some x => x.toBinary64
  | none => .zero

end SheetExport
