import SheetExport.Binary64.Numeral
import SheetExport.Bytes

/-! # The number at the front of a text, byte by byte

The place where the number ends is found first, by one pass over the bytes that steps back from a
point without digits and from an exponent without digits. What stands before that place is then
converted as a whole.
-/

namespace SheetExport

namespace Numeral

/-! ## Where a number ends -/

def isDigitByte (b : UInt8) : Bool := 48 ≤ b && b ≤ 57

/-- The place behind a sign, if one stands at the place. -/
def signEnd (bytes : Bytes) (i : Nat) : Nat :=
  if bytes[i]? = some 43 ∨ bytes[i]? = some 45 then i + 1 else i

/-- The place behind the digits that start at the place. -/
def digitsEnd (bytes : Bytes) (i : Nat) : Nat :=
  if h : i < bytes.length then
    if isDigitByte bytes[i] then digitsEnd bytes (i + 1) else i
  else i
termination_by bytes.length - i

/-- The place behind the sign, the digits and the point of a number, with the count of its
digits. -/
def mantissaEnd (bytes : Bytes) : Nat × Nat :=
  let start := signEnd bytes 0
  let stop := digitsEnd bytes start
  let digits := stop - start
  if bytes[stop]? = some 46 then
    let fractionStop := digitsEnd bytes (stop + 1)
    if 0 < digits ∨ stop + 1 < fractionStop then
      (fractionStop, digits + (fractionStop - (stop + 1)))
    else (stop, digits)
  else (stop, digits)

/-- The place behind an exponent that has digits, if one starts at the place. -/
def exponentEnd (bytes : Bytes) (i : Nat) : Nat :=
  if bytes[i]? = some 101 ∨ bytes[i]? = some 69 then
    let start := signEnd bytes (i + 1)
    let stop := digitsEnd bytes start
    if start < stop then stop else i
  else i

/-- Where the number at the front ends, `none` when there is none. -/
def numberEnd? (bytes : Bytes) : Option Nat :=
  let (stop, digits) := mantissaEnd bytes
  if digits = 0 then none else some (exponentEnd bytes stop)

end Numeral

/-! ## Conversion -/

namespace Binary64

/-- The words for numbers without digits, in any case. -/
def ofWord? (negative : Bool) (cs : List Char) : Option Binary64 :=
  let word := String.ofList (cs.map Char.toLower)
  if word = "inf" ∨ word = "infinity" then some (infinite negative)
  else if word = "nan" then some undefined
  else none

/-- The number that a whole text is: a numeral, or a word after a sign. -/
def parse? (s : String) : Option Binary64 :=
  match Numeral.scan s.toList with
  | some (x, []) => some x.toBinary64
  | some (_, _ :: _) => none
  | none =>
    let (negative, rest) := Numeral.takeSign s.toList
    ofWord? negative rest

/-- The number at the front of a text after its leading blanks, zero when there is none or when the
text in front is not converted. Gives `none` when the place where it is cut is inside a
character. -/
def ofFront? (s : String) : Option Binary64 :=
  let bytes := bytesOf (Text.trimStart s)
  match Numeral.numberEnd? bytes with
  | none => some zero
  | some stop => (textOf? (bytes.take stop)).map fun number => (parse? number).getD zero

end Binary64

end SheetExport
