import SheetExport.Binary64.Decimal
import SheetExport.Binary64.Extended

/-! # Numbers of the store

How the store reads a number from a text and writes one as a text. Both go through extended
precision and round more than once, so neither always gives the nearest value.
-/

namespace SheetExport

/-! ## Reading -/

namespace Numeral

/-- Digits are taken until they reach this number. -/
def enoughDigits : Nat := 1844674407370955160

/-- The first nineteen or twenty digits, as many as it takes to have enough. -/
def shortened (x : Numeral) : Numeral :=
  let extra := digitCount x.digits - 19
  let dropped := if enoughDigits ≤ x.digits / tenTo extra then extra else extra - 1
  { x with digits := x.digits / tenTo dropped, scale := x.scale + dropped }

/-- Turns powers of ten into digits while there are not enough of them. -/
def widened (digits : Nat) : Nat → Nat × Nat
  | 0 => (digits, 0)
  | e + 1 => if digits ≤ enoughDigits then widened (10 * digits) e else (digits, e + 1)

/-- Drops zeros at the end that stand behind the point. -/
def narrowed (digits : Nat) : Nat → Nat × Nat
  | 0 => (digits, 0)
  | e + 1 => if digits % 10 = 0 then narrowed (digits / 10) e else (digits, e + 1)

def extended (x : Numeral) : Extended :=
  if 0 ≤ x.scale then
    let (digits, e) := widened x.digits x.scale.toNat
    (Extended.ofNat digits).scaled e
  else
    let (digits, e) := narrowed x.digits (-x.scale).toNat
    (Extended.ofNat digits).scaled (-(e : Int))

/-- A scale past this one settles a magnitude of at most twenty digits. -/
def scaleLimit : Nat := 400

/-- The number that the store takes a numeral for. -/
def stored (x : Numeral) : Binary64 :=
  let x := x.shortened
  if x.digits = 0 ∨ x.scale < -(scaleLimit : Int) then .finite x.negative 0
  else if scaleLimit < x.scale then .infinite x.negative
  else x.extended.toBinary64 x.negative

end Numeral

namespace Binary64

/-- How the store casts text to a number. -/
def ofStoredText (s : String) : Binary64 :=
  match Numeral.atStart? Text.isAsciiBlank s with
  | some x => x.stored
  | none => .zero

/-! ## Writing -/

/-- Fifteen significant digits of the eighteen or nineteen that extended precision gives. -/
def storedDigits (units : Nat) : Decimal :=
  let split := Extended.Split.ofExtended (.ofBinary64Units units)
  (Decimal.mk split.value.floor split.exponent).significant 15

/-- How the store turns a number into text: positional from `0.0001` up to `10 ^ 15`. -/
def storedText : Binary64 → String
  | finite negative units =>
    if units = 0 then "0.0"
    else
      let d := storedDigits units
      signText negative ++
        if -4 ≤ d.top ∧ d.top < 15 then d.positional else d.scientific ⟨true, 2, true⟩
  | infinite negative => signText negative ++ "Inf"
  | undefined => ""

end Binary64

end SheetExport
