import SheetExport.Binary64

/-! # Extended precision

Magnitudes with 64 significant bits, in which the store moves a number by powers of ten. A
magnitude is counted in units of `2 ^ -1200`, so that those far below the smallest number of
`Binary64` still have all their bits.
-/

namespace SheetExport

structure Extended where
  units : Nat
  deriving DecidableEq

namespace Extended

/-- The number one, in units. -/
def one : Nat := twoTo 1200

/-- A quotient of units rounded to 64 significant bits. -/
def rounded (num den : Nat) : Extended :=
  let e := (num / den).log2 - 63
  ⟨Binary64.nearest num (den * twoTo e) * twoTo e⟩

def ofNat (n : Nat) : Extended := rounded (n * one) 1

def mul (a b : Extended) : Extended := rounded (a.units * b.units) one

def ofPowerOfTen (p : Int) : Extended :=
  let (a, b) := powerOfTen p
  rounded (a * one) b

/-- The natural number below. -/
def floor (x : Extended) : Nat := x.units / one

/-! ## The format of 64 bits -/

/-- The units of `Binary64` in one unit of `Extended`, as a denominator. -/
def finer : Nat := twoTo 126

def ofBinary64Units (units : Nat) : Extended := ⟨units * finer⟩

/-- The largest finite magnitude of the format of 64 bits. -/
def largest : Extended := ofBinary64Units (Binary64.limit - twoTo 2045)

/-- Whatever is past the largest finite number is infinite, however near. -/
def toBinary64 (negative : Bool) (x : Extended) : Binary64 :=
  if largest.units < x.units then .infinite negative else .ofUnits negative x.units finer

/-! ## Powers of ten -/

def timesPower (p : Int) (count : Nat) (x : Extended) : Extended :=
  Nat.repeat (·.mul (ofPowerOfTen p)) count x

/-- Times a power of ten, by hundreds, then tens, then ones of its exponent. -/
def scaled (x : Extended) (p : Int) : Extended :=
  let n := p.natAbs
  ((x.timesPower (100 * p.sign) (n / 100)).timesPower (10 * p.sign) (n / 10 % 10)).timesPower
    p.sign (n % 10)

/-- Stands for `value * 10 ^ exponent`. -/
structure Split where
  value : Extended
  exponent : Int

def atLeast (p : Int) (x : Extended) : Bool := (ofPowerOfTen p).units ≤ x.units

namespace Split

/-- Moves `10 ^ p` from the power into the value while the value asks for it. -/
def moveWhile (far : Extended → Bool) (p : Int) : Nat → Split → Split
  | 0, s => s
  | fuel + 1, s =>
    if far s.value then moveWhile far p fuel ⟨s.value.mul (ofPowerOfTen p), s.exponent - p⟩ else s

/-- Brings the value into the range from `10 ^ 17` up to `10 ^ 19`, in a few steps. -/
def ofExtended (x : Extended) : Split :=
  let start : Split := ⟨x, 0⟩
  if atLeast 19 x then
    [(-100, 119), (-10, 29), (-1, 19)].foldl
      (fun s (p, bound) => s.moveWhile (atLeast bound) p 12) start
  else
    [(100, -97), (10, 7), (1, 17)].foldl
      (fun s (p, bound) => s.moveWhile (! atLeast bound ·) p 12) start

end Split

end Extended

end SheetExport
