/-! # Powers of two and of ten -/

namespace SheetExport

def twoTo (n : Nat) : Nat := Nat.pow 2 n

theorem twoTo_pos (n : Nat) : 0 < twoTo n := Nat.two_pow_pos n

theorem twoTo_le {m n : Nat} (h : m ≤ n) : twoTo m ≤ twoTo n := Nat.pow_le_pow_right (by decide) h

theorem twoTo_add (m n : Nat) : twoTo (m + n) = twoTo m * twoTo n := Nat.pow_add 2 m n

def tenTo (n : Nat) : Nat := Nat.pow 10 n

/-- A power of ten of either sign, as a ratio. -/
def powerOfTen (p : Int) : Nat × Nat :=
  if 0 ≤ p then (tenTo p.toNat, 1) else (1, tenTo (-p).toNat)

end SheetExport
