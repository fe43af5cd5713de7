/-! # Job identifiers

A UUID is 32 hexadecimal digits. It is written in lower case with hyphens and read in four forms:
plain, hyphenated, in braces and as a `urn:uuid:` name. Case does not matter.
-/

namespace SheetExport

structure Uuid where
  digits : List (Fin 16)
  length_eq : digits.length = 32
  deriving DecidableEq

namespace Uuid

def nil : Uuid := ⟨List.replicate 32 0, by simp⟩

/-! ## Hexadecimal digits -/

def hexChar (d : Fin 16) : Char :=
  if d.val < 10 then Char.ofNat (48 + d.val) else Char.ofNat (87 + d.val)

def hexValue? (c : Char) : Option (Fin 16) :=
  if '0' ≤ c ∧ c ≤ '9' then some (Fin.ofNat 16 (c.toNat - 48))
  else if 'a' ≤ c ∧ c ≤ 'f' then some (Fin.ofNat 16 (c.toNat - 87))
  else if 'A' ≤ c ∧ c ≤ 'F' then some (Fin.ofNat 16 (c.toNat - 55))
  else none

/-! ## Writing -/

def text (u : Uuid) : String :=
  let cs := u.digits.map hexChar
  String.ofList (cs.take 8 ++ '-' :: (cs.drop 8).take 4 ++ '-' :: (cs.drop 12).take 4 ++
    '-' :: (cs.drop 16).take 4 ++ '-' :: cs.drop 20)

/-! ## Reading -/

def ofHex? (cs : List Char) : Option Uuid :=
  match cs.mapM hexValue? with
  | some ds => if h : ds.length = 32 then some ⟨ds, h⟩ else none
  | none => none

def hyphenPlaces : List Nat := [8, 13, 18, 23]

def ofHyphenated? (cs : List Char) : Option Uuid :=
  if cs.length = 36 ∧ hyphenPlaces.all (fun i => cs[i]? == some '-') then
    ofHex? (cs.take 8 ++ (cs.drop 9).take 4 ++ (cs.drop 14).take 4 ++ (cs.drop 19).take 4 ++
      cs.drop 24)
  else none

def urnStart : List Char := "urn:uuid:".toList

def parse? (s : String) : Option Uuid :=
  let cs := s.toList
  if cs.length = 32 then ofHex? cs
  else if cs.length = 36 then ofHyphenated? cs
  else if cs.length = 38 then
    if cs.head? = some '\x7b' ∧ cs.getLast? = some '\x7d' then
      ofHyphenated? ((cs.drop 1).take 36)
    else none
  else if cs.length = 45 then
    if (cs.take 9).map Char.toLower = urnStart then ofHyphenated? (cs.drop 9) else none
  else none

end Uuid

end SheetExport
