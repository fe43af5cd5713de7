/-! # Bytes

Texts leave the program as bytes in UTF-8.
-/

namespace SheetExport

abbrev Bytes : Type := List UInt8

def bytesOf (s : String) : Bytes := s.toUTF8.toList

/-- The text that the bytes encode, if they do. -/
def textOf? (bytes : Bytes) : Option String := String.fromUTF8? (ByteArray.mk bytes.toArray)

/-- Each byte as the character of its number. -/
def byteText (bytes : Bytes) : String := String.ofList (bytes.map fun b => Char.ofNat b.toNat)

/-- The bytes before a zero byte. -/
def untilZero (bytes : Bytes) : Bytes := bytes.takeWhile (· ≠ 0)

/-! ## Parts -/

/-- The part before the first mark and the part after it. -/
def splitFirst (mark : Char) (bytes : Bytes) : Bytes × Bytes :=
  (bytes.takeWhile (· ≠ mark.toUInt8), (bytes.dropWhile (· ≠ mark.toUInt8)).drop 1)

/-- The parts between marks, one more than there are marks. -/
def partsAt (mark : Char) : Bytes → List Bytes
  | [] => [[]]
  | b :: rest =>
    if b = mark.toUInt8 then [] :: partsAt mark rest
    else
      match partsAt mark rest with
      | part :: parts => (b :: part) :: parts
      | [] => [[b]]

end SheetExport
