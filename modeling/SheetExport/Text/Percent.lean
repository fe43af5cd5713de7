import SheetExport.Bytes
import SheetExport.Uuid

/-! # Percent signs

Two hexadecimal digits after a percent sign stand for one byte. Any other percent sign stands for
itself.
-/

namespace SheetExport.Text

def byteDigit? (b : UInt8) : Option (Fin 16) := Uuid.hexValue? (Char.ofNat b.toNat)

/-- The byte that follows a percent sign as two digits. -/
def escapedByte? : Bytes → Option UInt8
  | a :: b :: _ => do return UInt8.ofNat (16 * (← byteDigit? a).val + (← byteDigit? b).val)
  | _ => none

def unescaped : Bytes → Bytes
  | [] => []
  | b :: rest =>
    if b = '%'.toUInt8 then
      match escapedByte? rest with
      | some c => c :: unescaped (rest.drop 2)
      | none => b :: unescaped rest
    else b :: unescaped rest
termination_by bytes => bytes.length
decreasing_by all_goals simp only [List.length_drop, List.length_cons]; omega

end SheetExport.Text
