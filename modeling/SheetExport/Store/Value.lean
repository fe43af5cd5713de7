import SheetExport.Binary64.Stored
import SheetExport.Bytes
import SheetExport.Filter

/-! # Stored values

A column may hold values of any kind. Its affinity says which kind it prefers, and decides how its
values are compared with others.
-/

namespace SheetExport

inductive Value where
  | null
  | integer (i : Int)
  | real (x : Binary64)
  | text (s : String)
  | blob (bytes : Bytes)
  deriving DecidableEq

inductive Affinity where
  | integer
  | real
  | text
  /-- Values stay as they are. -/
  | blob
  deriving DecidableEq

namespace Affinity

def isNumeric : Affinity → Bool
  | integer | real => true
  | text | blob => false

end Affinity

/-- Three-valued truth. Unknown comes from comparing with nothing. -/
abbrev Truth : Type := Option Bool

namespace Truth

def not (a : Truth) : Truth := Option.map (! ·) a

def and : Truth → Truth → Truth
  | some false, _ => some false
  | _, some false => some false
  | some true, some true => some true
  | _, _ => none

def or : Truth → Truth → Truth
  | some true, _ => some true
  | _, some true => some true
  | some false, some false => some false
  | _, _ => none

def isTrue (a : Truth) : Bool := a = some true

end Truth

namespace Value

def isNull (v : Value) : Bool := v = null

/-- The range of a stored integer. -/
def fitsInteger (i : Int) : Bool := -(twoTo 63 : Int) ≤ i && i < twoTo 63

/-! ## Conversions -/

def digitsOnly (s : String) : Bool :=
  let cs := (s.toList.dropWhile Text.isAsciiBlank).reverse.dropWhile Text.isAsciiBlank
  (Numeral.takeSign cs.reverse).2.all Char.isDigit

/-- The number that a whole text is: an integer if it is written as one and fits. -/
def numberOf? (s : String) : Option Value :=
  (Numeral.ofWhole? s).map fun x =>
    let i := if x.negative then -(x.digits : Int) else x.digits
    if digitsOnly s ∧ fitsInteger i then integer i else real x.stored

/-- A text that is a number becomes that number. -/
def toNumeric : Value → Value
  | text s => (numberOf? s).getD (text s)
  | v => v

/-- A number becomes its text. -/
def toTextual : Value → Value
  | integer i => text (toString i)
  | real x => text x.storedText
  | v => v

/-- A number without a fraction becomes an integer, short of the ends of the range. -/
def toWhole : Value → Value
  | real x =>
    match x.toInt? with
    | some i => if -(twoTo 63 : Int) < i ∧ i < (twoTo 63 : Int) - 1 then integer i else real x
    | none => real x
  | v => v

def toReal : Value → Value
  | integer i => real (.ofInt i)
  | v => v

/-- The form in which a column keeps a value. -/
def stored (a : Affinity) (v : Value) : Value :=
  match a with
  | .integer => v.toNumeric.toWhole
  | .real => v.toNumeric.toReal
  | .text => v.toTextual
  | .blob => v

/-! ## Casts -/

/-- The bytes of a value as text. -/
def textBytes : Value → Bytes
  | null => []
  | integer i => bytesOf (toString i)
  | real x => bytesOf x.storedText
  | text s => bytesOf s
  | blob bytes => bytes

/-- Bytes as a text, or as they are when they are none. -/
def ofTextBytes (bytes : Bytes) : Value :=
  match textOf? bytes with
  | some s => text s
  | none => blob bytes

/-- Gives `none` when the bytes are no text. -/
def text? (v : Value) : Option String :=
  match v with
  | text s => some s
  | v => textOf? v.textBytes

def castReal : Value → Value
  | null => null
  | integer i => real (.ofInt i)
  | real x => real x
  | text s => real (.ofStoredText s)
  | blob bytes => real (.ofStoredText (byteText bytes))

/-! ## Reading

How a value is taken where a value of one kind is wanted. Null reads as the empty text and as
zero. -/

def readText? : Value → Option String
  | text s => some s
  | null => some ""
  | _ => none

def readInt? : Value → Option Int
  | integer i => some i
  | null => some 0
  | _ => none

/-! ## Order -/

/-- Numbers come before texts and texts before blobs. -/
def rank : Value → Nat
  | null => 0
  | integer _ | real _ => 1
  | text _ => 2
  | blob _ => 3

/-- Unknown when either value is null. -/
def order : Value → Value → Option Ordering
  | null, _ => none
  | _, null => none
  | integer a, integer b => some (compare a b)
  | integer a, real y => y.orderInt a
  | real x, integer b => (x.orderInt b).map Ordering.swap
  | real x, real y => x.order y
  | text a, text b => some (compareOfLessAndEq a b)
  | blob a, blob b => some (compare a b)
  | a, b => some (compare a.rank b.rank)

/-- Whether two values count as one when repeated values are dropped. -/
def same (a b : Value) : Bool := (a.isNull && b.isNull) || a.order b == some .eq

/-- Where null comes first. -/
def sortsBefore (a b : Value) : Bool :=
  if a.isNull then ! b.isNull else a.order b == some .lt

end Value

/-! ## Comparison -/

/-- A value with the affinity of the column it comes from, if it comes from one. -/
structure Operand where
  affinity : Option Affinity
  value : Value
  deriving DecidableEq

namespace Operand

def literal (v : Value) : Operand := ⟨none, v⟩

/-- Two columns meet as numbers if one of them prefers numbers, and otherwise as they are. A
column and a literal meet in the column's way. -/
def meetingAffinity : Option Affinity → Option Affinity → Affinity
  | some a, some b => if a.isNumeric || b.isNumeric then .integer else .blob
  | some a, none => a
  | none, some b => b
  | none, none => .blob

def meet (a : Affinity) (v w : Value) : Value × Value :=
  match a with
  | .integer | .real => (v.toNumeric, w.toNumeric)
  | .text => (v.toTextual, w.toTextual)
  | .blob => (v, w)

def order (a b : Operand) : Option Ordering :=
  let (v, w) := meet (meetingAffinity a.affinity b.affinity) a.value b.value
  v.order w

def compares (c : Comparison) (a b : Operand) : Truth := (a.order b).map c.accepts

end Operand

end SheetExport
