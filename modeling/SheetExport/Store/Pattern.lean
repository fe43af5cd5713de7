import SheetExport.Store.Value

/-! # Patterns

A pattern is compared with the text of a value code by code. The bytes of a value need not be a
text, and a zero byte ends them, so the codes are read here in a way that never fails.
-/

namespace SheetExport.Store

/-! ## Codes -/

/-- The code of bytes that are no character. -/
def strayCode : Nat := 0xFFFD

def isContinuation (b : UInt8) : Bool := 0x80 ≤ b && b < 0xC0

/-- What the first byte of a longer character gives to its code. -/
def leadValue (b : UInt8) : Nat :=
  if b < 0xE0 then b.toNat % 32
  else if b < 0xF0 then b.toNat % 16
  else if b < 0xF8 then b.toNat % 8
  else if b < 0xFC then b.toNat % 4
  else if b < 0xFE then b.toNat % 2
  else 0

/-- The code after one more byte of a character. Codes are words of 32 bits. -/
def extendedCode (code : Nat) (b : UInt8) : Nat := (64 * code + b.toNat % 64) % twoTo 32

/-- The code of a longer character whose bytes have ended. -/
def settledCode (code : Nat) : Nat :=
  if code < 0x80 ∨ (0xD800 ≤ code ∧ code < 0xE000) ∨ code = 0xFFFE ∨ code = 0xFFFF then strayCode
  else code

/-- The codes of bytes, after the code of a character that has begun. -/
def codesAfter (begun : Option Nat) : Bytes → List Nat
  | [] => (begun.map settledCode).toList
  | b :: rest =>
    let ended := (begun.map settledCode).toList
    if b = 0 then ended
    else if begun.isSome && isContinuation b then
      codesAfter (begun.map (extendedCode · b)) rest
    else if b < 0xC0 then ended ++ b.toNat :: codesAfter none rest
    else ended ++ codesAfter (some (leadValue b)) rest

def codesOf (bytes : Bytes) : List Nat := codesAfter none bytes

/-! ## Matching

In a pattern `%` stands for any text and `_` for any character. ASCII letters match in either
case. -/

def anyText : Nat := '%'.toNat

def anyCode : Nat := '_'.toNat

def foldedCode (code : Nat) : Nat := if 65 ≤ code ∧ code ≤ 90 then code + 32 else code

def suffixes : List Nat → List (List Nat)
  | [] => [[]]
  | c :: rest => (c :: rest) :: suffixes rest

/-- What is left of a text after one code of a pattern. -/
def restAfter? (p : Nat) : List Nat → Option (List Nat)
  | [] => none
  | c :: rest => if p = anyCode ∨ foldedCode p = foldedCode c then some rest else none

/-- What may be left of a text after one more code of a pattern, the longest first. -/
def restsAfter (rests : List (List Nat)) (p : Nat) : List (List Nat) :=
  if p = anyText then (rests.head?.map suffixes).getD []
  else rests.filterMap (restAfter? p)

def likeCodes (pattern text : List Nat) : Bool :=
  (pattern.foldl restsAfter [text]).any List.isEmpty

def like (v : Value) (pattern : String) : Truth :=
  if v.isNull then none else some (likeCodes (codesOf (bytesOf pattern)) (codesOf v.textBytes))

end SheetExport.Store
