import SheetExport.Json.Fault

/-! # Strings of a document

A string is read after its opening quote. Escapes of UTF-16 surrogates count only in pairs.
-/

namespace SheetExport.Json

/-! ## Escapes -/

def hexValue? (c : Char) : Option Nat :=
  if '0' ≤ c ∧ c ≤ '9' then some (c.toNat - 48)
  else if 'a' ≤ c ∧ c ≤ 'f' then some (c.toNat - 87)
  else if 'A' ≤ c ∧ c ≤ 'F' then some (c.toNat - 55)
  else none

def unitValue? (cs : List Char) : Option Nat :=
  (cs.mapM hexValue?).map fun ds => ds.foldl (fun n d => 16 * n + d) 0

/-- The four digits of an escaped code unit. A string with fewer than four bytes left ends in
it. -/
def readUnit (cs : List Char) : Except Fault (Nat × List Char) :=
  if Text.byteCount cs < 4 then .error .endInString
  else
    match cs with
    | a :: b :: c :: d :: rest =>
      match unitValue? [a, b, c, d] with
      | some n => .ok (n, rest)
      | none => .error .badEscape
    | _ => .error .badEscape

def isHighSurrogate (n : Nat) : Bool := 0xD800 ≤ n && n ≤ 0xDBFF

def isLowSurrogate (n : Nat) : Bool := 0xDC00 ≤ n && n ≤ 0xDFFF

/-- The character that a pair of surrogates stands for. -/
def paired (high low : Nat) : Char :=
  Char.ofNat (0x10000 + (high - 0xD800) * 0x400 + (low - 0xDC00))

def readLowSurrogate (high : Nat) : Reader Char
  | [] => .error .endInString
  | '\\' :: [] => .error .endInString
  | '\\' :: 'u' :: rest => do
    let (low, rest) ← readUnit rest
    if isLowSurrogate low then .ok (paired high low, rest) else .error .loneSurrogate
  | _ => .error .cutSurrogate

def readUnicodeEscape (cs : List Char) : Except Fault (Char × List Char) := do
  let (n, rest) ← readUnit cs
  if isLowSurrogate n then .error .loneSurrogate
  else if isHighSurrogate n then readLowSurrogate n rest
  else .ok (Char.ofNat n, rest)

def plainEscapes : List (Char × Char) :=
  [('"', '"'), ('\\', '\\'), ('/', '/'), ('b', '\x08'), ('f', '\x0c'), ('n', '\n'), ('r', '\r'),
    ('t', '\t')]

/-- An escape after its backslash, given how to read a code unit and what a plain escape gives. -/
def readEscapeWith (plain : Char → α) (coded : Reader α) : Reader α
  | [] => .error .endInString
  | c :: rest =>
    if c = 'u' then coded rest
    else
      match plainEscapes.lookup c with
      | some value => .ok (plain value, rest)
      | none => .error .badEscape

/-! ## Strings -/

/-- The pieces of a string up to its closing quote. Each takes at least one character, so the
length of the text is enough fuel. -/
def readPieces (plain : Char → α) (coded : Reader α) : Nat → Reader (List α)
  | 0, _ => .error .endInString
  | _ + 1, [] => .error .endInString
  | fuel + 1, c :: rest =>
    if c = '"' then .ok ([], rest)
    else if c = '\\' then do
      let (piece, rest) ← readEscapeWith plain coded rest
      let (pieces, rest) ← readPieces plain coded fuel rest
      return (piece :: pieces, rest)
    else if c.toNat < 32 then .error .controlCharacter
    else do
      let (pieces, rest) ← readPieces plain coded fuel rest
      return (plain c :: pieces, rest)

def readString : Reader String := fun cs => do
  let (chars, rest) ← readPieces id readUnicodeEscape (cs.length + 1) cs
  return (String.ofList chars, rest)

/-- Passes over a string whose text is not wanted, so surrogates need no partner. -/
def skipString : Reader Unit := fun cs => do
  let skipUnit : Reader Unit := fun cs => do
    let (_, rest) ← readUnit cs
    return ((), rest)
  let (_, rest) ← readPieces (fun _ => ()) skipUnit (cs.length + 1) cs
  return ((), rest)

end SheetExport.Json
