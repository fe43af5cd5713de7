import SheetExport.Json.Number
import SheetExport.Json.Text

/-! # Skipped values

A member that nobody asked for is passed over. Its value may nest to any depth; only its form is
checked.
-/

namespace SheetExport.Json

/-- A key and its colon, in an object whose value is not wanted. -/
def skipKey (cs : List Char) : Except Fault (List Char) :=
  match skipBlanks cs with
  | [] => .error .endInObject
  | '"' :: rest => do
    let (_, rest) ← skipString rest
    match skipBlanks rest with
    | [] => .error .endInObject
    | ':' :: rest => .ok rest
    | _ => .error .noColon
  | _ => .error .keyNotString

/-- A value that is neither a list nor an object. -/
def skipPlain : List Char → Except Fault (List Char)
  | [] => .error .endInValue
  | c :: rest => do
    if c = '"' then return (← skipString rest).2
    else if c = 'n' then return (← readWord "ull".toList rest).2
    else if c = 't' then return (← readWord "rue".toList rest).2
    else if c = 'f' then return (← readWord "alse".toList rest).2
    else if c = '-' ∨ c.isDigit then return (← skipNumber (c :: rest)).2
    else .error .noValue

mutual

/-- Each step into a value takes a character, so the length of the text is enough fuel. -/
def skipValueWithin : Nat → List Char → Except Fault (List Char)
  | 0, _ => .error .endInValue
  | fuel + 1, cs =>
    match skipBlanks cs with
    | '[' :: rest =>
      match skipBlanks rest with
      | [] => .error .endInList
      | ']' :: rest => .ok rest
      | rest => do skipItemsWithin fuel (← skipValueWithin fuel rest)
    | '\x7b' :: rest =>
      match skipBlanks rest with
      | [] => .error .endInObject
      | '\x7d' :: rest => .ok rest
      | rest => do skipMembersWithin fuel (← skipValueWithin fuel (← skipKey rest))
    | cs => skipPlain cs

/-- What follows an element of a list. -/
def skipItemsWithin : Nat → List Char → Except Fault (List Char)
  | 0, _ => .error .endInList
  | fuel + 1, cs =>
    match skipBlanks cs with
    | [] => .error .endInList
    | ']' :: rest => .ok rest
    | ',' :: rest => do skipItemsWithin fuel (← skipValueWithin fuel rest)
    | _ => .error .noListComma

/-- What follows a member of an object. -/
def skipMembersWithin : Nat → List Char → Except Fault (List Char)
  | 0, _ => .error .endInObject
  | fuel + 1, cs =>
    match skipBlanks cs with
    | [] => .error .endInObject
    | '\x7d' :: rest => .ok rest
    | ',' :: rest => do skipMembersWithin fuel (← skipValueWithin fuel (← skipKey rest))
    | _ => .error .noObjectComma

end

def skipValue (cs : List Char) : Except Fault (List Char) := skipValueWithin (cs.length + 1) cs

end SheetExport.Json
