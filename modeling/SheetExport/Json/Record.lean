import SheetExport.Json.Skipped

/-! # Typed reading

Readers for the kinds of value that a document is expected to hold. A record is read from an
object, with its members in any order, or from a list, with its members in their own order.
-/

namespace SheetExport.Json

/-! ## Single values -/

/-- Names the value that stands where another kind of value was expected. -/
def misplaced (expected : String) (cs : List Char) : Fault :=
  let found : Except Fault Found := do
    match cs with
    | [] => .error .endInValue
    | c :: rest =>
      if c = '"' then return .string (← readString rest).1
      else if c = 'n' then do
        let _ ← readWord "ull".toList rest
        return .null
      else if c = 't' then do
        let _ ← readWord "rue".toList rest
        return .bool true
      else if c = 'f' then do
        let _ ← readWord "alse".toList rest
        return .bool false
      else if c = '[' then return .list
      else if c = '\x7b' then return .object
      else if c = '-' ∨ c.isDigit then
        match (← readNumber cs).1 with
        | .integer n => return .integer n
        | .float x => return .float x
      else .error .noValue
  match found with
  | .ok found => .wrongType found expected
  | .error fault => fault

def Reader.string : Reader String := fun cs =>
  match skipBlanks cs with
  | '"' :: rest => readString rest
  | cs => .error (misplaced "a string" cs)

def Reader.nullable (value : Reader α) : Reader (Option α) := fun cs =>
  match skipBlanks cs with
  | 'n' :: rest => do
    let (_, rest) ← readWord "ull".toList rest
    return (none, rest)
  | cs => do
    let (a, rest) ← value cs
    return (some a, rest)

/-- A natural number below a limit. -/
def Reader.natural (limit : Nat) (expected : String) : Reader Nat := fun cs =>
  match skipBlanks cs with
  | c :: rest =>
    if c = '-' ∨ c.isDigit then do
      match ← readNumber (c :: rest) with
      | (.integer n, rest) =>
        if 0 ≤ n ∧ n < limit then .ok (n.toNat, rest)
        else .error (.wrongValue (.integer n) expected)
      | (.float x, _) => .error (.wrongType (.float x) expected)
    else .error (misplaced expected (c :: rest))
  | [] => .error .endInValue

/-! ## Lists -/

/-- Where the next element of a list starts, `none` at the closing bracket. -/
def nextItem (first : Bool) (cs : List Char) : Except Fault (Option (List Char)) :=
  match skipBlanks cs with
  | [] => .error .endInList
  | ']' :: _ => .ok none
  | c :: rest =>
    if first then .ok (some (c :: rest))
    else if c = ',' then
      match skipBlanks rest with
      | [] => .error .endInValue
      | ']' :: _ => .error .trailingComma
      | cs => .ok (some cs)
    else .error .noListComma

/-- The closing bracket of a list of which every wanted element has been read. -/
def closeList (cs : List Char) : Except Fault (List Char) :=
  match skipBlanks cs with
  | [] => .error .endInList
  | ']' :: rest => .ok rest
  | ',' :: rest =>
    match skipBlanks rest with
    | ']' :: _ => .error .trailingComma
    | _ => .error .trailingCharacters
  | _ => .error .trailingCharacters

def readItems (item : Reader α) : Nat → Bool → Reader (List α)
  | 0, _, _ => .error .endInList
  | fuel + 1, first, cs => do
    match ← nextItem first cs with
    | none => return ([], ← closeList cs)
    | some start =>
      let (a, rest) ← item start
      let (as, rest) ← readItems item fuel false rest
      return (a :: as, rest)

def Reader.list (item : Reader α) : Reader (List α) := fun cs =>
  match skipBlanks cs with
  | '[' :: rest => readItems item (rest.length + 1) true rest
  | cs => .error (misplaced "a sequence" cs)

/-! ## Records -/

/-- Where a member may be left out. -/
inductive Presence where
  | required
  /-- Left out of an object only. -/
  | listed
  | optional
  deriving DecidableEq

/-- One member of a record. Reading its value gives a change of the record. -/
structure Member (α : Type) where
  key : String
  presence : Presence
  read : Reader (α → α)

/-- A member that is put into the record by a setter. -/
def Member.of (key : String) (presence : Presence) (value : Reader β) (set : β → α → α) :
    Member α :=
  ⟨key, presence, fun cs => do
    let (b, rest) ← value cs
    return (set b, rest)⟩

/-- A record with the value of each member that may be left out. -/
structure Record (α : Type) where
  name : String
  blank : α
  members : List (Member α)

/-- The start of the next key, after its quote, or `none` at the closing brace. -/
def nextKey (first : Bool) (cs : List Char) : Except Fault (Option (List Char)) :=
  match skipBlanks cs with
  | [] => .error .endInObject
  | '\x7d' :: _ => .ok none
  | c :: rest =>
    if first then (if c = '"' then .ok (some rest) else .error .keyNotString)
    else if c = ',' then
      match skipBlanks rest with
      | [] => .error .endInValue
      | '"' :: rest => .ok (some rest)
      | '\x7d' :: _ => .error .trailingComma
      | _ => .error .keyNotString
    else .error .noObjectComma

def readColon (cs : List Char) : Except Fault (List Char) :=
  match skipBlanks cs with
  | [] => .error .endInObject
  | ':' :: rest => .ok rest
  | _ => .error .noColon

namespace Record

def expectedName (r : Record α) : String := "struct " ++ r.name

def missing? (r : Record α) (seen : List String) : Option String :=
  (r.members.find? fun m => m.presence = .required && !seen.contains m.key).map Member.key

/-- The members of an object. `seen` holds the keys that were read before. -/
def readMembers (r : Record α) : Nat → Bool → List String → α → Reader α
  | 0, _, _, _, _ => .error .endInObject
  | fuel + 1, first, seen, a, cs => do
    match ← nextKey first cs with
    | none =>
      match r.missing? seen with
      | some key => .error (.missingMember key)
      | none => return (a, (skipBlanks cs).drop 1)
    | some rest =>
      let (key, rest) ← readString rest
      match r.members.find? (·.key == key) with
      | none =>
        let rest ← skipValue (← readColon rest)
        readMembers r fuel false seen a rest
      | some m =>
        if seen.contains key then .error (.repeatedMember key)
        else
          let (change, rest) ← m.read (← readColon rest)
          readMembers r fuel false (key :: seen) (change a) rest

/-- The members that are left, read from a list. `index` counts those read before. -/
def readInOrder (r : Record α) : List (Member α) → Nat → α → Reader α
  | [], _, a, cs => do return (a, ← closeList cs)
  | m :: members, index, a, cs => do
    match ← nextItem (index == 0) cs with
    | none =>
      if (m :: members).all (·.presence = .optional) then return (a, ← closeList cs)
      else
        let given := (m :: members).takeWhile (·.presence = .optional)
        .error (.wrongLength (index + given.length)
          (r.expectedName ++ " with " ++ toString r.members.length ++ " elements"))
    | some start =>
      let (change, rest) ← m.read start
      readInOrder r members (index + 1) (change a) rest

def reader (r : Record α) : Reader α := fun cs =>
  match skipBlanks cs with
  | '[' :: rest => r.readInOrder r.members 0 r.blank rest
  | '\x7b' :: rest => r.readMembers (rest.length + 1) true [] r.blank rest
  | cs => .error (misplaced r.expectedName cs)

end Record

/-! ## Named choices -/

/-- The only key of an object. -/
def readOnlyKey (cs : List Char) : Except Fault (String × List Char) :=
  match skipBlanks cs with
  | [] => .error .endInObject
  | '"' :: rest => readString rest
  | '\x7d' :: _ => .error .noValue
  | _ => .error .keyNotString

/-- One of several names, as a string or as the only key of an object whose value is `null`. -/
def Reader.choice (names : List (String × α)) : Reader α := fun cs => do
  let pick (key : String) : Except Fault α :=
    match names.lookup key with
    | some a => .ok a
    | none => .error (.unknownName key (names.map Prod.fst))
  match skipBlanks cs with
  | [] => .error .endInValue
  | '"' :: rest => do
    let (key, rest) ← readString rest
    return (← pick key, rest)
  | '\x7b' :: rest => do
    let (key, rest) ← readOnlyKey rest
    let a ← pick key
    match skipBlanks (← readColon rest) with
    | 'n' :: rest => do
      let (_, rest) ← readWord "ull".toList rest
      match skipBlanks rest with
      | [] => .error .endInObject
      | '\x7d' :: rest => return (a, rest)
      | _ => .error .noValue
    | cs => .error (misplaced "unit" cs)
  | _ => .error .noValue

/-! ## Documents -/

/-- A text that holds one value and nothing else but blanks. -/
def document (value : Reader α) (s : String) : Except Fault α := do
  let (a, rest) ← value s.toList
  if (skipBlanks rest).isEmpty then return a else .error .trailingCharacters

end SheetExport.Json
