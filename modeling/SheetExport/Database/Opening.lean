import SheetExport.Binary64.Numeral
import SheetExport.DatabaseUrl

/-! # Openings

What the store is asked for when a database is opened. A name that begins with `file:` is an
address: it may hold options of its own after a question mark, and ends at a number sign. The
layer and the immutability of a URL can only be said in such an address, so a URL with one of them
has its name taken as it stands.
-/

namespace SheetExport.Database

inductive Access where
  | readOnly
  /-- Reads and writes a file that is there. -/
  | existing
  /-- Reads and writes a file, a new one if need be. -/
  | creating
  deriving DecidableEq

def Access.level : Access → Nat
  | readOnly => 0
  | existing => 1
  | creating => 2

structure Opening where
  path : Bytes
  access : Access
  inMemory : Bool
  /-- Nobody changes the file. -/
  immutable : Bool
  /-- Nobody else uses the file. -/
  unlocked : Bool
  layer : Option String
  deriving DecidableEq

namespace Opening

/-! ## Options -/

/-- Whether a word or a number says yes. A number counts up to its last eight bits. -/
def affirms (value : String) : Bool :=
  let number := match value.toList with
    | '0' :: x :: rest =>
      if x = 'x' ∨ x = 'X' then
        ((rest.map Uuid.hexValue?).takeWhile Option.isSome).foldl
          (fun n d => 16 * n + (d.map Fin.val).getD 0) 0
      else Numeral.digitsValue (('0' :: x :: rest).takeWhile Char.isDigit)
    | cs => Numeral.digitsValue (cs.takeWhile Char.isDigit)
  ["on", "yes", "true"].contains (Text.lowerAscii value) ||
    (number < twoTo 31 && number % 256 != 0)

/-- Access can only be narrowed, except that of a database in memory. -/
def allow? (o : Opening) (a : Access) : Option Opening :=
  if o.inMemory || a.level ≤ o.access.level then some { o with access := a, inMemory := false }
  else none

def setMode? (o : Opening) : String → Option Opening
  | "ro" => o.allow? .readOnly
  | "rw" => o.allow? .existing
  | "rwc" => o.allow? .creating
  | "memory" => some { o with access := .creating, inMemory := true }
  | _ => none

/-- Options that are not known say nothing. -/
def setOption? (o : Opening) : String × String → Option Opening
  | ("vfs", value) => some { o with layer := some value }
  | ("mode", value) => o.setMode? value
  | ("cache", value) => if value = "private" ∨ value = "shared" then some o else none
  | _ => some o

/-! ## Addresses -/

/-- A zero byte ends a part. -/
def partText (bytes : Bytes) : Bytes := untilZero (Text.unescaped bytes)

/-- An option without a name does not count. -/
def readOption? (bytes : Bytes) : Option (String × String) :=
  let (key, value) := splitFirst '=' bytes
  if (partText key).isEmpty then none
  else some (byteText (partText key), byteText (partText value))

/-- What follows the computer of an address, which can only be this one. -/
def withoutComputer? (bytes : Bytes) : Option Bytes :=
  if (bytesOf "//").isPrefixOf bytes then
    let computer := (bytes.drop 2).takeWhile (· ≠ '/'.toUInt8)
    if computer = [] ∨ computer = bytesOf "localhost" then
      some ((bytes.drop 2).dropWhile (· ≠ '/'.toUInt8))
    else none
  else some bytes

def addressMark : Bytes := bytesOf "file:"

/-- Reads what follows the mark of an address. Of several options that say yes or no under one
name, the first counts. -/
def readAddress? (o : Opening) (bytes : Bytes) : Option Opening := do
  let rest ← withoutComputer? bytes
  let (path, optionText) := splitFirst '?' (splitFirst '#' rest).1
  let options := (partsAt '&' optionText).filterMap readOption?
  let affirmed (name : String) : Bool := ((options.lookup name).map affirms).getD false
  options.foldlM setOption?
    { o with
      path := partText path
      immutable := affirmed "immutable"
      unlocked := affirmed "nolock" }

/-! ## From a URL -/

/-- A zero byte ends the name of a layer, too. -/
def layerName (layer : String) : String := String.ofList (layer.toList.takeWhile (· ≠ '\x00'))

def ofUrl? (u : DatabaseUrl) : Option Opening :=
  let o : Opening :=
    { path := u.name
      access := if u.readOnly then .readOnly else .creating
      inMemory := u.inMemory || u.name == DatabaseUrl.memoryName
      immutable := u.immutable
      unlocked := false
      layer := u.fileLayer.map layerName }
  if u.immutable || u.fileLayer.isSome then some { o with path := untilZero u.name }
  else if u.name.contains 0 then none
  else if addressMark.isPrefixOf u.name then o.readAddress? (u.name.drop addressMark.length)
  else some o

end Opening

end SheetExport.Database
