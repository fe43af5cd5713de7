import SheetExport.Database.Opening
import SheetExport.Migration

/-! # Databases

A database is opened in the working folder, where a file that is not there begins as an empty
store. Opening it also applies the pending migrations.
-/

namespace SheetExport.Database

/-- What a file of the working folder holds. -/
inductive File where
  | database (s : Store)
  | other
  deriving DecidableEq

/-! ## Names -/

/-- One more part of a path. The folder above the working one is `..`. -/
def follow (names : List Bytes) (part : Bytes) : List Bytes :=
  if part = [] ∨ part = bytesOf "." then names
  else if part = bytesOf ".." then
    match names.getLast? with
    | none => [part]
    | some last => if last = part then names ++ [part] else names.dropLast
  else names ++ [part]

/-- The longest name of a file, in bytes. -/
def nameLimit : Nat := 255

/-- What the name of a file gets when it becomes that of its journal. -/
def journalEnding : Bytes := bytesOf "-journal"

/-- The file that a path leads to, in the working folder or in the one above. There are no other
folders. -/
def fileName? (path : Bytes) : Option (List Bytes) :=
  let names := (partsAt '/' path).foldl follow []
  match names.reverse with
  | name :: folders =>
    if path.head? ≠ some '/'.toUInt8 ∧ name ≠ bytesOf ".." ∧ name.length ≤ nameLimit ∧
        (folders = [] ∨ folders = [bytesOf ".."]) then some names
    else none
  | [] => none

/-! ## Opening -/

/-- The layer that keeps databases in memory. -/
def memoryLayer : String := "memdb"

/-- The layers where a file can have a journal that many connections share. -/
def sharingLayers : List String := ["unix", "unix-excl"]

def layers : List String := sharingLayers ++ ["unix-dotfile", "unix-none", memoryLayer]

def hasLayer (o : Opening) : Bool := (o.layer.map layers.contains).getD true

/-- Whether the database is private memory of the connection. -/
def isPrivate (o : Opening) : Bool :=
  o.inMemory || o.path.isEmpty || o.path == DatabaseUrl.memoryName

/-- Whether the database is in no file. -/
def inNoFile (o : Opening) : Bool := isPrivate o || o.layer == some memoryLayer

/-- Whether opening a file sets it to keep a shared journal. -/
def setsJournal (o : Opening) : Bool :=
  !o.immutable && !o.unlocked && (o.layer.map sharingLayers.contains).getD true

/-- Whether a file named by the last part of a path can have a journal beside it. -/
def hasRoomForJournal (o : Opening) : Bool :=
  (((partsAt '/' o.path).foldl follow []).getLastD []).length + journalEnding.length ≤ nameLimit

def isWritable (o : Opening) : Bool :=
  o.access != .readOnly &&
    (isPrivate o || (!o.immutable && (inNoFile o || hasRoomForJournal o)))

/-- What a database holds when it is opened, if it can be. -/
def contents? (files : List (String × File)) (o : Opening) : Option Store :=
  if ! hasLayer o then none
  else if inNoFile o then some .empty
  else if setsJournal o && !isWritable o then none
  else do
    let names ← fileName? o.path
    match files.find? fun (name, _) => names == [bytesOf name] with
    | none => if o.access = .creating then some .empty else none
    | some (_, .database s) => some s
    | some (_, .other) => none

/-- The longest that a connection can wait for its turn to write, in milliseconds. -/
def timeoutLimit : Nat := twoTo 31 - 1

/-- The contents of a database and how it was opened. -/
def connect (files : List (String × File)) (url : String) (timeout : Nat) (u : DatabaseUrl) :
    Except StoreFault (Opening × Store) :=
  let opened := do
    let o ← Opening.ofUrl? u
    let s ← contents? files o
    if timeout ≤ timeoutLimit then return (o, s) else none
  match opened with
  | some found => .ok found
  | none => .error (.connection ("Failed to connect to " ++ url))

/-- A database that cannot be written can be used if no migration has to change it. -/
def migrated (o : Opening) (now : Instant) (s : Store) : Except StoreFault Store := do
  let (after, outcome) := Migration.run now s
  outcome
  if !isWritable o ∧ after ≠ s then throw (.migration "Failed to write to the database")
  return after

def openUrl (files : List (String × File)) (now : Instant) (url : String) (timeout : Nat) :
    Except StoreFault Store := do
  let (o, s) ← connect files url timeout (← DatabaseUrl.parse url)
  migrated o now s

end SheetExport.Database
