import SheetExport.Fault
import SheetExport.Text.Percent

/-! # Database URLs

The name of a database, perhaps with parameters after a question mark, as in
`sqlite:site.db?mode=rwc`. The scheme may be left out.
-/

namespace SheetExport

structure DatabaseUrl where
  name : Bytes
  /-- The database lives in no file. -/
  inMemory : Bool
  readOnly : Bool
  /-- Nobody changes the file. -/
  immutable : Bool
  /-- The name of the layer that reads and writes files, if it is not the usual one. -/
  fileLayer : Option String
  deriving DecidableEq

namespace DatabaseUrl

/-! ## The scheme -/

/-- Drops a word from the front as often as it stands there. -/
def dropRepeated (word : Bytes) (bytes : Bytes) : Bytes :=
  if _found : word ≠ [] ∧ word.isPrefixOf bytes then
    dropRepeated word (bytes.drop word.length)
  else bytes
termination_by bytes.length
decreasing_by
  obtain ⟨nonempty, found⟩ := _found
  have := List.length_pos_iff.2 nonempty
  have := (List.isPrefixOf_iff_prefix.1 found).length_le
  simp only [List.length_drop]
  omega

def withoutScheme (bytes : Bytes) : Bytes :=
  dropRepeated (bytesOf "sqlite:") (dropRepeated (bytesOf "sqlite://") bytes)

/-! ## Parameters -/

/-- A plus sign stands for a space. All known words are ASCII, so bytes may stand for characters. -/
def parameterText (bytes : Bytes) : String :=
  byteText (Text.unescaped (bytes.map fun b => if b = '+'.toUInt8 then ' '.toUInt8 else b))

def setMode? (u : DatabaseUrl) : String → Option DatabaseUrl
  | "ro" => some { u with readOnly := true }
  | "rw" | "rwc" => some u
  | "memory" => some { u with inMemory := true }
  | _ => none

def setFlag? (set : Bool → DatabaseUrl) : String → Option DatabaseUrl
  | "true" | "1" => some (set true)
  | "false" | "0" => some (set false)
  | _ => none

def setParameter? (u : DatabaseUrl) (key value : String) : Option DatabaseUrl :=
  match key with
  | "mode" => setMode? u value
  | "cache" => if value = "private" ∨ value = "shared" then some u else none
  | "immutable" => setFlag? (fun b => { u with immutable := b }) value
  | "vfs" => some { u with fileLayer := some value }
  | _ => none

def readParameter? (u : DatabaseUrl) (bytes : Bytes) : Option DatabaseUrl :=
  let (key, value) := splitFirst '=' bytes
  setParameter? u (parameterText key) (parameterText value)

/-! ## Reading -/

def ofName (name : Bytes) : DatabaseUrl :=
  { name := name, inMemory := false, readOnly := false, immutable := false, fileLayer := none }

/-- The name of a database that lives in memory. -/
def memoryName : Bytes := bytesOf ":memory:"

/-- A name must be a text. -/
def parse? (s : String) : Option DatabaseUrl :=
  let (escaped, parameters) := splitFirst '?' (withoutScheme (bytesOf s))
  let name := Text.unescaped escaped
  if (textOf? name).isSome then
    ((partsAt '&' parameters).filter (!·.isEmpty)).foldlM readParameter? (ofName name)
  else none

def parse (s : String) : Except StoreFault DatabaseUrl :=
  match parse? s with
  | some url => .ok url
  | none => .error (.refused (.statement "invalid database URL"))

end DatabaseUrl

end SheetExport
