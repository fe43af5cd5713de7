import SheetExport.Bytes
import SheetExport.Text.Blank

/-! # Folders

The files of one folder by name. The folder has no folders in it, so a path leads to a file of it
only if it names the file and nothing beyond it.
-/

namespace SheetExport

structure Folder where
  files : List (String × Bytes)
  deriving DecidableEq

namespace Folder

def empty : Folder := ⟨[]⟩

/-! ## Paths -/

/-- The longest name of a file, in bytes. -/
def nameLimit : Nat := 255

/-- Steps to the folder itself at the front of a path do not count. -/
def withoutSelf : List String → List String
  | "." :: part :: rest => withoutSelf ((part :: rest).dropWhile (· == ""))
  | parts => parts
termination_by parts => parts.length
decreasing_by
  have := ((part :: rest).dropWhile_sublist (· == "")).length_le
  simp only [List.length_cons] at this ⊢
  omega

/-- The file that a path leads to. -/
def fileName? (path : String) : Option String :=
  match withoutSelf (path.splitOn "/") with
  | [name] =>
    if name = "" ∨ name = "." ∨ name = ".." ∨ nameLimit < Text.byteCount name.toList then none
    else some name
  | _ => none

/-! ## Files -/

def read? (f : Folder) (path : String) : Option Bytes :=
  (fileName? path).bind fun name => f.files.lookup name

def without (f : Folder) (name : String) : Folder := ⟨f.files.filter (·.1 != name)⟩

def remove (f : Folder) (path : String) : Folder :=
  match fileName? path with
  | some name => f.without name
  | none => f

/-- Puts a file in the place of any file of the same name. -/
def write? (f : Folder) (path : String) (content : Bytes) : Option Folder :=
  (fileName? path).map fun name => ⟨(name, content) :: (f.without name).files⟩

end Folder

end SheetExport
