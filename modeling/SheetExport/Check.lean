import SheetExport.Fault
import SheetExport.Text.Blank

/-! # Checks of single values

A check looks at one named value, which may be missing. Of several faults the first counts.
-/

namespace SheetExport

inductive Check where
  | required
  | atMost (limit : Nat)
  | tablePrefix
  deriving DecidableEq

namespace Check

def isWordChar (c : Char) : Bool := c.isAlphanum || c == '_'

/-- Only `required` objects to a missing value. -/
def fault? (field : String) (value : Option String) : Check → Option RequestFault
  | required => if Text.isAllBlank (value.getD "") then some (.required field) else none
  | atMost limit => if limit < (value.getD "").length then some (.tooLong field limit) else none
  | tablePrefix =>
    if (value.getD "").toList.all isWordChar then none
    else some (.badFormat field "only letters, digits and underscores are allowed")

def run (field : String) (value : Option String) (checks : List Check) :
    Except RequestFault Unit :=
  match checks.findSome? (fault? field value) with
  | some fault => .error fault
  | none => .ok ()

end Check

end SheetExport
