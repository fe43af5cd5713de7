import SheetExport.Field

/-! # Filters

A filter compares one field of an entity with a value. The rule says how, the cast says as what.
-/

namespace SheetExport

inductive Comparison where
  | eq
  | ne
  | gt
  | ge
  | lt
  | le
  deriving DecidableEq

inductive Rule where
  | compare (comparison : Comparison)
  | contains
  | notContains
  | empty
  | notEmpty
  deriving DecidableEq

inductive Cast where
  | alpha
  | date
  | number
  deriving DecidableEq

structure Filter where
  field : Field
  rule : Rule
  value : Option String
  cast : Option Cast
  deriving DecidableEq

namespace Comparison

def symbol : Comparison → String
  | eq => "="
  | ne => "<>"
  | gt => ">"
  | ge => ">="
  | lt => "<"
  | le => "<="

def accepts : Comparison → Ordering → Bool
  | eq, o => o == .eq
  | ne, o => o != .eq
  | gt, o => o == .gt
  | ge, o => o != .lt
  | lt, o => o == .lt
  | le, o => o != .gt

end Comparison

namespace Rule

def text : Rule → String
  | compare .eq => "eq"
  | compare .ne => "neq"
  | compare .gt => "gt"
  | compare .ge => "gte"
  | compare .lt => "lt"
  | compare .le => "lte"
  | contains => "contains"
  | notContains => "not_contains"
  | empty => "empty"
  | notEmpty => "not_empty"

def isOrdering : Rule → Bool
  | compare _ => true
  | _ => false

/-- Every accepted spelling: the names, and the operators of older settings. -/
def spellings : List (String × Rule) :=
  [("eq", compare .eq), ("=", compare .eq), ("neq", compare .ne), ("<>", compare .ne),
    ("gt", compare .gt), (">", compare .gt), ("gte", compare .ge), (">=", compare .ge),
    ("lt", compare .lt), ("<", compare .lt), ("lte", compare .le), ("<=", compare .le),
    ("contains", contains), ("LIKE", contains), ("not_contains", notContains),
    ("NOT LIKE", notContains), ("empty", empty), ("not_empty", notEmpty), ("not empty", notEmpty)]

def parse (raw : String) : Except RequestFault Rule :=
  match spellings.lookup raw with
  | some rule => .ok rule
  | none => .error (.unknownRule raw)

end Rule

namespace Cast

def text : Cast → String
  | alpha => "alpha"
  | date => "date"
  | number => "number"

/-- A missing cast, an empty one and `none` all leave the value as it is stored. -/
def parse : Option String → Except RequestFault (Option Cast)
  | none => .ok none
  | some raw =>
    if raw = "" ∨ raw = "none" then .ok none
    else if raw = "alpha" then .ok (some alpha)
    else if raw = "date" then .ok (some date)
    else if raw = "number" then .ok (some number)
    else .error (.unknownCast raw)

end Cast

/-- The value compared with; a missing one counts as empty text. -/
def Filter.operand (f : Filter) : String := f.value.getD ""

end SheetExport
