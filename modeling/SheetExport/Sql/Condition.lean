import SheetExport.Binary64.Decimal
import SheetExport.Filter
import SheetExport.Sql.Quote

/-! # Conditions on one operand

A filter's rule, value and cast give a condition. It is written with the operand's own text put
in place.
-/

namespace SheetExport.Sql

inductive Condition where
  | compares (comparison : Comparison) (value : String)
  /-- Compares the operand as a number with a number literal. -/
  | comparesNumber (comparison : Comparison) (literal : String)
  /-- Compares the operand and the value as moments in time. -/
  | comparesMoment (comparison : Comparison) (value : String)
  | like (pattern : String)
  | notLike (pattern : String)
  | empty
  | notEmpty
  deriving DecidableEq

namespace Condition

def render (operand : String) : Condition → String
  | compares c value => operand ++ " " ++ c.symbol ++ " " ++ text value
  | comparesNumber c literal =>
    "CAST(" ++ operand ++ " AS DOUBLE) " ++ c.symbol ++ " " ++ literal
  | comparesMoment c value =>
    "datetime(" ++ operand ++ ") " ++ c.symbol ++ " datetime(" ++ text value ++ ")"
  | like pattern => operand ++ " LIKE " ++ text pattern
  | notLike pattern => operand ++ " NOT LIKE " ++ text pattern
  | empty => "(" ++ operand ++ " = '' OR " ++ operand ++ " IS NULL)"
  | notEmpty => "(" ++ operand ++ " <> '' AND " ++ operand ++ " IS NOT NULL)"

/-- Wildcards inside a value keep their meaning. -/
def containing (value : String) : String := "%" ++ value ++ "%"

/-- Only the ordering rules look at the cast. -/
def ofRule (rule : Rule) (value : String) (cast : Option Cast) : Condition :=
  match rule with
  | .contains => like (containing value)
  | .notContains => notLike (containing value)
  | .empty => empty
  | .notEmpty => notEmpty
  | .compare c =>
    match cast with
    | some .date => comparesMoment c value
    | some .number => comparesNumber c (Binary64.ofFilterValue value).literal
    | some .alpha | none => compares c value

def ofFilter (f : Filter) : Condition := ofRule f.rule f.operand f.cast

end Condition

end SheetExport.Sql
