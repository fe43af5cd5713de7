import SheetExport.Fault

/-! # Fields

A field is a fixed column of the entity table, a key of the attribute table, or a taxonomy whose
terms are tags. It is named by a dotted text such as `custom.rating`.
-/

namespace SheetExport

inductive FieldKind where
  | fixed
  | custom
  | tag
  deriving DecidableEq

def FieldKind.text : FieldKind → String
  | fixed => "default"
  | custom => "custom"
  | tag => "tag"

/-- The word `taxonomy` is an older spelling of `tag`. -/
def FieldKind.parse? (raw : String) : Option FieldKind :=
  if raw = "default" then some fixed
  else if raw = "custom" then some custom
  else if raw = "tag" ∨ raw = "taxonomy" then some tag
  else none

structure Field where
  kind : FieldKind
  name : String
  csvLabel : String
  deriving DecidableEq

namespace Field

/-- The texts before and after the first point. -/
def splitAtPoint (raw : String) : Option (String × String) :=
  match raw.toList.span (· ≠ '.') with
  | (kind, _ :: name) => some (String.ofList kind, String.ofList name)
  | (_, []) => none

def parse (raw csvLabel : String) : Except RequestFault Field :=
  match splitAtPoint raw with
  | none => .error (.malformedField raw)
  | some (kind, name) =>
    match FieldKind.parse? kind with
    | none => .error (.malformedField raw)
    | some kind => if name = "" then .error (.malformedField raw) else .ok ⟨kind, name, csvLabel⟩

/-- The canonical dotted form. -/
def key (f : Field) : String := f.kind.text ++ "." ++ f.name

/-- The heading of the field's column. -/
def label (f : Field) : String := if f.csvLabel = "" then f.name else f.csvLabel

end Field

end SheetExport
