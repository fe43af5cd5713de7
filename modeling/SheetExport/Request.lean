import SheetExport.Check
import SheetExport.Filter
import SheetExport.Json
import SheetExport.Json.Record

/-! # Export requests

The document that asks for an export, and the classified fields and filters that it stands for.
-/

namespace SheetExport

structure RequestedField where
  field : String
  csvLabel : String
  deriving DecidableEq

structure RequestedFilter where
  field : String
  rule : String
  value : Option String
  cast : Option String
  deriving DecidableEq

structure Request where
  objectType : String
  fields : List RequestedField
  filters : List RequestedFilter
  deriving DecidableEq

/-! ## Reading -/

def RequestedField.record : Json.Record RequestedField where
  name := "FieldRequest"
  blank := ⟨"", ""⟩
  members :=
    [.of "field" .required .string fun s r => { r with field := s },
      .of "csvLabel" .optional .string fun s r => { r with csvLabel := s }]

def RequestedFilter.record : Json.Record RequestedFilter where
  name := "FilterRequest"
  blank := ⟨"", "", none, none⟩
  members :=
    [.of "field" .required .string fun s r => { r with field := s },
      .of "rule" .required .string fun s r => { r with rule := s },
      .of "value" .optional (.nullable .string) fun v r => { r with value := v },
      .of "cast" .optional (.nullable .string) fun v r => { r with cast := v }]

namespace Request

def record : Json.Record Request where
  name := "ExportRequest"
  blank := ⟨"", [], []⟩
  members :=
    [.of "objectType" .required .string fun s r => { r with objectType := s },
      .of "fields" .optional (.list RequestedField.record.reader)
        fun fs r => { r with fields := fs },
      .of "filters" .optional (.list RequestedFilter.record.reader)
        fun fs r => { r with filters := fs }]

def read (body : String) : Except RequestFault Request :=
  (Json.document record.reader body).mapError fun fault => .malformedBody fault.message

end Request

/-! ## Writing -/

def RequestedField.toJson (f : RequestedField) : Json :=
  .object [("field", .string f.field), ("csvLabel", .string f.csvLabel)]

def RequestedFilter.toJson (f : RequestedFilter) : Json :=
  .object [("field", .string f.field), ("rule", .string f.rule),
    ("value", .ofOption .string f.value), ("cast", .ofOption .string f.cast)]

def Request.toJson (r : Request) : Json :=
  .object [("objectType", .string r.objectType),
    ("fields", .list (r.fields.map RequestedField.toJson)),
    ("filters", .list (r.filters.map RequestedFilter.toJson))]

/-! ## Validation -/

/-- A request of which every part is known. -/
structure Export where
  typeName : String
  fields : List Field
  filters : List Filter
  deriving DecidableEq

/-- The longest name of an entity type. -/
def Export.typeNameLimit : Nat := 100

def RequestedField.classify (f : RequestedField) : Except RequestFault Field :=
  Field.parse f.field f.csvLabel

def RequestedFilter.classify (f : RequestedFilter) : Except RequestFault Filter := do
  let field ← Field.parse f.field ""
  let rule ← Rule.parse f.rule
  let cast ← Cast.parse f.cast
  return ⟨field, rule, f.value, cast⟩

def Request.validate (r : Request) : Except RequestFault Export := do
  Check.run "objectType" (some r.objectType) [.required, .atMost Export.typeNameLimit]
  if r.fields.isEmpty then throw (.required "fields")
  let fields ← r.fields.mapM RequestedField.classify
  let filters ← r.filters.mapM RequestedFilter.classify
  return ⟨r.objectType, fields, filters⟩

end SheetExport
