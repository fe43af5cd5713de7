import SheetExport.Instant
import SheetExport.Json
import SheetExport.Plan

/-! # Export jobs

The record of one export: who asked for it, which tables hold its data and how far it is.
-/

namespace SheetExport

structure Job where
  id : Uuid
  tables : JobTables
  status : Status
  owner : Int
  label : String
  startTime : Instant
  /-- The statements of its batch as one text. -/
  statements : Option String
  deriving DecidableEq

namespace Job

def toJson (j : Job) : Json :=
  .object [("id", .string j.id.text), ("scratchTableName", .string j.tables.scratch),
    ("resultTableName", .string j.tables.result), ("statusStep", .string j.status.text),
    ("ownerId", .number j.owner), ("entityTypeLabel", .string j.label),
    ("startTime", .string j.startTime.text),
    ("compiledStatements", .ofOption .string j.statements)]

/-- What callers see. The tables and the statements stay in the registry. -/
def viewJson (j : Job) : Json :=
  .object [("id", .string j.id.text), ("statusStep", .string j.status.text),
    ("statusDescription", .string j.status.activity), ("ownerId", .number j.owner),
    ("entityTypeLabel", .string j.label), ("startTime", .string j.startTime.text),
    ("isDone", .bool j.status.isDone)]

/-- The name under which a download is offered. Path separators in the label are replaced. -/
def fileName (label : String) (date : Date) : String :=
  let safe := String.ofList (label.toList.map fun c => if c = '/' ∨ c = '\\' then '_' else c)
  "csvexport-" ++ safe ++ "-export." ++ date.text ++ ".csv"

end Job

end SheetExport
