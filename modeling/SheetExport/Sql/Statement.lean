import SheetExport.Sql.Query
import SheetExport.Status
import SheetExport.Uuid

/-! # Statements

What a batch asks of the store, one statement at a time.
-/

namespace SheetExport.Sql

/-- The table of registered jobs. -/
def jobsTable : String := "export_jobs"

inductive Statement where
  /-- Creates a table of distinct integers. -/
  | createIds (table : String)
  | insertIds (table : String) (selection : Selection)
  | createResult (table : String) (projection : Projection)
  /-- Drops a table if there is one. -/
  | dropTable (table : String)
  | setStatus (job : Uuid) (status : Status)
  | deleteJob (job : Uuid)
  deriving DecidableEq

namespace Statement

def render : Statement → String
  | createIds table =>
    "CREATE TABLE " ++ name table ++ " (\"id\" INTEGER NOT NULL PRIMARY KEY)"
  | insertIds table selection =>
    "INSERT INTO " ++ name table ++ " (\"id\")\n" ++ selection.render
  | createResult table projection =>
    "CREATE TABLE " ++ name table ++ " AS " ++ projection.render
  | dropTable table => "DROP TABLE IF EXISTS " ++ name table
  | setStatus job status =>
    "UPDATE " ++ name jobsTable ++ " SET \"status_step\" = " ++ text status.text ++
      " WHERE \"id\" = " ++ text job.text
  | deleteJob job => "DELETE FROM " ++ name jobsTable ++ " WHERE \"id\" = " ++ text job.text

end Statement

/-- Stands between the statements of a batch that is kept as one text. -/
def batchSeparator : String := ";\n\n"

def renderBatch (statements : List Statement) : String :=
  Text.joined batchSeparator (statements.map Statement.render)

end SheetExport.Sql
