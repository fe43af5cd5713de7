import SheetExport.Store.Execution

/-! # Batches

The statements of a job run one after another. Each one first makes sure that the job is still
registered. The first that cannot run ends the batch and leaves no trace.

The statements of a batch share an occasion. Of the statements of a plan only one reads the clock
and only one names columns.
-/

namespace SheetExport.Batch

open Sql (Statement)
open Store (Occasion)

/-- Whether the store has a row for the job. -/
def isRegistered (s : Store) (job : Uuid) : Bool :=
  match s.rowsWith? Sql.jobsTable [("id", .text job.text)] with
  | some rows => !rows.isEmpty
  | none => false

/-- One statement together with the check before it. -/
def step? (s : Store) (o : Occasion) (job : Uuid) (statement : Statement) : Option Store :=
  if isRegistered s job then s.run? o statement else none

def run (s : Store) (o : Occasion) (job : Uuid) : List Statement → Store
  | [] => s
  | statement :: rest =>
    match step? s o job statement with
    | some s => run s o job rest
    | none => s

end SheetExport.Batch
