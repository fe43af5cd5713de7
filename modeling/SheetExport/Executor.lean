import SheetExport.Batch
import SheetExport.Store.Connection

/-! # The executor

Batches run one at a time, in the order in which they come. A store has a single writer, so one
connection serves them all. Each statement has a transaction of its own, which begins with the
check that the job is still registered.
-/

namespace SheetExport.Executor

open Sql (Statement)
open Store (Connection Occasion Transaction)

/-! ## Statements -/

/-- What a statement leaves of the transaction that has begun for it. It may end the transaction,
which saves nothing of its own, and the store itself may give it up when the statement fails. -/
structure Effect where
  left : Option Transaction
  succeeds : Bool
  deriving DecidableEq

/-- How statements act on the store that they find. -/
abbrev Effects (σ : Type) : Type := Store → σ → Effect

/-- A foreign key that is looked at when a transaction is committed: the values of a column, null
apart, stand in a column of another table. -/
structure ForeignKey where
  table : String
  column : String
  parent : String
  parentColumn : String

/-- How many rows have no partner. -/
def ForeignKey.orphans (k : ForeignKey) (s : Store) : Nat :=
  match s.table? k.table, s.table? k.parent with
  | some child, some parent =>
    child.rows.countP fun row =>
      let v := child.asked row k.column
      !v.value.isNull && !parent.rows.any fun p =>
        (v.compares .eq (parent.asked p k.parentColumn)).isTrue
  | _, _ => 0

def orphanCount (keys : List ForeignKey) (s : Store) : Nat :=
  keys.foldl (fun n k => n + k.orphans s) 0

/-- Rows without a partner that were there before are not counted. -/
def owes (keys : List ForeignKey) (before after : Store) : Bool :=
  orphanCount keys before < orphanCount keys after

/-- Why a batch stops. -/
inductive Stop where
  | jobGone
  | failed
  deriving DecidableEq

structure QueuedBatch (σ : Type) where
  job : Uuid
  statements : List σ

/-- How many rows the registry has for the job. -/
def rowCount? (s : Store) (job : Uuid) : Option Nat :=
  (s.rowsWith? Sql.jobsTable [("id", .text job.text)]).map List.length

variable {σ : Type} (effects : Effects σ)

end SheetExport.Executor
