import SheetExport.Registry

/-! # Migrations

A migration is a named step that prepares a store. A table of the store remembers the steps that
were applied, and only the steps after the last of these are still to be applied.
-/

namespace SheetExport

open Store (Table Column)

structure Migration where
  name : String
  change? : Store → Option Store

namespace Migration

/-! ## The known steps -/

/-- The indexes of the jobs, each with the column that it is over. -/
def indexes : List (String × String) :=
  [("idx_export_jobs_owner", "owner_id"), ("idx_export_jobs_start_time", "start_time")]

/-- Whether an index can be there: it needs its column, and no table has its name. -/
def allowsIndex (s : Store) (t : Table) (name column : String) : Bool :=
  (s.table? name).isNone && t.columns.any fun c => Text.sameName c.name column

def withJobs? (s : Store) : Option Store :=
  if (s.table? Sql.jobsTable).isSome then some s else s.create? Registry.table

def withRegistry? (s : Store) : Option Store := do
  let s ← withJobs? s
  let t ← s.table? Sql.jobsTable
  if indexes.all fun (name, column) => allowsIndex s t name column then return s else none

def createRegistry : Migration := ⟨"20250601000000_create_export_jobs.sql", withRegistry?⟩

/-- All steps in their order. -/
def known : List Migration := [createRegistry]

def knownAfter (last : String) (steps : List Migration) : List Migration :=
  (steps.dropWhile (·.name != last)).drop 1

def pending : Option String → List Migration
  | none => known
  | some last => knownAfter last known

/-! ## The table of applied steps -/

def tableName : String := "migrations"

def table : Table :=
  ⟨tableName, [.free "id" .integer, .needed "name" .text, .needed "applied_at" .text], .integer,
    []⟩

/-- The store keeps the largest id that such a table ever had in a table of its own. -/
def counter : Table :=
  ⟨"sqlite_sequence", [.free "name" .blob, .free "seq" .blob], .none, []⟩

def prepared (s : Store) : Store :=
  if (s.table? tableName).isSome then s
  else ⟨s.tables ++ table :: if (s.table? counter.name).isSome then [] else [counter]⟩

/-- The largest id that is remembered, if the ids of the table are counted. -/
def largestId? (s : Store) (t : Table) : Option Int := do
  let c ← s.table? counter.name
  let row? := c.rows.find? fun row => row.value (.cell 0) = .text t.name
  if t.columns = table.columns ∧ t.key = table.key then
    return (row?.bind fun row => (row.value (.cell 1)).readInt?).getD 0
  else none

def remember (s : Store) (t : Table) (id : Int) : Store :=
  let given := [("name", .text t.name)]
  let changes := [("seq", .integer id)]
  match s.update? counter.name given changes with
  | some (s, _ + 1) => s
  | _ => (s.insert? counter.name (given ++ changes)).getD s

/-- Notes a step as applied. An id that is counted is larger than all that the table ever had. -/
def note? (now : Instant) (s : Store) (name : String) : Option Store := do
  let t ← s.table? tableName
  let values := [("name", .text name), ("applied_at", .text now.storedText)]
  match largestId? s t with
  | none => s.insert? tableName values
  | some largest =>
    let id := max (largest + 1) t.nextNumber
    if Value.fitsInteger id then
      return remember (← s.insert? tableName (("id", .integer id) :: values)) t id
    else none

/-- The ids and names of the applied steps. -/
def entries? (s : Store) : Option (List (Value × Value)) := do
  let t ← s.table? tableName
  let id ← t.place? "id"
  let name ← t.place? "name"
  return t.rows.map fun row => (row.value id, row.value name)

/-- The applied steps in the order of their ids. -/
def applied? (s : Store) : Option (List String) := do
  let rows := (← entries? s).mergeSort fun a b => !b.1.sortsBefore a.1
  rows.mapM fun row => row.2.readText?

/-- The applied step with the largest id. -/
def last? (s : Store) : Option (Option String) := do
  let rows := (← entries? s).mergeSort fun a b => !a.1.sortsBefore b.1
  match rows with
  | [] => return none
  | row :: _ => return some (← row.2.readText?)

/-! ## Application -/

def applyOne? (now : Instant) (s : Store) (m : Migration) : Option Store := do
  note? now (← m.change? s) m.name

/-- Applies the pending steps, all or none. -/
def applyPending (now : Instant) (s : Store) : Except StoreFault Store :=
  match last? s with
  | none => .error (.migration "Failed to get last migration")
  | some last =>
    match (pending last).foldlM (applyOne? now) s with
    | none => .error (.migration "Failed to apply migration")
    | some s => .ok s

/-- The store afterwards, and whether it is up to date. -/
def run (now : Instant) (s : Store) : Store × Except StoreFault Unit :=
  match applyPending now (prepared s) with
  | .ok s => (s, .ok ())
  | .error fault => (prepared s, .error fault)

end Migration

end SheetExport
