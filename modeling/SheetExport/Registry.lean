import SheetExport.Job
import SheetExport.Store

/-! # The registry

Jobs are kept as rows of one table of the store. Deleting a job removes its row first and then
its tables, so a batch that still runs finds no row and stops.
-/

namespace SheetExport.Registry

open Store (Table Column Row)

def columns : List Column :=
  [.needed "id" .text, .needed "scratch_table_name" .text, .needed "result_table_name" .text,
    ⟨"status_step", .text, true, Status.all.map Status.text, .text Status.started.text⟩,
    .needed "owner_id" .integer, .needed "entity_type_label" .text, .needed "start_time" .text,
    .free "compiled_statements" .text]

def table : Table := ⟨Sql.jobsTable, columns, .unique 1, []⟩

/-! ## Rows -/

def textOrNull : Option String → Value
  | some s => .text s
  | none => .null

def cells (j : Job) : List (String × Value) :=
  [("id", .text j.id.text), ("scratch_table_name", .text j.tables.scratch),
    ("result_table_name", .text j.tables.result), ("status_step", .text j.status.text),
    ("owner_id", .integer j.owner), ("entity_type_label", .text j.label),
    ("start_time", .text j.startTime.storedText),
    ("compiled_statements", textOrNull j.statements)]

/-- The cells of a row by name, each of the kind that is expected. -/
structure Record where
  id : String
  scratch : String
  result : String
  status : String
  owner : Int
  label : String
  startTime : String
  statements : Option String

def recordOf? (t : Table) (row : Row) : Option Record := do
  let value? (name : String) : Option Value := (t.place? name).map row.value
  let text? (name : String) : Option String := (value? name).bind Value.readText?
  let statements ← value? "compiled_statements"
  return {
    id := ← text? "id"
    scratch := ← text? "scratch_table_name"
    result := ← text? "result_table_name"
    status := ← text? "status_step"
    owner := ← (value? "owner_id").bind Value.readInt?
    label := ← text? "entity_type_label"
    startTime := ← text? "start_time"
    statements := ← if statements.isNull then some none else statements.readText?.map some }

def readStatus (text : String) : Except JobFault Status :=
  match Status.parse? text with
  | some status => .ok status
  | none => .error (.internal ("Invalid status " ++ text ++ " in export_jobs"))

def Record.job (r : Record) : Except JobFault Job := do
  let id ← match Uuid.parse? r.id with
    | some id => pure id
    | none => throw (.internal ("Bad job id " ++ r.id ++ ": not a UUID"))
  let status ← readStatus r.status
  match Instant.parse r.startTime with
  | .ok time =>
    return ⟨id, ⟨r.scratch, r.result⟩, status, r.owner, r.label, time, r.statements⟩
  | .error fault => throw (.internal ("Bad timestamp: " ++ fault.message))

/-! ## Queries -/

def orRejected : Option α → Except JobFault α
  | some a => .ok a
  | none => .error .rejected

/-- The records of the rows that hold the given cells, in the order of their rows. -/
def records (s : Store) (given : List (String × Value)) : Except JobFault (List Record) :=
  orRejected do
    let t ← s.table? Sql.jobsTable
    (t.rows.filter (t.meets · given)).mapM (recordOf? t)

def create (s : Store) (j : Job) : Except JobFault Store :=
  orRejected (s.insert? Sql.jobsTable (cells j))

def find (s : Store) (id : Uuid) : Except JobFault (Option Job) := do
  match ← records s [("id", .text id.text)] with
  | [] => return none
  | r :: _ => return some (← r.job)

def get (s : Store) (id : Uuid) : Except JobFault Job := do
  match ← find s id with
  | some job => return job
  | none => throw (.notFound id)

def newerFirst (rs : List Record) : List Record :=
  rs.mergeSort fun a b => !decide (a.startTime < b.startTime)

/-- The newest job first, by the text of the start time. Of jobs with one start time the list of
all jobs shows the last row first, and the list of an owner the first. -/
def list (s : Store) (owner : Option Int) : Except JobFault (List Job) := do
  let rs ← match owner with
    | some o => do pure (newerFirst (← records s [("owner_id", .integer o)]))
    | none => do pure (newerFirst (← records s []).reverse)
  rs.mapM Record.job

/-! ## Deletion -/

/-- The row goes first. -/
def deleteRow (s : Store) (id : Uuid) : Except JobFault Store := do
  match s.remove? Sql.jobsTable [("id", .text id.text)] with
  | none => throw .rejected
  | some (_, 0) => throw (.notFound id)
  | some (s, _) => return s

def dropTables (s : Store) (tables : JobTables) : Store :=
  (s.dropQuietly tables.scratch).dropQuietly tables.result

/-- Removes the job and its tables. -/
def delete (s : Store) (id : Uuid) : Except JobFault Store := do
  let job ← get s id
  let s ← deleteRow s id
  return dropTables s job.tables

/-- Deletes jobs until one deletion fails, and counts them. A job that is gone already is no
fault. -/
def deleteEach (s : Store) (count : Nat) : List Uuid → Store × Except JobFault Nat
  | [] => (s, .ok count)
  | id :: rest =>
    match delete s id with
    | .ok s => deleteEach s (count + 1) rest
    | .error (.notFound _) => deleteEach s count rest
    | .error fault => (s, .error fault)

def deleteAll (s : Store) : Store × Except JobFault Nat :=
  match list s none with
  | .ok jobs => deleteEach s 0 (jobs.map Job.id)
  | .error fault => (s, .error fault)

end SheetExport.Registry
