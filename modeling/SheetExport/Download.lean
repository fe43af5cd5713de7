import SheetExport.Csv.Writer
import SheetExport.Registry

/-! # Downloads

A download writes the result table of a finished job as CSV. A result is used once: when the
writing ends, in success or failure, the job is deleted. A job that is not done is left alone.
-/

namespace SheetExport

open Store (Table Row)

namespace Download

/-- How a download looks after its job. -/
structure Watch where
  /-- Whether the result table is there at the `n`-th look, counted from 0. -/
  tableThere : Nat → Bool
  delete : Store → Uuid → Except JobFault Store

/-- The registry as it is. -/
def Watch.ofStore (s : Store) (table : String) : Watch := ⟨fun _ => s.has table, Registry.delete⟩

/-! ## Rows -/

/-- The cells as text, with nothing for null. -/
def rowCells (row : Row) : Except JobFault (List Bytes) :=
  row.cells.mapM fun v =>
    if v.isNull then .ok []
    else
      match v.text? with
      | some s => .ok (bytesOf s)
      | none => .error .rejected

def writeRow (w : Csv.Writer) (row : Row) : Csv.Writer × Except JobFault Unit :=
  match rowCells row with
  | .error fault => (w, .error fault)
  | .ok cells =>
    let (w, outcome) := w.row cells
    (w, outcome.mapError fun fault => .output fault.message)

/-- Whether the look that is due after a number of rows finds the table. -/
def stillThere (watch : Watch) (batch written : Nat) : Bool :=
  written % batch != 0 || watch.tableThere (written / batch - 1)

/-- Writes the rows and looks for the table after every batch of them. -/
def writeRows (watch : Watch) (batch : Nat) (job : Uuid) :
    Nat → Csv.Writer → List Row → Csv.Writer × Except JobFault Unit
  | _, w, [] => (w, .ok ())
  | written, w, row :: rest =>
    match writeRow w row with
    | (w, .error fault) => (w, .error fault)
    | (w, .ok ()) =>
      if stillThere watch batch (written + 1) then writeRows watch batch job (written + 1) w rest
      else (w, .error (.notFound job))

/-- Writes a whole table. -/
def writeTable (watch : Watch) (batch : Nat) (job : Uuid) (w : Csv.Writer) (t : Table) :
    Csv.Writer × Except JobFault Csv.Stats :=
  match w.header (t.columns.map (·.name)) with
  | (w, .error fault) => (w, .error (.output fault.message))
  | (w, .ok ()) =>
    match writeRows watch batch job 0 w t.rows with
    | (w, .error fault) => (w, .error fault)
    | (w, .ok ()) => (w, w.finish.mapError fun fault => .output fault.message)

def writeResult (watch : Watch) (batch : Nat) (s : Store) (job : Job) (w : Csv.Writer) :
    Csv.Writer × Except JobFault Csv.Stats :=
  match s.table? job.tables.result with
  | none => (w, .error (.notFound job.id))
  | some t => writeTable watch (max 1 batch) job.id w t

/-! ## Downloads -/

/-- The job, if it is done. -/
def finished (s : Store) (id : Uuid) : Except JobFault Job := do
  let job ← Registry.get s id
  if job.status.isDone then return job else throw (.notReady id job.status.text)

/-- A job that cannot be deleted afterwards stays. -/
def runWith (watch : Job → Watch) (batch : Nat) (format : Csv.Format) (s : Store) (id : Uuid)
    (sink : Sink) : Store × Sink × Except JobFault Csv.Stats :=
  match finished s id with
  | .error fault => (s, sink, .error fault)
  | .ok job =>
    let (w, outcome) := writeResult (watch job) batch s job (.ofSink format sink)
    let s := match (watch job).delete s id with
      | .ok s => s
      | .error _ => s
    (s, w.sink, outcome)

def run (batch : Nat) (format : Csv.Format) (s : Store) (id : Uuid) (sink : Sink) :
    Store × Sink × Except JobFault Csv.Stats :=
  runWith (fun job => .ofStore s job.tables.result) batch format s id sink

end Download

end SheetExport
