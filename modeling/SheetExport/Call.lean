import SheetExport.Engine
import SheetExport.Folder
import SheetExport.Report

/-! # Calls

Other programs use the engine through calls. The arguments of a call are bytes or missing, its
answer is a JSON value or a report. A call is read in full before anything is done.
-/

namespace SheetExport

/-! ## Raw calls -/

/-- Bytes, or nothing. -/
abbrev Argument : Type := Option Bytes

inductive Call where
  | start (config : Argument)
  | fieldCatalog (typeName : Argument)
  | examples (typeName field : Argument)
  | submit (body : Argument) (owner : Int)
  | job (id : Argument)
  | jobs (owner : Int)
  | deleteJob (id : Argument)
  | purge
  | download (id path : Argument)
  deriving DecidableEq

/-- A call whose arguments were understood. -/
inductive Order where
  | start (config : Config)
  | startFromEnvironment
  | fieldCatalog (typeName : String)
  | examples (typeName field : String)
  | submit (request : Request) (owner : Int)
  | job (id : Uuid)
  | jobs (owner : Option Int)
  | deleteJob (id : Uuid)
  | purge
  | download (id : Uuid) (path : String)
  deriving DecidableEq

namespace Call

/-! ## Reading -/

def readText (name : String) : Argument → Except Report String
  | none => .error (.plain .nullPointer (name ++ " is null"))
  | some bytes => Report.textOf bytes

def readId (a : Argument) : Except Report Uuid := do
  let raw ← readText "job_id" a
  match Uuid.parse? raw with
  | some id => return id
  | none => throw (.plain .invalidUuid ("Invalid job ID: " ++ raw))

def readConfig (a : Argument) : Except Report Config := do
  match Config.read (← readText "config_json" a) with
  | .ok config => return config
  | .error fault => throw (.plain .invalidArgument ("Invalid config JSON: " ++ fault.message))

def readRequest (a : Argument) : Except Report Request := do
  (Request.read (← readText "request_json" a)).mapError .ofRequestFault

/-- Whether the answer needs a place that the caller gives. -/
def needsPlace : Call → Bool
  | start _ | deleteJob _ => false
  | _ => true

def checkPlace (c : Call) (hasPlace : Bool) : Except Report Unit :=
  if c.needsPlace && !hasPlace then .error (.plain .nullPointer "result is null") else .ok ()

/-- A negative owner stands for all owners. -/
def readOwner (owner : Int) : Option Int := if owner < 0 then none else some owner

def order : Call → Except Report Order
  | start none => return .startFromEnvironment
  | start config => return .start (← readConfig config)
  | fieldCatalog typeName => return .fieldCatalog (← readText "entity_type" typeName)
  | examples typeName field =>
    return .examples (← readText "entity_type" typeName) (← readText "field" field)
  | submit body owner => return .submit (← readRequest body) owner
  | job id => return .job (← readId id)
  | jobs owner => return .jobs (readOwner owner)
  | deleteJob id => return .deleteJob (← readId id)
  | purge => return .purge
  | download id path => return .download (← readId id) (← readText "output_path" path)

/-- The place for the answer is looked at first. -/
def read (c : Call) (hasPlace : Bool) : Except Report Order := do
  c.checkPlace hasPlace
  c.order

end Call

/-! ## Answers -/

/-- The engine and the folder that downloads go to. -/
structure Host where
  engine : Engine
  downloads : Folder

namespace Host

def idle : Host := ⟨.idle, .empty⟩

def idJson (id : Uuid) : Json := .object [("jobId", .string id.text)]

def countJson (n : Nat) : Json := .object [("removed", .number n)]

def downloadJson (fileName path : String) (stats : Csv.Stats) : Json :=
  .object [("fileName", .string fileName), ("path", .string path),
    ("rowsWritten", .number stats.rowsWritten), ("bytesWritten", .number stats.bytesWritten)]

def started (h : Host) (outcome : Except ServiceFault Engine) :
    Host × Except Report (Option Json) :=
  match outcome with
  | .ok engine => ({ h with engine := engine }, .ok none)
  | .error fault => (h, .error (.ofServiceFault fault))

def withService (h : Host) (use : Service → Service × Except JobFault (Option Json)) :
    Host × Except Report (Option Json) :=
  match h.engine.service with
  | .error fault => (h, .error (.ofServiceFault fault))
  | .ok service =>
    let (service, outcome) := use service
    ({ h with engine := h.engine.withService service }, outcome.mapError .ofJobFault)

/-! ## Downloads -/

/-- Writes the result of a job that is done into a file, which is emptied first. A download that
fails leaves no file. -/
def downloadDone (h : Host) (service : Service) (today : Date) (id : Uuid) (job : Job)
    (path : String) : Host × Except Report (Option Json) :=
  match h.downloads.write? path [] with
  | none => (h, .error (.plain .fileError ("Cannot create " ++ path)))
  | some folder =>
    let (service, sink, outcome) := service.download id .unlimited
    let engine := h.engine.withService service
    match outcome with
    | .error fault => (⟨engine, folder.remove path⟩, .error (.ofJobFault fault))
    | .ok stats =>
      (⟨engine, (folder.write? path sink.bytes).getD folder⟩,
        .ok (some (downloadJson (Job.fileName job.label today) path stats)))

def download (h : Host) (today : Date) (id : Uuid) (path : String) :
    Host × Except Report (Option Json) :=
  match h.engine.service with
  | .error fault => (h, .error (.ofServiceFault fault))
  | .ok service =>
    match Download.finished service.store id with
    | .error fault => (h, .error (.ofJobFault fault))
    | .ok job => h.downloadDone service today id job path

/-! ## Orders -/

/-- Does what an order says. The ticket is used up by a submission, and its time is the time of
the call. -/
def obey (around : Surroundings) (ticket : Ticket) (h : Host) :
    Order → Host × Except Report (Option Json)
  | .start config => h.started (h.engine.start around ticket.time config)
  | .startFromEnvironment => h.started (h.engine.startFromEnvironment around ticket.time)
  | .fieldCatalog typeName =>
    h.withService fun s =>
      let (s, outcome) := s.fieldCatalog typeName
      (s, outcome.map fun c => some c.toJson)
  | .examples typeName field =>
    h.withService fun s =>
      (s, (s.examples typeName field).map fun vs => some (.list (vs.map .string)))
  | .submit request owner =>
    h.withService fun s =>
      let (s, outcome) := s.submit ticket request owner
      (s, outcome.map fun id => some (idJson id))
  | .job id => h.withService fun s => (s, (s.getJob id).map fun j => some j.viewJson)
  | .jobs owner =>
    h.withService fun s =>
      (s, (s.listJobs owner).map fun js => some (.list (js.map Job.viewJson)))
  | .deleteJob id =>
    h.withService fun s =>
      let (s, outcome) := s.deleteJob id
      (s, outcome.map fun () => none)
  | .purge =>
    h.withService fun s =>
      let (s, outcome) := s.purge
      (s, outcome.map fun n => some (countJson n))
  | .download id path => h.download ticket.time.date id path

def answer (around : Surroundings) (ticket : Ticket) (h : Host) (c : Call) (hasPlace : Bool) :
    Host × Except Report (Option Json) :=
  match c.read hasPlace with
  | .error report => (h, .error report)
  | .ok order => h.obey around ticket order

/-- The code that the caller gets. -/
def codeOf : Except Report α → Code
  | .ok _ => .success
  | .error report => report.code

end Host

end SheetExport
