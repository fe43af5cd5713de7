import SheetExport.Config
import SheetExport.Database
import SheetExport.Service

/-! # The engine

The engine holds the one service of a program. It starts once; later starts change nothing. Its
parts have a cell each, and a start fills the cells one after another.
-/

namespace SheetExport

/-- What the engine finds around it. -/
structure Surroundings where
  environment : Environment
  /-- The text of the settings file. -/
  settings : String
  files : List (String × Database.File)

/-- Connections to one database. -/
structure Pool where
  url : String
  maxConnections : Nat
  busyTimeoutMillis : Nat
  store : Store

structure Running where
  config : Config
  service : Service

structure Engine where
  running : Option Running

/-! ## Parts -/

namespace Pool

def ofStore (config : Config) (store : Store) : Pool :=
  ⟨config.databaseUrl, config.maxConnections, config.busyTimeoutMillis, store⟩

/-- Connects to the database of a configuration and brings it up to date. -/
def ofConfig (around : Surroundings) (now : Instant) (config : Config) :
    Except ServiceFault Pool := do
  let opened := Database.openUrl around.files now config.databaseUrl config.busyTimeoutMillis
  let store ← opened.mapError fun fault => .job (.store fault)
  return .ofStore config store

end Pool

def Engine.serviceOf (config : Config) (store : Store) : Service :=
  .ofStore ⟨config.tablePrefix⟩ .standard config.csvBatchSize store

/-! ## Cells -/

/-- The parts of the engine, and the flag that tells that it runs. -/
structure Cells where
  started : Bool
  pool : Option Pool
  service : Option Service
  config : Option Config

namespace Cells

def empty : Cells := ⟨false, none, none, none⟩

def filled (name : String) : Option α → Except ServiceFault α
  | some part => .ok part
  | none => .error (.notInitialized (name ++ " not initialized"))

def getPool (c : Cells) : Except ServiceFault Pool := filled "Database pool" c.pool

def getConfig (c : Cells) : Except ServiceFault Config := filled "Configuration" c.config

def getService (c : Cells) : Except ServiceFault Service := filled "Export service" c.service

/-- Fills the cells, if nothing fails before the first of them. -/
def fill (around : Surroundings) (now : Instant) (config : Config) :
    ExceptT ServiceFault (StateM Cells) Unit := do
  config.validate
  let pool ← Pool.ofConfig around now config
  modify fun c => { c with pool := some pool }
  modify fun c => { c with service := some (Engine.serviceOf config pool.store) }
  modify fun c => { c with config := some config }

/-- The flag is set last. -/
def start (around : Surroundings) (now : Instant) (config : Config) :
    ExceptT ServiceFault (StateM Cells) Unit := do
  if !(← get).started then
    fill around now config
    modify fun c => { c with started := true }

end Cells

namespace Engine

def idle : Engine := ⟨none⟩

def cells (e : Engine) : Cells :=
  match e.running with
  | some r => ⟨true, some (.ofStore r.config r.service.store), some r.service, some r.config⟩
  | none => .empty

def ofCells (c : Cells) : Engine :=
  if c.started then ⟨do return ⟨← c.config, ← c.service⟩⟩ else .idle

def isRunning (e : Engine) : Bool := e.cells.started

/-! ## Starting -/

def start (around : Surroundings) (now : Instant) (config : Config) (e : Engine) :
    Except ServiceFault Engine :=
  let (outcome, c) := (Cells.start around now config).run.run e.cells
  outcome.map fun () => ofCells c

def configOf (around : Surroundings) : Except ServiceFault Config :=
  Config.ofEnvironment (around.environment.addFile around.settings)

def startFromEnvironment (around : Surroundings) (now : Instant) (e : Engine) :
    Except ServiceFault Engine := do
  e.start around now (← configOf around)

/-! ## Getting parts -/

def config (e : Engine) : Except ServiceFault Config := e.cells.getConfig

def store (e : Engine) : Except ServiceFault Store := e.cells.getPool.map Pool.store

def service (e : Engine) : Except ServiceFault Service := e.cells.getService

def withService (e : Engine) (service : Service) : Engine :=
  ⟨e.running.map fun r => { r with service := service }⟩

/-- The migrations that were applied to the store, in order. -/
def appliedMigrations (e : Engine) : Except ServiceFault (List String) := do
  match Migration.applied? (← e.store) with
  | some names => return names
  | none => throw (.job .rejected)

end Engine

end SheetExport
