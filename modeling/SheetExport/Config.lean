import SheetExport.Binary64.Numeral
import SheetExport.Check
import SheetExport.Environment
import SheetExport.Json
import SheetExport.Json.Record

/-! # Configuration

How the engine finds its database and treats it. A configuration comes from a document or from
the environment. What neither names has a standard value.
-/

namespace SheetExport

structure Config where
  databaseUrl : String
  /-- What the names of all tables of the site begin with. -/
  tablePrefix : String
  maxConnections : Nat
  /-- The rows between two looks for the result table. -/
  csvBatchSize : Nat
  /-- How long a connection waits for its turn to write. -/
  busyTimeoutSecs : Nat
  deriving DecidableEq

namespace Config

def standard : Config := ⟨"sqlite:csv_export.db", "wp_", 5, 1000, 300⟩

def busyTimeoutMillis (c : Config) : Nat := 1000 * c.busyTimeoutSecs

/-! ## Documents -/

def record : Json.Record Config where
  name := "ExportConfig"
  blank := standard
  members :=
    [.of "databaseUrl" .optional .string fun s c => { c with databaseUrl := s },
      .of "tablePrefix" .optional .string fun s c => { c with tablePrefix := s },
      .of "maxConnections" .optional (.natural (twoTo 32) "u32")
        fun n c => { c with maxConnections := n },
      .of "csvBatchSize" .optional (.natural (twoTo 64) "usize")
        fun n c => { c with csvBatchSize := n },
      .of "busyTimeoutSecs" .optional (.natural (twoTo 64) "u64")
        fun n c => { c with busyTimeoutSecs := n }]

def read (document : String) : Except Json.Fault Config := Json.document record.reader document

/-! ## Validation -/

def checked (field value : String) (checks : List Check) : Except ServiceFault Unit :=
  (Check.run field (some value) checks).mapError fun fault =>
    .configuration (JobFault.request fault).message

/-- A download holds one connection for its rows and needs another to look after its job. -/
def minConnections : Nat := 2

def validate (c : Config) : Except ServiceFault Unit := do
  checked "databaseUrl" c.databaseUrl [.required]
  checked "tablePrefix" c.tablePrefix [.tablePrefix]
  if c.maxConnections < minConnections then
    throw (.configuration ("maxConnections must be at least " ++ toString minConnections))
  if c.csvBatchSize = 0 then
    throw (.configuration "csvBatchSize must be greater than zero")
  if c.busyTimeoutSecs = 0 then
    throw (.configuration "busyTimeoutSecs must be greater than zero")

/-! ## The environment -/

/-- A natural number below a limit, perhaps with a plus sign. Blanks around it do not count. -/
def natural? (limit : Nat) (s : String) : Option Nat :=
  let digits := match (Text.trim s).toList with
    | '+' :: rest => rest
    | cs => cs
  let value := Numeral.digitsValue digits
  if !digits.isEmpty && digits.all Char.isDigit && value < limit then some value else none

def naturalOf (e : Environment) (name : String) (limit default : Nat) : Except ServiceFault Nat :=
  match e.get? name with
  | none => .ok default
  | some raw =>
    match natural? limit raw with
    | some n => .ok n
    | none => .error (.configuration (name ++ " must be a number, got '" ++ raw ++ "'"))

def ofEnvironment (e : Environment) : Except ServiceFault Config := do
  let maxConnections ←
    naturalOf e "CSV_EXPORT_MAX_CONNECTIONS" (twoTo 32) standard.maxConnections
  let csvBatchSize ← naturalOf e "CSV_EXPORT_BATCH_SIZE" (twoTo 64) standard.csvBatchSize
  let busyTimeoutSecs ←
    naturalOf e "CSV_EXPORT_BUSY_TIMEOUT_SECS" (twoTo 64) standard.busyTimeoutSecs
  let config : Config :=
    { databaseUrl := (e.get? "CSV_EXPORT_DATABASE_URL").getD standard.databaseUrl
      tablePrefix := (e.get? "CSV_EXPORT_TABLE_PREFIX").getD standard.tablePrefix
      maxConnections := maxConnections
      csvBatchSize := csvBatchSize
      busyTimeoutSecs := busyTimeoutSecs }
  config.validate
  return config

end Config

end SheetExport
