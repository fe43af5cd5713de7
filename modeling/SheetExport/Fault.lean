import SheetExport.Uuid

/-! # What can go wrong

Faults of a request, of the store, of a job and of the service, each with its message.
-/

namespace SheetExport

/-! ## Requests -/

inductive RequestFault where
  | required (field : String)
  | tooLong (field : String) (limit : Nat)
  | badFormat (field reason : String)
  | malformedField (raw : String)
  | unknownRule (raw : String)
  | unknownCast (raw : String)
  | malformedBody (cause : String)
  deriving DecidableEq

def RequestFault.message : RequestFault → String
  | required field => "Field '" ++ field ++ "' is required"
  | tooLong field limit =>
    "Field '" ++ field ++ "' cannot exceed " ++ toString limit ++ " characters"
  | badFormat field reason => "Field '" ++ field ++ "' contains invalid format: " ++ reason
  | malformedField raw => "Unexpected field name: " ++ raw
  | unknownRule raw => "Invalid rule value: " ++ raw
  | unknownCast raw => "Invalid cast value: " ++ raw
  | malformedBody cause => "Request body not formatted properly: " ++ cause

/-! ## The store -/

/-- Why the store did not answer. -/
inductive Refusal where
  | rowMissing
  | waitedTooLong
  | closed
  | workerCrashed
  | columnMissing (name : String)
  | unexpectedData (text : String)
  /-- A statement that the store cannot run. -/
  | statement (text : String)
  deriving DecidableEq

def Refusal.message : Refusal → String
  | rowMissing => "no rows returned by a query that expected to return at least one row"
  | waitedTooLong => "pool timed out while waiting for an open connection"
  | closed => "attempted to acquire a connection on a closed pool"
  | workerCrashed => "attempted to communicate with a crashed background worker"
  | columnMissing name => "no column found for name: " ++ name
  | unexpectedData text => "encountered unexpected or invalid data: " ++ text
  | statement text => "error returned from database: " ++ text

inductive StoreFault where
  | refused (cause : Refusal)
  | connection (text : String)
  | migration (text : String)
  deriving DecidableEq

def StoreFault.message : StoreFault → String
  | refused cause => "SQLx error: " ++ cause.message
  | connection text => "Connection pool error: " ++ text
  | migration text => "Migration error: " ++ text

/-- A copy keeps the text of a refusal and not its kind. -/
def StoreFault.copy : StoreFault → StoreFault
  | refused cause => refused (.unexpectedData cause.message)
  | fault => fault

/-! ## Jobs -/

inductive JobFault where
  | store (fault : StoreFault)
  | request (fault : RequestFault)
  | unsupportedRule (field rule : String)
  | notFound (id : Uuid)
  | notReady (id : Uuid) (status : String)
  | output (text : String)
  | internal (text : String)
  deriving DecidableEq

namespace JobFault

def message : JobFault → String
  | store fault => "Database error: " ++ fault.message
  | request fault => "Validation error: " ++ fault.message
  | unsupportedRule field rule =>
    "Rule '" ++ rule ++ "' is not supported for field '" ++ field ++ "'"
  | notFound id => "Export job not found: " ++ id.text
  | notReady id status =>
    "Export job " ++ id.text ++ " is not ready for download (status: " ++ status ++ ")"
  | output text => "I/O error: " ++ text
  | internal text => "Internal error: " ++ text

def copy : JobFault → JobFault
  | store fault => store fault.copy
  | fault => fault

/-- A statement that the store cannot run. -/
def rejected : JobFault := store (.refused (.statement "SQL error"))

end JobFault

/-! ## The service -/

inductive ServiceFault where
  | job (fault : JobFault)
  | configuration (text : String)
  | notInitialized (text : String)
  deriving DecidableEq

namespace ServiceFault

def message : ServiceFault → String
  | job fault => "Domain error: " ++ fault.message
  | configuration text => "Configuration error: " ++ text
  | notInitialized text => "Not initialized: " ++ text

def copy : ServiceFault → ServiceFault
  | job fault => job fault.copy
  | fault => fault

end ServiceFault

end SheetExport
