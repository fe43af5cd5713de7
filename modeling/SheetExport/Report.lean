import SheetExport.Bytes
import SheetExport.Fault
import SheetExport.Json
import SheetExport.Json.Record

/-! # Reports

What another program is told when a call fails: a numbered code, a message, and perhaps details as
the text of a JSON object.
-/

namespace SheetExport

/-! ## Codes -/

inductive Code where
  | success
  | invalidArgument
  | nullPointer
  | invalidUtf8
  | invalidUuid
  | internalError
  | databaseGeneral
  | databaseConnection
  | databaseMigration
  | jobNotFound
  | validationFailed
  | fileError
  | unsupportedRule
  | jobNotReady
  | configurationError
  | notInitialized
  deriving DecidableEq

namespace Code

def all : List Code :=
  [success, invalidArgument, nullPointer, invalidUtf8, invalidUuid, internalError,
    databaseGeneral, databaseConnection, databaseMigration, jobNotFound, validationFailed,
    fileError, unsupportedRule, jobNotReady, configurationError, notInitialized]

def number : Code → Nat
  | success => 0
  | invalidArgument => 2
  | nullPointer => 3
  | invalidUtf8 => 4
  | invalidUuid => 5
  | internalError => 6
  | databaseGeneral => 100
  | databaseConnection => 104
  | databaseMigration => 106
  | jobNotFound => 201
  | validationFailed => 204
  | fileError => 207
  | unsupportedRule => 209
  | jobNotReady => 210
  | configurationError => 310
  | notInitialized => 312

def name : Code → String
  | success => "Success"
  | invalidArgument => "InvalidArgument"
  | nullPointer => "NullPointer"
  | invalidUtf8 => "InvalidUtf8"
  | invalidUuid => "InvalidUuid"
  | internalError => "InternalError"
  | databaseGeneral => "DatabaseGeneral"
  | databaseConnection => "DatabaseConnection"
  | databaseMigration => "DatabaseMigration"
  | jobNotFound => "JobNotFound"
  | validationFailed => "ValidationFailed"
  | fileError => "FileError"
  | unsupportedRule => "UnsupportedRule"
  | jobNotReady => "JobNotReady"
  | configurationError => "ConfigurationError"
  | notInitialized => "NotInitialized"

def text (c : Code) : String := c.name ++ " (" ++ toString c.number ++ ")"

end Code

/-! ## Reports -/

structure Report where
  code : Code
  message : String
  details : Option String
  deriving DecidableEq

namespace Report

def plain (code : Code) (message : String) : Report := ⟨code, message, none⟩

def detailed (code : Code) (message : String) (details : List (String × String)) : Report :=
  ⟨code, message, some (Json.object (details.map fun (key, s) => (key, .string s))).render⟩

def text (r : Report) : String :=
  match r.details with
  | some details => r.code.text ++ ": " ++ r.message ++ " (" ++ details ++ ")"
  | none => r.code.text ++ ": " ++ r.message

/-! ## Documents -/

def toJson (r : Report) : Json :=
  .object [("code", .string r.code.name), ("message", .string r.message),
    ("details", .ofOption .string r.details)]

def record : Json.Record Report where
  name := "FFIError"
  blank := ⟨.success, "", none⟩
  members :=
    [.of "code" .required (.choice (Code.all.map fun c => (c.name, c)))
        fun c r => { r with code := c },
      .of "message" .required .string fun s r => { r with message := s },
      .of "details" .listed (.nullable .string) fun s r => { r with details := s }]

def read (document : String) : Except Json.Fault Report := Json.document record.reader document

/-! ## Faults -/

def requestKind : RequestFault → String
  | .required .. => "required"
  | .tooLong .. => "max_length"
  | .badFormat .. => "format"
  | .malformedField _ => "malformed_field"
  | .unknownRule _ => "invalid_rule"
  | .unknownCast _ => "invalid_cast"
  | .malformedBody _ => "malformed_request"

def ofRequestFault (fault : RequestFault) : Report :=
  detailed .validationFailed fault.message [("type", requestKind fault)]

def ofStoreFault : StoreFault → Report
  | .connection text => plain .databaseConnection text
  | .migration text => plain .databaseMigration text
  | .refused cause => plain .databaseGeneral (StoreFault.refused cause).message

def ofJobFault : JobFault → Report
  | .store fault => ofStoreFault fault
  | .request fault => ofRequestFault fault
  | .unsupportedRule field rule =>
    detailed .unsupportedRule (JobFault.unsupportedRule field rule).message
      [("field", field), ("rule", rule)]
  | .notFound id => detailed .jobNotFound (JobFault.notFound id).message [("id", id.text)]
  | .notReady id status =>
    detailed .jobNotReady (JobFault.notReady id status).message
      [("id", id.text), ("status", status)]
  | .output text => plain .fileError text
  | .internal text => plain .internalError text

def ofServiceFault : ServiceFault → Report
  | .job fault => ofJobFault fault
  | .configuration text => plain .configurationError text
  | .notInitialized text => plain .notInitialized text

/-! ## Texts from outside -/

/-- A text for another program must not hold the character that ends its texts. -/
def refuseNul (s : String) : Except Report String :=
  if s.toList.contains '\x00' then
    .error (plain .invalidArgument "String contains interior NUL byte")
  else .ok s

def textOf (bytes : Bytes) : Except Report String :=
  match textOf? bytes with
  | some s => .ok s
  | none => .error (plain .invalidUtf8 "String is not valid UTF-8")

end Report

end SheetExport
