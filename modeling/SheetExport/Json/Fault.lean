import SheetExport.Binary64.Decimal
import SheetExport.Text.Blank
import SheetExport.Text.Visible

/-! # Faults of a document

Why a text is not the JSON document that was asked for. The first fault in reading order counts.
-/

namespace SheetExport.Json

/-- What stands in the place of another kind of value. -/
inductive Found where
  | null
  | bool (b : Bool)
  | integer (n : Int)
  | float (x : Binary64)
  | string (s : String)
  | list
  | object
  deriving DecidableEq

def Found.text : Found → String
  | null => "null"
  | bool b => "boolean `" ++ toString b ++ "`"
  | integer n => "integer `" ++ toString n ++ "`"
  | float x => "floating point `" ++ x.messageText ++ "`"
  | string s => "string " ++ Text.shown s
  | list => "sequence"
  | object => "map"

inductive Fault where
  | endInValue
  | endInObject
  | endInList
  | endInString
  | noValue
  | noWord
  | noColon
  | noListComma
  | noObjectComma
  | keyNotString
  | trailingComma
  | trailingCharacters
  | badNumber
  | numberTooLarge
  | badEscape
  | controlCharacter
  | loneSurrogate
  | cutSurrogate
  | wrongType (found : Found) (expected : String)
  | wrongValue (found : Found) (expected : String)
  | wrongLength (length : Nat) (expected : String)
  | unknownName (name : String) (expected : List String)
  | missingMember (key : String)
  | repeatedMember (key : String)
  deriving DecidableEq

def Fault.message : Fault → String
  | endInValue => "EOF while parsing a value"
  | endInObject => "EOF while parsing an object"
  | endInList => "EOF while parsing a list"
  | endInString => "EOF while parsing a string"
  | noValue => "expected value"
  | noWord => "expected ident"
  | noColon => "expected `:`"
  | noListComma => "expected `,` or `]`"
  | noObjectComma => "expected `,` or `\x7d`"
  | keyNotString => "key must be a string"
  | trailingComma => "trailing comma"
  | trailingCharacters => "trailing characters"
  | badNumber => "invalid number"
  | numberTooLarge => "number out of range"
  | badEscape => "invalid escape"
  | controlCharacter => "control character (\\u0000-\\u001F) found while parsing a string"
  | loneSurrogate => "lone leading surrogate in hex escape"
  | cutSurrogate => "unexpected end of hex escape"
  | wrongType found expected => "invalid type: " ++ found.text ++ ", expected " ++ expected
  | wrongValue found expected => "invalid value: " ++ found.text ++ ", expected " ++ expected
  | wrongLength length expected =>
    "invalid length " ++ toString length ++ ", expected " ++ expected
  | unknownName name expected =>
    "unknown variant `" ++ name ++ "`, expected one of " ++
      Text.joined ", " (expected.map fun e => "`" ++ e ++ "`")
  | missingMember key => "missing field `" ++ key ++ "`"
  | repeatedMember key => "duplicate field `" ++ key ++ "`"

/-- Reads something at the front of a text and gives the rest of the text. -/
abbrev Reader (α : Type) : Type := List Char → Except Fault (α × List Char)

def isBlank (c : Char) : Bool := c == ' ' || c == '\t' || c == '\n' || c == '\r'

def skipBlanks (cs : List Char) : List Char := cs.dropWhile isBlank

/-- The rest of a word such as `null`. -/
def readWord : List Char → Reader Unit
  | [], cs => .ok ((), cs)
  | _ :: _, [] => .error .endInValue
  | w :: word, c :: rest => if w = c then readWord word rest else .error .noWord

end SheetExport.Json
