import SheetExport.Bytes

/-! # CSV records

A record is a line of cells between delimiters. A cell that holds a delimiter, a quote or a line
break stands between quotes, with the quotes inside it written twice.
-/

namespace SheetExport

namespace Csv

structure Format where
  delimiter : UInt8
  quote : UInt8
  deriving DecidableEq

/-- A comma and double quotes. -/
def Format.standard : Format := ⟨44, 34⟩

def lineFeed : UInt8 := 10

def carriageReturn : UInt8 := 13

namespace Format

def needsQuotes (f : Format) (b : UInt8) : Bool :=
  b == f.delimiter || b == f.quote || b == carriageReturn || b == lineFeed

def doubled (f : Format) (cell : Bytes) : Bytes :=
  cell.flatMap fun b => if b = f.quote then [b, b] else [b]

def quoted (f : Format) (cell : Bytes) : Bytes := f.quote :: f.doubled cell ++ [f.quote]

def cell (f : Format) (cell : Bytes) : Bytes :=
  if cell.any f.needsQuotes then f.quoted cell else cell

def cells (f : Format) : List Bytes → Bytes
  | [] => []
  | [c] => f.cell c
  | c :: rest => f.cell c ++ f.delimiter :: f.cells rest

/-- A line with nothing on it would be no record, so quotes stand on it. -/
def record (f : Format) (record : List Bytes) : Bytes :=
  let line := f.cells record
  (if line.isEmpty then [f.quote, f.quote] else line) ++ [lineFeed]

end Format

/-! ## Headers -/

/-- Spreadsheets take a file that starts with `ID` for one of another kind. -/
def headerCells : List String → List String
  | [] => []
  | name :: rest => (if name = "ID" then "`ID" else name) :: rest

end Csv

end SheetExport
