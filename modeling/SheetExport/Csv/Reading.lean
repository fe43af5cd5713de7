import SheetExport.Csv.Record

/-! # Reading CSV

A reader takes records byte by byte. Outside quotes a delimiter ends a cell, and a carriage return
or a line feed ends a record. A line with nothing on it is no record, so both of them together end
one record as well.
-/

namespace SheetExport.Csv

/-- Where a reader stands in a line. -/
inductive Place where
  | lineStart
  | cellStart
  | plain
  | quoted
  /-- Behind a quote that closes a cell, unless another quote follows. -/
  | closed
  deriving DecidableEq

structure Reading where
  place : Place
  /-- The cell that has been begun. -/
  cell : Bytes
  /-- The cells before it on its line. -/
  cells : List Bytes
  records : List (List Bytes)
  deriving DecidableEq

namespace Reading

def start : Reading := ⟨.lineStart, [], [], []⟩

def add (r : Reading) (place : Place) (b : UInt8) : Reading :=
  { r with place := place, cell := r.cell ++ [b] }

def endCell (r : Reading) : Reading := ⟨.cellStart, [], r.cells ++ [r.cell], r.records⟩

def endRecord (r : Reading) : Reading :=
  ⟨.lineStart, [], [], r.records ++ [r.cells ++ [r.cell]]⟩

end Reading

def isLineBreak (b : UInt8) : Bool := b == carriageReturn || b == lineFeed

/-- What a reader makes of a byte that may not stand where it does: a quote inside a cell that
does not start with one, or anything else behind a closing quote. -/
abbrev Tolerance := Reading → UInt8 → Option Reading

namespace Format

variable (f : Format) (tolerance : Tolerance)

/-- One byte outside quotes. -/
def readOutside? (r : Reading) (b : UInt8) : Option Reading :=
  if isLineBreak b then some (if r.place = .lineStart then r else r.endRecord)
  else if b = f.delimiter then some r.endCell
  else if b = f.quote then
    match r.place with
    | .plain => tolerance r b
    | .closed => some (r.add .quoted b)
    | _ => some { r with place := .quoted }
  else if r.place = .closed then tolerance r b
  else some (r.add .plain b)

def readByte? (r : Reading) (b : UInt8) : Option Reading :=
  if r.place = .quoted then
    some (if b = f.quote then { r with place := .closed } else r.add .quoted b)
  else f.readOutside? tolerance r b

def readAll? (r : Reading) (data : Bytes) : Option Reading := data.foldlM (f.readByte? tolerance) r

/-- The records of a text. The last one needs no line break behind it, but a quote that was opened
has to be closed. -/
def read? (data : Bytes) : Option (List (List Bytes)) := do
  let r ← f.readAll? tolerance .start data
  match r.place with
  | .lineStart => some r.records
  | .quoted => none
  | _ => some r.endRecord.records

end Format

end SheetExport.Csv
