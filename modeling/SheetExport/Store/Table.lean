import SheetExport.Store.Value

/-! # Tables

A table has columns, a key and rows. The rows stand in the order of their numbers, which follow
the order in which the rows came if nobody gives them.
-/

namespace SheetExport.Store

/-! ## Columns -/

/-- Its values are compared byte by byte, without a collation. -/
structure Column where
  name : String
  affinity : Affinity
  /-- Whether null is refused. -/
  required : Bool
  /-- The only texts allowed, if there are any. -/
  choices : List String
  /-- What a row gets that names no value for the column. -/
  start : Value
  deriving DecidableEq

namespace Column

/-- A column that takes every value. -/
def free (name : String) (affinity : Affinity) : Column := ⟨name, affinity, false, [], .null⟩

def needed (name : String) (affinity : Affinity) : Column := ⟨name, affinity, true, [], .null⟩

def accepts (c : Column) (v : Value) : Bool :=
  !(c.required && v.isNull) &&
    (c.choices.isEmpty || v.isNull || c.choices.any fun s => v == .text s)

end Column

/-- The most columns of a table. -/
def columnLimit : Nat := 2000

def allDifferent : List String → Bool
  | [] => true
  | name :: rest => !rest.contains name && allDifferent rest

/-- Whether columns make a table: there are some, not too many, and no two have one name. -/
def columnsFit (columns : List Column) : Bool :=
  !columns.isEmpty && columns.length ≤ columnLimit &&
    allDifferent (columns.map fun c => Text.lowerAscii c.name)

/-! ## Keys -/

inductive Key where
  | none
  /-- The first column is an integer that tells the rows apart, and is the number of its row. -/
  | integer
  /-- The first `count` columns together tell the rows apart. -/
  | unique (count : Nat)
  /-- As `unique`, and the rows stand in the order of the key. -/
  | sorted (count : Nat)
  deriving DecidableEq

/-- The cells that tell the rows apart. -/
def Key.part (k : Key) (cells : List Value) : List Value :=
  match k with
  | none => []
  | integer => cells.take 1
  | unique count | sorted count => cells.take count

/-- Whether two keys are one. A key that holds null is like no other. -/
def sameKey (a b : List Value) : Bool :=
  !a.isEmpty && (a.zip b).all fun (v, w) => v.order w == some .eq

/-- Whether a key comes before another, cell by cell. -/
def keyBefore : List Value → List Value → Bool
  | v :: a, w :: b => v.sortsBefore w || (!w.sortsBefore v && keyBefore a b)
  | _, _ => false

/-! ## Rows -/

/-- A row has a number besides its cells, which may be asked for by a name of its own. -/
structure Row where
  number : Int
  cells : List Value
  deriving DecidableEq

/-- Where a row holds a value. -/
inductive Place where
  | cell (i : Nat)
  | number
  deriving DecidableEq

namespace Row

def value (r : Row) : Place → Value
  | .cell i => r.cells.getD i .null
  | .number => .integer r.number

/-- Rows with the numbers from one on. -/
def numbered (rows : List (List Value)) : List Row :=
  rows.zipIdx.map fun (cells, i) => ⟨i + 1, cells⟩

/-- A row that is not of a table, whose number nobody asks for. -/
def loose (cells : List Value) : Row := ⟨0, cells⟩

def before (k : Key) (a b : Row) : Bool :=
  match k with
  | .sorted count => keyBefore (a.cells.take count) (b.cells.take count)
  | .none | .integer | .unique _ => a.number < b.number

/-- Whether two rows cannot stand in one table. -/
def clashes (k : Key) (a b : Row) : Bool :=
  a.number == b.number || sameKey (k.part a.cells) (k.part b.cells)

end Row

/-! ## Tables -/

structure Table where
  name : String
  columns : List Column
  key : Key
  rows : List Row
  deriving DecidableEq

/-- Names of the number of a row, where no column has them. -/
def numberNames : List String := ["rowid", "oid", "_rowid_"]

/-- Where a table has the numbers of its rows. -/
def numberPlace : Key → Place
  | .integer => .cell 0
  | .none | .unique _ | .sorted _ => .number

/-- The place of a named column, or of the number if rows have one. -/
def placeOf? (columns : List Column) (number : Option Place) (name : String) : Option Place :=
  match columns.findIdx? fun c => Text.sameName c.name name with
  | some i => some (.cell i)
  | none => if numberNames.any (Text.sameName name) then number else none

/-- The affinity of a place; numbers are integers. -/
def affinityAt? (columns : List Column) : Place → Option Affinity
  | .cell i => columns[i]?.map Column.affinity
  | .number => some .integer

namespace Table

def place? (t : Table) (name : String) : Option Place :=
  placeOf? t.columns (some (numberPlace t.key)) name

/-! ## Drafts -/

/-- A row before its cells have the form of their columns. -/
structure Draft where
  number : Value
  cells : List Value

def Draft.set (d : Draft) : Place × Value → Draft
  | (.cell i, v) => { d with cells := d.cells.set i v }
  | (.number, v) => { d with number := v }

def Draft.setAll (d : Draft) (values : List (Place × Value)) : Draft := values.foldl Draft.set d

/-- The number that a value gives, `fresh` for null. -/
def numberFrom? (fresh : Option Int) (v : Value) : Option Int :=
  match v.stored .integer with
  | .integer i => some i
  | .null => fresh
  | _ => none

/-- The row that a draft stands for, if the columns accept its cells. -/
def row? (t : Table) (fresh : Option Int) (d : Draft) : Option Row := do
  let cells := List.zipWith (fun c v => v.stored c.affinity) t.columns d.cells
  let row ← match t.key with
    | .integer => do
      let number ← numberFrom? fresh (cells.headD .null)
      pure (Row.mk number (cells.set 0 (.integer number)))
    | _ => do pure (Row.mk (← numberFrom? fresh d.number) cells)
  if (t.columns.zip row.cells).all fun (c, v) => c.accepts v then return row else none

/-! ## Insertion -/

/-- Puts a row in its place among the rows. -/
def place (key : Key) (row : Row) : List Row → List Row
  | [] => [row]
  | r :: rest => if row.before key r then row :: r :: rest else r :: place key row rest

def placeAll (key : Key) (rows : List Row) : List Row :=
  rows.foldl (fun placed row => place key row placed) []

/-- Whether no two rows clash. -/
def distinctRows (key : Key) : List Row → Bool
  | [] => true
  | row :: rest => !rest.any (row.clashes key) && distinctRows key rest

/-- The number after the largest one. -/
def nextNumber (t : Table) : Int :=
  match (t.rows.map Row.number).max? with
  | some n => n + 1
  | none => 1

def insertDraft? (t : Table) (d : Draft) : Option Table := do
  let row ← t.row? (some t.nextNumber) d
  if t.rows.any (row.clashes t.key) then none
  else return { t with rows := place t.key row t.rows }

/-- Inserts a row with a value for every column. -/
def insertCells? (t : Table) (cells : List Value) : Option Table :=
  if cells.length = t.columns.length then t.insertDraft? ⟨.null, cells⟩ else none

/-! ## Named values -/

/-- The places of named values, if all of them exist. -/
def places? (t : Table) (values : List (String × Value)) : Option (List (Place × Value)) :=
  values.mapM fun (name, v) => (t.place? name).map (·, v)

/-- Some column is named. The others have their start values. -/
def insert? (t : Table) (values : List (String × Value)) : Option Table := do
  let draft : Draft := ⟨.null, t.columns.map Column.start⟩
  if values.isEmpty then none else t.insertDraft? (draft.setAll (← t.places? values))

/-- What a row has under a name. A name that means no place is a text. -/
def asked (t : Table) (row : Row) (name : String) : Operand :=
  match t.place? name with
  | some place => ⟨affinityAt? t.columns place, row.value place⟩
  | none => .literal (.text name)

/-- Whether a row has all the given values under their names. No row has null. -/
def meets (t : Table) (row : Row) (given : List (String × Value)) : Bool :=
  given.all fun (name, v) => ((t.asked row name).compares .eq (.literal v)).isTrue

/-- Changes the rows that have all the given values, and counts them. Something is changed. -/
def update? (t : Table) (given changes : List (String × Value)) : Option (Table × Nat) := do
  if changes.isEmpty then none
  let changes ← t.places? changes
  let rows ← t.rows.mapM fun row =>
    if t.meets row given then
      t.row? none ((Draft.mk (.integer row.number) row.cells).setAll changes)
    else some row
  if distinctRows t.key rows then
    return ({ t with rows := placeAll t.key rows }, t.rows.countP (t.meets · given))
  else none

/-- Removes the rows that have all the given values, and counts them. -/
def remove (t : Table) (given : List (String × Value)) : Table × Nat :=
  ({ t with rows := t.rows.filter (! t.meets · given) }, t.rows.countP (t.meets · given))

end Table

end SheetExport.Store
