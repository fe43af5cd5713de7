import SheetExport.Store.Table

/-! # The store

A store is a list of tables. Queries find a table without regard to the case of ASCII letters.
-/

namespace SheetExport

structure Store where
  tables : List Store.Table
  deriving DecidableEq

namespace Store

def empty : Store := ⟨[]⟩

def table? (s : Store) (name : String) : Option Table :=
  s.tables.find? fun t => Text.sameName t.name name

/-- Whether a table has exactly this name. -/
def has (s : Store) (name : String) : Bool := s.tables.any (·.name == name)

/-- Names that the store keeps for itself. -/
def isReserved (name : String) : Bool := "sqlite_".toList.isPrefixOf (Text.lowerAscii name).toList

def create? (s : Store) (t : Table) : Option Store :=
  if isReserved t.name || (s.table? t.name).isSome || !columnsFit t.columns then none
  else some ⟨s.tables ++ [t]⟩

def without (s : Store) (name : String) : Store :=
  ⟨s.tables.filter fun t => !Text.sameName t.name name⟩

/-- A table that is not there is no fault. -/
def drop? (s : Store) (name : String) : Option Store :=
  if isReserved name then none else some (s.without name)

/-- A drop whose failure only leaves a table behind. -/
def dropQuietly (s : Store) (name : String) : Store := (s.drop? name).getD s

def replace (s : Store) (name : String) (t : Table) : Store :=
  ⟨s.tables.map fun u => if Text.sameName u.name name then t else u⟩

def change? (s : Store) (name : String) (f : Table → Option (Table × α)) : Option (Store × α) := do
  let (t, a) ← f (← s.table? name)
  return (s.replace name t, a)

def insert? (s : Store) (name : String) (cells : List (String × Value)) : Option Store :=
  (s.change? name fun t => (t.insert? cells).map (·, ())).map Prod.fst

def update? (s : Store) (name : String) (given changes : List (String × Value)) :
    Option (Store × Nat) :=
  s.change? name (·.update? given changes)

def remove? (s : Store) (name : String) (given : List (String × Value)) : Option (Store × Nat) :=
  s.change? name fun t => some (t.remove given)

/-- The rows that have all the given values. -/
def rowsWith? (s : Store) (name : String) (given : List (String × Value)) : Option (List Row) := do
  let t ← s.table? name
  return t.rows.filter (t.meets · given)

end Store

end SheetExport
