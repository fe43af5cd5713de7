import SheetExport.Sql.Condition

/-! # Queries

The queries that an export runs, as syntax. Each has one written form.
-/

namespace SheetExport.Sql

/-! ## Columns and sources -/

inductive Reference where
  | of (table column : String)
  /-- A column without its table. -/
  | bare (column : String)
  deriving DecidableEq

def Reference.render : Reference → String
  | of table column => qualified table column
  | bare column => name column

/-- A table with the name that a query gives it. -/
structure Source where
  table : String
  shortName : Option String
  deriving DecidableEq

def Source.label (s : Source) : String := s.shortName.getD s.table

def Source.render (s : Source) : String :=
  match s.shortName with
  | none => name s.table
  | some a => name s.table ++ " " ++ name a

/-! ## Tests -/

inductive Test where
  | equal (a b : Reference)
  | holds (operand : Reference) (condition : Condition)
  deriving DecidableEq

def Test.render : Test → String
  | equal a b => a.render ++ " = " ++ b.render
  | holds operand condition => condition.render operand.render

/-- A column that equals a text. -/
def Test.isText (operand : Reference) (value : String) : Test :=
  .holds operand (.compares .eq value)

/-! ## Lookups

A lookup is a subquery for the values of one column. It may refer to the query around it.
-/

/-- A source joined to the ones before it. -/
structure Link where
  source : Source
  tests : List Test
  deriving DecidableEq

/-- Several tests stand in parentheses. -/
def Link.render (l : Link) : String :=
  let on := match l.tests with
    | [t] => t.render
    | ts => "(" ++ Text.joined " AND " (ts.map Test.render) ++ ")"
  "INNER JOIN " ++ l.source.render ++ " ON " ++ on

structure Lookup where
  column : Reference
  source : Source
  links : List Link
  tests : List Test
  deriving DecidableEq

def Lookup.render (l : Lookup) : String :=
  let links := String.join (l.links.map fun k => " " ++ k.render)
  let tests := if l.tests.isEmpty then ""
    else " WHERE " ++ Text.joined " AND " (l.tests.map Test.render)
  "SELECT " ++ l.column.render ++ " FROM " ++ l.source.render ++ links ++ tests

/-! ## Clauses -/

inductive Clause where
  | test (t : Test)
  | among (operand : Reference) (lookup : Lookup)
  | notAmong (value : String) (lookup : Lookup)
  /-- The lookup finds nothing, or finds no value first. -/
  | nothing (lookup : Lookup)
  deriving DecidableEq

def Clause.render : Clause → String
  | test t => t.render
  | among operand lookup => operand.render ++ " IN (" ++ lookup.render ++ ")"
  | notAmong value lookup => text value ++ " NOT IN (" ++ lookup.render ++ ")"
  | nothing lookup => "(" ++ lookup.render ++ " LIMIT 1) IS NULL"

/-- The clauses after `WHERE`, each on a line of its own. -/
def whereLines (clauses : List Clause) : String :=
  if clauses.isEmpty then ""
  else "\nWHERE " ++ Text.joined "\n  AND " (clauses.map Clause.render)

/-! ## Selecting entities -/

/-- An inner join of a selection. -/
structure Join where
  source : Source
  clauses : List Clause
  deriving DecidableEq

def Join.render (j : Join) : String :=
  "INNER JOIN " ++ j.source.render ++ " ON (\n    " ++
    Text.joined " AND\n    " (j.clauses.map Clause.render) ++ "\n)"

/-- The distinct values of one column over the joined rows that meet every clause. -/
structure Selection where
  column : Reference
  source : Source
  joins : List Join
  clauses : List Clause
  deriving DecidableEq

def Selection.render (s : Selection) : String :=
  "SELECT DISTINCT " ++ s.column.render ++ " FROM " ++ s.source.render ++
    String.join (s.joins.map fun j => "\n" ++ j.render) ++ whereLines s.clauses

/-! ## Projecting entities -/

/-- A column under the name that a query gives it. -/
structure Output where
  column : Reference
  label : String
  deriving DecidableEq

def Output.render (o : Output) : String := o.column.render ++ " AS " ++ name o.label

/-- A subquery with one row per key, in which the values of a column are joined to one text. -/
structure Gathering where
  key : Reference
  keyLabel : Option String
  gathered : Reference
  separator : String
  gatheredLabel : String
  source : Source
  links : List Link
  clauses : List Clause
  deriving DecidableEq

def Gathering.render (g : Gathering) : String :=
  let key := match g.keyLabel with
    | none => g.key.render
    | some label => g.key.render ++ " AS " ++ name label
  "\n    SELECT " ++ key ++ ", group_concat(" ++ g.gathered.render ++ ", " ++
    text g.separator ++ ") AS " ++ name g.gatheredLabel ++ " FROM " ++ g.source.render ++
    String.join (g.links.map fun k => "\n    " ++ k.render) ++
    "\n    WHERE " ++ Text.joined " AND " (g.clauses.map Clause.render) ++
    "\n    GROUP BY " ++ g.key.render ++ "\n"

/-- The name of the key column outside the subquery. -/
def Gathering.keyName (g : Gathering) : String :=
  match g.keyLabel, g.key with
  | some label, _ => label
  | none, .of _ column => column
  | none, .bare column => column

/-- A left join of a projection. -/
structure Supplement where
  gathering : Gathering
  label : String
  test : Test
  deriving DecidableEq

def Supplement.render (s : Supplement) : String :=
  "LEFT JOIN (" ++ s.gathering.render ++ ") " ++ name s.label ++ " ON " ++ s.test.render

structure Projection where
  outputs : List Output
  source : Source
  supplements : List Supplement
  clauses : List Clause
  deriving DecidableEq

def Projection.render (p : Projection) : String :=
  "SELECT " ++ Text.joined ", " (p.outputs.map Output.render) ++ " FROM " ++ p.source.render ++
    String.join (p.supplements.map fun s => "\n" ++ s.render) ++ whereLines p.clauses

end SheetExport.Sql
