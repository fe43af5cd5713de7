import SheetExport.Sql.Statement
import SheetExport.Store.Limit
import SheetExport.Store.Query
import SheetExport.Store.Resolution

/-! # Running statements

A statement changes the store as a whole or not at all.
-/

namespace SheetExport.Store

open Sql (Selection Projection Statement)

/-! ## Names of result columns -/

/-- Drops digits at the end together with the colon before them. -/
def withoutNumber (name : String) : String :=
  match name.toList.reverse.dropWhile Char.isDigit with
  | ':' :: rest => String.ofList rest.reverse
  | _ => name

/-- So many tries are numbered in turn. -/
def countedTries : Nat := 4

/-- The number of the next try after `count` of them. Past the counted tries it is drawn, and it
goes on with the count when no drawn number is left. -/
def tryNumber (drawn : List UInt32) (count : Nat) : Nat :=
  if count < countedTries then count + 1
  else (drawn[count - countedTries]?.map UInt32.toNat).getD (count + 1)

/-- Numbers a name until no other has it. -/
def freshName (drawn : List UInt32) (taken : List String) (count : Nat) : Nat → String → String
  | 0, name => name
  | fuel + 1, name =>
    if taken.any (Text.sameName name) then
      freshName drawn taken (count + 1) fuel
        (withoutNumber name ++ ":" ++ toString (tryNumber drawn count))
    else name

/-- Of the tries that go on with the count, one more than there are names is enough. -/
def triesFor (drawn : List UInt32) (taken : List String) : Nat :=
  countedTries + drawn.length + taken.length + 1

/-- The words for truth are no column names. -/
def columnName (index : Nat) (label : String) : String :=
  if Text.sameName label "true" ∨ Text.sameName label "false" then
    "column" ++ toString (index + 1)
  else label

/-- The names of result columns, kept apart by numbers. -/
def columnNames (drawn : List (List UInt32)) (labels : List String) : List String :=
  labels.zipIdx.foldl
    (fun taken (label, i) =>
      let drawn := drawn.getD i []
      taken ++ [freshName drawn taken 0 (triesFor drawn taken) (columnName i label)]) []

/-! ## Tables that statements create -/

def idTable (name : String) : Table := ⟨name, [.needed "id" .integer], .integer, []⟩

def outputAffinity (headers : List Header) (r : Sql.Reference) : Affinity :=
  (headers.findSome? (·.affinity? r)).getD .blob

def resultTable (s : Store) (o : Occasion) (name : String) (p : Projection) : Table :=
  let headers := (s.projectionHeaders? p).getD []
  let names := columnNames o.drawn (p.outputs.map (·.label))
  { name := name
    columns := List.zipWith (fun n out => .free n (outputAffinity headers out.column)) names
      p.outputs
    key := .none
    rows := Row.numbered (s.projectedRows o.now p) }

def insertIds? (s : Store) (name : String) (ids : List Value) : Option Store :=
  ids.foldlM (fun s id => s.insert? name [("id", id)]) s

/-! ## Statements -/

def selectionRuns (s : Store) (o : Occasion) (q : Selection) : Bool :=
  s.selectionResolves q && selectionFits q && !meetsLongPattern o q

def projectionRuns (s : Store) (p : Projection) : Bool :=
  s.projectionResolves p && projectionFits p

def isWritten (statement : Statement) : Bool := !statement.render.toList.contains '\x00'

/-- The store after a statement, `none` when it cannot run. -/
def run? (s : Store) (o : Occasion) (statement : Statement) : Option Store :=
  if ! isWritten statement then none
  else
    match statement with
    | .createIds table => s.create? (idTable table)
    | .insertIds table selection =>
      if s.selectionRuns o selection then s.insertIds? table (s.selected o.now selection) else none
    | .createResult table projection =>
      if s.projectionRuns projection then s.create? (s.resultTable o table projection) else none
    | .dropTable table => s.drop? table
    | .setStatus job status =>
      (s.update? Sql.jobsTable [("id", .text job.text)] [("status_step", .text status.text)]).map
        Prod.fst
    | .deleteJob job => (s.remove? Sql.jobsTable [("id", .text job.text)]).map Prod.fst

end SheetExport.Store
