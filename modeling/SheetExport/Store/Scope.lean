import SheetExport.Sql.Query
import SheetExport.Store

/-! # Rows in scope

A query sees one row of each of its sources, under the names that it gives them, and the rows of
the query around it. An inner name hides an outer one.
-/

namespace SheetExport.Store

open Sql (Reference Source)

/-- The columns of a source under its name. -/
structure Header where
  label : String
  columns : List Column
  /-- Where its rows have numbers, if they do. -/
  number : Option Place
  deriving DecidableEq

/-- The place that a reference means, if it means one of this source. -/
def Header.place? (h : Header) : Reference → Option Place
  | .of label column =>
    if Text.sameName h.label label then placeOf? h.columns h.number column else none
  | .bare column => placeOf? h.columns h.number column

/-- The affinity of what a reference means, if it means something of this source. -/
def Header.affinity? (h : Header) (r : Reference) : Option Affinity :=
  (h.place? r).bind (affinityAt? h.columns)

structure Binding where
  header : Header
  row : Row
  deriving DecidableEq

/-- The rows in scope, the innermost first. -/
abbrev Scope : Type := List Binding

namespace Binding

def operand (b : Binding) (place : Place) : Operand :=
  ⟨affinityAt? b.header.columns place, b.row.value place⟩

def find? (b : Binding) (r : Reference) : Option Operand := (b.header.place? r).map b.operand

end Binding

/-! ## References -/

/-- A name without a table that means no column is a text. -/
def resolves (headers : List Header) : Reference → Bool
  | .of label column => headers.any fun h => (h.place? (.of label column)).isSome
  | .bare _ => true

def operand (scope : Scope) (r : Reference) : Operand :=
  match scope.findSome? (·.find? r) with
  | some o => o
  | none =>
    match r with
    | .of _ _ => .literal .null
    | .bare name => .literal (.text name)

/-! ## Sources -/

def Table.header (t : Table) (label : String) : Header :=
  ⟨label, t.columns, some (numberPlace t.key)⟩

def Table.bindings (t : Table) (label : String) : List Binding := t.rows.map (⟨t.header label, ·⟩)

def header? (s : Store) (source : Source) : Option Header :=
  (s.table? source.table).map (·.header source.label)

/-- No rows when the table is not there. -/
def bindings (s : Store) (source : Source) : List Binding :=
  match s.table? source.table with
  | some t => t.bindings source.label
  | none => []

/-- Every scope with every row of a source. -/
def joined (s : Store) (source : Source) (scopes : List Scope) : List Scope :=
  scopes.flatMap fun scope => (s.bindings source).map (· :: scope)

end SheetExport.Store
