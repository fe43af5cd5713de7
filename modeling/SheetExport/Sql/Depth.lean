import SheetExport.Sql.Query

/-! # Depth of conditions

How deep the conditions of a query nest as expressions. A conjunction nests to the left, and what
a join asks for comes after what the whole query asks for.
-/

namespace SheetExport.Sql

def Reference.depth : Reference → Nat
  | of _ _ => 2
  | bare _ => 1

def Condition.depth (operand : Nat) : Condition → Nat
  | compares _ _ | like _ => operand + 1
  | comparesNumber _ _ | comparesMoment _ _ | notLike _ | empty | notEmpty => operand + 2

def Test.depth : Test → Nat
  | equal a b => max a.depth b.depth + 1
  | holds operand condition => condition.depth operand.depth

/-- The depth of a conjunction of parts. -/
def conjunctionDepth : List Nat → Nat
  | [] => 0
  | d :: rest => rest.foldl (fun deepest d => max deepest d + 1) d

/-- The depth of a lookup as it is written, before its links join in. -/
def Lookup.writtenDepth (l : Lookup) : Nat :=
  max l.column.depth (conjunctionDepth (l.tests.map Test.depth))

def Link.depth (l : Link) : Nat := conjunctionDepth (l.tests.map Test.depth)

def Lookup.depth (l : Lookup) : Nat :=
  conjunctionDepth (l.tests.map Test.depth ++ l.links.map Link.depth)

def Clause.depth : Clause → Nat
  | test t => t.depth
  | among operand l => max operand.depth l.writtenDepth + 1
  | notAmong _ l | nothing l => l.writtenDepth + 2

def Clause.lookup? : Clause → Option Lookup
  | test _ => none
  | among _ l | notAmong _ l | nothing l => some l

def Join.depth (j : Join) : Nat := conjunctionDepth (j.clauses.map Clause.depth)

/-- A lookup nests below the conditions around it. -/
def Selection.depth (s : Selection) : Nat :=
  let lookups := (s.clauses ++ s.joins.flatMap Join.clauses).filterMap Clause.lookup?
  conjunctionDepth (s.clauses.map Clause.depth ++ s.joins.map Join.depth) +
    (lookups.map Lookup.depth).foldl max 0

end SheetExport.Sql
