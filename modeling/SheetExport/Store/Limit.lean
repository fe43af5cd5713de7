import SheetExport.Sql.Depth
import SheetExport.Store.Occasion
import SheetExport.Store.Table

/-! # Limits of queries

A query that joins too many tables, yields too many columns or nests too deep does not run. A
pattern that is too long is refused when it is first asked of a row.
-/

namespace SheetExport.Store

open Sql (Clause Join Selection Projection)

/-- The most tables that one query joins. -/
def joinLimit : Nat := 64

def depthLimit : Nat := 1000

/-- The most bytes of a pattern. -/
def patternLimit : Nat := 50000

def selectionFits (q : Selection) : Bool := q.joins.length < joinLimit && q.depth ≤ depthLimit

def projectionFits (p : Projection) : Bool :=
  p.supplements.length < joinLimit && p.outputs.length ≤ columnLimit

/-! ## Long patterns -/

def isLongPattern : Clause → Bool
  | .test (.holds _ (.like pattern)) | .test (.holds _ (.notLike pattern)) =>
    patternLimit < pattern.utf8ByteSize
  | _ => false

/-- Whether a selection comes to ask some row a pattern that is too long. The store may ask it of a
row that the rest of the query would leave out, so it depends on the order of its work. -/
def meetsLongPattern (o : Occasion) (q : Selection) : Bool :=
  (q.clauses ++ q.joins.flatMap Join.clauses).any isLongPattern && o.meetsLongPatterns

end SheetExport.Store
