import SheetExport.Store.Query

/-! # Resolution of names

Whether every table and every qualified column of a query is there. Whether it is does not depend
on the rows.
-/

namespace SheetExport.Store

open Sql (Reference Source Test Link Lookup Clause Join Selection Gathering Supplement Projection)

/-- The headers of sources, if every table is there. -/
def headers? (s : Store) (sources : List Source) : Option (List Header) := sources.mapM s.header?

def testResolves (headers : List Header) : Test → Bool
  | .equal a b => resolves headers a && resolves headers b
  | .holds r _ => resolves headers r

def lookupResolves (s : Store) (outer : List Header) (l : Lookup) : Bool :=
  match s.headers? (l.source :: l.links.map Link.source) with
  | none => false
  | some own =>
    let headers := own ++ outer
    resolves headers l.column && l.links.all (fun k => k.tests.all (testResolves headers)) &&
      l.tests.all (testResolves headers)

def clauseResolves (s : Store) (headers : List Header) : Clause → Bool
  | .test t => testResolves headers t
  | .among r l => resolves headers r && s.lookupResolves headers l
  | .notAmong _ l => s.lookupResolves headers l
  | .nothing l => s.lookupResolves headers l

def selectionResolves (s : Store) (q : Selection) : Bool :=
  match s.headers? (q.source :: q.joins.map Join.source) with
  | none => false
  | some headers =>
    resolves headers q.column && q.joins.all (fun j => j.clauses.all (s.clauseResolves headers)) &&
      q.clauses.all (s.clauseResolves headers)

def gatheringResolves (s : Store) (g : Gathering) : Bool :=
  match s.headers? (g.source :: g.links.map Link.source) with
  | none => false
  | some headers =>
    resolves headers g.key && resolves headers g.gathered &&
      g.links.all (fun k => k.tests.all (testResolves headers)) &&
      g.clauses.all (s.clauseResolves headers)

def projectionHeaders? (s : Store) (p : Projection) : Option (List Header) :=
  (s.header? p.source).map fun h =>
    h :: p.supplements.map fun k => s.gatheredHeader k.label k.gathering

def projectionResolves (s : Store) (p : Projection) : Bool :=
  match s.projectionHeaders? p with
  | none => false
  | some headers =>
    p.supplements.all (fun k => s.gatheringResolves k.gathering && testResolves headers k.test) &&
      p.outputs.all (fun o => resolves headers o.column) &&
      p.clauses.all (s.clauseResolves headers)

end SheetExport.Store
