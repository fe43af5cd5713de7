import SheetExport.Store.Truth

/-! # Answers of queries

The values that a selection yields, and the rows and columns that a projection yields.
-/

namespace SheetExport.Store

open Sql (Join Selection Gathering Supplement Projection Output)

/-! ## Selections -/

/-- Drops the values that were there before. -/
def distinct (vs : List Value) : List Value :=
  vs.foldl (fun kept v => if kept.any (·.same v) then kept else kept ++ [v]) []

def withJoins (s : Store) (now : Int) (joins : List Join) (scopes : List Scope) : List Scope :=
  joins.foldl (fun scopes j => (s.joined j.source scopes).filter (s.clausesHold now · j.clauses))
    scopes

def selected (s : Store) (now : Int) (q : Selection) : List Value :=
  let scopes :=
    (s.withJoins now q.joins (s.joined q.source [[]])).filter (s.clausesHold now · q.clauses)
  distinct (scopes.map fun scope => (operand scope q.column).value)

/-! ## Gatherings -/

/-- Joins the values to one text and passes over nulls, null when nothing is left. Bytes that are
no text as a whole stay bytes. -/
def concatenated (separator : String) (vs : List Value) : Value :=
  match vs.filter (!·.isNull) with
  | [] => .null
  | kept => .ofTextBytes (List.intercalate (bytesOf separator) (kept.map Value.textBytes))

/-- Puts a value into the group of its key. -/
def addToGroup (key value : Value) : List (Value × List Value) → List (Value × List Value)
  | [] => [(key, [value])]
  | (k, vs) :: rest =>
    if k.same key then (k, vs ++ [value]) :: rest else (k, vs) :: addToGroup key value rest

def grouped (pairs : List (Value × Value)) : List (Value × List Value) :=
  pairs.foldl (fun groups (key, value) => addToGroup key value groups) []

def gatheredScopes (s : Store) (now : Int) (g : Gathering) : List Scope :=
  (s.linked now g.links (s.joined g.source [[]])).filter (s.clausesHold now · g.clauses)

/-- One row per key, with the joined values after it. -/
def gatheredRows (s : Store) (now : Int) (g : Gathering) : List Row :=
  let pairs := (s.gatheredScopes now g).map fun scope =>
    ((operand scope g.key).value, (operand scope g.gathered).value)
  (grouped pairs).map fun (key, vs) => .loose [key, concatenated g.separator vs]

/-- The affinity of the key outside the gathering. -/
def gatheredAffinity (s : Store) (g : Gathering) : Affinity :=
  let headers := (g.source :: g.links.map (·.source)).filterMap s.header?
  (headers.findSome? (·.affinity? g.key)).getD .blob

def gatheredHeader (s : Store) (label : String) (g : Gathering) : Header :=
  ⟨label, [.free g.keyName (s.gatheredAffinity g), .free g.gatheredLabel .blob], none⟩

/-! ## Projections -/

/-- A row that has no partner meets a row of nulls. -/
def supplemented (s : Store) (now : Int) (k : Supplement) (scopes : List Scope) : List Scope :=
  let header := s.gatheredHeader k.label k.gathering
  let rows := s.gatheredRows now k.gathering
  scopes.flatMap fun scope =>
    match (rows.map fun row => ⟨header, row⟩ :: scope).filter (testsHold now · [k.test]) with
    | [] => [⟨header, .loose []⟩ :: scope]
    | partners => partners

def projectedScopes (s : Store) (now : Int) (p : Projection) : List Scope :=
  (p.supplements.foldl (fun scopes k => s.supplemented now k scopes)
    (s.joined p.source [[]])).filter (s.clausesHold now · p.clauses)

def projectedRows (s : Store) (now : Int) (p : Projection) : List (List Value) :=
  (s.projectedScopes now p).map fun scope => p.outputs.map fun o => (operand scope o.column).value

end SheetExport.Store
