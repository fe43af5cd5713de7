import SheetExport.Store.Moment
import SheetExport.Store.Pattern
import SheetExport.Store.Scope

/-! # Truth of conditions

What a condition, a test and a clause say about the rows in scope. A comparison with null is
unknown. A moment may be the time of the clock, which is the same for a whole statement.
-/

namespace SheetExport.Store

open Sql (Reference Condition Test Link Lookup Clause)

/-! ## Conditions -/

def conditionTruth (now : Int) (o : Operand) : Condition → Truth
  | .compares c value => o.compares c (.literal (.text value))
  | .comparesNumber c literal =>
    (o.value.castReal.order (.real (.ofStoredText literal))).map c.accepts
  | .comparesMoment c value =>
    ((momentOf now o.value).order (momentOf now (.text value))).map c.accepts
  | .like pattern => like o.value pattern
  | .notLike pattern => (like o.value pattern).not
  | .empty => (o.compares .eq (.literal (.text ""))).or (some o.value.isNull)
  | .notEmpty => (o.compares .ne (.literal (.text ""))).and (some (!o.value.isNull))

def testTruth (now : Int) (scope : Scope) : Test → Truth
  | .equal a b => (operand scope a).compares .eq (operand scope b)
  | .holds r condition => conditionTruth now (operand scope r) condition

def testsHold (now : Int) (scope : Scope) (tests : List Test) : Bool :=
  tests.all fun t => (testTruth now scope t).isTrue

/-! ## Lookups -/

def linked (s : Store) (now : Int) (links : List Link) (scopes : List Scope) : List Scope :=
  links.foldl (fun scopes k => (s.joined k.source scopes).filter (testsHold now · k.tests)) scopes

/-- What a lookup finds, given the rows around it. -/
def found (s : Store) (now : Int) (scope : Scope) (l : Lookup) : List Operand :=
  ((s.linked now l.links (s.joined l.source [scope])).filter (testsHold now · l.tests)).map
    (operand · l.column)

/-- Whether a value is among others. It is unknown if only a null could make it so. -/
def amongTruth (o : Operand) (others : List Operand) : Truth :=
  let equalities := others.map fun x => o.compares .eq x
  if equalities.any Truth.isTrue then some true
  else if equalities.any Option.isNone then none
  else some false

/-! ## Clauses -/

def clauseTruth (s : Store) (now : Int) (scope : Scope) : Clause → Truth
  | .test t => testTruth now scope t
  | .among r l => amongTruth (operand scope r) (s.found now scope l)
  | .notAmong value l => (amongTruth (.literal (.text value)) (s.found now scope l)).not
  | .nothing l =>
    match s.found now scope l with
    | [] => some true
    | o :: _ => some o.value.isNull

def clausesHold (s : Store) (now : Int) (scope : Scope) (clauses : List Clause) : Bool :=
  clauses.all fun c => (s.clauseTruth now scope c).isTrue

end SheetExport.Store
