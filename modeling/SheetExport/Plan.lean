import SheetExport.EntityType
import SheetExport.Sql.Statement
import SheetExport.Fault

/-! # Export plans

A plan turns a list of fields and a list of filters into statements: a table for the ids, the ids
of the entities that pass every filter, the projection of those entities, and a clean-up. A status
stands before each of them.
-/

namespace SheetExport

open Sql

/-! ## The tables of a job -/

structure JobTables where
  scratch : String
  result : String
  deriving DecidableEq

/-- How many hexadecimal digits tell the tables of one job from those of another. -/
def JobTables.suffixLength : Nat := 7

def JobTables.ofSuffix (schema : Schema) (suffix : String) : JobTables :=
  ⟨schema.table ("csvexport_scratch_" ++ suffix), schema.table ("csvexport_results_" ++ suffix)⟩

/-! ## Filters -/

/-- How a filter takes part in the selection of entities. -/
inductive Fragment where
  | join (j : Join)
  | clause (c : Clause)
  deriving DecidableEq

namespace Fragment

def render : Fragment → String
  | join j => j.render
  | clause c => c.render

def join? : Fragment → Option Join
  | join j => some j
  | clause _ => none

def clause? : Fragment → Option Clause
  | join _ => none
  | clause c => some c

end Fragment

/-- A name made distinct by the place of a filter or field in its list. -/
def numbered (stem : String) (index : Nat) : String := stem ++ toString index

namespace EntityType

def idColumn (t : EntityType) : Reference := .of t.entityTable t.entityId

/-- A filter on a fixed column is a condition on the entity itself. -/
def columnClause (t : EntityType) (f : Filter) : Clause :=
  .test (.holds (.of t.entityTable f.field.name) (Condition.ofFilter f))

/-- A filter on an attribute asks for some attribute row of the entity that meets it. -/
def attributeJoin (t : EntityType) (index : Nat) (f : Filter) : Join :=
  let m := numbered "m" index
  { source := ⟨t.attributeTable, some m⟩
    clauses :=
      [.test (.equal (.of m t.attributeEntityId) t.idColumn),
        .test (.isText (.of m "meta_key") f.field.name),
        .test (.holds (.of m "meta_value") (Condition.ofFilter f))] }

/-- The taxonomy rows of a taxonomy, all of them or those whose term has a given name. -/
def taxonomyLookup (tags : TagTables) (index : Nat) (taxonomy : String) (term : Option String) :
    Lookup :=
  let tt := numbered "tt" index
  let trm := numbered "trm" index
  { column := .of tt "term_taxonomy_id"
    source := ⟨tags.termTaxonomy, some tt⟩
    links := [⟨⟨tags.terms, some trm⟩, [.equal (.of trm "term_id") (.of tt "term_id")]⟩]
    tests := .isText (.of tt "taxonomy") taxonomy ::
      (term.map fun v => Test.isText (.of trm "name") v).toList }

/-- Asks for some tag of the entity in the taxonomy. -/
def tagJoin (t : EntityType) (tags : TagTables) (index : Nat) (taxonomy : String)
    (term : Option String) : Join :=
  let tj := numbered "tj" index
  { source := ⟨tags.termRelationships, some tj⟩
    clauses :=
      [.test (.equal (.of tj "object_id") t.idColumn),
        .among (.of tj "term_taxonomy_id") (taxonomyLookup tags index taxonomy term)] }

/-- The names of the tags that the entity has in the taxonomy. -/
def tagNames (t : EntityType) (tags : TagTables) (index : Nat) (taxonomy : String) : Lookup :=
  let tr := numbered "tr" index
  let tw := numbered "tw" index
  let trm := numbered "trm" index
  { column := .of trm "name"
    source := ⟨tags.termRelationships, some tr⟩
    links :=
      [⟨⟨tags.termTaxonomy, some tw⟩,
          [.equal (.of tw "term_taxonomy_id") (.of tr "term_taxonomy_id"),
            .isText (.of tw "taxonomy") taxonomy]⟩,
        ⟨⟨tags.terms, some trm⟩, [.equal (.of trm "term_id") (.of tw "term_id")]⟩]
    tests := [.equal (.of tr "object_id") t.idColumn] }

/-- The place of a filter in its list keeps the names of its tables apart. Tags have no order, so
the ordering rules do not apply to them. -/
def fragment (t : EntityType) (tags : TagTables) (index : Nat) (f : Filter) :
    Except JobFault Fragment :=
  match f.field.kind with
  | .fixed => .ok (.clause (t.columnClause f))
  | .custom => .ok (.join (t.attributeJoin index f))
  | .tag =>
    match f.rule with
    | .contains => .ok (.join (t.tagJoin tags index f.field.name (some f.operand)))
    | .notEmpty => .ok (.join (t.tagJoin tags index f.field.name none))
    | .notContains => .ok (.clause (.notAmong f.operand (t.tagNames tags index f.field.name)))
    | .empty => .ok (.clause (.nothing (t.tagNames tags index f.field.name)))
    | .compare _ => .error (.unsupportedRule f.field.key f.rule.text)

/-- The filters from a place in the list on, each with its fragment. -/
def fragmentsFrom (t : EntityType) (tags : TagTables) :
    Nat → List Filter → Except JobFault (List (FieldKind × Fragment))
  | _, [] => .ok []
  | index, f :: rest => do
    let part ← t.fragment tags index f
    let parts ← t.fragmentsFrom tags (index + 1) rest
    return (f.field.kind, part) :: parts

def joinsOf (tagged : Bool) (parts : List (FieldKind × Fragment)) : List Join :=
  parts.filterMap fun (kind, part) => if (kind = .tag) = tagged then part.join? else none

def clausesOf (tagged : Bool) (parts : List (FieldKind × Fragment)) : List Clause :=
  parts.filterMap fun (kind, part) => if (kind = .tag) = tagged then part.clause? else none

def subtypeClause (t : EntityType) : List Clause :=
  (t.subtype.map fun s => Clause.test (.isText (.of t.entityTable subtypeColumn) s)).toList

/-- Attributes come before tags, and the subtype comes last. -/
def selection (t : EntityType) (parts : List (FieldKind × Fragment)) : Selection :=
  { column := t.idColumn
    source := ⟨t.entityTable, none⟩
    joins := joinsOf false parts ++ joinsOf true parts
    clauses := clausesOf false parts ++ clausesOf true parts ++ t.subtypeClause }

/-! ## Fields -/

/-- Stands between the values of one attribute. -/
def attributeSeparator : String := "; "

/-- Stands between the names of tags. -/
def tagSeparator : String := ", "

def scratchIds (tables : JobTables) : Lookup :=
  { column := .bare "id", source := ⟨tables.scratch, none⟩, links := [], tests := [] }

def attributeSupplement (t : EntityType) (tables : JobTables) (index : Nat) (key : String) :
    Supplement :=
  let m := numbered "m" index
  { gathering :=
      { key := .bare t.attributeEntityId
        keyLabel := none
        gathered := .bare "meta_value"
        separator := attributeSeparator
        gatheredLabel := "meta_values"
        source := ⟨t.attributeTable, none⟩
        links := []
        clauses :=
          [.test (.isText (.bare "meta_key") key),
            .among (.bare t.attributeEntityId) (scratchIds tables)] }
    label := m
    test := .equal t.idColumn (.of m t.attributeEntityId) }

def tagSupplement (t : EntityType) (tags : TagTables) (tables : JobTables) (index : Nat)
    (taxonomy : String) : Supplement :=
  let tr := numbered "tr" index
  let tx := numbered "tx" index
  let trm := numbered "trm" index
  { gathering :=
      { key := .of tr "object_id"
        keyLabel := some "object_id"
        gathered := .of trm "name"
        separator := tagSeparator
        gatheredLabel := "name"
        source := ⟨tags.termRelationships, some tr⟩
        links :=
          [⟨⟨tags.termTaxonomy, some tx⟩,
              [.equal (.of tx "term_taxonomy_id") (.of tr "term_taxonomy_id"),
                .isText (.of tx "taxonomy") taxonomy]⟩,
            ⟨⟨tags.terms, some trm⟩, [.equal (.of trm "term_id") (.of tx "term_id")]⟩]
        clauses := [.among (.of tr "object_id") (scratchIds tables)] }
    label := numbered "t" index
    test := .equal (.of (numbered "t" index) "object_id") t.idColumn }

def supplement? (t : EntityType) (tags : TagTables) (tables : JobTables) (index : Nat)
    (f : Field) : Option Supplement :=
  match f.kind with
  | .fixed => none
  | .custom => some (t.attributeSupplement tables index f.name)
  | .tag => some (t.tagSupplement tags tables index f.name)

def outputColumn (t : EntityType) (index : Nat) (f : Field) : Reference :=
  match f.kind with
  | .fixed => .of t.entityTable f.name
  | .custom => .of (numbered "m" index) "meta_values"
  | .tag => .of (numbered "t" index) "name"

def projection (t : EntityType) (tags : TagTables) (tables : JobTables) (fields : List Field) :
    Projection :=
  { outputs := fields.zipIdx.map fun (f, i) => ⟨t.outputColumn i f, f.label⟩
    source := ⟨t.entityTable, none⟩
    supplements := fields.zipIdx.filterMap fun (f, i) => t.supplement? tags tables i f
    clauses := [.among t.idColumn (scratchIds tables)] }

end EntityType

/-! ## Plans -/

inductive Step where
  | reach (status : Status)
  | run (statement : Statement)
  deriving DecidableEq

structure Plan where
  entityType : EntityType
  tables : JobTables
  steps : List Step
  deriving DecidableEq

namespace Plan

def ofSelection (t : EntityType) (tables : JobTables) (s : Selection) (p : Projection) : Plan :=
  { entityType := t
    tables := tables
    steps :=
      [.reach .preparingScratch, .run (.createIds tables.scratch),
        .reach .filteringEntities, .run (.insertIds tables.scratch s),
        .reach .compilingResults, .run (.createResult tables.result p),
        .reach .cleaningUp, .run (.dropTable tables.scratch),
        .reach .done] }

def compile (schema : Schema) (typeName : String) (fields : List Field) (filters : List Filter)
    (tables : JobTables) : Except JobFault Plan :=
  if fields.isEmpty then .error (.request (.required "fields"))
  else do
    let t := schema.entityType typeName
    let parts ← t.fragmentsFrom schema.tagTables 0 filters
    return ofSelection t tables (t.selection parts) (t.projection schema.tagTables tables fields)

/-- The statements without the statuses. -/
def dataStatements (p : Plan) : List Statement :=
  p.steps.filterMap fun
    | .run statement => some statement
    | .reach _ => none

/-- Each status becomes an update of the job's own record. -/
def statements (p : Plan) (job : Uuid) : List Statement :=
  p.steps.map fun
    | .run statement => statement
    | .reach status => .setStatus job status

end Plan

end SheetExport
