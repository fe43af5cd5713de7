import SheetExport.Registry
import SheetExport.Store.Resolution
import SheetExport.Text.Upper

/-! # The field catalog

The fields that an entity type offers: its fixed columns, the keys of its attributes and the
taxonomies of its tags. The keys are remembered until a newer attribute row appears.
-/

namespace SheetExport

open Store (Scope operand)
open Sql (Test Source Reference)

/-! ## Remembered keys -/

/-- Keys of one entity type, with the largest attribute row id at the time. -/
structure KnownKeys where
  entityTable : String
  subtype : Option String
  highWaterMark : Int
  keys : List String
  deriving DecidableEq

abbrev KeyCache : Type := List KnownKeys

namespace KeyCache

def isFor (t : EntityType) (k : KnownKeys) : Bool :=
  k.entityTable == t.entityTable && k.subtype == t.subtype

/-- The keys of an entity type, unless a row came after them. -/
def keys? (c : KeyCache) (t : EntityType) (mark : Int) : Option (List String) :=
  match c.find? (isFor t) with
  | some k => if mark ≤ k.highWaterMark then some k.keys else none
  | none => none

def remember (c : KeyCache) (t : EntityType) (mark : Int) (keys : List String) : KeyCache :=
  ⟨t.entityTable, t.subtype, mark, keys⟩ :: c.filter (! isFor t ·)

end KeyCache

/-! ## Catalogs -/

structure TagField where
  name : String
  label : String
  deriving DecidableEq

structure FieldCatalog where
  columns : List OfferedColumn
  keys : List String
  /-- Only entities that have tags. -/
  tags : Option (List TagField)
  deriving DecidableEq

namespace FieldCatalog

def toJson (c : FieldCatalog) : Json :=
  let column (f : OfferedColumn) : Json :=
    .object [("name", .string f.name), ("label", .string f.label)]
  let tag (f : TagField) : Json := .object [("name", .string f.name), ("label", .string f.label)]
  .object ([("defaultFields", .list (c.columns.map column)),
      ("customFields", .list (c.keys.map fun k => .object [("name", .string k)]))] ++
    (c.tags.map fun fs => ("tagFields", Json.list (fs.map tag))).toList)

end FieldCatalog

namespace Catalog

open Registry (orRejected)

/-! ## Inner joins -/

/-- Sources joined one after another, each with the tests on it. -/
abbrev JoinedSources : Type := List (Source × List Test)

def headers? (s : Store) (sources : JoinedSources) : Option (List Store.Header) :=
  s.headers? (sources.map Prod.fst)

/-- The tests of the catalogue do not look at the clock, so any time will do for them. -/
def anyTime : Int := 0

def scopes (s : Store) (sources : JoinedSources) : List Scope :=
  sources.foldl (fun found (source, tests) =>
    (s.joined source found).filter (Store.testsHold anyTime · tests)) [[]]

/-- The values of a column over joined sources, if every name is there. -/
def values? (s : Store) (sources : JoinedSources) (column : Reference) : Option (List Value) :=
  match headers? s sources with
  | none => none
  | some headers =>
    if Store.resolves headers column &&
        sources.all (fun (_, tests) => tests.all (Store.testResolves headers)) then
      some ((scopes s sources).map fun scope => (operand scope column).value)
    else none

/-- The distinct values in their order, null first. -/
def sorted (vs : List Value) : List Value :=
  (Store.distinct vs).mergeSort fun a b => !b.sortsBefore a

def textValue (v : Value) : Except JobFault String := orRejected v.readText?

/-! ## Attribute keys -/

def maximum (vs : List Value) : Value :=
  vs.foldl (fun m v => if m.sortsBefore v then v else m) .null

/-- The largest attribute row id, zero when there is no row. -/
def highWaterMark (s : Store) (t : EntityType) : Except JobFault Int := do
  let ids ← orRejected (values? s [(⟨t.attributeTable, none⟩, [])] (.bare t.attributeRowId))
  match maximum ids with
  | .null => return 0
  | .integer i => return i
  | _ => throw .rejected

def keyColumn : String := "meta_key"

/-- The attribute rows of an entity type. Only a subtype needs a look at the entities. -/
def attributeSources (t : EntityType) : JoinedSources × Reference :=
  match t.subtype with
  | none => ([(⟨t.attributeTable, none⟩, [])], .bare keyColumn)
  | some subtype =>
    ([(⟨t.attributeTable, some "m"⟩, []),
        (⟨t.entityTable, some "e"⟩,
          [.equal (.of "m" t.attributeEntityId) (.of "e" t.entityId),
            .isText (.of "e" subtypeColumn) subtype])],
      .of "m" keyColumn)

/-- The keys that the attribute rows hold now. -/
def scanKeys (s : Store) (t : EntityType) : Except JobFault (List String) := do
  let (sources, column) := attributeSources t
  let vs ← orRejected (values? s sources column)
  (sorted (vs.filter (!·.isNull))).mapM textValue

def keys (s : Store) (c : KeyCache) (t : EntityType) :
    Except JobFault (KeyCache × List String) := do
  let mark ← highWaterMark s t
  match c.keys? t mark with
  | some keys => return (c, keys)
  | none => do
    let keys ← scanKeys s t
    return (c.remember t mark keys, keys)

/-! ## Tags -/

/-- The name of a taxonomy for people: `post_tag` becomes `Post tag`. -/
def taxonomyLabel (name : String) : String :=
  Text.upperFirst
    (String.ofList (name.toList.map fun c => if c = '_' ∨ c = '-' then ' ' else c))

/-- The taxonomies of the tags that entities of the type have. -/
def tagFields (s : Store) (schema : Schema) (t : EntityType) :
    Except JobFault (List TagField) := do
  let tags := schema.tagTables
  let vs ← orRejected (values? s
    [(⟨tags.termTaxonomy, some "tt"⟩, []),
      (⟨tags.termRelationships, some "tr"⟩,
        [.equal (.of "tr" "term_taxonomy_id") (.of "tt" "term_taxonomy_id")]),
      (⟨t.entityTable, some "e"⟩,
        [.equal (.of "e" t.entityId) (.of "tr" "object_id"),
          .isText (.of "e" subtypeColumn) (t.subtype.getD "")])]
    (.of "tt" "taxonomy"))
  let names ← (sorted vs).mapM textValue
  return names.map fun name => ⟨name, taxonomyLabel name⟩

def fields (s : Store) (c : KeyCache) (schema : Schema) (typeName : String) :
    KeyCache × Except JobFault FieldCatalog :=
  let t := schema.entityType typeName
  match keys s c t with
  | .error fault => (c, .error fault)
  | .ok (c, keys) =>
    if t.supportsTags then
      (c, (tagFields s schema t).map fun tags => ⟨t.offeredColumns, keys, some tags⟩)
    else (c, .ok ⟨t.offeredColumns, keys, none⟩)

/-! ## Example values -/

/-- The most example values that are shown. -/
def exampleLimit : Nat := 4

def textOrNull (v : Value) : Value :=
  if v.isNull then .null
  else
    match v.text? with
    | some s => .text s
    | none => v

/-- The values that a filter on the field can be tried with. -/
def candidates (s : Store) (schema : Schema) (t : EntityType) (f : Field) :
    Option (List Value) :=
  match f.kind with
  | .fixed =>
    let column := Reference.of t.entityTable f.name
    let subtype := t.subtype.map fun name => Test.isText (.of t.entityTable subtypeColumn) name
    (values? s [(⟨t.entityTable, none⟩, .holds column .notEmpty :: subtype.toList)] column).map
      fun vs => Store.distinct (vs.map textOrNull)
  | .custom =>
    (values? s
      [(⟨t.attributeTable, none⟩,
        [.isText (.bare keyColumn) f.name, .holds (.bare "meta_value") .notEmpty])]
      (.bare "meta_value")).map Store.distinct
  | .tag =>
    let tags := schema.tagTables
    (values? s
      [(⟨tags.terms, some "t"⟩, [.holds (.of "t" "name") (.compares .ne "")]),
        (⟨tags.termTaxonomy, some "tt"⟩,
          [.equal (.of "tt" "term_id") (.of "t" "term_id"),
            .isText (.of "tt" "taxonomy") f.name])]
      (.of "t" "name")).map Store.distinct

/-- A few of the candidates. -/
def examples (s : Store) (schema : Schema) (typeName rawField : String) :
    Except JobFault (List String) := do
  let f ← (Field.parse rawField "").mapError JobFault.request
  let vs ← orRejected (candidates s schema (schema.entityType typeName) f)
  (vs.take exampleLimit).mapM textValue

end Catalog

end SheetExport
