import SheetExport.Proofs.PlanTexts
import SheetExport.Proofs.Tokens

/-!
# What the statements of a plan hold

The quoted names, the quoted texts and the numbers of the statements are listed here from the
request itself, in the order in which they stand: columns, keys, taxonomies, labels, values between
their wildcards, and the tables of the site and of the job. Nothing else is held, and nothing is
held twice over or cut short.
-/

namespace SheetExport

namespace Sql

/-! ## Tokens that hold something -/

def Token.isFilled : Token → Bool
  | name _ | text _ | number _ => true
  | _ => false

def payloads (ts : List Token) : List Token := ts.filter Token.isFilled

/-- A column under the name of its table. -/
def column (table column : String) : List Token := [.name table, .name column]

@[simp] theorem payloads_append (a b : List Token) :
    payloads (a ++ b) = payloads a ++ payloads b := List.filter_append ..

@[simp] theorem payloads_nil : payloads [] = [] := rfl

@[simp] theorem payloads_name (v : String) (ts : List Token) :
    payloads (.name v :: ts) = .name v :: payloads ts := rfl

@[simp] theorem payloads_text (v : String) (ts : List Token) :
    payloads (.text v :: ts) = .text v :: payloads ts := rfl

@[simp] theorem payloads_number (v : String) (ts : List Token) :
    payloads (.number v :: ts) = .number v :: payloads ts := rfl

@[simp] theorem payloads_of (t c : String) : payloads (Reference.of t c).tokens = column t c := rfl

@[simp] theorem payloads_source (t : String) : payloads (Source.mk t none).tokens = [.name t] := rfl

@[simp] theorem payloads_source_shortName (t n : String) :
    payloads (Source.mk t (some n)).tokens = [.name t, .name n] := rfl

@[simp] theorem payloads_equal (a b : Reference) :
    payloads (Test.equal a b).tokens = payloads a.tokens ++ payloads b.tokens := by
  have heq : payloads (lex " = ") = [] := by decide
  simp [Test.tokens, heq]

/-- A fixed text that holds nothing. -/
def Hollow (s : String) : Prop := payloads (lex s) = []

instance (s : String) : Decidable (Hollow s) := inferInstanceAs (Decidable (_ = _))

theorem payloads_joined {s : String} (hs : Hollow s) (parts : List (List Token)) :
    payloads (joinedTokens s parts) = parts.flatMap payloads := by
  unfold joinedTokens
  induction parts with
  | nil => rfl
  | cons p rest ih =>
    cases rest with
    | nil => simp
    | cons q rest =>
      have hsep : payloads (lex s) = [] := hs
      rw [List.intercalate_cons_cons, payloads_append, payloads_append, hsep, ih, List.append_nil]
      exact List.flatMap_cons.symm

theorem payloads_each {α : Type} {s : String} (hs : Hollow s) (f : α → List Token)
    (xs : List α) :
    payloads (xs.flatMap fun x => lex s ++ f x) = xs.flatMap fun x => payloads (f x) := by
  have hsep : payloads (lex s) = [] := hs
  induction xs with
  | nil => rfl
  | cons x xs ih => rw [List.flatMap_cons, payloads_append, payloads_append, hsep, ih]; rfl

theorem payloads_whereTokens (clauses : List Clause) :
    payloads (whereTokens clauses) = clauses.flatMap fun c => payloads c.tokens := by
  unfold whereTokens
  cases clauses with
  | nil => rfl
  | cons c rest =>
    have hwhere : payloads (lex "\nWHERE ") = [] := by decide
    rw [if_neg (by simp), payloads_append, hwhere, payloads_joined (by decide), List.nil_append,
      List.flatMap_map]

theorem payloads_join (j : Join) :
    payloads j.tokens =
      payloads j.source.tokens ++ j.clauses.flatMap fun c => payloads c.tokens := by
  have hjoin : payloads (lex "INNER JOIN ") = [] := by decide
  have hon : payloads (lex " ON (\n    ") = [] := by decide
  have hclose : payloads (lex "\n)") = [] := by decide
  unfold Join.tokens
  rw [payloads_append, payloads_append, payloads_append, payloads_append, hjoin, hon, hclose,
    payloads_joined (by decide), List.nil_append, List.append_nil, List.append_nil,
    List.flatMap_map]

theorem payloads_selection (q : Selection) :
    payloads q.tokens = payloads q.column.tokens ++ payloads q.source.tokens ++
      (q.joins.flatMap fun j => payloads j.tokens) ++
      q.clauses.flatMap fun c => payloads c.tokens := by
  have hselect : payloads (lex "SELECT DISTINCT ") = [] := by decide
  have hfrom : payloads (lex " FROM ") = [] := by decide
  have hline : Hollow "\n" := by decide
  unfold Selection.tokens
  rw [payloads_append, payloads_append, payloads_append, payloads_append, payloads_append, hselect,
    hfrom, payloads_each hline, payloads_whereTokens, List.nil_append, List.append_nil]

theorem payloads_gathering (g : Gathering) :
    payloads g.tokens =
      payloads g.key.tokens ++ (g.keyLabel.toList.map Token.name) ++ payloads g.gathered.tokens ++
        [.text g.separator, .name g.gatheredLabel] ++ payloads g.source.tokens ++
        (g.links.flatMap fun k => payloads k.tokens) ++
        (g.clauses.flatMap fun c => payloads c.tokens) ++ payloads g.key.tokens := by
  have hselect : payloads (lex "\n    SELECT ") = [] := by decide
  have has : payloads (lex " AS ") = [] := by decide
  have hconcat : payloads (lex ", group_concat(") = [] := by decide
  have hcomma : payloads (lex ", ") = [] := by decide
  have hlabel : payloads (lex ") AS ") = [] := by decide
  have hfrom : payloads (lex " FROM ") = [] := by decide
  have hline : Hollow "\n    " := by decide
  have hwhere : payloads (lex "\n    WHERE ") = [] := by decide
  have hand : Hollow " AND " := by decide
  have hgroup : payloads (lex "\n    GROUP BY ") = [] := by decide
  have hend : payloads (lex "\n") = [] := by decide
  unfold Gathering.tokens
  simp only [payloads_append, payloads_name, payloads_text, payloads_each hline, payloads_joined
    hand, hselect, hconcat, hcomma, hlabel, hfrom, hwhere, hgroup, hend, List.flatMap_map,
    List.append_nil, List.nil_append, List.append_assoc, List.cons_append]
  cases g.keyLabel with
  | none => rfl
  | some label => simp [has]

theorem payloads_supplement (k : Supplement) :
    payloads k.tokens = payloads k.gathering.tokens ++ [.name k.label] ++
      payloads k.test.tokens := by
  have hjoin : payloads (lex "LEFT JOIN (") = [] := by decide
  have hclose : payloads (lex ") ") = [] := by decide
  have hon : payloads (lex " ON ") = [] := by decide
  unfold Supplement.tokens
  simp [hjoin, hclose, hon]

theorem payloads_projection (p : Projection) :
    payloads p.tokens = (p.outputs.flatMap fun o => payloads o.tokens) ++
      payloads p.source.tokens ++ (p.supplements.flatMap fun k => payloads k.tokens) ++
      p.clauses.flatMap fun c => payloads c.tokens := by
  have hselect : payloads (lex "SELECT ") = [] := by decide
  have hfrom : payloads (lex " FROM ") = [] := by decide
  have hcomma : Hollow ", " := by decide
  have hline : Hollow "\n" := by decide
  unfold Projection.tokens
  rw [payloads_append, payloads_append, payloads_append, payloads_append, payloads_append, hselect,
    hfrom, payloads_joined hcomma, payloads_each hline, payloads_whereTokens, List.nil_append,
    List.append_nil, List.flatMap_map]

end Sql

open Sql (Token Statement payloads column)

def Fragment.tokens : Fragment → List Token
  | join j => j.tokens
  | clause c => c.tokens

/-! ## Filters -/

/-- What a condition on an operand holds. A value stands there as it is, between two wildcards, or
as the number that begins it, and what is asked to be empty is compared with the empty text. -/
def Filter.conditionPayloads (f : Filter) (operand : List Token) : List Token :=
  match f.rule, f.cast with
  | .contains, _ | .notContains, _ => operand ++ [.text ("%" ++ f.value.getD "" ++ "%")]
  | .empty, _ | .notEmpty, _ => operand ++ [.text ""] ++ operand
  | .compare _, some .number =>
    operand ++ [.number (Binary64.ofFilterValue (f.value.getD "")).literal]
  | .compare _, _ => operand ++ [.text (f.value.getD "")]

theorem Filter.payloads_condition (f : Filter) (operand : List Token) :
    payloads ((Sql.Condition.ofFilter f).tokens operand) =
      f.conditionPayloads (payloads operand) := by
  unfold Sql.Condition.ofFilter Sql.Condition.ofRule Filter.operand Filter.conditionPayloads
  have hlike : payloads (Sql.lex " LIKE ") = [] := by decide
  have hnot : payloads (Sql.lex " NOT LIKE ") = [] := by decide
  cases f.rule with
  | contains => simp [Sql.Condition.tokens, Sql.Condition.containing, hlike]
  | notContains => simp [Sql.Condition.tokens, Sql.Condition.containing, hnot]
  | empty =>
    have hopen : payloads (Sql.lex "(") = [] := by decide
    have hor : payloads (Sql.lex " = '' OR ") = [.text ""] := by decide
    have hnull : payloads (Sql.lex " IS NULL)") = [] := by decide
    simp [Sql.Condition.tokens, hopen, hor, hnull]
  | notEmpty =>
    have hopen : payloads (Sql.lex "(") = [] := by decide
    have hand : payloads (Sql.lex " <> '' AND ") = [.text ""] := by decide
    have hnull : payloads (Sql.lex " IS NOT NULL)") = [] := by decide
    simp [Sql.Condition.tokens, hopen, hand, hnull]
  | compare c =>
    have hplain : payloads (Sql.lex (" " ++ c.symbol ++ " ")) = [] := by cases c <;> decide
    cases f.cast with
    | none => simp [Sql.Condition.tokens, hplain]
    | some cast =>
      cases cast with
      | alpha => simp [Sql.Condition.tokens, hplain]
      | date =>
        have hopen : payloads (Sql.lex "datetime(") = [] := by decide
        have hmid : payloads (Sql.lex (") " ++ c.symbol ++ " datetime(")) = [] := by
          cases c <;> decide
        have hclose : payloads (Sql.lex ")") = [] := by decide
        simp [Sql.Condition.tokens, hopen, hmid, hclose]
      | number =>
        have hopen : payloads (Sql.lex "CAST(") = [] := by decide
        have hmid : payloads (Sql.lex (" AS DOUBLE) " ++ c.symbol ++ " ")) = [] := by
          cases c <;> decide
        simp [Sql.Condition.tokens, hopen, hmid]

namespace EntityType

variable (t : EntityType) (tags : TagTables)

def attributePayloads (i : Nat) (f : Filter) : List Token :=
  let m := "m" ++ toString i
  [.name t.attributeTable, .name m] ++
    column m t.attributeEntityId ++ column t.entityTable t.entityId ++
    column m "meta_key" ++ [.text f.field.name] ++
    f.conditionPayloads (column m "meta_value")

/-- An entity is related to a row of the taxonomy, whose term may be asked to have a name. -/
def relationPayloads (i : Nat) (taxonomy : String) (term : Option String) : List Token :=
  let tj := "tj" ++ toString i
  let tt := "tt" ++ toString i
  let trm := "trm" ++ toString i
  [.name tags.termRelationships, .name tj] ++
    column tj "object_id" ++ column t.entityTable t.entityId ++
    column tj "term_taxonomy_id" ++ column tt "term_taxonomy_id" ++
    [.name tags.termTaxonomy, .name tt] ++
    [.name tags.terms, .name trm] ++ column trm "term_id" ++ column tt "term_id" ++
    column tt "taxonomy" ++ [.text taxonomy] ++
    match term with
    | some v => column trm "name" ++ [.text v]
    | none => []

/-- The names of the terms in the taxonomy that an entity is related to. -/
def termNamesPayloads (i : Nat) (taxonomy : String) : List Token :=
  let tr := "tr" ++ toString i
  let tw := "tw" ++ toString i
  let trm := "trm" ++ toString i
  column trm "name" ++ [.name tags.termRelationships, .name tr] ++
    [.name tags.termTaxonomy, .name tw] ++
    column tw "term_taxonomy_id" ++ column tr "term_taxonomy_id" ++
    column tw "taxonomy" ++ [.text taxonomy] ++
    [.name tags.terms, .name trm] ++ column trm "term_id" ++ column tw "term_id" ++
    column tr "object_id" ++ column t.entityTable t.entityId

/-- What is held for a filter at its place in the request. -/
def filterPayloads (i : Nat) (f : Filter) : List Token :=
  match f.field.kind with
  | .fixed => f.conditionPayloads (column t.entityTable f.field.name)
  | .custom => t.attributePayloads i f
  | .tag =>
    match f.rule with
    | .contains => t.relationPayloads tags i f.field.name (some (f.value.getD ""))
    | .notEmpty => t.relationPayloads tags i f.field.name none
    | .notContains => .text (f.value.getD "") :: t.termNamesPayloads tags i f.field.name
    | .empty => t.termNamesPayloads tags i f.field.name ++ [.number "1"]
    | .compare _ => []

variable {t tags}

theorem payloads_attributeJoin (i : Nat) (f : Filter) :
    payloads (t.attributeJoin i f).tokens = t.attributePayloads i f := by
  have held : payloads (Sql.Clause.test (.holds (.of (numbered "m" i) "meta_value")
      (Sql.Condition.ofFilter f))).tokens =
        f.conditionPayloads (column ("m" ++ toString i) "meta_value") := f.payloads_condition _
  rw [Sql.payloads_join]
  simp only [attributeJoin, List.flatMap_cons, List.flatMap_nil, held, List.append_nil]
  rfl

theorem payloads_tagJoin (i : Nat) (taxonomy : String) (term : Option String) :
    payloads (t.tagJoin tags i taxonomy term).tokens = t.relationPayloads tags i taxonomy term := by
  cases term <;> rfl

theorem payloads_fragment {i : Nat} {f : Filter} {p : Fragment} (h : t.fragment tags i f = .ok p) :
    payloads p.tokens = t.filterPayloads tags i f := by
  unfold fragment at h
  cases hk : f.field.kind with
  | fixed =>
    simp only [hk, Except.ok.injEq] at h
    simp only [filterPayloads, hk, ← h]
    exact f.payloads_condition _
  | custom =>
    simp only [hk, Except.ok.injEq] at h
    simp only [filterPayloads, hk, ← h]
    exact payloads_attributeJoin i f
  | tag =>
    simp only [hk] at h
    cases hr : f.rule with
    | compare c => simp [hr] at h
    | contains =>
      simp only [hr, Except.ok.injEq] at h
      simp only [filterPayloads, hk, hr, ← h]
      exact payloads_tagJoin i _ _
    | notEmpty =>
      simp only [hr, Except.ok.injEq] at h
      simp only [filterPayloads, hk, hr, ← h]
      exact payloads_tagJoin i _ _
    | notContains =>
      simp only [hr, Except.ok.injEq] at h
      simp only [filterPayloads, hk, hr, ← h]
      rfl
    | empty =>
      simp only [hr, Except.ok.injEq] at h
      simp only [filterPayloads, hk, hr, ← h]
      rfl

/-! ## The selection of ids -/

/-- Filters on attributes come first, then those that ask for a tag, those on columns and those
that ask for no tag. The subtype comes last. -/
def selectionPayloads (t : EntityType) (tags : TagTables) (typeName : String)
    (filters : List Filter) : List Token :=
  column t.entityTable t.entityId ++ [.name t.entityTable] ++
    ((Filter.placed Filter.isCustom filters ++ Filter.placed Filter.isTagJoin filters ++
      Filter.placed Filter.isColumn filters ++ Filter.placed Filter.isTagClause filters).flatMap
        fun x => t.filterPayloads tags x.2 x.1) ++
    if t.kind = .postLike then column t.entityTable "post_type" ++ [.text typeName] else []

theorem payloads_of_parts {α : Type} {as : List α} {embed : α → Fragment}
    {xs : List (Filter × Nat)}
    (h : as.map (fun a => .ok (embed a)) = xs.map fun x => t.fragment tags x.2 x.1) :
    (as.flatMap fun a => payloads (embed a).tokens) =
      xs.flatMap fun x => t.filterPayloads tags x.2 x.1 := by
  induction xs generalizing as with
  | nil =>
    obtain rfl := List.map_eq_nil_iff.1 h
    rfl
  | cons x xs ih =>
    obtain ⟨a, as, rfl, ha, hrest⟩ := List.map_eq_cons_iff.1 h
    rw [List.flatMap_cons, List.flatMap_cons, payloads_fragment ha.symm, ih hrest]

theorem payloads_subtypeClause (schema : Schema) (typeName : String) :
    ((schema.entityType typeName).subtypeClause.flatMap fun c => payloads c.tokens) =
      if (schema.entityType typeName).kind = .postLike then
        column (schema.entityType typeName).entityTable "post_type" ++ [.text typeName]
      else [] := by
  unfold subtypeClause
  rw [subtype_entityType]
  split <;> rfl

theorem payloads_selection {schema : Schema} {typeName : String} {filters : List Filter}
    {parts : List (FieldKind × Fragment)}
    (h : (schema.entityType typeName).fragmentsFrom tags 0 filters = .ok parts) :
    payloads ((schema.entityType typeName).selection parts).tokens =
      (schema.entityType typeName).selectionPayloads tags typeName filters := by
  have customJoins := payloads_of_parts (parts_customJoins h)
  have tagJoins := payloads_of_parts (parts_tagJoins h)
  have columnClauses := payloads_of_parts (parts_columnClauses h)
  have tagClauses := payloads_of_parts (parts_tagClauses h)
  rw [Sql.payloads_selection]
  unfold selectionPayloads selection
  simp only [Fragment.tokens] at customJoins tagJoins columnClauses tagClauses
  simp only [List.flatMap_append, customJoins, tagJoins, columnClauses, tagClauses,
    payloads_subtypeClause, List.append_assoc]
  rfl

/-! ## The projection of results -/

/-- A field's column under the label of the field, or under its name if the label is empty. -/
def outputPayloads (t : EntityType) (i : Nat) (f : Field) : List Token :=
  (match f.kind with
    | .fixed => column t.entityTable f.name
    | .custom => column ("m" ++ toString i) "meta_values"
    | .tag => column ("t" ++ toString i) "name") ++
  [.name (if f.csvLabel = "" then f.name else f.csvLabel)]

/-- What brings the values of an attribute key or the tags of a taxonomy. -/
def gatheredPayloads (t : EntityType) (tags : TagTables) (tables : JobTables) (i : Nat)
    (f : Field) : List Token :=
  let m := "m" ++ toString i
  let tr := "tr" ++ toString i
  let tx := "tx" ++ toString i
  let trm := "trm" ++ toString i
  let ti := "t" ++ toString i
  match f.kind with
  | .fixed => []
  | .custom =>
    [.name t.attributeEntityId, .name "meta_value", .text "; ", .name "meta_values",
      .name t.attributeTable, .name "meta_key", .text f.name] ++
      [.name t.attributeEntityId, .name "id", .name tables.scratch] ++
      [.name t.attributeEntityId] ++
      [.name m] ++ column t.entityTable t.entityId ++ column m t.attributeEntityId
  | .tag =>
    column tr "object_id" ++ [.name "object_id"] ++
      column trm "name" ++ [.text ", ", .name "name"] ++
      [.name tags.termRelationships, .name tr] ++
      [.name tags.termTaxonomy, .name tx] ++
      column tx "term_taxonomy_id" ++ column tr "term_taxonomy_id" ++
      column tx "taxonomy" ++ [.text f.name] ++
      [.name tags.terms, .name trm] ++ column trm "term_id" ++ column tx "term_id" ++
      column tr "object_id" ++ [.name "id", .name tables.scratch] ++
      column tr "object_id" ++
      [.name ti] ++ column ti "object_id" ++ column t.entityTable t.entityId

def projectionPayloads (t : EntityType) (tags : TagTables) (tables : JobTables)
    (fields : List Field) : List Token :=
  (fields.zipIdx.flatMap fun x => t.outputPayloads x.2 x.1) ++ [.name t.entityTable] ++
    (fields.zipIdx.flatMap fun x => t.gatheredPayloads tags tables x.2 x.1) ++
    column t.entityTable t.entityId ++ [.name "id", .name tables.scratch]

variable {tables : JobTables}

theorem payloads_output (i : Nat) (f : Field) :
    payloads (Sql.Output.mk (t.outputColumn i f) f.label).tokens = t.outputPayloads i f := by
  unfold outputColumn outputPayloads Field.label
  cases f.kind <;> rfl

theorem payloads_tagLinks (i : Nat) (taxonomy : String) :
    ((t.tagSupplement tags tables i taxonomy).gathering.links.flatMap fun k => payloads k.tokens) =
      [.name tags.termTaxonomy, .name ("tx" ++ toString i)] ++
        column ("tx" ++ toString i) "term_taxonomy_id" ++
        column ("tr" ++ toString i) "term_taxonomy_id" ++
        column ("tx" ++ toString i) "taxonomy" ++ [.text taxonomy] ++
        [.name tags.terms, .name ("trm" ++ toString i)] ++
        column ("trm" ++ toString i) "term_id" ++ column ("tx" ++ toString i) "term_id" := rfl

theorem payloads_scratchClause (r : Sql.Reference) :
    payloads (Sql.Clause.among r (scratchIds tables)).tokens =
      payloads r.tokens ++ [.name "id", .name tables.scratch] := by
  have hin : payloads (Sql.lex " IN (") = [] := by decide
  have hclose : payloads (Sql.lex ")") = [] := by decide
  have hids : payloads (scratchIds tables).tokens = [.name "id", .name tables.scratch] := rfl
  simp [Sql.Clause.tokens, hin, hclose, hids]

theorem payloads_supplement {i : Nat} {f : Field} {k : Sql.Supplement}
    (h : t.supplement? tags tables i f = some k) :
    payloads k.tokens = t.gatheredPayloads tags tables i f := by
  unfold supplement? at h
  unfold gatheredPayloads
  cases hk : f.kind with
  | fixed => simp [hk] at h
  | custom =>
    simp only [hk, Option.some.injEq] at h
    rw [← h, Sql.payloads_supplement, Sql.payloads_gathering]
    rfl
  | tag =>
    simp only [hk, Option.some.injEq] at h
    rw [← h, Sql.payloads_supplement, Sql.payloads_gathering, payloads_tagLinks]
    simp [tagSupplement, payloads_scratchClause, tagSeparator, numbered, idColumn]

theorem gatheredPayloads_of_none {i : Nat} {f : Field}
    (h : t.supplement? tags tables i f = none) : t.gatheredPayloads tags tables i f = [] := by
  unfold supplement? at h
  unfold gatheredPayloads
  cases hk : f.kind <;> simp_all

theorem payloads_projection (fields : List Field) :
    payloads (t.projection tags tables fields).tokens =
      t.projectionPayloads tags tables fields := by
  have supplements (xs : List (Field × Nat)) :
      ((xs.filterMap fun x => t.supplement? tags tables x.2 x.1).flatMap fun k =>
        payloads k.tokens) = xs.flatMap fun x => t.gatheredPayloads tags tables x.2 x.1 := by
    induction xs with
    | nil => rfl
    | cons x xs ih =>
      rw [List.filterMap_cons, List.flatMap_cons]
      cases hk : t.supplement? tags tables x.2 x.1 with
      | none =>
        rw [gatheredPayloads_of_none hk, List.nil_append]
        exact ih
      | some k =>
        rw [← payloads_supplement hk, ← ih]
        rfl
  rw [Sql.payloads_projection]
  unfold projection projectionPayloads
  simp only [List.flatMap_map, payloads_output, supplements]
  simp [payloads_scratchClause, idColumn]

end EntityType

/-! ## Statements -/

/-- What the statements of a plan hold, one after another. -/
def EntityType.statementPayloads (t : EntityType) (tags : TagTables) (typeName : String)
    (tables : JobTables) (fields : List Field) (filters : List Filter) (job : Uuid) :
    List (List Token) :=
  let reach (status : Status) : List Token :=
    [.name "export_jobs", .name "status_step", .text status.text, .name "id", .text job.text]
  [reach .preparingScratch, [.name tables.scratch, .name "id"],
    reach .filteringEntities,
    [.name tables.scratch, .name "id"] ++ t.selectionPayloads tags typeName filters,
    reach .compilingResults,
    [.name tables.result] ++ t.projectionPayloads tags tables fields,
    reach .cleaningUp, [.name tables.scratch], reach .done]

theorem Plan.payloads_statements {schema : Schema} {typeName : String} {fields : List Field}
    {filters : List Filter} {tables : JobTables} {plan : Plan}
    (hc : compile schema typeName fields filters tables = .ok plan) (job : Uuid) :
    ((plan.statements job).map fun st => payloads st.tokens) =
      (schema.entityType typeName).statementPayloads schema.tagTables typeName tables fields filters
        job := by
  obtain ⟨-, parts, hp, rfl⟩ := compile_eq_ok.1 hc
  have insert : payloads (Statement.insertIds tables.scratch
      ((schema.entityType typeName).selection parts)).tokens =
        [.name tables.scratch, .name "id"] ++
          (schema.entityType typeName).selectionPayloads schema.tagTables typeName filters := by
    rw [← EntityType.payloads_selection hp]
    exact Sql.payloads_append _ _
  have create : payloads (Statement.createResult tables.result
      ((schema.entityType typeName).projection schema.tagTables tables fields)).tokens =
        [.name tables.result] ++
          (schema.entityType typeName).projectionPayloads schema.tagTables tables fields := by
    rw [← EntityType.payloads_projection]
    exact Sql.payloads_append _ _
  simp only [statements, ofSelection, List.map_cons, List.map_nil, insert, create]
  rfl

end SheetExport
