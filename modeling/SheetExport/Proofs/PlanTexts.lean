import SheetExport.Proofs.SelectedIds

/-!
# The texts of a plan

The statements of a plan are written out here as texts. Every filter has its fragment in one place
of the second statement, every field its column in the third and, unless it is a fixed column, its
join. Their order is that of the request, and the number in a name is the place in the request. The
names of the private tables are the only part of the texts that another job would change.
-/

namespace SheetExport

open Sql (Statement Join Clause name text qualified)

/-! ## Filters with their places -/

namespace Filter

def isCustom (f : Filter) : Bool := f.field.kind = .custom

/-- A tag that an entity has to have. -/
def isTagJoin (f : Filter) : Bool :=
  f.field.kind = .tag ∧ (f.rule = .contains ∨ f.rule = .notEmpty)

def isColumn (f : Filter) : Bool := f.field.kind = .fixed

/-- A tag that an entity must not have. -/
def isTagClause (f : Filter) : Bool :=
  f.field.kind = .tag ∧ (f.rule = .notContains ∨ f.rule = .empty)

/-- The filters that pass a test, each with its place in the whole list. -/
def placed (p : Filter → Bool) (filters : List Filter) : List (Filter × Nat) :=
  filters.zipIdx.filter fun x => p x.1

end Filter

namespace EntityType

variable {t : EntityType} {tags : TagTables}

/-- The text of the fragment for a filter at its place, if it has one. -/
def fragmentText (t : EntityType) (tags : TagTables) (x : Filter × Nat) : String :=
  match t.fragment tags x.2 x.1 with
  | .ok p => p.render
  | .error _ => ""

theorem parts_fragmentsFrom {α : Type} {part? : FieldKind × Fragment → Option α}
    {embed : α → Fragment} {p : Filter → Bool}
    (hp : ∀ {i f q}, t.fragment tags i f = .ok q →
      (part? (f.field.kind, q)).map embed = if p f then some q else none)
    {filters : List Filter} : ∀ {n : Nat} {parts : List (FieldKind × Fragment)},
    t.fragmentsFrom tags n filters = .ok parts →
    (parts.filterMap part?).map (fun a => .ok (embed a)) =
      ((filters.zipIdx n).filter fun x => p x.1).map fun x => t.fragment tags x.2 x.1 := by
  induction filters with
  | nil =>
    intro n parts h
    simp only [fragmentsFrom, Except.ok.injEq] at h
    subst h
    rfl
  | cons f rest ih =>
    intro n parts h
    obtain ⟨q, others, hq, hrest, rfl⟩ := fragmentsFrom_cons.1 h
    have hf := hp hq
    rw [List.filterMap_cons, List.zipIdx_cons, List.filter_cons]
    cases hpart : part? (f.field.kind, q) with
    | none =>
      rw [hpart] at hf
      by_cases hpf : p f = true
      · simp [hpf] at hf
      · simp [hpf, ih hrest]
    | some a =>
      rw [hpart] at hf
      by_cases hpf : p f = true
      · simp only [hpf, if_true, Option.map_some, Option.some.injEq] at hf
        simp [hpf, ih hrest, hf, hq]
      · simp [hpf] at hf

theorem fragment_cases {i : Nat} {f : Filter} {q : Fragment} (h : t.fragment tags i f = .ok q) :
    (f.field.kind = .fixed ∧ ∃ c, q = .clause c) ∨ (f.field.kind = .custom ∧ ∃ j, q = .join j) ∨
    (f.field.kind = .tag ∧ (f.rule = .contains ∨ f.rule = .notEmpty) ∧ ∃ j, q = .join j) ∨
    (f.field.kind = .tag ∧ (f.rule = .notContains ∨ f.rule = .empty) ∧ ∃ c, q = .clause c) := by
  unfold fragment at h
  cases hk : f.field.kind with
  | fixed => simp_all [eq_comm]
  | custom => simp_all [eq_comm]
  | tag => cases hr : f.rule <;> simp_all [eq_comm]

variable {filters : List Filter} {parts : List (FieldKind × Fragment)}

theorem parts_customJoins (h : t.fragmentsFrom tags 0 filters = .ok parts) :
    (joinsOf false parts).map (fun j => .ok (.join j)) =
      (Filter.placed Filter.isCustom filters).map fun x => t.fragment tags x.2 x.1 := by
  refine parts_fragmentsFrom (fun {i f q} hq => ?_) h
  rcases fragment_cases hq with ⟨hk, c, rfl⟩ | ⟨hk, j, rfl⟩ | ⟨hk, -, j, rfl⟩ | ⟨hk, -, c, rfl⟩ <;>
    simp [hk, Filter.isCustom, Fragment.join?]

theorem parts_tagJoins (h : t.fragmentsFrom tags 0 filters = .ok parts) :
    (joinsOf true parts).map (fun j => .ok (.join j)) =
      (Filter.placed Filter.isTagJoin filters).map fun x => t.fragment tags x.2 x.1 := by
  refine parts_fragmentsFrom (fun {i f q} hq => ?_) h
  rcases fragment_cases hq with ⟨hk, c, rfl⟩ | ⟨hk, j, rfl⟩ | ⟨hk, hr, j, rfl⟩ | ⟨hk, hr, c, rfl⟩
  · simp [hk, Filter.isTagJoin]
  · simp [hk, Filter.isTagJoin]
  · simp [hk, hr, Filter.isTagJoin, Fragment.join?]
  · rcases hr with hr | hr <;> simp [hk, hr, Filter.isTagJoin, Fragment.join?]

theorem parts_columnClauses (h : t.fragmentsFrom tags 0 filters = .ok parts) :
    (clausesOf false parts).map (fun c => .ok (.clause c)) =
      (Filter.placed Filter.isColumn filters).map fun x => t.fragment tags x.2 x.1 := by
  refine parts_fragmentsFrom (fun {i f q} hq => ?_) h
  rcases fragment_cases hq with ⟨hk, c, rfl⟩ | ⟨hk, j, rfl⟩ | ⟨hk, -, j, rfl⟩ | ⟨hk, -, c, rfl⟩ <;>
    simp [hk, Filter.isColumn, Fragment.clause?]

theorem parts_tagClauses (h : t.fragmentsFrom tags 0 filters = .ok parts) :
    (clausesOf true parts).map (fun c => .ok (.clause c)) =
      (Filter.placed Filter.isTagClause filters).map fun x => t.fragment tags x.2 x.1 := by
  refine parts_fragmentsFrom (fun {i f q} hq => ?_) h
  rcases fragment_cases hq with ⟨hk, c, rfl⟩ | ⟨hk, j, rfl⟩ | ⟨hk, hr, j, rfl⟩ | ⟨hk, hr, c, rfl⟩
  · simp [hk, Filter.isTagClause]
  · simp [hk, Filter.isTagClause]
  · rcases hr with hr | hr <;> simp [hk, hr, Filter.isTagClause, Fragment.clause?]
  · simp [hk, hr, Filter.isTagClause, Fragment.clause?]

theorem texts_of_parts {α : Type} {as : List α} {embed : α → Fragment}
    {xs : List (Filter × Nat)}
    (h : as.map (fun a => .ok (embed a)) = xs.map fun x => t.fragment tags x.2 x.1) :
    as.map (fun a => (embed a).render) = xs.map (t.fragmentText tags) := by
  have hread := congrArg (List.map fun e : Except JobFault Fragment =>
    match e with
    | .ok p => p.render
    | .error _ => "") h
  rw [List.map_map, List.map_map] at hread
  exact hread

/-- A filter that is compiled is in one group, which tells whether it brings a join. -/
theorem one_group {i : Nat} {f : Filter} {q : Fragment} (h : t.fragment tags i f = .ok q) :
    [f.isCustom, f.isTagJoin, f.isColumn, f.isTagClause].count true = 1 ∧
      q.join?.isSome = (f.isCustom || f.isTagJoin) := by
  unfold Filter.isCustom Filter.isTagJoin Filter.isColumn Filter.isTagClause
  rcases fragment_cases h with ⟨hk, c, rfl⟩ | ⟨hk, j, rfl⟩ | ⟨hk, hr, j, rfl⟩ | ⟨hk, hr, c, rfl⟩
  · simp [hk, Fragment.join?]
  · simp [hk, Fragment.join?]
  · rcases hr with hr | hr <;> simp [hk, hr, Fragment.join?]
  · rcases hr with hr | hr <;> simp [hk, hr, Fragment.join?]

theorem exists_fragment {filters : List Filter} : ∀ {n : Nat}
    {parts : List (FieldKind × Fragment)}, t.fragmentsFrom tags n filters = .ok parts →
    ∀ x ∈ filters.zipIdx n, ∃ p, t.fragment tags x.2 x.1 = .ok p := by
  induction filters with
  | nil => simp
  | cons f rest ih =>
    intro n parts h
    obtain ⟨p, others, hp, hrest, -⟩ := fragmentsFrom_cons.1 h
    rw [List.zipIdx_cons, List.forall_mem_cons]
    exact ⟨⟨p, hp⟩, ih hrest⟩

/-! ## The text that selects the ids -/

/-- The condition on the type of a post comes with the types of posts only. -/
def subtypeText (t : EntityType) (typeName : String) : List String :=
  if t.kind = .postLike then [qualified t.entityTable "post_type" ++ " = " ++ text typeName]
  else []

/-- The conditions after `WHERE`, if there are any. -/
def whereText (conditions : List String) : String :=
  if conditions.isEmpty then "" else "\nWHERE " ++ Text.joined "\n  AND " conditions

/-- The joins of attributes come before those of tags, each on lines of its own. -/
def selectionText (t : EntityType) (tags : TagTables) (typeName : String)
    (filters : List Filter) : String :=
  "SELECT DISTINCT " ++ qualified t.entityTable t.entityId ++ " FROM " ++ name t.entityTable ++
    String.join ((Filter.placed Filter.isCustom filters ++
      Filter.placed Filter.isTagJoin filters).map fun x => "\n" ++ t.fragmentText tags x) ++
    whereText ((Filter.placed Filter.isColumn filters ++
      Filter.placed Filter.isTagClause filters).map (t.fragmentText tags) ++ t.subtypeText typeName)

theorem subtype_entityType (schema : Schema) (typeName : String) :
    (schema.entityType typeName).subtype =
      if (schema.entityType typeName).kind = .postLike then some typeName else none := by
  unfold Schema.entityType
  split
  · rfl
  · split
    · rfl
    · split <;> rfl

theorem render_isText (r : Sql.Reference) (v : String) :
    (Sql.Test.isText r v).render = r.render ++ " = " ++ text v := by
  have hs : " " ++ Comparison.eq.symbol ++ " " = " = " := rfl
  rw [← hs]
  simp only [Sql.Test.isText, Sql.Test.render, Sql.Condition.render, String.append_assoc]

theorem render_equal (a b : Sql.Reference) :
    (Sql.Test.equal a b).render = a.render ++ " = " ++ b.render := by
  simp only [Sql.Test.render]

theorem subtypeClause_entityType (schema : Schema) (typeName : String) :
    (schema.entityType typeName).subtypeClause.map Clause.render =
      (schema.entityType typeName).subtypeText typeName := by
  unfold subtypeClause subtypeText
  rw [subtype_entityType]
  split
  · simp only [Option.map_some, Option.toList_some, List.map_cons, List.map_nil, Clause.render,
      render_isText, Sql.Reference.render, subtypeColumn]
  · rfl

theorem render_whereLines (clauses : List Clause) :
    Sql.whereLines clauses = whereText (clauses.map Clause.render) := by
  simp [Sql.whereLines, whereText]

theorem render_selection {schema : Schema} {typeName : String}
    (h : (schema.entityType typeName).fragmentsFrom tags 0 filters = .ok parts) :
    ((schema.entityType typeName).selection parts).render =
      (schema.entityType typeName).selectionText tags typeName filters := by
  have hjoins : ((joinsOf false parts ++ joinsOf true parts).map fun j => "\n" ++ j.render) =
      (Filter.placed Filter.isCustom filters ++ Filter.placed Filter.isTagJoin filters).map
        fun x => "\n" ++ (schema.entityType typeName).fragmentText tags x := by
    have := congrArg (List.map ("\n" ++ ·))
      (congrArg₂ (· ++ ·) (texts_of_parts (parts_customJoins h))
        (texts_of_parts (parts_tagJoins h)))
    simpa only [Fragment.render, List.map_append, List.map_map, Function.comp_def] using this
  have hclauses : (clausesOf false parts ++ clausesOf true parts ++
      (schema.entityType typeName).subtypeClause).map Clause.render =
      (Filter.placed Filter.isColumn filters ++ Filter.placed Filter.isTagClause filters).map
        ((schema.entityType typeName).fragmentText tags) ++
      (schema.entityType typeName).subtypeText typeName := by
    have hcolumns := texts_of_parts (parts_columnClauses h)
    have htags := texts_of_parts (parts_tagClauses h)
    simp only [Fragment.render] at hcolumns htags
    rw [List.map_append, List.map_append, hcolumns, htags, subtypeClause_entityType,
      List.map_append]
  unfold Sql.Selection.render selectionText
  rw [render_whereLines]
  dsimp only [selection]
  rw [hjoins, hclauses]
  dsimp only [idColumn, Sql.Reference.render, Sql.Source.render]

/-! ## The text that collects the results -/

/-- The column of a field under its label. -/
def outputText (t : EntityType) (x : Field × Nat) : String :=
  (match x.1.kind with
    | .fixed => qualified t.entityTable x.1.name
    | .custom => qualified ("m" ++ toString x.2) "meta_values"
    | .tag => qualified ("t" ++ toString x.2) "name") ++ " AS " ++ name x.1.label

/-- The ids that the selection has left. -/
def scratchText (scratch : String) : String := "SELECT " ++ name "id" ++ " FROM " ++ scratch

/-- The join that brings the values of an attribute, each entity once. -/
def attributeJoinText (t : EntityType) (scratch : String) (x : Field × Nat) : String :=
  "LEFT JOIN (" ++
    "\n    SELECT " ++ name t.attributeEntityId ++ ", group_concat(" ++ name "meta_value" ++ ", " ++
      text "; " ++ ") AS " ++ name "meta_values" ++ " FROM " ++ name t.attributeTable ++
    "\n    WHERE " ++ name "meta_key" ++ " = " ++ text x.1.name ++ " AND " ++
      name t.attributeEntityId ++ " IN (" ++ scratchText scratch ++ (")" ++
    "\n    GROUP BY " ++ name t.attributeEntityId ++ "\n" ++
  ") " ++ name ("m" ++ toString x.2) ++ " ON " ++ qualified t.entityTable t.entityId ++ " = " ++
    qualified ("m" ++ toString x.2) t.attributeEntityId)

/-- The join that brings the names of the tags in a taxonomy, each entity once. -/
def tagJoinText (t : EntityType) (tags : TagTables) (scratch : String) (x : Field × Nat) : String :=
  let tr := "tr" ++ toString x.2
  let tx := "tx" ++ toString x.2
  let trm := "trm" ++ toString x.2
  "LEFT JOIN (" ++
    "\n    SELECT " ++ qualified tr "object_id" ++ " AS " ++ name "object_id" ++
      ", group_concat(" ++ qualified trm "name" ++ ", " ++ text ", " ++ ") AS " ++ name "name" ++
      " FROM " ++ name tags.termRelationships ++ " " ++ name tr ++
    "\n    INNER JOIN " ++ name tags.termTaxonomy ++ " " ++ name tx ++ " ON (" ++
      qualified tx "term_taxonomy_id" ++ " = " ++ qualified tr "term_taxonomy_id" ++ " AND " ++
      qualified tx "taxonomy" ++ " = " ++ text x.1.name ++ ")" ++
    "\n    INNER JOIN " ++ name tags.terms ++ " " ++ name trm ++ " ON " ++
      qualified trm "term_id" ++ " = " ++ qualified tx "term_id" ++
    "\n    WHERE " ++ qualified tr "object_id" ++ " IN (" ++ scratchText scratch ++ (")" ++
    "\n    GROUP BY " ++ qualified tr "object_id" ++ "\n" ++
  ") " ++ name ("t" ++ toString x.2) ++ " ON " ++ qualified ("t" ++ toString x.2) "object_id" ++
    " = " ++ qualified t.entityTable t.entityId)

def leftJoinText (t : EntityType) (tags : TagTables) (scratch : String) (x : Field × Nat) :
    String :=
  if x.1.kind = .tag then t.tagJoinText tags scratch x else t.attributeJoinText scratch x

/-- A fixed column needs no join. -/
def projectionText (t : EntityType) (tags : TagTables) (scratch : String) (fields : List Field) :
    String :=
  "SELECT " ++ Text.joined ", " (fields.zipIdx.map t.outputText) ++ " FROM " ++
    name t.entityTable ++
    String.join ((fields.zipIdx.filter fun x => x.1.kind ≠ .fixed).map fun x =>
      "\n" ++ t.leftJoinText tags scratch x) ++
    ("\nWHERE " ++ qualified t.entityTable t.entityId ++ " IN (") ++ scratchText scratch ++ ")"

theorem render_scratchIds (tables : JobTables) :
    (scratchIds tables).render = scratchText (name tables.scratch) := by
  have hj : String.join [] = "" := rfl
  simp only [scratchIds, scratchText, Sql.Lookup.render, Sql.Reference.render, Sql.Source.render,
    List.map_nil, List.isEmpty_nil, if_true, hj, String.append_empty]

theorem render_attributeSupplement (tables : JobTables) (i : Nat) (f : Field) :
    (t.attributeSupplement tables i f.name).render =
      t.attributeJoinText (name tables.scratch) (f, i) := by
  have hj : String.join [] = "" := rfl
  unfold attributeSupplement attributeJoinText Sql.Supplement.render Sql.Gathering.render
  simp only [Clause.render, render_isText, render_equal, render_scratchIds, Sql.Reference.render,
    Sql.Source.render, numbered, idColumn, attributeSeparator, List.map_nil, List.map_cons]
  simp only [hj, Text.joined, String.append_empty]
  simp only [String.append_assoc]

theorem render_tagSupplement (tables : JobTables) (i : Nat) (f : Field) :
    (t.tagSupplement tags tables i f.name).render =
      t.tagJoinText tags (name tables.scratch) (f, i) := by
  have hj (a b : String) : String.join [a, b] = a ++ b := by simp [String.join]
  have hinner : "\n    INNER JOIN " = "\n    " ++ "INNER JOIN " := rfl
  have hon : " ON (" = " ON " ++ "(" := rfl
  unfold tagSupplement tagJoinText Sql.Supplement.render Sql.Gathering.render
  simp only [Sql.Link.render, Clause.render, render_isText, render_equal, render_scratchIds,
    Sql.Reference.render, Sql.Source.render, numbered, idColumn, tagSeparator, List.map_nil,
    List.map_cons]
  simp only [hj, hinner, hon, Text.joined]
  simp only [String.append_assoc]

theorem render_output (x : Field × Nat) :
    (Sql.Output.mk (t.outputColumn x.2 x.1) x.1.label).render = t.outputText x := by
  unfold Sql.Output.render outputText outputColumn
  cases x.1.kind <;> rfl

theorem texts_supplements (tables : JobTables) (xs : List (Field × Nat)) :
    (xs.filterMap fun x => t.supplement? tags tables x.2 x.1).map (fun k => "\n" ++ k.render) =
      (xs.filter fun x => x.1.kind ≠ .fixed).map fun x =>
        "\n" ++ t.leftJoinText tags (name tables.scratch) x := by
  induction xs with
  | nil => rfl
  | cons x xs ih =>
    obtain ⟨f, i⟩ := x
    rw [List.filterMap_cons, List.filter_cons]
    cases hk : f.kind with
    | fixed => simpa [supplement?, hk] using ih
    | custom =>
      have hs : t.supplement? tags tables i f = some (t.attributeSupplement tables i f.name) := by
        simp only [supplement?, hk]
      have htext : t.leftJoinText tags (name tables.scratch) (f, i) =
          t.attributeJoinText (name tables.scratch) (f, i) := if_neg (by simp [hk])
      dsimp only
      rw [hs, if_pos (by decide), List.map_cons, List.map_cons, ih, htext,
        render_attributeSupplement]
    | tag =>
      have hs : t.supplement? tags tables i f = some (t.tagSupplement tags tables i f.name) := by
        simp only [supplement?, hk]
      have htext : t.leftJoinText tags (name tables.scratch) (f, i) =
          t.tagJoinText tags (name tables.scratch) (f, i) := if_pos hk
      dsimp only
      rw [hs, if_pos (by decide), List.map_cons, List.map_cons, ih, htext, render_tagSupplement]

theorem render_projection (tables : JobTables) (fields : List Field) :
    (t.projection tags tables fields).render =
      t.projectionText tags (name tables.scratch) fields := by
  have houtputs : (fields.zipIdx.map fun x => Sql.Output.mk (t.outputColumn x.2 x.1) x.1.label).map
      Sql.Output.render = fields.zipIdx.map t.outputText := by
    rw [List.map_map]
    exact List.map_congr_left fun x _ => render_output x
  have hclauses : [Clause.among t.idColumn (scratchIds tables)].map Clause.render =
      [qualified t.entityTable t.entityId ++ " IN (" ++ scratchText (name tables.scratch) ++
        ")"] := by
    simp only [List.map_cons, List.map_nil, Clause.render, render_scratchIds, idColumn,
      Sql.Reference.render]
  unfold Sql.Projection.render projectionText projection
  rw [render_whereLines]
  dsimp only
  rw [houtputs, texts_supplements, hclauses]
  simp only [whereText, List.isEmpty_cons, Bool.false_eq_true, if_false, Text.joined,
    Sql.Source.render]
  simp only [String.append_assoc]

end EntityType

/-! ## Other names -/

/-- A part of a text that has to name the private tables of some job. -/
inductive Piece where
  | fixed (s : String)
  | scratch
  | result

def Piece.fill (tables : JobTables) : Piece → String
  | fixed s => s
  | scratch => name tables.scratch
  | result => name tables.result

def filled (pieces : List Piece) (tables : JobTables) : String :=
  String.join (pieces.map (Piece.fill tables))

/-- A text that depends on the tables of a job only where it quotes their names. -/
def OnlyNames (s : JobTables → String) : Prop := ∃ pieces, ∀ tables, s tables = filled pieces tables

namespace OnlyNames

theorem const (s : String) : OnlyNames fun _ => s :=
  ⟨[.fixed s], fun _ => by simp [filled, Piece.fill]⟩

theorem scratch : OnlyNames fun tables => name tables.scratch :=
  ⟨[.scratch], fun _ => by simp [filled, Piece.fill]⟩

theorem result : OnlyNames fun tables => name tables.result :=
  ⟨[.result], fun _ => by simp [filled, Piece.fill]⟩

theorem append {s u : JobTables → String} (hs : OnlyNames s) (hu : OnlyNames u) :
    OnlyNames fun tables => s tables ++ u tables := by
  obtain ⟨ps, hps⟩ := hs
  obtain ⟨pu, hpu⟩ := hu
  refine ⟨ps ++ pu, fun tables => ?_⟩
  beta_reduce
  rw [hps, hpu]
  simp [filled]

theorem join {α : Type} {s : JobTables → α → String} (h : ∀ x, OnlyNames (s · x)) (xs : List α) :
    OnlyNames fun tables => String.join (xs.map (s tables)) := by
  induction xs with
  | nil => exact const ""
  | cons x xs ih => simpa using (h x).append ih

end OnlyNames

namespace EntityType

variable {t : EntityType} {tags : TagTables}

theorem onlyNames_scratchText : OnlyNames fun tables => scratchText (name tables.scratch) :=
  .append (.const _) .scratch

theorem onlyNames_leftJoinText (x : Field × Nat) :
    OnlyNames fun tables => t.leftJoinText tags (name tables.scratch) x := by
  unfold leftJoinText
  split
  · exact .append (.append (.const _) onlyNames_scratchText) (.const _)
  · exact .append (.append (.const _) onlyNames_scratchText) (.const _)

theorem onlyNames_projectionText (fields : List Field) :
    OnlyNames fun tables => t.projectionText tags (name tables.scratch) fields := by
  have hjoins : OnlyNames fun tables => String.join
      ((fields.zipIdx.filter fun x => x.1.kind ≠ .fixed).map fun x =>
        "\n" ++ t.leftJoinText tags (name tables.scratch) x) :=
    .join (fun x => .append (.const _) (onlyNames_leftJoinText x)) _
  exact .append (.append (.append (.append (.const _) hjoins) (.const _)) onlyNames_scratchText)
    (.const _)

end EntityType

/-! ## The texts of all statements -/

namespace Plan

/-- The statements of a plan over some tables. -/
def texts (schema : Schema) (typeName : String) (fields : List Field) (filters : List Filter)
    (tables : JobTables) : List String :=
  let t := schema.entityType typeName
  ["CREATE TABLE " ++ name tables.scratch ++ " (\"id\" INTEGER NOT NULL PRIMARY KEY)",
    "INSERT INTO " ++ name tables.scratch ++ " (\"id\")\n" ++
      t.selectionText schema.tagTables typeName filters,
    "CREATE TABLE " ++ name tables.result ++ " AS " ++
      t.projectionText schema.tagTables (name tables.scratch) fields,
    "DROP TABLE IF EXISTS " ++ name tables.scratch]

theorem onlyNames_texts (schema : Schema) (typeName : String) (fields : List Field)
    (filters : List Filter) : ∃ templates : List (List Piece), ∀ tables,
      texts schema typeName fields filters tables = templates.map (filled · tables) := by
  obtain ⟨create, hcreate⟩ : OnlyNames fun tables =>
      "CREATE TABLE " ++ name tables.scratch ++ " (\"id\" INTEGER NOT NULL PRIMARY KEY)" :=
    .append (.append (.const _) .scratch) (.const _)
  obtain ⟨insert, hinsert⟩ : OnlyNames fun tables =>
      "INSERT INTO " ++ name tables.scratch ++ " (\"id\")\n" ++
        (schema.entityType typeName).selectionText schema.tagTables typeName filters :=
    .append (.append (.append (.const _) .scratch) (.const _)) (.const _)
  obtain ⟨result, hresult⟩ : OnlyNames fun tables =>
      "CREATE TABLE " ++ name tables.result ++ " AS " ++
        (schema.entityType typeName).projectionText schema.tagTables (name tables.scratch) fields :=
    .append (.append (.append (.const _) .result) (.const _))
      (EntityType.onlyNames_projectionText fields)
  obtain ⟨drop, hdrop⟩ : OnlyNames fun tables => "DROP TABLE IF EXISTS " ++ name tables.scratch :=
    .append (.const _) .scratch
  refine ⟨[create, insert, result, drop], fun tables => ?_⟩
  beta_reduce at hcreate hinsert hresult hdrop
  simp only [texts, hcreate, hinsert, hresult, hdrop, List.map_cons, List.map_nil]

/-- What a plan is made of, as texts: each filter has a fragment of its own and belongs to one of
four groups, the groups and the fields follow each other as in the templates, and other tables only
change where their names are quoted. -/
theorem compiled_texts {schema : Schema} {typeName : String} {fields : List Field}
    {filters : List Filter} {tables : JobTables} {plan : Plan}
    (hc : compile schema typeName fields filters tables = .ok plan) :
    (∀ x ∈ filters.zipIdx, ∃ p,
      (schema.entityType typeName).fragment schema.tagTables x.2 x.1 = .ok p ∧
      (schema.entityType typeName).fragmentText schema.tagTables x = p.render ∧
      [x.1.isCustom, x.1.isTagJoin, x.1.isColumn, x.1.isTagClause].count true = 1 ∧
      p.join?.isSome = (x.1.isCustom || x.1.isTagJoin)) ∧
    plan.dataStatements.map Statement.render = texts schema typeName fields filters tables ∧
    ∃ templates : List (List Piece), ∀ tables' : JobTables, ∃ plan',
      compile schema typeName fields filters tables' = .ok plan' ∧
        plan'.dataStatements.map Statement.render = templates.map (filled · tables') := by
  obtain ⟨hfields, parts, hparts, rfl⟩ := compile_eq_ok.1 hc
  have hrender (tables' : JobTables) :
      (ofSelection (schema.entityType typeName) tables'
        ((schema.entityType typeName).selection parts)
        ((schema.entityType typeName).projection schema.tagTables tables' fields)
        ).dataStatements.map Statement.render = texts schema typeName fields filters tables' := by
    rw [dataStatements_ofSelection]
    unfold texts
    simp only [List.map_cons, List.map_nil]
    unfold Statement.render
    dsimp only
    rw [EntityType.render_selection hparts, EntityType.render_projection]
  refine ⟨fun x hx => ?_, hrender tables, ?_⟩
  · obtain ⟨p, hp⟩ := EntityType.exists_fragment hparts x hx
    obtain ⟨hone, hjoin⟩ := EntityType.one_group hp
    exact ⟨p, hp, by simp only [EntityType.fragmentText, hp], hone, hjoin⟩
  · obtain ⟨templates, htemplates⟩ := onlyNames_texts schema typeName fields filters
    refine ⟨templates, fun tables' => ⟨_, compile_eq_ok.2 ⟨hfields, parts, hparts, rfl⟩, ?_⟩⟩
    rw [hrender, htemplates]

/-- A tag to have, one not to have, a column and two filters on one attribute. -/
def mixedFilters : List Filter :=
  [⟨⟨.tag, "color", ""⟩, .notContains, some "red", none⟩,
    ⟨⟨.custom, "size", ""⟩, .compare .gt, some "3", some .number⟩,
    ⟨⟨.fixed, "post_title", ""⟩, .contains, some "a", none⟩,
    ⟨⟨.tag, "color", ""⟩, .notEmpty, none, none⟩,
    ⟨⟨.custom, "size", ""⟩, .empty, none, none⟩]

/-- Each filter is numbered by its place, whatever stands before it in the text. -/
theorem compiled_texts_mixed : ∃ plan,
    compile ⟨"wp_"⟩ "page" [⟨.tag, "color", ""⟩, ⟨.fixed, "ID", ""⟩] mixedFilters ⟨"s", "r"⟩ =
      .ok plan ∧
    plan.dataStatements.map Statement.render =
      texts ⟨"wp_"⟩ "page" [⟨.tag, "color", ""⟩, ⟨.fixed, "ID", ""⟩] mixedFilters ⟨"s", "r"⟩ ∧
    (Filter.placed Filter.isCustom mixedFilters).map Prod.snd = [1, 4] := by
  have hc : compile ⟨"wp_"⟩ "page" [⟨.tag, "color", ""⟩, ⟨.fixed, "ID", ""⟩] mixedFilters
    ⟨"s", "r"⟩ = .ok _ := rfl
  exact ⟨_, hc, (compiled_texts hc).2.1, by decide⟩

end Plan

end SheetExport
