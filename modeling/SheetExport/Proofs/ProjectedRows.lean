import SheetExport.Proofs.Gatherings
import SheetExport.Proofs.SelectedIds
import SheetExport.Proofs.Written

/-!
# Rows of a result

A projection answers with one row for each chosen entity and one cell for each field. Supplements
are left joined one after another. Each brings one row under labels of its own, so it changes
nothing that the labels of earlier fields stand for.
-/

namespace SheetExport.Store

open Text (sameName)
open Sql (Reference Supplement Projection Statement)
open Value (isId)

/-! ## What the cells should hold -/

/-- What the cell of a field holds in the row of an entity. -/
def cellOf (s : Store) (tags : TagTables) (t : EntityType) (e : Entry) (f : Field) : Value :=
  match f.kind with
  | .fixed => (e f.name).value
  | .custom => concatenated EntityType.attributeSeparator
      ((s.attributesOf t e f.name).map fun m => (m "meta_value").value)
  | .tag => concatenated EntityType.tagSeparator
      ((s.termsOf tags t e f.name).map fun x => (x "name").value)

/-- The rows of the entity table whose ids are among the given ones. -/
def chosen (s : Store) (t : EntityType) (ids : List Int) : List Entry :=
  (s.entries t.entityTable).filter fun e => ids.any fun i => (e t.entityId).value == .integer i

variable {s : Store} {now : Int} {t : EntityType} {tags : TagTables} {tables : JobTables}
  {ids : List Int} {e : Entry} {i : Int}

theorem isId_and_among (h : i ∈ ids) (v : Value) : (v.isId i && ids.any v.isId) = v.isId i := by
  cases hv : v.isId i with
  | false => rfl
  | true =>
    rw [Bool.true_and, List.any_eq_true]
    exact ⟨i, h, hv⟩

theorem equals_entityId (he : e t.entityId = ⟨some .integer, .integer i⟩) (o : Operand) :
    o.equals (e t.entityId) = o.value.isId i := by
  rw [he, Operand.equals_id]

theorem attributeValues_eq (hk : s.Keyed tags t)
    (h : s.table? tables.scratch = some (idTableOf tables.scratch ids))
    (he : e t.entityId = ⟨some .integer, .integer i⟩) (hi : i ∈ ids) (n : Nat) (key : String) :
    ((s.gatheredPairs now (t.attributeSupplement tables n key).gathering).filter
        fun x => x.1.isId i).map Prod.snd =
      (s.attributesOf t e key).map fun m => (m "meta_value").value := by
  rw [gatheredPairs_attributes hk h, attributesOf, List.filter_map, List.map_map,
    List.filter_filter]
  have hp : (fun m : Entry => ((fun x : Value × Value => x.1.isId i) ∘ fun m : Entry =>
        ((m t.attributeEntityId).value, (m "meta_value").value)) m &&
          ((m "meta_key").is key && ids.any (m t.attributeEntityId).value.isId)) =
      fun m => (m t.attributeEntityId).equals (e t.entityId) && (m "meta_key").is key := by
    funext m
    rw [equals_entityId he, Bool.and_comm ((m "meta_key").is key), ← Bool.and_assoc]
    exact congrArg (· && (m "meta_key").is key) (isId_and_among hi _)
  rw [hp]
  rfl

theorem termNames_eq (h : s.table? tables.scratch = some (idTableOf tables.scratch ids))
    (he : e t.entityId = ⟨some .integer, .integer i⟩) (hi : i ∈ ids) (n : Nat)
    (taxonomy : String) :
    ((s.gatheredPairs now (t.tagSupplement tags tables n taxonomy).gathering).filter
        fun x => x.1.isId i).map Prod.snd =
      (s.termsOf tags t e taxonomy).map fun x => (x "name").value := by
  rw [gatheredPairs_tags h, termsOf]
  simp only [List.filter_flatMap, List.filter_map, List.map_flatMap, List.map_map]
  rw [flatMap_filter, flatMap_filter]
  refine List.flatMap_congr fun r _ => ?_
  rw [equals_entityId he]
  have hr := isId_and_among hi (r "object_id").value
  by_cases hrid : (r "object_id").value.isId i = true
  · rw [hrid, Bool.true_and] at hr
    simp only [hr, hrid, if_true]
    refine List.flatMap_congr fun w _ => ?_
    rw [List.filter_eq_self.2]
    · rfl
    · exact fun _ _ => hrid
  · have hnone : ∀ l : List Entry,
        l.filter ((fun x : Value × Value => x.1.isId i) ∘ fun x : Entry =>
          ((r "object_id").value, (x "name").value)) = [] :=
      fun l => List.filter_eq_nil_iff.2 fun _ _ => hrid
    simp only [hnone, List.map_nil, hrid, Bool.false_eq_true, if_false]
    split <;> simp

/-! ## One field -/

/-- What a label stands for once the fields before a place are done. -/
def Settled (t : EntityType) (n : Nat) (label : String) : Prop :=
  label = t.entityTable ∨ ∃ stem j, IsStem stem ∧ j < n ∧ label = numbered stem j

theorem Settled.other {n : Nat} {label : String} (h : Settled t n label)
    (hl : Unnumbered t.entityTable) {stem : String} (hs : IsStem stem) :
    sameName (numbered stem n) label = false := by
  obtain rfl | ⟨stem', j, hs', hj, rfl⟩ := h
  · rw [sameName_comm]
    exact hl.sameName hs n
  · rw [sameName_numbered hs hs']
    simp only [Bool.and_eq_false_iff, decide_eq_false_iff_not]
    exact .inr (by omega)

theorem settled_outputColumn (t : EntityType) (n : Nat) (f : Field) :
    ∃ label column, t.outputColumn n f = .of label column ∧ Settled t (n + 1) label := by
  unfold EntityType.outputColumn
  split
  · exact ⟨_, _, rfl, .inl rfl⟩
  · exact ⟨_, _, rfl, .inr ⟨"m", n, by decide, by omega, rfl⟩⟩
  · exact ⟨_, _, rfl, .inr ⟨"t", n, by decide, by omega, rfl⟩⟩

/-- The labels of the fields before a place stand for the same in both scopes. -/
def AgreeBefore (t : EntityType) (n : Nat) (a b : Scope) : Prop :=
  ∀ label, Settled t n label → ∀ column, operand a (.of label column) = operand b (.of label column)

theorem testsHold_gathered {k : Supplement} {scope : Scope}
    (he : e t.entityId = ⟨some .integer, .integer i⟩) (hs : Shows scope t.entityTable e)
    (hl : sameName k.label t.entityTable = false)
    (hne : sameName k.gathering.keyName k.gathering.gatheredLabel = false)
    (hk : k.test = .equal t.idColumn (.of k.label k.gathering.keyName) ∨
      k.test = .equal (.of k.label k.gathering.keyName) t.idColumn) (key v : Value) :
    testsHold now (⟨s.gatheredHeader k.label k.gathering, .loose [key, v]⟩ :: scope) [k.test] =
      key.isId i := by
  generalize hb : (⟨s.gatheredHeader k.label k.gathering, .loose [key, v]⟩ : Binding) = b
  have hid : operand (b :: scope) t.idColumn = ⟨some .integer, .integer i⟩ := by
    rw [EntityType.idColumn, operand_of_other (hb ▸ hl), hs, he]
  have hheader : b.header = s.gatheredHeader k.label k.gathering := by rw [← hb]
  obtain ⟨hkey, -⟩ := operand_gathered hheader scope hne
  have hv : b.row.value (.cell 0) = key := by rw [← hb]; rfl
  rw [hv] at hkey
  rw [testsHold, List.all_cons, List.all_nil, Bool.and_true]
  obtain hk | hk := hk
  · rw [hk, testTruth, hid, hkey]
    exact (Operand.equals_comm _ _).trans (Operand.equals_id _ i)
  · rw [hk, testTruth, hid, hkey]
    exact Operand.equals_id _ i

/-- A supplement under a numbered label brings one row, with the joined values of the entity, and
hides nothing that is settled. -/
theorem supplemented_gathered {k : Supplement} {scope : Scope} (hl : Unnumbered t.entityTable)
    (he : e t.entityId = ⟨some .integer, .integer i⟩) (hs : Shows scope t.entityTable e)
    {stem : String} (hstem : IsStem stem) {n : Nat} (hlabel : k.label = numbered stem n)
    (hkeys : ∀ x ∈ s.gatheredPairs now k.gathering, x.1.IsNumeric)
    (hne : sameName k.gathering.keyName k.gathering.gatheredLabel = false)
    (hk : k.test = .equal t.idColumn (.of k.label k.gathering.keyName) ∨
      k.test = .equal (.of k.label k.gathering.keyName) t.idColumn) :
    ∃ scope', s.supplemented now k [scope] = [scope'] ∧ AgreeBefore t n scope' scope ∧
      (operand scope' (.of k.label k.gathering.gatheredLabel)).value =
        concatenated k.gathering.separator
          (((s.gatheredPairs now k.gathering).filter fun x => x.1.isId i).map Prod.snd) := by
  have hother : sameName k.label t.entityTable = false := by
    rw [hlabel, sameName_comm]
    exact hl.sameName hstem n
  obtain ⟨b, hb, hone, hcell⟩ := supplemented_one hkeys (testsHold_gathered he hs hother hne hk)
  obtain ⟨-, hval⟩ := operand_gathered hb scope hne
  refine ⟨b :: scope, hone, fun label hsettled column => operand_of_other ?_ column,
    (congrArg Operand.value hval).trans hcell⟩
  have hheader : b.header.label = numbered stem n := by
    rw [hb, ← hlabel]
    rfl
  rw [hheader]
  exact hsettled.other hl hstem

theorem isNumeric_gatheredPairs_attributes (hk : s.Keyed tags t)
    (h : s.table? tables.scratch = some (idTableOf tables.scratch ids)) (n : Nat) (key : String) :
    ∀ x ∈ s.gatheredPairs now (t.attributeSupplement tables n key).gathering, x.1.IsNumeric := by
  rw [gatheredPairs_attributes hk h]
  intro x hx
  obtain ⟨m, hm, rfl⟩ := List.mem_map.1 hx
  exact hk.attributes m (List.mem_filter.1 hm).1

theorem isNumeric_gatheredPairs_tags (hk : s.Keyed tags t)
    (h : s.table? tables.scratch = some (idTableOf tables.scratch ids)) (n : Nat)
    (taxonomy : String) :
    ∀ x ∈ s.gatheredPairs now (t.tagSupplement tags tables n taxonomy).gathering,
      x.1.IsNumeric := by
  rw [gatheredPairs_tags h]
  intro x hx
  simp only [List.mem_flatMap, List.mem_map, List.mem_filter] at hx
  obtain ⟨r, ⟨hr, -⟩, w, -, y, -, rfl⟩ := hx
  exact hk.relations r hr

theorem supplemented_field (hk : s.Keyed tags t)
    (h : s.table? tables.scratch = some (idTableOf tables.scratch ids))
    (hl : Unnumbered t.entityTable) (hne : sameName t.attributeEntityId "meta_values" = false)
    (he : e t.entityId = ⟨some .integer, .integer i⟩) {scope : Scope}
    (hs : Shows scope t.entityTable e) (n : Nat) (f : Field) :
    ∃ scope', (t.supplement? tags tables n f).toList.foldl
        (fun scopes k => s.supplemented now k scopes) [scope] = [scope'] ∧
      AgreeBefore t n scope' scope ∧
      (i ∈ ids → (operand scope' (t.outputColumn n f)).value = s.cellOf tags t e f) := by
  cases hkind : f.kind with
  | fixed =>
    refine ⟨scope, ?_, fun _ _ _ => rfl, fun _ => ?_⟩
    · rw [EntityType.supplement?, hkind]
      rfl
    · rw [EntityType.outputColumn, cellOf, hkind, hs]
  | custom =>
    obtain ⟨scope', hone, hagree, hcell⟩ :=
      supplemented_gathered (k := t.attributeSupplement tables n f.name) hl he hs
        (show IsStem "m" by decide) rfl (isNumeric_gatheredPairs_attributes hk h n f.name) hne
        (.inl rfl)
    refine ⟨scope', ?_, hagree, fun hi => ?_⟩
    · rw [EntityType.supplement?, hkind, Option.toList_some, List.foldl_cons, List.foldl_nil]
      exact hone
    · rw [attributeValues_eq hk h he hi] at hcell
      rw [EntityType.outputColumn, cellOf, hkind]
      exact hcell
  | tag =>
    obtain ⟨scope', hone, hagree, hcell⟩ :=
      supplemented_gathered (k := t.tagSupplement tags tables n f.name) hl he hs
        (show IsStem "t" by decide) rfl (isNumeric_gatheredPairs_tags hk h n f.name)
        (show sameName "object_id" "name" = false by decide) (.inr rfl)
    refine ⟨scope', ?_, hagree, fun hi => ?_⟩
    · rw [EntityType.supplement?, hkind, Option.toList_some, List.foldl_cons, List.foldl_nil]
      exact hone
    · rw [termNames_eq h he hi] at hcell
      rw [EntityType.outputColumn, cellOf, hkind]
      exact hcell

/-! ## All fields -/

theorem foldl_supplemented_flatMap (s : Store) (now : Int) (ks : List Supplement)
    (scopes : List Scope) :
    ks.foldl (fun scopes k => s.supplemented now k scopes) scopes = scopes.flatMap fun scope =>
      ks.foldl (fun scopes k => s.supplemented now k scopes) [scope] := by
  induction ks generalizing scopes with
  | nil => simp
  | cons k ks ih =>
    simp only [List.foldl_cons]
    rw [ih, supplemented_eq_flatMap, List.flatMap_assoc]
    exact List.flatMap_congr fun scope _ => (ih _).symm

theorem AgreeBefore.trans {n : Nat} {a b c : Scope} (hab : AgreeBefore t (n + 1) a b)
    (hbc : AgreeBefore t n b c) : AgreeBefore t n a c := by
  intro label hlabel column
  rw [hab label ?_ column, hbc label hlabel column]
  obtain rfl | ⟨stem, j, hs, hj, rfl⟩ := hlabel
  · exact .inl rfl
  · exact .inr ⟨stem, j, hs, by omega, rfl⟩

/-- However many fields there are, an entity keeps one row, and every field has its cell there. -/
theorem supplemented_fields (hk : s.Keyed tags t)
    (h : s.table? tables.scratch = some (idTableOf tables.scratch ids))
    (hl : Unnumbered t.entityTable) (hne : sameName t.attributeEntityId "meta_values" = false)
    (he : e t.entityId = ⟨some .integer, .integer i⟩) (fields : List Field) :
    ∀ (n : Nat) {scope : Scope}, Shows scope t.entityTable e →
    ∃ scope', ((fields.zipIdx n).filterMap fun (f, j) => t.supplement? tags tables j f).foldl
        (fun scopes k => s.supplemented now k scopes) [scope] = [scope'] ∧
      AgreeBefore t n scope' scope ∧
      (i ∈ ids → (fields.zipIdx n).map (fun x => (operand scope' (t.outputColumn x.2 x.1)).value) =
        fields.map (s.cellOf tags t e)) := by
  induction fields with
  | nil => exact fun n scope _ => ⟨scope, rfl, fun _ _ _ => rfl, fun _ => rfl⟩
  | cons f rest ih =>
    intro n scope hs
    obtain ⟨mid, hmid, hagree, hcell⟩ := supplemented_field hk h hl hne he hs n f
    have hsmid : Shows mid t.entityTable e :=
      fun column => (hagree _ (.inl rfl) column).trans (hs column)
    obtain ⟨last, hlast, hagree', hcells⟩ := ih (n + 1) hsmid
    refine ⟨last, ?_, hagree'.trans hagree, fun hi => ?_⟩
    · have hsplit : ((f :: rest).zipIdx n).filterMap (fun (f, j) => t.supplement? tags tables j f) =
          (t.supplement? tags tables n f).toList ++
            (rest.zipIdx (n + 1)).filterMap fun (f, j) => t.supplement? tags tables j f := by
        rw [List.zipIdx_cons, List.filterMap_cons]
        dsimp only
        cases t.supplement? tags tables n f <;> rfl
      rw [hsplit, List.foldl_append, hmid, hlast]
    · -- Later fields leave the cell of this one as it is.
      obtain ⟨label, column, hout, hlabel⟩ := settled_outputColumn t n f
      rw [List.zipIdx_cons, List.map_cons, List.map_cons, hcells hi, ← hcell hi]
      simp only [hout, hagree' label hlabel column]

theorem projectedRows_eq (hk : s.Keyed tags t)
    (h : s.table? tables.scratch = some (idTableOf tables.scratch ids))
    (hl : Unnumbered t.entityTable) (hne : sameName t.attributeEntityId "meta_values" = false)
    (fields : List Field) :
    s.projectedRows now (t.projection tags tables fields) =
      (s.chosen t ids).map fun e => fields.map (s.cellOf tags t e) := by
  rw [projectedRows, projectedScopes, foldl_supplemented_flatMap, chosen,
    ← map_entry_bindings s ⟨t.entityTable, none⟩, List.filter_map, List.map_map]
  have hsource : s.joined (t.projection tags tables fields).source [[]] =
      (s.bindings ⟨t.entityTable, none⟩).map fun b => [b] := joined_singleton ..
  rw [hsource, List.flatMap_map, List.filter_flatMap, List.map_flatMap]
  rw [List.map_eq_flatMap (l := List.filter _ _), flatMap_filter]
  refine List.flatMap_congr fun b hb => ?_
  obtain ⟨i, he⟩ := hk.ids b.entry (entry_mem hb)
  have hshow : Shows [b] t.entityTable b.entry :=
    shows_head (label_of_mem_bindings hb) (free_nil _)
  obtain ⟨scope, hscope, hagree, hcells⟩ := supplemented_fields hk h hl hne he fields 0 hshow
  have hid : operand scope t.idColumn = ⟨some .integer, .integer i⟩ := by
    rw [EntityType.idColumn, hagree _ (.inl rfl), hshow, he]
  have hclauses : s.clausesHold now scope (t.projection tags tables fields).clauses =
      ids.contains i := by
    simp only [EntityType.projection, clausesHold, List.all_cons, List.all_nil, Bool.and_true,
      among_scratchIds h, hid, List.contains_eq_any_beq]
    refine congrArg ids.any (funext fun j => ?_)
    rw [Value.isId_integer]
    rfl
  have hchosen : ids.any (fun j => (b.entry t.entityId).value == .integer j) =
      ids.contains i := by
    rw [he, List.contains_eq_any_beq]
    refine congrArg ids.any (funext fun j => ?_)
    rw [Bool.eq_iff_iff]
    simp
  have hfold : (t.projection tags tables fields).supplements.foldl
      (fun scopes k => s.supplemented now k scopes) [[b]] = [scope] := hscope
  rw [hfold, List.filter_singleton, hclauses]
  simp only [Function.comp, hchosen]
  by_cases hi : i ∈ ids
  · have hc : ids.contains i = true := List.contains_iff_mem.2 hi
    simp only [hc, cond_true, if_true, List.map_cons, List.map_nil, ← hcells hi,
      EntityType.projection, List.map_map]
    rfl
  · have hc : ids.contains i = false := by simpa using hi
    simp only [hc, cond_false, Bool.false_eq_true, if_false, List.map_nil]

/-! ## The result table -/

theorem length_foldl_of_grow {α β : Type} {f : List β → α → List β}
    (hf : ∀ taken x, (f taken x).length = taken.length + 1) (l : List α) (taken : List β) :
    (l.foldl f taken).length = taken.length + l.length := by
  induction l generalizing taken with
  | nil => rfl
  | cons x l ih =>
    rw [List.foldl_cons, ih, hf, List.length_cons]
    omega

theorem length_columnNames (drawn : List (List UInt32)) (labels : List String) :
    (columnNames drawn labels).length = labels.length := by
  unfold columnNames
  rw [length_foldl_of_grow fun taken x => List.length_append, List.length_zipIdx]
  exact Nat.zero_add _

theorem names_resultTable (s : Store) (o : Occasion) (name : String) (p : Projection) :
    (s.resultTable o name p).columns.map Column.name =
      columnNames o.drawn (p.outputs.map (·.label)) := by
  have zip : ∀ (names : List String) (outputs : List Sql.Output), names.length = outputs.length →
      (List.zipWith (fun n out => Column.free n
        (outputAffinity ((s.projectionHeaders? p).getD []) out.column)) names outputs).map
          Column.name = names := by
    intro names
    induction names with
    | nil => exact fun _ _ => rfl
    | cons n names ih =>
      intro outputs hlen
      cases outputs with
      | nil => exact absurd hlen (by simp)
      | cons out outputs =>
        rw [List.zipWith_cons_cons, List.map_cons, ih outputs (by simpa using hlen)]
        rfl
  exact zip _ _ (by rw [length_columnNames, List.length_map])

theorem labels_projection (t : EntityType) (tags : TagTables) (tables : JobTables)
    (fields : List Field) :
    (t.projection tags tables fields).outputs.map (·.label) = fields.map Field.label := by
  have zip : ∀ (n : Nat), (fields.zipIdx n).map (fun x => x.1.label) = fields.map Field.label := by
    induction fields with
    | nil => exact fun _ => rfl
    | cons f rest ih =>
      intro n
      rw [List.zipIdx_cons, List.map_cons, List.map_cons, ih]
  rw [EntityType.projection, List.map_map]
  exact zip 0

theorem table?_createResult {s s' : Store} {o : Occasion} {table : String} {p : Projection}
    (h : s.run? o (.createResult table p) = some s') :
    s'.table? table = some (s.resultTable o table p) := by
  simp only [run?] at h
  split at h
  · exact absurd h (by simp)
  · split at h
    · exact table?_create_self h (sameName_self table)
    · exact absurd h (by simp)

theorem attributeEntityId_apart (schema : Schema) (typeName : String) :
    sameName (schema.entityType typeName).attributeEntityId "meta_values" = false := by
  have hmem : (schema.entityType typeName).attributeEntityId ∈
      ["user_id", "comment_id", "term_id", "post_id"] := by
    unfold Schema.entityType
    split
    · simp
    · split
      · simp
      · split <;> simp
  have hall : ∀ c ∈ ["user_id", "comment_id", "term_id", "post_id"],
      sameName c "meta_values" = false := by decide
  exact hall _ hmem

/-- When the third statement of a plan runs, it leaves a table with one column for each field and
one row for each entity whose id is in the scratch table, and every field has its cell there. -/
theorem createResult_projects {schema : Schema} {typeName : String} {fields : List Field}
    {filters : List Filter} {tables : JobTables} {plan : Plan}
    (hc : Plan.compile schema typeName fields filters tables = .ok plan) {s : Store}
    {ids : List Int} (hs : s.table? tables.scratch = some (idTableOf tables.scratch ids))
    (hk : s.Keyed schema.tagTables (schema.entityType typeName)) :
    ∃ q p, plan.dataStatements = [.createIds tables.scratch, .insertIds tables.scratch q,
        .createResult tables.result p, .dropTable tables.scratch] ∧
      ∀ o s', s.run? o (.createResult tables.result p) = some s' → ∃ result,
        s'.table? tables.result = some result ∧
        result.columns.length = fields.length ∧
        result.columns.map Column.name = columnNames o.drawn (fields.map Field.label) ∧
        result.rows = Row.numbered ((s.chosen (schema.entityType typeName) ids).map fun e =>
          fields.map (s.cellOf schema.tagTables (schema.entityType typeName) e)) := by
  obtain ⟨-, parts, hp, rfl⟩ := Plan.compile_eq_ok.1 hc
  refine ⟨_, _, Plan.dataStatements_ofSelection .., fun o s' hs' => ?_⟩
  have hnames := s.names_resultTable o tables.result
    ((schema.entityType typeName).projection schema.tagTables tables fields)
  rw [labels_projection] at hnames
  refine ⟨_, table?_createResult hs', ?_, hnames, ?_⟩
  · have := congrArg List.length hnames
    rwa [List.length_map, length_columnNames, List.length_map] at this
  · exact congrArg Row.numbered (projectedRows_eq hk hs (unnumbered_entityTable schema typeName)
      (attributeEntityId_apart schema typeName) fields)

/-! ## A store of one post -/

/-- One post with one tag and with two attributes of one key, whose table is given its column of
ids. -/
def onePost (keys : Column) (first second : Value) : Store :=
  ⟨[⟨"posts", [.free "ID" .integer, .free "post_type" .text], .integer,
      Row.numbered [[.integer 1, .text "post"]]⟩,
    ⟨"postmeta", [keys, .free "meta_key" .text, .free "meta_value" .text], .none,
      Row.numbered [[first, .text "k", .text "x"], [second, .text "k", .text "x"]]⟩,
    ⟨"terms", [.free "term_id" .integer, .free "name" .text], .integer,
      Row.numbered [[.integer 1, .text "A"]]⟩,
    ⟨"term_taxonomy", [.free "term_taxonomy_id" .integer, .free "term_id" .integer,
      .free "taxonomy" .text], .integer, Row.numbered [[.integer 1, .integer 1, .text "c"]]⟩,
    ⟨"term_relationships", [.free "object_id" .integer, .free "term_taxonomy_id" .integer], .none,
      Row.numbered [[.integer 1, .integer 1]]⟩,
    idTableOf "s" [1]]⟩

def integerKeys : Store := onePost (.free "post_id" .integer) (.integer 1) (.integer 1)

def repeatedKey : List Field := [⟨.custom, "k", ""⟩, ⟨.tag, "c", ""⟩, ⟨.custom, "k", "l"⟩]

theorem keyed_integerKeys :
    integerKeys.Keyed (Schema.tagTables ⟨""⟩) (Schema.entityType ⟨""⟩ "post") where
  ids := by
    have h : ∀ e ∈ integerKeys.entries "posts", e "ID" = ⟨some .integer, .integer 1⟩ := by decide
    exact fun e he => ⟨1, h e he⟩
  columns := by decide
  attributes := by decide
  relations := by decide

theorem plainNames_onePost : (Schema.entityType ⟨""⟩ "post").PlainNames
    (Schema.tagTables ⟨""⟩) ⟨"s", "r"⟩ where
  entity := by decide
  attributes := by decide
  terms := by decide
  scratch := by decide

theorem createResult_projects_onePost : ∃ plan p s' result,
    Plan.compile ⟨""⟩ "post" repeatedKey [] ⟨"s", "r"⟩ = .ok plan ∧
      plan.dataStatements[2]? = some (.createResult "r" p) ∧
      integerKeys.run? .quiet (.createResult "r" p) = some s' ∧ s'.table? "r" = some result ∧
      result.columns.length = 3 ∧
      result.rows = [⟨1, [.text "x; x", .text "A", .text "x; x"]⟩] := by
  have hc : Plan.compile ⟨""⟩ "post" repeatedKey [] ⟨"s", "r"⟩ = .ok _ := rfl
  obtain ⟨q, p, hst, hproj⟩ :=
    createResult_projects hc (show integerKeys.table? "s" = some (idTableOf "s" [1]) by decide)
      keyed_integerKeys
  have hp : p = (Schema.entityType ⟨""⟩ "post").projection (Schema.tagTables ⟨""⟩) ⟨"s", "r"⟩
      repeatedKey := by
    cases hst
    rfl
  have hw : isWritten (.createResult "r" p) = true := by
    rw [hp, isWritten_iff]
    exact EntityType.plain_createResult plainNames_onePost (by decide) (by decide)
  have hruns : integerKeys.projectionRuns p = true ∧
      (integerKeys.create? (integerKeys.resultTable .quiet "r" p)).isSome = true := by
    rw [hp]
    decide +kernel
  obtain ⟨s', hs'⟩ := Option.isSome_iff_exists.1 hruns.2
  have hrun : integerKeys.run? .quiet (.createResult "r" p) = some s' := by
    simp [run?, hw, hruns.1, hs']
  obtain ⟨result, hres, hlen, -, hrows⟩ := hproj .quiet s' hrun
  refine ⟨_, p, s', result, hc, ?_, hrun, hres, hlen, ?_⟩
  · rw [hst]
    rfl
  · rw [hrows]
    decide +kernel

def untypedKeys : Store := onePost (.free "post_id" .blob) (.integer 1) (.text "1")

/-- Where ids have no type, the number and the text of one id make two groups, and the one post
that has both gets two rows. -/
theorem untypedKeys_make_two_rows : ∃ plan p s' result,
    Plan.compile ⟨""⟩ "post" [⟨.custom, "k", ""⟩] [] ⟨"s", "r"⟩ = .ok plan ∧
      plan.dataStatements[2]? = some (.createResult "r" p) ∧
      untypedKeys.table? "s" = some (idTableOf "s" [1]) ∧
      untypedKeys.run? .quiet (.createResult "r" p) = some s' ∧ s'.table? "r" = some result ∧
      result.rows = [⟨1, [.text "x"]⟩, ⟨2, [.text "x"]⟩] ∧
      (untypedKeys.chosen (Schema.entityType ⟨""⟩ "post") [1]).length = 1 := by
  obtain ⟨p, hp⟩ : ∃ p, p = (Schema.entityType ⟨""⟩ "post").projection (Schema.tagTables ⟨""⟩)
    ⟨"s", "r"⟩ [⟨.custom, "k", ""⟩] := ⟨_, rfl⟩
  have hw : isWritten (.createResult "r" p) = true := by
    rw [hp, isWritten_iff]
    exact EntityType.plain_createResult plainNames_onePost (by decide) (by decide)
  have hruns : (untypedKeys.projectionRuns p = true ∧
      (untypedKeys.create? (untypedKeys.resultTable .quiet "r" p)).isSome = true) ∧
      (untypedKeys.resultTable .quiet "r" p).rows = [⟨1, [.text "x"]⟩, ⟨2, [.text "x"]⟩] := by
    rw [hp]
    decide +kernel
  obtain ⟨⟨hr, hcreate⟩, hrows⟩ := hruns
  obtain ⟨s', hs'⟩ := Option.isSome_iff_exists.1 hcreate
  have hrun : untypedKeys.run? .quiet (.createResult "r" p) = some s' := by
    simp [run?, hw, hr, hs']
  refine ⟨_, p, s', _, Plan.compile_eq_ok.2 ⟨List.cons_ne_nil _ _, [], rfl, rfl⟩, ?_, by decide,
    hrun, table?_createResult hrun, hrows, by decide⟩
  rw [hp]
  rfl

end SheetExport.Store
