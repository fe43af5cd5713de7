import SheetExport.Proofs.Blocks
import SheetExport.Proofs.ProjectedRows
import SheetExport.Proofs.SiteTables

/-!
# Every reference of a plan has one target

The names in the statements of a plan are those of the entity and the scratch table, and numbered
names. The first differ from all numbered names, and these from each other by their stem within one
filter or field and by their number between two.
-/

namespace SheetExport

open Text (sameName)
open Sql (Apart Introduced Block Found Source Lookup Clause Join Supplement Reference found_table
  found_gathered settled_test settled_among settled_notAmong settled_nothing blocksOf_unambiguous)

/-! ## Names that no numbered name equals -/

def NeverNumbered (name : String) : Prop :=
  ∀ stem, IsStem stem → ∀ i, sameName name (numbered stem i) = false

theorem neverNumbered_of_underscore {name : String} (h : '_' ∈ name.toList) :
    NeverNumbered name := by
  intro stem hs i
  rw [← Bool.not_eq_true, Text.sameName, beq_iff_eq, lowerAscii_numbered hs]
  intro he
  have hmem : '_' ∈ (numbered stem i).toList := by
    rw [← he, toList_lowerAscii]
    exact List.mem_map.2 ⟨'_', h, rfl⟩
  rw [toList_numbered, List.mem_append] at hmem
  rcases hmem with hmem | hmem
  · exact absurd (hs _ hmem) (by decide)
  · exact absurd (isDigit_of_mem_toString hmem) (by decide)

/-! ## Numbered names -/

/-- The names that one filter or field gives to tables. -/
def numberedNames (stems : List String) (i : Nat) : List Introduced :=
  stems.map fun stem => ⟨numbered stem i, none⟩

/-- References through such names, each with a stem and a column. -/
def numberedReferences (columns : List (String × String)) (i : Nat) : List Reference :=
  columns.map fun c => .of (numbered c.1 i) c.2

section

variable {stems : List String} (i : Nat)

theorem apart_numberedNames (hs : ∀ stem ∈ stems, IsStem stem) (hn : stems.Nodup) :
    Apart ((numberedNames stems i).map Introduced.label) := by
  have hlabels : (numberedNames stems i).map Introduced.label = stems.map (numbered · i) := by
    rw [numberedNames, List.map_map]
    rfl
  rw [hlabels]
  exact Sql.apart_numbered hs hn i

theorem found_numbered {columns : List (String × String)} (h : ∀ c ∈ columns, c.1 ∈ stems)
    (own around : List Introduced) :
    ∀ r ∈ numberedReferences columns i, Found own (numberedNames stems i ++ around) r := by
  intro r hr
  obtain ⟨c, hc, rfl⟩ := List.mem_map.1 hr
  have hmem : (⟨numbered c.1 i, none⟩ : Introduced) ∈ numberedNames stems i :=
    List.mem_map.2 ⟨c.1, h c hc, rfl⟩
  exact found_table _ (List.mem_append_left _ hmem) c.2

end

/-- The names of an outer query: that of the entity, and numbered ones of certain stems. -/
structure Surrounds (table : String) (stems : List String) (around : List Introduced) : Prop where
  isStem : ∀ stem ∈ stems, IsStem stem
  apart : Apart (around.map Introduced.label)
  entity : (⟨table, none⟩ : Introduced) ∈ around
  labels : ∀ x ∈ around, x.label = table ∨ ∃ stem ∈ stems, ∃ i, x.label = numbered stem i

section

variable {table : String} {stems : List String} {around : List Introduced}

theorem surrounds_cons (ht : NeverNumbered table) (hs : ∀ stem ∈ stems, IsStem stem)
    (ha : Apart (around.map Introduced.label))
    (hl : ∀ x ∈ around, ∃ stem ∈ stems, ∃ i, x.label = numbered stem i) :
    Surrounds table stems (⟨table, none⟩ :: around) where
  isStem := hs
  apart := by
    refine List.pairwise_cons.2 ⟨fun label hlabel => ?_, ha⟩
    obtain ⟨x, hx, rfl⟩ := List.mem_map.1 hlabel
    obtain ⟨stem, hstem, i, hi⟩ := hl x hx
    rw [hi]
    exact ht stem (hs stem hstem) i
  entity := List.mem_cons_self
  labels := List.forall_mem_cons.2 ⟨.inl rfl, fun x hx => .inr (hl x hx)⟩

theorem Surrounds.apart_append (h : Surrounds table stems around) (own : List Introduced)
    (ho : Apart (own.map Introduced.label))
    (ht : ∀ x ∈ own, sameName x.label table = false)
    (hn : ∀ x ∈ own, ∀ stem ∈ stems, ∀ i, sameName x.label (numbered stem i) = false) :
    Apart ((own ++ around).map Introduced.label) := by
  rw [List.map_append]
  refine Sql.apart_append.2 ⟨ho, h.apart, fun a ha b hb => ?_⟩
  obtain ⟨x, hx, rfl⟩ := List.mem_map.1 ha
  obtain ⟨y, hy, rfl⟩ := List.mem_map.1 hb
  rcases h.labels y hy with hy | ⟨stem, hstem, j, hy⟩
  · rw [hy]
    exact ht x hx
  · rw [hy]
    exact hn x hx stem hstem j

theorem Surrounds.apart_numbered (h : Surrounds table stems around) (ht : NeverNumbered table)
    {own : List String} (hs : ∀ stem ∈ own, IsStem stem) (hn : own.Nodup)
    (hd : ∀ stem ∈ own, stem ∉ stems) (i : Nat) :
    Apart ((numberedNames own i ++ around).map Introduced.label) := by
  refine h.apart_append _ (apart_numberedNames i hs hn) (fun x hx => ?_)
    fun x hx other hother j => ?_
  · obtain ⟨stem, hstem, rfl⟩ := List.mem_map.1 hx
    rw [sameName_comm]
    exact ht stem (hs stem hstem) i
  · obtain ⟨stem, hstem, rfl⟩ := List.mem_map.1 hx
    have hne : stem ≠ other := fun heq => hd stem hstem (heq ▸ hother)
    rw [sameName_numbered (hs stem hstem) (h.isStem other hother), decide_eq_false hne,
      Bool.false_and]

end

namespace EntityType

variable {t : EntityType} {tags : TagTables} {tables : JobTables} {own : List Introduced}

/-! ## Filters -/

section

variable (h : Surrounds t.entityTable ["m", "tj"] own) (ht : NeverNumbered t.entityTable) (i : Nat)
include h ht

theorem taxonomyLookup_unambiguous (taxonomy : String) (term : Option String) :
    ((taxonomyLookup tags i taxonomy term).block own).Unambiguous := by
  have names : (taxonomyLookup tags i taxonomy term).sources.map Source.introduced =
      numberedNames ["tt", "trm"] i := rfl
  obtain ⟨columns, hstems, references⟩ : ∃ columns, (∀ c ∈ columns, c.1 ∈ ["tt", "trm"]) ∧
      (taxonomyLookup tags i taxonomy term).references = numberedReferences columns i := by
    cases term with
    | none =>
      exact ⟨[("tt", "term_taxonomy_id"), ("trm", "term_id"), ("tt", "term_id"),
        ("tt", "taxonomy")], by decide, rfl⟩
    | some v =>
      exact ⟨[("tt", "term_taxonomy_id"), ("trm", "term_id"), ("tt", "term_id"),
        ("tt", "taxonomy"), ("trm", "name")], by decide, rfl⟩
  rw [Lookup.block, names, references]
  exact Block.unambiguous (h.apart_numbered ht (by decide) (by decide) (by decide) i)
    (found_numbered i hstems _ _)

theorem tagNames_unambiguous (taxonomy : String) :
    ((t.tagNames tags i taxonomy).block own).Unambiguous := by
  have names : (t.tagNames tags i taxonomy).sources.map Source.introduced =
      numberedNames ["tr", "tw", "trm"] i := rfl
  have references : (t.tagNames tags i taxonomy).references =
      numberedReferences [("trm", "name"), ("tw", "term_taxonomy_id"), ("tr", "term_taxonomy_id"),
        ("tw", "taxonomy"), ("trm", "term_id"), ("tw", "term_id"), ("tr", "object_id")] i ++
      [t.idColumn] := rfl
  rw [Lookup.block, names, references]
  refine Block.unambiguous (h.apart_numbered ht (by decide) (by decide) (by decide) i) ?_
  -- The entity is seen from inside, since no name here is that of its table.
  exact List.forall_mem_append.2 ⟨found_numbered i (by decide) _ _,
    List.forall_mem_singleton.2 (found_table _ (List.mem_append_right _ h.entity) _)⟩

end

section

variable (h : Surrounds t.entityTable ["m", "tj"] own) {i : Nat} {f : Filter}
include h

theorem attributeJoin_settled (hm : (⟨numbered "m" i, none⟩ : Introduced) ∈ own) :
    ∀ c ∈ (t.attributeJoin i f).clauses, c.Settled own := by
  have m := found_table own hm
  have entity := found_table own h.entity
  refine List.forall_mem_cons.2 ⟨settled_test ?_, List.forall_mem_cons.2 ⟨settled_test ?_,
    List.forall_mem_singleton.2 (settled_test ?_)⟩⟩
  · exact List.forall_mem_cons.2 ⟨m _, List.forall_mem_singleton.2 (entity _)⟩
  · exact List.forall_mem_singleton.2 (m _)
  · exact List.forall_mem_singleton.2 (m _)

theorem tagJoin_settled (ht : NeverNumbered t.entityTable)
    (hm : (⟨numbered "tj" i, none⟩ : Introduced) ∈ own) (taxonomy : String)
    (term : Option String) : ∀ c ∈ (t.tagJoin tags i taxonomy term).clauses, c.Settled own := by
  have tj := found_table own hm
  have entity := found_table own h.entity
  refine List.forall_mem_cons.2 ⟨settled_test ?_, List.forall_mem_singleton.2 ?_⟩
  · exact List.forall_mem_cons.2 ⟨tj _, List.forall_mem_singleton.2 (entity _)⟩
  · exact settled_among (taxonomyLookup_unambiguous h ht i taxonomy term) (tj _)

theorem join_settled (ht : NeverNumbered t.entityTable) {j : Join}
    (hj : t.fragment tags i f = .ok (.join j)) (hown : j.source.introduced ∈ own) :
    ∀ c ∈ j.clauses, c.Settled own := by
  unfold fragment at hj
  split at hj
  · simp at hj
  · obtain rfl : t.attributeJoin i f = j := by simpa using hj
    exact attributeJoin_settled h hown
  · split at hj
    · obtain rfl : t.tagJoin tags i f.field.name (some f.operand) = j := by simpa using hj
      exact tagJoin_settled h ht hown _ _
    · obtain rfl : t.tagJoin tags i f.field.name none = j := by simpa using hj
      exact tagJoin_settled h ht hown _ _
    · simp at hj
    · simp at hj
    · simp at hj

theorem clause_settled (ht : NeverNumbered t.entityTable) {c : Clause}
    (hc : t.fragment tags i f = .ok (.clause c)) : c.Settled own := by
  unfold fragment at hc
  split at hc
  · obtain rfl : t.columnClause f = c := by simpa using hc
    exact settled_test (List.forall_mem_singleton.2 (found_table _ h.entity _))
  · simp at hc
  · split at hc
    · simp at hc
    · simp at hc
    · obtain rfl : Clause.notAmong f.operand (t.tagNames tags i f.field.name) = c := by
        simpa using hc
      exact settled_notAmong (tagNames_unambiguous h ht i _) _
    · obtain rfl : Clause.nothing (t.tagNames tags i f.field.name) = c := by simpa using hc
      exact settled_nothing (tagNames_unambiguous h ht i _)
    · simp at hc

theorem subtypeClause_settled : ∀ c ∈ t.subtypeClause, c.Settled own := by
  intro c hc
  obtain ⟨s, -, rfl⟩ := Option.map_eq_some_iff.1 (Option.mem_toList.1 hc)
  exact settled_test (List.forall_mem_singleton.2 (found_table _ h.entity _))

end

/-! ## Selections -/

section

variable {filters : List Filter} {parts : List (FieldKind × Fragment)}

theorem surrounds_selection (ht : NeverNumbered t.entityTable)
    (hp : t.fragmentsFrom tags 0 filters = .ok parts) :
    Surrounds t.entityTable ["m", "tj"] ((t.selection parts).source.introduced ::
      (t.selection parts).joins.map fun j => j.source.introduced) := by
  refine surrounds_cons ht (by decide) ?_ fun x hx => ?_
  · rw [List.map_map]
    exact List.pairwise_map.2 (joins_apart hp)
  · obtain ⟨j, hj, rfl⟩ := List.mem_map.1 hx
    obtain ⟨i, hi | hi⟩ := join_label hp hj
    · exact ⟨"m", by decide, i, hi⟩
    · exact ⟨"tj", by decide, i, hi⟩

theorem selection_unambiguous (ht : NeverNumbered t.entityTable)
    (hp : t.fragmentsFrom tags 0 filters = .ok parts) :
    ∀ b ∈ (t.selection parts).blocks, b.Unambiguous := by
  have h := surrounds_selection ht hp
  refine blocksOf_unambiguous h.apart
    (List.forall_mem_singleton.2 (found_table _ h.entity _)) ?_
  refine List.forall_mem_append.2 ⟨fun c hc => ?_, List.forall_mem_append.2 ⟨fun c hc => ?_,
    subtypeClause_settled h⟩⟩
  · obtain ⟨j, hj, hc⟩ := List.mem_flatMap.1 hc
    obtain ⟨kind, hpart⟩ := mem_joins.1 hj
    obtain ⟨i, f, -, hf⟩ := exists_filter hp hpart
    exact join_settled h ht hf (List.mem_cons_of_mem _ (List.mem_map_of_mem hj)) c hc
  · obtain ⟨kind, hpart⟩ := mem_clauses.1 hc
    obtain ⟨i, f, -, hf⟩ := exists_filter hp hpart
    exact clause_settled h ht hf

end

/-! ## Lookups of the scratch table -/

/-- The scratch table goes by its own name, which nothing else that an export reads has. -/
structure Separate (t : EntityType) (scratch : String) : Prop where
  entity : NeverNumbered t.entityTable
  ids : NeverNumbered scratch
  ofEntity : sameName scratch t.entityTable = false
  ofAttributes : sameName scratch t.attributeTable = false

theorem scratchIds_unambiguous
    (ha : Apart (tables.scratch :: own.map Introduced.label)) :
    ((scratchIds tables).block own).Unambiguous :=
  Block.unambiguous ha (List.forall_mem_singleton.2 ⟨_, rfl⟩)

theorem scratchIds_unambiguous_numbered (h : NeverNumbered tables.scratch) {stems : List String}
    (hs : ∀ stem ∈ stems, IsStem stem) (hn : stems.Nodup) (i : Nat) :
    ((scratchIds tables).block (numberedNames stems i)).Unambiguous := by
  refine scratchIds_unambiguous (List.pairwise_cons.2 ⟨fun label hl => ?_,
    apart_numberedNames i hs hn⟩)
  obtain ⟨x, hx, rfl⟩ := List.mem_map.1 hl
  obtain ⟨stem, hstem, rfl⟩ := List.mem_map.1 hx
  exact h stem (hs stem hstem) i

/-! ## Fields -/

section

variable (h : t.Separate tables.scratch)
include h

theorem attributeGathering_unambiguous (i : Nat) (key : String) :
    ∀ b ∈ (t.attributeSupplement tables i key).gathering.blocks, b.Unambiguous := by
  have bare : ∀ column, Found [⟨t.attributeTable, none⟩] [⟨t.attributeTable, none⟩]
      (.bare column) := fun _ => ⟨_, rfl⟩
  have names : Apart [tables.scratch, t.attributeTable] :=
    List.pairwise_pair.2 h.ofAttributes
  refine blocksOf_unambiguous (Sql.apart_singleton _) ?_ ?_
  · exact List.forall_mem_cons.2 ⟨bare _, List.forall_mem_singleton.2 (bare _)⟩
  · exact List.forall_mem_cons.2 ⟨settled_test (List.forall_mem_singleton.2 (bare _)),
      List.forall_mem_singleton.2 (settled_among (scratchIds_unambiguous names) (bare _))⟩

theorem tagGathering_unambiguous (i : Nat) (taxonomy : String) :
    ∀ b ∈ (t.tagSupplement tags tables i taxonomy).gathering.blocks, b.Unambiguous := by
  have names : (t.tagSupplement tags tables i taxonomy).gathering.sources.map Source.introduced =
      numberedNames ["tr", "tx", "trm"] i := rfl
  have references : (t.tagSupplement tags tables i taxonomy).gathering.references =
      numberedReferences [("tr", "object_id"), ("trm", "name"), ("tx", "term_taxonomy_id"),
        ("tr", "term_taxonomy_id"), ("tx", "taxonomy"), ("trm", "term_id"), ("tx", "term_id")] i :=
    rfl
  have found (columns : List (String × String)) (hc : ∀ c ∈ columns, c.1 ∈ ["tr", "tx", "trm"]) :
      ∀ r ∈ numberedReferences columns i, Found (numberedNames ["tr", "tx", "trm"] i)
        (numberedNames ["tr", "tx", "trm"] i) r := by
    simpa using found_numbered i hc (numberedNames ["tr", "tx", "trm"] i) []
  rw [Sql.Gathering.blocks, names, references]
  refine blocksOf_unambiguous (apart_numberedNames i (by decide) (by decide)) (found _ (by decide))
    (List.forall_mem_singleton.2 (settled_among ?_ ?_))
  · exact scratchIds_unambiguous_numbered h.ids (by decide) (by decide) i
  · exact found [("tr", "object_id")] (by decide) _ List.mem_cons_self

theorem gathering_unambiguous {i : Nat} {f : Field} {k : Supplement}
    (hk : t.supplement? tags tables i f = some k) :
    ∀ b ∈ k.gathering.blocks, b.Unambiguous := by
  unfold supplement? at hk
  split at hk
  · exact absurd hk (by simp)
  · exact Option.some.inj hk ▸ attributeGathering_unambiguous h i f.name
  · exact Option.some.inj hk ▸ tagGathering_unambiguous h i f.name

end

/-! ## Projections -/

theorem supplements_apart (fields : List Field) :
    ((t.projection tags tables fields).supplements).Pairwise fun k k' =>
      sameName k.label k'.label = false := by
  have hindex : fields.zipIdx.Pairwise fun x y => x.2 < y.2 := by
    refine List.pairwise_map.1 ?_
    rw [List.zipIdx_map_snd]
    exact List.pairwise_lt_range'
  refine List.Pairwise.filterMap _ (fun x y hlt k hk k' hk' => ?_) hindex
  have hne : x.2 ≠ y.2 := Nat.ne_of_lt hlt
  rcases Store.label_supplement hk with hk | hk <;> rcases Store.label_supplement hk' with hk' | hk'
  all_goals
    rw [hk, hk', sameName_numbered (by decide) (by decide), decide_eq_false hne, Bool.and_false]

theorem surrounds_projection (tags : TagTables) (tables : JobTables)
    (ht : NeverNumbered t.entityTable) (fields : List Field) :
    Surrounds t.entityTable ["m", "t"] ((t.projection tags tables fields).source.introduced ::
      (t.projection tags tables fields).supplements.map Supplement.introduced) := by
  refine surrounds_cons ht (by decide) ?_ fun x hx => ?_
  · rw [List.map_map]
    exact List.pairwise_map.2 (supplements_apart fields)
  · obtain ⟨k, hk, rfl⟩ := List.mem_map.1 hx
    obtain ⟨y, -, hy⟩ := List.mem_filterMap.1 hk
    rcases Store.label_supplement hy with h | h
    · exact ⟨"m", by decide, y.2, h⟩
    · exact ⟨"t", by decide, y.2, h⟩

section

variable (tags) (tables) {i : Nat} {f : Field}
  (hentity : (⟨t.entityTable, none⟩ : Introduced) ∈ own)
  (hk : ∀ k ∈ t.supplement? tags tables i f, k.introduced ∈ own)
  (hne : sameName t.attributeEntityId "meta_values" = false)
include hentity hk hne

theorem field_found : Found own own (t.outputColumn i f) ∧
    ∀ k ∈ t.supplement? tags tables i f, ∀ r ∈ k.test.references, Found own own r := by
  have entity := found_table own hentity
  unfold outputColumn
  unfold supplement? at hk ⊢
  cases hkind : f.kind with
  | fixed => exact ⟨entity _, fun k h => absurd h (by simp)⟩
  | custom =>
    simp only [hkind, Option.mem_def, Option.some.injEq, forall_eq'] at hk ⊢
    obtain ⟨key, values⟩ := found_gathered own hk hne
    exact ⟨values, List.forall_mem_cons.2 ⟨entity _, List.forall_mem_singleton.2 key⟩⟩
  | tag =>
    simp only [hkind, Option.mem_def, Option.some.injEq, forall_eq'] at hk ⊢
    obtain ⟨key, name⟩ :=
      found_gathered own hk (show sameName "object_id" "name" = false by decide)
    exact ⟨name, List.forall_mem_cons.2 ⟨key, List.forall_mem_singleton.2 (entity _)⟩⟩

end

theorem projection_unambiguous (h : t.Separate tables.scratch)
    (hne : sameName t.attributeEntityId "meta_values" = false) (fields : List Field) :
    ∀ b ∈ (t.projection tags tables fields).blocks, b.Unambiguous := by
  have hs := surrounds_projection tags tables h.entity fields
  have field {x : Field × Nat} (hx : x ∈ fields.zipIdx) :=
    field_found tags tables (i := x.2) (f := x.1) hs.entity (fun k hk =>
      List.mem_cons_of_mem _ (List.mem_map_of_mem (List.mem_filterMap.2 ⟨x, hx, hk⟩))) hne
  refine List.forall_mem_append.2 ⟨blocksOf_unambiguous hs.apart ?_ ?_, fun b hb => ?_⟩
  · refine List.forall_mem_append.2 ⟨fun r hr => ?_, fun r hr => ?_⟩
    · obtain ⟨o, ho, rfl⟩ := List.mem_map.1 hr
      obtain ⟨x, hx, rfl⟩ := List.mem_map.1 ho
      exact (field hx).1
    · obtain ⟨k, hk, hr⟩ := List.mem_flatMap.1 hr
      obtain ⟨x, hx, hk⟩ := List.mem_filterMap.1 hk
      exact (field hx).2 k hk r hr
  · refine List.forall_mem_singleton.2 (settled_among (scratchIds_unambiguous ?_)
      (found_table _ hs.entity _))
    exact hs.apart_append [⟨tables.scratch, none⟩] (Sql.apart_singleton _)
      (List.forall_mem_singleton.2 h.ofEntity)
      (List.forall_mem_singleton.2 fun stem hstem => h.ids stem (hs.isStem stem hstem))
  · obtain ⟨k, hk, hb⟩ := List.mem_flatMap.1 hb
    obtain ⟨x, -, hk⟩ := List.mem_filterMap.1 hk
    exact gathering_unambiguous h hk b hb

theorem separate_ofSuffix (schema : Schema) (typeName suffix : String) :
    (schema.entityType typeName).Separate (JobTables.ofSuffix schema suffix).scratch := by
  have site {name : String}
      (h : name ∈ (schema.entityType typeName).siteTables schema.tagTables) :=
    (Schema.site_apart h suffix).2.1
  refine ⟨fun stem hs i => (unnumbered_entityTable schema typeName).sameName hs i,
    neverNumbered_of_underscore ?_, site (by simp [siteTables]), site (by simp [siteTables])⟩
  simp [JobTables.ofSuffix, Schema.table]

end EntityType

/-- In the two queries of a plan and in each query inside them, no two names in scope are alike, and
every reference has one target. -/
theorem Plan.blocks_unambiguous {schema : Schema} {typeName suffix : String}
    {fields : List Field} {filters : List Filter} {plan : Plan}
    (hc : Plan.compile schema typeName fields filters (.ofSuffix schema suffix) = .ok plan) :
    ∃ q p, plan.dataStatements =
        [.createIds (JobTables.ofSuffix schema suffix).scratch,
          .insertIds (JobTables.ofSuffix schema suffix).scratch q,
          .createResult (JobTables.ofSuffix schema suffix).result p,
          .dropTable (JobTables.ofSuffix schema suffix).scratch] ∧
      (∀ b ∈ q.blocks, b.Unambiguous) ∧ ∀ b ∈ p.blocks, b.Unambiguous := by
  obtain ⟨-, parts, hp, rfl⟩ := Plan.compile_eq_ok.1 hc
  have h := EntityType.separate_ofSuffix schema typeName suffix
  exact ⟨_, _, Plan.dataStatements_ofSelection .., EntityType.selection_unambiguous h.entity hp,
    EntityType.projection_unambiguous h (Store.attributeEntityId_apart schema typeName) fields⟩

/-- Terms are the case where the table of the entity is one of the tag tables too. -/
theorem blocks_unambiguous_terms : ∃ plan,
    Plan.compile ⟨"wp_"⟩ "term" [⟨.fixed, "name", "Name"⟩, ⟨.custom, "color", ""⟩,
        ⟨.tag, "category", ""⟩, ⟨.custom, "color", "Color"⟩]
      [⟨⟨.tag, "category", ""⟩, .contains, some "News", none⟩,
        ⟨⟨.tag, "post_tag", ""⟩, .notContains, some "x", none⟩,
        ⟨⟨.custom, "color", ""⟩, .compare .eq, some "red", none⟩,
        ⟨⟨.tag, "category", ""⟩, .empty, none, none⟩]
      (.ofSuffix ⟨"wp_"⟩ "abc1234") = .ok plan ∧
    ∃ q p, plan.dataStatements =
        [.createIds (JobTables.ofSuffix ⟨"wp_"⟩ "abc1234").scratch,
          .insertIds (JobTables.ofSuffix ⟨"wp_"⟩ "abc1234").scratch q,
          .createResult (JobTables.ofSuffix ⟨"wp_"⟩ "abc1234").result p,
          .dropTable (JobTables.ofSuffix ⟨"wp_"⟩ "abc1234").scratch] ∧
      (∀ b ∈ q.blocks, b.Unambiguous) ∧ ∀ b ∈ p.blocks, b.Unambiguous := by
  refine Exists.imp (fun plan hc => ⟨hc, Plan.blocks_unambiguous hc⟩) ?_
  exact ⟨_, rfl⟩

end SheetExport
