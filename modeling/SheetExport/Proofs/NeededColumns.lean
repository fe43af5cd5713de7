import SheetExport.Proofs.Resolution

/-!
# The columns that filters name

The selection of an export resolves exactly when the entity has its id and, where it shares a
table, its subtype, and every column is there that some filter names.
-/

namespace SheetExport

open Text (sameName)
open Sql (Reference Source Test Lookup Clause Join Selection)

namespace EntityType

/-- The columns that a filter names, each with its table. -/
def neededBy (t : EntityType) (tags : TagTables) (f : Filter) : List (String × String) :=
  match f.field.kind with
  | .fixed => [(t.entityTable, f.field.name)]
  | .custom =>
    [(t.attributeTable, t.attributeEntityId), (t.attributeTable, "meta_key"),
      (t.attributeTable, "meta_value")]
  | .tag =>
    [(tags.termRelationships, "object_id"), (tags.termRelationships, "term_taxonomy_id"),
      (tags.termTaxonomy, "term_taxonomy_id"), (tags.termTaxonomy, "term_id"),
      (tags.termTaxonomy, "taxonomy"), (tags.terms, "term_id")] ++
      if f.rule = .notEmpty then [] else [(tags.terms, "name")]

/-- The columns that the selection of a list of filters names. -/
def neededColumns (t : EntityType) (tags : TagTables) (filters : List Filter) :
    List (String × String) :=
  (t.entityTable, t.entityId) :: (t.subtype.map fun _ => (t.entityTable, subtypeColumn)).toList ++
    filters.flatMap (t.neededBy tags)

end EntityType

namespace Store

/-! ## References in scope -/

/-- Sources of one name are of one table. -/
def Told (sources : List Source) : Prop :=
  ∀ a ∈ sources, ∀ b ∈ sources, sameName a.label b.label = true → a.table = b.table

theorem told_of_pairwise {sources : List Source}
    (h : sources.Pairwise fun a b => sameName a.label b.label = false) : Told sources := by
  induction sources with
  | nil => exact fun a ha => absurd ha List.not_mem_nil
  | cons x rest ih =>
    obtain ⟨hx, hr⟩ := List.pairwise_cons.1 h
    intro a ha b hb hs
    rcases List.mem_cons.1 ha with rfl | ma <;> rcases List.mem_cons.1 hb with rfl | mb
    · rfl
    · rw [hx b mb] at hs
      exact absurd hs Bool.false_ne_true
    · rw [sameName_comm, hx a ma] at hs
      exact absurd hs Bool.false_ne_true
    · exact ih hr a ma b mb hs

theorem Told.append {own around : List Source} (ho : Told own) (ha : Told around)
    (hx : ∀ a ∈ own, ∀ b ∈ around, sameName a.label b.label = false) : Told (own ++ around) := by
  intro a ma b mb hs
  rcases List.mem_append.1 ma with ma | ma <;> rcases List.mem_append.1 mb with mb | mb
  · exact ho a ma b mb hs
  · rw [hx a ma b mb] at hs
    exact absurd hs Bool.false_ne_true
  · rw [sameName_comm, hx b mb a ma] at hs
    exact absurd hs Bool.false_ne_true
  · exact ha a ma b mb hs

theorem Told.finds (s : Store) {sources : List Source} (h : Told sources) (source : Source)
    (hm : source ∈ sources) (column : String) :
    s.Finds sources (.of source.label column) ↔ s.offers source.table column = true := by
  simp only [Finds]
  constructor
  · rintro ⟨other, ho, hs, hoff⟩
    rwa [h other ho _ hm hs] at hoff
  · intro hoff
    exact ⟨_, hm, sameName_self _, hoff⟩

/-- The sources of an outer query: the entity, and joins under their numbered names. -/
structure OuterSources (table : String) (sources : List Source) : Prop where
  told : Told sources
  entity : ⟨table, none⟩ ∈ sources
  labels : ∀ source ∈ sources, source.label = table ∨
    ∃ i, source.label = numbered "m" i ∨ source.label = numbered "tj" i

section

variable {s : Store} {tags : TagTables} {t : EntityType} {sources : List Source}

theorem OuterSources.finds_id (ho : OuterSources t.entityTable sources) (column : String) :
    s.Finds sources (.of t.entityTable column) ↔ s.offers t.entityTable column = true :=
  ho.told.finds s _ ho.entity column

/-- Sources of a lookup may come before those of the outer query. -/
theorem OuterSources.under (ho : OuterSources t.entityTable sources)
    (hl : Unnumbered t.entityTable) {own : List Source} (hown : Told own)
    (hlabels : ∀ a ∈ own, ∃ stem i, a.label = numbered stem i ∧ IsStem stem ∧ stem ≠ "m" ∧
      stem ≠ "tj") : Told (own ++ sources) := by
  refine hown.append ho.told ?_
  intro a ha b hb
  obtain ⟨stem, i, hai, hst, hm, htj⟩ := hlabels a ha
  rw [hai, sameName_comm]
  obtain h | ⟨k, h | h⟩ := ho.labels b hb
  · rw [h]
    exact hl.sameName hst i
  · rw [h, sameName_numbered (show IsStem "m" by decide) hst]
    simp [Ne.symm hm]
  · rw [h, sameName_numbered (show IsStem "tj" by decide) hst]
    simp [Ne.symm htj]

/-! ## Lookups -/

theorem tagNames_finds (ho : OuterSources t.entityTable sources)
    (hl : Unnumbered t.entityTable) (i : Nat) (taxonomy : String) :
    s.LookupFinds sources (t.tagNames tags i taxonomy) ↔
      s.offers t.entityTable t.entityId = true ∧
        s.offersAll [(tags.termRelationships, "object_id"),
          (tags.termRelationships, "term_taxonomy_id"), (tags.termTaxonomy, "term_taxonomy_id"),
          (tags.termTaxonomy, "term_id"), (tags.termTaxonomy, "taxonomy"), (tags.terms, "term_id"),
          (tags.terms, "name")] := by
  have own : (t.tagNames tags i taxonomy).sources =
      [⟨tags.termRelationships, some (numbered "tr" i)⟩,
        ⟨tags.termTaxonomy, some (numbered "tw" i)⟩, ⟨tags.terms, some (numbered "trm" i)⟩] := rfl
  have told : Told ((t.tagNames tags i taxonomy).sources ++ sources) := by
    refine ho.under hl (told_of_pairwise ?_) ?_
    · rw [own]
      simp [Source.label,
        sameName_numbered (show IsStem "tr" by decide) (show IsStem "tw" by decide),
        sameName_numbered (show IsStem "tr" by decide) (show IsStem "trm" by decide),
        sameName_numbered (show IsStem "tw" by decide) (show IsStem "trm" by decide)]
    · rw [own]
      simp only [List.forall_mem_cons, Source.label, Option.getD_some]
      exact ⟨⟨"tr", i, rfl, by decide⟩, ⟨"tw", i, rfl, by decide⟩, ⟨"trm", i, rfl, by decide⟩,
        by simp⟩
  have tr := told.finds s ⟨tags.termRelationships, some (numbered "tr" i)⟩ (by simp [own])
  have tw := told.finds s ⟨tags.termTaxonomy, some (numbered "tw" i)⟩ (by simp [own])
  have trm := told.finds s ⟨tags.terms, some (numbered "trm" i)⟩ (by simp [own])
  have entity := told.finds s _ (List.mem_append_right _ ho.entity)
  simp only [Source.label, Option.getD_some, Option.getD_none] at tr tw trm entity
  have refs : (t.tagNames tags i taxonomy).references =
      [.of (numbered "trm" i) "name",
        .of (numbered "tw" i) "term_taxonomy_id", .of (numbered "tr" i) "term_taxonomy_id",
        .of (numbered "tw" i) "taxonomy",
        .of (numbered "trm" i) "term_id", .of (numbered "tw" i) "term_id",
        .of (numbered "tr" i) "object_id", .of t.entityTable t.entityId] := rfl
  rw [LookupFinds, refs]
  simp only [List.forall_mem_cons, tr, tw, trm, entity, offersAll, List.not_mem_nil,
    false_implies, implies_true, and_true]
  rw [own]
  simp only [List.forall_mem_cons, List.not_mem_nil, false_implies, implies_true, and_true]
  constructor
  · rintro ⟨-, h1, h2, h3, h4, h5, h6, h7, h8⟩
    exact ⟨h8, h7, h3, h2, h6, h4, h5, h1⟩
  · rintro ⟨h8, h7, h3, h2, h6, h4, h5, h1⟩
    exact ⟨⟨isSome_of_offers h7, isSome_of_offers h2, isSome_of_offers h1⟩, h1, h2, h3, h4, h5, h6,
      h7, h8⟩

theorem taxonomyLookup_finds (ho : OuterSources t.entityTable sources)
    (hl : Unnumbered t.entityTable) (i : Nat) (taxonomy : String) (term : Option String) :
    s.LookupFinds sources (EntityType.taxonomyLookup tags i taxonomy term) ↔
      s.offersAll ([(tags.termTaxonomy, "term_taxonomy_id"), (tags.termTaxonomy, "term_id"),
        (tags.termTaxonomy, "taxonomy"), (tags.terms, "term_id")] ++
        (term.map fun _ => (tags.terms, "name")).toList) := by
  have own : (EntityType.taxonomyLookup tags i taxonomy term).sources =
      [⟨tags.termTaxonomy, some (numbered "tt" i)⟩, ⟨tags.terms, some (numbered "trm" i)⟩] := rfl
  have told : Told ((EntityType.taxonomyLookup tags i taxonomy term).sources ++ sources) := by
    refine ho.under hl (told_of_pairwise ?_) ?_
    · rw [own]
      simp [Source.label,
        sameName_numbered (show IsStem "tt" by decide) (show IsStem "trm" by decide)]
    · rw [own]
      simp only [List.forall_mem_cons, Source.label, Option.getD_some]
      exact ⟨⟨"tt", i, rfl, by decide⟩, ⟨"trm", i, rfl, by decide⟩, by simp⟩
  have tt := told.finds s ⟨tags.termTaxonomy, some (numbered "tt" i)⟩ (by simp [own])
  have trm := told.finds s ⟨tags.terms, some (numbered "trm" i)⟩ (by simp [own])
  simp only [Source.label, Option.getD_some] at tt trm
  have refs : (EntityType.taxonomyLookup tags i taxonomy term).references =
      [.of (numbered "tt" i) "term_taxonomy_id", .of (numbered "trm" i) "term_id",
        .of (numbered "tt" i) "term_id", .of (numbered "tt" i) "taxonomy"] ++
        (term.map fun _ => Reference.of (numbered "trm" i) "name").toList := by
    cases term <;> rfl
  have name : (∀ r ∈ (term.map fun _ => Reference.of (numbered "trm" i) "name").toList,
      s.Finds ((EntityType.taxonomyLookup tags i taxonomy term).sources ++ sources) r) ↔
      s.offersAll (term.map fun _ => (tags.terms, "name")).toList := by
    cases term <;> simp [offersAll, trm]
  rw [LookupFinds, refs, List.forall_mem_append, name, offersAll_append]
  simp only [List.forall_mem_cons, tt, trm, offersAll, List.not_mem_nil,
    false_implies, implies_true, and_true]
  rw [own]
  simp only [List.forall_mem_cons, List.not_mem_nil, false_implies, implies_true, and_true]
  constructor
  · rintro ⟨-, ⟨h1, h2, h3, h4⟩, hn⟩
    exact ⟨⟨h1, h3, h4, h2⟩, hn⟩
  · rintro ⟨⟨h1, h3, h4, h2⟩, hn⟩
    exact ⟨⟨isSome_of_offers h1, isSome_of_offers h2⟩, ⟨h1, h2, h3, h4⟩, hn⟩

/-! ## Fragments -/

/-- All tables and columns of a fragment are there. -/
def FragmentFinds (s : Store) (sources : List Source) : Fragment → Prop
  | .join j => (s.table? j.source.table).isSome = true ∧
      ∀ c ∈ j.clauses, s.ClauseFinds sources c
  | .clause c => s.ClauseFinds sources c

theorem attributeJoin_finds (ho : OuterSources t.entityTable sources)
    (hid : s.offers t.entityTable t.entityId = true) {i : Nat} {f : Filter}
    (hm : (t.attributeJoin i f).source ∈ sources) :
    s.FragmentFinds sources (.join (t.attributeJoin i f)) ↔
      s.offersAll [(t.attributeTable, t.attributeEntityId), (t.attributeTable, "meta_key"),
        (t.attributeTable, "meta_value")] := by
  have m := ho.told.finds s _ hm
  have entity := ho.finds_id (s := s)
  simp only [EntityType.attributeJoin, Source.label, Option.getD_some] at m
  simp only [FragmentFinds, EntityType.attributeJoin, EntityType.idColumn, List.forall_mem_cons,
    ClauseFinds, Test.references, Test.isText, m, entity, hid, offersAll, List.not_mem_nil,
    false_implies, implies_true, and_true]
  exact ⟨fun h => h.2, fun h => ⟨isSome_of_offers h.1, h⟩⟩

theorem tagJoin_finds (ho : OuterSources t.entityTable sources) (hl : Unnumbered t.entityTable)
    (hid : s.offers t.entityTable t.entityId = true) {i : Nat} {taxonomy : String}
    {term : Option String} (hm : (t.tagJoin tags i taxonomy term).source ∈ sources) :
    s.FragmentFinds sources (.join (t.tagJoin tags i taxonomy term)) ↔
      s.offersAll ([(tags.termRelationships, "object_id"),
        (tags.termRelationships, "term_taxonomy_id"), (tags.termTaxonomy, "term_taxonomy_id"),
        (tags.termTaxonomy, "term_id"), (tags.termTaxonomy, "taxonomy"),
        (tags.terms, "term_id")] ++ (term.map fun _ => (tags.terms, "name")).toList) := by
  have tj := ho.told.finds s _ hm
  have entity := ho.finds_id (s := s)
  have lookup : s.LookupFinds sources (EntityType.taxonomyLookup tags i taxonomy term) ↔ _ :=
    taxonomyLookup_finds ho hl i taxonomy term
  simp only [EntityType.tagJoin, Source.label, Option.getD_some] at tj
  simp only [FragmentFinds, EntityType.tagJoin, EntityType.idColumn, List.forall_mem_cons,
    ClauseFinds, Test.references, tj, entity, hid, lookup, offersAll_append]
  simp only [offersAll, List.forall_mem_cons, List.not_mem_nil, false_implies, implies_true,
    and_true]
  constructor
  · rintro ⟨-, h1, h2, ⟨h3, h4, h5, h6⟩, hn⟩
    exact ⟨⟨h1, h2, h3, h4, h5, h6⟩, hn⟩
  · rintro ⟨⟨h1, h2, h3, h4, h5, h6⟩, hn⟩
    exact ⟨isSome_of_offers h1, h1, h2, ⟨h3, h4, h5, h6⟩, hn⟩

theorem fragment_finds (ho : OuterSources t.entityTable sources) (hl : Unnumbered t.entityTable)
    (hid : s.offers t.entityTable t.entityId = true) {i : Nat} {f : Filter} {p : Fragment}
    (h : t.fragment tags i f = .ok p) (hm : ∀ j, p = .join j → j.source ∈ sources) :
    s.FragmentFinds sources p ↔ s.offersAll (t.neededBy tags f) := by
  unfold EntityType.fragment at h
  unfold EntityType.neededBy
  cases hk : f.field.kind with
  | fixed =>
    simp only [hk, Except.ok.injEq] at h
    subst h
    simp [FragmentFinds, EntityType.columnClause, ClauseFinds, Test.references, ho.finds_id,
      offersAll]
  | custom =>
    simp only [hk, Except.ok.injEq] at h
    subst h
    exact attributeJoin_finds ho hid (hm _ rfl)
  | tag =>
    simp only [hk] at h
    cases hr : f.rule with
    | compare c => simp [hr] at h
    | contains =>
      simp only [hr, Except.ok.injEq] at h
      subst h
      exact tagJoin_finds ho hl hid (hm _ rfl)
    | notEmpty =>
      simp only [hr, Except.ok.injEq] at h
      subst h
      exact tagJoin_finds ho hl hid (hm _ rfl)
    | notContains =>
      simp only [hr, Except.ok.injEq] at h
      subst h
      exact (tagNames_finds ho hl i _).trans (and_iff_right hid)
    | empty =>
      simp only [hr, Except.ok.injEq] at h
      subst h
      exact (tagNames_finds ho hl i _).trans (and_iff_right hid)

/-! ## Selections -/

theorem outerSources_selection {filters : List Filter} {parts : List (FieldKind × Fragment)}
    (hl : Unnumbered t.entityTable) (hp : t.fragmentsFrom tags 0 filters = .ok parts) :
    OuterSources t.entityTable (selectionSources (t.selection parts)) := by
  have labels {source : Source} (hs : source ∈ (t.selection parts).joins.map Join.source) :
      ∃ i, source.label = numbered "m" i ∨ source.label = numbered "tj" i := by
    obtain ⟨j, hj, rfl⟩ := List.mem_map.1 hs
    exact EntityType.join_label hp hj
  refine ⟨told_of_pairwise (List.pairwise_cons.2 ⟨fun source hs => ?_, ?_⟩),
    List.mem_cons_self, fun source hs => ?_⟩
  · obtain ⟨i, h | h⟩ := labels hs
    · rw [h]
      exact hl.sameName (by decide) i
    · rw [h]
      exact hl.sameName (by decide) i
  · exact List.pairwise_map.2 (EntityType.joins_apart hp)
  · rcases List.mem_cons.1 hs with rfl | hs
    · exact .inl rfl
    · exact .inr (labels hs)

theorem subtypeClause_finds (ho : OuterSources t.entityTable sources) :
    (∀ c ∈ t.subtypeClause, s.ClauseFinds sources c) ↔
      s.offersAll (t.subtype.map fun _ => (t.entityTable, subtypeColumn)).toList := by
  unfold EntityType.subtypeClause
  cases t.subtype with
  | none => simp [offersAll]
  | some v => simp [offersAll, ClauseFinds, Test.references, Test.isText, ho.finds_id]

theorem exists_part {filters : List Filter} : ∀ {n : Nat} {parts : List (FieldKind × Fragment)},
    t.fragmentsFrom tags n filters = .ok parts → ∀ f ∈ filters,
    ∃ i p, t.fragment tags i f = .ok p ∧ (f.field.kind, p) ∈ parts := by
  induction filters with
  | nil => exact fun _ f hf => absurd hf List.not_mem_nil
  | cons g rest ih =>
    intro n parts h f hf
    obtain ⟨p, others, hp, hrest, rfl⟩ := EntityType.fragmentsFrom_cons.1 h
    rcases List.mem_cons.1 hf with rfl | hf
    · exact ⟨n, p, hp, List.mem_cons_self⟩
    · obtain ⟨i, q, hq, hm⟩ := ih hrest f hf
      exact ⟨i, q, hq, List.mem_cons_of_mem _ hm⟩

theorem source_mem_selection {kind : FieldKind} {j : Join}
    {parts : List (FieldKind × Fragment)} (hj : (kind, Fragment.join j) ∈ parts) :
    j.source ∈ selectionSources (t.selection parts) :=
  List.mem_cons_of_mem _ (List.mem_map_of_mem (EntityType.mem_joins.2 ⟨kind, hj⟩))

theorem selectionResolves_iff_parts {parts : List (FieldKind × Fragment)}
    (ho : OuterSources t.entityTable (selectionSources (t.selection parts))) :
    s.selectionResolves (t.selection parts) = true ↔
      s.offers t.entityTable t.entityId = true ∧
        s.offersAll (t.subtype.map fun _ => (t.entityTable, subtypeColumn)).toList ∧
        ∀ part ∈ parts, s.FragmentFinds (selectionSources (t.selection parts)) part.2 := by
  rw [selectionResolves_iff, ← subtypeClause_finds ho]
  have id := ho.finds_id (s := s) t.entityId
  constructor
  · rintro ⟨htables, hcol, hjoins, hclauses⟩
    have hclauses := List.forall_mem_append.1 hclauses
    refine ⟨id.1 hcol, hclauses.2, ?_⟩
    rintro ⟨kind, p⟩ hpart
    cases p with
    | join j =>
      exact ⟨htables _ (source_mem_selection hpart),
        hjoins j (EntityType.mem_joins.2 ⟨kind, hpart⟩)⟩
    | clause c => exact hclauses.1 c (EntityType.mem_clauses.2 ⟨kind, hpart⟩)
  · rintro ⟨hid, hsub, hparts⟩
    refine ⟨?_, id.2 hid, ?_, List.forall_mem_append.2 ⟨?_, hsub⟩⟩
    · refine List.forall_mem_cons.2 ⟨isSome_of_offers hid, fun source hs => ?_⟩
      obtain ⟨j, hj, rfl⟩ := List.mem_map.1 hs
      obtain ⟨kind, hk⟩ := EntityType.mem_joins.1 hj
      exact (hparts _ hk).1
    · intro j hj
      obtain ⟨kind, hk⟩ := EntityType.mem_joins.1 hj
      exact (hparts _ hk).2
    · intro c hc
      obtain ⟨kind, hk⟩ := EntityType.mem_clauses.1 hc
      exact hparts _ hk

/-- A selection finds everything it names exactly when its needed columns are there. -/
theorem selectionResolves_iff_offersAll {filters : List Filter}
    {parts : List (FieldKind × Fragment)} (hl : Unnumbered t.entityTable)
    (hp : t.fragmentsFrom tags 0 filters = .ok parts) :
    s.selectionResolves (t.selection parts) = true ↔
      s.offersAll (t.neededColumns tags filters) := by
  have ho := outerSources_selection (t := t) hl hp
  rw [selectionResolves_iff_parts ho, EntityType.neededColumns, List.cons_append, offersAll_cons,
    offersAll_append]
  refine and_congr_right fun hid => and_congr_right fun _ => ?_
  constructor
  · intro h c hc
    obtain ⟨f, hf, hc⟩ := List.mem_flatMap.1 hc
    obtain ⟨i, p, hpf, hm⟩ := exists_part hp f hf
    refine (fragment_finds ho hl hid hpf ?_).1 (h _ hm) c hc
    rintro j rfl
    exact source_mem_selection hm
  · rintro h ⟨kind, p⟩ hm
    obtain ⟨i, f, hf, hpf⟩ := EntityType.exists_filter hp hm
    refine (fragment_finds ho hl hid hpf ?_).2 fun c hc => h c (List.mem_flatMap.2 ⟨f, hf, hc⟩)
    rintro j hj
    simp only at hj
    subst hj
    exact source_mem_selection hm

end

end Store

end SheetExport
