import SheetExport.Proofs.NeededColumns

/-!
# What fields need

The projection of an export resolves exactly when the store provides every field. An attribute
needs no more than its table, since its columns are named without the table and so stand for texts
where they are missing. A tag needs the columns that link it to an entity.
-/

namespace SheetExport

open Text (sameName)
open Sql (Reference Source Test Link Gathering Supplement Projection)

/-- The columns that lead from an entity to the names of its tags. -/
def TagTables.columns (tags : TagTables) : List (String × String) :=
  [(tags.termRelationships, "object_id"), (tags.termRelationships, "term_taxonomy_id"),
    (tags.termTaxonomy, "term_taxonomy_id"), (tags.termTaxonomy, "term_id"),
    (tags.termTaxonomy, "taxonomy"), (tags.terms, "term_id"), (tags.terms, "name")]

namespace Sql.Gathering

def sources (g : Gathering) : List Source := g.source :: g.links.map (·.source)

def references (g : Gathering) : List Reference :=
  g.key :: g.gathered :: (g.links.flatMap Link.tests).flatMap Test.references

end Sql.Gathering

namespace Store

/-- Whether the store has what a field is taken from. -/
def Provides (s : Store) (tags : TagTables) (t : EntityType) (f : Field) : Prop :=
  match f.kind with
  | .fixed => s.offers t.entityTable f.name = true
  | .custom => (s.table? t.attributeTable).isSome = true
  | .tag => s.offersAll tags.columns

variable {s : Store} {t : EntityType} {tags : TagTables} {tables : JobTables}

/-! ## Gatherings -/

theorem headers?_singleton {table : String} {u : Table} (h : s.table? table = some u) :
    s.headers? [⟨table, none⟩] = some [u.header table] := by
  have hs : s.header? ⟨table, none⟩ = some (u.header table) := header?_eq_some.2 ⟨u, h, rfl⟩
  unfold headers?
  rw [List.mapM_cons, hs]
  rfl

theorem headers?_singleton_none {table : String} (h : s.table? table = none) :
    s.headers? [⟨table, none⟩] = none := by
  have hs : s.header? ⟨table, none⟩ = none := by
    unfold header?
    rw [h]
    rfl
  unfold headers?
  rw [List.mapM_cons, hs]
  rfl

theorem lookupResolves_scratchIds (outer : List Header) :
    s.lookupResolves outer (EntityType.scratchIds tables) =
      (s.table? tables.scratch).isSome := by
  unfold lookupResolves EntityType.scratchIds
  rw [List.map_nil]
  cases h : s.table? tables.scratch with
  | none =>
    rw [headers?_singleton_none h]
    rfl
  | some u =>
    rw [headers?_singleton h]
    rfl

theorem gatheringResolves_attributes (hscratch : (s.table? tables.scratch).isSome = true) (n : Nat)
    (key : String) : s.gatheringResolves (t.attributeSupplement tables n key).gathering =
      (s.table? t.attributeTable).isSome := by
  unfold gatheringResolves EntityType.attributeSupplement
  dsimp only
  rw [List.map_nil]
  cases h : s.table? t.attributeTable with
  | none =>
    rw [headers?_singleton_none h]
    rfl
  | some u =>
    rw [headers?_singleton h]
    simp [resolves, clauseResolves, Test.isText, testResolves, lookupResolves_scratchIds, hscratch]

theorem lookupFinds_scratchIds (hscratch : (s.table? tables.scratch).isSome = true)
    (around : List Source) : s.LookupFinds around (EntityType.scratchIds tables) := by
  refine ⟨List.forall_mem_singleton.2 hscratch, List.forall_mem_singleton.2 ?_⟩
  trivial

theorem gatheringResolves_iff {g : Gathering} :
    s.gatheringResolves g = true ↔
      (∀ source ∈ g.sources, (s.table? source.table).isSome = true) ∧
        (∀ r ∈ g.references, s.Finds g.sources r) ∧
        ∀ c ∈ g.clauses, s.ClauseFinds g.sources c := by
  have hall {headers : List Header} (ho : s.headers? g.sources = some headers) :
      s.gatheringResolves g = true ↔ (∀ r ∈ g.references, s.Finds g.sources r) ∧
        ∀ c ∈ g.clauses, s.ClauseFinds g.sources c := by
    have hc := headers?_covers ho
    unfold gatheringResolves
    unfold Gathering.sources at ho
    rw [ho]
    simp only [Bool.and_eq_true, List.all_eq_true, resolves_iff hc, testResolves_iff hc,
      clauseResolves_iff hc, Gathering.references, List.forall_mem_cons, List.mem_flatMap,
      forall_exists_index, and_imp, and_assoc]
    refine and_congr_right fun _ => and_congr_right fun _ => and_congr_left fun _ => ?_
    exact ⟨fun h r x k hk hx hr => h k hk x hx r hr, fun h k hk x hx r hr => h r x k hk hx hr⟩
  rw [← headers?_isSome]
  constructor
  · intro h
    have hex : ∃ headers, s.headers? g.sources = some headers := by
      unfold gatheringResolves at h
      split at h
      · exact absurd h Bool.false_ne_true
      · rename_i headers ho
        exact ⟨headers, ho⟩
    obtain ⟨headers, ho⟩ := hex
    exact ⟨⟨headers, ho⟩, (hall ho).1 h⟩
  · rintro ⟨⟨headers, ho⟩, h⟩
    exact (hall ho).2 h

theorem gatheringResolves_tags (hscratch : (s.table? tables.scratch).isSome = true) (n : Nat)
    (taxonomy : String) :
    s.gatheringResolves (t.tagSupplement tags tables n taxonomy).gathering = true ↔
      s.offersAll tags.columns := by
  -- The three tables go by names of their own, so each column is looked for in one of them.
  have own : (t.tagSupplement tags tables n taxonomy).gathering.sources =
      [⟨tags.termRelationships, some (numbered "tr" n)⟩,
        ⟨tags.termTaxonomy, some (numbered "tx" n)⟩, ⟨tags.terms, some (numbered "trm" n)⟩] := rfl
  have told : Told (t.tagSupplement tags tables n taxonomy).gathering.sources := by
    refine told_of_pairwise ?_
    rw [own]
    simp [Source.label, sameName_numbered (show IsStem "tr" by decide) (show IsStem "tx" by decide),
      sameName_numbered (show IsStem "tr" by decide) (show IsStem "trm" by decide),
      sameName_numbered (show IsStem "tx" by decide) (show IsStem "trm" by decide)]
  have tr := told.finds s ⟨tags.termRelationships, some (numbered "tr" n)⟩ (by simp [own])
  have tx := told.finds s ⟨tags.termTaxonomy, some (numbered "tx" n)⟩ (by simp [own])
  have trm := told.finds s ⟨tags.terms, some (numbered "trm" n)⟩ (by simp [own])
  simp only [Source.label, Option.getD_some] at tr tx trm
  have refs : (t.tagSupplement tags tables n taxonomy).gathering.references =
      [.of (numbered "tr" n) "object_id", .of (numbered "trm" n) "name",
        .of (numbered "tx" n) "term_taxonomy_id", .of (numbered "tr" n) "term_taxonomy_id",
        .of (numbered "tx" n) "taxonomy",
        .of (numbered "trm" n) "term_id", .of (numbered "tx" n) "term_id"] := rfl
  have clauses : (t.tagSupplement tags tables n taxonomy).gathering.clauses =
      [.among (.of (numbered "tr" n) "object_id") (EntityType.scratchIds tables)] := rfl
  rw [gatheringResolves_iff, refs, clauses]
  simp only [List.forall_mem_cons, ClauseFinds, tr, tx, trm, TagTables.columns, offersAll,
    lookupFinds_scratchIds hscratch, List.not_mem_nil, false_implies, implies_true, and_true]
  rw [own]
  simp only [List.forall_mem_cons, List.not_mem_nil, false_implies, implies_true, and_true]
  constructor
  · rintro ⟨-, ⟨h1, h2, h3, h4, h5, h6, h7⟩, -⟩
    exact ⟨h1, h4, h3, h7, h5, h6, h2⟩
  · rintro ⟨h1, h4, h3, h7, h5, h6, h2⟩
    exact ⟨⟨isSome_of_offers h1, isSome_of_offers h3, isSome_of_offers h2⟩,
      ⟨h1, h2, h3, h4, h5, h6, h7⟩, h1⟩

/-! ## One field -/

theorem placeOf?_isSome {columns : List Column} {c : Column} (h : c ∈ columns)
    (number : Option Place) : (placeOf? columns number c.name).isSome = true := by
  have hfind : (columns.findIdx? fun d => sameName d.name c.name).isSome = true := by
    rw [List.findIdx?_isSome, List.any_eq_true]
    exact ⟨c, h, sameName_self _⟩
  obtain ⟨i, hi⟩ := Option.isSome_iff_exists.1 hfind
  unfold placeOf?
  rw [hi]
  rfl

theorem resolves_of_mem {headers : List Header} {h : Header} (hm : h ∈ headers) {c : Column}
    (hc : c ∈ h.columns) : resolves headers (.of h.label c.name) = true := by
  refine List.any_eq_true.2 ⟨h, hm, ?_⟩
  simp only [Header.place?, sameName_self, if_true]
  exact placeOf?_isSome hc h.number

theorem resolves_gathered {headers : List Header} {k : Supplement}
    (hm : s.gatheredHeader k.label k.gathering ∈ headers) :
    resolves headers (.of k.label k.gathering.keyName) = true ∧
      resolves headers (.of k.label k.gathering.gatheredLabel) = true :=
  ⟨resolves_of_mem hm (c := .free k.gathering.keyName (s.gatheredAffinity k.gathering))
      List.mem_cons_self,
    resolves_of_mem hm (c := .free k.gathering.gatheredLabel .blob)
      (List.mem_cons_of_mem _ List.mem_cons_self)⟩

theorem resolves_entity {u : Table} (hu : s.table? t.entityTable = some u) {others : List Header}
    (ho : ∀ h ∈ others, sameName h.label t.entityTable = false) (column : String) :
    resolves (u.header t.entityTable :: others) (.of t.entityTable column) =
      s.offers t.entityTable column := by
  have hothers : (others.any fun h => (h.place? (.of t.entityTable column)).isSome) = false := by
    rw [List.any_eq_false]
    intro h hh
    simp [Header.place?, ho h hh]
  rw [resolves, List.any_cons, hothers, Bool.or_false, offers, hu]
  simp [Header.place?, Table.header, Table.place?]

theorem field_resolves {headers : List Header}
    (hentity : ∀ column,
      resolves headers (.of t.entityTable column) = s.offers t.entityTable column)
    (hid : s.offers t.entityTable t.entityId = true)
    (hscratch : (s.table? tables.scratch).isSome = true) {n : Nat} {f : Field}
    (hm : ∀ k ∈ t.supplement? tags tables n f, s.gatheredHeader k.label k.gathering ∈ headers) :
    ((∀ k ∈ t.supplement? tags tables n f, s.gatheringResolves k.gathering = true ∧
        testResolves headers k.test = true) ∧ resolves headers (t.outputColumn n f) = true) ↔
      s.Provides tags t f := by
  have hidColumn : resolves headers t.idColumn = true := (hentity _).trans hid
  unfold EntityType.outputColumn EntityType.supplement? Provides
  unfold EntityType.supplement? at hm
  cases hk : f.kind with
  | fixed => simp [hentity]
  | custom =>
    simp only [hk, Option.mem_def, Option.some.injEq, forall_eq'] at hm ⊢
    obtain ⟨hkey, hvalues⟩ := resolves_gathered hm
    have htest : testResolves headers (t.attributeSupplement tables n f.name).test = true :=
      Bool.and_eq_true_iff.2 ⟨hidColumn, hkey⟩
    have hcolumn : resolves headers (.of (numbered "m" n) "meta_values") = true := hvalues
    rw [gatheringResolves_attributes hscratch, htest, hcolumn]
    simp
  | tag =>
    simp only [hk, Option.mem_def, Option.some.injEq, forall_eq'] at hm ⊢
    obtain ⟨hkey, hname⟩ := resolves_gathered hm
    have htest : testResolves headers (t.tagSupplement tags tables n f.name).test = true :=
      Bool.and_eq_true_iff.2 ⟨hkey, hidColumn⟩
    have hcolumn : resolves headers (.of (numbered "t" n) "name") = true := hname
    rw [gatheringResolves_tags hscratch, htest, hcolumn]
    simp

/-! ## All fields -/

theorem label_supplement {n : Nat} {f : Field} {k : Supplement}
    (h : t.supplement? tags tables n f = some k) :
    k.label = numbered "m" n ∨ k.label = numbered "t" n := by
  unfold EntityType.supplement? at h
  split at h
  · exact absurd h (by simp)
  · exact .inl (Option.some.inj h ▸ rfl)
  · exact .inr (Option.some.inj h ▸ rfl)

theorem projectionHeaders?_projection {u : Table} (hu : s.table? t.entityTable = some u)
    (fields : List Field) :
    s.projectionHeaders? (t.projection tags tables fields) =
      some (u.header t.entityTable :: (t.projection tags tables fields).supplements.map
        fun k => s.gatheredHeader k.label k.gathering) := by
  have hs : s.header? (t.projection tags tables fields).source = some (u.header t.entityTable) :=
    header?_eq_some.2 ⟨u, hu, rfl⟩
  unfold projectionHeaders?
  rw [hs]
  rfl

theorem label_supplements_ne (hl : Unnumbered t.entityTable) (fields : List Field) :
    ∀ h ∈ (t.projection tags tables fields).supplements.map
      (fun k => s.gatheredHeader k.label k.gathering), sameName h.label t.entityTable = false := by
  intro h hh
  obtain ⟨k, hk, rfl⟩ := List.mem_map.1 hh
  obtain ⟨x, -, hx⟩ := List.mem_filterMap.1 hk
  change sameName k.label t.entityTable = false
  rw [sameName_comm]
  rcases label_supplement hx with h | h
  · rw [h]
    exact hl.sameName (by decide) x.2
  · rw [h]
    exact hl.sameName (by decide) x.2

/-- A projection resolves exactly when every field is provided, once the entities and the scratch
table are there. -/
theorem projectionResolves_iff (hl : Unnumbered t.entityTable)
    (hid : s.offers t.entityTable t.entityId = true)
    (hscratch : (s.table? tables.scratch).isSome = true) (fields : List Field) :
    s.projectionResolves (t.projection tags tables fields) = true ↔
      ∀ f ∈ fields, s.Provides tags t f := by
  obtain ⟨u, hu⟩ := Option.isSome_iff_exists.1 (isSome_of_offers hid)
  have hothers : ∀ h ∈ (t.projection tags tables fields).supplements.map
      (fun k => s.gatheredHeader k.label k.gathering), sameName h.label t.entityTable = false :=
    label_supplements_ne hl fields
  have hentity := resolves_entity hu hothers
  have hfield {x : Field × Nat} (hx : x ∈ fields.zipIdx) :=
    field_resolves hentity hid hscratch fun k (hk : k ∈ t.supplement? tags tables x.2 x.1) =>
      List.mem_cons_of_mem _ (List.mem_map_of_mem (List.mem_filterMap.2 ⟨x, hx, hk⟩))
  unfold projectionResolves
  rw [projectionHeaders?_projection hu]
  simp only [Bool.and_eq_true, List.all_eq_true]
  constructor
  · rintro ⟨⟨hsupplements, houtputs⟩, -⟩ f hf
    obtain ⟨n, hn, hx⟩ := List.getElem_of_mem hf
    have hmem : (f, n) ∈ fields.zipIdx := List.mem_zipIdx_iff_getElem?.2 (by simp [← hx, hn])
    refine (hfield hmem).1 ⟨fun k hk => hsupplements k ?_, ?_⟩
    · exact List.mem_filterMap.2 ⟨_, hmem, hk⟩
    · exact houtputs _ (List.mem_map.2 ⟨_, hmem, rfl⟩)
  · intro h
    refine ⟨⟨fun k hk => ?_, fun o ho => ?_⟩, fun c hc => ?_⟩
    · obtain ⟨x, hx, hk⟩ := List.mem_filterMap.1 hk
      exact ((hfield hx).2 (h x.1 (List.fst_mem_of_mem_zipIdx hx))).1 k hk
    · obtain ⟨x, hx, rfl⟩ := List.mem_map.1 ho
      exact ((hfield hx).2 (h x.1 (List.fst_mem_of_mem_zipIdx hx))).2
    · obtain rfl := List.mem_singleton.1 hc
      exact Bool.and_eq_true_iff.2 ⟨(hentity _).trans hid, by rwa [lookupResolves_scratchIds]⟩

end Store

end SheetExport
