import SheetExport.Proofs.SiteTables

/-!
# What queries read

A query answers from the tables that it names. In two stores that have the same tables under these
names it finds the same rows, the same columns and the same limits.
-/

namespace SheetExport

open Sql (Source Test Link Lookup Clause Join Selection Gathering Supplement Projection)

/-! ## Tables of a query -/

namespace Sql

def Lookup.tables (l : Lookup) : List String := l.source.table :: l.links.map (·.source.table)

def Clause.tables : Clause → List String
  | .test _ => []
  | .among _ l | .notAmong _ l | .nothing l => l.tables

def Join.tables (j : Join) : List String := j.source.table :: j.clauses.flatMap Clause.tables

def Selection.tables (q : Selection) : List String :=
  q.source.table :: q.joins.flatMap Join.tables ++ q.clauses.flatMap Clause.tables

def Gathering.tables (g : Gathering) : List String :=
  g.source.table :: g.links.map (·.source.table) ++ g.clauses.flatMap Clause.tables

def Projection.tables (p : Projection) : List String :=
  p.source.table :: p.supplements.flatMap (·.gathering.tables) ++ p.clauses.flatMap Clause.tables

end Sql

namespace Store

/-- Two stores have the same tables under some names. -/
def Agree (s s' : Store) (names : List String) : Prop :=
  ∀ name ∈ names, s'.table? name = s.table? name

variable {s s' : Store} {o : Occasion} {now : Int} {names names' : List String}

theorem agree_cons {name : String} :
    s.Agree s' (name :: names) ↔ s'.table? name = s.table? name ∧ s.Agree s' names :=
  List.forall_mem_cons

theorem agree_append : s.Agree s' (names ++ names') ↔ s.Agree s' names ∧ s.Agree s' names' :=
  List.forall_mem_append

theorem Agree.of_flatMap {α : Type} {f : α → List String} {as : List α}
    (h : s.Agree s' (as.flatMap f)) {a : α} (ha : a ∈ as) : s.Agree s' (f a) :=
  fun name hm => h name (List.mem_flatMap.2 ⟨a, ha, hm⟩)

theorem all_congr_of_mem {α : Type} {as : List α} {p q : α → Bool} (h : ∀ a ∈ as, p a = q a) :
    as.all p = as.all q := by
  rw [Bool.eq_iff_iff, List.all_eq_true, List.all_eq_true]
  exact forall₂_congr fun a ha => by rw [h a ha]

/-! ## Rows -/

theorem bindings_congr {source : Source} (h : s'.table? source.table = s.table? source.table) :
    s'.bindings source = s.bindings source := by
  unfold bindings
  rw [h]

theorem joined_congr {source : Source} (h : s'.table? source.table = s.table? source.table)
    (scopes : List Scope) : s'.joined source scopes = s.joined source scopes := by
  unfold joined
  rw [bindings_congr h]

theorem linked_congr {links : List Link} (h : s.Agree s' (links.map (·.source.table)))
    (scopes : List Scope) : s'.linked now links scopes = s.linked now links scopes := by
  unfold linked
  refine List.foldl_ext _ _ _ fun scopes k hk => ?_
  rw [joined_congr (h _ (List.mem_map_of_mem hk))]

theorem found_congr {l : Lookup} (h : s.Agree s' l.tables) (scope : Scope) :
    s'.found now scope l = s.found now scope l := by
  unfold found
  rw [joined_congr (h _ List.mem_cons_self),
    linked_congr (agree_cons.1 h).2]

theorem clauseTruth_congr {c : Clause} (h : s.Agree s' c.tables) (scope : Scope) :
    s'.clauseTruth now scope c = s.clauseTruth now scope c := by
  cases c with
  | test t => rfl
  | among r l => rw [clauseTruth, clauseTruth, found_congr h]
  | notAmong value l => rw [clauseTruth, clauseTruth, found_congr h]
  | nothing l => rw [clauseTruth, clauseTruth, found_congr h]

theorem clausesHold_congr {clauses : List Clause}
    (h : s.Agree s' (clauses.flatMap Clause.tables)) (scope : Scope) :
    s'.clausesHold now scope clauses = s.clausesHold now scope clauses :=
  all_congr_of_mem fun c hc => by rw [clauseTruth_congr (h.of_flatMap hc)]

theorem withJoins_congr {joins : List Join} (h : s.Agree s' (joins.flatMap Join.tables))
    (scopes : List Scope) : s'.withJoins now joins scopes = s.withJoins now joins scopes := by
  unfold withJoins
  refine List.foldl_ext _ _ _ fun scopes j hj => ?_
  have hj := h.of_flatMap hj
  rw [joined_congr (hj _ List.mem_cons_self)]
  exact List.filter_congr fun scope _ =>
    clausesHold_congr (agree_cons.1 hj).2 scope

theorem selected_congr {q : Selection} (h : s.Agree s' q.tables) :
    s'.selected now q = s.selected now q := by
  obtain ⟨hsource, h⟩ := agree_cons.1 h
  obtain ⟨hjoins, hclauses⟩ := agree_append.1 h
  unfold selected
  rw [joined_congr hsource, withJoins_congr hjoins]
  exact congrArg (fun scopes : List Scope => distinct (scopes.map _))
    (List.filter_congr fun scope _ => clausesHold_congr hclauses scope)

/-! ## Resolution -/

theorem header?_congr {source : Source} (h : s'.table? source.table = s.table? source.table) :
    s'.header? source = s.header? source := by
  unfold header?
  rw [h]

theorem headers?_congr {sources : List Source} (h : s.Agree s' (sources.map (·.table))) :
    s'.headers? sources = s.headers? sources := by
  unfold headers?
  induction sources with
  | nil => rfl
  | cons source rest ih =>
    obtain ⟨hsource, hrest⟩ := agree_cons.1 h
    rw [List.mapM_cons, List.mapM_cons, header?_congr hsource, ih hrest]

theorem lookupResolves_congr {l : Lookup} (h : s.Agree s' l.tables) (outer : List Header) :
    s'.lookupResolves outer l = s.lookupResolves outer l := by
  have hheaders : s'.headers? (l.source :: l.links.map Link.source) =
      s.headers? (l.source :: l.links.map Link.source) :=
    headers?_congr (by rwa [List.map_cons, List.map_map])
  unfold lookupResolves
  rw [hheaders]

theorem clauseResolves_congr {c : Clause} (h : s.Agree s' c.tables) (headers : List Header) :
    s'.clauseResolves headers c = s.clauseResolves headers c := by
  cases c with
  | test t => rfl
  | among r l => rw [clauseResolves, clauseResolves, lookupResolves_congr h]
  | notAmong value l => rw [clauseResolves, clauseResolves, lookupResolves_congr h]
  | nothing l => rw [clauseResolves, clauseResolves, lookupResolves_congr h]

theorem clausesResolve_congr {clauses : List Clause}
    (h : s.Agree s' (clauses.flatMap Clause.tables)) (headers : List Header) :
    clauses.all (s'.clauseResolves headers) = clauses.all (s.clauseResolves headers) :=
  all_congr_of_mem fun _ hc => clauseResolves_congr (h.of_flatMap hc) headers

theorem selectionResolves_congr {q : Selection} (h : s.Agree s' q.tables) :
    s'.selectionResolves q = s.selectionResolves q := by
  obtain ⟨hsource, h⟩ := agree_cons.1 h
  obtain ⟨hjoins, hclauses⟩ := agree_append.1 h
  have hheaders : s'.headers? (q.source :: q.joins.map Join.source) =
      s.headers? (q.source :: q.joins.map Join.source) := by
    refine headers?_congr (List.forall_mem_cons.2 ⟨hsource, ?_⟩)
    rw [List.map_map]
    refine List.forall_mem_map.2 fun j hj => ?_
    exact hjoins.of_flatMap hj _ List.mem_cons_self
  unfold selectionResolves
  rw [hheaders]
  split
  · rfl
  · rename_i headers _
    rw [clausesResolve_congr hclauses, all_congr_of_mem fun j hj => clausesResolve_congr
      (agree_cons.1 (hjoins.of_flatMap hj)).2 headers]

theorem selectionRuns_congr {q : Selection} (h : s.Agree s' q.tables) :
    s'.selectionRuns o q = s.selectionRuns o q := by
  unfold selectionRuns
  rw [selectionResolves_congr h]

/-! ## Projections -/

section

variable {g : Gathering}

theorem gatheredRows_congr (h : s.Agree s' g.tables) :
    s'.gatheredRows now g = s.gatheredRows now g := by
  obtain ⟨hsource, h⟩ := agree_cons.1 h
  obtain ⟨hlinks, hclauses⟩ := agree_append.1 h
  have hscopes : s'.gatheredScopes now g = s.gatheredScopes now g := by
    unfold gatheredScopes
    rw [joined_congr hsource, linked_congr hlinks]
    exact List.filter_congr fun scope _ => clausesHold_congr hclauses scope
  unfold gatheredRows
  rw [hscopes]

theorem gathering_sources (h : s.Agree s' g.tables) :
    ∀ source ∈ g.source :: g.links.map (·.source),
      s'.table? source.table = s.table? source.table := by
  obtain ⟨hsource, h⟩ := agree_cons.1 h
  obtain ⟨hlinks, -⟩ := agree_append.1 h
  refine List.forall_mem_cons.2 ⟨hsource, List.forall_mem_map.2 fun k hk => ?_⟩
  exact hlinks _ (List.mem_map_of_mem hk)

theorem gatheredHeader_congr (h : s.Agree s' g.tables) (label : String) :
    s'.gatheredHeader label g = s.gatheredHeader label g := by
  unfold gatheredHeader gatheredAffinity
  rw [List.filterMap_congr fun source hm => header?_congr (gathering_sources h source hm)]

theorem gatheringResolves_congr (h : s.Agree s' g.tables) :
    s'.gatheringResolves g = s.gatheringResolves g := by
  have hclauses := (agree_append.1 (agree_cons.1 h).2).2
  have hheaders : s'.headers? (g.source :: g.links.map Link.source) =
      s.headers? (g.source :: g.links.map Link.source) :=
    headers?_congr (List.forall_mem_map.2 (gathering_sources h))
  unfold gatheringResolves
  rw [hheaders]
  split
  · rfl
  · rw [clausesResolve_congr hclauses]

theorem supplemented_congr {k : Supplement} (h : s.Agree s' k.gathering.tables)
    (scopes : List Scope) : s'.supplemented now k scopes = s.supplemented now k scopes := by
  unfold supplemented
  rw [gatheredHeader_congr h, gatheredRows_congr h]

end

variable {p : Projection}

theorem projectedRows_congr (h : s.Agree s' p.tables) :
    s'.projectedRows now p = s.projectedRows now p := by
  obtain ⟨hsource, h⟩ := agree_cons.1 h
  obtain ⟨hsupplements, hclauses⟩ := agree_append.1 h
  have hscopes : s'.projectedScopes now p = s.projectedScopes now p := by
    unfold projectedScopes
    rw [joined_congr hsource, List.foldl_ext _ _ _ fun scopes k hk =>
      supplemented_congr (hsupplements.of_flatMap hk) scopes]
    exact List.filter_congr fun scope _ => clausesHold_congr hclauses scope
  unfold projectedRows
  rw [hscopes]

theorem projectionHeaders?_congr (h : s.Agree s' p.tables) :
    s'.projectionHeaders? p = s.projectionHeaders? p := by
  obtain ⟨hsource, h⟩ := agree_cons.1 h
  obtain ⟨hsupplements, -⟩ := agree_append.1 h
  unfold projectionHeaders?
  rw [header?_congr hsource, List.map_congr_left fun k hk =>
    gatheredHeader_congr (hsupplements.of_flatMap hk) k.label]

theorem projectionRuns_congr (h : s.Agree s' p.tables) :
    s'.projectionRuns p = s.projectionRuns p := by
  have hresolves : s'.projectionResolves p = s.projectionResolves p := by
    unfold projectionResolves
    rw [projectionHeaders?_congr h]
    obtain ⟨-, h⟩ := agree_cons.1 h
    obtain ⟨hsupplements, hclauses⟩ := agree_append.1 h
    split
    · rfl
    · rename_i headers _
      rw [clausesResolve_congr hclauses, all_congr_of_mem fun k hk => by
        rw [gatheringResolves_congr (hsupplements.of_flatMap hk)]]
  unfold projectionRuns
  rw [hresolves]

theorem resultTable_congr (h : s.Agree s' p.tables) (name : String) :
    s'.resultTable o name p = s.resultTable o name p := by
  unfold resultTable
  rw [projectionHeaders?_congr h, projectedRows_congr h]

end Store

/-! ## Tables of a plan -/

def Fragment.tables : Fragment → List String
  | .join j => j.tables
  | .clause c => c.tables

namespace EntityType

variable {t : EntityType} {tags : TagTables} {tables : JobTables}

theorem tables_fragment {i : Nat} {f : Filter} {p : Fragment}
    (h : t.fragment tags i f = .ok p) : p.tables ⊆ t.siteTables tags := by
  unfold fragment at h
  cases hk : f.field.kind with
  | fixed =>
    simp only [hk, Except.ok.injEq] at h
    rw [← h]
    exact List.nil_subset _
  | custom =>
    simp only [hk, Except.ok.injEq] at h
    rw [← h]
    have htables : (Fragment.join (t.attributeJoin i f)).tables = [t.attributeTable] := rfl
    simp [htables, siteTables]
  | tag =>
    simp only [hk] at h
    cases hr : f.rule with
    | compare c => simp [hr] at h
    | contains | notEmpty =>
      simp only [hr, Except.ok.injEq] at h
      rw [← h]
      have htables (term : Option String) :
          (Fragment.join (t.tagJoin tags i f.field.name term)).tables =
            [tags.termRelationships, tags.termTaxonomy, tags.terms] := rfl
      simp [htables, siteTables]
    | notContains | empty =>
      simp only [hr, Except.ok.injEq] at h
      rw [← h]
      have htables : (t.tagNames tags i f.field.name).tables =
          [tags.termRelationships, tags.termTaxonomy, tags.terms] := rfl
      simp [Fragment.tables, Clause.tables, htables, siteTables]

theorem tables_selection_subset {names : List String} (he : t.entityTable ∈ names)
    {parts : List (FieldKind × Fragment)}
    (hp : ∀ kind p, (kind, p) ∈ parts → p.tables ⊆ names) :
    (t.selection parts).tables ⊆ names := by
  intro name hname
  unfold Selection.tables at hname
  rcases List.mem_cons.1 hname with rfl | hname
  · exact he
  rcases List.mem_append.1 hname with hname | hname
  · obtain ⟨j, hj, hname⟩ := List.mem_flatMap.1 hname
    obtain ⟨kind, hm⟩ := mem_joins.1 hj
    exact hp kind _ hm hname
  · obtain ⟨c, hc, hname⟩ := List.mem_flatMap.1 hname
    rcases List.mem_append.1 hc with hc | hc
    · obtain ⟨kind, hm⟩ := mem_clauses.1 hc
      exact hp kind _ hm hname
    · unfold subtypeClause at hc
      rw [Option.toList_map] at hc
      obtain ⟨v, -, rfl⟩ := List.mem_map.1 hc
      exact absurd hname List.not_mem_nil

/-- A selection reads tables of the site alone. -/
theorem tables_selection {filters : List Filter} {parts : List (FieldKind × Fragment)}
    (hp : t.fragmentsFrom tags 0 filters = .ok parts) :
    (t.selection parts).tables ⊆ t.siteTables tags := by
  refine tables_selection_subset List.mem_cons_self fun kind p hm => ?_
  obtain ⟨i, f, -, hf⟩ := exists_filter hp hm
  exact tables_fragment hf

theorem tables_supplement {i : Nat} {f : Field} {k : Supplement}
    (h : t.supplement? tags tables i f = some k) :
    k.gathering.tables ⊆ t.siteTables tags ++ [tables.scratch] := by
  unfold supplement? at h
  split at h
  · exact absurd h (by simp)
  · rw [← Option.some.inj h]
    have htables : (t.attributeSupplement tables i f.name).gathering.tables =
        [t.attributeTable, tables.scratch] := rfl
    simp [htables, siteTables]
  · rw [← Option.some.inj h]
    have htables : (t.tagSupplement tags tables i f.name).gathering.tables =
        [tags.termRelationships, tags.termTaxonomy, tags.terms, tables.scratch] := rfl
    simp [htables, siteTables]

theorem tables_projection_subset {names : List String} (he : t.entityTable ∈ names)
    (hs : tables.scratch ∈ names) {fields : List Field}
    (hk : ∀ f ∈ fields, ∀ i k, t.supplement? tags tables i f = some k →
      k.gathering.tables ⊆ names) :
    (t.projection tags tables fields).tables ⊆ names := by
  intro name hname
  unfold Projection.tables at hname
  rcases List.mem_cons.1 hname with rfl | hname
  · exact he
  rcases List.mem_append.1 hname with hname | hname
  · obtain ⟨k, hmem, hname⟩ := List.mem_flatMap.1 hname
    obtain ⟨⟨f, i⟩, hx, hsome⟩ := List.mem_filterMap.1 hmem
    exact hk f (List.fst_mem_of_mem_zipIdx hx) i k hsome hname
  · have hscratch : name ∈ [tables.scratch] := hname
    rwa [List.mem_singleton.1 hscratch]

/-- A projection reads besides these the table of the selected ids. -/
theorem tables_projection (fields : List Field) :
    (t.projection tags tables fields).tables ⊆ t.siteTables tags ++ [tables.scratch] := by
  refine tables_projection_subset (by simp [siteTables]) (by simp) fun f _ i k => ?_
  exact tables_supplement

end EntityType

end SheetExport
