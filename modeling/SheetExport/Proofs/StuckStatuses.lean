import SheetExport.Proofs.Interleavings
import SheetExport.Proofs.Reads
import SheetExport.Proofs.Stages
import SheetExport.Proofs.StatementTables

/-!
# What a stuck status tells

Within the limits of the engine a batch stops for one of two reasons. The store lacks a column that
the filters name, or it does not provide a field.
-/

namespace SheetExport

open Sql (Statement)
open Text (sameName)
open Registry (Holds)

/-! ## The limits of the engine -/

/-- What the engine asks of a statement, whatever the store holds. -/
def Sql.Statement.WithinLimits : Statement → Prop
  | .createIds table => Store.isReserved table = false
  | .insertIds _ q => Store.selectionFits q = true ∧
      (q.clauses ++ q.joins.flatMap Join.clauses).any Store.isLongPattern = false
  | .createResult table p => Store.isReserved table = false ∧ Store.projectionFits p = true
  | .dropTable _ | .setStatus _ _ | .deleteJob _ => True

instance : DecidablePred Sql.Statement.WithinLimits
  | .createIds table => inferInstanceAs (Decidable (Store.isReserved table = false))
  | .insertIds _ q => inferInstanceAs (Decidable (Store.selectionFits q = true ∧
      (q.clauses ++ q.joins.flatMap Sql.Join.clauses).any Store.isLongPattern = false))
  | .createResult table p =>
    inferInstanceAs (Decidable (Store.isReserved table = false ∧ Store.projectionFits p = true))
  | .dropTable _ | .setStatus _ _ | .deleteJob _ => .isTrue trivial

/-- The statements of a plan are written and within the limits. -/
def Plan.WithinLimits (plan : Plan) : Prop :=
  ∀ statement ∈ plan.dataStatements,
    Store.isWritten statement = true ∧ statement.WithinLimits

instance (plan : Plan) : Decidable plan.WithinLimits :=
  inferInstanceAs (Decidable (∀ statement ∈ plan.dataStatements, _ ∧ _))

theorem Plan.withinLimits_ofSelection {t : EntityType} {tables : JobTables} {q : Sql.Selection}
    {p : Sql.Projection} :
    (Plan.ofSelection t tables q p).WithinLimits ↔
      (Store.isWritten (.createIds tables.scratch) = true ∧
          (Statement.createIds tables.scratch).WithinLimits) ∧
        (Store.isWritten (.insertIds tables.scratch q) = true ∧
          (Statement.insertIds tables.scratch q).WithinLimits) ∧
        (Store.isWritten (.createResult tables.result p) = true ∧
          (Statement.createResult tables.result p).WithinLimits) ∧
        Store.isWritten (.dropTable tables.scratch) = true := by
  unfold Plan.WithinLimits
  rw [Plan.dataStatements_ofSelection]
  simp [Statement.WithinLimits]

theorem Plan.mem_statements_of_data {plan : Plan} {statement : Statement}
    (h : statement ∈ plan.dataStatements) (id : Uuid) : statement ∈ plan.statements id := by
  obtain ⟨step, hstep, hrun⟩ := List.mem_filterMap.1 h
  cases step with
  | run statement =>
    obtain rfl := Option.some.inj hrun
    exact List.mem_map.2 ⟨_, hstep, rfl⟩
  | reach status => cases hrun

theorem Plan.withinLimits_of_plain {plan : Plan} {id : Uuid}
    (hplain : ∀ statement ∈ plan.statements id, Plain statement.render)
    (h : ∀ statement ∈ plan.dataStatements, statement.WithinLimits) : plan.WithinLimits :=
  fun statement hst => ⟨Store.isWritten_iff.2 (hplain statement (mem_statements_of_data hst id)),
    h statement hst⟩

/-! ## Stores that agree on a site -/

namespace Store

variable {s s' : Store} {o : Occasion} {t : EntityType} {tags : TagTables}

theorem offers_congr {table : String} (h : s'.table? table = s.table? table) (column : String) :
    s'.offers table column = s.offers table column := by
  unfold offers
  rw [h]

theorem Agree.offersAll (h : s.Agree s' (t.siteTables tags)) {columns : List (String × String)}
    (hc : ∀ c ∈ columns, c.1 ∈ t.siteTables tags) : s'.offersAll columns ↔ s.offersAll columns :=
  forall₂_congr fun c hm => by rw [offers_congr (h _ (hc c hm))]

theorem mem_neededBy {f : Filter} {c : String × String} (h : c ∈ t.neededBy tags f) :
    c.1 ∈ t.siteTables tags := by
  unfold EntityType.neededBy at h
  unfold EntityType.siteTables
  split at h
  · simp_all
  · simp only [List.mem_cons, List.not_mem_nil, or_false] at h
    rcases h with rfl | rfl | rfl <;> simp
  · simp only [List.mem_append, List.mem_cons, List.not_mem_nil, or_false] at h
    rcases h with (rfl | rfl | rfl | rfl | rfl | rfl) | h
    any_goals simp
    split at h
    · exact absurd h List.not_mem_nil
    · rw [List.mem_singleton.1 h]
      simp

theorem mem_neededColumns {filters : List Filter} {c : String × String}
    (h : c ∈ t.neededColumns tags filters) : c.1 ∈ t.siteTables tags := by
  unfold EntityType.neededColumns at h
  rcases List.mem_append.1 h with h | h
  · rcases List.mem_cons.1 h with rfl | h
    · exact List.mem_cons_self
    · cases hsub : t.subtype with
      | none => simp [hsub] at h
      | some v =>
        simp only [hsub, Option.map_some, Option.toList_some, List.mem_singleton] at h
        rw [h]
        exact List.mem_cons_self
  · obtain ⟨f, -, hf⟩ := List.mem_flatMap.1 h
    exact mem_neededBy hf

theorem Agree.provides (h : s.Agree s' (t.siteTables tags)) (f : Field) :
    s'.Provides tags t f ↔ s.Provides tags t f := by
  have entity := h t.entityTable (by simp [EntityType.siteTables])
  have attributes := h t.attributeTable (by simp [EntityType.siteTables])
  unfold Provides
  cases f.kind with
  | fixed => rw [offers_congr entity]
  | custom => rw [attributes]
  | tag =>
    refine h.offersAll fun c hc => ?_
    simp only [TagTables.columns, List.mem_cons, List.not_mem_nil, or_false] at hc
    rcases hc with rfl | rfl | rfl | rfl | rfl | rfl | rfl <;> simp [EntityType.siteTables]

theorem Agree.integerIds (h : s.Agree s' (t.siteTables tags)) (hid : s.IntegerIds t) :
    s'.IntegerIds t := by
  have entity := h t.entityTable (by simp [EntityType.siteTables])
  have hsame : s'.entitiesOf t = s.entitiesOf t := by
    unfold entitiesOf entries
    rw [entity]
  unfold IntegerIds
  rwa [hsame]

/-! ## Statements that can run -/

variable {tables : JobTables} {filters : List Filter} {parts : List (FieldKind × Fragment)}
  {fields : List Field} {p : Sql.Projection}

theorem isSome_run?_createIds {table : String} (hw : isWritten (.createIds table) = true)
    (hr : isReserved table = false) (h : s.table? table = none) :
    (s.run? o (.createIds table)).isSome = true := by
  have hcreate : s.create? (idTable table) = some ⟨s.tables ++ [idTable table]⟩ :=
    create?_eq_some.2 ⟨⟨hr, h, rfl⟩, rfl⟩
  unfold run?
  rw [hw]
  simp only [Bool.not_true, Bool.false_eq_true, if_false, hcreate, Option.isSome_some]

theorem isSome_run?_insertIds {q : Sql.Selection} {table : String}
    (hw : isWritten (.insertIds table q) = true)
    (hl : (Statement.insertIds table q).WithinLimits)
    (hins : (s.insertIds? table (s.selected o.now q)).isSome = true) :
    (s.run? o (.insertIds table q)).isSome = true ↔ s.selectionResolves q = true := by
  have hlong : meetsLongPattern o q = false := by
    unfold meetsLongPattern
    rw [hl.2, Bool.false_and]
  rw [run?_insertIds, hw, selectionRuns, hl.1, hlong]
  cases s.selectionResolves q with
  | false => simp
  | true => simpa using hins

theorem isSome_run?_createResult {table : String} (hw : isWritten (.createResult table p) = true)
    (hl : (Statement.createResult table p).WithinLimits) (houtputs : p.outputs ≠ [])
    (h : s.table? table = none) :
    (s.run? o (.createResult table p)).isSome = true ↔ s.projectionResolves p = true := by
  have hcreate : s.create? (s.resultTable o table p) =
      some ⟨s.tables ++ [s.resultTable o table p]⟩ :=
    create?_eq_some.2 ⟨⟨hl.1, h, columnsFit_resultTable s o table p houtputs hl.2⟩, rfl⟩
  have hruns : s.projectionRuns p = s.projectionResolves p := by
    rw [projectionRuns, hl.2, Bool.and_true]
  unfold run?
  simp only [hw, hruns, Bool.not_true, Bool.false_eq_true, if_false]
  cases s.projectionResolves p with
  | false => simp
  | true => simp [hcreate]

/-! ## Stores laid out as usual -/

/-- The columns by which statements find their way, whatever filters and fields name. -/
def keyColumns (t : EntityType) (tags : TagTables) : List (String × String) :=
  (t.entityTable, t.entityId) :: (t.subtype.map fun _ => (t.entityTable, subtypeColumn)).toList ++
    [(t.attributeTable, t.attributeEntityId), (t.attributeTable, "meta_key"),
      (t.attributeTable, "meta_value")] ++ tags.columns

/-- A table may be missing, but not one of these columns of a table that is there. -/
def LaidOut (s : Store) (t : EntityType) (tags : TagTables) : Prop :=
  ∀ c ∈ keyColumns t tags, (s.table? c.1).isSome = true → s.offers c.1 c.2 = true

/-- Whether the column of the entity or the tables that a filter or a field goes to are there. -/
def Backs (s : Store) (tags : TagTables) (t : EntityType) (f : Field) : Prop :=
  match f.kind with
  | .fixed => s.offers t.entityTable f.name = true
  | .custom => (s.table? t.attributeTable).isSome = true
  | .tag => (s.table? tags.terms).isSome = true ∧ (s.table? tags.termTaxonomy).isSome = true ∧
      (s.table? tags.termRelationships).isSome = true

theorem LaidOut.offers_iff (h : s.LaidOut t tags) {c : String × String}
    (hc : c ∈ keyColumns t tags) : s.offers c.1 c.2 = true ↔ (s.table? c.1).isSome = true :=
  ⟨isSome_of_offers, h c hc⟩

theorem LaidOut.offersAll_columns (h : s.LaidOut t tags) :
    s.offersAll tags.columns ↔ (s.table? tags.terms).isSome = true ∧
      (s.table? tags.termTaxonomy).isSome = true ∧
      (s.table? tags.termRelationships).isSome = true := by
  have hmem : ∀ c ∈ tags.columns, c ∈ keyColumns t tags :=
    fun c hc => List.mem_append_right _ hc
  have hall : s.offersAll tags.columns ↔
      ∀ c ∈ tags.columns, (s.table? c.1).isSome = true :=
    forall₂_congr fun c hc => h.offers_iff (hmem c hc)
  rw [hall]
  simp only [TagTables.columns, List.forall_mem_cons, List.not_mem_nil, false_implies,
    implies_true, and_true]
  constructor
  · rintro ⟨hr, -, hx, -, -, ht, -⟩
    exact ⟨ht, hx, hr⟩
  · rintro ⟨ht, hx, hr⟩
    exact ⟨hr, hr, hx, hx, hx, ht, ht⟩

theorem LaidOut.provides_iff (h : s.LaidOut t tags) (f : Field) :
    s.Provides tags t f ↔ s.Backs tags t f := by
  unfold Provides Backs
  cases f.kind with
  | fixed => rfl
  | custom => rfl
  | tag => exact h.offersAll_columns

theorem LaidOut.offersAll_neededBy (h : s.LaidOut t tags) (f : Filter) :
    s.offersAll (t.neededBy tags f) ↔ s.Backs tags t f.field := by
  unfold EntityType.neededBy Backs
  cases f.field.kind with
  | fixed => exact List.forall_mem_singleton
  | custom =>
    have hall : s.offersAll [(t.attributeTable, t.attributeEntityId),
        (t.attributeTable, "meta_key"), (t.attributeTable, "meta_value")] ↔
          ∀ c ∈ [(t.attributeTable, t.attributeEntityId), (t.attributeTable, "meta_key"),
            (t.attributeTable, "meta_value")], (s.table? c.1).isSome = true :=
      forall₂_congr fun c hc =>
        h.offers_iff (List.mem_append_left _ (List.mem_append_right _ hc))
    rw [hall]
    simp
  | tag =>
    have hname : s.offers tags.terms "term_id" = true → s.offers tags.terms "name" = true :=
      fun hid => h (tags.terms, "name") (List.mem_append_right _ (by simp [TagTables.columns]))
        (isSome_of_offers hid)
    rw [← h.offersAll_columns]
    simp only [offersAll, TagTables.columns, List.forall_mem_cons, List.cons_append,
      List.nil_append, List.not_mem_nil, false_implies, implies_true, and_true]
    split
    · simp only [List.not_mem_nil, false_implies, implies_true, and_true]
      constructor
      · rintro ⟨h₁, h₂, h₃, h₄, h₅, h₆⟩
        exact ⟨h₁, h₂, h₃, h₄, h₅, h₆, hname h₆⟩
      · rintro ⟨h₁, h₂, h₃, h₄, h₅, h₆, -⟩
        exact ⟨h₁, h₂, h₃, h₄, h₅, h₆⟩
    · simp

theorem LaidOut.offersAll_neededColumns (h : s.LaidOut t tags) (filters : List Filter) :
    s.offersAll (t.neededColumns tags filters) ↔
      (s.table? t.entityTable).isSome = true ∧ ∀ f ∈ filters, s.Backs tags t f.field := by
  have hfilters : s.offersAll (filters.flatMap (t.neededBy tags)) ↔
      ∀ f ∈ filters, s.Backs tags t f.field := by
    simp only [← h.offersAll_neededBy, offersAll, List.mem_flatMap, forall_exists_index, and_imp]
    exact ⟨fun hall f hf c hc => hall c f hf hc, fun hall c f hf hc => hall f hf c hc⟩
  have hentity : s.offersAll
      ((t.entityTable, t.entityId) ::
        (t.subtype.map fun _ => (t.entityTable, subtypeColumn)).toList) ↔
      (s.table? t.entityTable).isSome = true := by
    refine ⟨fun hall => isSome_of_offers (hall (t.entityTable, t.entityId) List.mem_cons_self),
      fun hsome c hc => ?_⟩
    refine h c (List.mem_append_left _ (List.mem_append_left _ hc)) ?_
    rcases List.mem_cons.1 hc with rfl | hc
    · exact hsome
    · obtain ⟨_, -, rfl⟩ := List.mem_map.1 (Option.toList_map .. ▸ hc)
      exact hsome
  unfold EntityType.neededColumns
  rw [offersAll_append, hentity, hfilters]

end Store

namespace Batch

variable {s s' : Store} {o : Store.Occasion} {jobs : List (Int × Job)} {id : Uuid}
  {status : Status}

theorem Along.agree {schema : Schema} {suffix : String}
    (h : Along s jobs id (.ofSuffix schema suffix) s' status) (typeName : String) :
    s.Agree s' ((schema.entityType typeName).siteTables schema.tagTables) := by
  intro name hname
  obtain ⟨hregistry, hscratch, hresult⟩ := Schema.site_apart hname suffix
  exact h.others name hregistry hscratch hresult

/-- A batch takes its job through a first part of the statuses, never back. Within the limits of
the engine it stays at filtering exactly when the filters name a column that is not there, and
else at compiling exactly when some field is not provided. Where all tables that are there have
their usual columns, this comes down to the tables and to the columns that the request names. -/
theorem stuck_status_names_stage {schema : Schema} {typeName : String} {fields : List Field}
    {filters : List Filter} {suffix : String} {plan : Plan}
    (hc : Plan.compile schema typeName fields filters (.ofSuffix schema suffix) = .ok plan)
    (h : Holds s jobs) {job : Job} (hjob : Registry.get s id = .ok job)
    (hstarted : job.status = .started) (hscratch : s.table? plan.tables.scratch = none)
    (hresult : s.table? plan.tables.result = none) :
    ∃ status, Registry.get (run s o id (plan.statements id)) id =
        .ok { job with status := status } ∧
      (shown s o id (plan.statements id)).eraseReps = upTo status ∧
      (plan.WithinLimits → s.IntegerIds (schema.entityType typeName) →
        status.Tells
            (s.offersAll ((schema.entityType typeName).neededColumns schema.tagTables filters))
            (∀ f ∈ fields, s.Provides schema.tagTables (schema.entityType typeName) f) ∧
          (s.LaidOut (schema.entityType typeName) schema.tagTables →
            status.Tells
              ((s.table? (schema.entityType typeName).entityTable).isSome = true ∧
                ∀ f ∈ filters, s.Backs schema.tagTables (schema.entityType typeName) f.field)
              (∀ f ∈ fields, s.Backs schema.tagTables (schema.entityType typeName) f))) := by
  obtain ⟨hfields, parts, hparts, rfl⟩ := Plan.compile_eq_ok.1 hc
  have hs : (JobTables.ofSuffix schema suffix).Separate := JobTables.separate_ofSuffix ..
  have hl := unnumbered_entityTable schema typeName
  obtain ⟨e, he, rfl, rfl⟩ := (Registry.get_eq_ok h).1 hjob
  have hstart := along_start h he (JobTables.ofSuffix schema suffix)
  rw [hstarted] at hstart
  have hid : (jobs.any fun f => f.2.id = e.2.id) = true :=
    List.any_eq_true.2 ⟨e, he, decide_eq_true rfl⟩
  obtain ⟨status, hend, hshown, htells⟩ := run_stages (o := o) hstart hs hid hscratch hresult
  refine ⟨status, hend.get_eq he rfl, hshown, fun hlimits hints => ?_⟩
  obtain ⟨⟨hwi, hli⟩, ⟨hws, hls⟩, ⟨hwp, hlp⟩, -⟩ := Plan.withinLimits_ofSelection.1 hlimits
  have houtputs : ((schema.entityType typeName).projection schema.tagTables
      (.ofSuffix schema suffix) fields).outputs ≠ [] := by
    simpa [EntityType.projection] using hfields
  have hstatus := htells
    (s.offersAll ((schema.entityType typeName).neededColumns schema.tagTables filters))
    (∀ f ∈ fields, s.Provides schema.tagTables (schema.entityType typeName) f)
    (fun _ hnone => Store.isSome_run?_createIds hwi hli hnone)
    (fun s₃ h₃ htable => ?_) (fun s₅ h₅ hneeded hscratch₅ hresult₅ => ?_)
  · refine ⟨hstatus, fun hlaid => ?_⟩
    rwa [hlaid.offersAll_neededColumns, forall₂_congr fun f _ => hlaid.provides_iff f] at hstatus
  · have hsite := h₃.agree typeName
    rw [Store.isSome_run?_insertIds hws hls
      (Store.isSome_insertIds? hl hparts (hsite.integerIds hints) htable),
      Store.selectionResolves_iff_offersAll hl hparts, hsite.offersAll fun c hc =>
        Store.mem_neededColumns hc]
  · have hsite := h₅.agree typeName
    have hoffers : s₅.offers (schema.entityType typeName).entityTable
        (schema.entityType typeName).entityId = true := by
      rw [Store.offers_congr (hsite _ List.mem_cons_self)]
      exact hneeded ((schema.entityType typeName).entityTable,
        (schema.entityType typeName).entityId) List.mem_cons_self
    rw [Store.isSome_run?_createResult hwp hlp houtputs hresult₅,
      Store.projectionResolves_iff hl hoffers hscratch₅,
      forall₂_congr fun f _ => hsite.provides f]

/-! ## Posts without attributes, and ids that are texts -/

open Race (newJob newStore)

theorem plain_statements_ids {typeName : String} (h : typeName = "post" ∨ typeName = "user")
    {fields : List Field} (hf : ∀ f ∈ fields, Plain f.name ∧ Plain f.label) (id : Uuid) :
    ∀ statement ∈ (Plan.ofSelection (Schema.entityType ⟨"wp_"⟩ typeName) (.ofSuffix ⟨"wp_"⟩ "a1")
      ((Schema.entityType ⟨"wp_"⟩ typeName).selection [])
      ((Schema.entityType ⟨"wp_"⟩ typeName).projection (Schema.tagTables ⟨"wp_"⟩)
        (.ofSuffix ⟨"wp_"⟩ "a1") fields)).statements id, Plain statement.render := by
  have hparts : ∀ part ∈ ([] : List (FieldKind × Fragment)), Plain part.2.render :=
    fun _ hm => absurd hm List.not_mem_nil
  rcases h with rfl | rfl
  · exact Plan.plain_statements ⟨by decide, by decide, by decide, by decide⟩ (by decide)
      (by decide) hf hparts id
  · exact Plan.plain_statements ⟨by decide, by decide, by decide, by decide⟩ (by decide)
      (by decide) hf hparts id

theorem stuck_status_names_stage_noAttributes : ∃ plan,
    Plan.compile ⟨"wp_"⟩ "post" [⟨.fixed, "ID", ""⟩, ⟨.custom, "k", ""⟩] []
        (.ofSuffix ⟨"wp_"⟩ "a1") = .ok plan ∧
      Registry.get (run newStore .quiet newJob.id (plan.statements newJob.id)) newJob.id =
        .ok { newJob with status := .compilingResults } := by
  have hc : Plan.compile ⟨"wp_"⟩ "post" [⟨.fixed, "ID", ""⟩, ⟨.custom, "k", ""⟩] []
      (.ofSuffix ⟨"wp_"⟩ "a1") = .ok _ := rfl
  have hholds : Holds newStore [(1, newJob)] :=
    ⟨rfl, List.pairwise_singleton .., List.pairwise_singleton .., by decide⟩
  have hjob : Registry.get newStore newJob.id = .ok newJob :=
    (Registry.get_eq_ok hholds).2 ⟨_, List.mem_singleton_self _, rfl, rfl⟩
  have hints : newStore.IntegerIds (Schema.entityType ⟨"wp_"⟩ "post") := by
    have hone : ∀ e ∈ newStore.entitiesOf (Schema.entityType ⟨"wp_"⟩ "post"),
        (e "ID").value = .integer 1 := by decide
    exact fun e he => ⟨1, hone e he⟩
  have hlaid : newStore.LaidOut (Schema.entityType ⟨"wp_"⟩ "post") (Schema.tagTables ⟨"wp_"⟩) := by
    unfold Store.LaidOut
    decide
  have hplain := plain_statements_ids (.inl rfl)
    (by decide : ∀ f ∈ [Field.mk .fixed "ID" "", ⟨.custom, "k", ""⟩], Plain f.name ∧ Plain f.label)
    newJob.id
  obtain ⟨status, hget, -, htells⟩ :=
    stuck_status_names_stage (o := .quiet) hc hholds hjob rfl (by decide) (by decide)
  have hlimits := Plan.withinLimits_of_plain hplain (by decide +kernel)
  have hstatus := ((htells hlimits hints).2 hlaid).compiling.2
    ⟨⟨by decide, by simp⟩, fun hall =>
      absurd (hall ⟨.custom, "k", ""⟩ (by simp)) (by unfold Store.Backs; decide)⟩
  exact ⟨_, hc, hstatus ▸ hget⟩

def untypedStore : Store :=
  ⟨[Registry.holding [(1, newJob)], ⟨"wp_posts", [.needed "ID" .integer], .integer, []⟩]⟩

def textIdStore : Store :=
  ⟨[Registry.holding [(1, newJob)],
    ⟨"wp_users", [.free "ID" .blob], .none, Store.Row.numbered [[.text "abc"]]⟩]⟩

/-- A batch can be stuck though the table of the entities is there with the one column that the
request names. -/
theorem stuck_with_nothing_missing :
    (∃ plan, Plan.compile ⟨"wp_"⟩ "post" [⟨.fixed, "ID", ""⟩] [] (.ofSuffix ⟨"wp_"⟩ "a1") =
          .ok plan ∧ plan.WithinLimits ∧ (untypedStore.table? "wp_posts").isSome = true ∧
        untypedStore.Backs (Schema.tagTables ⟨"wp_"⟩) (Schema.entityType ⟨"wp_"⟩ "post")
          ⟨.fixed, "ID", ""⟩ ∧
        statusOf newJob.id (run untypedStore .quiet newJob.id (plan.statements newJob.id)) =
          some .filteringEntities) ∧
      ∃ plan, Plan.compile ⟨"wp_"⟩ "user" [⟨.fixed, "ID", ""⟩] [] (.ofSuffix ⟨"wp_"⟩ "a1") =
          .ok plan ∧ plan.WithinLimits ∧ (textIdStore.table? "wp_users").isSome = true ∧
        textIdStore.Backs (Schema.tagTables ⟨"wp_"⟩) (Schema.entityType ⟨"wp_"⟩ "user")
          ⟨.fixed, "ID", ""⟩ ∧
        statusOf newJob.id (run textIdStore .quiet newJob.id (plan.statements newJob.id)) =
          some .filteringEntities := by
  have hfields : ∀ f ∈ [Field.mk .fixed "ID" ""], Plain f.name ∧ Plain f.label := by decide
  have hpost := plain_statements_ids (.inl rfl) hfields newJob.id
  have huser := plain_statements_ids (.inr rfl) hfields newJob.id
  refine ⟨⟨_, rfl, Plan.withinLimits_of_plain hpost (by decide +kernel), by decide, ?_, ?_⟩,
    _, rfl, Plan.withinLimits_of_plain huser (by decide +kernel), by decide, ?_, ?_⟩
  · unfold Store.Backs
    decide
  · exact (congrArg (statusOf newJob.id) (run_of_plain hpost)).trans (by decide +kernel)
  · unfold Store.Backs
    decide
  · exact (congrArg (statusOf newJob.id) (run_of_plain huser)).trans (by decide +kernel)

end Batch

end SheetExport
