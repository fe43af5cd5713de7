import SheetExport.Proofs.BackingTables
import SheetExport.Proofs.StatementTables
import SheetExport.Proofs.Submissions

/-!
# Exports without tags

A request that names no tag reads none of the tables of tags. Whatever these hold, it is answered,
runs and is downloaded as it would be without them.
-/

namespace SheetExport

open Store (Table)
open Sql (Statement)
open Text (sameName)

/-! ## Tables of tags -/

namespace Schema

variable {schema : Schema} {typeName name : String}

/-- Whether a table is none of those that hold tags. -/
def untagged (schema : Schema) (name : String) : Bool :=
  [schema.tagTables.terms, schema.tagTables.termTaxonomy, schema.tagTables.termRelationships].all
    fun tagTable => !sameName tagTable name

theorem uncased_untagged (schema : Schema) : Store.Uncased schema.untagged := by
  intro a b hab
  have same (x : String) : sameName x a = sameName x b := by
    rw [sameName_comm, sameName_congr hab, sameName_comm]
  simp only [untagged, same]

theorem untagged_iff : schema.untagged name = true ↔
    ∀ tagTable ∈ [schema.tagTables.terms, schema.tagTables.termTaxonomy,
      schema.tagTables.termRelationships], sameName tagTable name = false := by
  rw [untagged, List.all_eq_true]
  simp only [Bool.not_eq_true']

theorem mem_siteTables {tagTable : String} (h : tagTable ∈ [schema.tagTables.terms,
    schema.tagTables.termTaxonomy, schema.tagTables.termRelationships]) :
    tagTable ∈ (schema.entityType "post").siteTables schema.tagTables :=
  List.mem_cons_of_mem _ (List.mem_cons_of_mem _ h)

theorem untagged_registry (schema : Schema) : schema.untagged Sql.jobsTable = true := by
  refine untagged_iff.2 fun tagTable ht => ?_
  rw [sameName_comm]
  exact registry_ne_site (mem_siteTables ht)

theorem untagged_ofSuffix (schema : Schema) (suffix : String) :
    schema.untagged (JobTables.ofSuffix schema suffix).scratch = true ∧
      schema.untagged (JobTables.ofSuffix schema suffix).result = true := by
  have apart {tagTable : String} (ht : tagTable ∈ [schema.tagTables.terms,
      schema.tagTables.termTaxonomy, schema.tagTables.termRelationships]) :=
    site_apart (mem_siteTables ht) suffix
  refine ⟨untagged_iff.2 fun tagTable ht => ?_, untagged_iff.2 fun tagTable ht => ?_⟩
  · rw [sameName_comm]
    exact (apart ht).2.1
  · rw [sameName_comm]
    exact (apart ht).2.2

theorem untagged_table {x : String}
    (h : ∀ tagTable ∈ ["terms", "term_taxonomy", "term_relationships"],
      sameName tagTable x = false) : schema.untagged (schema.table x) = true := by
  have apart {a : String} (ha : a ∈ ["terms", "term_taxonomy", "term_relationships"]) :
      sameName (schema.table a) (schema.table x) = false := by
    rw [table, table, JobTables.sameName_append_left]
    exact h a ha
  refine untagged_iff.2 fun tagTable ht => ?_
  simp only [tagTables, List.mem_cons, List.not_mem_nil, or_false] at ht
  rcases ht with rfl | rfl | rfl
  · exact apart (by decide)
  · exact apart (by decide)
  · exact apart (by decide)

theorem untagged_entityType (h : (schema.entityType typeName).kind ≠ .term) :
    schema.untagged (schema.entityType typeName).entityTable = true ∧
      schema.untagged (schema.entityType typeName).attributeTable = true := by
  unfold entityType at h ⊢
  split
  · exact ⟨untagged_table (by decide), untagged_table (by decide)⟩
  · split
    · exact ⟨untagged_table (by decide), untagged_table (by decide)⟩
    · split
      · rename_i h1 h2 h3
        rw [if_neg h1, if_neg h2, if_pos h3] at h
        exact absurd rfl h
      · exact ⟨untagged_table (by decide), untagged_table (by decide)⟩

end Schema

/-! ## Tables that are read -/

namespace EntityType

variable {t : EntityType} {tags : TagTables} {tables : JobTables}

theorem tables_fragment_untagged {i : Nat} {f : Filter} {p : Fragment}
    (h : t.fragment tags i f = .ok p) (hf : f.field.kind ≠ .tag) :
    p.tables ⊆ [t.attributeTable] := by
  unfold fragment at h
  cases hk : f.field.kind with
  | fixed =>
    simp only [hk, Except.ok.injEq] at h
    rw [← h]
    exact List.nil_subset _
  | custom =>
    simp only [hk, Except.ok.injEq] at h
    rw [← h]
    exact List.Subset.refl [t.attributeTable]
  | tag => exact absurd hk hf

theorem tables_selection_untagged {filters : List Filter} {parts : List (FieldKind × Fragment)}
    (hp : t.fragmentsFrom tags 0 filters = .ok parts) (hf : ∀ f ∈ filters, f.field.kind ≠ .tag) :
    (t.selection parts).tables ⊆ [t.entityTable, t.attributeTable] := by
  refine tables_selection_subset List.mem_cons_self fun kind p hm => ?_
  obtain ⟨i, f, hmem, hfragment⟩ := exists_filter hp hm
  exact List.Subset.trans (tables_fragment_untagged hfragment (hf f hmem))
    (List.subset_cons_self _ _)

theorem tables_projection_untagged {fields : List Field} (hf : ∀ f ∈ fields, f.kind ≠ .tag) :
    (t.projection tags tables fields).tables ⊆
      [t.entityTable, t.attributeTable, tables.scratch] := by
  refine tables_projection_subset (by simp) (by simp) fun f hmem i k hk => ?_
  unfold supplement? at hk
  split at hk
  · exact absurd hk (by simp)
  · rw [← Option.some.inj hk]
    have htables : (t.attributeSupplement tables i f.name).gathering.tables =
        [t.attributeTable, tables.scratch] := rfl
    simp [htables]
  · rename_i hkind
    exact absurd hkind (hf f hmem)

end EntityType

/-! ## Requests without tags -/

/-- An export of entities that are no terms, with no tag among its fields and filters. -/
structure Export.Tagless (e : Export) : Prop where
  kind : ∀ schema : Schema, (schema.entityType e.typeName).kind ≠ .term
  fields : ∀ f ∈ e.fields, f.kind ≠ .tag
  filters : ∀ f ∈ e.filters, f.field.kind ≠ .tag

def Request.Tagless (r : Request) : Prop := ∀ e, r.validate = .ok e → e.Tagless

theorem Export.Tagless.statements {e : Export} (h : e.Tagless) {schema : Schema} {suffix : String}
    {plan : Plan} (hc : Plan.compile schema e.typeName e.fields e.filters
      (.ofSuffix schema suffix) = .ok plan) {id : Uuid} {statement : Statement}
    (hst : statement ∈ plan.statements id) : schema.untagged statement.written = true ∧
      ∀ name ∈ statement.queried, schema.untagged name = true := by
  obtain ⟨-, parts, hparts, rfl⟩ := Plan.compile_eq_ok.1 hc
  obtain ⟨hentity, hattribute⟩ := Schema.untagged_entityType (h.kind schema)
  obtain ⟨hscratch, hresult⟩ := schema.untagged_ofSuffix suffix
  have nothing : ∀ name ∈ ([] : List String), schema.untagged name = true :=
    fun _ hm => absurd hm List.not_mem_nil
  obtain ⟨status, rfl⟩ | rfl | rfl | rfl | rfl := Plan.statement_cases hst
  · exact ⟨schema.untagged_registry, nothing⟩
  · exact ⟨hscratch, nothing⟩
  · refine ⟨hscratch, fun name hm => ?_⟩
    have hread := EntityType.tables_selection_untagged hparts h.filters hm
    simp only [List.mem_cons, List.not_mem_nil, or_false] at hread
    rcases hread with rfl | rfl
    · exact hentity
    · exact hattribute
  · refine ⟨hresult, fun name hm => ?_⟩
    have hread := EntityType.tables_projection_untagged h.fields hm
    simp only [List.mem_cons, List.not_mem_nil, or_false] at hread
    rcases hread with rfl | rfl | rfl
    · exact hentity
    · exact hattribute
    · exact hscratch
  · exact ⟨hscratch, nothing⟩

/-! ## The registry without other tables -/

namespace Registry

variable {s : Store} {kept : String → Bool} {id : Uuid}

theorem records_keeping (hk : Store.Uncased kept) (h : kept Sql.jobsTable = true)
    (given : List (String × Value)) : records (s.keeping kept) given = records s given := by
  unfold records
  rw [Store.table?_keeping hk h]

theorem get_keeping (hk : Store.Uncased kept) (h : kept Sql.jobsTable = true) (id : Uuid) :
    get (s.keeping kept) id = get s id := by
  unfold get find
  rw [records_keeping hk h]

theorem list_keeping (hk : Store.Uncased kept) (h : kept Sql.jobsTable = true)
    (owner : Option Int) : list (s.keeping kept) owner = list s owner := by
  unfold list
  cases owner with
  | none =>
    dsimp only
    rw [records_keeping hk h]
  | some owner =>
    dsimp only
    rw [records_keeping hk h]

theorem create_keeping (hk : Store.Uncased kept) (h : kept Sql.jobsTable = true) (j : Job) :
    create (s.keeping kept) j = (create s j).map (·.keeping kept) := by
  unfold create
  rw [Store.insert?_keeping hk h]
  cases s.insert? Sql.jobsTable (cells j) <;> rfl

theorem delete_keeping (hk : Store.Uncased kept) (h : kept Sql.jobsTable = true) (id : Uuid) :
    delete (s.keeping kept) id = (delete s id).map (·.keeping kept) := by
  unfold delete deleteRow dropTables
  rw [get_keeping hk h, Store.remove?_keeping hk h]
  cases get s id with
  | error fault => rfl
  | ok job =>
    dsimp only [bind, Except.bind]
    cases s.remove? Sql.jobsTable [("id", .text id.text)] with
    | none => rfl
    | some removed =>
      obtain ⟨s', n⟩ := removed
      cases n with
      | zero => rfl
      | succ n =>
        simp only [Option.map_some, Store.dropQuietly_keeping, pure, Except.pure, Except.map]

theorem deleteEach_keeping (hk : Store.Uncased kept) (h : kept Sql.jobsTable = true)
    (ids : List Uuid) (s : Store) (count : Nat) : deleteEach (s.keeping kept) count ids =
      ((deleteEach s count ids).1.keeping kept, (deleteEach s count ids).2) := by
  induction ids generalizing s count with
  | nil => rfl
  | cons id ids ih =>
    unfold deleteEach
    rw [delete_keeping hk h]
    cases delete s id with
    | ok s' => exact ih s' (count + 1)
    | error fault =>
      cases fault with
      | notFound other => exact ih s count
      | _ => rfl

theorem deleteAll_keeping (hk : Store.Uncased kept) (h : kept Sql.jobsTable = true) :
    deleteAll (s.keeping kept) = ((deleteAll s).1.keeping kept, (deleteAll s).2) := by
  unfold deleteAll
  rw [list_keeping hk h]
  cases list s none with
  | error fault => rfl
  | ok jobs => exact deleteEach_keeping hk h _ s 0

end Registry

/-! ## The service without the tables of tags -/

namespace Service

def withoutTags (s : Service) : Service := { s with store := s.store.keeping s.schema.untagged }

variable {s s₁ s₂ : Service}

theorem getJob_withoutTags (s : Service) (id : Uuid) : s.withoutTags.getJob id = s.getJob id :=
  Registry.get_keeping s.schema.uncased_untagged s.schema.untagged_registry id

theorem listJobs_withoutTags (s : Service) (owner : Option Int) :
    s.withoutTags.listJobs owner = s.listJobs owner :=
  Registry.list_keeping s.schema.uncased_untagged s.schema.untagged_registry owner

/-- What a submission answers does not depend on the tags, whatever it asks for. -/
theorem submit_withoutTags_answer (s : Service) (ticket : Ticket) (r : Request) (owner : Int) :
    (s.withoutTags.submit ticket r owner).2 = (s.submit ticket r owner).2 := by
  cases hv : r.validate with
  | error fault => rw [submit_invalid hv, submit_invalid hv]
  | ok e =>
    have hcompile : s.withoutTags.compile ticket e = s.compile ticket e := rfl
    have hcreate (j : Job) := Registry.create_keeping (s := s.store) s.schema.uncased_untagged
      s.schema.untagged_registry j
    simp only [submit, hv, submitExport, hcompile]
    cases s.compile ticket e with
    | error fault => rfl
    | ok plan =>
      dsimp only [withoutTags]
      rw [hcreate]
      cases Registry.create s.store (jobOf plan ticket owner) <;> rfl

theorem submit_withoutTags (s : Service) (ticket : Ticket) {r : Request} (hr : r.Tagless)
    (owner : Int) :
    (s.withoutTags.submit ticket r owner).1 = (s.submit ticket r owner).1.withoutTags := by
  cases hv : r.validate with
  | error fault => rw [submit_invalid hv, submit_invalid hv]
  | ok e =>
    have hcompile : s.withoutTags.compile ticket e = s.compile ticket e := rfl
    have hcreate (j : Job) := Registry.create_keeping (s := s.store) s.schema.uncased_untagged
      s.schema.untagged_registry j
    simp only [submit, hv, submitExport, hcompile]
    cases hc : s.compile ticket e with
    | error fault => rfl
    | ok plan =>
      dsimp only [withoutTags]
      rw [hcreate]
      cases Registry.create s.store (jobOf plan ticket owner) with
      | error fault => rfl
      | ok store =>
        dsimp only [Except.map]
        rw [Batch.run_keeping s.schema.uncased_untagged s.schema.untagged_registry
          fun statement hst => (hr e hv).statements hc hst]

theorem deleteJob_withoutTags (s : Service) (id : Uuid) :
    s.withoutTags.deleteJob id = ((s.deleteJob id).1.withoutTags, (s.deleteJob id).2) := by
  have hdelete := Registry.delete_keeping (s := s.store) s.schema.uncased_untagged
    s.schema.untagged_registry id
  unfold deleteJob
  dsimp only [withoutTags]
  rw [hdelete]
  cases Registry.delete s.store id <;> rfl

theorem purge_withoutTags (s : Service) :
    s.withoutTags.purge = (s.purge.1.withoutTags, s.purge.2) := by
  have hpurge := Registry.deleteAll_keeping (s := s.store) s.schema.uncased_untagged
    s.schema.untagged_registry
  unfold purge
  dsimp only [withoutTags]
  rw [hpurge]

theorem finished_withoutTags (s : Service) (id : Uuid) :
    Download.finished s.withoutTags.store id = Download.finished s.store id := by
  unfold Download.finished
  rw [show Registry.get s.withoutTags.store id = Registry.get s.store id from
    getJob_withoutTags s id]

theorem download_withoutTags (s : Service) (id : Uuid) (sink : Sink) :
    (s.withoutTags.download id sink).1 = (s.download id sink).1.withoutTags := by
  have hdelete := Registry.delete_keeping (s := s.store) s.schema.uncased_untagged
    s.schema.untagged_registry id
  unfold download Download.run Download.runWith
  rw [finished_withoutTags]
  cases Download.finished s.store id with
  | error fault => rfl
  | ok job =>
    dsimp only [withoutTags, Download.Watch.ofStore]
    rw [hdelete]
    cases Registry.delete s.store id <;> rfl

theorem download_withoutTags_answer (s : Service) {id : Uuid} {j : Job}
    (hj : s.getJob id = .ok j) {suffix : String} (ht : j.tables = .ofSuffix s.schema suffix)
    (sink : Sink) : (s.withoutTags.download id sink).2 = (s.download id sink).2 := by
  have hresult : s.schema.untagged j.tables.result = true := by
    rw [ht]
    exact (s.schema.untagged_ofSuffix suffix).2
  unfold download Download.run Download.runWith
  rw [finished_withoutTags]
  cases hf : Download.finished s.store id with
  | error fault => rfl
  | ok job =>
    obtain ⟨hget, -⟩ := finished_eq_ok.1 hf
    have hget : s.getJob id = .ok job := hget
    rw [hj] at hget
    obtain rfl := Except.ok.inj hget
    dsimp only [withoutTags, Download.Watch.ofStore, Download.writeResult]
    rw [Store.has_keeping hresult, Store.table?_keeping s.schema.uncased_untagged hresult]

/-! ## Runs -/

/-- A call that, if it submits a request, names no tag. -/
def Action.Tagless : Action → Prop
  | .submit _ request _ => request.Tagless
  | _ => True

theorem after_withoutTags (s : Service) {a : Action} (ha : a.Tagless) :
    s.withoutTags.after a = (s.after a).withoutTags := by
  cases a with
  | submit ticket request owner => exact s.submit_withoutTags ticket ha owner
  | get id => rfl
  | list owner => rfl
  | delete id => exact congrArg Prod.fst (s.deleteJob_withoutTags id)
  | download id sink => exact s.download_withoutTags id sink
  | purge => exact congrArg Prod.fst s.purge_withoutTags

theorem afterAll_withoutTags {actions : List Action} (ha : ∀ a ∈ actions, a.Tagless)
    (s : Service) : s.withoutTags.afterAll actions = (s.afterAll actions).withoutTags := by
  induction actions generalizing s with
  | nil => rfl
  | cons a actions ih =>
    obtain ⟨hfirst, hrest⟩ := List.forall_mem_cons.1 ha
    rw [afterAll_cons, afterAll_cons, after_withoutTags s hfirst, ih hrest]

/-- Of two services that differ in the tables of tags alone, both give the same answers after the
same calls without tags: to submissions, to questions for jobs and to downloads. A submission brings
its ticket, so any numbers that the store draws for the names of columns are the same for both. -/
theorem tagless_exports_ignore_tags (h : s₁.withoutTags = s₂.withoutTags) {actions : List Action}
    (ha : ∀ a ∈ actions, a.Tagless) :
    (∀ ticket r owner, ((s₁.afterAll actions).submit ticket r owner).2 =
        ((s₂.afterAll actions).submit ticket r owner).2) ∧
      (∀ id, (s₁.afterAll actions).getJob id = (s₂.afterAll actions).getJob id) ∧
      (∀ owner, (s₁.afterAll actions).listJobs owner = (s₂.afterAll actions).listJobs owner) ∧
      (∀ id, ((s₁.afterAll actions).deleteJob id).2 = ((s₂.afterAll actions).deleteJob id).2) ∧
      ∀ id j suffix, (s₁.afterAll actions).getJob id = .ok j →
        j.tables = .ofSuffix s₁.schema suffix → ∀ sink,
          ((s₁.afterAll actions).download id sink).2 =
            ((s₂.afterAll actions).download id sink).2 := by
  have hsame : (s₁.afterAll actions).withoutTags = (s₂.afterAll actions).withoutTags := by
    rw [← afterAll_withoutTags ha, ← afterAll_withoutTags ha, h]
  have hschema : s₁.withoutTags.schema = s₂.withoutTags.schema := by rw [h]
  have hget (id : Uuid) : (s₁.afterAll actions).getJob id = (s₂.afterAll actions).getJob id := by
    rw [← getJob_withoutTags, hsame, getJob_withoutTags]
  refine ⟨fun ticket r owner => ?_, hget, fun owner => ?_, fun id => ?_,
    fun id j suffix hj ht sink => ?_⟩
  · rw [← submit_withoutTags_answer, hsame, submit_withoutTags_answer]
  · rw [← listJobs_withoutTags, hsame, listJobs_withoutTags]
  · have hdelete (s : Service) : (s.withoutTags.deleteJob id).2 = (s.deleteJob id).2 := by
      rw [s.deleteJob_withoutTags]
    rw [← hdelete, hsame, hdelete]
  · rw [← download_withoutTags_answer _ hj (by rw [schema_afterAll]; exact ht), hsame,
      download_withoutTags_answer _ (hget id ▸ hj) (by rw [schema_afterAll]; exact hschema ▸ ht)]

/-! ## Tags of posts -/

def userTable : Table :=
  ⟨"wp_users", [.needed "ID" .integer], .integer, Store.Row.numbered [[.integer 1]]⟩

/-- A site with one user, where some posts have the colour red. -/
def coloredSite (posts : List Int) : Service := .ofStore ⟨"wp_"⟩ .standard 1000
  ⟨[Registry.table, userTable,
    ⟨"wp_terms", [.needed "term_id" .integer, .free "name" .text], .integer,
      Store.Row.numbered [[.integer 6, .text "red"]]⟩,
    ⟨"wp_term_taxonomy", [.needed "term_taxonomy_id" .integer, .needed "term_id" .integer,
      .free "taxonomy" .text], .integer,
      Store.Row.numbered [[.integer 5, .integer 6, .text "color"]]⟩,
    ⟨"wp_term_relationships", [.needed "object_id" .integer,
      .needed "term_taxonomy_id" .integer], .unique 2,
      Store.Row.numbered (posts.map fun id => [.integer id, .integer 5])⟩]⟩

def users (filters : List RequestedFilter) : Request := ⟨"user", [⟨"default.ID", "User"⟩], filters⟩

def userExport (posts : List Int) (filters : List RequestedFilter) : Service :=
  ((coloredSite posts).submit firstTicket (users filters) 7).1

theorem plainNames_users : (Schema.entityType ⟨"wp_"⟩ "user").PlainNames
    (Schema.tagTables ⟨"wp_"⟩) (.ofSuffix ⟨"wp_"⟩ "a1") :=
  ⟨by decide, by decide, by decide, by decide⟩

theorem validate_users :
    (users []).validate = .ok ⟨"user", [⟨.fixed, "ID", "User"⟩], []⟩ := by decide

theorem tagless_users : (users []).Tagless := by
  intro e he
  obtain rfl := Except.ok.inj (validate_users.symm.trans he)
  exact ⟨fun _ => by simp [Schema.entityType], by decide, by decide⟩

theorem download_userExport :
    ((userExport [1] []).getJob firstTicket.id).map Job.tables =
        .ok (.ofSuffix ⟨"wp_"⟩ firstTicket.suffix) ∧
      ((userExport [1] []).download firstTicket.id .unlimited).2.1.bytes = bytesOf "User\n1\n" := by
  have hplain := Plan.plain_statements plainNames_users (by decide) (by decide)
    (by decide : ∀ f ∈ [Field.mk .fixed "ID" "User"], Plain f.name ∧ Plain f.label)
    (fun _ hm => absurd hm List.not_mem_nil) firstTicket.id
  unfold userExport
  rw [submit_of_plain (s := coloredSite [1]) validate_users rfl hplain]
  decide +kernel

/-- A user is exported alike, whatever the tags of the post with the same id. -/
theorem tagless_exports_ignore_tags_users :
    ((userExport [1] []).download firstTicket.id .unlimited).2 =
        ((userExport [] []).download firstTicket.id .unlimited).2 ∧
      ((userExport [1] []).download firstTicket.id .unlimited).2.1.bytes =
        bytesOf "User\n1\n" := by
  have hsame : (coloredSite [1]).withoutTags = (coloredSite []).withoutTags := rfl
  obtain ⟨-, -, -, -, hdownload⟩ := tagless_exports_ignore_tags hsame
    (List.forall_mem_singleton.2 tagless_users :
      ∀ a ∈ [Action.submit firstTicket (users []) 7], a.Tagless)
  obtain ⟨htables, hbytes⟩ := download_userExport
  obtain ⟨j, hj, htables⟩ := exists_of_map_eq_ok htables
  exact ⟨hdownload firstTicket.id j firstTicket.suffix hj htables .unlimited, hbytes⟩

/-- Whether a user is exported depends on the tags of the post with the same id. -/
theorem tags_of_posts_select_users :
    (coloredSite [1]).withoutTags = (coloredSite []).withoutTags ∧
      ((userExport [1] [⟨"tag.color", "not_empty", none, none⟩]).download firstTicket.id
        .unlimited).2.1.bytes = bytesOf "User\n1\n" ∧
      ((userExport [] [⟨"tag.color", "not_empty", none, none⟩]).download firstTicket.id
        .unlimited).2.1.bytes = bytesOf "User\n" := by
  have hv : (users [⟨"tag.color", "not_empty", none, none⟩]).validate =
      .ok ⟨"user", [⟨.fixed, "ID", "User"⟩], [⟨⟨.tag, "color", ""⟩, .notEmpty, none, none⟩]⟩ := by
    decide
  have hplain := Plan.plain_statements plainNames_users (by decide) (by decide)
    (by decide : ∀ f ∈ [Field.mk .fixed "ID" "User"], Plain f.name ∧ Plain f.label)
    (List.forall_mem_singleton.2
      (EntityType.plain_tagJoin plainNames_users 0 (by decide) (by decide)) :
      ∀ part ∈ [(FieldKind.tag, Fragment.join ((Schema.entityType ⟨"wp_"⟩ "user").tagJoin
        (Schema.tagTables ⟨"wp_"⟩) 0 "color" none))], Plain part.2.render) firstTicket.id
  have submitted (posts : List Int) := submit_of_plain (s := coloredSite posts) hv rfl hplain 7
  unfold userExport
  rw [submitted, submitted]
  exact ⟨rfl, by decide +kernel, by decide +kernel⟩

end Service

end SheetExport
