import SheetExport.Download
import SheetExport.Proofs.Forgetting

/-!
# Jobs at work

What can be done with a job once it is registered, and that all of it stays within the job's row and
its two tables: in the store without the job nothing is seen of it.
-/

namespace SheetExport

open Text (sameName)
open Registry (Holds holding withStatus)
open Sql (Statement)

/-- A job with the request and the suffix that its plan was made from. -/
structure PlannedJob (schema : Schema) where
  id : Uuid
  suffix : String
  typeName : String
  fields : List Field
  filters : List Filter
  plan : Plan
  compiled : Plan.compile schema typeName fields filters (.ofSuffix schema suffix) = .ok plan

inductive Operation where
  /-- One statement of the batch, by its place. -/
  | statement (o : Store.Occasion) (index : Nat)
  | batch (o : Store.Occasion)
  | get
  | download (batchSize : Nat) (format : Csv.Format) (sink : Sink)
  | delete

inductive Answer where
  | ran (done : Bool)
  | ended
  | job (job : Except JobFault Job)
  | document (sink : Sink) (outcome : Except JobFault Csv.Stats)
  | deleted (outcome : Except JobFault Unit)
  deriving DecidableEq

namespace PlannedJob

variable {schema : Schema}

def tables (e : PlannedJob schema) : JobTables := .ofSuffix schema e.suffix

def statements (e : PlannedJob schema) : List Statement := e.plan.statements e.id

def perform (e : PlannedJob schema) (s : Store) : Operation → Store × Answer
  | .statement o index =>
    match e.statements[index]?.bind (Batch.step? s o e.id) with
    | some s' => (s', .ran true)
    | none => (s, .ran false)
  | .batch o => (Batch.run s o e.id e.statements, .ended)
  | .get => (s, .job (Registry.get s e.id))
  | .download batchSize format sink =>
    let (s', sink', outcome) := Download.run batchSize format s e.id sink
    (s', .document sink' outcome)
  | .delete =>
    match Registry.delete s e.id with
    | .ok s' => (s', .deleted (.ok ()))
    | .error fault => (s, .deleted (.error fault))

/-- The rows of the job name its own tables. -/
def Owns (e : PlannedJob schema) (jobs : List (Int × Job)) : Prop :=
  ∀ f ∈ jobs, f.2.id = e.id → f.2.tables = e.tables

variable {a b e : PlannedJob schema} {s s' : Store} {jobs jobs' : List (Int × Job)}
  {o : Store.Occasion} {statement : Statement}

/-! ## Names -/

theorem separate (e : PlannedJob schema) : e.tables.Separate := JobTables.separate_ofSuffix ..

theorem spares_site (e : PlannedJob schema) {typeName name : String}
    (h : name ∈ (schema.entityType typeName).siteTables schema.tagTables) :
    e.tables.Spares name := by
  obtain ⟨hregistry, hscratch, hresult⟩ := Schema.site_apart h e.suffix
  exact .of_other hregistry hscratch hresult

theorem exists_plan (e : PlannedJob schema) : ∃ q p,
    e.statements = (Plan.ofSelection (schema.entityType e.typeName) e.tables q p).statements e.id ∧
      q.tables ⊆ (schema.entityType e.typeName).siteTables schema.tagTables ∧
      p.tables ⊆ (schema.entityType e.typeName).siteTables schema.tagTables ++
        [e.tables.scratch] := by
  obtain ⟨-, parts, hparts, hplan⟩ := Plan.compile_eq_ok.1 e.compiled
  exact ⟨_, _, congrArg (Plan.statements · e.id) hplan, EntityType.tables_selection hparts,
    EntityType.tables_projection _⟩

/-! ## What a job does is not seen without it -/

/-- The jobs after steps of one of them: the others are as they were, and no row changed its
tables. -/
structure Follows (id : Uuid) (jobs jobs' : List (Int × Job)) : Prop where
  others : (jobs'.filter fun e => e.2.id ≠ id) = jobs.filter fun e => e.2.id ≠ id
  tables : ∀ f ∈ jobs', ∃ g ∈ jobs, g.2.id = f.2.id ∧ g.2.tables = f.2.tables

theorem Follows.owns (h : Follows a.id jobs jobs') (ho : e.Owns jobs) : e.Owns jobs' := by
  intro f hf hid
  obtain ⟨g, hg, hgid, hgt⟩ := h.tables f hf
  rw [← hgt]
  exact ho g hg (hgid.trans hid)

theorem follows_refl (id : Uuid) (jobs : List (Int × Job)) : Follows id jobs jobs :=
  ⟨rfl, fun f hf => ⟨f, hf, rfl, rfl⟩⟩

theorem Follows.trans {jobs'' : List (Int × Job)} {id : Uuid} (h : Follows id jobs jobs')
    (h' : Follows id jobs' jobs'') : Follows id jobs jobs'' := by
  refine ⟨h'.others.trans h.others, fun f hf => ?_⟩
  obtain ⟨g, hg, hgid, hgt⟩ := h'.tables f hf
  obtain ⟨k, hk, hkid, hkt⟩ := h.tables g hg
  exact ⟨k, hk, hkid.trans hgid, hkt.trans hgt⟩

theorem follows_withStatus (id : Uuid) (status : Status) (jobs : List (Int × Job)) :
    Follows id jobs (jobs.map (withStatus id status)) := by
  constructor
  · rw [List.filter_map]
    have hkept : (jobs.filter fun e => e.2.id ≠ id).map (withStatus id status) =
        jobs.filter fun e => e.2.id ≠ id := by
      refine (List.map_congr_left fun e he => ?_).trans (List.map_id _)
      have hne : e.2.id ≠ id := by simpa using (List.mem_filter.1 he).2
      unfold Registry.withStatus
      rw [if_neg hne]
      rfl
    refine Eq.trans (congrArg (List.map _) (List.filter_congr fun e _ => ?_)) hkept
    rw [Function.comp_apply, Registry.withStatus_id]
  · intro f hf
    obtain ⟨g, hg, rfl⟩ := List.mem_map.1 hf
    refine ⟨g, hg, (Registry.withStatus_id id status g).symm, ?_⟩
    unfold Registry.withStatus
    split <;> rfl

theorem follows_filter (id : Uuid) (jobs : List (Int × Job)) :
    Follows id jobs (jobs.filter fun e => e.2.id ≠ id) := by
  constructor
  · rw [List.filter_filter]
    simp
  · exact fun f hf => ⟨f, (List.mem_filter.1 hf).1, rfl, rfl⟩

/-- From one store to the next nothing is seen without the job. -/
def Hides (e : PlannedJob schema) (s s' : Store) : Prop :=
  ∀ jobs, Holds s jobs → e.Owns jobs →
    (∃ jobs', Holds s' jobs' ∧ Follows e.id jobs jobs') ∧
      s'.forgetting e.id e.tables = s.forgetting e.id e.tables

theorem hides_refl (e : PlannedJob schema) (s : Store) : e.Hides s s :=
  fun jobs h _ => ⟨⟨jobs, h, follows_refl _ _⟩, rfl⟩

theorem Hides.trans {s'' : Store} (h : e.Hides s s') (h' : e.Hides s' s'') : e.Hides s s'' := by
  intro jobs hh ho
  obtain ⟨⟨jobs', hh', hf⟩, hs⟩ := h jobs hh ho
  obtain ⟨⟨jobs'', hh'', hf'⟩, hs'⟩ := h' jobs' hh' (hf.owns ho)
  exact ⟨⟨jobs'', hh'', hf.trans hf'⟩, hs'.trans hs⟩

theorem hides_step (h : Batch.step? s o e.id statement = some s') (hst : statement ∈ e.statements) :
    e.Hides s s' := by
  intro jobs hh ho
  obtain ⟨q, p, hplan, -, -⟩ := e.exists_plan
  rw [hplan] at hst
  unfold Batch.step? at h
  split at h
  · rename_i hregistered
    rw [Registry.isRegistered_eq hh] at hregistered
    obtain ⟨f, hf, hid⟩ := List.any_eq_true.1 hregistered
    have halong := Batch.along_start hh hf e.tables
    rw [of_decide_eq_true hid] at halong
    obtain ⟨status, halong'⟩ := halong.statement e.separate hregistered hst h
    refine ⟨⟨_, halong'.holds, follows_withStatus ..⟩, ?_⟩
    have kept (hk : s'.keeping e.tables.lacks = s.keeping e.tables.lacks)
        {name : String} (hn : sameName name Sql.jobsTable = false)
        (hother : ∀ other, sameName name other = false → s'.table? other = s.table? other) :
        s'.forgetting e.id e.tables = s.forgetting e.id e.tables :=
      Store.forgetting_congr hk (hother _ hn)
    have hscratch := (sameName_comm _ _).trans e.separate.scratch
    have hresult := (sameName_comm _ _).trans e.separate.result
    rcases Plan.statement_cases hst with ⟨next, rfl⟩ | rfl | rfl | rfl | rfl
    · rw [Batch.run?_setStatus hh] at h
      obtain rfl := Option.some.inj h
      exact Store.forgetting_registry_own hh (hh.withStatus _ _) e.separate
        (follows_withStatus _ _ _).others
    · have hcreate := Batch.run?_createIds h
      exact kept (Store.keeping_create? hcreate e.tables.lacks_scratch) hscratch
        fun other hn => Store.table?_create_other hcreate hn
    · have hinsert := Batch.run?_insertIds h
      exact kept (Store.keeping_insertIds? hinsert e.tables.lacks_scratch) hscratch
        fun other hn => Store.table?_insertIds_other hn hinsert
    · have hcreate := Batch.run?_createResult h
      exact kept (Store.keeping_create? hcreate e.tables.lacks_result) hresult
        fun other hn => Store.table?_create_other hcreate hn
    · obtain rfl := Batch.run?_dropTable h
      exact kept (Store.keeping_without_self e.tables.uncased_lacks e.tables.lacks_scratch)
        hscratch fun other hn => Store.table?_without_other hn
  · exact absurd h (by simp)

theorem hides_run (statements : List Statement) (hst : statements ⊆ e.statements) :
    ∀ s, e.Hides s (Batch.run s o e.id statements) := by
  induction statements with
  | nil => exact e.hides_refl
  | cons statement rest ih =>
    intro s
    obtain ⟨hfirst, hrest⟩ := List.cons_subset.1 hst
    cases hstep : Batch.step? s o e.id statement with
    | none =>
      rw [Batch.run_cons_of_none hstep]
      exact e.hides_refl s
    | some s' =>
      rw [Batch.run_cons_of_some hstep]
      exact (hides_step hstep hfirst).trans (ih hrest s')

theorem hides_delete (h : Registry.delete s e.id = .ok s') : e.Hides s s' := by
  intro jobs hh ho
  cases hf : jobs.find? fun f => f.2.id = e.id with
  | none =>
    rw [Registry.delete_of_absent hh hf] at h
    exact absurd h (by simp)
  | some f =>
    have htables : f.2.tables = e.tables :=
      ho f (List.mem_of_find?_eq_some hf) (by simpa using List.find?_some hf)
    rw [Registry.delete_of_find hh hf, htables] at h
    obtain rfl := Except.ok.inj h
    have hkept := hh.filtered fun f => f.2.id ≠ e.id
    have hregistry : (Registry.dropTables (s.replace Sql.jobsTable
        (holding (jobs.filter fun f => f.2.id ≠ e.id))) e.tables).table? Sql.jobsTable =
          (s.replace Sql.jobsTable
            (holding (jobs.filter fun f => f.2.id ≠ e.id))).table? Sql.jobsTable := by
      unfold Registry.dropTables
      rw [Store.table?_dropQuietly_other ((sameName_comm _ _).trans e.separate.result),
        Store.table?_dropQuietly_other ((sameName_comm _ _).trans e.separate.scratch)]
    refine ⟨⟨_, hkept.congr hregistry, follows_filter ..⟩, ?_⟩
    refine (Store.forgetting_congr ?_ hregistry).trans (Store.forgetting_registry_own hh hkept
      e.separate (follows_filter _ _).others)
    unfold Registry.dropTables
    rw [Store.keeping_dropQuietly e.tables.lacks_result,
      Store.keeping_dropQuietly e.tables.lacks_scratch]

theorem hides_download (batchSize : Nat) (format : Csv.Format) (s : Store) (sink : Sink) :
    e.Hides s (Download.run batchSize format s e.id sink).1 := by
  unfold Download.run Download.runWith
  cases Download.finished s e.id with
  | error fault => exact e.hides_refl s
  | ok job =>
    dsimp only [Download.Watch.ofStore]
    cases hd : Registry.delete s e.id with
    | error fault => exact e.hides_refl s
    | ok s' => exact hides_delete hd

theorem hides_perform (e : PlannedJob schema) (s : Store) (operation : Operation) :
    e.Hides s (e.perform s operation).1 := by
  cases operation with
  | statement o index =>
    unfold perform
    dsimp only
    split
    · rename_i s' hs'
      obtain ⟨statement, hst, hstep⟩ := Option.bind_eq_some_iff.1 hs'
      exact hides_step hstep (List.mem_of_getElem? hst)
    · exact e.hides_refl s
  | batch o => exact hides_run _ (List.Subset.refl _) s
  | get => exact e.hides_refl s
  | download batchSize format sink => exact hides_download batchSize format s sink
  | delete =>
    unfold perform
    dsimp only
    split
    · rename_i s' hs'
      exact hides_delete hs'
    · exact e.hides_refl s

end PlannedJob

end SheetExport
