import SheetExport.Proofs.Reads

/-!
# A store without one job

A job can be left out of a store together with its row and its two tables. What the job itself does
cannot be seen in what is left, and any other job does there what it does in the whole store.
-/

namespace SheetExport

open Store (Table)
open Text (sameName)
open Registry (Holds holding withStatus)
open Sql (Statement)

/-! ## Names -/

namespace JobTables

variable {tables : JobTables} {name : String}

def lacks (tables : JobTables) (name : String) : Bool :=
  !sameName tables.scratch name && !sameName tables.result name

/-- A name that neither the registry nor a table of the job has. -/
structure Spares (tables : JobTables) (name : String) : Prop where
  registry : sameName Sql.jobsTable name = false
  own : tables.lacks name = true

theorem uncased_lacks (tables : JobTables) : Store.Uncased tables.lacks := by
  intro a b hab
  unfold lacks
  rw [sameName_comm _ a, sameName_comm _ a, sameName_congr hab, sameName_congr hab,
    sameName_comm b, sameName_comm b]

theorem Spares.of_other (hr : sameName Sql.jobsTable name = false)
    (hs : sameName tables.scratch name = false) (ht : sameName tables.result name = false) :
    tables.Spares name :=
  ⟨hr, by rw [lacks, hs, ht]; rfl⟩

theorem Separate.lacks_registry (h : tables.Separate) : tables.lacks Sql.jobsTable = true := by
  rw [lacks, sameName_comm, h.scratch, sameName_comm, h.result]
  rfl

theorem lacks_scratch (tables : JobTables) : tables.lacks tables.scratch = false := by
  rw [lacks, sameName_self]
  rfl

theorem lacks_result (tables : JobTables) : tables.lacks tables.result = false := by
  rw [lacks, sameName_self]
  exact Bool.and_false _

end JobTables

namespace Store

/-- The store without a job: its tables are left out and its row is removed. -/
def forgetting (s : Store) (id : Uuid) (tables : JobTables) : Store :=
  match s.table? Sql.jobsTable with
  | some t => (s.keeping tables.lacks).replace Sql.jobsTable (t.remove [("id", .text id.text)]).1
  | none => s.keeping tables.lacks

variable {s s' : Store} {o : Store.Occasion} {id other : Uuid} {tables : JobTables}
  {name : String} {t : Table}

theorem name_removed (h : s.table? name = some t) (given : List (String × Value)) :
    sameName (t.remove given).1.name name = true :=
  name_of_table? (t := t) h

/-! ## What is left -/

theorem table?_forgetting (h : tables.Spares name) :
    (s.forgetting id tables).table? name = s.table? name := by
  unfold forgetting
  split
  · rename_i u hu
    rw [table?_replace_other (name_removed hu _) h.registry,
      table?_keeping tables.uncased_lacks h.own]
  · exact table?_keeping tables.uncased_lacks h.own

theorem has_forgetting (h : tables.Spares name) :
    (s.forgetting id tables).has name = s.has name := by
  unfold forgetting
  split
  · rename_i u hu
    rw [has_replace_other (name_removed hu _) h.registry, has_keeping h.own]
  · exact has_keeping h.own

theorem agree_forgetting {names : List String} (h : ∀ name ∈ names, tables.Spares name) :
    s.Agree (s.forgetting id tables) names :=
  fun name hm => table?_forgetting (h name hm)

/-! ## Changes of other tables -/

theorem forgetting_append (h : tables.Spares t.name) :
    (⟨s.tables ++ [t]⟩ : Store).forgetting id tables =
      ⟨(s.forgetting id tables).tables ++ [t]⟩ := by
  have hname : sameName t.name Sql.jobsTable = false := (sameName_comm _ _).trans h.registry
  have hregistry : (⟨s.tables ++ [t]⟩ : Store).table? Sql.jobsTable = s.table? Sql.jobsTable := by
    rw [table?_append, hname]
    simp
  unfold forgetting
  rw [hregistry, keeping_append_other h.own]
  split
  · exact replace_append_other hname
  · rfl

theorem forgetting_replace (hn : sameName t.name name = true) (h : tables.Spares name) :
    (s.replace name t).forgetting id tables = (s.forgetting id tables).replace name t := by
  have hother : sameName name Sql.jobsTable = false := (sameName_comm _ _).trans h.registry
  unfold forgetting
  rw [table?_replace_other hn hother, keeping_replace_other tables.uncased_lacks hn h.own]
  split
  · rename_i u hu
    exact replace_comm hn (name_removed hu _) hother
  · rfl

theorem forgetting_without (h : tables.Spares name) :
    (s.without name).forgetting id tables = (s.forgetting id tables).without name := by
  have hother : sameName name Sql.jobsTable = false := (sameName_comm _ _).trans h.registry
  unfold forgetting
  rw [table?_without_other hother, keeping_without_comm]
  split
  · rename_i u hu
    exact (replace_without_comm (name_removed hu _) h.registry).symm
  · rfl

theorem create?_forgetting (h : tables.Spares t.name) :
    (s.forgetting id tables).create? t = (s.create? t).map (·.forgetting id tables) := by
  unfold create?
  rw [table?_forgetting h]
  split
  · rfl
  · rw [Option.map_some, forgetting_append h]

theorem insert?_forgetting (h : tables.Spares name) (cells : List (String × Value)) :
    (s.forgetting id tables).insert? name cells =
      (s.insert? name cells).map (·.forgetting id tables) := by
  unfold insert? change?
  rw [table?_forgetting h]
  cases ht : s.table? name with
  | none => rfl
  | some t =>
    cases hu : t.insert? cells with
    | none => simp [hu]
    | some u =>
      have hname : sameName u.name name = true := by
        rw [name_insert? hu]
        exact name_of_table? ht
      simp [hu, forgetting_replace hname h]

theorem insertIds?_forgetting (h : tables.Spares name) (ids : List Value) :
    (s.forgetting id tables).insertIds? name ids =
      (s.insertIds? name ids).map (·.forgetting id tables) := by
  unfold insertIds?
  induction ids generalizing s with
  | nil => rfl
  | cons v ids ih =>
    rw [List.foldlM_cons, List.foldlM_cons, insert?_forgetting h]
    cases s.insert? name [("id", v)] with
    | none => rfl
    | some s' => exact ih

theorem drop?_forgetting (h : tables.Spares name) :
    (s.forgetting id tables).drop? name = (s.drop? name).map (·.forgetting id tables) := by
  unfold drop?
  split
  · rfl
  · rw [Option.map_some, forgetting_without h]

theorem dropQuietly_forgetting (h : tables.Spares name) :
    (s.forgetting id tables).dropQuietly name = (s.dropQuietly name).forgetting id tables := by
  unfold dropQuietly
  rw [drop?_forgetting h]
  cases s.drop? name <;> rfl

/-! ## Changes of the job's own tables -/

theorem forgetting_congr (hk : s'.keeping tables.lacks = s.keeping tables.lacks)
    (hr : s'.table? Sql.jobsTable = s.table? Sql.jobsTable) :
    s'.forgetting id tables = s.forgetting id tables := by
  unfold forgetting
  rw [hk, hr]

theorem keeping_create? (h : s.create? t = some s') (hn : tables.lacks t.name = false) :
    s'.keeping tables.lacks = s.keeping tables.lacks := by
  obtain ⟨-, rfl⟩ := create?_eq_some.1 h
  exact keeping_append_self hn

theorem keeping_insertIds? {ids : List Value} (h : s.insertIds? name ids = some s')
    (hn : tables.lacks name = false) : s'.keeping tables.lacks = s.keeping tables.lacks :=
  insertIds?_induction (motive := fun mid => mid.keeping tables.lacks = s.keeping tables.lacks)
    (fun _ _ _ hname hmid => (keeping_replace_self tables.uncased_lacks hname hn).trans hmid) h rfl

theorem keeping_dropQuietly (hn : tables.lacks name = false) :
    (s.dropQuietly name).keeping tables.lacks = s.keeping tables.lacks := by
  unfold dropQuietly drop?
  split
  · rfl
  · exact keeping_without_self tables.uncased_lacks hn

/-! ## The registry -/

variable {jobs jobs' : List (Int × Job)}

theorem forgetting_eq (h : Holds s jobs) : s.forgetting id tables =
    (s.keeping tables.lacks).replace Sql.jobsTable
      (holding (jobs.filter fun e => e.2.id ≠ id)) := by
  unfold forgetting
  rw [h.table]
  dsimp only
  rw [Registry.remove_holding]

theorem holds_forgetting (h : Holds s jobs) (hs : tables.Separate) :
    Holds (s.forgetting id tables) (jobs.filter fun e => e.2.id ≠ id) := by
  have hkept : Holds (s.keeping tables.lacks) jobs :=
    h.congr (table?_keeping tables.uncased_lacks hs.lacks_registry)
  rw [forgetting_eq h]
  exact hkept.filtered _

/-- Whatever the registry was made to hold, the job is left out of it. -/
theorem forgetting_registry (h : Holds s jobs)
    (h' : Holds (s.replace Sql.jobsTable (holding jobs')) jobs') (hs : tables.Separate) :
    (s.replace Sql.jobsTable (holding jobs')).forgetting id tables =
      (s.forgetting id tables).replace Sql.jobsTable
        (holding (jobs'.filter fun e => e.2.id ≠ id)) := by
  have hname (jobs : List (Int × Job)) : sameName (holding jobs).name Sql.jobsTable = true :=
    sameName_self _
  rw [forgetting_eq h', forgetting_eq h, replace_replace_self (hname _),
    keeping_replace_other tables.uncased_lacks (hname _) hs.lacks_registry,
    replace_replace_self (hname _)]

theorem forgetting_registry_own (h : Holds s jobs)
    (h' : Holds (s.replace Sql.jobsTable (holding jobs')) jobs') (hs : tables.Separate)
    (hj : (jobs'.filter fun e => e.2.id ≠ id) = jobs.filter fun e => e.2.id ≠ id) :
    (s.replace Sql.jobsTable (holding jobs')).forgetting id tables = s.forgetting id tables := by
  rw [forgetting_registry h h' hs, hj, forgetting_eq h]
  exact replace_replace_self (sameName_self _)

/-! ## Questions of other jobs -/

theorem filter_other (hid : other ≠ id) (jobs : List (Int × Job)) :
    ((jobs.filter fun e => e.2.id ≠ id).filter fun e => e.2.id = other) =
      jobs.filter fun e => e.2.id = other := by
  rw [List.filter_filter]
  refine List.filter_congr fun e _ => ?_
  by_cases he : e.2.id = other
  · simp [he, hid]
  · simp [he]

theorem find?_other (hid : other ≠ id) (jobs : List (Int × Job)) :
    (jobs.filter fun e => e.2.id ≠ id).find? (fun e => e.2.id = other) =
      jobs.find? fun e => e.2.id = other := by
  rw [← List.head?_filter, filter_other hid, List.head?_filter]

theorem get_forgetting (h : Holds s jobs) (hs : tables.Separate) (hid : other ≠ id) :
    Registry.get (s.forgetting id tables) other = Registry.get s other := by
  unfold Registry.get
  rw [Registry.find_eq (holds_forgetting h hs), Registry.find_eq h, find?_other hid]

theorem isRegistered_forgetting (h : Holds s jobs) (hs : tables.Separate) (hid : other ≠ id) :
    Batch.isRegistered (s.forgetting id tables) other = Batch.isRegistered s other := by
  rw [Registry.isRegistered_eq (holds_forgetting h hs), Registry.isRegistered_eq h,
    ← List.isSome_find?, ← List.isSome_find?, find?_other hid]

theorem setStatus_forgetting (h : Holds s jobs) (hs : tables.Separate) (other : Uuid)
    (status : Status) : (s.forgetting id tables).run? o (.setStatus other status) =
      (s.run? o (.setStatus other status)).map (·.forgetting id tables) := by
  have hjobs : ((jobs.filter fun e => e.2.id ≠ id).map (withStatus other status)) =
      (jobs.map (withStatus other status)).filter fun e => e.2.id ≠ id := by
    rw [List.filter_map]
    refine congrArg (List.map _) (List.filter_congr fun e _ => ?_)
    rw [Function.comp_apply, Registry.withStatus_id]
  rw [Batch.run?_setStatus h, Batch.run?_setStatus (holds_forgetting h hs), Option.map_some,
    forgetting_registry h (h.withStatus other status) hs, hjobs]

theorem delete_forgetting (h : Holds s jobs) (hs : tables.Separate) (hid : other ≠ id)
    (hspared : ∀ e ∈ jobs, e.2.id = other →
      tables.Spares e.2.tables.scratch ∧ tables.Spares e.2.tables.result) :
    Registry.delete (s.forgetting id tables) other =
      (Registry.delete s other).map (·.forgetting id tables) := by
  have hfind := find?_other hid jobs
  cases hf : jobs.find? fun e => e.2.id = other with
  | none =>
    rw [Registry.delete_of_absent h hf,
      Registry.delete_of_absent (holds_forgetting h hs) (hfind.trans hf)]
    rfl
  | some e =>
    obtain ⟨hscratch, hresult⟩ := hspared e (List.mem_of_find?_eq_some hf)
      (by simpa using List.find?_some hf)
    have hjobs : ((jobs.filter fun e => e.2.id ≠ id).filter fun e => e.2.id ≠ other) =
        (jobs.filter fun e => e.2.id ≠ other).filter fun e => e.2.id ≠ id := by
      rw [List.filter_filter, List.filter_filter]
      simp [Bool.and_comm]
    rw [Registry.delete_of_find h hf,
      Registry.delete_of_find (holds_forgetting h hs) (hfind.trans hf), Except.map]
    refine congrArg Except.ok ?_
    unfold Registry.dropTables
    rw [← dropQuietly_forgetting hresult, ← dropQuietly_forgetting hscratch,
      forgetting_registry h (h.filtered _) hs, hjobs]

end Store

end SheetExport
