import SheetExport.Proofs.ProjectedRows
import SheetExport.Proofs.Registered

/-!
# How far a batch comes

The statements of a plan are followed one by one from a job that has just been registered. A batch
can stop while it makes its scratch table, fills it or makes its result. Once the result is there
nothing stops it, so a job is done with a result and without a scratch table, or it has no result.
-/

namespace SheetExport

open Text (sameName)

namespace Store

variable {s s' : Store} {o : Occasion}

/-! ## What a statement leaves alone -/

theorem name_insert? {t u : Table} {values : List (String × Value)}
    (h : t.insert? values = some u) : u.name = t.name := by
  unfold Table.insert? at h
  split at h
  · exact absurd h (by simp)
  · obtain ⟨places, -, h⟩ := Option.bind_eq_some_iff.1 h
    unfold Table.insertDraft? at h
    obtain ⟨row, -, h⟩ := Option.bind_eq_some_iff.1 h
    split at h
    · exact absurd h (by simp)
    · exact (congrArg Table.name (Option.some.inj h)).symm

/-- What putting another table under the name keeps is kept when ids are put into that table. -/
theorem insertIds?_induction {name : String} {motive : Store → Prop}
    (step : ∀ (s : Store) (u : Table), (s.table? name).isSome = true →
      sameName u.name name = true → motive s → motive (s.replace name u))
    {ids : List Value} (h : s.insertIds? name ids = some s') (hs : motive s) : motive s' := by
  unfold insertIds? at h
  induction ids generalizing s with
  | nil =>
    obtain rfl := Option.some.inj h
    exact hs
  | cons v ids ih =>
    rw [List.foldlM_cons] at h
    obtain ⟨mid, hmid, hrest⟩ := Option.bind_eq_some_iff.1 h
    obtain ⟨t, u, ht, hu, rfl⟩ := insert?_eq_some.1 hmid
    have hname : sameName u.name name = true := by
      rw [name_insert? hu]
      exact name_of_table? ht
    exact ih hrest (step s u (by rw [ht]; rfl) hname hs)

theorem table?_insertIds_other {name other : String} (ho : sameName name other = false)
    {ids : List Value} (h : s.insertIds? name ids = some s') : s'.table? other = s.table? other :=
  insertIds?_induction (motive := fun mid => mid.table? other = s.table? other)
    (fun _ _ _ hname hmid => (table?_replace_other hname ho).trans hmid) h rfl

theorem table?_dropQuietly_other {name other : String} (ho : sameName name other = false) :
    (s.dropQuietly name).table? other = s.table? other := by
  unfold dropQuietly drop?
  split
  · rfl
  · exact table?_without_other ho

theorem isReserved_congr {a b : String} (h : sameName a b = true) :
    isReserved a = isReserved b := by
  unfold isReserved
  rw [sameName_iff.1 h]

/-- A table of this name may be dropped, if there is one. -/
def Droppable (s : Store) (name : String) : Prop := isReserved name = true → s.table? name = none

theorem table?_dropQuietly_self {name other : String} (hn : sameName name other = true)
    (h : s.Droppable other) :
    (s.dropQuietly name).table? other = none := by
  unfold dropQuietly drop?
  split
  · rename_i hr
    rw [isReserved_congr hn] at hr
    exact h hr
  · exact table?_without_self hn

theorem table?_dropQuietly_of_none {name other : String} (h : s.table? other = none) :
    (s.dropQuietly name).table? other = none := by
  cases hn : sameName name other with
  | true => exact table?_dropQuietly_self hn fun _ => h
  | false => rw [table?_dropQuietly_other hn, h]

theorem run?_of_written {statement : Sql.Statement} (h : s.run? o statement = some s') :
    isWritten statement = true := by
  unfold run? at h
  split at h
  · exact absurd h (by simp)
  · rename_i hw
    simpa using hw

end Store

/-! ## Table names of jobs -/

namespace JobTables

theorem length_lowerAscii (s : String) : (Text.lowerAscii s).toList.length = s.toList.length := by
  rw [toList_lowerAscii, List.length_map]

theorem sameName_append_left (p a b : String) : sameName (p ++ a) (p ++ b) = sameName a b := by
  rw [Bool.eq_iff_iff, sameName_iff, sameName_iff, ← String.toList_inj, ← String.toList_inj]
  simp only [toList_lowerAscii, String.toList_append, List.map_append, List.append_cancel_left_eq]

theorem scratch_ofSuffix (schema : Schema) (suffix : String) :
    (ofSuffix schema suffix).scratch =
      schema.tablePrefix ++ ("csvexport_" ++ ("scratch_" ++ suffix)) := by
  have h : "csvexport_scratch_" = "csvexport_" ++ "scratch_" := by decide
  simp only [ofSuffix, Schema.table, h, String.append_assoc]

theorem result_ofSuffix (schema : Schema) (suffix : String) :
    (ofSuffix schema suffix).result =
      schema.tablePrefix ++ ("csvexport_" ++ ("results_" ++ suffix)) := by
  have h : "csvexport_results_" = "csvexport_" ++ "results_" := by decide
  simp only [ofSuffix, Schema.table, h, String.append_assoc]

theorem sameName_scratch (schema : Schema) (a b : String) :
    sameName (ofSuffix schema a).scratch (ofSuffix schema b).scratch = sameName a b := by
  rw [scratch_ofSuffix, scratch_ofSuffix, sameName_append_left, sameName_append_left,
    sameName_append_left]

theorem sameName_result (schema : Schema) (a b : String) :
    sameName (ofSuffix schema a).result (ofSuffix schema b).result = sameName a b := by
  rw [result_ofSuffix, result_ofSuffix, sameName_append_left, sameName_append_left,
    sameName_append_left]

theorem scratch_ne_result (schema : Schema) (a b : String) :
    sameName (ofSuffix schema a).scratch (ofSuffix schema b).result = false := by
  rw [scratch_ofSuffix, result_ofSuffix, sameName_append_left, sameName_append_left,
    ← Bool.not_eq_true, sameName_iff, ← String.toList_inj]
  have hs : "scratch_".toList = 's' :: "cratch_".toList := rfl
  have hr : "results_".toList = 'r' :: "esults_".toList := rfl
  simp only [toList_lowerAscii, String.toList_append, hs, hr, List.cons_append, List.map_cons,
    List.cons.injEq]
  exact fun h => absurd h.1 (by decide)

/-- The names of a job's tables differ from each other and from that of the registry. -/
structure Separate (tables : JobTables) : Prop where
  scratch : sameName Sql.jobsTable tables.scratch = false
  result : sameName Sql.jobsTable tables.result = false
  two : sameName tables.scratch tables.result = false

theorem separate_ofSuffix (schema : Schema) (suffix : String) :
    (ofSuffix schema suffix).Separate := by
  have longer {a b : String} (h : a.toList.length < b.toList.length) : sameName a b = false := by
    rw [← Bool.not_eq_true, sameName_iff]
    intro he
    have := congrArg (fun s => (String.toList s).length) he
    simp only [length_lowerAscii] at this
    omega
  have hjobs : Sql.jobsTable.toList.length = 11 := rfl
  have hstart : "csvexport_".toList.length = 10 := rfl
  have hscratch : "scratch_".toList.length = 8 := rfl
  have hresults : "results_".toList.length = 8 := rfl
  refine ⟨longer ?_, longer ?_, scratch_ne_result schema suffix suffix⟩
  · rw [scratch_ofSuffix]
    simp only [String.toList_append, List.length_append]
    omega
  · rw [result_ofSuffix]
    simp only [String.toList_append, List.length_append]
    omega

end JobTables

/-! ## Statements of a plan -/

theorem Plan.statement_cases {t : EntityType} {tables : JobTables} {q : Sql.Selection}
    {p : Sql.Projection} {id : Uuid} {statement : Sql.Statement}
    (h : statement ∈ (Plan.ofSelection t tables q p).statements id) :
    (∃ status, statement = .setStatus id status) ∨ statement = .createIds tables.scratch ∨
      statement = .insertIds tables.scratch q ∨ statement = .createResult tables.result p ∨
      statement = .dropTable tables.scratch := by
  have h : statement ∈ [.setStatus id .preparingScratch, .createIds tables.scratch,
      .setStatus id .filteringEntities, .insertIds tables.scratch q,
      .setStatus id .compilingResults, .createResult tables.result p,
      .setStatus id .cleaningUp, .dropTable tables.scratch, .setStatus id .done] := h
  simp only [List.mem_cons, List.not_mem_nil, or_false] at h
  rcases h with h | h | h | h | h | h | h | h | h
  · exact .inl ⟨_, h⟩
  · exact .inr (.inl h)
  · exact .inl ⟨_, h⟩
  · exact .inr (.inr (.inl h))
  · exact .inl ⟨_, h⟩
  · exact .inr (.inr (.inr (.inl h)))
  · exact .inl ⟨_, h⟩
  · exact .inr (.inr (.inr (.inr h)))
  · exact .inl ⟨_, h⟩

/-! ## Statements of a batch -/

namespace Batch

open Registry (Holds withStatus)
open Sql (Statement)

variable {s s' s₀ : Store} {o : Store.Occasion} {jobs : List (Int × Job)} {id : Uuid}
  {tables : JobTables} {status : Status}

theorem run_cons_of_some {statement : Statement} (h : step? s o id statement = some s')
    (rest : List Statement) : run s o id (statement :: rest) = run s' o id rest := by
  rw [run, h]

theorem run_cons_of_none {statement : Statement} (h : step? s o id statement = none)
    (rest : List Statement) : run s o id (statement :: rest) = s := by
  rw [run, h]

/-- On the way of a batch: its job has come to a status, and nothing else has changed but the two
tables of the job. -/
structure Along (s₀ : Store) (jobs : List (Int × Job)) (id : Uuid) (tables : JobTables)
    (s : Store) (status : Status) : Prop where
  holds : Holds s (jobs.map (withStatus id status))
  others : ∀ name, sameName Sql.jobsTable name = false → sameName tables.scratch name = false →
    sameName tables.result name = false → s.table? name = s₀.table? name

theorem any_withStatus (id : Uuid) (status : Status) (jobs : List (Int × Job)) :
    ((jobs.map (withStatus id status)).any fun e => e.2.id = id) =
      jobs.any fun e => e.2.id = id := by
  rw [List.any_map]
  refine List.any_congr rfl fun e => ?_
  rw [Function.comp_apply, Registry.withStatus_id]

theorem withStatus_withStatus (id : Uuid) (a b : Status) (e : Int × Job) :
    withStatus id b (withStatus id a e) = withStatus id b e := by
  unfold Registry.withStatus
  by_cases h : e.2.id = id
  · simp [h]
  · simp [h]

theorem withStatus_self (id : Uuid) (status : Status) {e : Int × Job} (h : e.2.id = id) :
    withStatus id status e = (e.1, { e.2 with status := status }) := by
  unfold Registry.withStatus
  rw [if_pos h]

theorem along_start (h : Holds s jobs) {e : Int × Job} (he : e ∈ jobs) (tables : JobTables) :
    Along s jobs e.2.id tables s e.2.status := by
  refine ⟨?_, fun _ _ _ _ => rfl⟩
  have hsame : jobs.map (withStatus e.2.id e.2.status) = jobs := by
    refine (List.map_congr_left fun f hf => ?_).trans (List.map_id jobs)
    by_cases hid : f.2.id = e.2.id
    · have hfe : f = e := by
        have hfind := h.find?_of_mem hf
        rw [hid, h.find?_of_mem he] at hfind
        exact (Option.some.inj hfind).symm
      rw [hfe, withStatus_self _ _ rfl]
      rfl
    · unfold Registry.withStatus
      rw [if_neg hid]
      rfl
  rw [hsame]
  exact h

theorem Along.get_eq (h : Along s₀ jobs id tables s status) {e : Int × Job} (he : e ∈ jobs)
    (hid : e.2.id = id) : Registry.get s id = .ok { e.2 with status := status } := by
  refine (Registry.get_eq_ok h.holds).2 ⟨_, List.mem_map_of_mem he, ?_, ?_⟩
  · rw [withStatus_self _ _ hid]
  · exact hid

theorem Along.step? (h : Along s₀ jobs id tables s status)
    (hid : (jobs.any fun e => e.2.id = id) = true) (statement : Statement) :
    step? s o id statement = s.run? o statement := by
  unfold Batch.step?
  rw [Registry.isRegistered_eq h.holds, any_withStatus, hid, if_pos rfl]

theorem plain_setStatus (id : Uuid) (status : Status) :
    Plain (Statement.setStatus id status).render := by
  have hstatus : Plain status.text := by cases status <;> decide
  exact plain_append.2 ⟨plain_append.2 ⟨plain_append.2 ⟨plain_append.2 ⟨plain_append.2
    ⟨by decide, Sql.plain_name.2 (by decide)⟩, by decide⟩, Sql.plain_text.2 hstatus⟩, by decide⟩,
    Sql.plain_text.2 id.plain_text⟩

theorem run?_setStatus (h : Holds s jobs) (id : Uuid) (status : Status) :
    s.run? o (.setStatus id status) =
      some (s.replace Sql.jobsTable (Registry.holding (jobs.map (withStatus id status)))) := by
  have hw : Store.isWritten (.setStatus id status) = true :=
    Store.isWritten_iff.2 (plain_setStatus id status)
  unfold Store.run? Store.update? Store.change?
  rw [hw, h.table]
  dsimp only [bind, Option.bind]
  rw [Registry.update?_holding h]
  rfl

/-- The status of a registered job always changes, and its tables stay as they are. -/
theorem Along.reach (h : Along s₀ jobs id tables s status) (hs : tables.Separate)
    (hid : (jobs.any fun e => e.2.id = id) = true) (next : Status) :
    ∃ s', Batch.step? s o id (.setStatus id next) = some s' ∧ Along s₀ jobs id tables s' next ∧
      s'.table? tables.scratch = s.table? tables.scratch ∧
      s'.table? tables.result = s.table? tables.result := by
  have hother {name : String} (hn : sameName Sql.jobsTable name = false)
      (jobs' : List (Int × Job)) :
      (s.replace Sql.jobsTable (Registry.holding jobs')).table? name = s.table? name :=
    Store.table?_replace_other (sameName_self _) hn
  have hjobs : (jobs.map (withStatus id status)).map (withStatus id next) =
      jobs.map (withStatus id next) := by
    rw [List.map_map]
    exact List.map_congr_left fun e _ => withStatus_withStatus id status next e
  have hnew := h.holds.withStatus id next
  rw [hjobs] at hnew
  refine ⟨_, (h.step? hid _).trans (run?_setStatus h.holds id next), ⟨?_, ?_⟩, hother hs.scratch _,
    hother hs.result _⟩
  · rw [hjobs]
    exact hnew
  · intro name hn hscratch hresult
    rw [hother hn]
    exact h.others name hn hscratch hresult

theorem Along.changed (h : Along s₀ jobs id tables s status) (hs : tables.Separate)
    {changed : String} (hc : changed = tables.scratch ∨ changed = tables.result)
    (hother : ∀ name, sameName changed name = false → s'.table? name = s.table? name) :
    Along s₀ jobs id tables s' status := by
  have hregistry : sameName changed Sql.jobsTable = false := by
    rw [sameName_comm]
    rcases hc with rfl | rfl
    · exact hs.scratch
    · exact hs.result
  refine ⟨⟨?_, h.holds.ascending, h.holds.distinct, h.holds.timed⟩, ?_⟩
  · rw [hother _ hregistry]
    exact h.holds.table
  · intro name hn hscratch hresult
    rw [hother name (by rcases hc with rfl | rfl <;> assumption)]
    exact h.others name hn hscratch hresult

theorem run?_createIds {table : String} (h : s.run? o (.createIds table) = some s') :
    s.create? (Store.idTable table) = some s' := by
  unfold Store.run? at h
  split at h
  · exact absurd h (by simp)
  · exact h

theorem Along.createIds (h : Along s₀ jobs id tables s status) (hs : tables.Separate)
    (hrun : s.run? o (.createIds tables.scratch) = some s') :
    Along s₀ jobs id tables s' status ∧ s'.table? tables.result = s.table? tables.result ∧
      Store.isReserved tables.scratch = false ∧ Plain tables.scratch := by
  have hcreate := run?_createIds hrun
  have hother : ∀ name, sameName tables.scratch name = false → s'.table? name = s.table? name :=
    fun name hn => Store.table?_create_other hcreate hn
  refine ⟨h.changed hs (.inl rfl) hother, hother _ hs.two, (Store.create?_eq_some.1 hcreate).1.1,
    ?_⟩
  have hw := Store.isWritten_iff.1 (Store.run?_of_written hrun)
  exact Sql.plain_name.1 (plain_append.1 (plain_append.1 hw).1).2

theorem run?_insertIds {table : String} {q : Sql.Selection}
    (h : s.run? o (.insertIds table q) = some s') :
    s.insertIds? table (s.selected o.now q) = some s' := by
  rw [Store.run?_insertIds] at h
  split at h
  · exact h
  · exact absurd h (by simp)

theorem Along.insertIds (h : Along s₀ jobs id tables s status) (hs : tables.Separate)
    {q : Sql.Selection} (hrun : s.run? o (.insertIds tables.scratch q) = some s') :
    Along s₀ jobs id tables s' status ∧ s'.table? tables.result = s.table? tables.result := by
  have hinsert := run?_insertIds hrun
  have hother : ∀ name, sameName tables.scratch name = false → s'.table? name = s.table? name :=
    fun name hn => Store.table?_insertIds_other hn hinsert
  exact ⟨h.changed hs (.inl rfl) hother, hother _ hs.two⟩

theorem run?_createResult {table : String} {p : Sql.Projection}
    (h : s.run? o (.createResult table p) = some s') :
    s.create? (s.resultTable o table p) = some s' := by
  unfold Store.run? at h
  split at h
  · exact absurd h (by simp)
  · dsimp only at h
    split at h
    · exact h
    · exact absurd h (by simp)

theorem Along.createResult (h : Along s₀ jobs id tables s status) (hs : tables.Separate)
    {p : Sql.Projection} (hrun : s.run? o (.createResult tables.result p) = some s') :
    Along s₀ jobs id tables s' status ∧ (s'.table? tables.result).isSome = true ∧
      Store.isReserved tables.result = false := by
  have hcreate := run?_createResult hrun
  have hother : ∀ name, sameName tables.result name = false → s'.table? name = s.table? name :=
    fun name hn => Store.table?_create_other hcreate hn
  refine ⟨h.changed hs (.inr rfl) hother, ?_, (Store.create?_eq_some.1 hcreate).1.1⟩
  rw [Store.table?_createResult hrun]
  rfl

theorem Along.dropTable (h : Along s₀ jobs id tables s status) (hs : tables.Separate)
    (hr : Store.isReserved tables.scratch = false) (hp : Plain tables.scratch) :
    ∃ s', s.run? o (.dropTable tables.scratch) = some s' ∧ Along s₀ jobs id tables s' status ∧
      s'.table? tables.scratch = none ∧ s'.table? tables.result = s.table? tables.result := by
  have hw : Store.isWritten (.dropTable tables.scratch) = true := by
    rw [Store.isWritten_iff]
    exact plain_append.2 ⟨by decide, Sql.plain_name.2 hp⟩
  have hrun : s.run? o (.dropTable tables.scratch) = some (s.without tables.scratch) := by
    unfold Store.run? Store.drop?
    rw [hw]
    dsimp only
    rw [hr]
    rfl
  have hother : ∀ name, sameName tables.scratch name = false →
      (s.without tables.scratch).table? name = s.table? name :=
    fun name hn => Store.table?_without_other hn
  exact ⟨_, hrun, h.changed hs (.inl rfl) hother, Store.table?_without_self (sameName_self _),
    hother _ hs.two⟩

theorem run?_dropTable {table : String} (h : s.run? o (.dropTable table) = some s') :
    s' = s.without table := by
  unfold Store.run? at h
  split at h
  · exact absurd h (by simp)
  · change s.drop? table = some s' at h
    unfold Store.drop? at h
    split at h
    · exact absurd h (by simp)
    · exact (Option.some.inj h).symm

theorem Along.statement (h : Along s₀ jobs id tables s status) (hs : tables.Separate)
    (hid : (jobs.any fun e => e.2.id = id) = true) {t : EntityType} {q : Sql.Selection}
    {p : Sql.Projection} {statement : Statement}
    (hst : statement ∈ (Plan.ofSelection t tables q p).statements id)
    (hrun : s.run? o statement = some s') : ∃ status', Along s₀ jobs id tables s' status' := by
  rcases Plan.statement_cases hst with ⟨next, rfl⟩ | rfl | rfl | rfl | rfl
  · obtain ⟨s'', hstep, h', -⟩ := h.reach hs hid next
    rw [h.step? hid, hrun] at hstep
    obtain rfl := Option.some.inj hstep
    exact ⟨_, h'⟩
  · exact ⟨_, (h.createIds hs hrun).1⟩
  · exact ⟨_, (h.insertIds hs hrun).1⟩
  · exact ⟨_, (h.createResult hs hrun).1⟩
  · obtain rfl := run?_dropTable hrun
    exact ⟨_, h.changed hs (.inl rfl) fun name hn => Store.table?_without_other hn⟩

/-! ## The end of a batch -/

/-- What a batch leaves behind. -/
structure Ended (s₀ : Store) (jobs : List (Int × Job)) (id : Uuid) (tables : JobTables)
    (s : Store) (status : Status) : Prop extends Along s₀ jobs id tables s status where
  done : status = .done →
    s.table? tables.scratch = none ∧ (s.table? tables.result).isSome = true
  stuck : status ≠ .done → s.table? tables.result = none
  scratchOpen : (s.table? tables.scratch).isSome = true → Store.isReserved tables.scratch = false
  resultOpen : (s.table? tables.result).isSome = true → Store.isReserved tables.result = false

theorem Along.stopped (h : Along s₀ jobs id tables s status) (hd : status ≠ .done)
    (hresult : s.table? tables.result = none)
    (hscratch : (s.table? tables.scratch).isSome = true →
      Store.isReserved tables.scratch = false) :
    Ended s₀ jobs id tables s status := by
  refine ⟨h, fun he => absurd he hd, fun _ => hresult, hscratch, ?_⟩
  rw [hresult]
  exact fun h => absurd h (by simp)

variable {t : EntityType} {q : Sql.Selection} {p : Sql.Projection}

theorem Along.finishes (h : Along s₀ jobs id tables s status) (hs : tables.Separate)
    (hid : (jobs.any fun e => e.2.id = id) = true)
    (hr : Store.isReserved tables.scratch = false) (hp : Plain tables.scratch)
    (hresult : (s.table? tables.result).isSome = true)
    (hopen : Store.isReserved tables.result = false) :
    Ended s₀ jobs id tables (run s o id [.setStatus id .cleaningUp, .dropTable tables.scratch,
      .setStatus id .done]) .done := by
  obtain ⟨s₁, hstep₁, h₁, -, hr₁⟩ := h.reach hs hid .cleaningUp
  obtain ⟨s₂, hrun₂, h₂, hscratch₂, hr₂⟩ := h₁.dropTable hs hr hp
  obtain ⟨s₃, hstep₃, h₃, hscratch₃, hr₃⟩ := h₂.reach hs hid .done
  rw [run_cons_of_some hstep₁, run_cons_of_some ((h₁.step? hid _).trans hrun₂),
    run_cons_of_some hstep₃, run]
  refine ⟨h₃, fun _ => ⟨?_, ?_⟩, fun hn => absurd rfl hn, fun _ => hr, fun _ => hopen⟩
  · rw [hscratch₃, hscratch₂]
  · rw [hr₃, hr₂, hr₁, hresult]

/-- Wherever the batch of a new job stops, the job has a result if and only if it is done. -/
theorem run_ends (h : Along s₀ jobs id tables s .started) (hs : tables.Separate)
    (hid : (jobs.any fun e => e.2.id = id) = true)
    (hscratch : s.table? tables.scratch = none) (hresult : s.table? tables.result = none) :
    ∃ status, Ended s₀ jobs id tables
      (run s o id ((Plan.ofSelection t tables q p).statements id)) status := by
  have hst : (Plan.ofSelection t tables q p).statements id =
      [.setStatus id .preparingScratch, .createIds tables.scratch,
        .setStatus id .filteringEntities, .insertIds tables.scratch q,
        .setStatus id .compilingResults, .createResult tables.result p,
        .setStatus id .cleaningUp, .dropTable tables.scratch, .setStatus id .done] := rfl
  rw [hst]
  obtain ⟨s₁, hstep₁, h₁, hs₁, hr₁⟩ := h.reach hs hid .preparingScratch
  rw [run_cons_of_some hstep₁]
  rw [hscratch] at hs₁
  rw [hresult] at hr₁
  cases hrun₂ : s₁.run? o (.createIds tables.scratch) with
  | none =>
    rw [run_cons_of_none ((h₁.step? hid _).trans hrun₂)]
    refine ⟨_, h₁.stopped (by decide) hr₁ ?_⟩
    rw [hs₁]
    exact fun h => absurd h (by simp)
  | some s₂ =>
    rw [run_cons_of_some ((h₁.step? hid _).trans hrun₂)]
    obtain ⟨h₂, hr₂, hopen, hplain⟩ := h₁.createIds hs hrun₂
    obtain ⟨s₃, hstep₃, h₃, -, hr₃⟩ := h₂.reach hs hid .filteringEntities
    rw [run_cons_of_some hstep₃]
    cases hrun₄ : s₃.run? o (.insertIds tables.scratch q) with
    | none =>
      rw [run_cons_of_none ((h₃.step? hid _).trans hrun₄)]
      refine ⟨_, h₃.stopped (by decide) ?_ fun _ => hopen⟩
      rw [hr₃, hr₂, hr₁]
    | some s₄ =>
      rw [run_cons_of_some ((h₃.step? hid _).trans hrun₄)]
      obtain ⟨h₄, hr₄⟩ := h₃.insertIds hs hrun₄
      obtain ⟨s₅, hstep₅, h₅, -, hr₅⟩ := h₄.reach hs hid .compilingResults
      rw [run_cons_of_some hstep₅]
      cases hrun₆ : s₅.run? o (.createResult tables.result p) with
      | none =>
        rw [run_cons_of_none ((h₅.step? hid _).trans hrun₆)]
        refine ⟨_, h₅.stopped (by decide) ?_ fun _ => hopen⟩
        rw [hr₅, hr₄, hr₃, hr₂, hr₁]
      | some s₆ =>
        rw [run_cons_of_some ((h₅.step? hid _).trans hrun₆)]
        obtain ⟨h₆, hsome, hropen⟩ := h₅.createResult hs hrun₆
        exact ⟨_, h₆.finishes hs hid hopen hplain hsome hropen⟩

end Batch

end SheetExport
