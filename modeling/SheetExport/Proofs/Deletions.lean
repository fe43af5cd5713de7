import SheetExport.Proofs.Lifecycle

/-!
# What a deletion leaves

A job that the registry finds can always be deleted. Its row goes and then its two tables, whatever
else the registry and the store hold. Only a table that the store keeps for itself stays.
-/

namespace SheetExport

open Store (Table)
open Text (sameName)

/-- No job is registered under the id, and both its tables are gone. -/
structure Store.Cleared (s : Store) (id : Uuid) (tables : JobTables) : Prop where
  row : Batch.isRegistered s id = false
  scratch : s.table? tables.scratch = none
  result : s.table? tables.result = none

/-- No job is registered any more under the id, and of its tables those are gone that could be
dropped before. -/
structure Store.Deleted (before after : Store) (id : Uuid) (tables : JobTables) : Prop where
  row : Batch.isRegistered after id = false
  scratch : before.Droppable tables.scratch → after.table? tables.scratch = none
  result : before.Droppable tables.result → after.table? tables.result = none

namespace Registry

variable {s : Store} {id : Uuid} {job : Job}

theorem get_eq_ok_iff_find : get s id = .ok job ↔ find s id = .ok (some job) := by
  unfold get
  cases find s id with
  | error fault => simp [bind, Except.bind]
  | ok found =>
    cases found with
    | none => simp [bind, Except.bind, throw, throwThe, MonadExceptOf.throw]
    | some j => simp [bind, Except.bind, pure, Except.pure]

theorem row_of_get (h : get s id = .ok job) : ∃ t, s.table? Sql.jobsTable = some t ∧
    t.rows.countP (t.meets · [("id", .text id.text)]) ≠ 0 := by
  have hfind := get_eq_ok_iff_find.1 h
  unfold find records at hfind
  cases ht : s.table? Sql.jobsTable with
  | none =>
    rw [ht] at hfind
    exact absurd hfind (by simp [bind, Except.bind, Option.bind, orRejected])
  | some t =>
    refine ⟨t, rfl, fun h0 => ?_⟩
    rw [List.countP_eq_length_filter, List.length_eq_zero_iff] at h0
    rw [ht] at hfind
    dsimp only [bind, Option.bind] at hfind
    rw [h0] at hfind
    exact absurd hfind (by simp [Except.bind, orRejected, pure, Except.pure])

theorem deleteRow_of_get (h : get s id = .ok job) : ∃ t, s.table? Sql.jobsTable = some t ∧
    deleteRow s id =
      .ok (s.replace Sql.jobsTable (t.remove [("id", .text id.text)]).1) := by
  obtain ⟨t, ht, hcount⟩ := row_of_get h
  refine ⟨t, ht, ?_⟩
  unfold deleteRow Store.remove? Store.change?
  rw [ht]
  dsimp only [bind, Option.bind, Table.remove]
  split
  · rename_i heq
    exact absurd heq (by simp)
  · rename_i heq
    exact absurd (congrArg Prod.snd (Option.some.inj heq)) hcount
  · rename_i heq
    exact congrArg Except.ok (congrArg Prod.fst (Option.some.inj heq)).symm

theorem table?_of_dropQuietly {name other : String} {t : Table}
    (h : (s.dropQuietly name).table? other = some t) : s.table? other = some t := by
  by_contra hne
  cases hn : sameName name other with
  | false =>
    rw [Store.table?_dropQuietly_other hn] at h
    exact hne h
  | true =>
    unfold Store.dropQuietly Store.drop? at h
    split at h
    · exact hne h
    · rw [Option.getD_some, Store.table?_without_self hn] at h
      exact absurd h (by simp)

theorem isRegistered_of_removed {t : Table}
    (h : ∀ u, s.table? Sql.jobsTable = some u → u = (t.remove [("id", .text id.text)]).1) :
    Batch.isRegistered s id = false := by
  unfold Batch.isRegistered Store.rowsWith?
  cases hs : s.table? Sql.jobsTable with
  | none => rfl
  | some u =>
    rw [h u hs]
    have hnone : (t.remove [("id", .text id.text)]).1.rows.filter
        ((t.remove [("id", .text id.text)]).1.meets · [("id", .text id.text)]) = [] := by
      refine List.filter_eq_nil_iff.2 fun row hrow => ?_
      have hkept : t.meets row [("id", .text id.text)] = false := by
        simpa using (List.mem_filter.1 hrow).2
      exact ne_true_of_eq_false hkept
    dsimp only [bind, Option.bind, pure]
    rw [hnone]
    rfl

theorem droppable_replace {u : Table} {name : String} (hu : sameName u.name Sql.jobsTable = true)
    (h : s.Droppable name) : (s.replace Sql.jobsTable u).Droppable name := by
  intro hr
  have hother : sameName Sql.jobsTable name = false := by
    by_contra hsame
    rw [Bool.not_eq_false] at hsame
    rw [← Store.isReserved_congr hsame] at hr
    exact absurd hr (by decide)
  rw [Store.table?_replace_other hu hother]
  exact h hr

/-- A job that can be found can be deleted, whatever its tables are. -/
theorem delete_of_get (h : get s id = .ok job) :
    ∃ s', delete s id = .ok s' ∧ s.Deleted s' id job.tables := by
  obtain ⟨t, ht, hrow⟩ := deleteRow_of_get h
  set rest := (t.remove [("id", .text id.text)]).1 with hrest
  have hname : sameName rest.name Sql.jobsTable = true := Store.name_of_table? (t := t) ht
  have hjobs : (s.replace Sql.jobsTable rest).table? Sql.jobsTable = some rest :=
    Store.table?_replace_self ht hname
  refine ⟨dropTables (s.replace Sql.jobsTable rest) job.tables, ?_, ?_, fun hscratch => ?_,
    fun hresult => ?_⟩
  · unfold delete
    rw [h]
    dsimp only [bind, Except.bind]
    rw [hrow]
    rfl
  · refine isRegistered_of_removed (t := t) fun u hu => ?_
    have := table?_of_dropQuietly (table?_of_dropQuietly hu)
    rw [hjobs] at this
    exact (Option.some.inj this).symm
  · exact Service.table?_dropTables_own (.inl (sameName_self _)) (droppable_replace hname hscratch)
  · exact Service.table?_dropTables_own (.inr (sameName_self _)) (droppable_replace hname hresult)

/-! ## The numbered jobs -/

variable {jobs : List (Int × Job)}

theorem Holds.deleteRow (h : Holds s jobs) (hg : get s id = .ok job) :
    deleteRow s id =
      .ok (s.replace Sql.jobsTable (holding (jobs.filter fun e => e.2.id ≠ id))) := by
  obtain ⟨t, ht, hrow⟩ := deleteRow_of_get hg
  rw [h.table] at ht
  obtain rfl := Option.some.inj ht
  rw [hrow, remove_holding]

theorem Holds.deleteRow_absent (h : Holds s jobs) (hid : ∀ e ∈ jobs, e.2.id ≠ id) :
    Registry.deleteRow s id = .error (.notFound id) := by
  have hcount : jobs.countP (fun e => e.2.id = id) = 0 :=
    List.countP_eq_zero.2 fun e he => by simpa using hid e he
  unfold Registry.deleteRow Store.remove? Store.change?
  rw [h.table]
  dsimp only [bind, Option.bind]
  rw [remove_holding, hcount]
  rfl

theorem Holds.unregistered (h : Holds s jobs) (hid : ∀ e ∈ jobs, e.2.id ≠ id) :
    Batch.isRegistered s id = false := by
  rw [isRegistered_eq h, List.any_eq_false]
  exact fun e he => by simpa using hid e he

end Registry

end SheetExport
