import SheetExport.Batch
import SheetExport.Proofs.JobRows

/-!
# What the registry does to its jobs

The registry is followed through the numbered jobs that it holds. Each operation is stated as what
it makes of these jobs, and it touches no table but the registry's own.
-/

namespace SheetExport.Registry

open Store (Table Row)
open Text (sameName)

/-- The registry of a store holds these jobs, each under its own id. -/
structure Holds (s : Store) (jobs : List (Int × Job)) : Prop where
  table : s.table? Sql.jobsTable = some (holding jobs)
  ascending : jobs.Pairwise (·.1 < ·.1)
  distinct : jobs.Pairwise (·.2.id ≠ ·.2.id)
  timed : ∀ e ∈ jobs, e.2.startTime.FourDigits

variable {s s' : Store} {jobs : List (Int × Job)} {id : Uuid} {j : Job}

theorem Holds.congr (h : Holds s jobs)
    (hs : s'.table? Sql.jobsTable = s.table? Sql.jobsTable) : Holds s' jobs :=
  ⟨hs.trans h.table, h.ascending, h.distinct, h.timed⟩

/-! ## Looking up -/

theorem mapM_recordOf? (all : List (Int × Job)) (jobs : List (Int × Job)) :
    (jobs.map rowOf).mapM (recordOf? (holding all)) = some (jobs.map fun e => recordFor e.2) := by
  induction jobs with
  | nil => rfl
  | cons e jobs ih =>
    rw [List.map_cons, List.mapM_cons, recordOf?_rowOf, ih]
    rfl

theorem filter_meets_id (jobs : List (Int × Job)) (id : Uuid) :
    (holding jobs).rows.filter ((holding jobs).meets · [("id", .text id.text)]) =
      (jobs.filter fun e => e.2.id = id).map rowOf := by
  have hrows : (holding jobs).rows = jobs.map rowOf := rfl
  rw [hrows, List.filter_map]
  refine congrArg (List.map rowOf) (List.filter_congr fun e _ => ?_)
  rw [Function.comp_apply, meets_id]

theorem countP_meets_id (jobs : List (Int × Job)) (id : Uuid) :
    (holding jobs).rows.countP ((holding jobs).meets · [("id", .text id.text)]) =
      jobs.countP fun e => e.2.id = id := by
  rw [List.countP_eq_length_filter, filter_meets_id, List.length_map, List.countP_eq_length_filter]

theorem records_id (h : Holds s jobs) (id : Uuid) :
    records s [("id", .text id.text)] =
      .ok ((jobs.filter fun e => e.2.id = id).map fun e => recordFor e.2) := by
  unfold records
  rw [h.table]
  dsimp only [bind, Option.bind]
  rw [filter_meets_id, mapM_recordOf?]
  rfl

theorem find_eq (h : Holds s jobs) (id : Uuid) :
    find s id = .ok ((jobs.find? fun e => e.2.id = id).map Prod.snd) := by
  unfold find
  rw [records_id h]
  dsimp only [bind, Except.bind]
  rw [← List.head?_filter]
  cases hf : jobs.filter fun e => e.2.id = id with
  | nil => rfl
  | cons e rest =>
    have he : e ∈ jobs := (List.mem_filter.1 (hf ▸ List.mem_cons_self)).1
    rw [List.map_cons]
    dsimp only
    rw [job_recordFor (h.timed e he)]
    rfl

theorem get_of_find {e : Int × Job} (h : Holds s jobs)
    (hf : jobs.find? (fun e => e.2.id = id) = some e) : get s id = .ok e.2 := by
  unfold get
  rw [find_eq h, hf]
  rfl

theorem get_of_absent (h : Holds s jobs) (hf : jobs.find? (fun e => e.2.id = id) = none) :
    get s id = .error (.notFound id) := by
  unfold get
  rw [find_eq h, hf]
  rfl

theorem Holds.find?_of_mem {e : Int × Job} (h : Holds s jobs) (he : e ∈ jobs) :
    jobs.find? (fun f => f.2.id = e.2.id) = some e := by
  have hd := h.distinct
  clear h
  induction jobs with
  | nil => exact absurd he List.not_mem_nil
  | cons f jobs ih =>
    obtain ⟨hf, hjobs⟩ := List.pairwise_cons.1 hd
    rcases List.mem_cons.1 he with rfl | he
    · simp
    · rw [List.find?_cons_of_neg (by simpa using hf e he), ih he hjobs]

theorem get_eq_ok (h : Holds s jobs) : get s id = .ok j ↔ ∃ e ∈ jobs, e.2 = j ∧ j.id = id := by
  constructor
  · intro hg
    cases hf : jobs.find? fun e => e.2.id = id with
    | none =>
      rw [get_of_absent h hf] at hg
      exact absurd hg (by simp)
    | some e =>
      rw [get_of_find h hf] at hg
      obtain rfl := Except.ok.inj hg
      exact ⟨e, List.mem_of_find?_eq_some hf, rfl, by simpa using List.find?_some hf⟩
  · rintro ⟨e, he, rfl, rfl⟩
    exact get_of_find h (h.find?_of_mem he)

theorem find?_eq_none_of_filtered (h : ∀ e ∈ jobs, e.2.id ≠ id) :
    jobs.find? (fun e => e.2.id = id) = none :=
  List.find?_eq_none.2 fun e he => by simpa using h e he

theorem rowsWith?_id (h : Holds s jobs) (id : Uuid) :
    s.rowsWith? Sql.jobsTable [("id", .text id.text)] =
      some ((jobs.filter fun e => e.2.id = id).map rowOf) := by
  unfold Store.rowsWith?
  rw [h.table]
  exact congrArg some (filter_meets_id jobs id)

theorem isRegistered_eq (h : Holds s jobs) (id : Uuid) :
    Batch.isRegistered s id = jobs.any fun e => e.2.id = id := by
  unfold Batch.isRegistered
  rw [rowsWith?_id h]
  dsimp only
  rw [List.isEmpty_map, Bool.eq_iff_iff, Bool.not_eq_true', ← Bool.not_eq_true, List.isEmpty_iff,
    List.filter_eq_nil_iff]
  simp

/-! ## Listing -/

theorem mapM_job {js : List Job} (h : ∀ j ∈ js, j.startTime.FourDigits) :
    (js.map recordFor).mapM Record.job = .ok js := by
  induction js with
  | nil => rfl
  | cons j js ih =>
    obtain ⟨hj, hjs⟩ := List.forall_mem_cons.1 h
    rw [List.map_cons, List.mapM_cons, job_recordFor hj, ih hjs]
    rfl

theorem mapM_newerFirst {js : List Job} (h : ∀ j ∈ js, j.startTime.FourDigits) :
    (newerFirst (js.map recordFor)).mapM Record.job = .ok (js.mergeSort fun a b =>
      !decide (a.startTime.storedText < b.startTime.storedText)) := by
  rw [newerFirst, ← List.map_mergeSort (f := recordFor) fun _ _ _ _ => rfl]
  exact mapM_job fun j hj => h j (List.mem_mergeSort.1 hj)

theorem list_eq (h : Holds s jobs) :
    list s none = .ok ((jobs.map Prod.snd).reverse.mergeSort fun a b =>
      !decide (a.startTime.storedText < b.startTime.storedText)) := by
  have hall : (holding jobs).rows.filter ((holding jobs).meets · []) = jobs.map rowOf :=
    List.filter_eq_self.2 fun _ _ => rfl
  have hrecords : records s [] = .ok ((jobs.map Prod.snd).map recordFor) := by
    unfold records
    rw [h.table]
    dsimp only [bind, Option.bind]
    rw [hall, mapM_recordOf?, List.map_map]
    rfl
  unfold list
  rw [hrecords]
  dsimp only [bind, Except.bind, pure, Except.pure]
  rw [← List.map_reverse]
  refine mapM_newerFirst fun j hj => ?_
  rw [List.mem_reverse] at hj
  obtain ⟨e, he, rfl⟩ := List.mem_map.1 hj
  exact h.timed e he

/-! ## Creating -/

theorem any_clashes {n : Int} (hn : ∀ e ∈ jobs, e.1 < n) (j : Job) :
    (holding jobs).rows.any ((rowOf (n, j)).clashes (.unique 1)) =
      jobs.any fun e => e.2.id = j.id := by
  have one {e : Int × Job} (he : e ∈ jobs) :
      (rowOf (n, j)).clashes (.unique 1) (rowOf e) = decide (e.2.id = j.id) := by
    rw [clashes_rowOf (Int.ne_of_gt (hn e he))]
    exact decide_eq_decide.2 eq_comm
  have hrows : (holding jobs).rows = jobs.map rowOf := rfl
  rw [hrows, List.any_map, Bool.eq_iff_iff, List.any_eq_true, List.any_eq_true]
  constructor
  · rintro ⟨e, he, hc⟩
    exact ⟨e, he, by rwa [Function.comp_apply, one he] at hc⟩
  · rintro ⟨e, he, hc⟩
    exact ⟨e, he, by rwa [Function.comp_apply, one he]⟩

theorem number_lt_nextNumber (jobs : List (Int × Job)) :
    ∀ e ∈ jobs, e.1 < (holding jobs).nextNumber := by
  intro e he
  have hrow : rowOf e ∈ (holding jobs).rows := List.mem_map_of_mem he
  exact Table.lt_nextNumber hrow

theorem insert?_holding (jobs : List (Int × Job)) (j : Job) :
    (holding jobs).insert? (cells j) =
      if (jobs.any fun e => e.2.id = j.id) = true then none
      else some (holding (jobs ++ [((holding jobs).nextNumber, j)])) := by
  have hlt := number_lt_nextNumber jobs
  have hkey : (holding jobs).key = .unique 1 := rfl
  have hrows : (holding jobs).rows = jobs.map rowOf := rfl
  rw [insert?_cells, Table.insertDraft?, row?_cells]
  dsimp only [Table.numberFrom?, Value.stored, Value.toNumeric, Value.toWhole, Option.map_some,
    bind, Option.bind]
  change (if (holding jobs).rows.any
    ((rowOf ((holding jobs).nextNumber, j)).clashes (holding jobs).key) = true then none else _) = _
  rw [hkey, any_clashes hlt]
  split
  · rfl
  · have hplace : Table.place (.unique 1) (rowOf ((holding jobs).nextNumber, j)) (jobs.map rowOf) =
        jobs.map rowOf ++ [rowOf ((holding jobs).nextNumber, j)] := by
      refine Table.place_last fun r hr => ?_
      obtain ⟨e, he, rfl⟩ := List.mem_map.1 hr
      exact hlt e he
    have hmap : (jobs ++ [((holding jobs).nextNumber, j)]).map rowOf =
        jobs.map rowOf ++ [rowOf ((holding jobs).nextNumber, j)] := List.map_append
    rw [← hmap] at hplace
    exact congrArg (fun rows => some { holding jobs with rows := rows }) hplace

theorem create_eq (h : Holds s jobs) (j : Job) :
    create s j = if (jobs.any fun e => e.2.id = j.id) = true then .error .rejected
      else .ok (s.replace Sql.jobsTable (holding (jobs ++ [((holding jobs).nextNumber, j)]))) := by
  have hinsert : s.insert? Sql.jobsTable (cells j) =
      ((holding jobs).insert? (cells j)).map (s.replace Sql.jobsTable) := by
    unfold Store.insert? Store.change?
    rw [h.table]
    dsimp only [bind, Option.bind]
    cases (holding jobs).insert? (cells j) <;> rfl
  unfold create
  rw [hinsert, insert?_holding]
  split <;> rfl

/-- The jobs after a change, where nothing but the registry was changed. -/
theorem Holds.replaced (h : Holds s jobs) {jobs' : List (Int × Job)}
    (ha : jobs'.Pairwise (·.1 < ·.1)) (hd : jobs'.Pairwise (·.2.id ≠ ·.2.id))
    (ht : ∀ e ∈ jobs', e.2.startTime.FourDigits) :
    Holds (s.replace Sql.jobsTable (holding jobs')) jobs' :=
  ⟨Store.table?_replace_self h.table (sameName_self _), ha, hd, ht⟩

theorem Holds.appended (h : Holds s jobs) (hj : (jobs.any fun e => e.2.id = j.id) = false)
    (ht : j.startTime.FourDigits) :
    Holds (s.replace Sql.jobsTable (holding (jobs ++ [((holding jobs).nextNumber, j)])))
      (jobs ++ [((holding jobs).nextNumber, j)]) := by
  refine h.replaced ?_ ?_ ?_
  · refine List.pairwise_append.2 ⟨h.ascending, List.pairwise_singleton .., ?_⟩
    intro e he f hf
    rw [List.mem_singleton.1 hf]
    exact number_lt_nextNumber jobs e he
  · refine List.pairwise_append.2 ⟨h.distinct, List.pairwise_singleton .., ?_⟩
    intro e he f hf
    rw [List.mem_singleton.1 hf]
    have := List.any_eq_false.1 hj e he
    simpa using this
  · intro e he
    rcases List.mem_append.1 he with he | he
    · exact h.timed e he
    · rw [List.mem_singleton.1 he]
      exact ht

/-! ## Deleting -/

theorem remove_holding (jobs : List (Int × Job)) (id : Uuid) :
    (holding jobs).remove [("id", .text id.text)] =
      (holding (jobs.filter fun e => e.2.id ≠ id), jobs.countP fun e => e.2.id = id) := by
  have hrows : (holding jobs).rows = jobs.map rowOf := rfl
  have hmeets (e : Int × Job) : (holding jobs).meets (rowOf e) [("id", .text id.text)] =
      decide (e.2.id = id) := meets_id jobs e id
  have hkept : (jobs.map rowOf).filter (! (holding jobs).meets · [("id", .text id.text)]) =
      (jobs.filter fun e => e.2.id ≠ id).map rowOf := by
    rw [List.filter_map]
    refine congrArg (List.map rowOf) (List.filter_congr fun e _ => ?_)
    rw [Function.comp_apply, hmeets, decide_not]
  rw [Table.remove, countP_meets_id, hrows, hkept]
  rfl

theorem delete_of_absent (h : Holds s jobs) (hf : jobs.find? (fun e => e.2.id = id) = none) :
    delete s id = .error (.notFound id) := by
  unfold delete
  rw [get_of_absent h hf]
  rfl

theorem delete_of_find {e : Int × Job} (h : Holds s jobs)
    (hf : jobs.find? (fun e => e.2.id = id) = some e) :
    delete s id = .ok (dropTables
      (s.replace Sql.jobsTable (holding (jobs.filter fun e => e.2.id ≠ id))) e.2.tables) := by
  have hcount : jobs.countP (fun e => e.2.id = id) ≠ 0 := by
    intro h0
    have he := List.find?_some hf
    exact List.countP_eq_zero.1 h0 e (List.mem_of_find?_eq_some hf) he
  have hrow : deleteRow s id =
      .ok (s.replace Sql.jobsTable (holding (jobs.filter fun e => e.2.id ≠ id))) := by
    unfold deleteRow Store.remove? Store.change?
    rw [h.table]
    dsimp only [bind, Option.bind]
    rw [remove_holding]
    split
    · rename_i heq
      exact absurd heq (by simp)
    · rename_i heq
      exact absurd (congrArg Prod.snd (Option.some.inj heq)) hcount
    · rename_i heq
      exact congrArg Except.ok (congrArg Prod.fst (Option.some.inj heq)).symm
  unfold delete
  rw [get_of_find h hf]
  dsimp only [bind, Except.bind]
  rw [hrow]
  rfl

theorem Holds.filtered (h : Holds s jobs) (p : Int × Job → Bool) :
    Holds (s.replace Sql.jobsTable (holding (jobs.filter p))) (jobs.filter p) :=
  h.replaced (h.ascending.filter p) (h.distinct.filter p)
    fun e he => h.timed e (List.mem_filter.1 he).1

/-! ## Changing a status -/

/-- The job of an id with another status, and any other job as it was. -/
def withStatus (id : Uuid) (status : Status) (e : Int × Job) : Int × Job :=
  if e.2.id = id then (e.1, { e.2 with status := status }) else e

theorem withStatus_number (id : Uuid) (status : Status) (e : Int × Job) :
    (withStatus id status e).1 = e.1 := by
  unfold withStatus
  split <;> rfl

theorem withStatus_id (id : Uuid) (status : Status) (e : Int × Job) :
    (withStatus id status e).2.id = e.2.id := by
  unfold withStatus
  split <;> rfl

theorem withStatus_time (id : Uuid) (status : Status) (e : Int × Job) :
    (withStatus id status e).2.startTime = e.2.startTime := by
  unfold withStatus
  split <;> rfl

theorem Holds.withStatus (h : Holds s jobs) (id : Uuid) (status : Status) :
    Holds (s.replace Sql.jobsTable (holding (jobs.map (withStatus id status))))
      (jobs.map (withStatus id status)) := by
  refine h.replaced ?_ ?_ ?_
  · refine List.pairwise_map.2 (h.ascending.imp fun hab => ?_)
    rwa [withStatus_number, withStatus_number]
  · refine List.pairwise_map.2 (h.distinct.imp fun hab => ?_)
    rwa [withStatus_id, withStatus_id]
  · intro e he
    obtain ⟨f, hf, rfl⟩ := List.mem_map.1 he
    rw [withStatus_time]
    exact h.timed f hf

theorem row?_changed (jobs : List (Int × Job)) (e : Int × Job) (status : Status) :
    (holding jobs).row? none ((Table.Draft.mk (.integer (rowOf e).number) (rowOf e).cells).setAll
      [(.cell 3, .text status.text)]) = some (rowOf (e.1, { e.2 with status := status })) := by
  have hdraft : (Table.Draft.mk (.integer (rowOf e).number) (rowOf e).cells).setAll
      [(.cell 3, .text status.text)] =
        ⟨.integer e.1, (cells { e.2 with status := status }).map Prod.snd⟩ := rfl
  rw [hdraft, row?_cells]
  rfl

theorem distinctRows_jobs (ha : jobs.Pairwise (·.1 < ·.1)) (hd : jobs.Pairwise (·.2.id ≠ ·.2.id)) :
    Table.distinctRows (.unique 1) (jobs.map rowOf) = true := by
  induction jobs with
  | nil => rfl
  | cons e jobs ih =>
    obtain ⟨ha, has⟩ := List.pairwise_cons.1 ha
    obtain ⟨hd, hds⟩ := List.pairwise_cons.1 hd
    have hnone : (jobs.map rowOf).any ((rowOf e).clashes (.unique 1)) = false := by
      rw [List.any_eq_false]
      intro row hrow
      obtain ⟨f, hf, rfl⟩ := List.mem_map.1 hrow
      rw [clashes_rowOf (Int.ne_of_lt (ha f hf))]
      simpa using hd f hf
    rw [List.map_cons, Table.distinctRows, hnone, ih has hds]
    rfl

theorem update?_holding (h : Holds s jobs) (id : Uuid) (status : Status) :
    (holding jobs).update? [("id", .text id.text)] [("status_step", .text status.text)] =
      some (holding (jobs.map (withStatus id status)), jobs.countP fun e => e.2.id = id) := by
  have hplaces : (holding jobs).places? [("status_step", .text status.text)] =
      some [(.cell 3, .text status.text)] := by
    have := place?_columns.2.2.2.1
    unfold Table.places?
    rw [place?_holding]
    simp only [List.mapM_cons, List.mapM_nil, this]
    rfl
  have hmeets (e : Int × Job) : (holding jobs).meets (rowOf e) [("id", .text id.text)] =
      decide (e.2.id = id) := meets_id jobs e id
  have hrows (part : List (Int × Job)) : (part.map rowOf).mapM (fun row =>
      if (holding jobs).meets row [("id", .text id.text)] = true then
        (holding jobs).row? none ((Table.Draft.mk (.integer row.number) row.cells).setAll
          [(.cell 3, .text status.text)])
      else some row) = some ((part.map (Registry.withStatus id status)).map rowOf) := by
    induction part with
    | nil => rfl
    | cons e rest ih =>
      rw [List.map_cons, List.mapM_cons, ih, hmeets, row?_changed]
      by_cases he : e.2.id = id
      · simp [he, Registry.withStatus]
      · simp [he, Registry.withStatus]
  have hnew := h.withStatus id status
  have hsorted : ((jobs.map (Registry.withStatus id status)).map rowOf).Pairwise
      (·.number < ·.number) := List.pairwise_map.2 hnew.ascending
  unfold Table.update?
  rw [List.isEmpty_cons, if_neg Bool.false_ne_true, hplaces, countP_meets_id]
  dsimp only [bind, Option.bind]
  have htable : (holding jobs).rows = jobs.map rowOf := rfl
  have hkey : (holding jobs).key = .unique 1 := rfl
  rw [htable, hkey, hrows]
  dsimp only
  rw [distinctRows_jobs hnew.ascending hnew.distinct, if_pos rfl,
    Table.placeAll_ascending _ hsorted]
  rfl

end SheetExport.Registry
