import Mathlib.Data.List.Pairwise
import SheetExport.Proofs.Batches
import SheetExport.Service

/-!
# Jobs and their tables

Batches, the registry and downloads all make or drop tables. What ties them together is that a
table with a backing name belongs to a registered job, and that a job has a result exactly when it
is done. Each operation of the service keeps it so.
-/

namespace SheetExport

open Text (sameName)
open Registry (Holds)

/-! ## Backing tables -/

/-- A table name is one of a job's two. -/
def JobTables.Names (tables : JobTables) (name : String) : Prop :=
  sameName tables.scratch name = true ∨ sameName tables.result name = true

instance (tables : JobTables) (name : String) : Decidable (tables.Names name) :=
  inferInstanceAs (Decidable (_ ∨ _))

theorem JobTables.not_names {tables : JobTables} {name : String} : ¬ tables.Names name ↔
    sameName tables.scratch name = false ∧ sameName tables.result name = false := by
  rw [Names, not_or, Bool.not_eq_true, Bool.not_eq_true]

/-- Names that the tables of some job could have. -/
def Schema.IsBacking (schema : Schema) (name : String) : Prop :=
  ∃ suffix, (JobTables.ofSuffix schema suffix).Names name

theorem JobTables.isBacking (schema : Schema) (suffix : String) :
    schema.IsBacking (ofSuffix schema suffix).scratch ∧
      schema.IsBacking (ofSuffix schema suffix).result :=
  ⟨⟨suffix, .inl (sameName_self _)⟩, ⟨suffix, .inr (sameName_self _)⟩⟩

theorem Schema.IsBacking.congr {schema : Schema} {a b : String} (h : schema.IsBacking a)
    (hab : sameName a b = true) : schema.IsBacking b := by
  have same (x : String) : sameName x a = sameName x b := by
    rw [sameName_comm, sameName_congr hab, sameName_comm]
  obtain ⟨suffix, hn⟩ := h
  rw [JobTables.Names, same, same] at hn
  exact ⟨suffix, hn⟩

theorem Schema.not_isBacking_table {schema : Schema} {name : String}
    (h : ¬ "csvexport_".toList <+: (Text.lowerAscii name).toList) :
    ¬ schema.IsBacking (schema.table name) := by
  have hlower : "csvexport_".toList.map Char.toLower = "csvexport_".toList := by decide
  have differs (rest : String) :
      sameName (schema.tablePrefix ++ ("csvexport_" ++ rest)) (schema.table name) = false := by
    rw [Schema.table, JobTables.sameName_append_left, ← Bool.not_eq_true, sameName_iff]
    intro he
    refine h ⟨rest.toList.map Char.toLower, ?_⟩
    rw [← he, toList_lowerAscii, String.toList_append, List.map_append, hlower]
  rintro ⟨suffix, hn | hn⟩
  · rw [JobTables.scratch_ofSuffix, differs] at hn
    exact Bool.noConfusion hn
  · rw [JobTables.result_ofSuffix, differs] at hn
    exact Bool.noConfusion hn

theorem Schema.IsBacking.ne_registry {schema : Schema} {name : String}
    (h : schema.IsBacking name) : sameName Sql.jobsTable name = false := by
  obtain ⟨suffix, hs | hr⟩ := h
  · rw [sameName_comm, ← sameName_congr hs, sameName_comm]
    exact (JobTables.separate_ofSuffix schema suffix).scratch
  · rw [sameName_comm, ← sameName_congr hr, sameName_comm]
    exact (JobTables.separate_ofSuffix schema suffix).result

theorem JobTables.apart_ofSuffix (schema : Schema) {a b : String} (h : sameName a b = false) :
    sameName (ofSuffix schema a).scratch (ofSuffix schema b).scratch = false ∧
      sameName (ofSuffix schema a).scratch (ofSuffix schema b).result = false ∧
      sameName (ofSuffix schema a).result (ofSuffix schema b).scratch = false ∧
      sameName (ofSuffix schema a).result (ofSuffix schema b).result = false := by
  refine ⟨?_, scratch_ne_result schema a b, ?_, ?_⟩
  · rw [sameName_scratch, h]
  · rw [sameName_comm]
    exact scratch_ne_result schema b a
  · rw [sameName_result, h]

theorem JobTables.sameName_of_names {schema : Schema} {a b name : String}
    (ha : (ofSuffix schema a).Names name) (hb : (ofSuffix schema b).Names name) :
    sameName a b = true := by
  have common {x y : String} (hx : sameName x name = true) (hy : sameName y name = true)
      (hxy : sameName x y = false) : False := by
    rw [sameName_congr hx, sameName_comm, hy] at hxy
    exact Bool.noConfusion hxy
  by_contra hab
  obtain ⟨h1, h2, h3, h4⟩ := apart_ofSuffix schema (Bool.not_eq_true _ ▸ hab)
  rcases ha with ha | ha
  · rcases hb with hb | hb
    · exact common ha hb h1
    · exact common ha hb h2
  · rcases hb with hb | hb
    · exact common ha hb h3
    · exact common ha hb h4

namespace Service

/-- The registry, the drawn tickets and the tables of a store agree. -/
structure Sound (schema : Schema) (drawn : List Ticket) (s : Store) (jobs : List (Int × Job)) :
    Prop where
  holds : Holds s jobs
  named : ∀ e ∈ jobs, ∃ t ∈ drawn, e.2.id = t.id ∧ e.2.tables = .ofSuffix schema t.suffix
  apart : jobs.Pairwise fun e f => sameName e.2.tables.scratch f.2.tables.scratch = false
  owned : ∀ name, schema.IsBacking name → (s.table? name).isSome = true →
    Store.isReserved name = false ∧ ∃ e ∈ jobs, e.2.tables.Names name
  done : ∀ e ∈ jobs, e.2.status = .done →
    s.table? e.2.tables.scratch = none ∧ (s.table? e.2.tables.result).isSome = true
  stuck : ∀ e ∈ jobs, e.2.status ≠ .done → s.table? e.2.tables.result = none

variable {schema : Schema} {drawn : List Ticket} {s : Store} {jobs : List (Int × Job)}

theorem Sound.draws (h : Sound schema drawn s jobs) (more : List Ticket) :
    Sound schema (drawn ++ more) s jobs := by
  refine { h with named := fun e he => ?_ }
  obtain ⟨t, ht, hn⟩ := h.named e he
  exact ⟨t, List.mem_append_left _ ht, hn⟩

theorem Sound.eq_of_names (h : Sound schema drawn s jobs) {e f : Int × Job} (he : e ∈ jobs)
    (hf : f ∈ jobs) {name : String} (hen : e.2.tables.Names name)
    (hfn : f.2.tables.Names name) : e = f := by
  have : Std.Symm fun e f : Int × Job => sameName e.2.tables.scratch f.2.tables.scratch = false :=
    ⟨fun a b hab => (sameName_comm _ _).trans hab⟩
  by_contra hne
  have hscratch := h.apart.forall he hf hne
  obtain ⟨a, -, -, ha⟩ := h.named e he
  obtain ⟨b, -, -, hb⟩ := h.named f hf
  rw [ha] at hscratch hen
  rw [hb] at hscratch hfn
  rw [JobTables.sameName_scratch, JobTables.sameName_of_names hen hfn] at hscratch
  exact Bool.noConfusion hscratch

/-! ## Deleting -/

theorem table?_dropTables_other {tables : JobTables} {name : String} (hn : ¬ tables.Names name) :
    (Registry.dropTables s tables).table? name = s.table? name := by
  obtain ⟨hs, hr⟩ := JobTables.not_names.1 hn
  unfold Registry.dropTables
  rw [Store.table?_dropQuietly_other hr, Store.table?_dropQuietly_other hs]

theorem table?_dropTables_own {tables : JobTables} {name : String}
    (hn : tables.Names name) (h : s.Droppable name) :
    (Registry.dropTables s tables).table? name = none := by
  unfold Registry.dropTables
  rcases hn with hn | hn
  · exact Store.table?_dropQuietly_of_none (Store.table?_dropQuietly_self hn h)
  · exact Store.table?_dropQuietly_self hn fun hr => Store.table?_dropQuietly_of_none (h hr)

theorem Sound.isBacking (h : Sound schema drawn s jobs) {e : Int × Job} (he : e ∈ jobs) :
    schema.IsBacking e.2.tables.scratch ∧ schema.IsBacking e.2.tables.result := by
  obtain ⟨t, -, -, ht⟩ := h.named e he
  rw [ht]
  exact JobTables.isBacking schema t.suffix

/-- A table with a backing name belongs to a job, so it may be dropped. -/
theorem Sound.droppable (h : Sound schema drawn s jobs) {name : String}
    (hb : schema.IsBacking name) : s.Droppable name := by
  intro hr
  cases ht : s.table? name with
  | none => rfl
  | some t =>
    have := (h.owned name hb (by rw [ht]; rfl)).1
    rw [hr] at this
    exact Bool.noConfusion this

theorem filter_ne_of_absent {id : Uuid} (h : jobs.find? (fun e => e.2.id = id) = none) :
    jobs.filter (fun e => e.2.id ≠ id) = jobs := by
  refine List.filter_eq_self.2 fun e he => ?_
  have := List.find?_eq_none.1 h e he
  simpa using this

/-- A store that lost the row and the tables of one job, and no table of another, is in order. -/
theorem Sound.without (h : Sound schema drawn s jobs) {e : Int × Job} (he : e ∈ jobs) {s' : Store}
    (hholds : Holds s' (jobs.filter fun f => f.2.id ≠ e.2.id))
    (hown : ∀ name, schema.IsBacking name → e.2.tables.Names name → s'.table? name = none)
    (hother : ∀ name, schema.IsBacking name → ¬ e.2.tables.Names name →
      s'.table? name = s.table? name) :
    Sound schema drawn s' (jobs.filter fun f => f.2.id ≠ e.2.id) := by
  have left {f : Int × Job} (hf : f ∈ jobs.filter fun f => f.2.id ≠ e.2.id) :
      f ∈ jobs ∧ s'.table? f.2.tables.scratch = s.table? f.2.tables.scratch ∧
        s'.table? f.2.tables.result = s.table? f.2.tables.result := by
    obtain ⟨hfj, hne⟩ := List.mem_filter.1 hf
    have hnot {name : String} (hfn : f.2.tables.Names name) : ¬ e.2.tables.Names name := by
      intro hen
      obtain rfl := h.eq_of_names he hfj hen hfn
      simp at hne
    obtain ⟨hfs, hfr⟩ := h.isBacking hfj
    exact ⟨hfj, hother _ hfs (hnot (.inl (sameName_self _))),
      hother _ hfr (hnot (.inr (sameName_self _)))⟩
  refine ⟨hholds, fun f hf => h.named f (left hf).1, h.apart.filter _, ?_, ?_, ?_⟩
  · intro name hb hsome
    have hnot : ¬ e.2.tables.Names name := by
      intro hn
      rw [hown name hb hn] at hsome
      exact Bool.noConfusion hsome
    rw [hother name hb hnot] at hsome
    obtain ⟨hopen, f, hfj, hn⟩ := h.owned name hb hsome
    refine ⟨hopen, f, List.mem_filter.2 ⟨hfj, ?_⟩, hn⟩
    simp only [ne_eq, decide_not, Bool.not_eq_true', decide_eq_false_iff_not]
    intro hid
    have hfind := h.holds.find?_of_mem hfj
    rw [hid, h.holds.find?_of_mem he] at hfind
    obtain rfl := Option.some.inj hfind
    exact hnot hn
  · intro f hf hd
    obtain ⟨hfj, hscratch, hresult⟩ := left hf
    rw [hscratch, hresult]
    exact h.done f hfj hd
  · intro f hf hd
    obtain ⟨hfj, -, hresult⟩ := left hf
    rw [hresult]
    exact h.stuck f hfj hd

theorem Sound.delete (h : Sound schema drawn s jobs) (id : Uuid) :
    ∃ s', Sound schema drawn s' (jobs.filter fun e => e.2.id ≠ id) ∧
      (Registry.delete s id = .ok s' ∨ Registry.delete s id = .error (.notFound id) ∧ s' = s) := by
  cases hf : jobs.find? fun e => e.2.id = id with
  | none =>
    refine ⟨s, ?_, .inr ⟨Registry.delete_of_absent h.holds hf, rfl⟩⟩
    rw [filter_ne_of_absent hf]
    exact h
  | some e =>
    have he : e ∈ jobs := List.mem_of_find?_eq_some hf
    obtain rfl : e.2.id = id := by simpa using List.find?_some hf
    obtain ⟨hbs, hbr⟩ := h.isBacking he
    have registry {name : String} (hb : schema.IsBacking name) :
        (s.replace Sql.jobsTable
          (Registry.holding (jobs.filter fun f => f.2.id ≠ e.2.id))).table? name =
            s.table? name := Store.table?_replace_other (sameName_self _) hb.ne_registry
    refine ⟨_, h.without he ?_ (fun name hb hn => ?_) (fun name hb hn => ?_),
      .inl (Registry.delete_of_find h.holds hf)⟩
    · refine (h.holds.filtered _).congr (table?_dropTables_other (JobTables.not_names.2 ⟨?_, ?_⟩))
      · exact (sameName_comm _ _).trans hbs.ne_registry
      · exact (sameName_comm _ _).trans hbr.ne_registry
    · exact table?_dropTables_own hn fun hr => (registry hb).trans (h.droppable hb hr)
    · exact (table?_dropTables_other hn).trans (registry hb)

theorem Sound.deleteEach (ids : List Uuid) (h : Sound schema drawn s jobs) (count : Nat) :
    ∃ s' n, Registry.deleteEach s count ids = (s', .ok n) ∧
      Sound schema drawn s' (jobs.filter fun e => e.2.id ∉ ids) := by
  induction ids generalizing s jobs count with
  | nil =>
    refine ⟨s, count, rfl, ?_⟩
    rw [List.filter_eq_self.2 fun _ _ => by simp]
    exact h
  | cons id ids ih =>
    obtain ⟨s₁, h₁, hdelete⟩ := h.delete id
    have hfilter : (jobs.filter fun e => e.2.id ≠ id).filter (fun e => e.2.id ∉ ids) =
        jobs.filter fun e => e.2.id ∉ id :: ids := by
      rw [List.filter_filter]
      refine List.filter_congr fun e _ => ?_
      rw [Bool.eq_iff_iff]
      simp [and_comm]
    obtain hdelete | ⟨hdelete, rfl⟩ := hdelete
    · obtain ⟨s', n, hrest, h'⟩ := ih h₁ (count + 1)
      rw [hfilter] at h'
      refine ⟨s', n, ?_, h'⟩
      rw [Registry.deleteEach, hdelete]
      exact hrest
    · obtain ⟨s', n, hrest, h'⟩ := ih h₁ count
      rw [hfilter] at h'
      refine ⟨s', n, ?_, h'⟩
      rw [Registry.deleteEach, hdelete]
      exact hrest

theorem Sound.deleteAll (h : Sound schema drawn s jobs) :
    ∃ s' n, Registry.deleteAll s = (s', .ok n) ∧ Sound schema drawn s' [] := by
  unfold Registry.deleteAll
  rw [Registry.list_eq h.holds]
  dsimp only
  generalize hjs : (jobs.map Prod.snd).reverse.mergeSort (fun a b =>
    !decide (a.startTime.storedText < b.startTime.storedText)) = js
  obtain ⟨s', n, hrun, h'⟩ := h.deleteEach (js.map Job.id) 0
  refine ⟨s', n, hrun, ?_⟩
  have hnone : jobs.filter (fun e => e.2.id ∉ js.map Job.id) = [] := by
    rw [List.filter_eq_nil_iff]
    intro e he
    have hmem : e.2 ∈ js := by
      rw [← hjs, List.mem_mergeSort, List.mem_reverse]
      exact List.mem_map_of_mem he
    simpa using ⟨e.2, hmem, rfl⟩
  rw [hnone] at h'
  exact h'

/-! ## Submitting -/

theorem jobOf_ofSelection (t : EntityType) (tables : JobTables) (q : Sql.Selection)
    (p : Sql.Projection) (ticket : Ticket) (owner : Int) :
    (jobOf (Plan.ofSelection t tables q p) ticket owner).id = ticket.id ∧
      (jobOf (Plan.ofSelection t tables q p) ticket owner).tables = tables ∧
      (jobOf (Plan.ofSelection t tables q p) ticket owner).status = .started ∧
      (jobOf (Plan.ofSelection t tables q p) ticket owner).startTime = ticket.time :=
  ⟨rfl, rfl, rfl, rfl⟩

theorem Sound.free (h : Sound schema drawn s jobs) {suffix : String}
    (hd : ∀ t ∈ drawn, sameName t.suffix suffix = false) :
    s.table? (JobTables.ofSuffix schema suffix).scratch = none ∧
      s.table? (JobTables.ofSuffix schema suffix).result = none := by
  have none_of {name : String} (hn : (JobTables.ofSuffix schema suffix).Names name) :
      s.table? name = none := by
    by_contra hsome
    obtain ⟨-, e, he, hname⟩ := h.owned name ⟨suffix, hn⟩ (Option.isSome_iff_ne_none.2 hsome)
    obtain ⟨t, ht, -, htables⟩ := h.named e he
    rw [htables] at hname
    have hsame := hd t ht
    rw [JobTables.sameName_of_names hname hn] at hsame
    exact Bool.noConfusion hsame
  exact ⟨none_of (.inl (sameName_self _)), none_of (.inr (sameName_self _))⟩

theorem map_withStatus_new {n : Int} {j : Job}
    (hnew : (jobs.any fun e => e.2.id = j.id) = false) (status : Status) :
    (jobs ++ [(n, j)]).map (Registry.withStatus j.id status) =
      jobs ++ [(n, { j with status := status })] := by
  rw [List.map_append]
  congr 1
  · refine (List.map_congr_left fun e he => ?_).trans (List.map_id jobs)
    have := List.any_eq_false.1 hnew e he
    simp only [decide_eq_true_eq] at this
    exact if_neg this
  · simp [Registry.withStatus]

theorem isReserved_of_ended {id : Uuid} {tables : JobTables} {s' : Store} {status : Status}
    (hend : Batch.Ended s jobs id tables s' status) {name : String} (hn : tables.Names name)
    (hsome : (s'.table? name).isSome = true) : Store.isReserved name = false := by
  rcases hn with hn | hn
  · rw [← Store.table?_congr hn] at hsome
    rw [← Store.isReserved_congr hn]
    exact hend.scratchOpen hsome
  · rw [← Store.table?_congr hn] at hsome
    rw [← Store.isReserved_congr hn]
    exact hend.resultOpen hsome

theorem Sound.table?_ended (h : Sound schema drawn s jobs) {suffix : String}
    (hd : ∀ t ∈ drawn, sameName t.suffix suffix = false) {all : List (Int × Job)} {id : Uuid}
    {s' : Store} {status : Status}
    (hend : Batch.Ended s all id (.ofSuffix schema suffix) s' status) {e : Int × Job}
    (he : e ∈ jobs) :
    s'.table? e.2.tables.scratch = s.table? e.2.tables.scratch ∧
      s'.table? e.2.tables.result = s.table? e.2.tables.result := by
  obtain ⟨t, ht, -, hte⟩ := h.named e he
  obtain ⟨h1, h2, h3, h4⟩ := JobTables.apart_ofSuffix schema (hd t ht)
  rw [← hte, sameName_comm] at h1 h2 h3 h4
  obtain ⟨hes, her⟩ := h.isBacking he
  exact ⟨hend.others _ hes.ne_registry h1 h2, hend.others _ her.ne_registry h3 h4⟩

theorem Sound.added (h : Sound schema drawn s jobs) {ticket : Ticket}
    (hd : ∀ t ∈ drawn, sameName t.suffix ticket.suffix = false) {j : Job} (hid : j.id = ticket.id)
    (htables : j.tables = .ofSuffix schema ticket.suffix)
    (hnew : (jobs.any fun e => e.2.id = j.id) = false) {n : Int} {s' : Store} {status : Status}
    (hend : Batch.Ended s (jobs ++ [(n, j)]) j.id j.tables s' status) :
    Sound schema (drawn ++ [ticket]) s' (jobs ++ [(n, { j with status := status })]) := by
  have hholds := hend.holds
  rw [map_withStatus_new hnew] at hholds
  have kept {e : Int × Job} (he : e ∈ jobs) := h.table?_ended hd (htables ▸ hend) he
  refine ⟨hholds, ?_, ?_, ?_, ?_, ?_⟩
  · intro e he
    rcases List.mem_append.1 he with he | he
    · obtain ⟨t, ht, hn⟩ := h.named e he
      exact ⟨t, List.mem_append_left _ ht, hn⟩
    · rw [List.mem_singleton.1 he]
      exact ⟨ticket, by simp, hid, htables⟩
  · refine List.pairwise_append.2 ⟨h.apart, List.pairwise_singleton .., ?_⟩
    intro e he f hf
    obtain ⟨t, ht, -, hte⟩ := h.named e he
    rw [List.mem_singleton.1 hf, hte]
    dsimp only
    rw [htables, JobTables.sameName_scratch, hd t ht]
  · intro name hb hsome
    by_cases hn : j.tables.Names name
    · exact ⟨isReserved_of_ended hend hn hsome, _,
        List.mem_append_right _ (List.mem_singleton_self _), hn⟩
    · obtain ⟨hs, hr⟩ := JobTables.not_names.1 hn
      rw [hend.others name hb.ne_registry hs hr] at hsome
      obtain ⟨hopen, e, he, hne⟩ := h.owned name hb hsome
      exact ⟨hopen, e, List.mem_append_left _ he, hne⟩
  · intro e he hdone
    rcases List.mem_append.1 he with he | he
    · rw [(kept he).1, (kept he).2]
      exact h.done e he hdone
    · rw [List.mem_singleton.1 he] at hdone ⊢
      exact hend.done hdone
  · intro e he hdone
    rcases List.mem_append.1 he with he | he
    · rw [(kept he).2]
      exact h.stuck e he hdone
    · rw [List.mem_singleton.1 he] at hdone ⊢
      exact hend.stuck hdone

/-- A new job and its batch leave the store in order, however far the batch comes. -/
theorem Sound.batch (h : Sound schema drawn s jobs) {ticket : Ticket}
    (hd : ∀ t ∈ drawn, sameName t.suffix ticket.suffix = false)
    (ht : ticket.time.FourDigits) {j : Job} (hid : j.id = ticket.id)
    (htables : j.tables = .ofSuffix schema ticket.suffix) (hstatus : j.status = .started)
    (htime : j.startTime = ticket.time) (hnew : (jobs.any fun e => e.2.id = j.id) = false)
    (t : EntityType) (q : Sql.Selection) (p : Sql.Projection) :
    ∃ n status, Sound schema (drawn ++ [ticket])
      (Batch.run (s.replace Sql.jobsTable
          (Registry.holding (jobs ++ [((Registry.holding jobs).nextNumber, j)]))) ticket.occasion
        ticket.id
        ((Plan.ofSelection t (.ofSuffix schema ticket.suffix) q p).statements ticket.id))
      (jobs ++ [(n, { j with status := status })]) := by
  obtain ⟨hscratch, hresult⟩ := h.free hd
  have hsep := JobTables.separate_ofSuffix schema ticket.suffix
  rw [← htables] at hscratch hresult hsep
  rw [← hid, ← htables]
  have happended := h.holds.appended hnew (htime ▸ ht)
  generalize (Registry.holding jobs).nextNumber = n at happended ⊢
  have hself : { j with status := .started } = j := by rw [← hstatus]
  have registry {name : String} (hn : sameName Sql.jobsTable name = false) :
      (s.replace Sql.jobsTable (Registry.holding (jobs ++ [(n, j)]))).table? name =
        s.table? name := Store.table?_replace_other (sameName_self _) hn
  have hstart : Batch.Along s (jobs ++ [(n, j)]) j.id j.tables
      (s.replace Sql.jobsTable (Registry.holding (jobs ++ [(n, j)]))) .started := by
    refine ⟨?_, fun name hn _ _ => registry hn⟩
    rw [map_withStatus_new hnew, hself]
    exact happended
  obtain ⟨status, hend⟩ := Batch.run_ends hstart hsep (by simp)
    (by rw [registry hsep.scratch, hscratch]) (by rw [registry hsep.result, hresult])
  exact ⟨n, status, h.added hd hid htables hnew hend⟩

theorem Sound.submit {s : Service} (h : Sound s.schema drawn s.store jobs) {ticket : Ticket}
    (hd : ∀ t ∈ drawn, sameName t.suffix ticket.suffix = false)
    (ht : ticket.time.FourDigits) (r : Request) (owner : Int) :
    ∃ jobs', Sound s.schema (drawn ++ [ticket]) (s.submit ticket r owner).1.store jobs' ∧
      ∀ e ∈ jobs', e ∈ jobs ∨ e.2.id = ticket.id := by
  have unchanged : ∃ jobs', Sound s.schema (drawn ++ [ticket]) s.store jobs' ∧
      ∀ e ∈ jobs', e ∈ jobs ∨ e.2.id = ticket.id := ⟨jobs, h.draws _, fun _ he => .inl he⟩
  unfold Service.submit
  split
  · exact unchanged
  · rename_i e _
    unfold submitExport
    split
    · exact unchanged
    · rename_i plan hplan
      obtain ⟨-, parts, -, rfl⟩ := Plan.compile_eq_ok.1 hplan
      rw [Registry.create_eq h.holds]
      generalize s.schema.entityType e.typeName = t
      generalize t.selection parts = q
      generalize t.projection _ _ e.fields = p
      obtain ⟨hid, htables, hstatus, htime⟩ :=
        jobOf_ofSelection t (.ofSuffix s.schema ticket.suffix) q p ticket owner
      generalize jobOf _ ticket owner = j at hid htables hstatus htime ⊢
      cases hnew : jobs.any fun f => f.2.id = j.id with
      | true => exact unchanged
      | false =>
        obtain ⟨n, status, hsound⟩ := h.batch hd ht hid htables hstatus htime hnew t q p
        refine ⟨_, hsound, fun e he => ?_⟩
        rcases List.mem_append.1 he with he | he
        · exact .inl he
        · rw [List.mem_singleton.1 he]
          exact .inr hid

end Service

end SheetExport
