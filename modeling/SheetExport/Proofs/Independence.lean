import SheetExport.Proofs.BackingTables
import SheetExport.Proofs.PlannedJobs

/-!
# Two jobs do not interfere

Two jobs whose suffixes differ share no table and no row. What one of them does is not seen in the
store without it, where the other does all that it does in the whole store. So a job is answered
alike whether or not another one works beside it.
-/

namespace SheetExport

open Text (sameName)
open Registry (Holds)
open Sql (Statement)

namespace PlannedJob

variable {schema : Schema}

/-! ## Runs -/

def alone (e : PlannedJob schema) (s : Store) : List Operation → Store × List Answer
  | [] => (s, [])
  | operation :: rest =>
    let (s', answer) := e.perform s operation
    let (s'', answers) := e.alone s' rest
    (s'', answer :: answers)

/-- Two jobs that take turns, with the answers that the second one gets. -/
def together (a b : PlannedJob schema) (s : Store) :
    List (Operation ⊕ Operation) → Store × List Answer
  | [] => (s, [])
  | .inl operation :: rest => together a b (a.perform s operation).1 rest
  | .inr operation :: rest =>
    let (s', answer) := b.perform s operation
    let (s'', answers) := together a b s' rest
    (s'', answer :: answers)

/-- Two jobs that share neither an id nor, in the eyes of the store, a suffix. -/
structure Apart (a b : PlannedJob schema) : Prop where
  id : a.id ≠ b.id
  suffix : sameName a.suffix b.suffix = false

variable {a b : PlannedJob schema} {s s' : Store} {o : Store.Occasion} {jobs : List (Int × Job)}

/-! ## One job in the store without the other -/

theorem Apart.spares (h : Apart a b) :
    a.tables.Spares b.tables.scratch ∧ a.tables.Spares b.tables.result := by
  obtain ⟨h1, h2, h3, h4⟩ := JobTables.apart_ofSuffix schema h.suffix
  exact ⟨.of_other b.separate.scratch h1 h3, .of_other b.separate.result h2 h4⟩

theorem run?_forgetting (h : Apart a b) (hh : Holds s jobs) {statement : Statement}
    (hst : statement ∈ b.statements) :
    (s.forgetting a.id a.tables).run? o statement =
      (s.run? o statement).map (·.forgetting a.id a.tables) := by
  obtain ⟨hscratch, hresult⟩ := h.spares
  obtain ⟨q, p, hplan, hq, hp⟩ := b.exists_plan
  have hqueried : s.Agree (s.forgetting a.id a.tables) q.tables :=
    Store.agree_forgetting fun name hm => a.spares_site (hq hm)
  have hprojected : s.Agree (s.forgetting a.id a.tables) p.tables := by
    refine Store.agree_forgetting fun name hm => ?_
    rcases List.mem_append.1 (hp hm) with hm | hm
    · exact a.spares_site hm
    · rwa [List.mem_singleton.1 hm]
  rw [hplan] at hst
  rcases Plan.statement_cases hst with ⟨status, rfl⟩ | rfl | rfl | rfl | rfl
  · exact Store.setStatus_forgetting hh a.separate _ _
  · unfold Store.run?
    split
    · rfl
    · exact Store.create?_forgetting (t := Store.idTable b.tables.scratch) hscratch
  · rw [Store.run?_insertIds, Store.run?_insertIds, Store.selectionRuns_congr hqueried,
      Store.selected_congr hqueried]
    split
    · exact Store.insertIds?_forgetting hscratch _
    · rfl
  · unfold Store.run?
    split
    · rfl
    · dsimp only
      rw [Store.projectionRuns_congr hprojected, Store.resultTable_congr hprojected]
      split
      · exact Store.create?_forgetting (t := s.resultTable o b.tables.result p) hresult
      · rfl
  · unfold Store.run?
    split
    · rfl
    · exact Store.drop?_forgetting hscratch

theorem step?_forgetting (h : Apart a b) (hh : Holds s jobs) {statement : Statement}
    (hst : statement ∈ b.statements) :
    Batch.step? (s.forgetting a.id a.tables) o b.id statement =
      (Batch.step? s o b.id statement).map (·.forgetting a.id a.tables) := by
  unfold Batch.step?
  rw [Store.isRegistered_forgetting hh a.separate h.id.symm, run?_forgetting h hh hst]
  split <;> rfl

theorem run_forgetting (h : Apart a b) (statements : List Statement)
    (hst : statements ⊆ b.statements) : ∀ {s : Store} {jobs : List (Int × Job)}, Holds s jobs →
      b.Owns jobs → Batch.run (s.forgetting a.id a.tables) o b.id statements =
        (Batch.run s o b.id statements).forgetting a.id a.tables := by
  induction statements with
  | nil => exact fun _ _ => rfl
  | cons statement rest ih =>
    intro s jobs hh ho
    obtain ⟨hfirst, hrest⟩ := List.cons_subset.1 hst
    have hstep := step?_forgetting h hh hfirst (o := o)
    cases hs' : Batch.step? s o b.id statement with
    | none =>
      rw [hs', Option.map_none] at hstep
      rw [Batch.run_cons_of_none hs', Batch.run_cons_of_none hstep]
    | some s' =>
      rw [hs', Option.map_some] at hstep
      obtain ⟨⟨jobs', hh', hf⟩, -⟩ := hides_step hs' hfirst jobs hh ho
      rw [Batch.run_cons_of_some hs', Batch.run_cons_of_some hstep, ih hrest hh' (hf.owns ho)]

theorem delete_forgetting (h : Apart a b) (hh : Holds s jobs) (ho : b.Owns jobs) :
    Registry.delete (s.forgetting a.id a.tables) b.id =
      (Registry.delete s b.id).map (·.forgetting a.id a.tables) := by
  refine Store.delete_forgetting hh a.separate h.id.symm fun e he hid => ?_
  rw [ho e he hid]
  exact h.spares

theorem download_forgetting (h : Apart a b) (hh : Holds s jobs) (ho : b.Owns jobs)
    (batchSize : Nat) (format : Csv.Format) (sink : Sink) :
    Download.run batchSize format (s.forgetting a.id a.tables) b.id sink =
      ((Download.run batchSize format s b.id sink).1.forgetting a.id a.tables,
        (Download.run batchSize format s b.id sink).2) := by
  have hfinished : Download.finished (s.forgetting a.id a.tables) b.id =
      Download.finished s b.id := by
    unfold Download.finished
    rw [Store.get_forgetting hh a.separate h.id.symm]
  unfold Download.run Download.runWith
  rw [hfinished]
  cases hf : Download.finished s b.id with
  | error fault => rfl
  | ok job =>
    have htables : job.tables = b.tables := by
      obtain ⟨hget, -⟩ := Service.finished_eq_ok.1 hf
      obtain ⟨e, he, rfl, hid⟩ := (Registry.get_eq_ok hh).1 hget
      exact ho e he hid
    have hwatch : Download.Watch.ofStore (s.forgetting a.id a.tables) job.tables.result =
        Download.Watch.ofStore s job.tables.result := by
      unfold Download.Watch.ofStore
      rw [htables, Store.has_forgetting h.spares.2]
    have hwrite (w : Csv.Writer) (watch : Download.Watch) :
        Download.writeResult watch batchSize (s.forgetting a.id a.tables) job w =
          Download.writeResult watch batchSize s job w := by
      unfold Download.writeResult
      rw [htables, Store.table?_forgetting h.spares.2]
    dsimp only
    rw [hwatch, hwrite]
    dsimp only [Download.Watch.ofStore]
    rw [delete_forgetting h hh ho]
    cases Registry.delete s b.id <;> rfl

theorem perform_forgetting (h : Apart a b) (hh : Holds s jobs) (ho : b.Owns jobs)
    (operation : Operation) : b.perform (s.forgetting a.id a.tables) operation =
      ((b.perform s operation).1.forgetting a.id a.tables, (b.perform s operation).2) := by
  cases operation with
  | statement o index =>
    unfold perform
    dsimp only
    cases hst : b.statements[index]? with
    | none => rfl
    | some statement =>
      rw [Option.bind_some, Option.bind_some, step?_forgetting h hh (List.mem_of_getElem? hst)]
      cases Batch.step? s o b.id statement <;> rfl
  | batch o => exact congrArg (·, Answer.ended) (run_forgetting h _ (List.Subset.refl _) hh ho)
  | get =>
    unfold perform
    dsimp only
    rw [Store.get_forgetting hh a.separate h.id.symm]
  | download batchSize format sink =>
    unfold perform
    dsimp only
    rw [download_forgetting h hh ho]
  | delete =>
    unfold perform
    dsimp only
    rw [delete_forgetting h hh ho]
    cases Registry.delete s b.id <;> rfl

/-! ## What a step leaves as it is -/

theorem Hides.table?_eq (h : a.Hides s s') (hh : Holds s jobs) (ho : a.Owns jobs) {name : String}
    (hn : a.tables.Spares name) : s'.table? name = s.table? name := by
  rw [← Store.table?_forgetting (s := s') hn, (h jobs hh ho).2, Store.table?_forgetting hn]

/-- Nothing that the other job is answered from is changed, and no table of the site. -/
structure Leaves (b : PlannedJob schema) (s s' : Store) : Prop where
  site : ∀ typeName, ∀ name ∈ (schema.entityType typeName).siteTables schema.tagTables,
    s'.table? name = s.table? name
  row : s'.rowsWith? Sql.jobsTable [("id", .text b.id.text)] =
    s.rowsWith? Sql.jobsTable [("id", .text b.id.text)]
  scratch : s'.table? b.tables.scratch = s.table? b.tables.scratch
  result : s'.table? b.tables.result = s.table? b.tables.result

theorem Hides.leaves (h : a.Hides s s') (hab : Apart a b) (hh : Holds s jobs) (ho : a.Owns jobs) :
    b.Leaves s s' := by
  obtain ⟨⟨jobs', hh', hf⟩, -⟩ := h jobs hh ho
  refine ⟨fun _ _ hn => h.table?_eq hh ho (a.spares_site hn), ?_,
    h.table?_eq hh ho hab.spares.1, h.table?_eq hh ho hab.spares.2⟩
  rw [Registry.rowsWith?_id hh', Registry.rowsWith?_id hh, ← Store.filter_other hab.id.symm,
    hf.others, Store.filter_other hab.id.symm]

theorem together_reaches (hh : Holds s jobs) (ha : a.Owns jobs) (hb : b.Owns jobs)
    (operations : List (Operation ⊕ Operation)) :
    (∃ jobs', Holds (together a b s operations).1 jobs' ∧ a.Owns jobs' ∧ b.Owns jobs') ∧
      ∀ typeName, ∀ name ∈ (schema.entityType typeName).siteTables schema.tagTables,
        (together a b s operations).1.table? name = s.table? name := by
  induction operations generalizing s jobs with
  | nil => exact ⟨⟨jobs, hh, ha, hb⟩, fun _ _ _ => rfl⟩
  | cons operation rest ih =>
    cases operation with
    | inl operation =>
      have hstep := a.hides_perform s operation
      obtain ⟨⟨jobs', hh', hf⟩, -⟩ := hstep jobs hh ha
      obtain ⟨hreached, hsite⟩ := ih hh' (hf.owns ha) (hf.owns hb)
      exact ⟨hreached, fun typeName name hn =>
        (hsite typeName name hn).trans (hstep.table?_eq hh ha (a.spares_site hn))⟩
    | inr operation =>
      have hstep := b.hides_perform s operation
      obtain ⟨⟨jobs', hh', hf⟩, -⟩ := hstep jobs hh hb
      obtain ⟨hreached, hsite⟩ := ih hh' (hf.owns ha) (hf.owns hb)
      exact ⟨hreached, fun typeName name hn =>
        (hsite typeName name hn).trans (hstep.table?_eq hh hb (b.spares_site hn))⟩

/-! ## Answers -/

theorem alone_forgetting (h : Apart a b) (hh : Holds s jobs) (hb : b.Owns jobs)
    (operations : List Operation) : b.alone (s.forgetting a.id a.tables) operations =
      ((b.alone s operations).1.forgetting a.id a.tables, (b.alone s operations).2) := by
  induction operations generalizing s jobs with
  | nil => rfl
  | cons operation rest ih =>
    obtain ⟨⟨jobs', hh', hf⟩, -⟩ := b.hides_perform s operation jobs hh hb
    rw [alone, alone, perform_forgetting h hh hb]
    dsimp only
    rw [ih hh' (hf.owns hb)]

/-- Without the first job the second one does on its own what it does in the run of both. -/
theorem together_forgetting (h : Apart a b) (hh : Holds s jobs) (ha : a.Owns jobs)
    (hb : b.Owns jobs) (operations : List (Operation ⊕ Operation)) :
    b.alone (s.forgetting a.id a.tables) (operations.filterMap Sum.getRight?) =
      ((together a b s operations).1.forgetting a.id a.tables, (together a b s operations).2) := by
  induction operations generalizing s jobs with
  | nil => rfl
  | cons operation rest ih =>
    cases operation with
    | inl operation =>
      obtain ⟨⟨jobs', hh', hf⟩, hsame⟩ := a.hides_perform s operation jobs hh ha
      rw [together, ← ih hh' (hf.owns ha) (hf.owns hb), hsame]
      rfl
    | inr operation =>
      obtain ⟨⟨jobs', hh', hf⟩, -⟩ := b.hides_perform s operation jobs hh hb
      have hright : (Sum.inr operation :: rest : List (Operation ⊕ Operation)).filterMap
          Sum.getRight? = operation :: rest.filterMap Sum.getRight? := rfl
      rw [hright, alone, together, perform_forgetting h hh hb]
      dsimp only
      rw [ih hh' (hf.owns ha) (hf.owns hb)]

/-- However the operations of two jobs are mixed, the second is answered as if the first did
nothing, each step of the first leaves the site and all that is the second's as it was, and no run
of both changes the site. -/
theorem jobs_do_not_interfere (h : Apart a b) (hh : Holds s jobs) (ha : a.Owns jobs)
    (hb : b.Owns jobs) (operations : List (Operation ⊕ Operation)) :
    (together a b s operations).2 = (b.alone s (operations.filterMap Sum.getRight?)).2 ∧
      (∀ operation, b.Leaves (together a b s operations).1
        (a.perform (together a b s operations).1 operation).1) ∧
      ∀ typeName, ∀ name ∈ (schema.entityType typeName).siteTables schema.tagTables,
        (together a b s operations).1.table? name = s.table? name := by
  -- Both runs are compared with the second job on its own in the store without the first.
  obtain ⟨⟨jobs', hh', ha', -⟩, hsite⟩ := together_reaches hh ha hb operations
  refine ⟨?_, fun operation => (a.hides_perform _ operation).leaves h hh' ha', hsite⟩
  have htogether := together_forgetting h hh ha hb operations
  have halone := alone_forgetting h hh hb (operations.filterMap Sum.getRight?)
  exact (Prod.mk.inj (htogether.symm.trans halone)).2

/-! ## Suffixes that differ, and that differ in one letter's case -/

open Service (firstTicket secondTicket)

def idsOfPosts (id : Uuid) (suffix : String) : PlannedJob ⟨"wp_"⟩ :=
  ⟨id, suffix, "post", [⟨.fixed, "ID", ""⟩], [], _, rfl⟩

def rowFor (e : PlannedJob schema) (status : Status) : Job :=
  ⟨e.id, e.tables, status, 7, e.typeName, firstTicket.time, none⟩

def firstJob : PlannedJob ⟨"wp_"⟩ := idsOfPosts firstTicket.id firstTicket.suffix

def secondJob : PlannedJob ⟨"wp_"⟩ := idsOfPosts secondTicket.id secondTicket.suffix

def bothStarted : Store :=
  ⟨[Registry.holding [(1, rowFor firstJob .started), (2, rowFor secondJob .started)],
    Service.postTable]⟩

/-- The first job is deleted in the middle of its batch, while the second is worked on. -/
def mixed : List (Operation ⊕ Operation) :=
  [.inl (.statement .quiet 0), .inr (.statement .quiet 0), .inl (.statement .quiet 1),
    .inr (.batch .quiet), .inl .delete, .inr .get, .inl (.batch .quiet),
    .inr (.download 1000 .standard .unlimited)]

theorem jobs_do_not_interfere_mixed :
    (together firstJob secondJob bothStarted mixed).2 = (secondJob.alone bothStarted
      [.statement .quiet 0, .batch .quiet, .get, .download 1000 .standard .unlimited]).2 := by
  have hholds : Holds bothStarted
      [(1, rowFor firstJob .started), (2, rowFor secondJob .started)] :=
    ⟨rfl, List.pairwise_pair.2 (by decide), List.pairwise_pair.2 (by decide), by decide⟩
  have hfirst : firstJob.Owns [(1, rowFor firstJob .started), (2, rowFor secondJob .started)] := by
    unfold Owns
    decide
  have hsecond : secondJob.Owns
      [(1, rowFor firstJob .started), (2, rowFor secondJob .started)] := by
    unfold Owns
    decide
  exact (jobs_do_not_interfere ⟨by decide, by decide⟩ hholds hfirst hsecond mixed).1

def shadowJob : PlannedJob ⟨"wp_"⟩ := idsOfPosts secondTicket.id "A1"

def bothDone : Store :=
  ⟨[Registry.holding [(1, rowFor firstJob .done), (2, rowFor shadowJob .done)],
    ⟨shadowJob.tables.result, [.free "x" .blob], .none, Store.Row.numbered [[.text "v"]]⟩]⟩

/-- The deletion of one job drops the result of the other, whose suffix is a different text. -/
theorem deletion_interferes_of_sameName :
    firstJob.id ≠ shadowJob.id ∧ firstJob.suffix ≠ shadowJob.suffix ∧
      Holds bothDone [(1, rowFor firstJob .done), (2, rowFor shadowJob .done)] ∧
      firstJob.Owns [(1, rowFor firstJob .done), (2, rowFor shadowJob .done)] ∧
      shadowJob.Owns [(1, rowFor firstJob .done), (2, rowFor shadowJob .done)] ∧
      (bothDone.table? shadowJob.tables.result).isSome = true ∧
      (firstJob.perform bothDone .delete).1.table? shadowJob.tables.result = none ∧
      (together firstJob shadowJob bothDone
        [.inl .delete, .inr (.download 1000 .standard .unlimited)]).2 ≠
          (shadowJob.alone bothDone [.download 1000 .standard .unlimited]).2 := by
  refine ⟨by decide, by decide, ?_, ?_, ?_, by decide, ?_, ?_⟩
  · exact ⟨rfl, List.pairwise_pair.2 (by decide), List.pairwise_pair.2 (by decide), by decide⟩
  · unfold Owns
    decide
  · unfold Owns
    decide
  · decide +kernel
  · decide +kernel

end PlannedJob

end SheetExport
