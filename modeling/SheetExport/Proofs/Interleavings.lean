import SheetExport.Proofs.BackingTables
import SheetExport.Proofs.Deletions

/-!
# Deletions during a batch

A batch and any number of deletions of its job take turns, one statement or one step of a deletion
at a time. The row of the job goes first, and without it no statement of the batch runs, so what is
dropped afterwards does not come back.
-/

namespace SheetExport

open Sql (Statement)
open Registry (Holds)
open Store (Occasion)
open Text (sameName)

/-! ## Turns -/

inductive Deletion where
  | asked
  | found (job : Job)
  | unlisted (tables : JobTables)
  | halfDropped (tables : JobTables)
  | ended (outcome : Except JobFault Unit)

namespace Deletion

def step (s : Store) (id : Uuid) : Deletion → Store × Deletion
  | asked =>
    match Registry.get s id with
    | .ok job => (s, found job)
    | .error fault => (s, ended (.error fault))
  | found job =>
    match Registry.deleteRow s id with
    | .ok s => (s, unlisted job.tables)
    | .error fault => (s, ended (.error fault))
  | unlisted tables => (s.dropQuietly tables.scratch, halfDropped tables)
  | halfDropped tables => (s.dropQuietly tables.result, ended (.ok ()))
  | ended outcome => (s, ended outcome)

def hasEnded : Deletion → Bool
  | ended _ => true
  | _ => false

end Deletion

/-- What the batch still has to run, and how far the deletions are. -/
structure Race where
  store : Store
  statements : List Statement
  deletions : List Deletion

namespace Race

inductive Turn where
  | batch (o : Occasion)
  | deletion (index : Nat)

/-- A statement that cannot run ends the batch. -/
def batchTurn (id : Uuid) (o : Occasion) (r : Race) : Race :=
  match r.statements with
  | [] => r
  | statement :: rest =>
    match Batch.step? r.store o id statement with
    | some s => { r with store := s, statements := rest }
    | none => { r with statements := [] }

def deletionTurn (id : Uuid) (r : Race) (index : Nat) : Race :=
  match r.deletions[index]? with
  | none => r
  | some d =>
    { r with
      store := (d.step r.store id).1
      deletions := r.deletions.set index (d.step r.store id).2 }

def after (id : Uuid) (r : Race) : Turn → Race
  | .batch o => r.batchTurn id o
  | .deletion index => r.deletionTurn id index

def afterAll (id : Uuid) (r : Race) (turns : List Turn) : Race := turns.foldl (after id) r

def start (s : Store) (statements : List Statement) (count : Nat) : Race :=
  ⟨s, statements, List.replicate count .asked⟩

structure HasEnded (r : Race) : Prop where
  batch : r.statements = []
  deletions : ∀ d ∈ r.deletions, d.hasEnded = true

variable {s : Store} {o : Occasion} {id : Uuid} {r : Race}

theorem afterAll_append (id : Uuid) (r : Race) (earlier later : List Turn) :
    r.afterAll id (earlier ++ later) = (r.afterAll id earlier).afterAll id later :=
  List.foldl_append

theorem afterAll_cons (id : Uuid) (r : Race) (turn : Turn) (later : List Turn) :
    r.afterAll id (turn :: later) = (r.after id turn).afterAll id later := rfl

theorem batchTurn_of_some {statement : Statement} {rest : List Statement}
    {deletions : List Deletion} {s' : Store} (h : Batch.step? s o id statement = some s') :
    (Race.mk s (statement :: rest) deletions).batchTurn id o = ⟨s', rest, deletions⟩ := by
  unfold batchTurn
  dsimp only
  rw [h]

theorem batchTurn_of_none {statement : Statement} {rest : List Statement}
    {deletions : List Deletion} (h : Batch.step? s o id statement = none) :
    (Race.mk s (statement :: rest) deletions).batchTurn id o = ⟨s, [], deletions⟩ := by
  unfold batchTurn
  dsimp only
  rw [h]

/-- Left alone, the batch runs as it does without deletions. -/
theorem afterAll_batch (s : Store) (o : Occasion) (id : Uuid) (statements : List Statement)
    (deletions : List Deletion) :
    (Race.mk s statements deletions).afterAll id (List.replicate statements.length (.batch o)) =
      ⟨Batch.run s o id statements, [], deletions⟩ := by
  have rests (s : Store) (n : Nat) : (Race.mk s [] deletions).afterAll id
      (List.replicate n (.batch o)) = ⟨s, [], deletions⟩ := by
    induction n with
    | zero => rfl
    | succ n ih => exact ih
  induction statements generalizing s with
  | nil => rfl
  | cons statement rest ih =>
    rw [List.length_cons, List.replicate_succ, afterAll_cons, after]
    cases hstep : Batch.step? s o id statement with
    | none => rw [batchTurn_of_none hstep, rests, Batch.run_cons_of_none hstep]
    | some s' => rw [batchTurn_of_some hstep, ih, Batch.run_cons_of_some hstep]

/-- Left alone, the four steps of a deletion are one deletion. -/
theorem afterAll_deletion (s : Store) (id : Uuid) (statements : List Statement) :
    (start s statements 1).afterAll id (List.replicate 4 (.deletion 0)) =
      match Registry.delete s id with
      | .ok s' => ⟨s', statements, [.ended (.ok ())]⟩
      | .error fault => ⟨s, statements, [.ended (.error fault)]⟩ := by
  have turn (s : Store) (d : Deletion) : (Race.mk s statements [d]).after id (.deletion 0) =
      ⟨(d.step s id).1, statements, [(d.step s id).2]⟩ := rfl
  unfold start afterAll
  simp only [List.replicate, List.foldl_cons, List.foldl_nil, turn]
  unfold Registry.delete
  cases hg : Registry.get s id with
  | error fault => simp [Deletion.step, hg, bind, Except.bind]
  | ok job =>
    cases hd : Registry.deleteRow s id with
    | error fault => simp [Deletion.step, hg, hd, bind, Except.bind]
    | ok s' =>
      simp [Deletion.step, hg, hd, bind, Except.bind, pure, Except.pure, Registry.dropTables]

end Race

/-! ## Statements of a plan -/

/-- A table of the job that is there may be dropped. -/
structure JobTables.Droppable (tables : JobTables) (s : Store) : Prop where
  scratch : s.Droppable tables.scratch
  result : s.Droppable tables.result

namespace Batch

variable {s s' s₀ : Store} {o : Occasion} {jobs : List (Int × Job)} {id : Uuid} {tables : JobTables}
  {status : Status} {t : EntityType} {q : Sql.Selection} {p : Sql.Projection}

theorem insertIds?_of_none {name : String} {ids : List Value} (h : s.table? name = none)
    (hi : s.insertIds? name ids = some s') : s' = s := by
  refine Store.insertIds?_induction (motive := (· = s)) (fun mid u hsome _ hmid => ?_) hi rfl
  rw [hmid, h] at hsome
  exact Bool.noConfusion hsome

theorem droppable_statement (h : Along s₀ jobs id tables s status) (hs : tables.Separate)
    (hid : (jobs.any fun e => e.2.id = id) = true) (hd : tables.Droppable s)
    {statement : Statement} (hst : statement ∈ (Plan.ofSelection t tables q p).statements id)
    (hrun : s.run? o statement = some s') : tables.Droppable s' := by
  rcases Plan.statement_cases hst with ⟨next, rfl⟩ | rfl | rfl | rfl | rfl
  · obtain ⟨s'', hstep, -, hscratch, hresult⟩ := h.reach hs hid next
    rw [h.step? hid, hrun] at hstep
    obtain rfl := Option.some.inj hstep
    exact ⟨fun hr => hscratch.trans (hd.scratch hr), fun hr => hresult.trans (hd.result hr)⟩
  · obtain ⟨-, hresult, hopen, -⟩ := h.createIds hs hrun
    refine ⟨fun hr => ?_, fun hr => hresult.trans (hd.result hr)⟩
    rw [hopen] at hr
    exact Bool.noConfusion hr
  · obtain ⟨-, hresult⟩ := h.insertIds hs hrun
    refine ⟨fun hr => ?_, fun hr => hresult.trans (hd.result hr)⟩
    rw [insertIds?_of_none (hd.scratch hr) (run?_insertIds hrun)]
    exact hd.scratch hr
  · obtain ⟨-, -, hopen⟩ := h.createResult hs hrun
    have hscratch : s'.table? tables.scratch = s.table? tables.scratch :=
      Store.table?_create_other (run?_createResult hrun) ((sameName_comm _ _).trans hs.two)
    refine ⟨fun hr => hscratch.trans (hd.scratch hr), fun hr => ?_⟩
    rw [hopen] at hr
    exact Bool.noConfusion hr
  · obtain rfl := run?_dropTable hrun
    exact ⟨fun _ => Store.table?_without_self (sameName_self _),
      fun hr => (Store.table?_without_other hs.two).trans (hd.result hr)⟩

end Batch

/-! ## Before and after the row is deleted -/

namespace Deletion

/-- A deletion that has not changed anything yet. -/
def Waits (tables : JobTables) : Deletion → Prop
  | asked => True
  | found job => job.tables = tables
  | _ => False

/-- The deletion that removed the row, and the tables that it has dropped so far. -/
def Drops (tables : JobTables) (s : Store) : Deletion → Prop
  | unlisted own => own = tables
  | halfDropped own => own = tables ∧ s.table? tables.scratch = none
  | ended (.ok ()) => s.table? tables.scratch = none ∧ s.table? tables.result = none
  | _ => False

/-- A deletion for which there is no row left. -/
def Loses (id : Uuid) : Deletion → Prop
  | asked | found _ => True
  | ended (.error fault) => fault = .notFound id
  | _ => False

end Deletion

namespace Race

variable {s₀ : Store} {jobs : List (Int × Job)} {id : Uuid} {tables : JobTables}
  {statements : List Statement} {r : Race}

/-- The row is there, and only the batch has done anything. -/
structure Listed (s₀ : Store) (jobs : List (Int × Job)) (id : Uuid) (tables : JobTables)
    (statements : List Statement) (r : Race) : Prop where
  along : ∃ status, Batch.Along s₀ jobs id tables r.store status
  droppable : tables.Droppable r.store
  issued : ∀ statement ∈ r.statements, statement ∈ statements
  waiting : ∀ d ∈ r.deletions, d.Waits tables

/-- The row is gone, and one deletion drops the tables. -/
structure Unlisted (id : Uuid) (tables : JobTables) (r : Race) : Prop where
  gone : ∃ jobs, Holds r.store jobs ∧ ∀ e ∈ jobs, e.2.id ≠ id
  droppable : tables.Droppable r.store
  winner : ∃ (i : Nat) (d : Deletion), r.deletions[i]? = some d ∧ d.Drops tables r.store ∧
    ∀ (j : Nat) (e : Deletion), j ≠ i → r.deletions[j]? = some e → e.Loses id

theorem Unlisted.unregistered (h : Unlisted id tables r) : Batch.isRegistered r.store id = false :=
  have ⟨_, hholds, hid⟩ := h.gone
  hholds.unregistered hid

theorem store_batchTurn (h : Batch.isRegistered r.store id = false) (o : Occasion) :
    (r.batchTurn id o).store = r.store ∧ (r.batchTurn id o).deletions = r.deletions := by
  obtain ⟨s, statements, deletions⟩ := r
  cases statements with
  | nil => exact ⟨rfl, rfl⟩
  | cons statement rest =>
    have hstep : Batch.step? s o id statement = none := by
      unfold Batch.step?
      rw [h, if_neg Bool.false_ne_true]
    rw [batchTurn_of_none hstep]
    exact ⟨rfl, rfl⟩

theorem Unlisted.batchTurn (h : Unlisted id tables r) (o : Occasion) :
    Unlisted id tables (r.batchTurn id o) := by
  obtain ⟨hstore, hdeletions⟩ := store_batchTurn h.unregistered o
  obtain ⟨gone, droppable, winner⟩ := h
  constructor
  · rwa [hstore]
  · rwa [hstore]
  · rwa [hstore, hdeletions]

theorem loses_step {s : Store} {d : Deletion} (hd : d.Loses id) (h : Holds s jobs)
    (hid : ∀ e ∈ jobs, e.2.id ≠ id) : (d.step s id).1 = s ∧ (d.step s id).2.Loses id := by
  match d, hd with
  | .asked, _ =>
    rw [Deletion.step, Registry.get_of_absent h (Registry.find?_eq_none_of_filtered hid)]
    exact ⟨rfl, rfl⟩
  | .found job, _ =>
    rw [Deletion.step, h.deleteRow_absent hid]
    exact ⟨rfl, rfl⟩
  | .ended (.error fault), hd => exact ⟨rfl, hd⟩

theorem drops_step (id : Uuid) {s : Store} {d : Deletion} (hd : d.Drops tables s)
    (hs : tables.Separate) (hdroppable : tables.Droppable s) :
    (d.step s id).2.Drops tables (d.step s id).1 ∧ tables.Droppable (d.step s id).1 ∧
      (d.step s id).1.table? Sql.jobsTable = s.table? Sql.jobsTable := by
  have kept (name : String) (hn : sameName Sql.jobsTable name = false) :
      (s.dropQuietly name).table? Sql.jobsTable = s.table? Sql.jobsTable :=
    Store.table?_dropQuietly_other ((sameName_comm _ _).trans hn)
  have droppable (name : String) : tables.Droppable (s.dropQuietly name) :=
    ⟨fun hr => Store.table?_dropQuietly_of_none (hdroppable.scratch hr),
      fun hr => Store.table?_dropQuietly_of_none (hdroppable.result hr)⟩
  match d, hd with
  | .unlisted own, hd =>
    obtain rfl : own = tables := hd
    dsimp only [Deletion.step]
    refine ⟨?_, droppable _, kept _ hs.scratch⟩
    exact ⟨rfl, Store.table?_dropQuietly_self (sameName_self _) hdroppable.scratch⟩
  | .halfDropped own, ⟨hown, hscratch⟩ =>
    obtain rfl : own = tables := hown
    dsimp only [Deletion.step]
    refine ⟨?_, droppable _, kept _ hs.result⟩
    exact ⟨Store.table?_dropQuietly_of_none hscratch,
      Store.table?_dropQuietly_self (sameName_self _) hdroppable.result⟩
  | .ended (.ok ()), hd => exact ⟨hd, hdroppable, rfl⟩

theorem Unlisted.deletionTurn (h : Unlisted id tables r) (hs : tables.Separate) (index : Nat) :
    Unlisted id tables (r.deletionTurn id index) := by
  unfold Race.deletionTurn
  cases hd : r.deletions[index]? with
  | none => exact h
  | some d =>
    have hlength : index < r.deletions.length := (List.getElem?_eq_some_iff.1 hd).1
    have hset : (r.deletions.set index (d.step r.store id).2)[index]? =
        some (d.step r.store id).2 := List.getElem?_set_self hlength
    obtain ⟨jobs, hholds, hid⟩ := h.gone
    obtain ⟨i, w, hw, hdrops, hlosers⟩ := h.winner
    -- The one that removed the row goes on dropping tables, and any other finds no row.
    by_cases hi : index = i
    · subst hi
      obtain rfl : w = d := Option.some.inj (hw.symm.trans hd)
      obtain ⟨hdrops, hdroppable, hjobs⟩ := drops_step id hdrops hs h.droppable
      refine ⟨⟨jobs, hholds.congr hjobs, hid⟩, hdroppable, index, _, hset, hdrops, ?_⟩
      intro j e hj he
      rw [List.getElem?_set_ne (Ne.symm hj)] at he
      exact hlosers j e hj he
    · obtain ⟨hstore, hloses⟩ := loses_step (hlosers index d hi hd) hholds hid
      dsimp only
      rw [hstore]
      refine ⟨⟨jobs, hholds, hid⟩, h.droppable, i, w, ?_, hdrops, ?_⟩
      · rw [List.getElem?_set_ne hi]
        exact hw
      · intro j e hj he
        by_cases hij : index = j
        · subst hij
          obtain rfl := Option.some.inj (hset.symm.trans he)
          exact hloses
        · rw [List.getElem?_set_ne hij] at he
          exact hlosers j e hj he

theorem Unlisted.after (h : Unlisted id tables r) (hs : tables.Separate) (turn : Turn) :
    Unlisted id tables (r.after id turn) := by
  cases turn with
  | batch o => exact h.batchTurn o
  | deletion index => exact h.deletionTurn hs index

theorem Unlisted.afterAll (h : Unlisted id tables r) (hs : tables.Separate) (turns : List Turn) :
    Unlisted id tables (r.afterAll id turns) := by
  induction turns generalizing r with
  | nil => exact h
  | cons turn later ih => exact ih (h.after hs turn)

/-! ## The whole race -/

section Listed

variable {t : EntityType} {q : Sql.Selection} {p : Sql.Projection}

theorem Listed.get (h : Listed s₀ jobs id tables statements r) {e : Int × Job} (he : e ∈ jobs)
    (hid : e.2.id = id) : ∃ job, Registry.get r.store id = .ok job ∧ job.tables = e.2.tables := by
  obtain ⟨status, halong⟩ := h.along
  exact ⟨_, halong.get_eq he hid, rfl⟩

theorem Listed.registered (h : Listed s₀ jobs id tables statements r) {e : Int × Job}
    (he : e ∈ jobs) (hid : e.2.id = id) : Batch.isRegistered r.store id = true := by
  obtain ⟨status, halong⟩ := h.along
  rw [Registry.isRegistered_eq halong.holds, Batch.any_withStatus]
  exact List.any_eq_true.2 ⟨e, he, decide_eq_true hid⟩

theorem Listed.batchTurn
    (h : Listed s₀ jobs id tables ((Plan.ofSelection t tables q p).statements id) r)
    (hs : tables.Separate) {e : Int × Job} (he : e ∈ jobs) (hid : e.2.id = id) (o : Occasion) :
    Listed s₀ jobs id tables ((Plan.ofSelection t tables q p).statements id)
      (r.batchTurn id o) := by
  obtain ⟨s, statements, deletions⟩ := r
  cases statements with
  | nil => exact h
  | cons statement rest =>
    obtain ⟨hst, hrest⟩ := List.forall_mem_cons.1 h.issued
    cases hstep : Batch.step? s o id statement with
    | none =>
      rw [batchTurn_of_none hstep]
      exact ⟨h.along, h.droppable, fun _ hm => absurd hm List.not_mem_nil, h.waiting⟩
    | some s' =>
      rw [batchTurn_of_some hstep]
      obtain ⟨status, halong⟩ := h.along
      have hany : (jobs.any fun e => e.2.id = id) = true :=
        List.any_eq_true.2 ⟨e, he, decide_eq_true hid⟩
      rw [halong.step? hany] at hstep
      exact ⟨halong.statement hs hany hst hstep,
        Batch.droppable_statement halong hs hany h.droppable hst hstep, hrest, h.waiting⟩

theorem Listed.deletionTurn (h : Listed s₀ jobs id tables statements r) (hs : tables.Separate)
    {e : Int × Job} (he : e ∈ jobs) (hid : e.2.id = id) (htables : e.2.tables = tables)
    (index : Nat) :
    Listed s₀ jobs id tables statements (r.deletionTurn id index) ∨
      Unlisted id tables (r.deletionTurn id index) := by
  unfold Race.deletionTurn
  obtain ⟨job, hget, hjob⟩ := h.get he hid
  rw [htables] at hjob
  cases hd : r.deletions[index]? with
  | none => exact .inl h
  | some d =>
    match d, h.waiting d (List.mem_of_getElem? hd) with
    | .asked, _ =>
      left
      dsimp only [Deletion.step]
      rw [hget]
      refine ⟨h.along, h.droppable, h.issued, fun f hf => ?_⟩
      rcases List.mem_or_eq_of_mem_set hf with hf | rfl
      · exact h.waiting f hf
      · exact hjob
    | .found own, hown =>
      -- Here the row goes. All the others are still waiting, so this one is the only winner.
      right
      obtain rfl : own.tables = tables := hown
      obtain ⟨status, halong⟩ := h.along
      have hother {name : String} (hn : sameName Sql.jobsTable name = false)
          (jobs' : List (Int × Job)) :
          (r.store.replace Sql.jobsTable (Registry.holding jobs')).table? name =
            r.store.table? name := Store.table?_replace_other (sameName_self _) hn
      dsimp only [Deletion.step]
      rw [halong.holds.deleteRow hget]
      refine ⟨⟨_, halong.holds.filtered _, fun f hf => ?_⟩, ⟨fun hr => ?_, fun hr => ?_⟩, index, _,
        List.getElem?_set_self (List.getElem?_eq_some_iff.1 hd).1, rfl, fun j f hj hf => ?_⟩
      · simpa using (List.mem_filter.1 hf).2
      · exact (hother hs.scratch _).trans (h.droppable.scratch hr)
      · exact (hother hs.result _).trans (h.droppable.result hr)
      · rw [List.getElem?_set_ne (Ne.symm hj)] at hf
        match f, h.waiting f (List.mem_of_getElem? hf) with
        | .asked, _ => trivial
        | .found _, _ => trivial

theorem Listed.afterAll
    (h : Listed s₀ jobs id tables ((Plan.ofSelection t tables q p).statements id) r)
    (hs : tables.Separate) {e : Int × Job} (he : e ∈ jobs) (hid : e.2.id = id)
    (htables : e.2.tables = tables) (turns : List Turn) :
    Listed s₀ jobs id tables ((Plan.ofSelection t tables q p).statements id)
        (r.afterAll id turns) ∨ Unlisted id tables (r.afterAll id turns) := by
  -- The race stays listed until some deletion removes the row, and from there on it is unlisted.
  induction turns generalizing r with
  | nil => exact .inl h
  | cons turn later ih =>
    rw [afterAll_cons]
    cases turn with
    | batch o => exact ih (h.batchTurn hs he hid o)
    | deletion index =>
      rcases h.deletionTurn hs he hid htables index with h | h
      · exact ih h
      · exact .inr (h.afterAll hs later)

end Listed

theorem length_after (id : Uuid) (r : Race) (turn : Turn) :
    (r.after id turn).deletions.length = r.deletions.length := by
  cases turn with
  | batch o =>
    unfold after batchTurn
    dsimp only
    split
    · rfl
    · split <;> rfl
  | deletion index =>
    unfold after deletionTurn
    dsimp only
    split
    · rfl
    · exact List.length_set

theorem length_afterAll (id : Uuid) (r : Race) (turns : List Turn) :
    (r.afterAll id turns).deletions.length = r.deletions.length := by
  induction turns generalizing r with
  | nil => rfl
  | cons turn later ih => rw [afterAll_cons, ih, length_after]

def OneSucceeded (id : Uuid) (r : Race) : Prop :=
  ∃ i, r.deletions[i]? = some (.ended (.ok ())) ∧
    ∀ (j : Nat) (d : Deletion), j ≠ i → r.deletions[j]? = some d →
      d = .ended (.error (.notFound id))

/-- Once the row is gone, no statement of the batch changes anything. -/
def StopsWithRow (id : Uuid) (r : Race) (turns : List Turn) : Prop :=
  ∀ earlier between later o, turns = earlier ++ between ++ .batch o :: later →
    Batch.isRegistered (r.afterAll id earlier).store id = false →
    (r.afterAll id (earlier ++ between ++ [.batch o])).store =
      (r.afterAll id (earlier ++ between)).store

theorem Unlisted.cleared (h : Unlisted id tables r) (hended : r.HasEnded) :
    r.store.Cleared id tables ∧ r.OneSucceeded id := by
  obtain ⟨i, w, hw, hdrops, hlosers⟩ := h.winner
  match w, hended.deletions w (List.mem_of_getElem? hw), hdrops with
  | .ended (.ok ()), _, ⟨hscratch, hresult⟩ =>
    refine ⟨⟨h.unregistered, hscratch, hresult⟩, i, hw, fun j d hj hd => ?_⟩
    match d, hended.deletions d (List.mem_of_getElem? hd), hlosers j d hj hd with
    | .ended (.error fault), _, hfault => exact congrArg (fun f => Deletion.ended (.error f)) hfault

theorem Listed.not_hasEnded (h : Listed s₀ jobs id tables statements r)
    (hr : 0 < r.deletions.length) : ¬ r.HasEnded := by
  intro hended
  have hd := List.getElem_mem hr
  match r.deletions[0], h.waiting _ hd, hended.deletions _ hd with
  | .asked, _, hasked => exact Bool.noConfusion hasked
  | .found _, _, hfound => exact Bool.noConfusion hfound

theorem Listed.settles {t : EntityType} {q : Sql.Selection} {p : Sql.Projection}
    (h : Listed s₀ jobs id tables ((Plan.ofSelection t tables q p).statements id) r)
    (hs : tables.Separate) {e : Int × Job} (he : e ∈ jobs) (hid : e.2.id = id)
    (htables : e.2.tables = tables) (hr : 0 < r.deletions.length) (turns : List Turn)
    (hended : (r.afterAll id turns).HasEnded) :
    (r.afterAll id turns).store.Cleared id tables ∧ (r.afterAll id turns).OneSucceeded id ∧
      r.StopsWithRow id turns := by
  have hcleared : (r.afterAll id turns).store.Cleared id tables ∧
      (r.afterAll id turns).OneSucceeded id := by
    rcases h.afterAll hs he hid htables turns with hend | hend
    · exact absurd hended (hend.not_hasEnded (by rwa [length_afterAll]))
    · exact hend.cleared hended
  refine ⟨hcleared.1, hcleared.2, fun earlier between later o _ hgone => ?_⟩
  rcases h.afterAll hs he hid htables earlier with hearlier | hearlier
  · rw [hearlier.registered he hid] at hgone
    exact Bool.noConfusion hgone
  · rw [afterAll_append, afterAll_append]
    exact (store_batchTurn (hearlier.afterAll hs between).unregistered o).1

theorem listed_start {s : Store} (h : Holds s jobs) {e : Int × Job} (he : e ∈ jobs)
    (hscratch : s.table? tables.scratch = none) (hresult : s.table? tables.result = none)
    (statements : List Statement) (count : Nat) :
    Listed s jobs e.2.id tables statements (start s statements count) := by
  refine ⟨⟨_, Batch.along_start h he _⟩, ⟨fun _ => hscratch, fun _ => hresult⟩, fun _ hst => hst,
    fun d hd => ?_⟩
  rw [List.eq_of_mem_replicate hd]
  trivial

/-- Once the batch of a job and all its deletions have ended, the job is gone with its tables. One
deletion succeeded, the others found no job, and without the row the batch did nothing more. -/
theorem deletions_leave_nothing {schema : Schema} {typeName : String} {fields : List Field}
    {filters : List Filter} {suffix : String} {plan : Plan}
    (hc : Plan.compile schema typeName fields filters (.ofSuffix schema suffix) = .ok plan)
    {s : Store} (h : Holds s jobs) {job : Job} (hjob : Registry.get s id = .ok job)
    (htables : job.tables = plan.tables) (hscratch : s.table? plan.tables.scratch = none)
    (hresult : s.table? plan.tables.result = none) {count : Nat} (hcount : 0 < count)
    (turns : List Turn)
    (hended : ((start s (plan.statements id) count).afterAll id turns).HasEnded) :
    ((start s (plan.statements id) count).afterAll id turns).store.Cleared id plan.tables ∧
      ((start s (plan.statements id) count).afterAll id turns).OneSucceeded id ∧
      (start s (plan.statements id) count).StopsWithRow id turns := by
  obtain ⟨-, parts, -, rfl⟩ := Plan.compile_eq_ok.1 hc
  have hs : (JobTables.ofSuffix schema suffix).Separate := JobTables.separate_ofSuffix ..
  obtain ⟨e, he, rfl, rfl⟩ := (Registry.get_eq_ok h).1 hjob
  exact (listed_start h he hscratch hresult _ count).settles hs he rfl htables
    (by simpa [start] using hcount) turns hended

/-! ## Two deletions of one job -/

def idPlan : Plan :=
  let t := Schema.entityType ⟨"wp_"⟩ "post"
  .ofSelection t (.ofSuffix ⟨"wp_"⟩ "a1") (t.selection [])
    (t.projection (Schema.tagTables ⟨"wp_"⟩) (.ofSuffix ⟨"wp_"⟩ "a1") [⟨.fixed, "ID", ""⟩])

def newJob : Job :=
  ⟨Service.firstTicket.id, idPlan.tables, .started, 7, "post", Service.firstTicket.time, none⟩

def newStore : Store := ⟨[Registry.holding [(1, newJob)], Service.postTable]⟩

/-- Both deletions find the job after its scratch table was made, and the second removes the row. -/
def crossing : List Turn :=
  [.batch .quiet, .batch .quiet, .deletion 0, .deletion 1, .deletion 1, .batch .quiet, .deletion 0,
    .deletion 1, .deletion 1]

theorem deletions_leave_nothing_crossing :
    ((start newStore (idPlan.statements newJob.id) 2).afterAll newJob.id crossing).store.Cleared
        newJob.id idPlan.tables ∧
      ((start newStore (idPlan.statements newJob.id) 2).afterAll newJob.id crossing).OneSucceeded
        newJob.id := by
  have hholds : Holds newStore [(1, newJob)] :=
    ⟨rfl, List.pairwise_singleton .., List.pairwise_singleton .., by decide⟩
  have hjob : Registry.get newStore newJob.id = .ok newJob :=
    (Registry.get_eq_ok hholds).2 ⟨_, List.mem_singleton_self _, rfl, rfl⟩
  have hended : ((start newStore (idPlan.statements newJob.id) 2).afterAll newJob.id
      crossing).statements = [] ∧ ∀ d ∈ ((start newStore (idPlan.statements newJob.id) 2).afterAll
        newJob.id crossing).deletions, d.hasEnded = true := by
    decide +kernel
  have hc : Plan.compile ⟨"wp_"⟩ "post" [⟨.fixed, "ID", ""⟩] [] (.ofSuffix ⟨"wp_"⟩ "a1") =
      .ok idPlan := rfl
  obtain ⟨hcleared, hone, -⟩ := deletions_leave_nothing hc hholds hjob rfl (by decide) (by decide)
    (by decide : 0 < 2) crossing ⟨hended.1, hended.2⟩
  exact ⟨hcleared, hone⟩

end Race

end SheetExport
