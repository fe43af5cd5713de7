import SheetExport.Engine

/-! # Starts

A program asks for a start as often as it likes, each time with a configuration of its own and in
surroundings that may have changed. The first attempt that opens its database fills the cells. An
attempt before it leaves nothing behind, and an attempt after it changes nothing.
-/

namespace SheetExport

theorem Pool.eq_ofStore {around : Surroundings} {now : Instant} {config : Config} {pool : Pool}
    (h : Pool.ofConfig around now config = .ok pool) : pool = .ofStore config pool.store := by
  unfold Pool.ofConfig at h
  cases ho : Database.openUrl around.files now config.databaseUrl config.busyTimeoutMillis with
  | error fault =>
    rw [ho] at h
    cases h
  | ok store =>
    rw [ho] at h
    cases h
    rfl

namespace Cells

/-! ## One attempt -/

/-- A call that starts the engine, and what it finds. -/
structure Attempt where
  around : Surroundings
  now : Instant
  config : Config

namespace Attempt

/-- What the attempt opens. The cells have no part in it. -/
def pool (a : Attempt) : Except ServiceFault Pool := do
  a.config.validate
  Pool.ofConfig a.around a.now a.config

/-- The answer to the attempt if it were the only one. -/
def outcome (a : Attempt) : Except ServiceFault Unit := a.pool.map fun _ => ()

theorem error_of_ne {a : Attempt} (h : a.outcome ≠ .ok ()) :
    ∃ fault, a.pool = .error fault ∧ a.outcome = .error fault := by
  unfold outcome at h ⊢
  cases hp : a.pool with
  | error fault => exact ⟨fault, rfl, rfl⟩
  | ok pool =>
    rw [hp] at h
    exact absurd rfl h

theorem pool_eq {a : Attempt} {pool : Pool} (h : a.pool = .ok pool) :
    pool = .ofStore a.config pool.store := by
  unfold Attempt.pool at h
  cases hv : a.config.validate with
  | error fault =>
    rw [hv] at h
    cases h
  | ok u =>
    rw [hv] at h
    exact Pool.eq_ofStore h

end Attempt

def attempt (c : Cells) (a : Attempt) : Except ServiceFault Unit × Cells :=
  (start a.around a.now a.config).run.run c

/-- The cells that a start leaves, if it opens a pool. -/
def ofPool (config : Config) (pool : Pool) : Cells :=
  ⟨true, some pool, some (Engine.serviceOf config pool.store), some config⟩

theorem fill_eq (c : Cells) (a : Attempt) :
    (fill a.around a.now a.config).run.run c =
      match a.pool with
      | .error fault => (.error fault, c)
      | .ok pool => (.ok (), { ofPool a.config pool with started := c.started }) := by
  unfold fill Attempt.pool
  cases a.config.validate with
  | error fault => rfl
  | ok u =>
    cases Pool.ofConfig a.around a.now a.config with
    | error fault => rfl
    | ok pool => rfl

theorem attempt_of_idle {c : Cells} (h : c.started = false) (a : Attempt) :
    c.attempt a =
      match (fill a.around a.now a.config).run.run c with
      | (.ok (), c) => (.ok (), { c with started := true })
      | (.error fault, c) => (.error fault, c) := by
  have hget : (get : ExceptT ServiceFault (StateM Cells) Cells).run.run c = pure (.ok c, c) := rfl
  unfold attempt start
  simp only [ExceptT.run_bind, StateT.run_bind, hget, pure_bind, h, Bool.not_false, if_true]
  rcases (fill a.around a.now a.config).run.run c with ⟨fault | u, d⟩
  · rfl
  · rfl

/-! An attempt finds a started engine, opens nothing, or opens a pool. -/

theorem attempt_of_started {c : Cells} (h : c.started = true) (a : Attempt) :
    c.attempt a = (.ok (), c) := by
  obtain ⟨started, pool, service, config⟩ := c
  cases h
  rfl

theorem attempt_of_error {c : Cells} (h : c.started = false) {a : Attempt} {fault : ServiceFault}
    (ha : a.pool = .error fault) : c.attempt a = (.error fault, c) := by
  rw [attempt_of_idle h, fill_eq, ha]

theorem attempt_of_ok {c : Cells} (h : c.started = false) {a : Attempt} {pool : Pool}
    (ha : a.pool = .ok pool) : c.attempt a = (.ok (), ofPool a.config pool) := by
  rw [attempt_of_idle h, fill_eq, ha]
  rfl

/-- An attempt that finds empty cells answers as if it were the only one. -/
theorem attempt_fst_of_idle {c : Cells} (h : c.started = false) (a : Attempt) :
    (c.attempt a).1 = a.outcome := by
  cases hp : a.pool with
  | error fault => rw [attempt_of_error h hp, Attempt.outcome, hp]; rfl
  | ok pool => rw [attempt_of_ok h hp, Attempt.outcome, hp]; rfl

/-! ## Many attempts -/

/-- The answers to attempts, and the cells after them. -/
def attempts (c : Cells) : List Attempt → List (Except ServiceFault Unit) × Cells
  | [] => ([], c)
  | a :: rest =>
    let (answer, c) := c.attempt a
    let (answers, c) := c.attempts rest
    (answer :: answers, c)

theorem attempts_of_started {c : Cells} (h : c.started = true) (calls : List Attempt) :
    c.attempts calls = (calls.map fun _ => .ok (), c) := by
  induction calls with
  | nil => rfl
  | cons a rest ih =>
    simp only [attempts, attempt_of_started h, ih, List.map_cons]

theorem attempts_of_failed {c : Cells} (h : c.started = false) {calls : List Attempt}
    (hc : ∀ a ∈ calls, a.outcome ≠ .ok ()) :
    c.attempts calls = (calls.map Attempt.outcome, c) := by
  induction calls with
  | nil => rfl
  | cons a rest ih =>
    obtain ⟨fault, hp, ho⟩ := Attempt.error_of_ne (hc a List.mem_cons_self)
    have hrest := ih fun b hb => hc b (List.mem_cons_of_mem a hb)
    simp only [attempts, attempt_of_error h hp, hrest, List.map_cons, ho]

theorem attempts_append (c : Cells) (before later : List Attempt) :
    c.attempts (before ++ later) =
      ((c.attempts before).1 ++ ((c.attempts before).2.attempts later).1,
        ((c.attempts before).2.attempts later).2) := by
  induction before generalizing c with
  | nil => rfl
  | cons a rest ih => simp only [List.cons_append, attempts, ih]

theorem failed_or_first (calls : List Attempt) :
    (∀ a ∈ calls, a.outcome ≠ .ok ()) ∨
      ∃ before first later pool, calls = before ++ first :: later ∧
        (∀ a ∈ before, a.outcome ≠ .ok ()) ∧ first.pool = .ok pool := by
  induction calls with
  | nil => exact .inl (List.forall_mem_nil _)
  | cons a rest ih =>
    cases hp : a.pool with
    | ok pool => exact .inr ⟨[], a, rest, pool, rfl, List.forall_mem_nil _, hp⟩
    | error fault =>
      have ha : a.outcome ≠ .ok () := by
        rw [Attempt.outcome, hp]
        exact nofun
      obtain hall | ⟨before, first, later, pool, rfl, hbefore, hfirst⟩ := ih
      · exact .inl (List.forall_mem_cons.2 ⟨ha, hall⟩)
      · exact .inr ⟨a :: before, first, later, pool, rfl,
          List.forall_mem_cons.2 ⟨ha, hbefore⟩, hfirst⟩

/-! ## What the cells show -/

/-- Nothing can be got. -/
structure ShowNothing (c : Cells) : Prop where
  flag : c.started = false
  noPool : c.getPool = .error (.notInitialized "Database pool not initialized")
  noConfig : c.getConfig = .error (.notInitialized "Configuration not initialized")
  noService : c.getService = .error (.notInitialized "Export service not initialized")

/-- All parts can be got, and are those of one configuration and of the pool that it opened. -/
structure Show (c : Cells) (config : Config) (pool : Pool) : Prop where
  flag : c.started = true
  gotPool : c.getPool = .ok pool
  url : pool.url = config.databaseUrl
  connections : pool.maxConnections = config.maxConnections
  timeout : pool.busyTimeoutMillis = config.busyTimeoutMillis
  gotConfig : c.getConfig = .ok config
  gotService : ∃ s, c.getService = .ok s ∧ s.store = pool.store ∧
    s.schema.tablePrefix = config.tablePrefix ∧ s.batchSize = config.csvBatchSize ∧
    s.format = .standard ∧ s.cache = []

theorem empty_shows : ShowNothing empty := ⟨rfl, rfl, rfl, rfl⟩

theorem ofPool_shows {a : Attempt} {pool : Pool} (h : a.pool = .ok pool) :
    Show (ofPool a.config pool) a.config pool := by
  have hp := Attempt.pool_eq h
  exact {
    flag := rfl
    gotPool := rfl
    url := by rw [hp]; rfl
    connections := by rw [hp]; rfl
    timeout := by rw [hp]; rfl
    gotConfig := rfl
    gotService := ⟨_, rfl, rfl, rfl, rfl, rfl, rfl⟩ }

/-- Attempts in any number either all fail, and each as if it were alone, or the first that does
not fail sets everything up for good. -/
theorem first_start_counts (calls : List Attempt) :
    ((∀ a ∈ calls, a.outcome ≠ .ok ()) ∧
      (empty.attempts calls).1 = calls.map Attempt.outcome ∧
      ShowNothing (empty.attempts calls).2 ∧
      ∀ next : Attempt, ((empty.attempts calls).2.attempt next).1 = next.outcome) ∨
    ∃ before first later pool, calls = before ++ first :: later ∧
      (∀ a ∈ before, a.outcome ≠ .ok ()) ∧ first.pool = .ok pool ∧
      (empty.attempts calls).1 =
        before.map Attempt.outcome ++ .ok () :: later.map (fun _ => .ok ()) ∧
      Show (empty.attempts calls).2 first.config pool ∧
      ∀ next : Attempt,
        (empty.attempts calls).2.attempt next = (.ok (), (empty.attempts calls).2) := by
  obtain hall | ⟨before, first, later, pool, rfl, hbefore, hfirst⟩ := failed_or_first calls
  · left
    rw [attempts_of_failed rfl hall]
    exact ⟨hall, rfl, empty_shows, fun next => attempt_fst_of_idle rfl next⟩
  · right
    have hrun : empty.attempts (before ++ first :: later) =
        (before.map Attempt.outcome ++ .ok () :: later.map (fun _ => .ok ()),
          ofPool first.config pool) := by
      have hlater := attempts_of_started (ofPool_shows hfirst).flag later
      rw [attempts_append, attempts_of_failed rfl hbefore]
      simp only [attempts, attempt_of_ok empty_shows.flag hfirst, hlater]
    rw [hrun]
    exact ⟨before, first, later, pool, rfl, hbefore, hfirst, rfl, ofPool_shows hfirst,
      attempt_of_started rfl⟩

end Cells

/-! ## The engine

An engine has what its cells hold, so it answers as they do.
-/

namespace Engine

open Cells (Attempt)

/-- A start that fails leaves the engine as it was. -/
def attempt (e : Engine) (a : Attempt) : Except ServiceFault Unit × Engine :=
  match e.start a.around a.now a.config with
  | .ok started => (.ok (), started)
  | .error fault => (.error fault, e)

def attempts (e : Engine) : List Attempt → List (Except ServiceFault Unit) × Engine
  | [] => ([], e)
  | a :: rest =>
    let (answer, e) := e.attempt a
    let (answers, e) := e.attempts rest
    (answer :: answers, e)

theorem ofCells_cells (e : Engine) : ofCells e.cells = e := by
  obtain ⟨_ | r⟩ := e
  · rfl
  · rfl

theorem cells_ofPool {a : Attempt} {pool : Pool} (h : a.pool = .ok pool) :
    (ofCells (.ofPool a.config pool)).cells = .ofPool a.config pool := by
  rw [Attempt.pool_eq h]
  rfl

theorem attempt_cells (e : Engine) (a : Attempt) :
    (e.attempt a).1 = (e.cells.attempt a).1 ∧ (e.attempt a).2.cells = (e.cells.attempt a).2 := by
  have hstart : e.start a.around a.now a.config =
      (e.cells.attempt a).1.map fun () => ofCells (e.cells.attempt a).2 := rfl
  unfold attempt
  rw [hstart]
  cases hs : e.cells.started with
  | true =>
    rw [Cells.attempt_of_started hs]
    exact ⟨rfl, congrArg cells (ofCells_cells e)⟩
  | false =>
    cases hp : a.pool with
    | error fault =>
      rw [Cells.attempt_of_error hs hp]
      exact ⟨rfl, rfl⟩
    | ok pool =>
      rw [Cells.attempt_of_ok hs hp]
      exact ⟨rfl, cells_ofPool hp⟩

theorem attempts_cells (e : Engine) (calls : List Attempt) :
    (e.attempts calls).1 = (e.cells.attempts calls).1 ∧
      (e.attempts calls).2.cells = (e.cells.attempts calls).2 := by
  induction calls generalizing e with
  | nil => exact ⟨rfl, rfl⟩
  | cons a rest ih =>
    obtain ⟨hanswer, hcells⟩ := attempt_cells e a
    obtain ⟨hanswers, hlast⟩ := ih (e.attempt a).2
    rw [hcells] at hanswers hlast
    exact ⟨by simp only [attempts, Cells.attempts, hanswer, hanswers], hlast⟩

end Engine

end SheetExport
