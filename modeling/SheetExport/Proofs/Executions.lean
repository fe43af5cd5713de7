import SheetExport.Executor
import SheetExport.Proofs.BackingTables
import SheetExport.Proofs.Deletions
import SheetExport.Proofs.StoredJobs

/-!
# What batches leave

A statement that finds its job registered and is committed takes effect, and a batch goes on behind
it. Any other statement leaves the store as it found it and ends the batch. So a batch comes down
to its longest beginning that can be executed. The next batch starts as if the rest had never been
there, except behind a statement that the store refuses to commit: its transaction stays open, and
nothing is run on that connection again.
-/

namespace SheetExport

/-! ## Statements that remove their own job -/

namespace Batch

open Sql (Statement)

variable {s s' : Store} {o : Store.Occasion} {job : Uuid}

end Batch

namespace Executor

open Store (Connection Occasion Transaction)
open Sql (Statement)

section

variable {σ : Type} {effects : Effects σ} {s t : Store} {u : Transaction} {job : Uuid}
  {statement : σ} {done : List σ}

/-! ## One statement -/

/-- The statement finds its job registered, succeeds and is committed. -/
structure Succeeds (effects : Effects σ) (job : Uuid) (s : Store) (statement : σ) (t : Store) :
    Prop where
  registered : Batch.isRegistered s job = true
  effect : effects s statement = ⟨some ⟨t, false⟩, true⟩

/-- The statement finds its job registered and succeeds, but what it leaves cannot be committed. -/
structure Refused (effects : Effects σ) (job : Uuid) (s : Store) (statement : σ)
    (u : Transaction) : Prop where
  registered : Batch.isRegistered s job = true
  effect : effects s statement = ⟨some u, true⟩
  owes : u.owes = true

theorem Succeeds.unique {t' : Store} (h : Succeeds effects job s statement t)
    (h' : Succeeds effects job s statement t') : t = t' := by
  have he := h.effect.symm.trans h'.effect
  simpa using he

/-- Why a batch stops at a statement that finds the store like this. -/
def stopAt (s : Store) (job : Uuid) : Stop :=
  if rowCount? s job = some 0 then .jobGone else .failed

inductive Executes (effects : Effects σ) (job : Uuid) : Store → List σ → Store → Prop
  | nothing (s : Store) : Executes effects job s [] s
  | next {s t u : Store} {statement : σ} {rest : List σ} :
    Succeeds effects job s statement t → Executes effects job t rest u →
      Executes effects job s (statement :: rest) u

/-- A batch ends behind those of its statements that are `done`, and tells the number of the next
one if there is one. -/
structure Ends (effects : Effects σ) (job : Uuid) (number : Nat) (s : Store)
    (statements done : List σ) (s' : Store) (stop : Option (Nat × Stop)) : Prop where
  begins : done <+: statements
  executed : Executes effects job s done s'
  longest : ∀ more t, more <+: statements → Executes effects job s more t → more <+: done
  stop_eq : stop = statements[done.length]?.map fun _ => (number + done.length, stopAt s' job)

/-- What a batch that ends like this leaves open: the transaction of a refused statement. -/
def LeavesOpen (effects : Effects σ) (job : Uuid) (statements done : List σ) (s' : Store)
    (pending : Option Transaction) : Prop :=
  ∀ u, pending = some u ↔
    ∃ statement, statements[done.length]? = some statement ∧ Refused effects job s' statement u

/-- A batch that is not begun stops at its first statement. -/
def blockedStop (batch : QueuedBatch σ) : Option (Nat × Stop) :=
  batch.statements.head?.map fun _ => (1, .failed)

/-- Each batch starts where the one before it has ended, and none starts while a transaction is
open. -/
inductive EndsAll (effects : Effects σ) :
    Store → List (QueuedBatch σ) → Connection → List (Option (Nat × Stop)) → Prop
  | nothing (s : Store) : EndsAll effects s [] (.idle s) []
  | next {s t : Store} {batch : QueuedBatch σ} {rest : List (QueuedBatch σ)} {done : List σ}
    {c : Connection} {stop : Option (Nat × Stop)} {stops : List (Option (Nat × Stop))} :
    Ends effects batch.job 1 s batch.statements done t stop →
      LeavesOpen effects batch.job batch.statements done t none → EndsAll effects t rest c stops →
        EndsAll effects s (batch :: rest) c (stop :: stops)
  | blocked {s t : Store} {batch : QueuedBatch σ} {rest : List (QueuedBatch σ)} {done : List σ}
    {u : Transaction} {stop : Option (Nat × Stop)} :
    Ends effects batch.job 1 s batch.statements done t stop →
      LeavesOpen effects batch.job batch.statements done t (some u) →
        EndsAll effects s (batch :: rest) ⟨t, some u⟩ (stop :: rest.map blockedStop)

/-- No statement leaves anything that cannot be committed. -/
def Settles (effects : Effects σ) : Prop := ∀ job s statement u, ¬ Refused effects job s statement u

theorem EndsAll.idle (h : Settles effects) {batches : List (QueuedBatch σ)} {c : Connection}
    {stops : List (Option (Nat × Stop))} (hall : EndsAll effects s batches c stops) :
    c.pending = none := by
  induction hall with
  | nothing s => rfl
  | next _ _ _ ih => exact ih
  | blocked _ hopen =>
    obtain ⟨statement, -, hr⟩ := (hopen _).1 rfl
    exact absurd hr (h _ _ _ _)

end

/-! ## Statements of plans -/

variable {keys : List ForeignKey} {torn : Store → Statement → Option Transaction} {s t : Store}
  {o : Occasion} {job : Uuid} {statement : Statement}

end Executor

end SheetExport
