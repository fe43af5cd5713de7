import SheetExport.Proofs.ColumnNames
import SheetExport.Proofs.Deletions
import SheetExport.Proofs.ProvidedFields
import SheetExport.Proofs.SiteTables

/-!
# Which stage a batch stops at

The status of a job only moves forward, and where it stays tells what the store lacks: the columns
that the filters name, or those that the fields are taken from.
-/

namespace SheetExport

open Sql (Statement Join)
open Text (sameName)
open Registry (Holds withStatus)

/-- What the last status of a batch tells of its two queries. -/
structure Status.Tells (status : Status) (selectable projectable : Prop) : Prop where
  filtering : status = .filteringEntities ↔ ¬ selectable
  compiling : status = .compilingResults ↔ selectable ∧ ¬ projectable
  done : status = .done ↔ selectable ∧ projectable

/-! ## The way of a batch -/

namespace Batch

variable {s s' : Store} {o : Store.Occasion} {id : Uuid} {statement : Statement}
  {rest : List Statement}

/-- The stores that a batch passes through. -/
def passed (s : Store) (o : Store.Occasion) (id : Uuid) : List Statement → List Store
  | [] => [s]
  | statement :: rest =>
    match step? s o id statement with
    | some s' => s :: passed s' o id rest
    | none => [s]

def statusOf (id : Uuid) (s : Store) : Option Status :=
  match Registry.get s id with
  | .ok job => some job.status
  | .error _ => none

def shown (s : Store) (o : Store.Occasion) (id : Uuid) (statements : List Statement) :
    List (Option Status) :=
  (passed s o id statements).map (statusOf id)

theorem passed_cons_of_some (h : step? s o id statement = some s') :
    passed s o id (statement :: rest) = s :: passed s' o id rest := by
  rw [passed, h]

theorem passed_cons_of_none (h : step? s o id statement = none) :
    passed s o id (statement :: rest) = [s] := by
  rw [passed, h]

theorem getLast?_passed (statements : List Statement) :
    (passed s o id statements).getLast? = some (run s o id statements) := by
  induction statements generalizing s with
  | nil => rfl
  | cons statement rest ih =>
    cases h : step? s o id statement with
    | none => rw [passed_cons_of_none h, run_cons_of_none h, List.getLast?_singleton]
    | some s' => rw [passed_cons_of_some h, run_cons_of_some h, List.getLast?_cons, ih,
        Option.getD_some]

theorem shown_cons_of_some (h : step? s o id statement = some s') :
    shown s o id (statement :: rest) = statusOf id s :: shown s' o id rest := by
  rw [shown, passed_cons_of_some h, List.map_cons, shown]

theorem shown_cons_of_none (h : step? s o id statement = none) :
    shown s o id (statement :: rest) = [statusOf id s] := by
  rw [shown, passed_cons_of_none h, List.map_singleton]

end Batch

/-! ## Ids of selected rows -/

namespace Store

variable {s s' : Store} {now : Int} {t : EntityType} {tags : TagTables} {filters : List Filter}
  {parts : List (FieldKind × Fragment)}

theorem isSome_insertIds? (hl : Unnumbered t.entityTable)
    (hp : t.fragmentsFrom tags 0 filters = .ok parts) (hid : s.IntegerIds t) {scratch : String}
    (hs : s.table? scratch = some (idTable scratch)) :
    (s.insertIds? scratch (s.selected now (t.selection parts))).isSome = true := by
  have hinteger : ∀ v ∈ (s.selectedScopes now (t.selection parts)).map fun scope =>
      (operand scope t.idColumn).value, ∃ i, v = .integer i := by
    intro v hv
    obtain ⟨sc, hsc, rfl⟩ := List.mem_map.1 hv
    obtain ⟨b, hb, -, hshow, ht⟩ := entity_of_selected hl hp hsc
    rw [EntityType.idColumn, hshow]
    exact hid b.entry (List.mem_filter.2 ⟨entry_mem hb, ht⟩)
  obtain ⟨ids, he, hnodup, -⟩ := distinct_integers hinteger
  have hsel : s.selected now (t.selection parts) = ids.map .integer :=
    (selected_eq s now _).trans he
  obtain ⟨s', -, hins, -⟩ :=
    insertIds?_integers ids hs List.Pairwise.nil hnodup fun _ _ => List.not_mem_nil
  rw [hsel, hins]
  rfl

theorem isSome_table?_insertIds {name : String} {ids : List Value}
    (h : s.insertIds? name ids = some s') (hs : (s.table? name).isSome = true) :
    (s'.table? name).isSome = true := by
  refine insertIds?_induction (motive := fun mid => (mid.table? name).isSome = true)
    (fun mid u hsome hname _ => ?_) h hs
  obtain ⟨t, ht⟩ := Option.isSome_iff_exists.1 hsome
  rw [table?_replace_self ht hname]
  rfl

end Store

/-! ## Following a batch -/

namespace Batch

variable {s s' s₀ : Store} {o : Store.Occasion} {jobs : List (Int × Job)} {id : Uuid}
  {tables : JobTables} {status : Status} {t : EntityType} {q : Sql.Selection} {p : Sql.Projection}

theorem Along.statusOf (h : Along s₀ jobs id tables s status)
    (hid : (jobs.any fun e => e.2.id = id) = true) : statusOf id s = some status := by
  obtain ⟨e, he, hide⟩ := List.any_eq_true.1 hid
  unfold Batch.statusOf
  rw [h.get_eq he (of_decide_eq_true hide)]

def upTo (status : Status) : List (Option Status) := (Status.all.take (status.rank + 1)).map some

theorem Along.stage (h : Along s₀ jobs id tables s status) (hs : tables.Separate)
    (hid : (jobs.any fun e => e.2.id = id) = true) (next : Status) (statement : Statement)
    (rest : List Statement) :
    ∃ s₁, Along s₀ jobs id tables s₁ next ∧ s₁.table? tables.scratch = s.table? tables.scratch ∧
      s₁.table? tables.result = s.table? tables.result ∧
      (s₁.run? o statement = none ∧ run s o id (.setStatus id next :: statement :: rest) = s₁ ∧
          shown s o id (.setStatus id next :: statement :: rest) = [some status, some next] ∨
        ∃ s₂, s₁.run? o statement = some s₂ ∧
          run s o id (.setStatus id next :: statement :: rest) = run s₂ o id rest ∧
          shown s o id (.setStatus id next :: statement :: rest) =
            some status :: some next :: shown s₂ o id rest) := by
  obtain ⟨s₁, hstep₁, h₁, hs₁, hr₁⟩ := h.reach hs hid next
  refine ⟨s₁, h₁, hs₁, hr₁, ?_⟩
  rw [run_cons_of_some hstep₁, shown_cons_of_some hstep₁, h.statusOf hid]
  have hstep₂ := h₁.step? (o := o) hid statement
  cases hrun : s₁.run? o statement with
  | none =>
    rw [hrun] at hstep₂
    refine .inl ⟨rfl, run_cons_of_none hstep₂ _, ?_⟩
    rw [shown_cons_of_none hstep₂, h₁.statusOf hid]
  | some s₂ =>
    rw [hrun] at hstep₂
    refine .inr ⟨s₂, rfl, run_cons_of_some hstep₂ _, ?_⟩
    rw [shown_cons_of_some hstep₂, h₁.statusOf hid]

theorem Along.shown_finish (h : Along s₀ jobs id tables s status) (hs : tables.Separate)
    (hid : (jobs.any fun e => e.2.id = id) = true) (hopen : Store.isReserved tables.scratch = false)
    (hplain : Plain tables.scratch) :
    shown s o id [.setStatus id .cleaningUp, .dropTable tables.scratch, .setStatus id .done] =
      [some status, some .cleaningUp, some .cleaningUp, some .done] := by
  obtain ⟨s₁, h₁, -, -, hstage⟩ := h.stage (o := o) hs hid .cleaningUp
    (.dropTable tables.scratch) [.setStatus id .done]
  obtain ⟨s₂, hdrop, h₂, -⟩ := h₁.dropTable (o := o) hs hopen hplain
  obtain ⟨s₃, hstep₃, h₃, -⟩ := h₂.reach (o := o) hs hid .done
  rcases hstage with ⟨hnone, -⟩ | ⟨_, hsome, -, hshown⟩
  · rw [hdrop] at hnone
    exact absurd hnone (by simp)
  · obtain rfl := Option.some.inj (hdrop.symm.trans hsome)
    have hend : shown s₃ o id [] = [some .done] := congrArg ([·]) (h₃.statusOf hid)
    rw [hshown, shown_cons_of_some hstep₃, h₂.statusOf hid, hend]

/-- Once the ids are there, the result is made and the batch is done, or there is no result and the
batch stays where it is. -/
theorem Along.results (h : Along s₀ jobs id tables s .filteringEntities) (hs : tables.Separate)
    (hid : (jobs.any fun e => e.2.id = id) = true) (hopen : Store.isReserved tables.scratch = false)
    (hplain : Plain tables.scratch) (hscratch : (s.table? tables.scratch).isSome = true)
    (hresult : s.table? tables.result = none) {rest : List Statement}
    (hrest : rest = [.setStatus id .compilingResults, .createResult tables.result p,
      .setStatus id .cleaningUp, .dropTable tables.scratch, .setStatus id .done]) :
    ∃ s₁ status, Along s₀ jobs id tables s₁ .compilingResults ∧
      (s₁.table? tables.scratch).isSome = true ∧ s₁.table? tables.result = none ∧
      Along s₀ jobs id tables (run s o id rest) status ∧
      (s₁.run? o (.createResult tables.result p) = none ∧ status = .compilingResults ∧
          shown s o id rest = [some .filteringEntities, some .compilingResults] ∨
        (s₁.run? o (.createResult tables.result p)).isSome = true ∧ status = .done ∧
          shown s o id rest = [some .filteringEntities, some .compilingResults,
            some .compilingResults, some .cleaningUp, some .cleaningUp, some .done]) := by
  subst hrest
  obtain ⟨s₁, h₁, hs₁, hr₁, hstage⟩ :=
    h.stage hs hid .compilingResults (.createResult tables.result p) _
  refine ⟨s₁, ?_⟩
  rcases hstage with ⟨hnone, hrun, hshown⟩ | ⟨s₂, hprojected, hrun, hshown⟩
  · rw [hrun, hshown]
    exact ⟨_, h₁, hs₁ ▸ hscratch, hr₁.trans hresult, h₁, .inl ⟨hnone, rfl, rfl⟩⟩
  · obtain ⟨h₂, hsome, hropen⟩ := h₁.createResult hs hprojected
    rw [hrun, hshown, h₂.shown_finish hs hid hopen hplain, hprojected]
    exact ⟨_, h₁, hs₁ ▸ hscratch, hr₁.trans hresult,
      (h₂.finishes hs hid hopen hplain hsome hropen).toAlong, .inr ⟨rfl, rfl, rfl⟩⟩

/-- A batch shows a first part of the statuses, each in its turn. Where it stops is told by which
of its statements can run when they come. -/
theorem run_stages (h : Along s₀ jobs id tables s .started) (hs : tables.Separate)
    (hid : (jobs.any fun e => e.2.id = id) = true)
    (hscratch : s.table? tables.scratch = none) (hresult : s.table? tables.result = none) :
    ∃ status, Along s₀ jobs id tables
        (run s o id ((Plan.ofSelection t tables q p).statements id)) status ∧
      (shown s o id ((Plan.ofSelection t tables q p).statements id)).eraseReps = upTo status ∧
      ∀ selectable projectable : Prop,
        (∀ s : Store, s.table? tables.scratch = none →
          (s.run? o (.createIds tables.scratch)).isSome = true) →
        (∀ s, Along s₀ jobs id tables s .filteringEntities →
          s.table? tables.scratch = some (Store.idTable tables.scratch) →
          ((s.run? o (.insertIds tables.scratch q)).isSome = true ↔ selectable)) →
        (∀ s, Along s₀ jobs id tables s .compilingResults → selectable →
          (s.table? tables.scratch).isSome = true → s.table? tables.result = none →
          ((s.run? o (.createResult tables.result p)).isSome = true ↔ projectable)) →
        status.Tells selectable projectable := by
  have hst : (Plan.ofSelection t tables q p).statements id =
      [.setStatus id .preparingScratch, .createIds tables.scratch,
        .setStatus id .filteringEntities, .insertIds tables.scratch q,
        .setStatus id .compilingResults, .createResult tables.result p,
        .setStatus id .cleaningUp, .dropTable tables.scratch, .setStatus id .done] := rfl
  rw [hst]
  -- Each stage begins where the one before it went on, with what that one left of the two tables.
  obtain ⟨s₁, h₁, hs₁, hr₁, ⟨hnone, hrun, hshown⟩ | ⟨s₂, hcreated, hrun, hshown⟩⟩ :=
    h.stage hs hid .preparingScratch (.createIds tables.scratch) _
  · rw [hrun, hshown]
    refine ⟨_, h₁, rfl, fun _ _ hcreate _ _ => ?_⟩
    have hcan := hcreate s₁ (hs₁.trans hscratch)
    rw [hnone] at hcan
    exact absurd hcan (by simp)
  rw [hrun, hshown]
  obtain ⟨h₂, hr₂, hopen, hplain⟩ := h₁.createIds hs hcreated
  have hs₂ : s₂.table? tables.scratch = some (Store.idTable tables.scratch) :=
    Store.table?_create_self (run?_createIds hcreated) (sameName_self _)
  obtain ⟨s₃, h₃, hs₃, hr₃, ⟨hnone, hrun, hshown⟩ | ⟨s₄, hinserted, hrun, hshown⟩⟩ :=
    h₂.stage hs hid .filteringEntities (.insertIds tables.scratch q) _
  · rw [hrun, hshown]
    refine ⟨_, h₃, rfl, fun selectable _ _ hinsert _ => ?_⟩
    have hnot : ¬ selectable := by
      rw [← hinsert s₃ h₃ (hs₃.trans hs₂), hnone]
      simp
    constructor <;> simp [hnot]
  rw [hrun, hshown]
  obtain ⟨h₄, hr₄⟩ := h₃.insertIds hs hinserted
  have hs₄ : (s₄.table? tables.scratch).isSome = true := by
    refine Store.isSome_table?_insertIds (run?_insertIds hinserted) ?_
    rw [hs₃, hs₂]
    rfl
  have hselectable {selectable : Prop} (hinsert : ∀ s,
      Along s₀ jobs id tables s .filteringEntities →
      s.table? tables.scratch = some (Store.idTable tables.scratch) →
      ((s.run? o (.insertIds tables.scratch q)).isSome = true ↔ selectable)) : selectable :=
    (hinsert s₃ h₃ (hs₃.trans hs₂)).1 (by rw [hinserted]; rfl)
  obtain ⟨s₅, status, h₅, hscratch₅, hresult₅, hend, houtcome⟩ :=
    h₄.results hs hid hopen hplain hs₄ (by rw [hr₄, hr₃, hr₂, hr₁, hresult]) rfl
  refine ⟨status, hend, ?_, fun selectable projectable _ hinsert hproject => ?_⟩
  · rcases houtcome with ⟨-, rfl, hshown⟩ | ⟨-, rfl, hshown⟩
    · rw [hshown]
      rfl
    · rw [hshown]
      rfl
  · have hyes := hselectable hinsert
    have hiff := hproject s₅ h₅ hyes hscratch₅ hresult₅
    rcases houtcome with ⟨hnone, rfl, -⟩ | ⟨hsome, rfl, -⟩
    · have hnot : ¬ projectable := by
        rw [← hiff, hnone]
        simp
      constructor <;> simp [hyes, hnot]
    · have hboth : projectable := hiff.1 hsome
      constructor <;> simp [hyes, hboth]

end Batch

end SheetExport
