import SheetExport.Proofs.Reads

/-!
# What statements write and read

A statement changes one table and reads those that its query names. So it does the same in a store
from which other tables are left out, and so does a batch.
-/

namespace SheetExport

open Store (Table Occasion)
open Sql (Statement)
open Text (sameName)

/-! ## Tables that are written -/

namespace Sql.Statement

/-- The table that a statement writes. -/
def written : Statement → String
  | createIds table | insertIds table _ | createResult table _ | dropTable table => table
  | setStatus _ _ | deleteJob _ => jobsTable

/-- The tables that a statement queries. -/
def queried : Statement → List String
  | insertIds _ selection => selection.tables
  | createResult _ projection => projection.tables
  | createIds _ | dropTable _ | setStatus _ _ | deleteJob _ => []

end Sql.Statement

namespace Store

variable {s s' : Store} {o : Occasion} {name : String}

theorem name_update? {t u : Table} {given changes : List (String × Value)} {n : Nat}
    (h : t.update? given changes = some (u, n)) : u.name = t.name := by
  unfold Table.update? at h
  split at h
  · exact absurd h (by simp)
  · obtain ⟨places, -, h⟩ := Option.bind_eq_some_iff.1 h
    obtain ⟨rows, -, h⟩ := Option.bind_eq_some_iff.1 h
    split at h
    · exact (congrArg (fun p => p.1.name) (Option.some.inj h)).symm
    · exact absurd h (by simp)

theorem table?_change?_other {α : Type} {f : Table → Option (Table × α)} {a : α} {other : String}
    (h : s.change? name f = some (s', a)) (hf : ∀ t u a, f t = some (u, a) → u.name = t.name)
    (ho : sameName name other = false) : s'.table? other = s.table? other := by
  obtain ⟨t, u, ht, hu, rfl⟩ := change?_eq_some.1 h
  refine table?_replace_other ?_ ho
  rw [hf t u a hu]
  exact name_of_table? ht

theorem table?_insert?_other {values : List (String × Value)} {other : String}
    (h : s.insert? name values = some s') (ho : sameName name other = false) :
    s'.table? other = s.table? other := by
  obtain ⟨⟨_, ⟨⟩⟩, hchange, rfl⟩ := Option.map_eq_some_iff.1 h
  refine table?_change?_other hchange (fun t u _ hu => ?_) ho
  obtain ⟨v, hv, he⟩ := Option.map_eq_some_iff.1 hu
  obtain rfl : v = u := congrArg Prod.fst he
  exact name_insert? hv

theorem table?_update?_other {given changes : List (String × Value)} {n : Nat} {other : String}
    (h : s.update? name given changes = some (s', n)) (ho : sameName name other = false) :
    s'.table? other = s.table? other :=
  table?_change?_other h (fun _ _ _ => name_update?) ho

theorem table?_run?_other {statement : Statement} (h : s.run? o statement = some s')
    (hn : sameName statement.written name = false) : s'.table? name = s.table? name := by
  unfold run? at h
  split at h
  · exact absurd h (by simp)
  · cases statement with
    | createIds table => exact table?_create_other h hn
    | insertIds table q =>
      dsimp only at h
      split at h
      · exact table?_insertIds_other hn h
      · exact absurd h (by simp)
    | createResult table p =>
      dsimp only at h
      split at h
      · exact table?_create_other h hn
      · exact absurd h (by simp)
    | dropTable table =>
      change s.drop? table = some s' at h
      unfold drop? at h
      split at h
      · exact absurd h (by simp)
      · rw [← Option.some.inj h]
        exact table?_without_other hn
    | setStatus job status =>
      obtain ⟨⟨_, n⟩, hu, rfl⟩ := Option.map_eq_some_iff.1 h
      exact table?_update?_other hu hn
    | deleteJob job =>
      obtain ⟨⟨_, n⟩, hr, rfl⟩ := Option.map_eq_some_iff.1 h
      refine table?_change?_other hr (fun t u _ hremove => ?_) hn
      exact (congrArg (fun p => p.1.name) (Option.some.inj hremove)).symm

/-! ## Stores with some of their tables -/

variable {kept : String → Bool} {t : Table}

theorem agree_keeping (hk : Uncased kept) {names : List String}
    (h : ∀ name ∈ names, kept name = true) : s.Agree (s.keeping kept) names :=
  fun name hm => table?_keeping hk (h name hm)

theorem create?_keeping (hk : Uncased kept) (h : kept t.name = true) :
    (s.keeping kept).create? t = (s.create? t).map (·.keeping kept) := by
  unfold create?
  rw [table?_keeping hk h]
  split
  · rfl
  · rw [Option.map_some, keeping_append_other h]

theorem change?_keeping {α : Type} {f : Table → Option (Table × α)} (hk : Uncased kept)
    (h : kept name = true) (hf : ∀ t u a, f t = some (u, a) → u.name = t.name) :
    (s.keeping kept).change? name f = (s.change? name f).map fun (s', a) =>
      (s'.keeping kept, a) := by
  unfold change?
  rw [table?_keeping hk h]
  cases ht : s.table? name with
  | none => rfl
  | some t =>
    cases hu : f t with
    | none => simp [hu]
    | some p =>
      have hname : sameName p.1.name name = true := by
        rw [hf t p.1 p.2 hu]
        exact name_of_table? ht
      simp [hu, keeping_replace_other hk hname h]

theorem insert?_keeping (hk : Uncased kept) (h : kept name = true)
    (cells : List (String × Value)) :
    (s.keeping kept).insert? name cells = (s.insert? name cells).map (·.keeping kept) := by
  unfold insert?
  rw [change?_keeping hk h fun t u _ hu => ?_]
  · rw [Option.map_map, Option.map_map]
    rfl
  · obtain ⟨v, hv, he⟩ := Option.map_eq_some_iff.1 hu
    obtain rfl : v = u := congrArg Prod.fst he
    exact name_insert? hv

theorem update?_keeping (hk : Uncased kept) (h : kept name = true)
    (given changes : List (String × Value)) : (s.keeping kept).update? name given changes =
      (s.update? name given changes).map fun (s', n) => (s'.keeping kept, n) :=
  change?_keeping hk h fun _ _ _ => name_update?

theorem remove?_keeping (hk : Uncased kept) (h : kept name = true)
    (given : List (String × Value)) : (s.keeping kept).remove? name given =
      (s.remove? name given).map fun (s', n) => (s'.keeping kept, n) :=
  change?_keeping hk h fun _ _ _ hu => (congrArg (fun x => x.1.name) (Option.some.inj hu)).symm

theorem insertIds?_keeping (hk : Uncased kept) (h : kept name = true) (ids : List Value) :
    (s.keeping kept).insertIds? name ids = (s.insertIds? name ids).map (·.keeping kept) := by
  unfold insertIds?
  induction ids generalizing s with
  | nil => rfl
  | cons v ids ih =>
    rw [List.foldlM_cons, List.foldlM_cons, insert?_keeping hk h]
    cases s.insert? name [("id", v)] with
    | none => rfl
    | some s' => exact ih

theorem drop?_keeping (name : String) :
    (s.keeping kept).drop? name = (s.drop? name).map (·.keeping kept) := by
  unfold drop?
  split
  · rfl
  · rw [Option.map_some, keeping_without_comm]

theorem dropQuietly_keeping (name : String) :
    (s.keeping kept).dropQuietly name = (s.dropQuietly name).keeping kept := by
  unfold dropQuietly
  rw [drop?_keeping]
  cases s.drop? name <;> rfl

theorem run?_keeping (hk : Uncased kept) {statement : Statement}
    (hw : kept statement.written = true) (hq : ∀ name ∈ statement.queried, kept name = true) :
    (s.keeping kept).run? o statement = (s.run? o statement).map (·.keeping kept) := by
  have hagree := agree_keeping (s := s) hk hq
  unfold run?
  split
  · rfl
  · cases statement with
    | createIds table => exact create?_keeping (t := idTable table) hk hw
    | insertIds table q =>
      dsimp only
      rw [selectionRuns_congr hagree, selected_congr hagree]
      split
      · exact insertIds?_keeping hk hw _
      · rfl
    | createResult table p =>
      dsimp only
      rw [projectionRuns_congr hagree, resultTable_congr hagree]
      split
      · exact create?_keeping (t := s.resultTable o table p) hk hw
      · rfl
    | dropTable table => exact drop?_keeping table
    | setStatus job status =>
      have hjobs : kept Sql.jobsTable = true := hw
      dsimp only
      rw [update?_keeping hk hjobs, Option.map_map, Option.map_map]
      rfl
    | deleteJob job =>
      have hjobs : kept Sql.jobsTable = true := hw
      dsimp only
      rw [remove?_keeping hk hjobs, Option.map_map, Option.map_map]
      rfl

end Store

/-! ## Batches -/

namespace Batch

variable {s : Store} {o : Occasion} {id : Uuid} {kept : String → Bool}

/-- What every statement keeps that can run is kept by a batch, wherever it stops. -/
theorem run_induction {motive : Store → Prop} {statements : List Statement}
    (step : ∀ statement ∈ statements, ∀ s s', s.run? o statement = some s' → motive s → motive s')
    (h : motive s) : motive (run s o id statements) := by
  induction statements generalizing s with
  | nil => exact h
  | cons statement rest ih =>
    obtain ⟨hfirst, hrest⟩ := List.forall_mem_cons.1 step
    cases hs : step? s o id statement with
    | none =>
      rw [run_cons_of_none hs]
      exact h
    | some s' =>
      have hrun : s.run? o statement = some s' := by
        unfold step? at hs
        split at hs
        · exact hs
        · exact absurd hs (by simp)
      rw [run_cons_of_some hs]
      exact ih hrest (hfirst s s' hrun h)

theorem isRegistered_keeping (hk : Store.Uncased kept) (h : kept Sql.jobsTable = true) :
    isRegistered (s.keeping kept) id = isRegistered s id := by
  unfold isRegistered Store.rowsWith?
  rw [Store.table?_keeping hk h]

theorem run_keeping (hk : Store.Uncased kept) (h : kept Sql.jobsTable = true)
    {statements : List Statement} (hst : ∀ statement ∈ statements,
      kept statement.written = true ∧ ∀ name ∈ statement.queried, kept name = true) :
    run (s.keeping kept) o id statements = (run s o id statements).keeping kept := by
  induction statements generalizing s with
  | nil => rfl
  | cons statement rest ih =>
    obtain ⟨⟨hw, hq⟩, hrest⟩ := List.forall_mem_cons.1 hst
    have hstep : step? (s.keeping kept) o id statement =
        (step? s o id statement).map (·.keeping kept) := by
      unfold step?
      rw [isRegistered_keeping hk h, Store.run?_keeping hk hw hq]
      split <;> rfl
    cases hs : step? s o id statement with
    | none =>
      rw [hs, Option.map_none] at hstep
      rw [run_cons_of_none hs, run_cons_of_none hstep]
    | some s' =>
      rw [hs, Option.map_some] at hstep
      rw [run_cons_of_some hs, run_cons_of_some hstep, ih hrest]

end Batch

/-! ## Statements without NUL -/

namespace Store

/-- What a statement does whose text can be written. -/
def perform? (s : Store) (o : Occasion) : Statement → Option Store
  | .createIds table => s.create? (idTable table)
  | .insertIds table selection =>
    if s.selectionRuns o selection then s.insertIds? table (s.selected o.now selection) else none
  | .createResult table projection =>
    if s.projectionRuns projection then s.create? (s.resultTable o table projection) else none
  | .dropTable table => s.drop? table
  | .setStatus job status =>
    (s.update? Sql.jobsTable [("id", .text job.text)] [("status_step", .text status.text)]).map
      Prod.fst
  | .deleteJob job => (s.remove? Sql.jobsTable [("id", .text job.text)]).map Prod.fst

theorem run?_of_plain {s : Store} {o : Occasion} {statement : Statement}
    (h : Plain statement.render) : s.run? o statement = s.perform? o statement := by
  unfold run?
  rw [isWritten_iff.2 h]
  cases statement <;> rfl

end Store

namespace Batch

/-- A batch whose texts can all be written. -/
def performAll (s : Store) (o : Occasion) (id : Uuid) : List Statement → Store
  | [] => s
  | statement :: rest =>
    match if isRegistered s id then s.perform? o statement else none with
    | some s => performAll s o id rest
    | none => s

theorem run_of_plain {s : Store} {o : Occasion} {id : Uuid} {statements : List Statement}
    (h : ∀ statement ∈ statements, Plain statement.render) :
    run s o id statements = performAll s o id statements := by
  induction statements generalizing s with
  | nil => rfl
  | cons statement rest ih =>
    obtain ⟨hfirst, hrest⟩ := List.forall_mem_cons.1 h
    rw [run, performAll, step?, Store.run?_of_plain hfirst]
    cases if isRegistered s id then s.perform? o statement else none with
    | none => rfl
    | some s' => exact ih hrest

end Batch

theorem Plan.plain_statements {t : EntityType} {tags : TagTables} {tables : JobTables}
    (h : t.PlainNames tags tables) (hr : Plain tables.result) (hsub : ∀ v ∈ t.subtype, Plain v)
    {fields : List Field} (hf : ∀ f ∈ fields, Plain f.name ∧ Plain f.label)
    {parts : List (FieldKind × Fragment)} (hp : ∀ part ∈ parts, Plain part.2.render) (id : Uuid) :
    ∀ statement ∈ (ofSelection t tables (t.selection parts)
      (t.projection tags tables fields)).statements id, Plain statement.render := by
  intro statement hst
  obtain ⟨status, rfl⟩ | rfl | rfl | rfl | rfl := statement_cases hst
  · exact Batch.plain_setStatus id status
  · exact plain_append.2 ⟨plain_append.2 ⟨by decide, Sql.plain_name.2 h.scratch⟩, by decide⟩
  · exact EntityType.plain_insertIds h hsub hp
  · exact EntityType.plain_createResult h hr hf
  · exact plain_append.2 ⟨by decide, Sql.plain_name.2 h.scratch⟩

theorem exists_of_map_eq_ok {ε α β : Type} {x : Except ε α} {f : α → β} {b : β}
    (h : x.map f = .ok b) : ∃ a, x = .ok a ∧ f a = b := by
  cases x with
  | error fault => exact absurd h (by simp [Except.map])
  | ok a => exact ⟨a, rfl, Except.ok.inj h⟩

theorem Service.submit_of_plain {s : Service} {ticket : Ticket} {r : Request} {e : Export}
    {plan : Plan} (hv : r.validate = .ok e) (hc : s.compile ticket e = .ok plan)
    (hp : ∀ statement ∈ plan.statements ticket.id, Plain statement.render) (owner : Int) :
    s.submit ticket r owner = match Registry.create s.store (jobOf plan ticket owner) with
      | .error fault => (s, .error fault)
      | .ok store =>
        ({ s with
            store := Batch.performAll store ticket.occasion ticket.id (plan.statements ticket.id) },
          .ok ticket.id) := by
  have hrun (store : Store) :
      Batch.run store ticket.occasion ticket.id (plan.statements ticket.id) =
        Batch.performAll store ticket.occasion ticket.id (plan.statements ticket.id) :=
    Batch.run_of_plain hp
  rw [submit, hv]
  dsimp only
  rw [submitExport, hc]
  dsimp only
  cases Registry.create s.store (jobOf plan ticket owner) with
  | error fault => rfl
  | ok store =>
    dsimp only
    rw [hrun]

end SheetExport
