import SheetExport.Proofs.Instants
import SheetExport.Proofs.Tables
import SheetExport.Proofs.Uuids
import SheetExport.Proofs.Values
import SheetExport.Registry

/-!
# Jobs as rows

The registry keeps each job as one row. A row holds everything of its job, rows stand in the order
of their numbers, and only the row of a job has the text of its id.
-/

namespace SheetExport

open Store (Table Row Column)

/-! ## Rows in the order of their numbers -/

namespace Store.Table

theorem lt_nextNumber {t : Table} {row : Row} (h : row ∈ t.rows) : row.number < t.nextNumber := by
  unfold nextNumber
  have hmem := List.mem_map_of_mem (f := Row.number) h
  cases hm : (t.rows.map Row.number).max? with
  | none =>
    rw [List.max?_eq_none_iff] at hm
    rw [hm] at hmem
    exact absurd hmem List.not_mem_nil
  | some n =>
    have := (List.max?_eq_some_iff.1 hm).2 _ hmem
    dsimp only
    omega

theorem place_last {count : Nat} {row : Row} {rows : List Row}
    (h : ∀ r ∈ rows, r.number < row.number) :
    place (.unique count) row rows = rows ++ [row] := by
  induction rows with
  | nil => rfl
  | cons r rows ih =>
    obtain ⟨hr, hrows⟩ := List.forall_mem_cons.1 h
    have hb : row.before (.unique count) r = false := by
      simp only [Row.before, decide_eq_false_iff_not]
      omega
    simp only [place, hb, Bool.false_eq_true, if_false, ih hrows, List.cons_append]

theorem placeAll_ascending {count : Nat} (rows : List Row)
    (h : rows.Pairwise (·.number < ·.number)) : placeAll (.unique count) rows = rows := by
  have fold : ∀ (rows placed : List Row), (placed ++ rows).Pairwise (·.number < ·.number) →
      rows.foldl (fun placed row => place (.unique count) row placed) placed = placed ++ rows := by
    intro rows
    induction rows with
    | nil => exact fun placed _ => (List.append_nil placed).symm
    | cons row rows ih =>
      intro placed hp
      have hlast : ∀ r ∈ placed, r.number < row.number :=
        fun r hr => (List.pairwise_append.1 hp).2.2 r hr row List.mem_cons_self
      rw [List.foldl_cons, place_last hlast, ih (placed ++ [row]) (by simpa using hp)]
      simp
  exact fold rows [] h

end Store.Table

/-! ## Texts in columns -/

theorem order_text (a b : String) :
    (Value.text a).order (.text b) = some .eq ↔ a = b := by
  rw [Value.order, Option.some.injEq]
  exact compareOfLessAndEq_eq_eq String.le_refl String.not_le

theorem compares_text (a b : String) :
    ((Operand.mk (some .text) (.text a)).compares .eq (.literal (.text b))).isTrue =
      decide (a = b) := by
  rw [Bool.eq_iff_iff, decide_eq_true_eq, ← order_text]
  exact Operand.equals_iff

/-! ## Rows of jobs -/

namespace Registry

/-- The row of a job with its number. -/
def rowOf (e : Int × Job) : Row := ⟨e.1, (cells e.2).map Prod.snd⟩

/-- The registry with numbered jobs in it. -/
def holding (jobs : List (Int × Job)) : Table := { table with rows := jobs.map rowOf }

theorem place?_holding (jobs : List (Int × Job)) : (holding jobs).place? = table.place? := rfl

theorem place?_columns :
    table.place? "id" = some (.cell 0) ∧ table.place? "scratch_table_name" = some (.cell 1) ∧
      table.place? "result_table_name" = some (.cell 2) ∧
      table.place? "status_step" = some (.cell 3) ∧ table.place? "owner_id" = some (.cell 4) ∧
      table.place? "entity_type_label" = some (.cell 5) ∧
      table.place? "start_time" = some (.cell 6) ∧
      table.place? "compiled_statements" = some (.cell 7) := by decide

/-- The text of a job's row under the names of the columns. -/
def recordFor (j : Job) : Record :=
  { id := j.id.text
    scratch := j.tables.scratch
    result := j.tables.result
    status := j.status.text
    owner := j.owner
    label := j.label
    startTime := j.startTime.storedText
    statements := j.statements }

theorem parse?_statusText (s : Status) : Status.parse? s.text = some s := by
  cases s <;> decide

theorem job_recordFor {j : Job} (h : j.startTime.FourDigits) :
    (recordFor j).job = .ok j := by
  simp only [Record.job, recordFor, Uuid.parse?_text, readStatus, parse?_statusText,
    Instant.parse_storedText h, bind, Except.bind, pure, Except.pure]

theorem recordOf?_rowOf (jobs : List (Int × Job)) (e : Int × Job) :
    recordOf? (holding jobs) (rowOf e) = some (recordFor e.2) := by
  obtain ⟨h0, h1, h2, h3, h4, h5, h6, h7⟩ := place?_columns
  unfold recordOf?
  rw [place?_holding]
  simp only [h0, h1, h2, h3, h4, h5, h6, h7]
  cases hs : e.2.statements with
  | none =>
    simp [rowOf, cells, hs, textOrNull, Row.value, Value.readText?, Value.readInt?, recordFor,
      Value.isNull]
  | some s =>
    simp [rowOf, cells, hs, textOrNull, Row.value, Value.readText?, Value.readInt?, recordFor,
      Value.isNull]

theorem meets_id (jobs : List (Int × Job)) (e : Int × Job) (id : Uuid) :
    (holding jobs).meets (rowOf e) [("id", .text id.text)] = decide (e.2.id = id) := by
  have hp : (holding jobs).place? "id" = some (.cell 0) := place?_columns.1
  have ha : (holding jobs).asked (rowOf e) "id" = ⟨some .text, .text e.2.id.text⟩ := by
    unfold Table.asked
    rw [hp]
    rfl
  rw [Table.meets, List.all_cons, List.all_nil, Bool.and_true]
  dsimp only
  rw [ha, compares_text]
  exact decide_eq_decide.2 Uuid.text_inj

/-! ## Changing rows -/

theorem row?_cells (jobs : List (Int × Job)) (fresh : Option Int) (number : Value) (j : Job) :
    (holding jobs).row? fresh ⟨number, (cells j).map Prod.snd⟩ =
      (Table.numberFrom? fresh number).map (Row.mk · ((cells j).map Prod.snd)) := by
  have hstored : List.zipWith (fun c v => v.stored c.affinity) columns ((cells j).map Prod.snd) =
      (cells j).map Prod.snd := by
    cases hs : j.statements <;>
      simp [columns, cells, hs, textOrNull, Column.needed, Column.free, Value.stored,
        Value.toTextual, Value.toNumeric, Value.toWhole]
  have haccepts : ((columns.zip ((cells j).map Prod.snd)).all fun p => p.1.accepts p.2) = true := by
    have hstatus : Status.all.map Status.text = ["started", "preparing_scratch",
      "filtering_entities", "compiling_results", "cleaning_up", "done"] := rfl
    cases hs : j.statements <;> cases hst : j.status <;>
      simp [columns, cells, hs, hst, hstatus, textOrNull, Column.needed, Column.free,
        Column.accepts, Value.isNull, Status.text]
  unfold Table.row?
  simp only [holding, table, hstored]
  cases Table.numberFrom? fresh number with
  | none => rfl
  | some n => simp [haccepts]

theorem places?_cells (jobs : List (Int × Job)) (j : Job) :
    (holding jobs).places? (cells j) =
      some (((cells j).map Prod.snd).zipIdx.map fun x => (.cell x.2, x.1)) := by
  obtain ⟨h0, h1, h2, h3, h4, h5, h6, h7⟩ := place?_columns
  unfold Table.places?
  rw [place?_holding]
  simp only [cells, List.mapM_cons, List.mapM_nil, h0, h1, h2, h3, h4, h5, h6, h7, Option.map_some]
  rfl

theorem insert?_cells (jobs : List (Int × Job)) (j : Job) :
    (holding jobs).insert? (cells j) =
      (holding jobs).insertDraft? ⟨.null, (cells j).map Prod.snd⟩ := by
  unfold Table.insert?
  rw [places?_cells]
  rfl

theorem clashes_rowOf {e e' : Int × Job} (h : e.1 ≠ e'.1) :
    (rowOf e).clashes (.unique 1) (rowOf e') = decide (e.2.id = e'.2.id) := by
  have hn : (rowOf e).number ≠ (rowOf e').number := h
  have hk : Store.sameKey [.text e.2.id.text] [.text e'.2.id.text] =
      decide (e.2.id = e'.2.id) := by
    rw [Bool.eq_iff_iff, decide_eq_true_eq, ← Uuid.text_inj, ← order_text]
    simp [Store.sameKey]
  rw [← hk, Row.clashes, beq_eq_false_iff_ne.2 hn, Bool.false_or]
  rfl

end Registry

end SheetExport
