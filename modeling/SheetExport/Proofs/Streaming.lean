import SheetExport.Proofs.BackingTables
import SheetExport.Proofs.Deletions

/-!
# What a download writes

The document of a result table is its header and then one record for each row. A download that
finds its job done writes this document, however often it looks for the table in between, and
leaves neither the job nor its tables behind.
-/

namespace SheetExport

open Store (Table Row Column)
open Text (sameName)

/-! ## Sinks that take everything -/

namespace Sink

variable {s : Sink}

structure Accepts (s : Sink) : Prop where
  boundless : s.budget = none
  taking : s.chunk ≠ some 0

theorem Accepts.append (h : s.Accepts) (data : Bytes) : (s.append data).Accepts :=
  ⟨by rw [Sink.append, h.boundless]; rfl, h.taking⟩

theorem append_append (s : Sink) (a b : Bytes) : (s.append a).append b = s.append (a ++ b) := by
  unfold append
  cases s.budget <;> simp [Nat.sub_sub]

theorem append_nil (s : Sink) : s.append [] = s := by
  unfold append
  cases hb : s.budget <;> simp [← hb]

theorem Accepts.isFull (h : s.Accepts) : s.isFull = false := by
  unfold Sink.isFull
  rw [h.boundless]
  rfl

theorem Accepts.accepted_pos (h : s.Accepts) {n : Nat} (hn : 0 < n) : 0 < s.accepted n := by
  unfold accepted
  rw [h.boundless]
  have hc := h.taking
  cases hk : s.chunk with
  | none => exact hn
  | some k =>
    rw [hk] at hc
    have : k ≠ 0 := fun h0 => hc (by rw [h0])
    simp only [atMost]
    omega

theorem Accepts.write (h : s.Accepts) (data : Bytes) : s.write data = (s.append data, .ok ()) := by
  fun_induction Sink.write s data with
  | case1 s data hd =>
    rw [List.isEmpty_iff.1 hd, append_nil]
  | case2 s data _ hfull =>
    rw [h.isFull] at hfull
    exact absurd hfull Bool.false_ne_true
  | case3 s data _ _ n _ ih =>
    -- What was taken and what is left are one piece of data again.
    rw [ih (h.append _), append_append, List.take_append_drop]
  | case4 s data hd _ n hn =>
    have hpos : 0 < data.length := List.length_pos_iff.2 fun h0 => hd (List.isEmpty_iff.2 h0)
    exact absurd (h.accepted_pos hpos) hn

end Sink

/-! ## Documents -/

namespace Store.Table

/-- Columns make a table, and every row has a cell for each. -/
structure WellFormed (t : Table) : Prop where
  columns : columnsFit t.columns = true
  cells : ∀ row ∈ t.rows, row.cells.length = t.columns.length

def valueUnder (t : Table) (row : Row) (name : String) : Value :=
  ((t.place? name).map row.value).getD .null

end Store.Table

namespace Download

/-- A value as text, if it is one, and nothing for null. -/
def cellText? (v : Value) : Option Bytes :=
  if v.isNull then some [] else v.text?.map bytesOf

def texts? (t : Table) (row : Row) : Option (List Bytes) :=
  t.columns.mapM fun c => cellText? (t.valueUnder row c.name)

def headerOf (t : Table) : List Bytes := (Csv.headerCells (t.columns.map (·.name))).map bytesOf

def document (format : Csv.Format) (t : Table) (lines : List (List Bytes)) : Bytes :=
  format.record (headerOf t) ++ lines.flatMap format.record

/-! ## Cells by name -/

theorem places_of_columns {columns : List Column} (number : Option Store.Place)
    (h : (columns.map fun c => Text.lowerAscii c.name).Nodup) {i : Nat} (hi : i < columns.length) :
    Store.placeOf? columns number columns[i].name = some (.cell i) := by
  have hfind : columns.findIdx? (fun c => sameName c.name columns[i].name) = some i := by
    rw [List.findIdx?_eq_some_iff_getElem]
    refine ⟨hi, sameName_self _, fun j hj hsame => ?_⟩
    have hj' : j < columns.length := Nat.lt_trans hj hi
    have hne := List.pairwise_iff_getElem.1 h j i (by simpa using hj') (by simpa using hi) hj
    rw [List.getElem_map, List.getElem_map] at hne
    exact hne (sameName_iff.1 hsame)
  unfold Store.placeOf?
  rw [hfind]

/-- The cells of a row are what it has under the names of the columns, since no two columns have
one name. -/
theorem values_of_columns {t : Table} (h : t.WellFormed) {row : Row} (hr : row ∈ t.rows) :
    t.columns.map (fun c => t.valueUnder row c.name) = row.cells := by
  have hfit := h.columns
  simp only [Store.columnsFit, Bool.and_eq_true, Store.allDifferent_iff] at hfit
  apply List.ext_getElem
  · rw [List.length_map, h.cells row hr]
  · intro i hi hc
    rw [List.length_map] at hi
    rw [List.getElem_map]
    unfold Table.valueUnder Table.place?
    rw [places_of_columns _ hfit.2 hi]
    simp [Row.value, List.getD_eq_getElem?_getD, List.getElem?_eq_getElem hc]

theorem length_of_mapM {α β : Type} {f : α → Option β} {as : List α} {bs : List β}
    (h : as.mapM f = some bs) : as.length = bs.length := by
  induction as generalizing bs with
  | nil =>
    obtain rfl : [] = bs := Option.some.inj h
    rfl
  | cons a as ih =>
    rw [List.mapM_cons] at h
    obtain ⟨b, -, h⟩ := Option.bind_eq_some_iff.1 h
    obtain ⟨rest, hrest, h⟩ := Option.bind_eq_some_iff.1 h
    rw [← Option.some.inj h, List.length_cons, List.length_cons, ih hrest]

theorem mapM_orRejected {α β : Type} (f : α → Option β) (as : List α) :
    as.mapM (fun a => Registry.orRejected (f a)) = Registry.orRejected (as.mapM f) := by
  induction as with
  | nil => rfl
  | cons a rest ih =>
    rw [List.mapM_cons, List.mapM_cons, ih]
    cases f a with
    | none => rfl
    | some b => cases rest.mapM f <;> rfl

theorem rowCells_eq (row : Row) :
    rowCells row = Registry.orRejected (row.cells.mapM cellText?) := by
  rw [← mapM_orRejected]
  unfold rowCells
  congr 1
  funext v
  unfold cellText?
  split
  · rfl
  · cases v.text? <;> rfl

theorem rowCells_texts {t : Table} (h : t.WellFormed) {row : Row} (hr : row ∈ t.rows) :
    rowCells row = Registry.orRejected (texts? t row) := by
  have hcells : texts? t row = row.cells.mapM cellText? := by
    rw [← values_of_columns h hr, List.mapM_map]
    rfl
  rw [rowCells_eq, hcells]

end Download

/-! ## Writers -/

namespace Csv.Writer

variable {w : Writer}

/-- A writer after some rows that came to some data. -/
def took (w : Writer) (rows : Nat) (data : Bytes) : Writer :=
  { w with
    sink := w.sink.append data
    stats := ⟨w.stats.rowsWritten + rows, w.stats.bytesWritten + data.length⟩ }

theorem took_took (w : Writer) (m n : Nat) (a b : Bytes) :
    (w.took m a).took n b = w.took (m + n) (a ++ b) := by
  simp [took, Sink.append_append, Nat.add_assoc]

theorem took_nothing (w : Writer) : w.took 0 [] = w := by
  simp [took, Sink.append_nil]

theorem record_accepting (h : w.sink.Accepts) (cells : List Bytes) :
    w.record cells = (w.took 0 (w.format.record cells), .ok ()) := by
  unfold record took
  dsimp only
  rw [h.write]
  rfl

theorem row_accepting (h : w.sink.Accepts) (cells : List Bytes) :
    w.row cells = (w.took 1 (w.format.record cells), .ok ()) := by
  unfold row
  rw [record_accepting h]
  rfl

theorem header_accepting (h : w.sink.Accepts) (hw : w.headerWritten = false) (names : List String) :
    w.header names = ({ w with headerWritten := true }.took 0
      (w.format.record ((headerCells names).map bytesOf)), .ok ()) := by
  unfold header
  rw [hw, if_neg Bool.false_ne_true]
  exact record_accepting (w := { w with headerWritten := true }) h _

theorem finish_accepting (h : w.sink.Accepts) : w.finish = .ok w.stats := by
  unfold finish Sink.flush
  rw [h.isFull]
  rfl

end Csv.Writer

namespace Download

variable {w : Csv.Writer} {watch : Watch} {t : Table} {before rest : List Row}
  {lines : List (List Bytes)} {batch : Nat} {job : Uuid}

/-! ## Rows -/

theorem writeRow_eq (h : t.WellFormed) {row : Row} (hr : row ∈ t.rows) (ha : w.sink.Accepts) :
    writeRow w row = match texts? t row with
      | some cells => (w.took 1 (w.format.record cells), .ok ())
      | none => (w, .error .rejected) := by
  unfold writeRow
  rw [rowCells_texts h hr]
  cases texts? t row with
  | none => rfl
  | some cells =>
    dsimp only [Registry.orRejected]
    rw [Csv.Writer.row_accepting ha]
    rfl

theorem writeRows_append (h : t.WellFormed) (hthere : ∀ n, watch.tableThere n = true)
    (hb : ∀ row ∈ before, row ∈ t.rows) (hlines : before.mapM (texts? t) = some lines)
    (ha : w.sink.Accepts) (written : Nat) :
    writeRows watch batch job written w (before ++ rest) =
      writeRows watch batch job (written + before.length)
        (w.took before.length (lines.flatMap w.format.record)) rest := by
  induction before generalizing w written lines with
  | nil =>
    obtain rfl : [] = lines := Option.some.inj hlines
    rw [List.length_nil, List.flatMap_nil, Csv.Writer.took_nothing]
    rfl
  | cons row before ih =>
    obtain ⟨hrow, hb⟩ := List.forall_mem_cons.1 hb
    rw [List.mapM_cons] at hlines
    obtain ⟨cells, hcells, hlines⟩ := Option.bind_eq_some_iff.1 hlines
    obtain ⟨lines', hlines', he⟩ := Option.bind_eq_some_iff.1 hlines
    obtain rfl : cells :: lines' = lines := Option.some.inj he
    have hstill : stillThere watch batch (written + 1) = true := by
      rw [stillThere, hthere, Bool.or_true]
    rw [List.cons_append, writeRows, writeRow_eq h hrow ha, hcells]
    dsimp only
    rw [hstill, if_pos rfl, ih hb hlines' (ha.append _), Csv.Writer.took_took, List.length_cons,
      List.flatMap_cons, Nat.add_assoc, Nat.add_comm 1]
    rfl

/-! ## Tables -/

def written (format : Csv.Format) (sink : Sink) (t : Table) (lines : List (List Bytes)) :
    Csv.Writer :=
  { Csv.Writer.ofSink format sink with headerWritten := true }.took lines.length
    (document format t lines)

theorem writeTable_append (h : t.WellFormed) (hthere : ∀ n, watch.tableThere n = true)
    (hrows : t.rows = before ++ rest) (hlines : before.mapM (texts? t) = some lines)
    {format : Csv.Format} {sink : Sink} (ha : sink.Accepts) :
    writeTable watch batch job (.ofSink format sink) t =
      match writeRows watch batch job before.length (written format sink t lines) rest with
      | (w, .error fault) => (w, .error fault)
      | (w, .ok ()) => (w, w.finish.mapError fun fault => .output fault.message) := by
  have hheader := Csv.Writer.header_accepting (w := .ofSink format sink) ha rfl
    (t.columns.map (·.name))
  have hb : ∀ row ∈ before, row ∈ t.rows :=
    fun row hr => hrows ▸ List.mem_append_left _ hr
  have hlength : before.length = lines.length := length_of_mapM hlines
  unfold writeTable
  rw [hheader, hrows]
  dsimp only
  rw [writeRows_append h hthere hb hlines (ha.append _), Csv.Writer.took_took, Nat.zero_add,
    written, ← hlength]
  rfl

theorem writeTable_all (h : t.WellFormed) (hthere : ∀ n, watch.tableThere n = true)
    (hlines : t.rows.mapM (texts? t) = some lines) {format : Csv.Format} {sink : Sink}
    (ha : sink.Accepts) :
    writeTable watch batch job (.ofSink format sink) t =
      (written format sink t lines, .ok ⟨t.rows.length, (document format t lines).length⟩) := by
  have hw : (written format sink t lines).sink.Accepts := ha.append _
  rw [writeTable_append h hthere (List.append_nil t.rows).symm hlines ha, writeRows]
  dsimp only
  rw [Csv.Writer.finish_accepting hw, length_of_mapM hlines]
  simp [written, Csv.Writer.took, Csv.Writer.ofSink, Except.mapError]

theorem writeTable_until (h : t.WellFormed) (hthere : ∀ n, watch.tableThere n = true) {row : Row}
    {after : List Row} (hrows : t.rows = before ++ row :: after)
    (hlines : before.mapM (texts? t) = some lines) (hrow : texts? t row = none)
    {format : Csv.Format} {sink : Sink} (ha : sink.Accepts) :
    writeTable watch batch job (.ofSink format sink) t =
      (written format sink t lines, .error .rejected) := by
  have hw : (written format sink t lines).sink.Accepts := ha.append _
  have hmem : row ∈ t.rows := hrows ▸ List.mem_append_right _ List.mem_cons_self
  rw [writeTable_append h hthere hrows hlines ha, writeRows, writeRow_eq h hmem hw, hrow]

end Download

namespace Download

variable {s : Store} {id : Uuid} {job : Job}

/-! ## Downloads -/

theorem finished_of_absent (h : Registry.find s id = .ok none) :
    finished s id = .error (.notFound id) := by
  unfold finished Registry.get
  rw [h]
  rfl

theorem finished_of_notDone (h : Registry.find s id = .ok (some job)) (hd : job.status ≠ .done) :
    finished s id = .error (.notReady id job.status.text) := by
  have hnot : job.status.isDone = false := decide_eq_false hd
  unfold finished
  rw [Registry.get_eq_ok_iff_find.2 h]
  dsimp only [bind, Except.bind]
  rw [hnot]
  rfl

theorem run_of_unfinished {fault : JobFault} (h : finished s id = .error fault) (batch : Nat)
    (format : Csv.Format) (sink : Sink) : run batch format s id sink = (s, sink, .error fault) := by
  unfold run runWith
  rw [h]

theorem run_of_done (h : Registry.find s id = .ok (some job)) (hd : job.status = .done)
    (batch : Nat) (format : Csv.Format) (sink : Sink) :
    ∃ s', s.Deleted s' id job.tables ∧ run batch format s id sink =
      (s', (writeResult (.ofStore s job.tables.result) batch s job (.ofSink format sink)).1.sink,
        (writeResult (.ofStore s job.tables.result) batch s job (.ofSink format sink)).2) := by
  have hget := Registry.get_eq_ok_iff_find.2 h
  obtain ⟨s', hdelete, hdeleted⟩ := Registry.delete_of_get hget
  refine ⟨s', hdeleted, ?_⟩
  unfold run runWith
  rw [Service.finished_eq_ok.2 ⟨hget, hd⟩]
  dsimp only [Watch.ofStore]
  rw [hdelete]

theorem tableThere_ofStore {t : Table} {name : String} (ht : s.table? name = some t)
    (hname : t.name = name) (n : Nat) : (Watch.ofStore s name).tableThere n = true :=
  List.any_eq_true.2 ⟨t, List.mem_of_find?_eq_some ht, beq_iff_eq.2 hname⟩

theorem run_document (h : Registry.find s id = .ok (some job)) (hd : job.status = .done)
    {t : Table} (ht : s.table? job.tables.result = some t)
    (hname : t.name = job.tables.result) (hwf : t.WellFormed) {lines : List (List Bytes)}
    (hlines : t.rows.mapM (texts? t) = some lines) (batch : Nat) (format : Csv.Format)
    {sink : Sink} (ha : sink.Accepts) :
    (run batch format s id sink).2 = (sink.append (document format t lines),
      .ok ⟨t.rows.length, (document format t lines).length⟩) := by
  obtain ⟨s', -, hrun⟩ := run_of_done h hd batch format sink
  rw [hrun]
  unfold writeResult
  rw [ht]
  dsimp only
  rw [writeTable_all hwf (tableThere_ofStore ht hname) hlines ha]
  rfl

/-- A download of a job that is done writes the document of its result, whatever the batch is. A
value that is no text ends the document before its row. Afterwards the job is gone with its tables,
but for those that cannot be dropped. Any other download writes nothing and changes nothing. -/
theorem streams_document (batch : Nat) (format : Csv.Format) (s : Store) (id : Uuid)
    (sink : Sink) :
    (Registry.find s id = .ok none →
        run batch format s id sink = (s, sink, .error (.notFound id))) ∧
      ∀ job, Registry.find s id = .ok (some job) →
        (job.status ≠ .done →
          run batch format s id sink = (s, sink, .error (.notReady id job.status.text))) ∧
        (job.status = .done →
          s.Deleted (run batch format s id sink).1 id job.tables ∧
          (s.table? job.tables.result = none →
            (run batch format s id sink).2 = (sink, .error (.notFound job.id))) ∧
          ∀ t, s.table? job.tables.result = some t → t.name = job.tables.result →
            t.WellFormed → sink.Accepts →
            (∀ lines, t.rows.mapM (texts? t) = some lines →
              (run batch format s id sink).2 = (sink.append (document format t lines),
                .ok ⟨t.rows.length, (document format t lines).length⟩)) ∧
            ∀ before row after lines, t.rows = before ++ row :: after →
              before.mapM (texts? t) = some lines → texts? t row = none →
              (run batch format s id sink).2 =
                (sink.append (document format t lines), .error .rejected)) := by
  refine ⟨fun h => run_of_unfinished (finished_of_absent h) .., fun job h => ⟨fun hd =>
    run_of_unfinished (finished_of_notDone h hd) .., fun hd => ?_⟩⟩
  obtain ⟨s', hdeleted, hrun⟩ := run_of_done h hd batch format sink
  refine ⟨by rw [hrun]; exact hdeleted, fun hnone => ?_, fun t ht hname hwf ha =>
    ⟨fun lines hlines => run_document h hd ht hname hwf hlines batch format ha,
      fun before row after lines hrows hlines hrow => ?_⟩⟩
  · rw [hrun]
    unfold writeResult
    rw [hnone]
    rfl
  · have hthere := tableThere_ofStore ht hname
    rw [hrun]
    unfold writeResult
    rw [ht]
    dsimp only
    rw [writeTable_until hwf hthere hrows hlines hrow ha]
    rfl

/-! ## Results of one job -/

def doneJob : Job :=
  ⟨Service.firstTicket.id, .ofSuffix ⟨"wp_"⟩ Service.firstTicket.suffix, .done, 7, "post",
    Service.firstTicket.time, none⟩

def storeWith (t : Table) : Store := ⟨[Registry.holding [(1, doneJob)], t]⟩

theorem find_storeWith (t : Table) :
    Registry.find (storeWith t) doneJob.id = .ok (some doneJob) := by
  have h : Registry.Holds (storeWith t) [(1, doneJob)] :=
    ⟨rfl, List.pairwise_singleton .., List.pairwise_singleton .., by decide⟩
  rw [Registry.find_eq h]
  rfl

def notes : Table :=
  ⟨"wp_csvexport_results_a1", [.free "ID" .integer, .free "note" .text], .none,
    Store.Row.numbered [[.integer 1, .text "a"], [.integer 2, .null]]⟩

theorem streams_document_notes :
    (run 1 .standard (storeWith notes) doneJob.id .unlimited).2 =
      (⟨none, none, bytesOf "`ID,note\n1,a\n2,\n"⟩, .ok ⟨2, 16⟩) := by
  obtain ⟨-, hfound⟩ := streams_document 1 .standard (storeWith notes) doneJob.id .unlimited
  obtain ⟨-, hdone⟩ := hfound doneJob (find_storeWith notes)
  obtain ⟨-, -, hresult⟩ := hdone rfl
  obtain ⟨hall, -⟩ := hresult notes (by decide) rfl ⟨by decide, by decide⟩ ⟨rfl, by decide⟩
  exact (hall [[bytesOf "1", bytesOf "a"], [bytesOf "2", []]] (by decide +kernel)).trans
    (by decide +kernel)

def binary : Table :=
  ⟨"wp_csvexport_results_a1", [.free "c" .blob], .none, Store.Row.numbered [[.blob [255]]]⟩

/-- A result whose name differs from that of the job in case. -/
def shouted : Table := { notes with name := "WP_CSVEXPORT_RESULTS_A1" }

/-- A job whose result is a table that the store keeps for itself. -/
def countedJob : Job := { doneJob with tables := ⟨"wp_csvexport_scratch_a1", "sqlite_sequence"⟩ }

/-- The numbers that the store has given out. -/
def countedStore : Store :=
  ⟨[Registry.holding [(1, countedJob)],
    ⟨"sqlite_sequence", [.free "name" .blob, .free "seq" .blob], .none,
      Store.Row.numbered [[.text "migrations", .integer 1]]⟩]⟩

/-- The first two results are not written in full, and what is written depends on the batch. The
third is still there after its download. -/
theorem streams_part_of_document :
    (run 1000 .standard (storeWith binary) doneJob.id .unlimited).2 =
        (⟨none, none, bytesOf "c\n"⟩, .error .rejected) ∧
      (run 1 .standard (storeWith shouted) doneJob.id .unlimited).2 =
        (⟨none, none, bytesOf "`ID,note\n1,a\n"⟩, .error (.notFound doneJob.id)) ∧
      (run 3 .standard (storeWith shouted) doneJob.id .unlimited).2 =
        (⟨none, none, bytesOf "`ID,note\n1,a\n2,\n"⟩, .ok ⟨2, 16⟩) ∧
      (run 1 .standard countedStore countedJob.id .unlimited).2 =
        (⟨none, none, bytesOf "name,seq\nmigrations,1\n"⟩, .ok ⟨1, 22⟩) ∧
      ((run 1 .standard countedStore countedJob.id .unlimited).1.table?
        countedJob.tables.result).isSome = true := by
  decide +kernel

end Download

end SheetExport
