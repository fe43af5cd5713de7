import SheetExport.Csv.Reading
import SheetExport.Proofs.WriterCalls

/-!
# Written records are read back

A cell is read as it was written, because what could end it stands between quotes. So a line is
read as its cells, and the lines of a text as its records. A reader meets nothing in them that
readers take differently.
-/

namespace SheetExport.Csv

namespace Format

/-- The marks of a format can be told from each other and from line breaks. -/
structure Readable (f : Format) : Prop where
  different : f.delimiter ≠ f.quote
  delimiter : isLineBreak f.delimiter = false
  quote : isLineBreak f.quote = false

variable {f : Format} {tolerance : Tolerance} {r r' : Reading}

/-! ## Marks -/

theorem readAll?_append (r : Reading) (a b : Bytes) :
    f.readAll? tolerance r (a ++ b) =
      (f.readAll? tolerance r a).bind (f.readAll? tolerance · b) := List.foldlM_append

theorem readAll?_cons (r : Reading) (b : UInt8) (data : Bytes) :
    f.readAll? tolerance r (b :: data) =
      (f.readByte? tolerance r b).bind (f.readAll? tolerance · data) := List.foldlM_cons

theorem readByte?_outside (h : r.place ≠ .quoted) (b : UInt8) :
    f.readByte? tolerance r b = f.readOutside? tolerance r b := if_neg h

theorem readByte?_delimiter (hf : f.Readable) (h : r.place ≠ .quoted) :
    f.readByte? tolerance r f.delimiter = some r.endCell := by
  rw [readByte?_outside h, readOutside?, hf.delimiter, if_neg Bool.false_ne_true, if_pos rfl]

/-- A line break behind another one ends no record. -/
theorem readByte?_lineBreak {b : UInt8} (hb : isLineBreak b = true) (h : r.place ≠ .quoted) :
    f.readByte? tolerance r b = some (if r.place = .lineStart then r else r.endRecord) := by
  rw [readByte?_outside h, readOutside?, hb, if_pos rfl]

example : Format.standard.read? (fun _ _ => none) (bytesOf "a,\r\n\n\"b\"\"\"\r") =
    some [[bytesOf "a", []], [bytesOf "b\""]] := by decide +kernel

theorem readByte?_lineFeed (h : r.place ≠ .quoted) (hl : r.place ≠ .lineStart) :
    f.readByte? tolerance r lineFeed = some r.endRecord := by
  rw [readByte?_lineBreak (by decide) h, if_neg hl]

theorem readByte?_openingQuote (hf : f.Readable) (h : r.place = .lineStart ∨ r.place = .cellStart) :
    f.readByte? tolerance r f.quote = some { r with place := .quoted } := by
  have hout : r.place ≠ .quoted := by
    rcases h with h | h <;> simp [h]
  rw [readByte?_outside hout, readOutside?, hf.quote, if_neg Bool.false_ne_true,
    if_neg (Ne.symm hf.different), if_pos rfl]
  rcases h with h | h <;> rw [h]

theorem readByte?_plain {b : UInt8} (hb : f.needsQuotes b = false) (h : r.place ≠ .quoted)
    (hc : r.place ≠ .closed) : f.readByte? tolerance r b = some (r.add .plain b) := by
  simp only [needsQuotes, Bool.or_eq_false_iff, beq_eq_false_iff_ne] at hb
  obtain ⟨⟨⟨hdelimiter, hquote⟩, hreturn⟩, hfeed⟩ := hb
  have hbreak : isLineBreak b = false := by
    simp [isLineBreak, hreturn, hfeed]
  rw [readByte?_outside h, readOutside?, hbreak, if_neg Bool.false_ne_true, if_neg hdelimiter,
    if_neg hquote, if_neg hc]

/-! ## Cells -/

theorem readAll?_plain (h : r.place ≠ .quoted) (hc : r.place ≠ .closed) {c : Bytes}
    (hb : ∀ b ∈ c, f.needsQuotes b = false) :
    f.readAll? tolerance r c =
      some ⟨if c = [] then r.place else .plain, r.cell ++ c, r.cells, r.records⟩ := by
  induction c generalizing r with
  | nil =>
    rw [if_pos rfl, List.append_nil]
    rfl
  | cons b c ih =>
    obtain ⟨hfirst, hrest⟩ := List.forall_mem_cons.1 hb
    have hplace : (if c = [] then (r.add .plain b).place else .plain) = Place.plain := by
      split <;> rfl
    rw [readAll?_cons, readByte?_plain hfirst h hc, Option.bind_some,
      ih (r := r.add .plain b) (by simp [Reading.add]) (by simp [Reading.add]) hrest, hplace,
      if_neg (List.cons_ne_nil b c), Reading.add, List.append_assoc, List.singleton_append]

theorem readAll?_doubled (hf : f.Readable) (cell c : Bytes) (cells : List Bytes)
    (records : List (List Bytes)) :
    f.readAll? tolerance ⟨.quoted, cell, cells, records⟩ (f.doubled c) =
      some ⟨.quoted, cell ++ c, cells, records⟩ := by
  induction c generalizing cell with
  | nil =>
    rw [List.append_nil]
    rfl
  | cons b c ih =>
    have hcons : f.doubled (b :: c) = (if b = f.quote then [b, b] else [b]) ++ f.doubled c :=
      List.flatMap_cons
    have hone : f.readAll? tolerance ⟨.quoted, cell, cells, records⟩
        (if b = f.quote then [b, b] else [b]) = some ⟨.quoted, cell ++ [b], cells, records⟩ := by
      by_cases hb : b = f.quote
      · have hsecond : f.readByte? tolerance ⟨.closed, cell, cells, records⟩ f.quote =
            some ⟨.quoted, cell ++ [f.quote], cells, records⟩ := by
          rw [readByte?_outside (by simp), readOutside?, hf.quote, if_neg Bool.false_ne_true,
            if_neg (Ne.symm hf.different), if_pos rfl]
          rfl
        rw [if_pos hb, hb, readAll?_cons, readByte?, if_pos rfl, if_pos rfl, Option.bind_some,
          readAll?_cons, hsecond]
        rfl
      · rw [if_neg hb, readAll?_cons, readByte?, if_pos rfl, if_neg hb]
        rfl
    rw [hcons, readAll?_append, hone, Option.bind_some, ih, List.append_assoc,
      List.singleton_append]

/-- Behind a cell the reader has the cell, and stands outside quotes. Where a line starts it still
stands only if the cell was written as nothing. -/
theorem readAll?_cell (tolerance : Tolerance) (hf : f.Readable)
    (h : r.place = .lineStart ∨ r.place = .cellStart)
    (hr : r.cell = []) (c : Bytes) :
    ∃ place, f.readAll? tolerance r (f.cell c) = some ⟨place, c, r.cells, r.records⟩ ∧
      place ≠ .quoted ∧ (place = .lineStart → r.place = .lineStart ∧ f.cell c = []) := by
  unfold cell
  split
  · have hclosing : f.readAll? tolerance ⟨.quoted, c, r.cells, r.records⟩ [f.quote] =
        some ⟨.closed, c, r.cells, r.records⟩ := by
      rw [readAll?_cons, readByte?, if_pos rfl, if_pos rfl]
      rfl
    refine ⟨.closed, ?_, by simp, by simp⟩
    rw [quoted, List.cons_append, readAll?_cons, readByte?_openingQuote hf h, Option.bind_some,
      hr, readAll?_append, readAll?_doubled hf, List.nil_append, Option.bind_some, hclosing]
  · rename_i hplain
    have hout : r.place ≠ .quoted ∧ r.place ≠ .closed := by
      rcases h with h | h <;> simp [h]
    have hb : ∀ b ∈ c, f.needsQuotes b = false := by simpa using hplain
    refine ⟨_, by rw [readAll?_plain hout.1 hout.2 hb, hr, List.nil_append], ?_, ?_⟩
    · split
      · exact hout.1
      · simp
    · intro hstart
      split at hstart
      · exact ⟨hstart, ‹_›⟩
      · exact absurd hstart (by simp)

/-! ## Lines -/

theorem readAll?_cells (tolerance : Tolerance) (hf : f.Readable)
    (h : r.place = .lineStart ∨ r.place = .cellStart)
    (hr : r.cell = []) {cells : List Bytes} (hne : cells ≠ []) :
    ∃ r', f.readAll? tolerance r (f.cells cells) = some r' ∧ r'.place ≠ .quoted ∧
      r'.cells ++ [r'.cell] = r.cells ++ cells ∧ r'.records = r.records ∧
      (r'.place = .lineStart → r.place = .lineStart ∧ f.cells cells = []) := by
  induction cells generalizing r with
  | nil => exact absurd rfl hne
  | cons c cells ih =>
    obtain ⟨place, hcell, hout, hblank⟩ := readAll?_cell tolerance hf h hr c
    cases cells with
    | nil => exact ⟨_, hcell, hout, rfl, rfl, hblank⟩
    | cons d cells =>
      obtain ⟨r', hread, hout', hcells, hrecords, hblank'⟩ :=
        ih (r := ⟨.cellStart, [], r.cells ++ [c], r.records⟩) (.inr rfl) rfl
          (List.cons_ne_nil d cells)
      have hline : f.cells (c :: d :: cells) =
          f.cell c ++ f.delimiter :: f.cells (d :: cells) := rfl
      refine ⟨r', ?_, hout', ?_, hrecords, fun hstart => ?_⟩
      · rw [hline, readAll?_append, hcell, Option.bind_some, readAll?_cons,
          readByte?_delimiter hf hout]
        exact hread
      · rw [hcells, List.append_assoc, List.singleton_append]
      · exact absurd (hblank' hstart).1 (by simp)

/-- The lines that are read so far, and nothing begun. -/
def between (records : List (List Bytes)) : Reading := ⟨.lineStart, [], [], records⟩

theorem readAll?_record (hf : f.Readable) {cells : List Bytes} (hne : cells ≠ [])
    (records : List (List Bytes)) :
    f.readAll? tolerance (between records) (f.record cells) =
      some (between (records ++ [cells])) := by
  obtain ⟨r, hread, hout, hcells, hrecords, hblank⟩ :=
    readAll?_cells tolerance (r := between records) hf (.inl rfl) rfl hne
  have hend : r.endRecord = between (records ++ [cells]) := by
    rw [Reading.endRecord, hcells, hrecords]
    rfl
  unfold record
  dsimp only
  split
  · -- A line with nothing on it holds one empty cell, and a pair of quotes is read as that cell.
    rename_i hempty
    have hline : f.cells cells = [] := List.isEmpty_iff.1 hempty
    rw [hline] at hread
    obtain rfl : between records = r := Option.some.inj hread
    have hquotes : f.readAll? tolerance (between records) [f.quote, f.quote] =
        some ⟨.closed, [], [], records⟩ := by
      rw [readAll?_cons, readByte?_openingQuote hf (.inl rfl), Option.bind_some, readAll?_cons,
        readByte?, if_pos rfl, if_pos rfl]
      rfl
    rw [readAll?_append, hquotes, Option.bind_some, readAll?_cons,
      readByte?_lineFeed (by simp) (by simp), Option.bind_some]
    exact congrArg some hend
  · rename_i hline
    have hplace : r.place ≠ .lineStart := fun hstart => hline (by rw [(hblank hstart).2]; rfl)
    rw [readAll?_append, hread, Option.bind_some, readAll?_cons, readByte?_lineFeed hout hplace,
      Option.bind_some, hend]
    rfl

theorem readAll?_records (tolerance : Tolerance) (hf : f.Readable) {lines : List (List Bytes)}
    (hne : ∀ l ∈ lines, l ≠ []) (records : List (List Bytes)) :
    f.readAll? tolerance (between records) (lines.flatMap f.record) =
      some (between (records ++ lines)) := by
  induction lines generalizing records with
  | nil =>
    rw [List.append_nil]
    rfl
  | cons l lines ih =>
    obtain ⟨hl, hlines⟩ := List.forall_mem_cons.1 hne
    rw [List.flatMap_cons, readAll?_append, readAll?_record hf hl, Option.bind_some, ih hlines,
      List.append_assoc, List.singleton_append]

theorem read?_records (hf : f.Readable) {records : List (List Bytes)}
    (hne : ∀ r ∈ records, r ≠ []) :
    f.read? tolerance (records.flatMap f.record) = some records := by
  have hread := readAll?_records tolerance hf hne []
  unfold read?
  rw [show Reading.start = between [] from rfl, hread]
  rfl

end Format

namespace Writer

variable {w : Writer}

theorem callAll_rows (h : w.sink.Accepts) (records : List (List Bytes)) :
    w.callAll (records.map .row) =
      (w.took records.length (records.flatMap w.format.record),
        List.replicate records.length (.ok ())) := by
  induction records generalizing w with
  | nil => rw [List.length_nil, List.flatMap_nil, took_nothing]; rfl
  | cons cells records ih =>
    have hrest := ih (w := w.took 1 (w.format.record cells)) (h.append _)
    rw [List.map_cons, callAll, call, row_accepting h]
    dsimp only
    rw [hrest, took_took, List.length_cons, List.flatMap_cons, Nat.add_comm 1]
    rfl

/-- Records that are written as rows are read back, by any reader that ends a record at a carriage
return, a line feed or both and knows of quotes, whatever it makes of quotes that are misplaced. -/
theorem read_written_records (f : Format) (hf : f.Readable) (tolerance : Tolerance)
    (chunk : Option Nat) (hc : chunk ≠ some 0) (records : List (List Bytes))
    (hne : ∀ r ∈ records, r ≠ []) :
    (∀ a ∈ ((Writer.ofSink f ⟨chunk, none, []⟩).callAll (records.map .row)).2, a = .ok ()) ∧
      f.read? tolerance
        ((Writer.ofSink f ⟨chunk, none, []⟩).callAll (records.map .row)).1.sink.bytes =
          some records := by
  have hrun := callAll_rows (w := .ofSink f ⟨chunk, none, []⟩) ⟨rfl, hc⟩ records
  rw [hrun]
  exact ⟨fun a ha => List.eq_of_mem_replicate ha, Format.read?_records hf hne⟩

/-- Semicolons between the cells, apostrophes as quotes. -/
def apostrophes : Format := ⟨59, 39⟩

def mixedRecords : List (List Bytes) :=
  [[[]], [bytesOf "a;b", [], bytesOf "it's"], [bytesOf "x\r\n\r", bytesOf "'"]]

theorem read_written_records_mixed :
    apostrophes.Readable ∧ (∀ r ∈ mixedRecords, r ≠ []) ∧
      apostrophes.read? (fun _ _ => none)
        ((Writer.ofSink apostrophes ⟨some 3, none, []⟩).callAll
          (mixedRecords.map .row)).1.sink.bytes = some mixedRecords := by
  have hf : apostrophes.Readable := ⟨by decide, by decide, by decide⟩
  have hne : ∀ r ∈ mixedRecords, r ≠ [] := by simp [mixedRecords]
  exact ⟨hf, hne, (read_written_records apostrophes hf (fun _ _ => none) (some 3) (by decide)
    mixedRecords hne).2⟩

end Writer

end SheetExport.Csv
