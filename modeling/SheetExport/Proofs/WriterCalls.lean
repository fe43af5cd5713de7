import SheetExport.Proofs.Streaming

/-!
# Calls of a writer

A call puts one line into the sink, or none if it brings a header after the first. However few
bytes the sink takes at once, it ends up with as much of the lines as it has room for. A call
succeeds if its line ends within this room, and only such lines are counted.
-/

namespace SheetExport

/-! ## Room in a sink -/

namespace Sink

/-- As much of the data as there is room for. -/
def upTo (budget : Option Nat) (data : Bytes) : Bytes :=
  match budget with
  | none => data
  | some n => data.take n

/-- Whether there is room for so many bytes. -/
def hasRoom (budget : Option Nat) (length : Nat) : Bool := budget.all (length ≤ ·)

/-- The room that is left behind some data. -/
def roomAfter (budget : Option Nat) (data : Bytes) : Option Nat := budget.map (· - data.length)

variable {s : Sink} {budget : Option Nat} {a b : Bytes}

theorem upTo_append : upTo budget (a ++ b) = upTo budget a ++ upTo (roomAfter budget a) b := by
  cases budget with
  | none => rfl
  | some n => exact List.take_append

theorem roomAfter_upTo : roomAfter budget (upTo budget a) = roomAfter budget a := by
  cases budget with
  | none => rfl
  | some n =>
    simp only [roomAfter, upTo, Option.map_some, List.length_take, Option.some_inj]
    omega

theorem upTo_of_hasRoom (h : hasRoom budget a.length = true) : upTo budget a = a := by
  cases budget with
  | none => rfl
  | some n => exact List.take_of_length_le (of_decide_eq_true h)

/-- Once some data has been cut off there is no room for anything more. -/
theorem hasRoom_after {n : Nat} (hn : 0 < n) :
    hasRoom (roomAfter budget a) n = hasRoom budget (a.length + n) := by
  cases budget with
  | none => rfl
  | some k =>
    simp only [roomAfter, hasRoom, Option.map_some, Option.all_some, decide_eq_decide]
    omega

theorem hasRoom_of_le {m n : Nat} (hmn : m ≤ n) (h : hasRoom budget n = true) :
    hasRoom budget m = true := by
  cases budget with
  | none => rfl
  | some k => exact decide_eq_true (Nat.le_trans hmn (of_decide_eq_true h))

theorem upTo_nil : upTo budget [] = [] := by
  cases budget <;> simp [upTo]

theorem hasRoom_zero : hasRoom budget 0 = true := by
  cases budget <;> simp [hasRoom]

theorem accepted_pos (hc : s.chunk ≠ some 0) (hf : ¬ s.isFull = true) {n : Nat} (hn : 0 < n) :
    0 < s.accepted n := by
  have positive {limit : Option Nat} (hl : limit ≠ some 0) {n : Nat} (hn : 0 < n) :
      0 < atMost limit n := by
    cases limit with
    | none => exact hn
    | some k =>
      have hk : k ≠ 0 := fun h0 => hl (congrArg some h0)
      simp only [atMost]
      omega
  exact positive (by simpa [isFull] using hf) (positive hc hn)

theorem hasRoom_accepted (n : Nat) : hasRoom s.budget (s.accepted n) = true := by
  unfold accepted
  cases s.budget with
  | none => rfl
  | some k => exact decide_eq_true (Nat.min_le_left ..)

theorem write_eq (hc : s.chunk ≠ some 0) (data : Bytes) :
    s.write data = (s.append (upTo s.budget data),
      if hasRoom s.budget data.length then .ok () else .error .full) := by
  fun_induction Sink.write s data with
  | case1 s data hd =>
    obtain rfl := List.isEmpty_iff.1 hd
    rw [upTo_nil, append_nil, List.length_nil, hasRoom_zero, if_pos rfl]
  | case2 s data hd hfull =>
    have hb : s.budget = some 0 := of_decide_eq_true hfull
    have hne : data ≠ [] := fun h0 => hd (List.isEmpty_iff.2 h0)
    have hroom : hasRoom (some 0) data.length = false := by simpa [hasRoom] using hne
    rw [hb, hroom, if_neg Bool.false_ne_true, upTo, List.take_zero, append_nil]
  | case3 s data hd hfull n hn ih =>
    have hlen : (data.take n).length ≤ n := List.length_take_le n data
    have hpiece : hasRoom s.budget (data.take n).length = true :=
      hasRoom_of_le hlen (hasRoom_accepted data.length)
    have hbudget : (s.append (data.take n)).budget = roomAfter s.budget (data.take n) := rfl
    have hdata : upTo s.budget data =
        data.take n ++ upTo (roomAfter s.budget (data.take n)) (data.drop n) := by
      have happend : upTo s.budget (data.take n ++ data.drop n) = _ := upTo_append
      rwa [List.take_append_drop, upTo_of_hasRoom hpiece] at happend
    rw [ih hc, hbudget, append_append, ← hdata]
    congr 1
    -- The last piece leaves nothing to be asked for.
    by_cases hrest : data.drop n = []
    · have hwhole : data.take n = data := by
        rw [← List.append_nil (data.take n), ← hrest, List.take_append_drop]
      rw [hwhole] at hpiece
      rw [hpiece, hrest, List.length_nil, hasRoom_zero]
    · have hlength : (data.take n).length + (data.drop n).length = data.length := by
        rw [← List.length_append, List.take_append_drop]
      rw [hasRoom_after (List.length_pos_iff.2 hrest), hlength]
  | case4 s data hd hfull n hn =>
    have hpos : 0 < data.length := List.length_pos_iff.2 fun h0 => hd (List.isEmpty_iff.2 h0)
    exact absurd (accepted_pos hc hfull hpos) hn

end Sink

namespace Csv

/-! ## Calls -/

inductive Call where
  | header (names : List String)
  | row (cells : List Bytes)

namespace Call

def isRow : Call → Bool
  | header _ => false
  | row _ => true

/-- The line of a call, given whether there was a header before. -/
def line? (f : Format) (headed : Bool) : Call → Option Bytes
  | header names => if headed then none else some (f.record ((headerCells names).map bytesOf))
  | row cells => some (f.record cells)

def lines (f : Format) (headed : Bool) : List Call → List (Option Bytes)
  | [] => []
  | c :: calls => c.line? f headed :: lines f (headed || !c.isRow) calls

/-- The lines that are there, one after another. -/
def text (lines : List (Option Bytes)) : Bytes := lines.flatMap (·.getD [])

/-- The lines of the calls that succeeded. -/
def completed (lines : List (Option Bytes)) (answers : List (Except SinkFault Unit)) :
    List (Option Bytes) := ((lines.zip answers).filter (·.2.isOk)).map Prod.fst

theorem line?_ne_nil {f : Format} {headed : Bool} {c : Call} {line : Bytes}
    (h : c.line? f headed = some line) : line ≠ [] := by
  have hrecord (cells : List Bytes) : f.record cells ≠ [] :=
    List.append_ne_nil_of_right_ne_nil _ (List.cons_ne_nil _ _)
  cases c with
  | header names =>
    cases headed with
    | true => exact absurd h (by simp [line?])
    | false => exact Option.some.inj h ▸ hrecord _
  | row cells => exact Option.some.inj h ▸ hrecord _

theorem mem_lines {f : Format} {headed : Bool} {calls : List Call} {line : Bytes}
    (h : some line ∈ lines f headed calls) : line ≠ [] := by
  induction calls generalizing headed with
  | nil => exact absurd h List.not_mem_nil
  | cons c calls ih =>
    rcases List.mem_cons.1 h with h | h
    · exact line?_ne_nil h.symm
    · exact ih h

theorem length_lines (f : Format) (headed : Bool) (calls : List Call) :
    (lines f headed calls).length = calls.length := by
  induction calls generalizing headed with
  | nil => rfl
  | cons c calls ih => rw [lines, List.length_cons, List.length_cons, ih]

theorem length_text_take_le {lines : List (Option Bytes)} {m n : Nat} (h : m ≤ n) :
    (text (lines.take m)).length ≤ (text (lines.take n)).length := by
  obtain ⟨rest, hrest⟩ := List.take_prefix_take_left h (l := lines)
  rw [← hrest, text, text, List.flatMap_append, List.length_append]
  exact Nat.le_add_right ..

theorem length_text_take_pos {f : Format} {headed : Bool} {calls : List Call} {i : Nat}
    {line : Bytes} (h : (lines f headed calls)[i]? = some (some line)) :
    0 < (text ((lines f headed calls).take (i + 1))).length := by
  have hne := mem_lines (List.mem_of_getElem? h)
  rw [List.take_add_one, h, text, List.flatMap_append, List.length_append]
  exact Nat.add_pos_right _ (by simpa [List.length_pos_iff] using hne)

end Call

namespace Writer

def call (w : Writer) : Call → Writer × Except SinkFault Unit
  | .header names => w.header names
  | .row cells => w.row cells

/-- The calls one after another, with their answers. -/
def callAll (w : Writer) : List Call → Writer × List (Except SinkFault Unit)
  | [] => (w, [])
  | c :: calls =>
    let (w, answer) := w.call c
    let (w, answers) := w.callAll calls
    (w, answer :: answers)

open Sink (upTo hasRoom roomAfter)
open Call (lines text completed length_lines length_text_take_le length_text_take_pos)

variable {w : Writer}

/-- What a call adds to the output, if there is room. -/
def added (w : Writer) (c : Call) : Bytes := (c.line? w.format w.headerWritten).getD []

def answer (w : Writer) (c : Call) : Except SinkFault Unit :=
  if hasRoom w.sink.budget (w.added c).length then .ok () else .error .full

/-- The writer after a call. -/
def after (w : Writer) (c : Call) : Writer :=
  { format := w.format
    sink := w.sink.append (upTo w.sink.budget (w.added c))
    headerWritten := w.headerWritten || !c.isRow
    stats :=
      if hasRoom w.sink.budget (w.added c).length then
        ⟨w.stats.rowsWritten + c.isRow.toNat, w.stats.bytesWritten + (w.added c).length⟩
      else w.stats }

theorem record_eq (hc : w.sink.chunk ≠ some 0) (cells : List Bytes) :
    w.record cells =
      if hasRoom w.sink.budget (w.format.record cells).length then
        ({ w with
            sink := w.sink.append (upTo w.sink.budget (w.format.record cells))
            stats := { w.stats with
              bytesWritten := w.stats.bytesWritten + (w.format.record cells).length } }, .ok ())
      else
        ({ w with sink := w.sink.append (upTo w.sink.budget (w.format.record cells)) },
          .error .full) := by
  unfold record
  dsimp only
  rw [Sink.write_eq hc]
  cases hasRoom w.sink.budget (w.format.record cells).length <;> rfl

theorem call_eq (hc : w.sink.chunk ≠ some 0) (c : Call) : w.call c = (w.after c, w.answer c) := by
  cases c with
  | header names =>
    cases hh : w.headerWritten with
    | true =>
      have hadded : w.added (.header names) = [] := by
        rw [added, hh]
        rfl
      rw [call, header, hh, if_pos rfl, after, answer, hadded, List.length_nil, Sink.hasRoom_zero,
        if_pos rfl, if_pos rfl, Sink.upTo_nil, Sink.append_nil, hh]
      obtain ⟨format, sink, headed, rows, bytes⟩ := w
      cases hh
      rfl
    | false =>
      have hadded : w.added (.header names) =
          w.format.record ((headerCells names).map bytesOf) := by
        rw [added, hh]
        rfl
      have hrecord := record_eq (w := { w with headerWritten := true }) hc
        ((headerCells names).map bytesOf)
      rw [call, header, hh, if_neg Bool.false_ne_true, hrecord, after, answer, hadded, hh]
      split <;> rfl
  | row cells =>
    have hadded : w.added (.row cells) = w.format.record cells := rfl
    rw [call, row, record_eq hc, after, answer, hadded]
    cases hasRoom w.sink.budget (w.format.record cells).length with
    | true => rw [if_pos rfl, if_pos rfl, if_pos rfl, Call.isRow, Bool.not_true, Bool.or_false]; rfl
    | false =>
      rw [if_neg Bool.false_ne_true, if_neg Bool.false_ne_true, if_neg Bool.false_ne_true,
        Call.isRow, Bool.not_true, Bool.or_false]

theorem callAll_cons (hc : w.sink.chunk ≠ some 0) (c : Call) (calls : List Call) :
    w.callAll (c :: calls) =
      (((w.after c).callAll calls).1, w.answer c :: ((w.after c).callAll calls).2) := by
  rw [callAll, call_eq hc]

/-! ## Many calls -/

variable {calls : List Call}

theorem budget_after (w : Writer) (c : Call) :
    (w.after c).sink.budget = roomAfter w.sink.budget (w.added c) := Sink.roomAfter_upTo

theorem text_lines_cons (w : Writer) (c : Call) (calls : List Call) :
    text (lines w.format w.headerWritten (c :: calls)) =
      w.added c ++ text (lines (w.after c).format (w.after c).headerWritten calls) := rfl

theorem sink_callAll (hc : w.sink.chunk ≠ some 0) (calls : List Call) :
    (w.callAll calls).1.sink =
      w.sink.append (upTo w.sink.budget (text (lines w.format w.headerWritten calls))) := by
  induction calls generalizing w with
  | nil =>
    have hnone : upTo w.sink.budget [] = [] := Sink.upTo_nil
    exact (hnone ▸ Sink.append_nil w.sink).symm
  | cons c calls ih =>
    rw [callAll_cons hc, text_lines_cons, Sink.upTo_append, ← Sink.append_append,
      ← budget_after]
    exact ih hc

theorem length_answers (hc : w.sink.chunk ≠ some 0) (calls : List Call) :
    (w.callAll calls).2.length = calls.length := by
  induction calls generalizing w with
  | nil => rfl
  | cons c calls ih =>
    rw [callAll_cons hc, List.length_cons, List.length_cons, ih (w := w.after c) hc]

theorem answer_ignored (hc : w.sink.chunk ≠ some 0) {i : Nat}
    (h : (lines w.format w.headerWritten calls)[i]? = some none) :
    (w.callAll calls).2[i]? = some (.ok ()) := by
  induction calls generalizing w i with
  | nil => exact absurd h (by simp [lines])
  | cons c calls ih =>
    rw [callAll_cons hc]
    cases i with
    | zero =>
      have hline : c.line? w.format w.headerWritten = none := Option.some.inj h
      have hanswer : w.answer c = .ok () := by
        rw [answer, added, hline, Option.getD_none, List.length_nil, Sink.hasRoom_zero, if_pos rfl]
      exact congrArg some hanswer
    | succ i => exact ih (w := w.after c) hc h

theorem answer_written (hc : w.sink.chunk ≠ some 0) {i : Nat} {line : Bytes}
    (h : (lines w.format w.headerWritten calls)[i]? = some (some line)) :
    (w.callAll calls).2[i]? = some (if hasRoom w.sink.budget
      (text ((lines w.format w.headerWritten calls).take (i + 1))).length then .ok ()
        else .error .full) := by
  induction calls generalizing w i with
  | nil => exact absurd h (by simp [lines])
  | cons c calls ih =>
    rw [callAll_cons hc]
    cases i with
    | zero =>
      have hfirst : text ((lines w.format w.headerWritten (c :: calls)).take 1) = w.added c :=
        List.append_nil _
      rw [hfirst]
      rfl
    | succ i =>
      have hlater := ih (w := w.after c) hc h
      have htext : text ((lines w.format w.headerWritten (c :: calls)).take (i + 1 + 1)) =
          w.added c ++ text ((lines (w.after c).format (w.after c).headerWritten calls).take
            (i + 1)) := rfl
      have hpos : 0 < (text ((lines (w.after c).format (w.after c).headerWritten calls).take
          (i + 1))).length := length_text_take_pos h
      rw [htext, List.length_append, ← Sink.hasRoom_after hpos, ← budget_after]
      exact hlater

/-! ## Counting -/

theorem isOk_answer (w : Writer) (c : Call) :
    (w.answer c).isOk = hasRoom w.sink.budget (w.added c).length := by
  rw [answer]
  cases hasRoom w.sink.budget (w.added c).length <;> rfl

theorem stats_after (w : Writer) (c : Call) :
    (w.after c).stats.rowsWritten =
        w.stats.rowsWritten + (if (c.isRow && (w.answer c).isOk) = true then 1 else 0) ∧
      (w.after c).stats.bytesWritten =
        w.stats.bytesWritten + (if (w.answer c).isOk = true then w.added c else []).length := by
  rw [isOk_answer, after]
  cases hasRoom w.sink.budget (w.added c).length <;> cases c.isRow <;> exact ⟨rfl, rfl⟩

theorem rows_callAll (hc : w.sink.chunk ≠ some 0) (calls : List Call) :
    (w.callAll calls).1.stats.rowsWritten = w.stats.rowsWritten +
      (calls.zip (w.callAll calls).2).countP fun x => x.1.isRow && x.2.isOk := by
  induction calls generalizing w with
  | nil => rfl
  | cons c calls ih =>
    rw [callAll_cons hc, List.zip_cons_cons, List.countP_cons, ih (w := w.after c) hc,
      (stats_after w c).1, Nat.add_right_comm, Nat.add_assoc]

theorem bytes_callAll (hc : w.sink.chunk ≠ some 0) (calls : List Call) :
    (w.callAll calls).1.stats.bytesWritten = w.stats.bytesWritten +
      (text (completed (lines w.format w.headerWritten calls) (w.callAll calls).2)).length := by
  induction calls generalizing w with
  | nil => rfl
  | cons c calls ih =>
    have htext : text (completed (lines w.format w.headerWritten (c :: calls))
        (w.answer c :: ((w.after c).callAll calls).2)) =
          (if (w.answer c).isOk = true then w.added c else []) ++
            text (completed (lines (w.after c).format (w.after c).headerWritten calls)
              ((w.after c).callAll calls).2) := by
      unfold completed
      rw [lines, List.zip_cons_cons, List.filter_cons]
      split <;> rfl
    rw [callAll_cons hc, ih (w := w.after c) hc, (stats_after w c).2, htext, List.length_append,
      Nat.add_assoc]

theorem hasRoom_of_answers (hc : w.sink.chunk ≠ some 0)
    (h : ∀ a ∈ (w.callAll calls).2, a.isOk = true) :
    hasRoom w.sink.budget (text (lines w.format w.headerWritten calls)).length = true := by
  induction calls generalizing w with
  | nil => exact Sink.hasRoom_zero
  | cons c calls ih =>
    rw [callAll_cons hc] at h
    obtain ⟨hfirst, hrest⟩ := List.forall_mem_cons.1 h
    rw [isOk_answer] at hfirst
    have hlater := ih (w := w.after c) hc hrest
    rw [text_lines_cons, List.length_append]
    rcases Nat.eq_zero_or_pos
      (text (lines (w.after c).format (w.after c).headerWritten calls)).length with h0 | hpos
    · rw [h0]
      exact hfirst
    · rwa [← Sink.hasRoom_after hpos, ← budget_after]

/-- What calls come to, on a sink with room for so many bytes. -/
structure Filled (f : Format) (budget : Option Nat) (calls : List Call) (w : Writer)
    (answers : List (Except SinkFault Unit)) : Prop where
  /-- The lines of the calls fill the room. -/
  output : w.sink.bytes = upTo budget (text (lines f false calls))
  answered : answers.length = calls.length
  /-- A call succeeds if its line ends within the room. -/
  written : ∀ (i : Nat) (line : Bytes), (lines f false calls)[i]? = some (some line) →
    answers[i]? = some (if hasRoom budget (text ((lines f false calls).take (i + 1))).length
      then .ok () else .error .full)
  ignored : ∀ i : Nat, (lines f false calls)[i]? = some none → answers[i]? = some (.ok ())
  /-- Once a call has failed no other writes its line. -/
  failed : ∀ (i j : Nat) (line : Bytes), i ≤ j → answers[i]? = some (.error .full) →
    (lines f false calls)[j]? = some (some line) → answers[j]? = some (.error .full)
  rows : w.stats.rowsWritten = (calls.zip answers).countP fun x => x.1.isRow && x.2.isOk
  bytes : w.stats.bytesWritten = (text (completed (lines f false calls) answers)).length
  whole : (∀ a ∈ answers, a.isOk = true) →
    w.sink.bytes = text (lines f false calls) ∧ w.stats.bytesWritten = w.sink.bytes.length

/-- Whatever is called, and however few bytes the sink takes at once, the lines of the calls fill
its room. A call succeeds if its line ends within the room, and what is counted are the rows and
the bytes of such calls. -/
theorem calls_fill_sink (f : Format) (chunk budget : Option Nat) (hc : chunk ≠ some 0)
    (calls : List Call) :
    Filled f budget calls ((Writer.ofSink f ⟨chunk, budget, []⟩).callAll calls).1
      ((Writer.ofSink f ⟨chunk, budget, []⟩).callAll calls).2 := by
  let w : Writer := .ofSink f ⟨chunk, budget, []⟩
  have hlength : (w.callAll calls).2.length = calls.length := length_answers hc calls
  have hwritten (i : Nat) (line : Bytes) (h : (lines f false calls)[i]? = some (some line)) :
      (w.callAll calls).2[i]? = some (if hasRoom budget
        (text ((lines f false calls).take (i + 1))).length then .ok () else .error .full) :=
    answer_written (w := w) hc h
  have hignored (i : Nat) (h : (lines f false calls)[i]? = some none) :
      (w.callAll calls).2[i]? = some (.ok ()) := answer_ignored (w := w) hc h
  have houtput : (w.callAll calls).1.sink.bytes = upTo budget (text (lines f false calls)) :=
    congrArg Sink.bytes (sink_callAll (w := w) hc calls)
  have hbytes : (w.callAll calls).1.stats.bytesWritten =
      (text (completed (lines f false calls) (w.callAll calls).2)).length :=
    (bytes_callAll (w := w) hc calls).trans (Nat.zero_add _)
  refine ⟨houtput, hlength, hwritten, hignored, fun i j line hij hi hj => ?_,
    (rows_callAll (w := w) hc calls).trans (Nat.zero_add _), hbytes, fun h => ?_⟩
  · have hlt : i < (lines f false calls).length := by
      rw [length_lines, ← hlength]
      exact (List.getElem?_eq_some_iff.1 hi).1
    -- A call that writes nothing cannot have failed.
    cases hline : (lines f false calls)[i] with
    | none =>
      rw [hignored i (List.getElem?_eq_some_iff.2 ⟨hlt, hline⟩)] at hi
      exact absurd hi (by simp)
    | some first =>
      rw [hwritten i first (List.getElem?_eq_some_iff.2 ⟨hlt, hline⟩)] at hi
      rw [hwritten j line hj, if_neg fun hroom => ?_]
      rw [if_pos (Sink.hasRoom_of_le (length_text_take_le (Nat.succ_le_succ hij)) hroom)] at hi
      exact absurd hi (by simp)
  · have hroom : hasRoom budget (text (lines f false calls)).length = true :=
      hasRoom_of_answers (w := w) hc h
    have hwhole : (w.callAll calls).1.sink.bytes = text (lines f false calls) :=
      houtput.trans (Sink.upTo_of_hasRoom hroom)
    have hall : completed (lines f false calls) (w.callAll calls).2 = lines f false calls := by
      unfold completed
      rw [List.filter_eq_self.2 fun x hx => h x.2 (List.of_mem_zip hx).2,
        List.map_fst_zip (Nat.le_of_eq ((length_lines ..).trans hlength.symm))]
    exact ⟨hwhole, by rw [hbytes, hall, hwhole]⟩

/-- Nine bytes are room for the header and a part of the first row. -/
theorem calls_fill_sink_torn :
    (some 2 : Option Nat) ≠ some 0 ∧
      ((Writer.ofSink .standard ⟨some 2, some 9, []⟩).callAll
        [.header ["ID", "a"], .row [bytesOf "x", bytesOf "y"], .header ["b"],
          .row [bytesOf "z"]]).1.sink.bytes = bytesOf "`ID,a\nx,y" ∧
      ((Writer.ofSink .standard ⟨some 2, some 9, []⟩).callAll
        [.header ["ID", "a"], .row [bytesOf "x", bytesOf "y"], .header ["b"],
          .row [bytesOf "z"]]).2[3]? = some (.error .full) := by
  have hfilled := calls_fill_sink .standard (some 2) (some 9) (by decide)
    [.header ["ID", "a"], .row [bytesOf "x", bytesOf "y"], .header ["b"], .row [bytesOf "z"]]
  refine ⟨by decide, hfilled.output.trans (by decide +kernel), ?_⟩
  exact (hfilled.written 3 (bytesOf "z\n") (by decide +kernel)).trans (by decide +kernel)

end Writer

end Csv

end SheetExport
