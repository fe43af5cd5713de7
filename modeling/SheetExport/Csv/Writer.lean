import SheetExport.Fault
import SheetExport.Sink

/-! # Writing CSV

A writer puts one record after another into a sink and counts what was written in full.
-/

namespace SheetExport.Csv

structure Stats where
  rowsWritten : Nat
  bytesWritten : Nat
  deriving DecidableEq

structure Writer where
  format : Format
  sink : Sink
  headerWritten : Bool
  stats : Stats
  deriving DecidableEq

namespace Writer

def ofSink (format : Format) (sink : Sink) : Writer := ⟨format, sink, false, ⟨0, 0⟩⟩

def record (w : Writer) (cells : List Bytes) : Writer × Except SinkFault Unit :=
  let line := w.format.record cells
  match w.sink.write line with
  | (sink, .ok ()) =>
    ({ w with
        sink := sink
        stats := { w.stats with bytesWritten := w.stats.bytesWritten + line.length } }, .ok ())
  | (sink, .error fault) => ({ w with sink := sink }, .error fault)

/-- Only the first header is written. -/
def header (w : Writer) (names : List String) : Writer × Except SinkFault Unit :=
  if w.headerWritten then (w, .ok ())
  else { w with headerWritten := true }.record ((headerCells names).map bytesOf)

def row (w : Writer) (cells : List Bytes) : Writer × Except SinkFault Unit :=
  match w.record cells with
  | (w, .ok ()) =>
    ({ w with stats := { w.stats with rowsWritten := w.stats.rowsWritten + 1 } }, .ok ())
  | (w, .error fault) => (w, .error fault)

def finish (w : Writer) : Except SinkFault Stats := do
  w.sink.flush
  return w.stats

end Writer

end SheetExport.Csv
