import SheetExport.Csv.Record

/-! # Sinks

A sink takes bytes, perhaps only a few at a time and perhaps only a limited number of them. What
it took before a failure stays in it.
-/

namespace SheetExport

inductive SinkFault where
  | full
  /-- A write that took nothing. -/
  | stalled
  | flushRefused
  deriving DecidableEq

def SinkFault.message : SinkFault → String
  | full => "sink is full"
  | stalled => "write zero"
  | flushRefused => "flush refused"

structure Sink where
  /-- The most bytes that one write takes. -/
  chunk : Option Nat
  /-- The bytes that can still be taken. -/
  budget : Option Nat
  bytes : Bytes
  deriving DecidableEq

namespace Sink

/-- A sink that takes everything. -/
def unlimited : Sink := ⟨none, none, []⟩

def atMost (limit : Option Nat) (n : Nat) : Nat :=
  match limit with
  | some k => min k n
  | none => n

def isFull (s : Sink) : Bool := s.budget = some 0

/-- How many of `n` offered bytes one write takes. -/
def accepted (s : Sink) (n : Nat) : Nat := atMost s.budget (atMost s.chunk n)

def append (s : Sink) (data : Bytes) : Sink :=
  { s with budget := s.budget.map (· - data.length), bytes := s.bytes ++ data }

/-- Writes until all the data is taken or a write fails. -/
def write (s : Sink) (data : Bytes) : Sink × Except SinkFault Unit :=
  if data.isEmpty then (s, .ok ())
  else if s.isFull then (s, .error .full)
  else
    let n := s.accepted data.length
    if _taken : 0 < n then (s.append (data.take n)).write (data.drop n)
    else (s, .error .stalled)
termination_by data.length
decreasing_by
  have : data ≠ [] := by simpa using ‹¬data.isEmpty = true›
  have := List.length_pos_iff.2 this
  simp only [List.length_drop]
  omega

def flush (s : Sink) : Except SinkFault Unit := if s.isFull then .error .flushRefused else .ok ()

end Sink

end SheetExport
