/-! # Progress of an export job

A job moves forward through six statuses. The status names the last stage that was reached.
-/

namespace SheetExport

inductive Status where
  | started
  | preparingScratch
  | filteringEntities
  | compilingResults
  | cleaningUp
  | done
  deriving DecidableEq

namespace Status

def all : List Status :=
  [started, preparingScratch, filteringEntities, compilingResults, cleaningUp, done]

def rank : Status → Nat
  | started => 0
  | preparingScratch => 1
  | filteringEntities => 2
  | compilingResults => 3
  | cleaningUp => 4
  | done => 5

def text : Status → String
  | started => "started"
  | preparingScratch => "preparing_scratch"
  | filteringEntities => "filtering_entities"
  | compilingResults => "compiling_results"
  | cleaningUp => "cleaning_up"
  | done => "done"

def description : Status → String
  | started => "Started"
  | preparingScratch => "Preparing"
  | filteringEntities => "Filtering entities"
  | compilingResults => "Collecting data"
  | cleaningUp => "Cleaning up"
  | done => "Finished"

def next? : Status → Option Status
  | started => some preparingScratch
  | preparingScratch => some filteringEntities
  | filteringEntities => some compilingResults
  | compilingResults => some cleaningUp
  | cleaningUp => some done
  | done => none

/-- What a job is busy with: a job that reached one stage works on the next. -/
def activity (s : Status) : String := (s.next?.getD done).description

def isDone (s : Status) : Bool := s = done

def parse? (raw : String) : Option Status := all.find? (·.text == raw)

end Status

end SheetExport
