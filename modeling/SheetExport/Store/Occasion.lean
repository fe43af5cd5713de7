/-! # What a statement meets when it runs

An answer of the store depends on more than its tables: on its clock, on numbers that it draws, and
on the order in which it looks at rows.
-/

namespace SheetExport.Store

structure Occasion where
  /-- The time of the clock, in milliseconds since Julian days begin. -/
  now : Int
  /-- The numbers drawn for clashing names, a list for each result column. -/
  drawn : List (List UInt32)
  /-- Whether a pattern that is too long is asked of some row before the rows are through. -/
  meetsLongPatterns : Bool
  deriving DecidableEq

/-- The clock stands at its start, and nothing is drawn or refused. -/
def Occasion.quiet : Occasion := ⟨0, [], false⟩

end SheetExport.Store
