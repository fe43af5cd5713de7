import SheetExport.Store

/-! # Transactions

A connection has at most one transaction open. Its statements see what the transaction has
changed, and a commit saves it. A commit that the store refuses leaves the transaction open.
-/

namespace SheetExport.Store

structure Transaction where
  store : Store
  /-- Whether it lacks a row that a foreign key asks for when it is committed. -/
  owes : Bool
  deriving DecidableEq

structure Connection where
  saved : Store
  pending : Option Transaction
  deriving DecidableEq

namespace Connection

/-- No transaction is open. -/
def idle (s : Store) : Connection := ⟨s, none⟩

end Connection

end SheetExport.Store
