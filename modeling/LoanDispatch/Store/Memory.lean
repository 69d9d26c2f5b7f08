import LoanDispatch.Profile.Resolution

/-!
Lender rows in memory.
-/

set_option autoImplicit false

namespace LoanDispatch.Store

structure Memory where
  rows : List (String × LenderRow)

namespace Memory

def empty : Memory := ⟨[]⟩

def put (store : Memory) (lenderId : String) (row : LenderRow) : Memory :=
  ⟨Entries.insert lenderId row store.rows⟩

def get? (store : Memory) (lenderId : String) : Option LenderRow :=
  Entries.lookup lenderId store.rows

def source (store : Memory) : LenderSource where
  fetch lenderId := pure (store.get? lenderId)

end Memory

end LoanDispatch.Store
