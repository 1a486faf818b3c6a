import Coffer.Address

/-!
# Store/Error — what can go wrong in a store

The failures of storing and finding objects, with their wording.
-/

namespace Coffer

/-- A failure of a store. -/
inductive StoreError
  /-- A table could not be read or written. -/
  | database (detail : String)
  /-- Attributes could not be written or read. -/
  | serialization (detail : String)
  /-- No object has this address. -/
  | notFound (address : Address)
  /-- What is stored is not what it should be. -/
  | invalidData (detail : String)
  /-- The tables are of a version that is not supported. -/
  | migration (detail : String)
  /-- A task did not finish. -/
  | task (detail : String)
  /-- Reading or writing failed. -/
  | io (detail : String)
deriving DecidableEq

/-- The wording of a failure. -/
def StoreError.message : StoreError → String
  | database detail => "database error: " ++ detail
  | serialization detail => "serialization error: " ++ detail
  | notFound address => "object not found: " ++ address.toText
  | invalidData detail => "invalid data: " ++ detail
  | migration detail => "migration error: " ++ detail
  | task detail => "task error: " ++ detail
  | io detail => "I/O error: " ++ detail

end Coffer
