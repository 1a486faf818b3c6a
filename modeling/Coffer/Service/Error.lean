import Coffer.Box.Error
import Coffer.Pool.Basic
import Coffer.Store.Error

/-!
# Service/Error — what can go wrong in the credential service

The failures of putting and getting boxes, with their wording.
-/

namespace Coffer

/-- A failure of the credential service. -/
inductive ServiceError
  /-- A box was put without recipients. -/
  | noRecipients
  /-- A box that holds nothing was put. -/
  | emptyBox
  /-- There is no object at this address. -/
  | notFound (address : Address)
  /-- Any other failure of the store. -/
  | store (cause : StoreError)
  /-- There cannot be room for a buffer to read into. -/
  | room (cause : RoomError)
  /-- The box at an address does not read or does not open. -/
  | box (cause : BoxError)
deriving DecidableEq

namespace ServiceError

/-- The failure of the service that a failure of its store amounts to. -/
def ofStoreError : StoreError → ServiceError
  | .notFound address => notFound address
  | other => store other

/-- The wording of a failure. -/
def message : ServiceError → String
  | noRecipients => "no recipients given"
  | emptyBox => "access box is empty"
  | notFound address => "access box not found: " ++ address.toText
  | store cause => "backend error: " ++ cause.message
  | room cause => cause.message
  | .box cause => "access box error: " ++ cause.message

end ServiceError

end Coffer
