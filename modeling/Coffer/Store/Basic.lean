import Coffer.Content
import Coffer.Pool.Basic
import Coffer.Store.Error

/-!
# Store/Basic — stores of objects

A **store** takes contents, and gives back payloads and headers by address.  Its three calls are
functions of its state, which they may change.
-/

namespace Coffer

/-- **A store** whose state has type `σ`. -/
class ObjectStore (σ : Type) where
  /-- Stores a content and gives its identifier. -/
  put : Content → StateM σ (Except StoreError ObjectId)
  /-- Gives the payload of the object at an address. -/
  get : Address → StateM σ (Except StoreError Bytes)
  /-- Gives the header of the object at an address. -/
  head : Address → StateM σ (Except StoreError Header)

namespace ObjectStore

variable {σ : Type} [ObjectStore σ]

/-- **Reads the payload** of the object at an address behind what a buffer already holds; the buffer
stays as it is if there is none. -/
def getInto (address : Address) (buffer : Buffer) : StateM σ (Except StoreError Unit × Buffer) := do
  match ← get address with
  | .ok payload => return (.ok (), buffer.append payload)
  | .error cause => return (.error cause, buffer)

end ObjectStore

end Coffer
