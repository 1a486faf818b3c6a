import Coffer.Box.Unpack
import Coffer.Pool.Lending
import Coffer.Service.Error
import Coffer.Service.Settings
import Coffer.Store.Basic

/-!
# Service/Basic — the credential service

The **credential service** puts packed boxes into a store and reads them back.  It reads every box
through a buffer of its pool, which it gives back whatever comes of the reading.
-/

namespace Coffer

/-- **The credential service** over a store with state `σ`. -/
structure CredentialService (σ : Type) where
  /-- The state of the store. -/
  store : σ
  /-- The pool, with the buffers that others hold. -/
  lending : Lending
  /-- The settings. -/
  settings : Settings

namespace CredentialService

variable {σ : Type}

/-- **A new service** over a store, if there can be room for a pool as the settings ask for. -/
def create (store : σ) (settings : Settings) : Except RoomError (CredentialService σ) :=
  return ⟨store, .fresh (← settings.pool), settings⟩

/-- The pool of a service. -/
def pool (service : CredentialService σ) : BufferPool := service.lending.pool

/-- The service begun again over a store, with a pool like the one it had. -/
def renewed (service : CredentialService σ) (store : σ) : CredentialService σ :=
  { service with store := store, lending := service.lending.renewed service.pool.anew }

/-- Makes a call on the store. -/
def onStore {α : Type} (call : StateM σ α) : StateM (CredentialService σ) α := fun service =>
  let (answer, store) := call.run service.store
  (answer, { service with store := store })

/-- Makes a change to the pool. -/
def onPool {α : Type} (change : BufferPool → α × BufferPool) : StateM (CredentialService σ) α :=
  fun service =>
    let (answer, pool) := change service.lending.pool
    (answer, { service with lending := { service.lending with pool := pool } })

/-- Makes a change to the pool and the buffers that others hold. -/
def onLending {α : Type} (change : Lending → α × Lending) : StateM (CredentialService σ) α :=
  fun service =>
    let (answer, lending) := change service.lending
    (answer, { service with lending := lending })

/-! ## Putting -/

/-- What is added to the time of creation to make a name for readers. -/
def fileNameSuffix : String := "_access.box"

/-- The time that is noted when the clock shows `now` seconds: none before the epoch. -/
def timestamp (now : Int) : String := toString now.toNat

/-- The attributes of a box put when the clock shows `now` seconds. -/
def boxAttributes (now : Int) : List Attribute :=
  [⟨Attribute.fileNameKey, timestamp now ++ fileNameSuffix⟩,
   ⟨Attribute.timestampKey, timestamp now⟩]

/-- What is stored when a box is put. -/
def boxContent (container : ContainerId) (issuer : OwnerId) (box : AccessBox) (now : Int) :
    Content :=
  ⟨container, issuer, boxAttributes now, box.encode⟩

/-- The fault of a call that puts a box, if it has one: recipients are looked at before the box. -/
def putFault? (box : AccessBox) (recipients : List PublicKey) : Option ServiceError :=
  if recipients = [] then some .noRecipients
  else if box.isEmpty then some .emptyBox
  else none

variable [ObjectStore σ]

/-- **Puts a box** into a container and gives its address.  Of the recipients it only matters that
there are some. -/
def put (container : ContainerId) (issuer : OwnerId) (box : AccessBox)
    (recipients : List PublicKey) (now : Int) :
    StateM (CredentialService σ) (Except ServiceError Address) := do
  match putFault? box recipients with
  | some fault => return .error fault
  | none =>
    match ← onStore (ObjectStore.put (boxContent container issuer box now)) with
    | .ok object => return .ok ⟨container, object⟩
    | .error cause => return .error (.ofStoreError cause)

/-! ## Getting -/

/-- The box that a buffer holds after the store has answered. -/
def readBox (answer : Except StoreError Unit) (buffer : Buffer) : Except ServiceError AccessBox :=
  match answer with
  | .ok () => (AccessBox.decode buffer.content).mapError fun fault => .box (.malformed fault)
  | .error cause => .error (.ofStoreError cause)

/-- **Fetches the box** at an address: takes a buffer from the pool, lets the store fill it, reads
it and gives it back. -/
def fetch (address : Address) : StateM (CredentialService σ) (Except ServiceError AccessBox) := do
  match ← onPool BufferPool.acquire with
  | .error cause => return .error (.room cause)
  | .ok buffer =>
    let (answer, buffer) ← onStore (ObjectStore.getInto address buffer)
    let box := readBox answer buffer
    onPool fun pool => ((), pool.release buffer)
    return box

/-- Fetches the box at an address and unpacks it. -/
def fetchUnpacked (address : Address) (key : PrivateKey) :
    StateM (CredentialService σ) (Except ServiceError Unpacked) := do
  match ← fetch address with
  | .ok box => return (box.unpack key).mapError .box
  | .error cause => return .error cause

/-- Fetches the box at an address, unpacks it, and gives only the content of the gate. -/
def fetchGate (address : Address) (key : PrivateKey) :
    StateM (CredentialService σ) (Except ServiceError GateContent) := do
  return (← fetchUnpacked address key).map Unpacked.gate

/-- **Closes the pool**, and gives the number of buffers dropped; the service goes on without it. -/
def closePool : StateM (CredentialService σ) Nat := onPool BufferPool.drain

end CredentialService

end Coffer
