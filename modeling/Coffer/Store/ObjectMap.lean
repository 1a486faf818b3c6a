import Coffer.Store.Basic

/-!
# Store/ObjectMap — a store in memory

An **object map** keeps headers and payloads by address.  What is stored once is never replaced.
-/

namespace Coffer

/-- What is kept at an address. -/
structure KeptObject where
  /-- The header. -/
  header : Header
  /-- The payload. -/
  payload : Bytes
deriving DecidableEq

/-- **An object map**: at most one object for each address. -/
structure ObjectMap where
  /-- The objects with their addresses, the latest first. -/
  entries : List (Address × KeptObject)
deriving DecidableEq

namespace ObjectMap

/-- The map that holds nothing. -/
def empty : ObjectMap := ⟨[]⟩

/-- The object at an address. -/
def find? (objects : ObjectMap) (address : Address) : Option KeptObject :=
  objects.entries.lookup address

/-- How many objects there are. -/
def size (objects : ObjectMap) : Nat := objects.entries.length

/-- Stores an object at an address, unless there is one already. -/
def insertNew (objects : ObjectMap) (address : Address) (object : KeptObject) : ObjectMap :=
  match objects.find? address with
  | some _ => objects
  | none => ⟨(address, object) :: objects.entries⟩

/-- Stores a content at its address. -/
def put (content : Content) : StateM ObjectMap (Except StoreError ObjectId) := do
  modify (·.insertNew content.address ⟨content.header, content.payload⟩)
  return .ok content.objectId

/-- The payload of the object at an address. -/
def get (address : Address) : StateM ObjectMap (Except StoreError Bytes) := do
  match (← MonadState.get).find? address with
  | some object => return .ok object.payload
  | none => return .error (.notFound address)

/-- The header of the object at an address. -/
def head (address : Address) : StateM ObjectMap (Except StoreError Header) := do
  match (← MonadState.get).find? address with
  | some object => return .ok object.header
  | none => return .error (.notFound address)

instance : ObjectStore ObjectMap := ⟨put, get, head⟩

end ObjectMap

end Coffer
