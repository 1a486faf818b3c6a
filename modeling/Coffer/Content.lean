import Coffer.Address

/-!
# Content — what is stored, and its address

A **content** is a payload with its container, its owner and its attributes.  Its identifier is the
digest of its **stream**, in which every part of variable length stands behind its length, so
different contents have different streams.
-/

namespace Coffer

/-- A key and a value attached to a payload. -/
structure Attribute where
  /-- The key. -/
  key : String
  /-- The value. -/
  value : String
deriving DecidableEq

/-- The key under which the time of creation is kept, in seconds. -/
def Attribute.timestampKey : String := "Timestamp"

/-- The key under which a name for readers is kept. -/
def Attribute.fileNameKey : String := "FileName"

/-- What is known of a stored object besides its payload. -/
structure Header where
  /-- The owner. -/
  owner : OwnerId
  /-- The attributes, in order. -/
  attributes : List Attribute
  /-- How many bytes the payload has. -/
  payloadLength : Nat
deriving DecidableEq

/-- The value of the first attribute with the given key. -/
def Header.value? (header : Header) (key : String) : Option String :=
  (header.attributes.find? fun entry => entry.key == key).map Attribute.value

/-- **A content**: a payload with its container, its owner and its attributes. -/
structure Content where
  /-- The container. -/
  container : ContainerId
  /-- The owner. -/
  owner : OwnerId
  /-- The attributes, in order. -/
  attributes : List Attribute
  /-- The payload. -/
  payload : Bytes
deriving DecidableEq

namespace Content

/-- A length on eight bytes, lowest first. -/
def lengthBytes (length : Nat) : Bytes := Bytes.littleEndian 8 length

/-- A byte string behind its length. -/
def sized (bytes : Bytes) : Bytes := lengthBytes bytes.length ++ bytes

/-- The part of a stream that an attribute makes up. -/
def attributeStream (entry : Attribute) : Bytes :=
  sized (Text.Utf8.encode entry.key) ++ sized (Text.Utf8.encode entry.value)

/-- **The stream** of a content: container, owner, the number of attributes, the attributes, and the
payload. -/
def stream (content : Content) : Bytes :=
  content.container.bytes ++ content.owner.bytes
    ++ lengthBytes content.attributes.length ++ content.attributes.flatMap attributeStream
    ++ sized content.payload

/-- The context for which streams are digested. -/
def digestContext : String := "gatebox-store-v1-object-id"

/-- **The identifier** of a content. -/
def objectId (content : Content) : ObjectId :=
  ⟨Digest.Blake3.deriveKey digestContext content.stream⟩

/-- The address of a content. -/
def address (content : Content) : Address := ⟨content.container, content.objectId⟩

/-- The header of a content. -/
def header (content : Content) : Header :=
  ⟨content.owner, content.attributes, content.payload.length⟩

end Content

end Coffer
