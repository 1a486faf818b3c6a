import Coffer.Digest.Blake3
import Coffer.Hex
import Coffer.Key.Public

/-!
# Identifier — names of containers, objects and owners

An **identifier** is 32 bytes that name a container, an object or an owner; which of them is part
of its type, so one is never taken for another.  An owner's identifier follows from a public key.
-/

namespace Coffer

/-- What an identifier names. -/
inductive Named
  /-- A container, which holds objects. -/
  | container
  /-- An object within a container. -/
  | object
  /-- The party that owns an object. -/
  | owner
deriving DecidableEq

/-- The word for an identifier of each kind. -/
def Named.label : Named → String
  | container => "ContainerId"
  | object => "ObjectId"
  | owner => "OwnerId"

/-- **An identifier**: 32 bytes that name something. -/
structure Identifier (named : Named) where
  /-- The bytes. -/
  block : Block 32
deriving DecidableEq

/-- The name of a container. -/
abbrev ContainerId := Identifier .container

/-- The name of an object within a container. -/
abbrev ObjectId := Identifier .object

/-- The name of an owner. -/
abbrev OwnerId := Identifier .owner

namespace Identifier

variable {named : Named}

/-- The bytes of an identifier. -/
def bytes (id : Identifier named) : Bytes := id.block.bytes

/-- The identifier that a byte string is, if it has 32 bytes. -/
def ofBytes? (named : Named) (bytes : Bytes) : Option (Identifier named) :=
  (Block.ofBytes? 32 bytes).map Identifier.mk

/-! ## Text -/

/-- An identifier in hexadecimal: 64 digits. -/
def toHex (id : Identifier named) : String := Hex.encode id.bytes

/-- Reads an identifier in hexadecimal. -/
def ofHex (named : Named) (text : String) : Except Hex.Fault (Identifier named) :=
  return ⟨← Hex.decodeBlock 32 text⟩

/-- The short form of an identifier: its first eight bytes. -/
def short (id : Identifier named) : String := Hex.encode (id.bytes.take 8)

/-- The short form with the word for what it names. -/
def labelled (id : Identifier named) : String := named.label ++ "(" ++ id.short ++ ")"

/-! ## Order -/

/-- The number whose bytes, highest first, are the identifier's. -/
def number (id : Identifier named) : Nat := Bytes.ofBigEndian id.bytes

/-- The identifiers of a list in ascending order, each once. -/
def sorted (ids : List (Identifier named)) : List (Identifier named) :=
  (ids.mergeSort fun a b => decide (a.number ≤ b.number)).eraseReps

end Identifier

/-- The name under which the holder of a key owns objects. -/
def OwnerId.ofPublicKey (key : PublicKey) : OwnerId := ⟨Digest.Blake3.hash key.encode⟩

end Coffer
