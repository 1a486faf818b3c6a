import Coffer.Identifier

/-!
# Address — where an object is

An **address** is a container and an object in it, written as their two hexadecimal forms with a
slash in between.
-/

namespace Coffer

/-- **An address**: a container and an object in it. -/
structure Address where
  /-- The container. -/
  container : ContainerId
  /-- The object. -/
  object : ObjectId
deriving DecidableEq

/-- Why a text is no address. -/
inductive AddressError
  /-- A half is not the hexadecimal form of an identifier. -/
  | hex (fault : Hex.Fault)
  /-- There is no slash in the text. -/
  | noSeparator (text : String)
deriving DecidableEq

/-- The wording of an error. -/
def AddressError.message : AddressError → String
  | hex fault => "invalid hex: " ++ fault.message
  | noSeparator text => "invalid address: missing '/' separator in " ++ Text.quoted text

namespace Address

/-- An address as text. -/
def toText (address : Address) : String :=
  address.container.toHex ++ "/" ++ address.object.toHex

/-- A half of an address. -/
def half (named : Named) (digits : List Char) : Except AddressError (Identifier named) :=
  (Identifier.ofHex named (String.ofList digits)).mapError .hex

/-- **Reads an address.**  The text is split at its first slash, and the container is read before
the object. -/
def ofText (text : String) : Except AddressError Address :=
  match text.toList.span (· != '/') with
  | (_, []) => .error (.noSeparator text)
  | (front, _ :: back) => return ⟨← half .container front, ← half .object back⟩

/-- An address for messages: the short forms of its two halves. -/
def labelled (address : Address) : String :=
  "Address \x7b container_id: " ++ address.container.labelled ++ ", object_id: "
    ++ address.object.labelled ++ " \x7d"

end Address

end Coffer
