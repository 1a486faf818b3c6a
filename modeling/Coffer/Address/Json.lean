import Coffer.Address
import Coffer.Json.Reader
import Coffer.Json.Writer

/-!
# Address/Json — identifiers and addresses as JSON

An identifier is an array of its 32 bytes.  An address is an object with two members, in any order
and among others, or an array of the two identifiers.
-/

namespace Coffer

/-- A byte string as an array of numbers. -/
def Bytes.toJson (bytes : Bytes) : Json := .array (bytes.map fun byte => .ofNat byte.toNat)

/-- The byte that a value is: a natural number below 256. -/
def Bytes.byteOfJson? (value : Json) : Option UInt8 := do
  let number ← value.natural?
  if number < 256 then some (UInt8.ofNat number) else none

/-- The byte string that a value is: an array of bytes. -/
def Bytes.ofJson? : Json → Option Bytes
  | .array items => items.mapM byteOfJson?
  | _ => none

namespace Identifier

/-- An identifier as an array of its bytes. -/
def toJson {named : Named} (id : Identifier named) : Json := Bytes.toJson id.bytes

/-- The identifier that a value is. -/
def ofJson? (named : Named) (value : Json) : Option (Identifier named) :=
  (Bytes.ofJson? value).bind (ofBytes? named)

/-- Reads an identifier from a JSON text. -/
def ofJsonText? (named : Named) (text : String) : Option (Identifier named) :=
  (Json.ofText? text).bind (ofJson? named)

end Identifier

namespace Address

/-- An address as an object: its container, then its object. -/
def toJson (address : Address) : Json :=
  .record [("container_id", address.container.toJson), ("object_id", address.object.toJson)]

/-- The address that a value is. -/
def ofJson? : Json → Option Address
  | .object members => do
    let container ← (← Json.member? "container_id" members).bind (Identifier.ofJson? .container)
    let object ← (← Json.member? "object_id" members).bind (Identifier.ofJson? .object)
    return ⟨container, object⟩
  | .array [container, object] => do
    return ⟨← Identifier.ofJson? .container container, ← Identifier.ofJson? .object object⟩
  | _ => none

/-- An address as a JSON text without white space. -/
def toJsonText (address : Address) : String := address.toJson.compact

/-- Reads an address from a JSON text. -/
def ofJsonText? (text : String) : Option Address := (Json.ofText? text).bind ofJson?

end Address

end Coffer
