/-!
# Wire/Fault — why bytes are not a message

Every way in which reading a message can fail, with its wording.
-/

namespace Coffer.Wire

/-- Why bytes do not read as a message.  The last four name the field whose value is at fault. -/
inductive Fault
  /-- The bytes end inside a varint. -/
  | truncatedVarint
  /-- A varint runs past sixty-four bits. -/
  | varintOverflow
  /-- A field number needs more than thirty-two bits. -/
  | numberOutOfRange
  /-- A field has number zero. -/
  | numberZero
  /-- Fewer than eight bytes are left for a fixed eight-byte value. -/
  | truncatedFixed64
  /-- Fewer bytes are left than a length announces. -/
  | truncatedPayload
  /-- Fewer than four bytes are left for a fixed four-byte value. -/
  | truncatedFixed32
  /-- A field is of a kind that has no reading. -/
  | unsupportedKind (kind : Nat)
  /-- The field holds no payload of bytes. -/
  | expectedPayload (field : String)
  /-- The field's payload is not well-formed UTF-8. -/
  | invalidText (field : String)
  /-- The field's number does not fit into thirty-two bits. -/
  | valueOutOfRange (field : String)
  /-- The field holds no varint. -/
  | expectedVarint (field : String)
deriving DecidableEq

/-- The wording of a fault. -/
def Fault.message : Fault → String
  | truncatedVarint => "truncated varint"
  | varintOverflow => "varint overflow"
  | numberOutOfRange => "field number out of range"
  | numberZero => "field number zero"
  | truncatedFixed64 => "truncated fixed64"
  | truncatedPayload => "truncated length-delimited field"
  | truncatedFixed32 => "truncated fixed32"
  | unsupportedKind kind => "unsupported wire type " ++ toString kind
  | expectedPayload field => field ++ ": expected length-delimited field"
  | invalidText field => field ++ ": invalid UTF-8"
  | valueOutOfRange field => field ++ ": value out of range"
  | expectedVarint field => field ++ ": expected varint field"

end Coffer.Wire
