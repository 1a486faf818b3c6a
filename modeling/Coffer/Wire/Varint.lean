import Coffer.Bytes
import Coffer.Wire.Fault

/-!
# Wire/Varint — numbers in as many bytes as they need

A **varint** writes a number in base 128, lowest digit first; every byte but the last has its top
bit set.  A reader takes at most ten bytes, and of the tenth only what still fits into sixty-four
bits.
-/

namespace Coffer.Wire.Varint

/-- A number as a varint. -/
def write (value : Nat) : Bytes :=
  if value < 128 then [UInt8.ofNat value]
  else UInt8.ofNat (128 + value % 128) :: write (value / 128)
termination_by value

/-- Reads a varint of at most `limit` bytes, and gives back what follows it.  The last byte allowed
may only be zero or one: it is the tenth, and carries the top bit of sixty-four. -/
def readWithin : (limit : Nat) → Bytes → Except Fault (Nat × Bytes)
  | 0, _ => .error .varintOverflow
  | _ + 1, [] => .error .truncatedVarint
  | limit + 1, byte :: rest =>
    if limit = 0 ∧ 1 < byte then .error .varintOverflow
    else if byte < 128 then .ok (byte.toNat, rest)
    else do
      let (high, rest) ← readWithin limit rest
      return (byte.toNat % 128 + 128 * high, rest)

/-- Reads a varint, and gives back what follows it. -/
def read (bytes : Bytes) : Except Fault (Nat × Bytes) := readWithin 10 bytes

end Coffer.Wire.Varint
