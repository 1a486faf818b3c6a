import Coffer.Text.Utf8
import Coffer.Text.Quoted

/-!
# Hex — byte strings in hexadecimal

Two digits a byte, high half first; written in lower case, read in either.  Reading looks at the
UTF-8 bytes of the text: an odd number of them is refused before any digit is looked at, and of
several bad digits the first is reported.
-/

namespace Coffer.Hex

/-- Why a text is not the hexadecimal form that was asked for. -/
inductive Fault
  /-- The text has an odd number of bytes. -/
  | oddLength
  /-- The byte at this index is no hexadecimal digit. -/
  | badDigit (byte : UInt8) (index : Nat)
  /-- The digits spell a byte string of another length than the one expected. -/
  | wrongLength
deriving DecidableEq

/-- The wording of a fault. -/
def Fault.message : Fault → String
  | oddLength => "Odd number of digits"
  | badDigit byte index =>
    "Invalid character " ++ Text.quotedChar (Char.ofNat byte.toNat) ++ " at position "
      ++ toString index
  | wrongLength => "Invalid string length"

/-! ## Writing -/

/-- The digit that stands for a number below sixteen. -/
def digit (value : Nat) : Char :=
  if value < 10 then Char.ofNat (48 + value) else Char.ofNat (87 + value)

/-- The two digits of a byte. -/
def byteDigits (byte : UInt8) : List Char := [digit (byte.toNat / 16), digit (byte.toNat % 16)]

/-- A byte string in hexadecimal, lower case. -/
def encode (bytes : Bytes) : String := String.ofList (bytes.flatMap byteDigits)

/-! ## Reading -/

/-- The value of a digit given as a byte, in either case. -/
def digitValue? (byte : UInt8) : Option Nat :=
  let n := byte.toNat
  if 48 ≤ n ∧ n ≤ 57 then some (n - 48)
  else if 97 ≤ n ∧ n ≤ 102 then some (n - 87)
  else if 65 ≤ n ∧ n ≤ 70 then some (n - 55)
  else none

/-- The bytes that pairs of digits spell, the first digit standing at `index`. -/
def decodePairs (index : Nat) : Bytes → Except Fault Bytes
  | high :: low :: rest =>
    match digitValue? high, digitValue? low with
    | some h, some l => return UInt8.ofNat (16 * h + l) :: (← decodePairs (index + 2) rest)
    | none, _ => .error (.badDigit high index)
    | some _, none => .error (.badDigit low (index + 1))
  | _ => .ok []

/-- The bytes that a hexadecimal text spells. -/
def decode (text : String) : Except Fault Bytes :=
  let digits := Text.Utf8.encode text
  if digits.length % 2 = 1 then .error .oddLength else decodePairs 0 digits

/-- The block of `size` bytes that a hexadecimal text spells. -/
def decodeBlock (size : Nat) (text : String) : Except Fault (Block size) := do
  match Block.ofBytes? size (← decode text) with
  | some block => pure block
  | none => throw .wrongLength

end Coffer.Hex
