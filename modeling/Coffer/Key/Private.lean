import Coffer.Key.Public
import Coffer.Random

/-!
# Key/Private — private keys

A **private key** is a scalar: a positive number below the order of the curve, written on 32 bytes.
Its public key is that multiple of the base point.
-/

namespace Coffer

open Curve

/-- **A private key**. -/
structure PrivateKey where
  /-- The scalar. -/
  scalar : Nat
  /-- It is not zero. -/
  pos : 0 < scalar
  /-- It is below the order of the curve. -/
  lt_order : scalar < order
deriving DecidableEq

namespace PrivateKey

/-- How many bytes a private key has. -/
def size : Nat := 32

/-- The 32 bytes of a key, highest first. -/
def encode (key : PrivateKey) : Bytes := Bytes.bigEndian size key.scalar

/-- The key that a scalar is, if it is one. -/
def ofScalar? (scalar : Nat) : Option PrivateKey :=
  if h : 0 < scalar ∧ scalar < order then some ⟨scalar, h.1, h.2⟩ else none

/-- Reads a private key. -/
def decode (bytes : Bytes) : Except KeyError PrivateKey :=
  if bytes.length = size then
    match ofScalar? (Bytes.ofBigEndian bytes) with
    | some key => .ok key
    | none => .error .invalidPrivateKey
  else .error .invalidPrivateKey

/-- **The public key** of a private key.  No scalar below the order takes the base point to the
identity, so the second case never arises. -/
def publicKey (key : PrivateKey) : PublicKey :=
  match base.multiple key.scalar with
  | .finite point => ⟨point⟩
  | .identity => ⟨base⟩

/-- **A new private key**: the first 32 bytes off the tape that are one.  There is none if the tape
ends first. -/
def generate? (tape : Tape) : Option (PrivateKey × Tape) :=
  match _h : tape.take? size with
  | none => none
  | some (bytes, rest) =>
    match decode bytes with
    | .ok key => some (key, rest)
    | .error _ => generate? rest
termination_by tape.remaining.length
decreasing_by
  have := Tape.length_remaining_of_take? (by assumption)
  simp only [size] at this
  omega

/-- The form of a key for messages, which shows nothing of it. -/
def redacted : String := "PrivateKey(\"[REDACTED]\")"

end PrivateKey

end Coffer
