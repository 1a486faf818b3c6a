import Coffer.Bytes

/-!
# Cipher/Poly1305 — one-time authentication

The message, cut into pieces of sixteen bytes, gives the coefficients of a polynomial over the
field of `2 ^ 130 - 5` elements.  Its value at a secret point, masked by a secret number, is the
tag.
-/

namespace Coffer.Cipher.Poly1305

/-- The number of elements of the field: `2 ^ 130 - 5`. -/
def modulus : Nat := 0x3fffffffffffffffffffffffffffffffb

/-- The bits that the secret point may have. -/
def pointMask : Nat := 0x0ffffffc0ffffffc0ffffffc0fffffff

/-- A piece as a coefficient: its number, with a one above its last byte. -/
def coefficient (piece : Bytes) : Nat := Bytes.ofLittleEndian (piece ++ [1])

/-- The value of the message's polynomial at a point. -/
def evaluate (point : Nat) (message : Bytes) : Nat :=
  (Bytes.chunks 16 message).foldl
    (fun value piece => (value + coefficient piece) * point % modulus) 0

/-- **The tag** of a message under a key of 32 bytes that is used only once: the first half of the
key gives the point, the second the mask. -/
def tag (key message : Bytes) : Bytes :=
  let point := Bytes.ofLittleEndian (key.take 16) &&& pointMask
  let mask := Bytes.ofLittleEndian (key.drop 16)
  Bytes.littleEndian 16 (evaluate point message + mask)

@[simp] theorem length_tag (key message : Bytes) : (tag key message).length = 16 :=
  Bytes.length_littleEndian 16 _

end Coffer.Cipher.Poly1305
