import Coffer.Curve.Point
import Coffer.Hex
import Coffer.Key.Error

/-!
# Key/Public — public keys

A **public key** is a finite point of the curve.  It is written in 33 bytes, a tag that tells
whether its second coordinate is odd and then its first coordinate, and read from these or from
the 65 bytes that hold both coordinates.
-/

namespace Coffer

open Curve

/-- **A public key**. -/
structure PublicKey where
  /-- The point that the key is. -/
  point : FinitePoint
deriving DecidableEq

namespace PublicKey

/-- A coordinate on 32 bytes, highest first. -/
def coordinateBytes (x : Coordinate) : Bytes := Bytes.bigEndian 32 x.val

/-- The coordinate that a byte string holds, if its number is below the prime. -/
def coordinate? (bytes : Bytes) : Option Coordinate := Coordinate.ofNat? (Bytes.ofBigEndian bytes)

/-- The 33 bytes of a key. -/
def encode (key : PublicKey) : Bytes :=
  UInt8.ofNat (2 + key.point.y.val % 2) :: coordinateBytes key.point.x

/-- The point whose first coordinate is `x` and whose second is odd or not. -/
def decompress? (odd : Bool) (x : Coordinate) : Option FinitePoint := do
  let root ← Coordinate.root? (x * x * x - 3 * x + constant)
  let y := if (root.val % 2 == 1) == odd then root else -root
  FinitePoint.ofCoordinates? x y

/-- The point that a tag and coordinates describe. -/
def point? (tag : UInt8) (coordinates : Bytes) : Option FinitePoint := do
  if tag = 4 then
    let x ← coordinate? (coordinates.take 32)
    let y ← coordinate? (coordinates.drop 32)
    FinitePoint.ofCoordinates? x y
  else decompress? (tag = 3) (← coordinate? coordinates)

/-- **Reads a public key.**  The tag and the number of bytes decide between a key, a point of
another curve and no point at all. -/
def decode : Bytes → Except KeyError PublicKey
  | [] => .error .invalidPoint
  | tag :: coordinates =>
    let whole := tag = 4
    let compressed := tag = 2 ∨ tag = 3
    let size := coordinates.length + 1
    if (size = 33 ∧ compressed) ∨ (size = 65 ∧ whole) then
      match point? tag coordinates with
      | some point => .ok ⟨point⟩
      | none => .error .invalidPoint
    else if ((size = 49 ∨ size = 67) ∧ compressed) ∨ ((size = 97 ∨ size = 133) ∧ whole) then
      .error .curveMismatch
    else .error .invalidPoint

/-- A key in hexadecimal. -/
def toHex (key : PublicKey) : String := Hex.encode key.encode

/-- Reads a public key in hexadecimal. -/
def ofHex (text : String) : Except KeyError PublicKey :=
  match Hex.decode text with
  | .ok bytes => decode bytes
  | .error _ => .error .invalidPoint

/-- The short form of a key for messages: its first eight bytes. -/
def abbreviated (key : PublicKey) : String :=
  "PublicKey(" ++ Hex.encode (key.encode.take 8) ++ ")"

end PublicKey

end Coffer
