import Coffer.Curve.Field

/-!
# Curve/Point — points of P-256 and their multiples

A **point** of the curve `y² = x³ - 3x + b` is a pair of coordinates that satisfies the equation,
or the identity.  Multiples are computed on **triples** `(x, y, z)`, which stand for the point
`(x / z², y / z³)`, or for the identity when `z` is zero, and which need no division.
-/

namespace Coffer.Curve

/-- The constant term of the curve's equation. -/
def constant : Coordinate := ⟨0x5ac635d8aa3a93e7b3ebbd55769886bc651d06b0cc53b0f63bce3c3e27d2604b,
  by decide⟩

/-- The equation of the curve. -/
def OnCurve (x y : Coordinate) : Prop := y * y = x * x * x - 3 * x + constant

instance (x y : Coordinate) : Decidable (OnCurve x y) := inferInstanceAs (Decidable (_ = _))

/-- **A finite point** of the curve. -/
structure FinitePoint where
  /-- The first coordinate. -/
  x : Coordinate
  /-- The second coordinate. -/
  y : Coordinate
  /-- They satisfy the equation. -/
  onCurve : OnCurve x y
deriving DecidableEq

/-- **A point** of the curve. -/
inductive Point
  /-- The identity, which has no coordinates. -/
  | identity
  /-- A point that has coordinates. -/
  | finite (point : FinitePoint)
deriving DecidableEq

/-- The number of points, a prime. -/
def order : Nat := 0xffffffff00000000ffffffffffffffffbce6faada7179e84f3b9cac2fc632551

/-- The base point, of which every point is a multiple. -/
def base : FinitePoint where
  x := ⟨0x6b17d1f2e12c4247f8bce6e563a440f277037d812deb33a0f4a13945d898c296, by decide⟩
  y := ⟨0x4fe342e2fe1a7f9b8ee7eb4a7c0f9e162bce33576b315ececbb6406837bf51f5, by decide⟩
  onCurve := by decide +kernel

/-- The point with the given coordinates, if they satisfy the equation. -/
def FinitePoint.ofCoordinates? (x y : Coordinate) : Option FinitePoint :=
  if h : OnCurve x y then some ⟨x, y, h⟩ else none

/-! ## Triples -/

/-- **A triple**: the point `(x / z², y / z³)`, or the identity when `z` is zero. -/
structure Triple where
  (x y z : Coordinate)

namespace Triple

/-- The identity as a triple. -/
def identity : Triple := ⟨1, 1, 0⟩

/-- A finite point as a triple. -/
def ofFinite (point : FinitePoint) : Triple := ⟨point.x, point.y, 1⟩

/-- The sum of a triple with itself. -/
def double (p : Triple) : Triple :=
  let zz := p.z * p.z
  let yy := p.y * p.y
  let s := 4 * (p.x * yy)
  let slope := 3 * ((p.x - zz) * (p.x + zz))
  let x := slope * slope - 2 * s
  ⟨x, slope * (s - x) - 8 * (yy * yy), 2 * (p.y * p.z)⟩

/-- The sum of two triples. -/
def add (p q : Triple) : Triple :=
  if p.z = 0 then q
  else if q.z = 0 then p
  else
    let pzz := p.z * p.z
    let qzz := q.z * q.z
    let u := p.x * qzz
    let s := p.y * (q.z * qzz)
    let h := q.x * pzz - u
    let r := q.y * (p.z * pzz) - s
    if h = 0 then (if r = 0 then double p else identity)
    else
      let hh := h * h
      let hhh := h * hh
      let v := u * hh
      let x := r * r - hhh - 2 * v
      ⟨x, r * (v - x) - s * hhh, h * (p.z * q.z)⟩

/-- The `scalar`-fold sum of a triple, for a scalar of 256 bits: double for every bit, and add for
every bit that is set. -/
def multiple (scalar : Nat) (p : Triple) : Triple :=
  (bits 256 scalar).foldl (fun sum bit => if bit then add (double sum) p else double sum) identity

/-- The point that a triple stands for; a triple that is not on the curve, which no sum of points
is, counts as the identity. -/
def toPoint (p : Triple) : Point :=
  if p.z = 0 then .identity
  else
    let w := Coordinate.inverse p.z
    let ww := w * w
    match FinitePoint.ofCoordinates? (p.x * ww) (p.y * (w * ww)) with
    | some point => .finite point
    | none => .identity

end Triple

/-- **The multiple of a point**, for a scalar of 256 bits. -/
def FinitePoint.multiple (scalar : Nat) (point : FinitePoint) : Point :=
  (Triple.multiple scalar (Triple.ofFinite point)).toPoint

end Coffer.Curve
