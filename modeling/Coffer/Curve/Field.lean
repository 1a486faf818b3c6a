/-!
# Curve/Field — coordinates of curve points

The coordinates of a point of P-256 are numbers modulo a prime.  Powers are taken bit by bit, and
the inverse and the square root are powers.
-/

namespace Coffer.Curve

/-- The number of coordinates: `2 ^ 256 - 2 ^ 224 + 2 ^ 192 + 2 ^ 96 - 1`, a prime. -/
def prime : Nat := 0xffffffff00000001000000000000000000000000ffffffffffffffffffffffff

instance : @NeZero Nat Zero.ofOfNat0 prime := ⟨Nat.succ_ne_zero _⟩

/-- **A coordinate**: a number modulo the prime. -/
abbrev Coordinate := Fin prime

/-- The lowest `width` bits of a number, highest first. -/
def bits (width value : Nat) : List Bool :=
  (List.range width).reverse.map value.testBit

namespace Coordinate

/-- The power of a coordinate whose exponent has 256 bits: square for every bit, and multiply for
every bit that is set. -/
def power (base : Coordinate) (exponent : Nat) : Coordinate :=
  (bits 256 exponent).foldl
    (fun value bit => if bit then value * value * base else value * value) 1

/-- The inverse of a coordinate; zero for zero. -/
def inverse (x : Coordinate) : Coordinate := power x (prime - 2)

/-- A square root of a coordinate, if it is a square: the prime leaves three on division by four. -/
def root? (x : Coordinate) : Option Coordinate :=
  let y := power x ((prime + 1) / 4)
  if y * y = x then some y else none

/-- The coordinate that a number below the prime is. -/
def ofNat? (value : Nat) : Option Coordinate :=
  if h : value < prime then some ⟨value, h⟩ else none

end Coordinate

end Coffer.Curve
