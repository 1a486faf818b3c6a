import Mathlib.GroupTheory.Perm.Cycle.Type
import Coffer.Proofs.Curve.Group
import Coffer.Proofs.Key.RoundTrip

/-!
# Proofs/Curve/Order — every finite point generates the whole group

The group has exactly as many points as the order of the base point (`natCard_group`): a coordinate
belongs to two points at most, so there could only be twice as many, and then some point would be
its own negative.  Its first coordinate would be a root of the cubic, which has none
(`cubic_ne_zero`).  Since the order is a prime, no positive scalar below it takes any finite point
to the identity (`FinitePoint.exists_multiple_eq`).
-/

namespace Coffer.Curve

open Coordinate WeierstrassCurve.Affine

/-! ## The cubic has no root -/

/-- **A remainder** on division by the cubic of the curve. -/
structure Remainder where
  /-- The coefficients, from the constant one on. -/
  (constant linear square : Coordinate)
deriving DecidableEq

namespace Remainder

/-- The remainder of one. -/
def one : Remainder := ⟨1, 0, 0⟩

/-- The remainder of the unknown. -/
def unknown : Remainder := ⟨0, 1, 0⟩

/-- The difference of two remainders. -/
def sub (p q : Remainder) : Remainder :=
  ⟨p.constant - q.constant, p.linear - q.linear, p.square - q.square⟩

/-- The remainder of a product: the cube of the unknown is three times the unknown without the
constant of the curve. -/
def mul (p q : Remainder) : Remainder :=
  let cubic := p.linear * q.square + p.square * q.linear
  let quartic := p.square * q.square
  ⟨p.constant * q.constant - Curve.constant * cubic,
    p.constant * q.linear + p.linear * q.constant + 3 * cubic - Curve.constant * quartic,
    p.constant * q.square + p.linear * q.linear + p.square * q.constant + 3 * quartic⟩

/-- The remainder of a power of the unknown. -/
def power (exponent : Nat) : Remainder :=
  (bits 256 exponent).foldl
    (fun value bit => if bit then mul (mul value value) unknown else mul value value) one

/-- The value of a remainder. -/
def eval (p : Remainder) (x : ZMod prime) : ZMod prime :=
  residue p.constant + residue p.linear * x + residue p.square * x ^ 2

variable (p q : Remainder) (x : ZMod prime)

@[simp] theorem eval_one : one.eval x = 1 := by simp [one, eval]

@[simp] theorem eval_unknown : unknown.eval x = x := by simp [unknown, eval]

@[simp] theorem eval_sub : (sub p q).eval x = p.eval x - q.eval x := by
  simp only [sub, eval, residue_sub]
  ring

variable {x} (hroot : x ^ 3 - 3 * x + residue Curve.constant = 0)

include hroot

/-- **At a root of the cubic**, products have the values of products. -/
theorem eval_mul : (mul p q).eval x = p.eval x * q.eval x := by
  simp only [mul, eval, residue_add, residue_sub, residue_mul, residue_ofNat]
  linear_combination
    -(residue p.linear * residue q.square + residue p.square * residue q.linear
      + residue p.square * residue q.square * x) * hroot

theorem eval_power {exponent : Nat} (h : exponent < 2 ^ 256) :
    (power exponent).eval x = x ^ exponent := by
  refine foldl_bits (fun (value : Remainder) number => value.eval x = x ^ number) ?_ ?_ h
  · rw [eval_one, pow_zero]
  · intro value number bit hvalue
    have hsquare : (mul value value).eval x = x ^ (2 * number) := by
      rw [eval_mul _ _ hroot, hvalue, two_mul, pow_add]
    cases bit with
    | false => exact hsquare
    | true => rw [if_pos rfl, eval_mul _ _ hroot, hsquare, eval_unknown, Bool.toNat_true, pow_succ]

end Remainder

/-- The remainder that is inverse to the difference of the unknown's power with the prime as
exponent and the unknown itself. -/
def inverseOfDifference : Remainder where
  constant := ⟨0xa969487079f1744798bf0de6fded091b66e9d328eb0645fe5d979d1339b7f47f, by decide⟩
  linear := ⟨0xa4a08891884100c13323460107a8d28eede4387fa3e6e9bfebec9f6d72d0b5cc, by decide⟩
  square := ⟨0x4cde11cf86cb876cd59cf0115813c55af0ecd3cda667d98bb9a347a56aa74a6d, by decide⟩

private theorem mul_inverseOfDifference :
    inverseOfDifference.mul ((Remainder.power prime).sub .unknown) = .one := by
  decide +kernel

/-- **The cubic has no root**: there the difference of the unknown's power and the unknown would be
zero, and it has an inverse. -/
theorem cubic_ne_zero (x : ZMod prime) : x ^ 3 - 3 * x + residue constant ≠ 0 := by
  intro hroot
  have hone := congrArg (Remainder.eval · x) mul_inverseOfDifference
  simp only [Remainder.eval_mul _ _ hroot, Remainder.eval_sub,
    Remainder.eval_power hroot (by decide : prime < 2 ^ 256), ZMod.pow_card, Remainder.eval_unknown,
    sub_self, mul_zero, Remainder.eval_one] at hone
  exact zero_ne_one hone

/-- **No finite point is its own negative.** -/
theorem two_nsmul_ne_zero {p : curve.Point} (h : p ≠ 0) : 2 • p ≠ 0 := by
  obtain _ | ⟨x, y, hp⟩ := p
  · exact absurd rfl h
  have hy : y ≠ 0 := by
    rintro rfl
    have hequation := (WeierstrassCurve.Affine.equation_iff x 0).1 hp.1
    simp only [curve] at hequation
    exact cubic_ne_zero x (by linear_combination -hequation)
  rw [two_nsmul, Point.add_self_of_Y_ne (mt Triple.eq_negY_iff.1 hy)]
  exact Point.some_ne_zero _

/-! ## The number of points -/

/-- What is written of a point: its first coordinate, and whether its second one is odd. -/
def Point.compressed : Point → Option (Coordinate × Bool)
  | .identity => none
  | .finite point => some (point.x, decide (point.y.val % 2 = 1))

theorem Point.compressed_injective : Function.Injective Point.compressed := by
  intro p q h
  cases p with
  | identity =>
    cases q with
    | identity => rfl
    | finite q => cases h
  | finite p =>
    cases q with
    | identity => cases h
    | finite q =>
      obtain ⟨hx, hodd⟩ := Prod.mk.inj (Option.some.inj h)
      have hread := PublicKey.decompress?_eq p
      rw [hx, hodd, PublicKey.decompress?_eq q] at hread
      rw [Option.some.inj hread]

theorem Point.toGroup_surjective : Function.Surjective Point.toGroup := by
  rintro (_ | ⟨x, y, hp⟩)
  · exact ⟨.identity, rfl⟩
  · have hx : residue ⟨x.val, x.val_lt⟩ = x := ZMod.natCast_zmod_val x
    have hy : residue ⟨y.val, y.val_lt⟩ = y := ZMod.natCast_zmod_val y
    have honCurve : OnCurve ⟨x.val, x.val_lt⟩ ⟨y.val, y.val_lt⟩ := by
      rw [← Curve.equation_iff, hx, hy]
      exact hp.1
    refine ⟨.finite ⟨_, _, honCurve⟩, ?_⟩
    simp only [toGroup, FinitePoint.toGroup, hx, hy]

instance : Finite Point := .of_injective _ Point.compressed_injective

instance : Finite curve.Point := .of_surjective _ Point.toGroup_surjective

/-- A coordinate belongs to two points at most. -/
theorem natCard_group_le : Nat.card curve.Point ≤ 2 * prime + 1 := by
  have hgroup : Nat.card curve.Point = Nat.card Point :=
    (Nat.card_eq_of_bijective _ ⟨Point.toGroup_injective, Point.toGroup_surjective⟩).symm
  have hbool : Nat.card Bool = 2 := Nat.card_eq_fintype_card
  have hcompressed := Nat.card_le_card_of_injective _ Point.compressed_injective
  rw [Finite.card_option, Nat.card_prod, Nat.card_fin, hbool] at hcompressed
  omega

/-- **There are as many points as the order says.** -/
theorem natCard_group : Nat.card curve.Point = order := by
  obtain ⟨index, hindex⟩ : order ∣ Nat.card curve.Point := by
    rw [← FinitePoint.addOrderOf_base]
    exact addOrderOf_dvd_natCard _
  have hlt : 2 * prime + 1 < 3 * order := by decide
  have hpos : 0 < Nat.card curve.Point := Nat.card_pos
  have hle := natCard_group_le
  have hindexLt : index < 3 := by
    by_contra! hge
    have hmul := Nat.mul_le_mul_left order hge
    omega
  interval_cases index
  · omega
  · omega
  · -- twice as many points are too many, since none is its own negative
    have : Fact (Nat.Prime 2) := ⟨Nat.prime_two⟩
    obtain ⟨p, hp⟩ := exists_prime_addOrderOf_dvd_card' 2 ⟨order, hindex.trans (mul_comm _ _)⟩
    have hne : p ≠ 0 := fun hzero => by
      rw [hzero, addOrderOf_zero] at hp
      cases hp
    exact absurd (hp ▸ addOrderOf_nsmul_eq_zero p) (two_nsmul_ne_zero hne)

namespace FinitePoint

/-- **Every finite point generates the whole group.** -/
theorem addOrderOf_toGroup (point : FinitePoint) : addOrderOf point.toGroup = order := by
  have : Fact order.Prime := ⟨prime_order⟩
  refine addOrderOf_eq_prime ?_ (toGroup_ne_zero point)
  rw [← natCard_group]
  exact card_nsmul_eq_zero'

/-- **No positive scalar below the order takes a finite point to the identity.** -/
theorem exists_multiple_eq {scalar : Nat} (hpos : 0 < scalar) (hlt : scalar < order)
    (point : FinitePoint) : ∃ multiple, point.multiple scalar = .finite multiple := by
  have hmultiple := toGroup_multiple (hlt.trans (by decide)) point
  cases h : point.multiple scalar with
  | finite multiple => exact ⟨multiple, rfl⟩
  | identity =>
    rw [h] at hmultiple
    have hdvd := addOrderOf_dvd_of_nsmul_eq_zero hmultiple.symm
    rw [addOrderOf_toGroup] at hdvd
    exact absurd (Nat.le_of_dvd hpos hdvd) (Nat.not_le.2 hlt)

end FinitePoint

end Coffer.Curve
