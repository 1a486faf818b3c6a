import Coffer.Key.Agreement
import Coffer.Proofs.Curve.Order
import Coffer.Proofs.Key.Generation

/-!
# Proofs/Key/Agreement — both sides agree on one secret

A public key is the multiple of the base point by its private key, so what two private keys agree
on, each with the public key of the other, is the multiple of the base point by both.  No agreement
ends at the identity, whatever the public key, since every finite point generates the whole group;
so there always is a symmetric key (`PrivateKey.exists_symmetricKey_eq`), and it is one for both
sides (`PrivateKey.both_sides_agree`).
-/

namespace Coffer

open Curve

namespace PrivateKey

variable (a b : PrivateKey)

theorem lt_two_pow : a.scalar < 2 ^ 256 := a.lt_order.trans (by decide)

/-- **A public key is a multiple of the base point.** -/
theorem toGroup_publicKey : a.publicKey.point.toGroup = a.scalar • base.toGroup := by
  obtain ⟨point, hpoint⟩ := base.exists_multiple_eq a.pos a.lt_order
  have hmultiple := FinitePoint.toGroup_multiple a.lt_two_pow base
  rw [hpoint] at hmultiple
  rw [publicKey, hpoint]
  exact hmultiple

/-- **The point agreed on** is a multiple of the base point by both scalars. -/
theorem toGroup_multiple_publicKey :
    (b.publicKey.point.multiple a.scalar).toGroup = (a.scalar * b.scalar) • base.toGroup := by
  rw [FinitePoint.toGroup_multiple a.lt_two_pow, toGroup_publicKey, mul_nsmul']

theorem multiple_publicKey_comm :
    b.publicKey.point.multiple a.scalar = a.publicKey.point.multiple b.scalar := by
  apply Point.toGroup_injective
  rw [toGroup_multiple_publicKey, toGroup_multiple_publicKey, mul_comm]

/-- **Agreement is symmetric.** -/
theorem agree_comm : a.agree b.publicKey = b.agree a.publicKey := by
  rw [agree, agree, multiple_publicKey_comm]

theorem symmetricKey_comm : a.symmetricKey b.publicKey = b.symmetricKey a.publicKey := by
  rw [symmetricKey, symmetricKey, agree_comm]

/-- **An agreement never ends at the identity**: the secret is the first coordinate of a finite
point. -/
theorem exists_agree_eq (mine : PrivateKey) (theirs : PublicKey) :
    ∃ point : FinitePoint, theirs.point.multiple mine.scalar = .finite point
      ∧ mine.agree theirs = .ok ⟨Block.bigEndian 32 point.x.val⟩ := by
  obtain ⟨point, hpoint⟩ := theirs.point.exists_multiple_eq mine.pos mine.lt_order
  exact ⟨point, hpoint, by rw [agree, hpoint]⟩

end PrivateKey

/-- **A key can be derived from every secret.** -/
theorem SharedSecret.exists_symmetricKey_eq (secret : SharedSecret) :
    ∃ key, secret.symmetricKey = .ok key := ⟨_, rfl⟩

namespace PrivateKey

/-- **An agreement always ends with a symmetric key**, whatever the public key. -/
theorem exists_symmetricKey_eq (mine : PrivateKey) (theirs : PublicKey) :
    ∃ key, mine.symmetricKey theirs = .ok key := by
  obtain ⟨point, -, hagree⟩ := mine.exists_agree_eq theirs
  rw [symmetricKey, hagree]
  exact SharedSecret.exists_symmetricKey_eq _

/-- **Both sides agree.**  A private key is any 32 bytes whose number is its scalar, and its public
key is that multiple of the base point.  Whichever side computes it, the secret of two keys is one:
the 32 bytes, highest first, of the first coordinate of the multiple of the base point by both
scalars, which is a finite point.  From a secret a symmetric key can always be derived, so both
sides get one, and the same. -/
theorem both_sides_agree (a b : PrivateKey) :
    (∀ bytes, decode bytes = .ok a ↔ bytes.length = 32 ∧ Bytes.ofBigEndian bytes = a.scalar)
      ∧ a.publicKey.point.toGroup = a.scalar • base.toGroup
      ∧ (∀ secret : SharedSecret, ∃ key, secret.symmetricKey = .ok key)
      ∧ ∃ (point : FinitePoint) (secret : SharedSecret) (key : SymmetricKey),
        point.toGroup = (a.scalar * b.scalar) • base.toGroup
          ∧ secret.block.bytes.length = 32
          ∧ Bytes.ofBigEndian secret.block.bytes = point.x.val
          ∧ a.agree b.publicKey = .ok secret ∧ b.agree a.publicKey = .ok secret
          ∧ secret.symmetricKey = .ok key
          ∧ a.symmetricKey b.publicKey = .ok key ∧ b.symmetricKey a.publicKey = .ok key := by
  obtain ⟨point, hpoint, hagree⟩ := a.exists_agree_eq b.publicKey
  obtain ⟨key, hkey⟩ := SharedSecret.exists_symmetricKey_eq ⟨Block.bigEndian 32 point.x.val⟩
  have hgroup := toGroup_multiple_publicKey a b
  rw [hpoint] at hgroup
  have hsymmetric : a.symmetricKey b.publicKey = .ok key := by
    rw [symmetricKey, hagree]
    exact hkey
  exact ⟨fun bytes => decode_eq_ok_iff, a.toGroup_publicKey, SharedSecret.exists_symmetricKey_eq,
    point, _, key, hgroup, Block.length_bytes _, PublicKey.ofBigEndian_coordinateBytes point.x,
    hagree, (agree_comm b a).trans hagree, hkey, hsymmetric,
    (symmetricKey_comm b a).trans hsymmetric⟩

end PrivateKey

end Coffer
