import Coffer.Cipher.Authenticated
import Coffer.Proofs.Bytes

/-!
# Proofs/Cipher/Authenticated — decryption accepts exactly what encryption gives

The key stream is as long as the message, so masking twice gives the message back.  What decrypts
to a message is what that message encrypts to under the nonce in front (`decrypt_eq_some_iff`).
-/

namespace Coffer.Cipher

/-! ## The key stream -/

namespace ChaCha20

theorem length_flatMap_block (key : Block 32) (nonce : Bytes) (counter : Nat) (numbers : List Nat) :
    (numbers.flatMap fun i => block key nonce (counter + i)).length = 64 * numbers.length := by
  induction numbers with
  | nil => rfl
  | cons number numbers ih =>
    rw [List.flatMap_cons, List.length_append, length_block, ih, List.length_cons]
    omega

/-- **The key stream is as long as was asked for**, also when its last block is cut. -/
@[simp] theorem length_stream (key : Block 32) (nonce : Bytes) (counter length : Nat) :
    (stream key nonce counter length).length = length := by
  rw [stream, List.length_take, length_flatMap_block, List.length_range]
  omega

end ChaCha20

namespace Authenticated

/-! ## Masking -/

@[simp] theorem length_mask (key : Block 32) (nonce message : Bytes) :
    (mask key nonce message).length = message.length := by
  rw [mask, Bytes.length_xor, ChaCha20.length_stream, min_self]

/-- **Masking twice gives the message back**: the key stream depends on its length alone. -/
@[simp] theorem mask_mask (key : Block 32) (nonce message : Bytes) :
    mask key nonce (mask key nonce message) = message := by
  rw [mask, length_mask, mask]
  exact Bytes.xor_xor_cancel (ChaCha20.length_stream _ _ _ _).ge

@[simp] theorem tooLong_mask (key : Block 32) (nonce message : Bytes) :
    TooLong (mask key nonce message) ↔ TooLong message := by
  rw [TooLong, length_mask, TooLong]

@[simp] theorem length_tag (key : Block 32) (nonce ciphertext : Bytes) :
    (tag key nonce ciphertext).length = tagSize :=
  Poly1305.length_tag _ _

/-! ## Encrypting and decrypting -/

variable {key : Block 32} {nonce message : Bytes}

theorem encrypt_eq_some_iff {sealed : Bytes} :
    encrypt key nonce message = some sealed ↔ ¬ TooLong message
      ∧ nonce ++ mask key nonce message ++ tag key nonce (mask key nonce message) = sealed := by
  rw [encrypt]
  split
  · simp_all
  · simp_all

theorem length_of_encrypt {sealed : Bytes} (h : encrypt key nonce message = some sealed) :
    sealed.length = nonce.length + message.length + tagSize := by
  obtain ⟨-, rfl⟩ := encrypt_eq_some_iff.1 h
  rw [List.length_append, List.length_append, length_mask, length_tag]

/-- **What a nonce, a ciphertext and a tag decrypt to**: the ciphertext unmasked, if its tag is the
one given. -/
theorem decrypt_append {ciphertext given : Bytes} (hnonce : nonce.length = nonceSize)
    (hgiven : given.length = tagSize) :
    decrypt key (nonce ++ ciphertext ++ given)
      = if TooLong ciphertext ∨ tag key nonce ciphertext ≠ given then none
        else some (mask key nonce ciphertext) := by
  have hlong : ¬ (nonce ++ ciphertext ++ given).length < nonceSize + tagSize := by
    simp only [List.length_append, hnonce, hgiven]
    omega
  have htake : (nonce ++ ciphertext ++ given).take nonceSize = nonce := by
    rw [List.append_assoc, List.take_left' hnonce]
  have hdrop : (nonce ++ ciphertext ++ given).drop nonceSize = ciphertext ++ given := by
    rw [List.append_assoc, List.drop_left' hnonce]
  have hlength : (ciphertext ++ given).length - tagSize = ciphertext.length := by
    rw [List.length_append, hgiven]
    omega
  rw [decrypt, if_neg hlong]
  simp only [htake, hdrop, hlength, List.take_left', List.drop_left']

/-- What is long enough is a nonce, a ciphertext and a tag. -/
theorem exists_append_of_length_le {sealed : Bytes} (h : nonceSize + tagSize ≤ sealed.length) :
    ∃ ciphertext given, given.length = tagSize
      ∧ sealed = sealed.take nonceSize ++ ciphertext ++ given := by
  refine ⟨(sealed.drop nonceSize).take (sealed.length - nonceSize - tagSize),
    (sealed.drop nonceSize).drop (sealed.length - nonceSize - tagSize), ?_, ?_⟩
  · rw [List.length_drop, List.length_drop]
    omega
  · rw [List.append_assoc, List.take_append_drop, List.take_append_drop]

/-- **Decryption accepts exactly what encryption gives** under the nonce in front. -/
theorem decrypt_eq_some_iff {sealed : Bytes} :
    decrypt key sealed = some message ↔ nonceSize + tagSize ≤ sealed.length
      ∧ encrypt key (sealed.take nonceSize) message = some sealed := by
  constructor
  · intro h
    have hlong : nonceSize + tagSize ≤ sealed.length := by
      by_contra hshort
      rw [decrypt, if_pos (by omega)] at h
      simp at h
    obtain ⟨ciphertext, given, hgiven, hsealed⟩ := exists_append_of_length_le hlong
    have hnonce : (sealed.take nonceSize).length = nonceSize := by
      rw [List.length_take]
      omega
    rw [hsealed, decrypt_append hnonce hgiven] at h
    split at h
    · simp at h
    · rename_i hok
      rw [not_or, not_not] at hok
      obtain rfl := Option.some.inj h
      refine ⟨hlong, ?_⟩
      rw [encrypt_eq_some_iff, tooLong_mask, mask_mask, hok.2]
      exact ⟨hok.1, hsealed.symm⟩
  · rintro ⟨hlong, hencrypt⟩
    have hnonce : (sealed.take nonceSize).length = nonceSize := by
      rw [List.length_take]
      omega
    obtain ⟨hfits, hsealed⟩ := encrypt_eq_some_iff.1 hencrypt
    rw [← hsealed, decrypt_append hnonce (length_tag _ _ _), if_neg, mask_mask]
    simpa using hfits

end Authenticated

end Coffer.Cipher
