import Coffer.Key.Agreement
import Coffer.Proofs.Cipher.Authenticated
import Coffer.Proofs.Outcome

/-!
# Proofs/Key/Sealing — opening accepts exactly what sealing gives

Sealing takes its nonce off the tape and leaves the rest of the tape alone.  A sealed message opens
just when sealing, given the nonce in front of it, would have made it; so no two tags are accepted,
and no two sealed messages with one nonce hold the same message.
-/

namespace Coffer

open Cipher.Authenticated

/-! ## The tape -/

namespace Tape

/-- **Taking bytes off a tape** splits it. -/
theorem take?_eq_some_iff {count : Nat} {tape rest : Tape} {bytes : Bytes} :
    tape.take? count = some (bytes, rest)
      ↔ bytes.length = count ∧ tape.remaining = bytes ++ rest.remaining := by
  obtain ⟨remaining⟩ := tape
  obtain ⟨after⟩ := rest
  simp only [take?]
  split
  · rename_i hle
    simp only [Option.some.injEq, Prod.mk.injEq, Tape.mk.injEq]
    constructor
    · rintro ⟨rfl, rfl⟩
      exact ⟨List.length_take_of_le hle, (List.take_append_drop count remaining).symm⟩
    · rintro ⟨hlength, rfl⟩
      exact ⟨List.take_left' hlength, List.drop_left' hlength⟩
  · rename_i hlt
    simp only [reduceCtorEq, false_iff]
    rintro ⟨hlength, rfl⟩
    rw [List.length_append] at hlt
    omega

theorem run_secret_eq_ok_iff {count : Nat} {tape rest : Tape} {bytes : Bytes} :
    (secret count).run tape = .ok (bytes, rest) ↔ tape.take? count = some (bytes, rest) := by
  change secret count tape = _ ↔ _
  rw [secret]
  split <;> simp_all

theorem run_secret_eq_error_iff {count : Nat} {tape : Tape} {cause : KeyError} :
    (secret count).run tape = .error cause
      ↔ tape.remaining.length < count ∧ cause = .sourceExhausted := by
  change secret count tape = _ ↔ _
  by_cases hle : count ≤ tape.remaining.length
  · have htake : tape.take? count = some _ := if_pos hle
    rw [secret, htake]
    exact iff_of_false nofun fun h => absurd h.1 (Nat.not_lt.2 hle)
  · have htake : tape.take? count = none := if_neg hle
    rw [secret, htake, and_iff_right (Nat.not_le.1 hle), Except.error.injEq, eq_comm]

end Tape

namespace SymmetricKey

variable {key : SymmetricKey} {message sealed : Bytes}

/-! ## Sealing -/

theorem sealWith_eq_ok_iff {nonce : Bytes} :
    key.sealWith nonce message = .ok sealed ↔ encrypt key.block nonce message = some sealed := by
  rw [sealWith]
  split <;> simp_all

/-- **Sealing** takes a nonce off the tape, encrypts under it, and leaves the rest. -/
theorem run_sealMessage_eq_ok_iff {tape rest : Tape} :
    (key.sealMessage message).run tape = .ok (sealed, rest)
      ↔ ∃ nonce, tape.take? nonceSize = some (nonce, rest)
        ∧ encrypt key.block nonce message = some sealed := by
  rw [sealMessage, StateT.run_bind_eq_ok_iff]
  simp only [Tape.run_secret_eq_ok_iff, StateT.run_liftM_eq_ok_iff, sealWith_eq_ok_iff]
  constructor
  · rintro ⟨nonce, after, htake, hencrypt, rfl⟩
    exact ⟨nonce, htake, hencrypt⟩
  · rintro ⟨nonce, htake, hencrypt⟩
    exact ⟨nonce, rest, htake, hencrypt, rfl⟩

theorem sealWith_eq_error_iff {nonce : Bytes} {cause : KeyError} :
    key.sealWith nonce message = .error cause ↔ TooLong message ∧ cause = .encryption := by
  by_cases hlong : TooLong message
  · have hnone : encrypt key.block nonce message = none := if_pos hlong
    rw [sealWith, hnone, and_iff_right hlong, Except.error.injEq, eq_comm]
  · have hsome : encrypt key.block nonce message = some _ := if_neg hlong
    rw [sealWith, hsome]
    simp only [reduceCtorEq, false_iff, not_and]
    exact fun h => absurd h hlong

/-- **Sealing fails** just where the tape ends in the nonce or the message is too long. -/
theorem run_sealMessage_eq_error_iff {tape : Tape} {cause : KeyError} :
    (key.sealMessage message).run tape = .error cause
      ↔ (tape.remaining.length < nonceSize ∧ cause = .sourceExhausted)
        ∨ (nonceSize ≤ tape.remaining.length ∧ TooLong message ∧ cause = .encryption) := by
  rw [sealMessage, StateT.run_bind_eq_error_iff, Tape.run_secret_eq_error_iff]
  refine or_congr_right ?_
  simp only [Tape.run_secret_eq_ok_iff, StateT.run_liftM_eq_error_iff, sealWith_eq_error_iff]
  constructor
  · rintro ⟨nonce, rest, htake, hlong⟩
    obtain ⟨hnonce, htape⟩ := Tape.take?_eq_some_iff.1 htake
    rw [htape, List.length_append, hnonce]
    exact ⟨Nat.le_add_right _ _, hlong⟩
  · rintro ⟨hle, hlong⟩
    exact ⟨_, _, if_pos hle, hlong⟩

/-! ## Opening -/

theorem openMessage_eq_ok_iff_decrypt :
    key.openMessage sealed = .ok message ↔ decrypt key.block sealed = some message := by
  rw [openMessage]
  split <;> simp_all

theorem openMessage_eq (key : SymmetricKey) (sealed : Bytes) :
    (∃ message, key.openMessage sealed = .ok message)
      ∨ key.openMessage sealed = .error .authenticationFailed := by
  rw [openMessage]
  split
  · exact .inl ⟨_, rfl⟩
  · exact .inr rfl

/-- **A message is opened just when sealing makes it**, given the nonce in front of it. -/
theorem openMessage_eq_ok_iff :
    key.openMessage sealed = .ok message ↔ nonceSize + tagSize ≤ sealed.length
      ∧ (key.sealMessage message).run ⟨sealed.take nonceSize⟩ = .ok (sealed, ⟨[]⟩) := by
  rw [openMessage_eq_ok_iff_decrypt, decrypt_eq_some_iff, run_sealMessage_eq_ok_iff]
  refine and_congr_right fun hlong => ?_
  have htake : (⟨sealed.take nonceSize⟩ : Tape).take? nonceSize
      = some (sealed.take nonceSize, ⟨[]⟩) := by
    rw [Tape.take?_eq_some_iff, List.length_take]
    exact ⟨by omega, (List.append_nil _).symm⟩
  simp [htake]

/-- **What has been sealed opens**, whatever the nonce. -/
theorem openMessage_of_run_sealMessage {tape rest : Tape}
    (h : (key.sealMessage message).run tape = .ok (sealed, rest)) :
    key.openMessage sealed = .ok message
      ∧ sealed.length = nonceSize + message.length + tagSize := by
  obtain ⟨nonce, htake, hencrypt⟩ := run_sealMessage_eq_ok_iff.1 h
  obtain ⟨hnonce, -⟩ := Tape.take?_eq_some_iff.1 htake
  have hlength := length_of_encrypt hencrypt
  rw [hnonce] at hlength
  refine ⟨?_, hlength⟩
  have hfront : sealed.take nonceSize = nonce := by
    obtain ⟨-, rfl⟩ := encrypt_eq_some_iff.1 hencrypt
    rw [List.append_assoc, List.take_left' hnonce]
  rw [openMessage_eq_ok_iff_decrypt, decrypt_eq_some_iff, hfront]
  exact ⟨by omega, hencrypt⟩

/-- **A nonce and a ciphertext go with one tag only**: the tag of that ciphertext. -/
theorem openMessage_append_iff {nonce ciphertext given : Bytes}
    (hnonce : nonce.length = nonceSize) (hgiven : given.length = tagSize) :
    (∃ message, key.openMessage (nonce ++ ciphertext ++ given) = .ok message)
      ↔ given = tag key.block nonce ciphertext ∧ ¬ TooLong ciphertext := by
  simp only [openMessage_eq_ok_iff_decrypt, decrypt_append hnonce hgiven]
  split
  · rename_i hbad
    simp only [reduceCtorEq, exists_false, false_iff, not_and, not_not]
    rintro rfl
    simpa using hbad
  · rename_i hok
    rw [not_or, not_not] at hok
    simp [hok.1, hok.2]

/-- Two sealed messages with one nonce that open to the same message are the same. -/
theorem eq_of_openMessage_eq {other : Bytes} (hnonce : sealed.take nonceSize = other.take nonceSize)
    (hsealed : key.openMessage sealed = .ok message)
    (hother : key.openMessage other = .ok message) : sealed = other := by
  rw [openMessage_eq_ok_iff_decrypt, decrypt_eq_some_iff] at hsealed hother
  have hencrypt := hsealed.2
  rw [hnonce, hother.2] at hencrypt
  exact (Option.some.inj hencrypt).symm

/-- **Opening accepts exactly what sealing gives.**  Whatever else is to be opened fails its
authentication; what was sealed opens and is forty bytes longer than its message; with a nonce and a
ciphertext only one tag is accepted, unless the ciphertext is longer than any that sealing gives;
and under one nonce a message has one sealed form. -/
theorem openMessage_exact (key : SymmetricKey) :
    (∀ sealed message, key.openMessage sealed = .ok message
      ↔ nonceSize + tagSize ≤ sealed.length
        ∧ (key.sealMessage message).run ⟨sealed.take nonceSize⟩ = .ok (sealed, ⟨[]⟩))
    ∧ (∀ sealed, (∃ message, key.openMessage sealed = .ok message)
      ∨ key.openMessage sealed = .error .authenticationFailed)
    ∧ (∀ message tape sealed rest, (key.sealMessage message).run tape = .ok (sealed, rest) →
      key.openMessage sealed = .ok message
        ∧ sealed.length = nonceSize + message.length + tagSize)
    ∧ (∀ nonce ciphertext, nonce.length = nonceSize →
      ∃ accepted : Bytes, accepted.length = tagSize ∧ ∀ given : Bytes, given.length = tagSize →
        ((∃ message, key.openMessage (nonce ++ ciphertext ++ given) = .ok message)
          ↔ given = accepted ∧ ¬ TooLong ciphertext))
    ∧ (∀ sealed other message, sealed.take nonceSize = other.take nonceSize →
      key.openMessage sealed = .ok message → key.openMessage other = .ok message →
        sealed = other) := by
  refine ⟨fun sealed message => openMessage_eq_ok_iff, openMessage_eq key,
    fun message tape sealed rest => openMessage_of_run_sealMessage, ?_,
    fun sealed other message => eq_of_openMessage_eq⟩
  intro nonce ciphertext hnonce
  exact ⟨tag key.block nonce ciphertext, length_tag _ _ _,
    fun given hgiven => openMessage_append_iff hnonce hgiven⟩

end SymmetricKey

end Coffer
