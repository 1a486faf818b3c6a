import Coffer.Box.Pack
import Coffer.Proofs.Key.Agreement
import Coffer.Proofs.Key.Sealing

/-!
# Proofs/Box/Gates — making the gates of a box

A gate that is made for a recipient is **sealed for** it, with a nonce off the tape
(`Recipient.run_makeGate_eq_ok_iff`).  The gates of several recipients take their nonces one behind
the other (`run_mapM_makeGate_eq_ok_iff`), and the first that is not made, for want of a nonce or
because the tokens are too long, ends it all (`run_mapM_makeGate_eq_error_iff`).
-/

namespace Coffer

open Cipher.Authenticated

/-! ## One gate -/

/-- The nonce of a gate: what its tokens begin with. -/
def Gate.nonce (gate : Gate) : Bytes := gate.tokens.take nonceSize

/-- **A gate is sealed for a recipient**: it carries the recipient's key, and its tokens under the
key agreed on with the recipient. -/
structure Gate.SealedFor (packer : PrivateKey) (accessKey : Bytes) (recipient : Recipient)
    (gate : Gate) : Prop where
  /-- The gate is marked with the recipient's key. -/
  publicKey : gate.publicKey = recipient.publicKey.encode
  /-- Its tokens are the recipient's, encrypted with the nonce in front. -/
  encrypted : ∃ key, packer.symmetricKey recipient.publicKey = .ok key
    ∧ encrypt key.block gate.nonce (recipient.tokens accessKey).encode = some gate.tokens

/-- Whether the tokens of a recipient are short enough to be sealed. -/
def Recipient.Fits (accessKey : Bytes) (recipient : Recipient) : Prop :=
  ¬ TooLong (recipient.tokens accessKey).encode

instance (accessKey : Bytes) (recipient : Recipient) : Decidable (recipient.Fits accessKey) :=
  inferInstanceAs (Decidable (¬ _))

variable {packer : PrivateKey} {accessKey : Bytes} {recipient : Recipient} {gate : Gate}
  {tape rest : Tape}

namespace Gate.SealedFor

theorem fits (h : gate.SealedFor packer accessKey recipient) : recipient.Fits accessKey := by
  obtain ⟨key, -, hencrypt⟩ := h.encrypted
  exact (encrypt_eq_some_iff.1 hencrypt).1

/-- **A nonce has 24 bytes**: shorter tokens could not hold the tag behind it. -/
theorem length_nonce (h : gate.SealedFor packer accessKey recipient) :
    gate.nonce.length = nonceSize := by
  obtain ⟨key, -, hencrypt⟩ := h.encrypted
  have hlength := length_of_encrypt hencrypt
  have htag : 0 < tagSize := by decide
  simp only [nonce, List.length_take] at hlength ⊢
  omega

/-- The sealed tokens are forty bytes longer than the tokens. -/
theorem length_tokens (h : gate.SealedFor packer accessKey recipient) :
    gate.tokens.length = nonceSize + tagSize + (recipient.tokens accessKey).encode.length := by
  obtain ⟨key, -, hencrypt⟩ := h.encrypted
  rw [length_of_encrypt hencrypt, h.length_nonce]
  omega

end Gate.SealedFor

namespace Recipient

/-- **Making a gate** takes its nonce off the tape. -/
theorem run_makeGate_eq_ok_iff :
    (recipient.makeGate packer accessKey).run tape = .ok (gate, rest)
      ↔ gate.SealedFor packer accessKey recipient
        ∧ tape.remaining = gate.nonce ++ rest.remaining := by
  simp only [makeGate, StateT.run_bind_eq_ok_iff, StateT.run_liftM_eq_ok_iff,
    StateT.run_pure_eq_ok_iff]
  constructor
  · rintro ⟨key, _, ⟨hkey, rfl⟩, sealed, _, hseal, rfl, rfl⟩
    obtain ⟨nonce, htake, hencrypt⟩ := SymmetricKey.run_sealMessage_eq_ok_iff.1 hseal
    obtain ⟨hnonce, htape⟩ := Tape.take?_eq_some_iff.1 htake
    have hfront : sealed.take nonceSize = nonce := by
      obtain ⟨-, rfl⟩ := encrypt_eq_some_iff.1 hencrypt
      rw [List.append_assoc, List.take_left' hnonce]
    subst hfront
    exact ⟨⟨rfl, key, hkey, hencrypt⟩, htape⟩
  · rintro ⟨hgate, htape⟩
    obtain ⟨key, hkey, hencrypt⟩ := hgate.encrypted
    refine ⟨key, tape, ⟨hkey, rfl⟩, gate.tokens, rest, ?_, ?_, rfl⟩
    · exact SymmetricKey.run_sealMessage_eq_ok_iff.2
        ⟨gate.nonce, Tape.take?_eq_some_iff.2 ⟨hgate.length_nonce, htape⟩, hencrypt⟩
    · rw [← hgate.publicKey]

/-- **No gate is made** just where the tape ends in its nonce or the tokens are too long. -/
theorem run_makeGate_eq_error_iff {cause : KeyError} :
    (recipient.makeGate packer accessKey).run tape = .error cause
      ↔ (tape.remaining.length < nonceSize ∧ cause = .sourceExhausted)
        ∨ (nonceSize ≤ tape.remaining.length ∧ ¬ recipient.Fits accessKey
          ∧ cause = .encryption) := by
  obtain ⟨key, hkey⟩ := packer.exists_symmetricKey_eq recipient.publicKey
  simp only [makeGate, StateT.run_bind_eq_error_iff, StateT.run_liftM_eq_error_iff,
    StateT.run_liftM_eq_ok_iff, StateT.run_pure_ne_error, hkey,
    SymmetricKey.run_sealMessage_eq_error_iff, Fits, not_not]
  simp

end Recipient

/-! ## All gates -/

/-- The nonces of some gates, one behind the other. -/
def Gate.nonces (gates : List Gate) : Bytes := gates.flatMap Gate.nonce

variable {recipients : List Recipient} {gates : List Gate}

theorem Gate.length_nonces
    (h : List.Forall₂ (Gate.SealedFor packer accessKey) recipients gates) :
    (Gate.nonces gates).length = nonceSize * recipients.length := by
  induction h with
  | nil => rfl
  | cons hgate _ ih =>
    rw [nonces] at ih
    rw [nonces, List.flatMap_cons, List.length_append, hgate.length_nonce, ih, List.length_cons]
    ring

theorem Gate.fits_of_forall₂
    (h : List.Forall₂ (Gate.SealedFor packer accessKey) recipients gates) :
    ∀ recipient ∈ recipients, recipient.Fits accessKey := by
  induction h with
  | nil => exact List.forall_mem_nil _
  | cons hgate _ ih => exact List.forall_mem_cons.2 ⟨hgate.fits, ih⟩

/-- **Making all gates** takes their nonces off the tape, in order. -/
theorem run_mapM_makeGate_eq_ok_iff :
    (recipients.mapM (Recipient.makeGate packer accessKey)).run tape = .ok (gates, rest)
      ↔ List.Forall₂ (Gate.SealedFor packer accessKey) recipients gates
        ∧ tape.remaining = Gate.nonces gates ++ rest.remaining := by
  induction recipients generalizing gates tape rest with
  | nil =>
    rw [List.mapM_nil, StateT.run_pure_eq_ok_iff, List.forall₂_nil_left_iff, eq_comm]
    refine and_congr_right ?_
    rintro rfl
    exact Iff.of_eq (Tape.mk.injEq tape.remaining rest.remaining)
  | cons recipient recipients ih =>
    simp only [List.mapM_cons, StateT.run_bind_eq_ok_iff, StateT.run_pure_eq_ok_iff, ih,
      Recipient.run_makeGate_eq_ok_iff, List.forall₂_cons_left_iff]
    constructor
    · rintro ⟨gate, after, ⟨hgate, htape⟩, gates, _, ⟨hgates, hafter⟩, rfl, rfl⟩
      refine ⟨⟨gate, gates, hgate, hgates, rfl⟩, ?_⟩
      rw [htape, hafter, Gate.nonces, Gate.nonces, List.flatMap_cons, List.append_assoc]
    · rintro ⟨⟨gate, gates, hgate, hgates, rfl⟩, htape⟩
      rw [Gate.nonces, List.flatMap_cons, List.append_assoc] at htape
      exact ⟨gate, ⟨Gate.nonces gates ++ rest.remaining⟩, ⟨hgate, htape⟩, gates, rest,
        ⟨hgates, rfl⟩, rfl, rfl⟩

/-- **All gates are made** if the tape has their nonces and the tokens are short enough. -/
theorem exists_run_mapM_makeGate (packer : PrivateKey)
    (hfits : ∀ recipient ∈ recipients, recipient.Fits accessKey)
    (hle : nonceSize * recipients.length ≤ tape.remaining.length) :
    ∃ gates rest,
      (recipients.mapM (Recipient.makeGate packer accessKey)).run tape = .ok (gates, rest) := by
  cases h : (recipients.mapM (Recipient.makeGate packer accessKey)).run tape with
  | ok result => exact ⟨result.1, result.2, rfl⟩
  | error cause =>
    -- the first gate that is not made would have had its nonce
    obtain ⟨before, recipient, after, gates, u, rfl, hbefore, hgate⟩ :=
      StateT.run_mapM_eq_error_iff.1 h
    obtain ⟨hgates, htape⟩ := run_mapM_makeGate_eq_ok_iff.1 hbefore
    have hlength := congrArg List.length htape
    rw [List.length_append, Gate.length_nonces hgates] at hlength
    obtain ⟨hend, -⟩ | ⟨-, hlong, -⟩ := Recipient.run_makeGate_eq_error_iff.1 hgate
    · rw [List.length_append, List.length_cons, Nat.mul_add, Nat.mul_succ] at hle
      omega
    · exact absurd (hfits recipient (by simp)) hlong

/-- **The first gate that is not made** is the first whose nonce the tape ends in or whose tokens
are too long. -/
theorem run_mapM_makeGate_eq_error_iff {cause : KeyError} :
    (recipients.mapM (Recipient.makeGate packer accessKey)).run tape = .error cause
      ↔ ∃ before recipient after, recipients = before ++ recipient :: after
        ∧ (∀ earlier ∈ before, earlier.Fits accessKey)
        ∧ nonceSize * before.length ≤ tape.remaining.length
        ∧ ((tape.remaining.length < nonceSize * (before.length + 1) ∧ cause = .sourceExhausted)
          ∨ (nonceSize * (before.length + 1) ≤ tape.remaining.length
            ∧ ¬ recipient.Fits accessKey ∧ cause = .encryption)) := by
  rw [StateT.run_mapM_eq_error_iff]
  constructor
  · rintro ⟨before, recipient, after, gates, u, rfl, hbefore, hgate⟩
    obtain ⟨hgates, htape⟩ := run_mapM_makeGate_eq_ok_iff.1 hbefore
    have hlength := congrArg List.length htape
    rw [List.length_append, Gate.length_nonces hgates] at hlength
    refine ⟨before, recipient, after, rfl, Gate.fits_of_forall₂ hgates, by omega, ?_⟩
    rw [Nat.mul_succ]
    obtain ⟨hend, rfl⟩ | ⟨hle, hlong, rfl⟩ := Recipient.run_makeGate_eq_error_iff.1 hgate
    · exact .inl ⟨by omega, rfl⟩
    · exact .inr ⟨by omega, hlong, rfl⟩
  · rintro ⟨before, recipient, after, rfl, hfits, hle, hend⟩
    obtain ⟨gates, u, hbefore⟩ := exists_run_mapM_makeGate packer hfits hle
    obtain ⟨hgates, htape⟩ := run_mapM_makeGate_eq_ok_iff.1 hbefore
    have hlength := congrArg List.length htape
    rw [List.length_append, Gate.length_nonces hgates] at hlength
    refine ⟨before, recipient, after, gates, u, rfl, hbefore,
      Recipient.run_makeGate_eq_error_iff.2 ?_⟩
    rw [Nat.mul_succ] at hend
    obtain ⟨hend, rfl⟩ | ⟨hle, hlong, rfl⟩ := hend
    · exact .inl ⟨by omega, rfl⟩
    · exact .inr ⟨by omega, hlong, rfl⟩

end Coffer
