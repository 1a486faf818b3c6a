import Mathlib.Data.Option.Basic
import Coffer.Box.Unpack
import Coffer.Proofs.Box.RoundTrip
import Coffer.Proofs.Box.TapeLayout
import Coffer.Proofs.Key.RoundTrip

/-!
# Proofs/Box/Packing — what is packed reaches whom it is for

The gate that is sealed for a recipient **delivers** its tokens: it carries the recipient's key, and
what the packer agrees on with that recipient opens it.  The recipient agrees on the same with the
packer, finds the first gate with its key, and so the tokens of the first recipient with that key.
-/

namespace Coffer

open Wire

/-! ## Gates of recipients -/

/-- **A gate delivers** the tokens of a recipient of a box with the given access key. -/
structure Gate.Delivers (packer : PrivateKey) (accessKey : Bytes) (recipient : Recipient)
    (gate : Gate) : Prop where
  /-- The gate is marked with the recipient's key. -/
  publicKey : gate.publicKey = recipient.publicKey.encode
  /-- The key agreed on with the recipient opens it. -/
  opens : ∃ key, packer.symmetricKey recipient.publicKey = .ok key
    ∧ key.openMessage gate.tokens = .ok (recipient.tokens accessKey).encode
  /-- The tokens are short enough to be read. -/
  sized : (recipient.tokens accessKey).Sized
  /-- The gate is short enough to be read. -/
  length_lt : gate.encode.length < Varint.valueLimit

/-- A message that is not too long to be sealed is far shorter than a length can say. -/
theorem Cipher.Authenticated.length_lt_of_not_tooLong {message : Bytes} (h : ¬ TooLong message) :
    message.length < 0x4000000000 := by
  simp only [TooLong, blockLimit] at h
  omega

/-- **A gate that is sealed for a recipient delivers** its tokens. -/
theorem Gate.SealedFor.delivers {packer : PrivateKey} {accessKey : Bytes} {recipient : Recipient}
    {gate : Gate} (h : gate.SealedFor packer accessKey recipient) :
    gate.Delivers packer accessKey recipient := by
  obtain ⟨key, hkey, hencrypt⟩ := h.encrypted
  have hshort := Cipher.Authenticated.length_lt_of_not_tooLong h.fits
  have hsealed := h.length_tokens
  have hopen : key.openMessage gate.tokens = .ok (recipient.tokens accessKey).encode := by
    rw [SymmetricKey.openMessage_eq_ok_iff_decrypt, Cipher.Authenticated.decrypt_eq_some_iff]
    exact ⟨by omega, hencrypt⟩
  have htokens : gate.tokens.length < 0x4000000028 := by
    simp only [Cipher.Authenticated.nonceSize, Cipher.Authenticated.tagSize] at hsealed
    omega
  have hkeyLength : gate.publicKey.length = 33 := by
    rw [h.publicKey, PublicKey.length_encode]
  have hgate := Gate.length_encode_le (htokens.trans (by decide)) (by rw [hkeyLength]; decide)
  have hlimit : 0x5000000000 < Varint.valueLimit := by decide
  exact {
    publicKey := h.publicKey
    opens := ⟨key, hkey, hopen⟩
    sized := Tokens.sized_of_length_lt (hshort.trans (by decide))
    length_lt := by omega }

/-! ## Packed boxes -/

/-- **What packing gives**: the packer's key, a gate for each recipient that delivers its tokens,
and the policies in the form in which they are kept. -/
structure Packed.Holds (packed : Packed) (draft : Draft) : Prop where
  /-- The box carries the packer's key. -/
  ownerKey : packed.box.ownerKey = packed.secrets.privateKey.publicKey.encode
  /-- There is a gate for each recipient, in order, that delivers. -/
  gates : List.Forall₂ (Gate.Delivers packed.secrets.privateKey packed.secrets.accessKey)
    draft.recipients packed.box.gates
  /-- The policies are those of the draft. -/
  policies : packed.box.policies = draft.policies.map ContainerPolicy.toStored

theorem Draft.holds_of_pack {draft : Draft} {tape rest : Tape} {packed : Packed}
    (h : draft.pack tape = .ok (packed, rest)) : packed.Holds draft := by
  have hlaid := pack_eq_ok_iff.1 h
  exact ⟨hlaid.ownerKey, hlaid.gates.imp fun _ _ => Gate.SealedFor.delivers, hlaid.policies⟩

/-! ## Unpacking -/

namespace AccessBox

variable {box : AccessBox} {mine : PrivateKey} {packer : PublicKey}

theorem gateContent_of_gateFor?_eq_none (hpacker : PublicKey.decode box.ownerKey = .ok packer)
    (hgate : box.gateFor? mine.publicKey = none) :
    box.gateContent mine = .error (.noMatchingGate mine.publicKey.toHex) := by
  simp only [gateContent, hpacker, bind, Except.bind, Except.mapError, hgate]
  rfl

/-- **Where there is a gate and an agreement**, the tokens inside decide. -/
theorem gateContent_of_gateFor?_eq_some {gate : Gate} {key : SymmetricKey}
    (hpacker : PublicKey.decode box.ownerKey = .ok packer)
    (hgate : box.gateFor? mine.publicKey = some gate) (hkey : mine.symmetricKey packer = .ok key) :
    box.gateContent mine = match key.openMessage gate.tokens with
      | .error _ => .error .authenticationFailed
      | .ok bytes => match Tokens.decode bytes with
        | .error fault => .error (.malformed fault)
        | .ok tokens => .ok (.ofTokens mine.publicKey tokens) := by
  simp only [gateContent, hpacker, hgate, hkey, Except.mapError, bind, Except.bind, pure,
    Except.pure]
  cases key.openMessage gate.tokens with
  | error cause => rfl
  | ok bytes =>
    dsimp only
    cases Tokens.decode bytes <;> rfl

theorem unpack_of_gateContent_eq_ok {gate : GateContent} {policies : List ContainerPolicy}
    (hgate : box.gateContent mine = .ok gate) (hpolicies : box.containerPolicies = .ok policies) :
    box.unpack mine = .ok ⟨gate, policies⟩ := by
  rw [unpack, hgate, hpolicies]
  rfl

theorem unpack_of_gateContent_eq_error {cause : BoxError}
    (hgate : box.gateContent mine = .error cause) : box.unpack mine = .error cause := by
  rw [unpack, hgate]
  rfl

end AccessBox

/-- **Of two lists that correspond item by item**, the first items that satisfy corresponding
conditions correspond. -/
theorem rel_find?_of_forall₂ {α β : Type} {related : α → β → Prop} {p : α → Bool} {q : β → Bool}
    {items : List α} {others : List β} (h : List.Forall₂ related items others)
    (hiff : ∀ item other, related item other → p item = q other) :
    Option.Rel related (items.find? p) (others.find? q) := by
  induction h with
  | nil => exact .none
  | cons hfirst _ ih =>
    rw [List.find?_cons, List.find?_cons, hiff _ _ hfirst]
    split
    · exact .some hfirst
    · exact ih

namespace Packed.Holds

variable {packed : Packed} {draft : Draft}

/-- The first gate for a key is the one of the first recipient with that key. -/
theorem rel_gateFor? (h : packed.Holds draft) (key : PublicKey) :
    Option.Rel (Gate.Delivers packed.secrets.privateKey packed.secrets.accessKey)
      (draft.recipients.find? (·.publicKey == key)) (packed.box.gateFor? key) := by
  refine rel_find?_of_forall₂ h.gates fun recipient gate hdelivers => ?_
  rw [hdelivers.publicKey, Bool.eq_iff_iff, beq_iff_eq, beq_iff_eq]
  exact PublicKey.encode_injective.eq_iff.symm

theorem ofTokens_tokens (key : PublicKey) (accessKey : Bytes) (recipient : Recipient) :
    GateContent.ofTokens key (recipient.tokens accessKey)
      = ⟨accessKey, recipient.bearer, recipient.receivedSession, key⟩ := by
  obtain ⟨publicKey, bearer, session⟩ := recipient
  cases session with
  | none => rfl
  | some session => cases session <;> rfl

/-- The packer's key is read from the box. -/
theorem decode_ownerKey (h : packed.Holds draft) :
    PublicKey.decode packed.box.ownerKey = .ok packed.secrets.privateKey.publicKey := by
  rw [h.ownerKey, PublicKey.decode_encode]

/-- **A key for which there is no recipient** has no gate. -/
theorem gateContent_of_find?_eq_none (h : packed.Holds draft) {mine : PrivateKey}
    (hrecipient : draft.recipients.find? (·.publicKey == mine.publicKey) = none) :
    packed.box.gateContent mine = .error (.noMatchingGate mine.publicKey.toHex) := by
  have hfind := h.rel_gateFor? mine.publicKey
  rw [hrecipient] at hfind
  refine AccessBox.gateContent_of_gateFor?_eq_none h.decode_ownerKey ?_
  cases hgate : packed.box.gateFor? mine.publicKey with
  | none => rfl
  | some gate =>
    rw [hgate] at hfind
    cases hfind

/-- **A recipient's key** opens what the first recipient with that key was given. -/
theorem gateContent_of_find?_eq_some (h : packed.Holds draft) {mine : PrivateKey}
    {recipient : Recipient}
    (hrecipient : draft.recipients.find? (·.publicKey == mine.publicKey) = some recipient) :
    packed.box.gateContent mine = .ok ⟨packed.secrets.accessKey, recipient.bearer,
      recipient.receivedSession, mine.publicKey⟩ := by
  have hfind := h.rel_gateFor? mine.publicKey
  rw [hrecipient] at hfind
  cases hgate : packed.box.gateFor? mine.publicKey with
  | none =>
    rw [hgate] at hfind
    cases hfind
  | some gate =>
    rw [hgate] at hfind
    obtain ⟨hdelivers⟩ := hfind
    obtain ⟨key, hkey, hopen⟩ := hdelivers.opens
    have hmine : recipient.publicKey = mine.publicKey := by
      simpa using List.find?_some hrecipient
    -- the packer's agreement with the recipient is the recipient's with the packer
    rw [hmine, PrivateKey.symmetricKey_comm] at hkey
    rw [AccessBox.gateContent_of_gateFor?_eq_some h.decode_ownerKey hgate hkey, hopen]
    simp only [Tokens.decode_encode hdelivers.sized, ofTokens_tokens]

theorem containerPolicies_eq (h : packed.Holds draft)
    (hbuilt : ∀ policy ∈ draft.policies, policy.policy.Built)
    (hlength : ∀ policy ∈ draft.policies, policy.policy.encoded.length < Varint.valueLimit) :
    packed.box.containerPolicies = .ok draft.policies := by
  rw [AccessBox.containerPolicies, h.policies,
    ContainerPolicy.mapM_ofStored_toStored hbuilt hlength]
  rfl

/-- **A packed box reads back** if none of its policies is too long. -/
theorem decode_encode (h : packed.Holds draft)
    (hlength : ∀ policy ∈ draft.policies, policy.toStored.encode.length < Varint.valueLimit) :
    AccessBox.decode packed.box.encode = .ok packed.box := by
  refine AccessBox.decode_encode ⟨?_, ?_, ?_⟩
  · rw [h.ownerKey, PublicKey.length_encode]
    decide
  · intro gate hgate
    have hall : List.Forall₂ (fun gate _ => gate.encode.length < Varint.valueLimit ∧ True)
        packed.box.gates draft.recipients :=
      List.Forall₂.flip (h.gates.imp fun _ _ hdelivers => ⟨hdelivers.length_lt, trivial⟩)
    exact ((List.forall₂_and_left _ _).1 hall).1 gate hgate
  · intro stored hstored
    rw [h.policies] at hstored
    obtain ⟨policy, hpolicy, rfl⟩ := List.mem_map.1 hstored
    exact hlength policy hpolicy

end Packed.Holds

/-- **What is packed reaches whom it is for, and nobody else.**  The bytes of a packed box read as a
box that gives every recipient the access key, the tokens that the first recipient with its key was
given, and the policies; anyone else is told that there is no gate for its key.  The policies may
be any that can be built, each of a length that can be written before it. -/
theorem Draft.unpack_of_pack {draft : Draft} {tape rest : Tape} {packed : Packed}
    (hpack : draft.pack tape = .ok (packed, rest))
    (hbuilt : ∀ policy ∈ draft.policies, policy.policy.Built)
    (hlength : ∀ policy ∈ draft.policies, policy.toStored.encode.length < Varint.valueLimit) :
    ∃ box, AccessBox.decode packed.box.encode = .ok box ∧ ∀ mine : PrivateKey,
      box.unpack mine = match draft.recipients.find? (·.publicKey == mine.publicKey) with
        | some recipient => .ok ⟨⟨packed.secrets.accessKey, recipient.bearer,
            recipient.receivedSession, mine.publicKey⟩, draft.policies⟩
        | none => .error (.noMatchingGate (Hex.encode mine.publicKey.encode)) := by
  have hholds := holds_of_pack hpack
  have hpolicies := hholds.containerPolicies_eq hbuilt fun policy hmem =>
    Nat.lt_of_le_of_lt (StoredPolicy.length_policy_le policy.toStored) (hlength policy hmem)
  refine ⟨packed.box, hholds.decode_encode hlength, fun mine => ?_⟩
  cases hrecipient : draft.recipients.find? (·.publicKey == mine.publicKey) with
  | none =>
    exact AccessBox.unpack_of_gateContent_eq_error (hholds.gateContent_of_find?_eq_none hrecipient)
  | some recipient =>
    exact AccessBox.unpack_of_gateContent_eq_ok
      (hholds.gateContent_of_find?_eq_some hrecipient) hpolicies

/-- Two recipients with one key, of which the first has an empty session token; a policy; and a key
that is nobody's. -/
theorem Draft.unpack_of_pack_repeated_key :
    let mine : PrivateKey := ⟨3, by decide, by decide⟩
    let stranger : PrivateKey := ⟨5, by decide, by decide⟩
    let policies : List ContainerPolicy := [⟨"é", .ofRules [⟨1, "a"⟩] 2⟩]
    let draft : Draft :=
      ⟨[⟨mine.publicKey, [1], some []⟩, ⟨mine.publicKey, [2], some [3]⟩], policies⟩
    ∃ packed rest, draft.pack ⟨List.replicate 200 7⟩ = .ok (packed, rest)
      ∧ (∀ policy ∈ draft.policies, policy.policy.Built)
      ∧ (∀ policy ∈ draft.policies, policy.toStored.encode.length < Varint.valueLimit)
      ∧ ∃ box, AccessBox.decode packed.box.encode = .ok box
        ∧ box.unpack mine
          = .ok ⟨⟨packed.secrets.accessKey, [1], none, mine.publicKey⟩, policies⟩
        ∧ box.unpack stranger
          = .error (.noMatchingGate (Hex.encode stranger.publicKey.encode)) := by
  intro mine stranger policies draft
  have hok : (draft.pack ⟨List.replicate 200 7⟩).isOk = true := by decide +kernel
  obtain ⟨⟨packed, rest⟩, hpack⟩ : ∃ result, draft.pack ⟨List.replicate 200 7⟩ = .ok result := by
    cases h : draft.pack ⟨List.replicate 200 7⟩ with
    | error cause =>
      rw [h] at hok
      cases hok
    | ok result => exact ⟨result, rfl⟩
  have hbuilt : ∀ policy ∈ draft.policies, policy.policy.Built := by
    intro policy hmem
    obtain rfl := List.mem_singleton.1 hmem
    exact .ofRules _ _
  have hlength : ∀ policy ∈ draft.policies, policy.toStored.encode.length < Varint.valueLimit := by
    decide +kernel
  obtain ⟨box, hread, hunpack⟩ := unpack_of_pack hpack hbuilt hlength
  have hmine : draft.recipients.find? (·.publicKey == mine.publicKey)
      = some ⟨mine.publicKey, [1], some []⟩ := by decide +kernel
  have hstranger : draft.recipients.find? (·.publicKey == stranger.publicKey) = none := by
    decide +kernel
  refine ⟨packed, rest, hpack, hbuilt, hlength, box, hread, ?_, ?_⟩
  · rw [hunpack, hmine]
    rfl
  · rw [hunpack, hstranger]

end Coffer
