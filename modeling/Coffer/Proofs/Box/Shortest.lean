import Coffer.Proofs.Box.Grammar
import Coffer.Proofs.Wire.Shortest

/-!
# Proofs/Box/Shortest — writing what was read gives its shortest bytes

A message may be read from bytes with fields in any order, numbers with zeros at their end, fields
that are not known and fields that are replaced later.  Of each number no more is written than its
share of those bytes, so what was read is written in bytes that are not longer, that read as the
same, and that are written alike when they are read again (`AccessBox.normalizes`).
-/

namespace Coffer

open Wire

/-! ## Policies -/

/-- **A replica is not written longer** than it was. -/
theorem Replica.length_encode_le_of_message (bytes : Bytes) (replica : Replica)
    (h : Message Says bytes replica) : replica.encode.length ≤ bytes.length := by
  obtain ⟨pieces, hsplits, hvalues⟩ := h
  have hshares := hsplits.sum_length_share_le {1, 2}
  have hcount := hvalues.count.length_word32_le
  have hselector := hvalues.selector.length_text_le
  rw [Finset.sum_pair (by decide)] at hshares
  rw [encode, fields, Field.writeAll_append, List.length_append]
  omega

/-- **A stored policy is not written longer** than it was. -/
theorem StoredPolicy.length_encode_le_of_message (bytes : Bytes) (stored : StoredPolicy)
    (h : Message Says bytes stored) : stored.encode.length ≤ bytes.length := by
  obtain ⟨pieces, hsplits, hvalues⟩ := h
  have hshares := hsplits.sum_length_share_le {1, 2}
  have hlocation := hvalues.location.length_text_le
  have hpolicy := hvalues.policy.length_bytes_le
  rw [Finset.sum_pair (by decide)] at hshares
  rw [encode, fields, Field.writeAll_append, List.length_append]
  omega

namespace PlacementPolicy

/-- The policy with the same rules, in the bytes that are written of them. -/
def shortened (policy : PlacementPolicy) : PlacementPolicy :=
  ofRules policy.replicas policy.backupFactor

variable {bytes : Bytes} {policy : PlacementPolicy}

/-- **The rules of a policy are not written longer** than they were. -/
theorem length_shortened_le (h : decode bytes = .ok policy) :
    policy.shortened.encoded.length ≤ bytes.length := by
  obtain ⟨pieces, hsplits, hvalues⟩ := decode_eq_ok_iff.1 h
  have hshares := hsplits.sum_length_share_le {1, 2}
  have hreplicas := hvalues.replicas.length_messages_le Replica.length_encode_le_of_message
  have hfactor := hvalues.backupFactor.length_word32_le
  rw [Finset.sum_pair (by decide)] at hshares
  rw [shortened, ofRules, fields, Field.writeAll_append, List.length_append]
  omega

/-- **The rules of a policy that was read** read back. -/
theorem decode_shortened (h : decode bytes = .ok policy) :
    decode policy.shortened.encoded = .ok policy.shortened := by
  obtain ⟨pieces, hsplits, hvalues⟩ := decode_eq_ok_iff.1 h
  have hlt := hvalues.replicas.length_lt Replica.length_encode_le_of_message hsplits.fits
  exact decode_ofRules hlt policy.backupFactor

end PlacementPolicy

/-! ## Gates and tokens -/

/-- **A gate is not written longer** than it was. -/
theorem Gate.length_encode_le_of_message (bytes : Bytes) (gate : Gate)
    (h : Message Says bytes gate) : gate.encode.length ≤ bytes.length := by
  obtain ⟨pieces, hsplits, hvalues⟩ := h
  have hshares := hsplits.sum_length_share_le {1, 2}
  have htokens := hvalues.tokens.length_bytes_le
  have hkey := hvalues.publicKey.length_bytes_le
  rw [Finset.sum_pair (by decide)] at hshares
  rw [encode, fields, Field.writeAll_append, List.length_append]
  omega

namespace Tokens

variable {bytes : Bytes} {tokens : Tokens}

/-- **Tokens are not written longer** than they were. -/
theorem length_encode_le (h : decode bytes = .ok tokens) :
    tokens.encode.length ≤ bytes.length := by
  obtain ⟨pieces, hsplits, hvalues⟩ := decode_eq_ok_iff.1 h
  have hshares := hsplits.sum_length_share_le {1, 2, 3}
  have haccess := hvalues.accessKey.length_bytes_le
  have hbearer := hvalues.bearer.length_bytes_le
  have hsession := hvalues.session.length_bytes_le
  rw [Finset.sum_insert (by decide), Finset.sum_pair (by decide)] at hshares
  simp only [encode, fields, Field.writeAll_append, List.length_append]
  omega

theorem sized_of_decode (h : decode bytes = .ok tokens) : tokens.Sized := by
  obtain ⟨pieces, hsplits, hvalues⟩ := decode_eq_ok_iff.1 h
  exact ⟨hvalues.accessKey.length_lt hsplits.fits, hvalues.bearer.length_lt hsplits.fits,
    hvalues.session.length_lt hsplits.fits⟩

end Tokens

/-! ## Boxes -/

/-- **Writing an item normalizes** the bytes that it was read from. -/
structure Normalizes {α : Type} (decode : Bytes → Except Fault α) (encode : α → Bytes)
    (bytes : Bytes) (item : α) : Prop where
  /-- What is written reads as the item. -/
  reads : decode (encode item) = .ok item
  /-- Reading and writing it again changes nothing. -/
  stays : (decode (encode item)).map encode = .ok (encode item)
  /-- It is not longer than the bytes. -/
  length_le : (encode item).length ≤ bytes.length

theorem normalizes_of_decode_eq {α : Type} {decode : Bytes → Except Fault α} {encode : α → Bytes}
    {bytes : Bytes} {item : α} (hreads : decode (encode item) = .ok item)
    (hlength : (encode item).length ≤ bytes.length) : Normalizes decode encode bytes item :=
  ⟨hreads, by rw [hreads]; rfl, hlength⟩

namespace AccessBox

variable {bytes : Bytes} {box : AccessBox}

/-- **A box is not written longer** than it was. -/
theorem length_encode_le (h : decode bytes = .ok box) : box.encode.length ≤ bytes.length := by
  obtain ⟨pieces, hsplits, hvalues⟩ := decode_eq_ok_iff.1 h
  have hshares := hsplits.sum_length_share_le {1, 2, 3}
  have hkey := hvalues.ownerKey.length_bytes_le
  have hgates := hvalues.gates.length_messages_le Gate.length_encode_le_of_message
  have hpolicies := hvalues.policies.length_messages_le StoredPolicy.length_encode_le_of_message
  rw [Finset.sum_insert (by decide), Finset.sum_pair (by decide)] at hshares
  simp only [encode, fields, Field.writeAll_append, List.length_append]
  omega

/-- **A box that was read can be written**: a part that was longer than a length can say would not
have been read. -/
theorem sized_of_decode (h : decode bytes = .ok box) : box.Sized := by
  obtain ⟨pieces, hsplits, hvalues⟩ := decode_eq_ok_iff.1 h
  exact ⟨hvalues.ownerKey.length_lt hsplits.fits,
    hvalues.gates.length_lt Gate.length_encode_le_of_message hsplits.fits,
    hvalues.policies.length_lt StoredPolicy.length_encode_le_of_message hsplits.fits⟩

/-- **Writing what was read normalizes it.**  A box, tokens or the rules of a policy are written in
bytes that read as the same, that are not longer than those they were read from, and that do not
change when they are read and written again. -/
theorem normalizes (bytes : Bytes) :
    (∀ box, decode bytes = .ok box → Normalizes decode encode bytes box)
      ∧ (∀ tokens, Tokens.decode bytes = .ok tokens →
        Normalizes Tokens.decode Tokens.encode bytes tokens)
      ∧ ∀ policy, PlacementPolicy.decode bytes = .ok policy →
        policy.shortened.replicas = policy.replicas
          ∧ policy.shortened.backupFactor = policy.backupFactor
          ∧ Normalizes PlacementPolicy.decode (fun other => other.shortened.encoded) bytes
            policy.shortened := by
  refine ⟨fun box h => ?_, fun tokens h => ?_, fun policy h => ?_⟩
  · exact normalizes_of_decode_eq (decode_encode (sized_of_decode h)) (length_encode_le h)
  · exact normalizes_of_decode_eq (Tokens.decode_encode (Tokens.sized_of_decode h))
      (Tokens.length_encode_le h)
  · -- a shortened policy has the same rules, so it is its own shortened form
    have hread := PlacementPolicy.decode_shortened h
    have hlength := PlacementPolicy.length_shortened_le h
    exact ⟨rfl, rfl, normalizes_of_decode_eq hread hlength⟩

/-- A box whose key is written twice, the second time with a zero at the end of its length, and
whose gate has a field that is not known. -/
theorem normalizes_overwritten_key :
    let bytes : Bytes :=
      [0x0a, 0x01, 0x07, 0x0a, 0x81, 0x00, 0x02, 0x12, 0x05, 0x78, 0x05, 0x0a, 0x01, 0x09]
    let box : AccessBox := ⟨[2], [⟨[], [9]⟩], []⟩
    decode bytes = .ok box ∧ Normalizes decode encode bytes box := by
  intro bytes box
  have hread : decode bytes = .ok box := by decide +kernel
  exact ⟨hread, (normalizes bytes).1 box hread⟩

end AccessBox

end Coffer
