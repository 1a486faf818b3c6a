import Coffer.Box.Unpack
import Coffer.Proofs.Box.Grammar
import Coffer.Proofs.Key.RoundTrip

/-!
# Proofs/Box/Extension — bytes behind a box

Bytes that follow a box are read by themselves, and what they say is added to it
(`AccessBox.decode_append`): gates and policies come behind those of the box, and a key replaces its
key.  So whoever adds to a stored box, but leaves its key, changes nothing for those who have a gate
in it (`AccessBox.decode_extended`).
-/

namespace Coffer.AccessBox

open Wire

/-! ## Boxes made up of parts -/

/-- **The gate of a recipient** and the packer's key are all that the recipient's content depends
on. -/
theorem gateContent_congr {box other : AccessBox} {mine : PrivateKey}
    (hkey : box.ownerKey = other.ownerKey)
    (hgate : box.gateFor? mine.publicKey = other.gateFor? mine.publicKey) :
    box.gateContent mine = other.gateContent mine := by
  simp only [gateContent, hkey, hgate]

/-- **The first gate for a key** is not moved by gates that come behind it. -/
theorem gateFor?_of_gates_eq_append {box extended : AccessBox} {gates : List Gate} {key : PublicKey}
    (hgates : extended.gates = box.gates ++ gates)
    (hmem : ∃ gate ∈ box.gates, gate.publicKey = key.encode) :
    extended.gateFor? key = box.gateFor? key := by
  obtain ⟨gate, hgate, hkey⟩ := hmem
  have hsome : (box.gateFor? key).isSome := by
    rw [gateFor?, List.find?_isSome]
    exact ⟨gate, hgate, beq_iff_eq.2 hkey⟩
  rw [gateFor?, hgates, List.find?_append]
  exact Option.or_of_isSome hsome

/-- The key of a box is the last one that a part holds. -/
theorem ownerKey_ofParts_append (parts others : List Part) :
    (ofParts (parts ++ others)).ownerKey
      = (others.filterMap Part.ownerKey?).getLastD (ofParts parts).ownerKey := by
  rw [ofParts, List.foldl_append]
  change id (others.foldl Part.lastOwnerKey _) = _
  exact foldl_eq_getLastD (fun _ part => by cases part <;> rfl) others _

/-- **What more parts add** to a box: gates and policies behind its own, and their key, if they
hold one. -/
theorem ofParts_append (parts others : List Part) :
    (ofParts (parts ++ others)).gates = (ofParts parts).gates ++ (ofParts others).gates
      ∧ (ofParts (parts ++ others)).policies = (ofParts parts).policies ++ (ofParts others).policies
      ∧ (ofParts (parts ++ others)).ownerKey
        = if others.filterMap Part.ownerKey? = [] then (ofParts parts).ownerKey
          else (ofParts others).ownerKey := by
  refine ⟨List.filterMap_append, List.filterMap_append, ?_⟩
  have hothers := ownerKey_ofParts_append [] others
  rw [List.nil_append] at hothers
  rw [ownerKey_ofParts_append, hothers]
  cases others.filterMap Part.ownerKey? <;> rfl

/-! ## Bytes one after the other -/

theorem reads_ownerKey : Reads Part.ofField 1 Value.IsPayload Part.ownerKey? :=
  fun hpart => (reads_ofField hpart).1

/-- **Bytes behind a box** are read by themselves, and their parts come behind those of the box. -/
theorem decode_append {bytes : Bytes} {box : AccessBox} (h : decode bytes = .ok box) :
    ∃ parts, ofParts parts = box ∧ ∀ more, decode (bytes ++ more)
      = (Field.readAll Part.ofField more).map fun others => ofParts (parts ++ others) := by
  rw [decode_eq, Except.map_eq_ok_iff] at h
  obtain ⟨parts, hparts, rfl⟩ := h
  refine ⟨parts, rfl, fun more => ?_⟩
  rw [decode_eq, Field.readAll_append hparts]
  cases Field.readAll Part.ofField more <;> rfl

/-- The bytes of a box have a field for the key just when there is one. -/
theorem occurs_encode_iff {box : AccessBox} (h : box.Sized) :
    Field.Occurs 1 box.encode ↔ box.ownerKey ≠ [] := by
  have hgates : (box.gates.map Part.gate).filterMap Part.ownerKey? = [] := by
    rw [List.filterMap_map]
    exact List.filterMap_eq_nil_iff.2 fun _ _ => rfl
  have hpolicies : (box.policies.map Part.policy).filterMap Part.ownerKey? = [] := by
    rw [List.filterMap_map]
    exact List.filterMap_eq_nil_iff.2 fun _ _ => rfl
  rw [reads_ownerKey.occurs_iff (readAll_encode h), parts, List.filterMap_append,
    List.filterMap_append, hgates, hpolicies, List.append_nil, List.append_nil]
  split
  · rename_i hempty
    exact iff_of_false (not_not.2 rfl) (not_not.2 hempty)
  · rename_i hne
    exact iff_of_true (List.cons_ne_nil _ _) hne

/-- **Adding to a box never changes a gate in it.**  Bytes behind those of a box are malformed just
as they are by themselves.  Otherwise their gates and policies come behind those of the box, and
their key replaces its key if they hold one; if they hold none, everyone who has a gate in the box
finds the same in it as before. -/
theorem decode_extended {bytes : Bytes} {box : AccessBox} (h : decode bytes = .ok box)
    (more : Bytes) :
    (∀ fault, decode (bytes ++ more) = .error fault ↔ decode more = .error fault)
      ∧ ∀ other, decode more = .ok other → ∃ extended, decode (bytes ++ more) = .ok extended
        ∧ extended.gates = box.gates ++ other.gates
        ∧ extended.policies = box.policies ++ other.policies
        ∧ (Field.Occurs 1 more → extended.ownerKey = other.ownerKey)
        ∧ (¬ Field.Occurs 1 more → extended.ownerKey = box.ownerKey
          ∧ ∀ mine : PrivateKey, (∃ gate ∈ box.gates, gate.publicKey = mine.publicKey.encode) →
            extended.gateContent mine = box.gateContent mine) := by
  obtain ⟨parts, rfl, happend⟩ := decode_append h
  rw [happend, decode_eq]
  cases hmore : Field.readAll Part.ofField more with
  | error fault => exact ⟨fun found => Iff.rfl, nofun⟩
  | ok others =>
    have hoccurs : Field.Occurs 1 more ↔ others.filterMap Part.ownerKey? ≠ [] :=
      reads_ownerKey.occurs_iff hmore
    obtain ⟨hgates, hpolicies, hkey⟩ := ofParts_append parts others
    refine ⟨fun found => ⟨nofun, nofun⟩, fun other hother => ?_⟩
    obtain rfl : ofParts others = other := Except.ok.inj hother
    refine ⟨ofParts (parts ++ others), rfl, hgates, hpolicies, fun hone => ?_, fun hnone => ?_⟩
    · rw [hkey, if_neg (hoccurs.1 hone)]
    · rw [hoccurs, not_not] at hnone
      rw [if_pos hnone] at hkey
      exact ⟨hkey, fun mine hmem =>
        gateContent_congr hkey (gateFor?_of_gates_eq_append hgates hmem)⟩

/-- A second gate for a key, added with a policy behind a box that has one. -/
theorem decode_extended_second_gate :
    let mine : PrivateKey := ⟨1, by decide, by decide⟩
    let gate : Gate := ⟨mine.publicKey.encode, [9]⟩
    let box : AccessBox := ⟨[2], [gate], []⟩
    let other : AccessBox := ⟨[], [⟨gate.publicKey, [8]⟩], [⟨"é", [6]⟩]⟩
    decode box.encode = .ok box
      ∧ ∃ extended, decode (box.encode ++ other.encode) = .ok extended
        ∧ extended.gates = [gate, ⟨gate.publicKey, [8]⟩]
        ∧ extended.gateContent mine = box.gateContent mine := by
  intro mine gate box other
  have hlength (tokens : Bytes) (htokens : tokens.length = 1) :
      (Gate.mk mine.publicKey.encode tokens).encode.length < Varint.valueLimit := by
    have hkey := mine.publicKey.length_encode
    have hgate : (Gate.mk mine.publicKey.encode tokens).encode.length
        ≤ tokens.length + mine.publicKey.encode.length + 40 :=
      Gate.length_encode_le (by rw [htokens]; decide) (by rw [hkey]; decide)
    have hlimit : 74 < Varint.valueLimit := by decide
    omega
  have hbox : box.Sized :=
    ⟨by decide, List.forall_mem_singleton.2 (hlength [9] rfl), List.forall_mem_nil _⟩
  have hother : other.Sized :=
    ⟨by decide, List.forall_mem_singleton.2 (hlength [8] rfl), by decide +kernel⟩
  have hdecode := decode_encode hbox
  obtain ⟨-, hadd⟩ := decode_extended hdecode other.encode
  obtain ⟨extended, hextended, hgates, -, -, hkept⟩ := hadd other (decode_encode hother)
  have hnone : ¬ Field.Occurs 1 other.encode := fun h => (occurs_encode_iff hother).1 h rfl
  exact ⟨hdecode, extended, hextended, hgates,
    (hkept hnone).2 mine ⟨gate, List.mem_singleton_self gate, rfl⟩⟩

end Coffer.AccessBox
