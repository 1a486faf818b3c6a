import Coffer.Proofs.Box.RoundTrip
import Coffer.Proofs.Wire.Progress

/-!
# Proofs/Box/Progress — every message is read to its end

Each of the six decoders is a loop over the fields of its bytes.  Fields go forward by two bytes or
more, so the loop ends on any bytes after half as many fields as there are bytes
(`reading_advances`).
-/

namespace Coffer

open Wire

/-- **Reading goes forward, stays inside the bytes and is local.**  A field that is read has
consumed a word of two bytes or more, in which any byte string that it gives lies, and what follows
the word is left: other bytes in its place would be left as well, and the field would be the same.
No read goes past the end.  There is no field in the empty message only, and a length that announces
more bytes than are left is a fault.  So every field that comes off takes two bytes at least, and
the loops of the decoders of boxes, gates, stored policies, tokens, placement policies and replicas
end on any bytes after half as many fields. -/
theorem reading_advances :
    (∀ bytes field rest, Field.next bytes = .ok (some (field, rest)) →
      ∃ word, Field.Consumes bytes word rest field)
      ∧ (∀ bytes, (Field.nextGuarded bytes).run = some (Field.next bytes))
      ∧ (∀ bytes, Field.next bytes = .ok none ↔ bytes = [])
      ∧ (∀ number length keyWord lengthWord left, 0 < number → number < word32Limit →
        Varint.Spells keyWord (8 * number + 2) → Varint.Spells lengthWord length →
        left.length < length →
          Field.next (keyWord ++ (lengthWord ++ left)) = .error .truncatedPayload)
      ∧ (∀ bytes fields rest, Field.Yields bytes fields rest →
        2 * fields.length + rest.length ≤ bytes.length)
      ∧ Field.EndsByHalf AccessBox.Part.ofField (fun _ => AccessBox.ofParts) AccessBox.decode
      ∧ Field.EndsByHalf Gate.Part.ofField (fun _ => List.foldl Gate.add ⟨[], []⟩) Gate.decode
      ∧ Field.EndsByHalf StoredPolicy.Part.ofField
          (fun _ => List.foldl StoredPolicy.add ⟨"", []⟩) StoredPolicy.decode
      ∧ Field.EndsByHalf Tokens.Part.ofField (fun _ => List.foldl Tokens.add ⟨[], [], []⟩)
          Tokens.decode
      ∧ Field.EndsByHalf PlacementPolicy.Part.ofField
          (fun bytes parts => ⟨parts.filterMap PlacementPolicy.Part.replica?,
            parts.foldl PlacementPolicy.Part.lastBackupFactor 0, bytes⟩) PlacementPolicy.decode
      ∧ Field.EndsByHalf Replica.Part.ofField (fun _ => List.foldl Replica.add ⟨0, ""⟩)
          Replica.decode :=
  ⟨fun _ _ _ => Field.exists_consumes, Field.run_nextGuarded, fun _ => Field.next_eq_none_iff,
    fun _ _ _ _ _ => Field.next_of_announced, fun _ _ _ => Field.Yields.length_le,
    Field.endsByHalf_of_eq AccessBox.decode_eq, Field.endsByHalf_of_eq Gate.decode_eq,
    Field.endsByHalf_of_eq StoredPolicy.decode_eq, Field.endsByHalf_of_eq Tokens.decode_eq,
    Field.endsByHalf_of_eq PlacementPolicy.decode_eq, Field.endsByHalf_of_eq Replica.decode_eq⟩

/-- A byte string of two bytes is read, and the largest length of all is a fault. -/
theorem reading_advances_largest_length :
    (∃ word, Field.Consumes [10, 2, 104, 105, 9] word [9] ⟨1, .payload [104, 105]⟩)
      ∧ Field.next ([10] ++ ([255, 255, 255, 255, 255, 255, 255, 255, 255, 1] ++ [7]))
        = .error .truncatedPayload := by
  have hkey : Varint.read [10] = .ok (10, []) := rfl
  have hlength : Varint.read [255, 255, 255, 255, 255, 255, 255, 255, 255, 1]
      = .ok (0xffffffffffffffff, []) := rfl
  obtain ⟨_, heq, hkeyWord⟩ := Varint.exact_read.1 hkey
  obtain ⟨_, hlengthEq, hlengthWord⟩ := Varint.exact_read.1 hlength
  rw [List.append_nil] at heq hlengthEq
  subst heq hlengthEq
  exact ⟨reading_advances.1 _ _ _ rfl, reading_advances.2.2.2.1 1 _ _ _ [7] (by decide) (by decide)
    hkeyWord hlengthWord (by decide)⟩

end Coffer
