import Coffer.Proofs.Wire.Grammar

/-!
# Proofs/Wire/Truncation — bytes that end too soon

No word is the beginning of another, so a word of which something is missing is not read as a
shorter one.  A number that is cut short is a truncated varint, and a payload field is that or a
truncated payload, by where the cut is (`Field.next_of_cut`).  A message is cut either between two
of its fields or inside one (`Field.cut_between_or_inside`).
-/

namespace Coffer.Wire

/-! ## Numbers -/

namespace Varint

/-- Digits of which some are missing run out before they end, if there were few enough. -/
theorem Digits.readWithin_of_cut {word piece missing : Bytes} {value limit : Nat}
    (h : Digits word value) (hword : word = piece ++ missing) (hmissing : missing ≠ [])
    (hlength : word.length ≤ limit + 1) :
    readWithin (limit + 1) piece = .error .truncatedVarint := by
  induction h generalizing piece limit with
  | @last byte hbyte =>
    rcases List.singleton_eq_append_iff.1 hword with ⟨rfl, -⟩ | ⟨-, hnone⟩
    · rfl
    · exact absurd hnone hmissing
  | @more byte word high hmore hhigh ih =>
    rcases List.cons_eq_append_iff.1 hword with ⟨rfl, -⟩ | ⟨piece, rfl, rfl⟩
    · rfl
    · have hpos := hhigh.length_pos
      rw [List.length_cons] at hlength
      obtain ⟨limit, rfl⟩ : ∃ fewer, limit = fewer + 1 := ⟨limit - 1, by omega⟩
      have hread : readWithin (limit + 1) piece = .error .truncatedVarint :=
        ih rfl (Nat.le_of_succ_le_succ hlength)
      rw [readWithin, if_neg (fun hc => Nat.succ_ne_zero limit hc.1), if_neg hmore, hread]
      rfl

/-- What is written of a number is a word for it. -/
theorem spells_write {value : Nat} (h : value < valueLimit) : Spells (write value) value := by
  obtain ⟨word, heq, hword⟩ := exact_read.1 (read_write_append h [])
  rwa [List.append_cancel_right heq]

/-- **A number that is cut short** is a truncated varint. -/
theorem read_of_cut {value : Nat} {piece missing : Bytes} (h : value < valueLimit)
    (hcut : write value = piece ++ missing) (hmissing : missing ≠ []) :
    read piece = .error .truncatedVarint :=
  (spells_write h).digits.readWithin_of_cut hcut hmissing (spells_write h).length_le

end Varint

/-! ## Payload fields -/

namespace Field

/-- **What stands before the payload** of a field: its key and the payload's length. -/
def announcement (number : Nat) (content : Bytes) : Bytes :=
  Varint.write (key ⟨number, .payload content⟩) ++ Varint.write content.length

/-- **The fault of a payload field** of which only so many bytes are left. -/
def cutFault (number : Nat) (content : Bytes) (left : Nat) : Fault :=
  if left < (announcement number content).length then .truncatedVarint else .truncatedPayload

/-- Behind a key, the value is read that it announces. -/
theorem next_write_key_append {field : Field} (h : field.Fits) (rest : Bytes) :
    next (Varint.write field.key ++ rest)
      = (Value.read field.value.kind rest).map fun read => some (⟨field.number, read.1⟩, read.2)
    := by
  have hlt := h.number_lt
  have hpos := h.number_pos
  rw [next_eq_bind (List.append_ne_nil_of_left_ne_nil (Varint.write_ne_nil _) _),
    Varint.read_write_append h.key_lt]
  simp only [bind, Except.bind, key_div, key_mod]
  rw [if_neg (by omega), if_neg (by omega)]
  cases Value.read field.value.kind rest <;> rfl

variable {number : Nat} {content piece missing : Bytes}

/-- **A payload field that is cut short** has the fault that goes with the cut. -/
theorem next_of_cut (hfits : Fits ⟨number, .payload content⟩)
    (hcut : write ⟨number, .payload content⟩ = piece ++ missing) (hpiece : piece ≠ [])
    (hmissing : missing ≠ []) : next piece = .error (cutFault number content piece.length) := by
  have hlength : content.length < Varint.valueLimit := hfits.value
  have hword : announcement number content ++ content = piece ++ missing :=
    (List.append_assoc _ _ _).trans hcut
  rcases Bytes.cut_append hword with ⟨rest, hrest, hannounced⟩ | ⟨more, rfl, hmore⟩
  · have hshort : piece.length < (announcement number content).length := by
      have := List.length_pos_of_ne_nil hrest
      rw [hannounced, List.length_append]
      omega
    rw [cutFault, if_pos hshort]
    rcases Bytes.cut_append hannounced with ⟨after, hafter, hkey⟩ | ⟨more, rfl, hmore⟩
    · rw [next_eq_bind hpiece, Varint.read_of_cut hfits.key_lt hkey hafter]
      rfl
    · rw [next_write_key_append hfits, Value.kind, Value.read,
        Varint.read_of_cut hlength hmore hrest]
      rfl
  · have hlong : ¬ (announcement number content ++ more).length
        < (announcement number content).length := by
      rw [List.length_append]
      omega
    have hless : more.length < content.length := by
      have := List.length_pos_of_ne_nil hmissing
      rw [hmore, List.length_append]
      omega
    rw [cutFault, if_neg hlong, announcement, List.append_assoc, next_write_key_append hfits,
      Value.kind, Value.read, Varint.read_write_append hlength]
    simp only [bind, Except.bind, List.splitAt_eq]
    rw [if_pos (Nat.lt_of_le_of_lt (List.length_take_le' _ _) hless)]
    rfl

/-! ## Messages -/

/-- **A message is cut** between two of its fields, or inside one of them. -/
theorem cut_between_or_inside {fields : List Field} {cut missing : Bytes}
    (h : writeAll fields = cut ++ missing) :
    (∃ count, cut = writeAll (fields.take count))
      ∨ ∃ count field piece rest, fields[count]? = some field
        ∧ cut = writeAll (fields.take count) ++ piece ∧ field.write = piece ++ rest
        ∧ piece ≠ [] ∧ rest ≠ [] := by
  induction fields generalizing cut with
  | nil => exact .inl ⟨0, (List.append_eq_nil_iff.1 h.symm).1⟩
  | cons field fields ih =>
    rw [writeAll_cons] at h
    rcases Bytes.cut_append h with ⟨rest, hrest, hfield⟩ | ⟨more, rfl, hmore⟩
    · by_cases hcut : cut = []
      · exact .inl ⟨0, hcut⟩
      · exact .inr ⟨0, field, cut, rest, rfl, rfl, hfield, hcut, hrest⟩
    · rcases ih hmore with ⟨count, rfl⟩ | ⟨count, other, piece, rest, hother, rfl, hcut⟩
      · exact .inl ⟨count + 1, rfl⟩
      · refine .inr ⟨count + 1, other, piece, rest, hother, ?_, hcut⟩
        rw [List.take_succ_cons, writeAll_cons, List.append_assoc]

end Field

end Coffer.Wire
