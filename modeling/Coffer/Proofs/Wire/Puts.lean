import Coffer.Proofs.Wire.Progress

/-!
# Proofs/Wire/Puts — a buffer of written fields reads back call by call

Fields are written by calls that each put one behind what a buffer holds, or none: an empty byte
string and the number zero are left out, an inner message never is.  Reading the buffer yields the
calls that were not left out, in their order (`Put.yields_kept`).
-/

namespace Coffer.Wire.Field

/-- **A call that writes a field** behind what a buffer holds. -/
inductive Put
  /-- A byte string, or a text by its bytes. -/
  | bytes (number : Nat) (content : Bytes)
  /-- An inner message. -/
  | message (number : Nat) (content : Bytes)
  /-- A number of thirty-two bits. -/
  | word32 (number : Nat) (value : UInt32)

namespace Put

/-- The number of the field. -/
def number : Put → Nat
  | bytes number _ => number
  | message number _ => number
  | word32 number _ => number

/-- What the field holds. -/
def value : Put → Value
  | bytes _ content => .payload content
  | message _ content => .payload content
  | word32 _ value => .varint value.toNat

/-- Whether the call writes its field: an empty byte string and the number zero are left out. -/
def isKept : Put → Bool
  | bytes _ content => !content.isEmpty
  | message _ _ => true
  | word32 _ value => value != 0

/-- The field that the call is for. -/
def field (put : Put) : Field := ⟨put.number, put.value⟩

/-- The fields that the call writes. -/
def fields : Put → List Field
  | bytes number content => Field.bytes number content
  | message number content => Field.message number content
  | word32 number value => Field.word32 number value

/-- The buffer after the call. -/
def after (buffer : Bytes) (put : Put) : Bytes := buffer ++ writeAll put.fields

/-- **A call fits** when the field's number has thirty-two bits and is not zero, and sixty-four bits
hold the length of a byte string. -/
structure Fits (put : Put) : Prop where
  /-- The number is not zero. -/
  number_pos : 0 < put.number
  /-- The number has thirty-two bits. -/
  number_lt : put.number < word32Limit
  /-- Sixty-four bits hold the length. -/
  length_lt : ∀ content, put.value = .payload content → content.length < Varint.valueLimit

theorem Fits.of_mem_fields {put : Put} (h : put.Fits) : ∀ written ∈ put.fields, written.Fits := by
  have hnumber : 0 < put.number ∧ put.number < word32Limit := ⟨h.number_pos, h.number_lt⟩
  cases put with
  | bytes _ content => exact fits_of_mem_bytes hnumber (h.length_lt content rfl)
  | message _ content => exact fits_of_mem_message hnumber (h.length_lt content rfl)
  | word32 _ word => exact fits_of_mem_word32 hnumber word

/-- **A call writes its own field**, or none. -/
theorem fields_eq (put : Put) : put.fields = if put.isKept then [put.field] else [] := by
  cases put with
  | bytes number content => cases content <;> rfl
  | message => rfl
  | word32 number word =>
    rw [fields, Field.word32, isKept]
    by_cases hzero : word = 0
    · rw [if_pos hzero, hzero]
      rfl
    · rw [if_neg hzero, if_pos (bne_iff_ne.2 hzero)]
      rfl

theorem flatMap_fields (puts : List Put) :
    puts.flatMap fields = (puts.filter isKept).map field := by
  induction puts with
  | nil => rfl
  | cons put puts ih =>
    rw [List.flatMap_cons, fields_eq, ih, List.filter_cons]
    split <;> rfl

theorem foldl_after (puts : List Put) (buffer : Bytes) :
    puts.foldl after buffer = buffer ++ writeAll ((puts.filter isKept).map field) := by
  rw [← flatMap_fields]
  induction puts generalizing buffer with
  | nil => exact (List.append_nil buffer).symm
  | cons put puts ih =>
    rw [List.foldl_cons, ih, after, List.flatMap_cons, writeAll_append, List.append_assoc]

end Put

/-- **Fields that fit come off one by one**, and what follows them is left. -/
theorem yields_writeAll {fields : List Field} (h : ∀ field ∈ fields, field.Fits) (rest : Bytes) :
    Yields (writeAll fields ++ rest) fields rest := by
  induction fields with
  | nil => exact .nil rest
  | cons field fields ih =>
    obtain ⟨hfield, hfields⟩ := List.forall_mem_cons.1 h
    rw [writeAll_cons, List.append_assoc]
    exact .cons (next_write_append hfield _) (ih hfields)

namespace Put

/-- **What was written is read back call by call.**  Reading the buffer yields the fields of the
calls that were not left out, each with the number and the value of the call, in the order of the
calls, and then there is no field.  So does the loop over the buffer. -/
theorem yields_kept (puts : List Put) (h : ∀ put ∈ puts, put.Fits) :
    (∃ rest, Yields (puts.foldl after []) ((puts.filter isKept).map field) rest
        ∧ next rest = .ok none)
      ∧ readAll .ok (puts.foldl after []) = .ok ((puts.filter isKept).map field) := by
  have hfits : ∀ written ∈ (puts.filter isKept).map field, written.Fits := by
    rw [← flatMap_fields]
    exact List.forall_mem_flatMap.2 fun put hput => (h put hput).of_mem_fields
  rw [foldl_after, List.nil_append]
  refine ⟨⟨[], ?_, rfl⟩, ?_⟩
  · have hyields := yields_writeAll hfits []
    rwa [List.append_nil] at hyields
  · rw [readAll_writeAll .ok hfits]
    exact Except.mapM_eq_ok_iff.2 (List.forall₂_same.2 fun _ _ => rfl)

/-- Calls with the largest number of a field, with one number twice, and three that are left out or
hold nothing. -/
theorem yields_kept_repeated_numbers :
    (∀ put ∈ [word32 1 0, bytes 0xffffffff [1, 2], message 5 [], bytes 5 [], word32 5 300,
      message 0xffffffff [7]], put.Fits)
      ∧ ∃ rest, Yields ([word32 1 0, bytes 0xffffffff [1, 2], message 5 [], bytes 5 [],
          word32 5 300, message 0xffffffff [7]].foldl after [])
        [⟨0xffffffff, .payload [1, 2]⟩, ⟨5, .payload []⟩, ⟨5, .varint 300⟩,
          ⟨0xffffffff, .payload [7]⟩] rest
        ∧ next rest = .ok none := by
  have hfits : ∀ put ∈ [word32 1 0, bytes 0xffffffff [1, 2], message 5 [], bytes 5 [],
      word32 5 300, message 0xffffffff [7]], put.Fits := by
    simp only [List.forall_mem_cons]
    refine ⟨⟨by decide, by decide, nofun⟩, ⟨by decide, by decide, ?_⟩, ⟨by decide, by decide, ?_⟩,
      ⟨by decide, by decide, ?_⟩, ⟨by decide, by decide, nofun⟩, ⟨by decide, by decide, ?_⟩,
      List.forall_mem_nil _⟩
    all_goals
      rintro _ ⟨⟩
      decide
  exact ⟨hfits, (yields_kept _ hfits).1⟩

end Put

end Coffer.Wire.Field
