import Mathlib.Algebra.BigOperators.Group.Finset.Piecewise
import Mathlib.Algebra.Order.BigOperators.Group.Finset
import Coffer.Proofs.Wire.Grammar

/-!
# Proofs/Wire/Shortest — nothing is said in fewer bytes

What is written of a number, a value or a field is never longer than another word for it
(`Field.Spells.length_write_le`).  Of the bytes of a message, every number of a field has its
**share** (`sum_length_share_le`); a singular field is written in no more bytes than the share of
its number, and so are the messages of a repeated field if none of them is written longer than it
was (`Last.length_bytes_le`, `All.length_messages_le`).
-/

namespace Coffer.Wire

/-! ## Words -/

namespace Varint

/-- **No digits of a number are fewer** than those that are written. -/
theorem Digits.length_write_le {word : Bytes} {value : Nat} (h : Digits word value) :
    (write value).length ≤ word.length := by
  induction h with
  | @last byte hbyte =>
    have hlt : byte.toNat < 128 := UInt8.lt_iff_toNat_lt.1 hbyte
    rw [write, if_pos hlt]
    exact Nat.le_refl 1
  | @more byte word high _ _ ih =>
    have hhigh : (byte.toNat % 128 + 128 * high) / 128 = high := by omega
    rw [write, hhigh]
    split
    · exact Nat.succ_le_succ (Nat.zero_le _)
    · exact Nat.succ_le_succ ih

/-- **A larger number is not written shorter.** -/
theorem length_write_mono {value other : Nat} (h : value ≤ other) :
    (write value).length ≤ (write other).length := by
  induction other using write.induct generalizing value with
  | case1 other hother =>
    rw [write, if_pos (Nat.lt_of_le_of_lt h hother), write.eq_1 other, if_pos hother]
    exact Nat.le_refl 1
  | case2 other hother ih =>
    rw [write, write.eq_1 other, if_neg hother]
    split
    · exact Nat.succ_le_succ (Nat.zero_le _)
    · exact Nat.succ_le_succ (ih (Nat.div_le_div_right h))

end Varint

namespace Value

/-- A value has no shorter word than the one that is written. -/
theorem Spells.length_write_le {word : Bytes} {value : Value} (h : Spells word value) :
    value.write.length ≤ word.length := by
  cases h with
  | varint h => exact h.digits.length_write_le
  | fixed64 h => rw [write, Bytes.length_littleEndian, h]
  | payload h =>
    rw [write, List.length_append, List.length_append]
    exact Nat.add_le_add_right h.digits.length_write_le _
  | fixed32 h => rw [write, Bytes.length_littleEndian, h]

/-- A value that has a word fits. -/
theorem Spells.fits {word : Bytes} {value : Value} (h : Spells word value) : value.Fits := by
  have hlt := Bytes.ofLittleEndian_lt word
  cases h with
  | varint h => exact h.value_lt
  | fixed64 h => rwa [h] at hlt
  | payload h => exact h.value_lt
  | fixed32 h => rwa [h] at hlt

end Value

namespace Field

/-- **A field has no shorter word** than the one that is written. -/
theorem Spells.length_write_le {word : Bytes} {field : Field} (h : Spells word field) :
    field.write.length ≤ word.length := by
  cases h with
  | intro _ _ hkey hvalue =>
    rw [write, List.length_append, List.length_append]
    exact Nat.add_le_add hkey.digits.length_write_le hvalue.length_write_le

/-- **What has a word fits**, so it can be written. -/
theorem Spells.fits {word : Bytes} {field : Field} (h : Spells word field) : field.Fits := by
  cases h with
  | intro hpos hlt _ hvalue => exact ⟨hpos, hlt, hvalue.fits⟩

/-- **The fields of a message are not written longer** than they were. -/
theorem Splits.length_writeAll_le {bytes : Bytes} {pieces : List (Bytes × Field)}
    (h : Splits bytes pieces) : (writeAll (pieces.map Prod.snd)).length ≤ bytes.length := by
  induction pieces generalizing bytes with
  | nil => exact Nat.zero_le _
  | cons piece pieces ih =>
    obtain ⟨hword, rest, rfl, hrest⟩ := splits_cons_iff.1 h
    rw [List.map_cons, writeAll_cons, List.length_append, List.length_append]
    exact Nat.add_le_add hword.length_write_le (ih hrest)

/-- The fields of a message fit. -/
theorem Splits.fits {bytes : Bytes} {pieces : List (Bytes × Field)} (h : Splits bytes pieces) :
    ∀ field ∈ pieces.map Prod.snd, field.Fits :=
  List.forall_mem_map.2 fun piece hmem => (h.spells piece hmem).fits

/-! ## Shares -/

/-- **The share of a number** in a message: the fields that have it. -/
def share (number : Nat) (fields : List Field) : List Field :=
  (fields.filterMap (Field.value? number)).map (Field.mk number)

theorem length_share_cons (number : Nat) (field : Field) (fields : List Field) :
    (writeAll (share number (field :: fields))).length
      = (if field.number = number then field.write.length else 0)
        + (writeAll (share number fields)).length := by
  by_cases hnumber : field.number = number
  · have hvalue : field.value? number = some field.value := if_pos hnumber
    subst hnumber
    rw [share, List.filterMap_cons_some hvalue, List.map_cons, writeAll_cons, List.length_append,
      if_pos rfl]
    rfl
  · have hvalue : field.value? number = none := if_neg hnumber
    rw [share, List.filterMap_cons_none hvalue, if_neg hnumber, Nat.zero_add]
    rfl

/-- The share of a number is a part of the message. -/
theorem share_subset (number : Nat) (fields : List Field) : share number fields ⊆ fields := by
  intro found hmem
  obtain ⟨value, hvalue, rfl⟩ := List.mem_map.1 hmem
  obtain ⟨field, hfield, heq⟩ := List.mem_filterMap.1 hvalue
  rw [Field.value?] at heq
  split at heq
  · rename_i hnumber
    obtain rfl := Option.some.inj heq
    rwa [← hnumber]
  · cases heq

theorem length_write_le_of_mem {field : Field} {fields : List Field} (h : field ∈ fields) :
    field.write.length ≤ (writeAll fields).length := by
  obtain ⟨before, after, rfl⟩ := List.append_of_mem h
  rw [writeAll_append, writeAll_cons, List.length_append, List.length_append]
  omega

/-- **Shares do not overlap**: those of different numbers together are no longer than the
message. -/
theorem sum_length_share_le (numbers : Finset Nat) (fields : List Field) :
    ∑ number ∈ numbers, (writeAll (share number fields)).length ≤ (writeAll fields).length := by
  induction fields with
  | nil => exact (Finset.sum_eq_zero fun _ _ => rfl).le
  | cons field fields ih =>
    simp only [length_share_cons, Finset.sum_add_distrib, Finset.sum_ite_eq]
    rw [writeAll_cons, List.length_append]
    refine Nat.add_le_add ?_ ih
    split
    · exact Nat.le_refl _
    · exact Nat.zero_le _

/-- The shares of a message are no longer than the bytes that it was read from. -/
theorem Splits.sum_length_share_le {bytes : Bytes} {pieces : List (Bytes × Field)}
    (h : Splits bytes pieces) (numbers : Finset Nat) :
    ∑ number ∈ numbers, (writeAll (share number (pieces.map Prod.snd))).length ≤ bytes.length :=
  (Field.sum_length_share_le numbers _).trans h.length_writeAll_le

end Field

/-! ## What is written of a share -/

section

variable {α : Type} {number : Nat} {Holds : Value → α → Prop} {fields : List Field}

/-- **An item of a repeated field** is held by a field of the share. -/
theorem All.exists_mem_share {items : List α} (h : All number Holds fields items) :
    ∀ item ∈ items, ∃ value, ⟨number, value⟩ ∈ Field.share number fields ∧ Holds value item := by
  unfold All at h
  unfold Field.share
  generalize fields.filterMap (Field.value? number) = values at h ⊢
  induction h with
  | nil => exact List.forall_mem_nil _
  | @cons value item values items hvalue _ ih =>
    refine List.forall_mem_cons.2 ⟨⟨value, List.mem_cons_self, hvalue⟩, fun other hother => ?_⟩
    obtain ⟨found, hfound, hholds⟩ := ih other hother
    exact ⟨found, List.mem_cons_of_mem _ hfound, hholds⟩

/-- The item of a singular field is the fallback, or held by a field of the share. -/
theorem Last.eq_or_exists_mem_share {fallback item : α}
    (h : Last number Holds fields fallback item) :
    item = fallback ∨ ∃ value, ⟨number, value⟩ ∈ Field.share number fields ∧ Holds value item := by
  obtain ⟨items, hall, rfl⟩ := h
  rcases items.eq_nil_or_concat with rfl | ⟨before, item, rfl⟩
  · exact .inl rfl
  · have hlast : (before ++ [item]).getLastD fallback = item := by simp
    rw [List.concat_eq_append] at hall ⊢
    rw [hlast]
    exact .inr (hall.exists_mem_share item (List.mem_append_right _ (List.mem_singleton_self _)))

/-- **A singular field** is written in no more bytes than the share of its number, if nothing is
written of the fallback, and of anything else at most a value that holds it. -/
theorem Last.length_le {fallback item : α} (h : Last number Holds fields fallback item)
    {written : List Field} (hfallback : item = fallback → written = [])
    (hwritten : ∀ value, Holds value item → written = [] ∨ written = [⟨number, value⟩]) :
    (Field.writeAll written).length ≤ (Field.writeAll (Field.share number fields)).length := by
  rcases h.eq_or_exists_mem_share with heq | ⟨value, hmem, hvalue⟩
  · rw [hfallback heq]
    exact Nat.zero_le _
  · rcases hwritten value hvalue with rfl | rfl
    · exact Nat.zero_le _
    · rw [Field.writeAll_cons, Field.writeAll, List.flatMap_nil, List.append_nil]
      exact Field.length_write_le_of_mem hmem

theorem Last.length_bytes_le {content : Bytes} (h : Last number Value.IsPayload fields [] content) :
    (Field.writeAll (Field.bytes number content)).length
      ≤ (Field.writeAll (Field.share number fields)).length := by
  refine h.length_le (fun hempty => if_pos hempty) ?_
  rintro value rfl
  exact ite_eq_or_eq _ _ _

theorem Last.length_text_le {text : String} (h : Last number Value.IsText fields "" text) :
    (Field.writeAll (Field.text number text)).length
      ≤ (Field.writeAll (Field.share number fields)).length := by
  refine h.length_le (fun hempty => hempty ▸ rfl) ?_
  rintro value rfl
  exact ite_eq_or_eq _ _ _

theorem Last.length_word32_le {word : UInt32} (h : Last number Value.IsWord32 fields 0 word) :
    (Field.writeAll (Field.word32 number word)).length
      ≤ (Field.writeAll (Field.share number fields)).length := by
  refine h.length_le (fun hzero => if_pos hzero) ?_
  rintro value rfl
  exact ite_eq_or_eq _ _ _

/-- **A payload that is not longer** is not written longer. -/
theorem Field.length_write_payload_mono {number : Nat} {content other : Bytes}
    (h : content.length ≤ other.length) :
    (Field.mk number (.payload content)).write.length
      ≤ (Field.mk number (.payload other)).write.length := by
  have hlength := Varint.length_write_mono h
  simp only [write, key, Value.kind, Value.write, List.length_append]
  omega

/-- **A repeated field** is written in no more bytes than the share of its number, if no message in
it is written longer than it was. -/
theorem All.length_messages_le {Spells : Bytes → α → Prop} {encode : α → Bytes}
    (hshort : ∀ content item, Spells content item → (encode item).length ≤ content.length)
    {items : List α} (h : All number (Value.IsMessage Spells) fields items) :
    (Field.writeAll (items.flatMap fun item => Field.message number (encode item))).length
      ≤ (Field.writeAll (Field.share number fields)).length := by
  unfold All at h
  unfold Field.share
  generalize fields.filterMap (Field.value? number) = values at h ⊢
  induction h with
  | nil => exact Nat.le_refl _
  | @cons value item values items hvalue _ ih =>
    obtain ⟨content, rfl, hcontent⟩ := hvalue
    rw [List.flatMap_cons, Field.message, List.singleton_append, List.map_cons, Field.writeAll_cons,
      Field.writeAll_cons, List.length_append, List.length_append]
    exact Nat.add_le_add (Field.length_write_payload_mono (hshort content item hcontent)) ih

/-! ## What is read can be written -/

/-- The bytes that a singular field holds are few enough. -/
theorem Last.length_lt {content : Bytes} (h : Last number Value.IsPayload fields [] content)
    (hfits : ∀ field ∈ fields, field.Fits) : content.length < Varint.valueLimit := by
  rcases h.eq_or_exists_mem_share with rfl | ⟨value, hmem, rfl⟩
  · exact Nat.succ_pos _
  · exact (hfits _ (Field.share_subset number fields hmem)).value

/-- The bytes of a message in a repeated field are few enough, if none is written longer than it
was. -/
theorem All.length_lt {Spells : Bytes → α → Prop} {encode : α → Bytes}
    (hshort : ∀ content item, Spells content item → (encode item).length ≤ content.length)
    {items : List α} (h : All number (Value.IsMessage Spells) fields items)
    (hfits : ∀ field ∈ fields, field.Fits) :
    ∀ item ∈ items, (encode item).length < Varint.valueLimit := by
  intro item hitem
  obtain ⟨value, hmem, content, rfl, hcontent⟩ := h.exists_mem_share item hitem
  exact Nat.lt_of_le_of_lt (hshort content item hcontent)
    (hfits _ (Field.share_subset number fields hmem)).value

end

end Coffer.Wire
