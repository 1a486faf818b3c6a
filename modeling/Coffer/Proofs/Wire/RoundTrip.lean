import Coffer.Proofs.Bytes
import Coffer.Wire.Field

/-!
# Proofs/Wire/RoundTrip — what is written reads back

A varint, a value and a field that **fit** their widths read back from their bytes, whatever follows
(`read_write_append`, `next_write_append`).  A message therefore reads as its fields, one by one
(`readAll_writeAll`): no length or key is ever taken for another.
-/

namespace Coffer.Wire

/-! ## Varints -/

namespace Varint

/-- How many numbers a varint can hold: `2 ^ 64`. -/
def valueLimit : Nat := 0x10000000000000000

/-- A byte made from a small number ends a varint just when the number is below 128. -/
theorem ofNat_lt_iff {value : Nat} (h : value < 256) : UInt8.ofNat value < 128 ↔ value < 128 := by
  rw [UInt8.lt_iff_toNat_lt, UInt8.toNat_ofNat', Nat.mod_eq_of_lt h]
  rfl

theorem toNat_ofNat_of_lt (value : Nat) (h : value < 256) : (UInt8.ofNat value).toNat = value := by
  rw [UInt8.toNat_ofNat', Nat.mod_eq_of_lt h]

/-- **A varint reads back** within any number of bytes that suffices: all but the last carry seven
bits, and the last one bit. -/
theorem readWithin_write_append (limit : Nat) {value : Nat} (h : value < 2 * 128 ^ limit)
    (rest : Bytes) :
    readWithin (limit + 1) (write value ++ rest) = .ok (value, rest) := by
  induction limit generalizing value with
  | zero =>
    have hval := toNat_ofNat_of_lt value (by omega)
    have hlast : ¬ 1 < UInt8.ofNat value := by
      rw [UInt8.lt_iff_toNat_lt, hval, UInt8.toNat_one]
      omega
    rw [write, if_pos (by omega), List.singleton_append, readWithin, if_neg (fun hc => hlast hc.2),
      if_pos ((ofNat_lt_iff (by omega)).2 (by omega)), hval]
  | succ limit ih =>
    rw [write]
    split
    · rename_i hlt
      have hval := toNat_ofNat_of_lt value (by omega)
      rw [List.singleton_append, readWithin, if_neg (by omega),
        if_pos ((ofNat_lt_iff (by omega)).2 hlt), hval]
    · rename_i hge
      have hval := toNat_ofNat_of_lt (128 + value % 128) (by omega)
      have hhigh : value / 128 < 2 * 128 ^ limit := by
        rw [Nat.div_lt_iff_lt_mul (by decide)]
        rw [pow_succ] at h
        omega
      have hmore : ¬ UInt8.ofNat (128 + value % 128) < 128 := by
        rw [ofNat_lt_iff (by omega)]
        omega
      have hsum : (128 + value % 128) % 128 + 128 * (value / 128) = value := by omega
      rw [List.cons_append, readWithin, if_neg (by omega), if_neg hmore, ih hhigh, hval]
      simp only [bind, Except.bind, pure, Except.pure, hsum]

theorem read_write_append {value : Nat} (h : value < valueLimit) (rest : Bytes) :
    read (write value ++ rest) = .ok (value, rest) :=
  readWithin_write_append 9 h rest

theorem write_ne_nil (value : Nat) : write value ≠ [] := by
  rw [write]
  split <;> simp

/-- **No varint is longer** than its number needs. -/
theorem length_write_le (limit : Nat) {value : Nat} (h : value < 2 * 128 ^ limit) :
    (write value).length ≤ limit + 1 := by
  induction limit generalizing value with
  | zero =>
    rw [write, if_pos (by omega)]
    exact Nat.le_refl 1
  | succ limit ih =>
    rw [write]
    split
    · exact Nat.le_add_left 1 (limit + 1)
    · have hhigh : value / 128 < 2 * 128 ^ limit := by
        rw [Nat.div_lt_iff_lt_mul (by decide)]
        rw [pow_succ] at h
        omega
      rw [List.length_cons]
      exact Nat.succ_le_succ (ih hhigh)

end Varint

/-! ## Values -/

namespace Value

/-- **A value fits** when its number or its length is below what its kind can hold. -/
def Fits : Value → Prop
  | varint value => value < Varint.valueLimit
  | fixed64 value => value < Varint.valueLimit
  | payload bytes => bytes.length < Varint.valueLimit
  | fixed32 value => value < word32Limit

theorem kind_lt (value : Value) : value.kind < 8 := by
  cases value <;> simp [kind]

theorem read_write_append {value : Value} (h : value.Fits) (rest : Bytes) :
    read value.kind (value.write ++ rest) = .ok (value, rest) := by
  cases value with
  | varint value =>
    have hread := Varint.read_write_append h rest
    simp only [kind, write, read, hread, bind, Except.bind, pure, Except.pure]
  | fixed64 value =>
    have hval : Bytes.ofLittleEndian (Bytes.littleEndian 8 value) = value := by
      rw [Bytes.ofLittleEndian_littleEndian]
      exact Nat.mod_eq_of_lt h
    simp only [kind, write, read, List.splitAt_eq]
    rw [List.take_left' (Bytes.length_littleEndian 8 value),
      List.drop_left' (Bytes.length_littleEndian 8 value), if_neg (by simp), hval]
  | payload bytes =>
    have hread := Varint.read_write_append h (bytes ++ rest)
    simp only [kind, write, read, List.append_assoc, hread, bind, Except.bind, List.splitAt_eq,
      List.take_left', List.drop_left', lt_self_iff_false, ↓reduceIte, pure, Except.pure]
  | fixed32 value =>
    have hval : Bytes.ofLittleEndian (Bytes.littleEndian 4 value) = value := by
      rw [Bytes.ofLittleEndian_littleEndian]
      exact Nat.mod_eq_of_lt h
    simp only [kind, write, read, List.splitAt_eq]
    rw [List.take_left' (Bytes.length_littleEndian 4 value),
      List.drop_left' (Bytes.length_littleEndian 4 value), if_neg (by simp), hval]

end Value

/-! ## Fields -/

namespace Field

/-- **A field fits** when its number has thirty-two bits and is not zero, and its value fits. -/
structure Fits (field : Field) : Prop where
  /-- The number is not zero. -/
  number_pos : 0 < field.number
  /-- The number has thirty-two bits. -/
  number_lt : field.number < word32Limit
  /-- The value fits. -/
  value : field.value.Fits

theorem key_div (field : Field) : field.key / 8 = field.number := by
  have := field.value.kind_lt
  unfold key
  omega

theorem key_mod (field : Field) : field.key % 8 = field.value.kind := by
  have := field.value.kind_lt
  unfold key
  omega

theorem write_ne_nil (field : Field) : field.write ≠ [] := by
  simp [write, Varint.write_ne_nil]

theorem next_of_ne_nil {bytes : Bytes} (h : bytes ≠ []) : next bytes = (do
    let (key, rest) ← Varint.read bytes
    if word32Limit ≤ key / 8 then throw .numberOutOfRange
    if key / 8 = 0 then throw .numberZero
    let (value, rest) ← Value.read (key % 8) rest
    return some (⟨key / 8, value⟩, rest)) := by
  cases bytes with
  | nil => exact absurd rfl h
  | cons byte tail => rfl

theorem Fits.key_lt {field : Field} (h : field.Fits) : field.key < Varint.valueLimit := by
  have := h.number_lt
  have := field.value.kind_lt
  simp only [key, word32Limit, Varint.valueLimit] at *
  omega

/-- **A field reads back**, and what follows it is left. -/
theorem next_write_append {field : Field} (h : field.Fits) (rest : Bytes) :
    next (field.write ++ rest) = .ok (some (field, rest)) := by
  have hkey := h.key_lt
  have hread := Varint.read_write_append hkey (field.value.write ++ rest)
  have hvalue := Value.read_write_append h.value rest
  have hlt := h.number_lt
  have hpos := h.number_pos
  rw [next_of_ne_nil (by simp [write_ne_nil]), write, List.append_assoc, hread]
  simp only [bind, Except.bind, key_div, key_mod, hvalue]
  rw [if_neg (by omega), if_neg (by omega)]
  rfl

/-! ## Messages -/

theorem writeAll_cons (field : Field) (fields : List Field) :
    writeAll (field :: fields) = field.write ++ writeAll fields := rfl

variable {α : Type} (interpret : Field → Except Fault α)

theorem collect_of_next_none {found : List α} {bytes : Bytes} (h : next bytes = .ok none) :
    collect interpret found bytes = .ok found.reverse := by
  rw [collect]
  split <;> simp_all

theorem collect_of_next_error {found : List α} {bytes : Bytes} {fault : Fault}
    (h : next bytes = .error fault) : collect interpret found bytes = .error fault := by
  rw [collect]
  split <;> simp_all

/-- One step of reading: a field, its interpretation, and the rest. -/
theorem collect_of_next_some {found : List α} {bytes rest : Bytes} {field : Field}
    (h : next bytes = .ok (some (field, rest))) :
    collect interpret found bytes
      = interpret field >>= fun item => collect interpret (item :: found) rest := by
  rw [collect]
  split
  · simp_all
  · simp_all
  · rename_i heq
    rw [h] at heq
    obtain ⟨rfl, rfl⟩ : _ ∧ _ := by simpa using heq
    cases interpret field <;> rfl

/-- Fields that fit are read one by one, behind what was found before them. -/
theorem collect_writeAll {fields : List Field} (h : ∀ field ∈ fields, field.Fits)
    (found : List α) :
    collect interpret found (writeAll fields)
      = (fields.mapM interpret).map fun items => found.reverse ++ items := by
  induction fields generalizing found with
  | nil =>
    rw [writeAll, List.flatMap_nil, collect_of_next_none interpret rfl]
    simp [pure, Except.pure, Except.map]
  | cons field fields ih =>
    have hnext := next_write_append (h field List.mem_cons_self) (writeAll fields)
    rw [writeAll_cons, collect_of_next_some interpret hnext, List.mapM_cons]
    cases interpret field with
    | error fault => rfl
    | ok item =>
      change collect interpret (item :: found) (writeAll fields) = _
      rw [ih (fun other hother => h other (List.mem_cons_of_mem field hother))]
      cases fields.mapM interpret <;>
        simp [bind, Except.bind, pure, Except.pure, Except.map]

/-- **A message reads as its fields**, in order, each as `interpret` sees it. -/
theorem readAll_writeAll {fields : List Field} (h : ∀ field ∈ fields, field.Fits) :
    readAll interpret (writeAll fields) = fields.mapM interpret := by
  rw [readAll, collect_writeAll interpret h]
  cases fields.mapM interpret <;> rfl

/-! ## Messages of known fields -/

variable {interpret} {β : Type}

/-- **A field that may be left out** does to a fold what its item does, if the item of a field that
is left out does nothing. -/
theorem foldl_mapM_optional (add : β → α → β) (before : β) {p : Prop} [Decidable p]
    {field : Field} {item : α}
    (hread : interpret field = .ok item) (hskip : p → add before item = before)
    (rest : List Field) :
    (((if p then [] else [field]) ++ rest).mapM interpret).map (List.foldl add before)
      = (rest.mapM interpret).map (List.foldl add (add before item)) := by
  split
  · rename_i hp
    rw [hskip hp, List.nil_append]
  · rw [List.singleton_append, List.mapM_cons, hread]
    cases rest.mapM interpret <;> rfl

/-- **A field that is repeated** reads as its items, in order. -/
theorem mapM_messages {items : List β} {number : Nat} {encode : β → Bytes} {part : β → α}
    (h : ∀ item ∈ items, interpret ⟨number, .payload (encode item)⟩ = .ok (part item)) :
    (items.flatMap fun item => message number (encode item)).mapM interpret
      = .ok (items.map part) := by
  induction items with
  | nil => rfl
  | cons item items ih =>
    rw [List.flatMap_cons, message, List.singleton_append, List.mapM_cons, h item (by simp),
      ih fun other hother => h other (List.mem_cons_of_mem item hother)]
    rfl

/-! ## Lengths -/

theorem writeAll_append (fields others : List Field) :
    writeAll (fields ++ others) = writeAll fields ++ writeAll others :=
  List.flatMap_append

/-- **What a field of a message holds** is no longer than the message. -/
theorem length_le_of_mem {number : Nat} {content : Bytes} {fields : List Field}
    (h : ⟨number, .payload content⟩ ∈ fields) : content.length ≤ (writeAll fields).length := by
  obtain ⟨before, after, rfl⟩ := List.append_of_mem h
  simp only [writeAll_append, writeAll_cons, write, Value.write, List.length_append]
  omega

theorem length_le_of_bytes_subset {number : Nat} {content : Bytes} {fields : List Field}
    (h : bytes number content ⊆ fields) : content.length ≤ (writeAll fields).length := by
  rw [bytes] at h
  split at h
  · rename_i hempty
    rw [hempty]
    exact Nat.zero_le _
  · exact length_le_of_mem (h List.mem_cons_self)

/-- A byte string and what announces it: its length and its number take ten bytes at most each. -/
theorem length_writeAll_bytes_le {number : Nat} {content : Bytes}
    (hnumber : 0 < number ∧ number < word32Limit) (hlength : content.length < Varint.valueLimit) :
    (writeAll (bytes number content)).length ≤ content.length + 20 := by
  rw [bytes]
  split
  · exact Nat.zero_le _
  · have hfits : Fits ⟨number, .payload content⟩ := ⟨hnumber.1, hnumber.2, hlength⟩
    have hkey := Varint.length_write_le 9 hfits.key_lt
    have hcontent := Varint.length_write_le 9 hlength
    simp only [writeAll, List.flatMap_singleton, write, Value.write, List.length_append]
    omega

theorem fits_of_mem_message {number : Nat} {content : Bytes}
    (hnumber : 0 < number ∧ number < word32Limit) (hlength : content.length < Varint.valueLimit) :
    ∀ field ∈ message number content, field.Fits := by
  rintro field hmem
  obtain rfl := List.mem_singleton.1 hmem
  exact ⟨hnumber.1, hnumber.2, hlength⟩

theorem fits_of_mem_bytes {number : Nat} {content : Bytes}
    (hnumber : 0 < number ∧ number < word32Limit) (hlength : content.length < Varint.valueLimit) :
    ∀ field ∈ bytes number content, field.Fits := by
  intro field hmem
  rw [bytes] at hmem
  split at hmem
  · simp at hmem
  · exact fits_of_mem_message hnumber hlength field hmem

theorem fits_of_mem_word32 {number : Nat} (hnumber : 0 < number ∧ number < word32Limit)
    (value : UInt32) : ∀ field ∈ word32 number value, field.Fits := by
  intro field hmem
  rw [word32] at hmem
  split at hmem
  · simp at hmem
  · obtain rfl := List.mem_singleton.1 hmem
    have hlt := value.toNat_lt
    have hfits : value.toNat < Varint.valueLimit := by
      simp only [Varint.valueLimit]
      omega
    exact ⟨hnumber.1, hnumber.2, hfits⟩

end Field

end Coffer.Wire
