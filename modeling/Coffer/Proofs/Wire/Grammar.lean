import Coffer.Proofs.Outcome
import Coffer.Proofs.Wire.RoundTrip

/-!
# Proofs/Wire/Grammar — which bytes are a message

The bytes of a message **split** into words, one for each field, and in one way only
(`Field.Splits.unique`).  What a word is, is said without a reader: base-128 digits for a number,
then as many bytes as the kind of value asks for.  Each reader is **exact** for its words
(`Varint.exact_read`, `Value.exact_read`, `Field.next_eq_some_iff`), so a message is read just when
its bytes split (`Field.readAll_eq_ok_iff`).
-/

namespace Coffer.Wire

/-- **A reader is exact** for words when it reads an item just off a word for it, and gives back
what follows the word. -/
def Exact {α : Type} (Spells : Bytes → α → Prop) (read : Bytes → Except Fault (α × Bytes)) :
    Prop :=
  ∀ {bytes rest : Bytes} {item : α},
    read bytes = .ok (item, rest) ↔ ∃ word, bytes = word ++ rest ∧ Spells word item

/-! ## Varints -/

namespace Varint

/-- **Digits in base 128**, lowest first; all bytes but the last have their top bit set.  Zeros at
the end make the digits longer and the number no larger. -/
inductive Digits : Bytes → Nat → Prop
  | last {byte : UInt8} (h : byte < 128) : Digits [byte] byte.toNat
  | more {byte : UInt8} {word : Bytes} {high : Nat} (h : ¬ byte < 128) (hhigh : Digits word high) :
    Digits (byte :: word) (byte.toNat % 128 + 128 * high)

/-- **The words of a number**: at most ten digits, for a number of at most sixty-four bits. -/
structure Spells (word : Bytes) (value : Nat) : Prop where
  /-- The word is made of the number's digits. -/
  digits : Digits word value
  /-- There are at most ten. -/
  length_le : word.length ≤ 10
  /-- The number has at most sixty-four bits. -/
  value_lt : value < valueLimit

theorem Digits.length_pos {word : Bytes} {value : Nat} (h : Digits word value) :
    0 < word.length := by
  cases h <;> exact Nat.succ_pos _

/-- What is read within a number of bytes is a word that is no longer. -/
theorem exists_digits_of_readWithin (limit : Nat) {bytes rest : Bytes} {value : Nat}
    (h : readWithin (limit + 1) bytes = .ok (value, rest)) :
    ∃ word, bytes = word ++ rest ∧ Digits word value ∧ word.length ≤ limit + 1
      ∧ value < 2 * 128 ^ limit := by
  induction limit generalizing bytes value with
  | zero =>
    cases bytes with
    | nil => cases h
    | cons byte tail =>
      rw [readWithin] at h
      split at h
      · cases h
      · rename_i hlast
        split at h
        · rename_i hlt
          obtain ⟨rfl, rfl⟩ := Prod.mk.inj (Except.ok.inj h)
          have hle : ¬ 1 < byte := fun hc => hlast ⟨rfl, hc⟩
          rw [UInt8.lt_iff_toNat_lt, UInt8.toNat_one] at hle
          exact ⟨[byte], rfl, .last hlt, Nat.le_refl 1, by omega⟩
        · cases h
  | succ limit ih =>
    cases bytes with
    | nil => cases h
    | cons byte tail =>
      rw [readWithin, if_neg (fun hc => Nat.succ_ne_zero limit hc.1)] at h
      have hpow : 2 * 128 ^ (limit + 1) = 128 * (2 * 128 ^ limit) := by ring
      split at h
      · rename_i hlt
        obtain ⟨rfl, rfl⟩ := Prod.mk.inj (Except.ok.inj h)
        have hbyte : byte.toNat < 128 := UInt8.lt_iff_toNat_lt.1 hlt
        have hpos : 0 < 128 ^ limit := Nat.pow_pos (by decide)
        exact ⟨[byte], rfl, .last hlt, Nat.succ_le_succ (Nat.zero_le _), by omega⟩
      · rename_i hmore
        obtain ⟨⟨high, others⟩, hhigh, heq⟩ := Except.bind_eq_ok_iff.1 h
        obtain ⟨rfl, rfl⟩ := Prod.mk.inj (Except.ok.inj heq)
        obtain ⟨word, rfl, hdigits, hlength, hlt⟩ := ih hhigh
        exact ⟨byte :: word, rfl, .more hmore hdigits, Nat.succ_le_succ hlength, by omega⟩

/-- A word is read within a number of bytes that suffices. -/
theorem readWithin_of_digits {word : Bytes} {value : Nat} (h : Digits word value) {limit : Nat}
    (hlength : word.length ≤ limit + 1) (hlt : value < 2 * 128 ^ limit) (rest : Bytes) :
    readWithin (limit + 1) (word ++ rest) = .ok (value, rest) := by
  induction h generalizing limit with
  | @last byte hbyte =>
    have hlast : ¬ (limit = 0 ∧ 1 < byte) := by
      rintro ⟨rfl, hc⟩
      rw [UInt8.lt_iff_toNat_lt, UInt8.toNat_one] at hc
      omega
    rw [List.singleton_append, readWithin, if_neg hlast, if_pos hbyte]
  | @more byte word high hmore hhigh ih =>
    have hpos := hhigh.length_pos
    rw [List.length_cons] at hlength
    obtain ⟨limit, rfl⟩ : ∃ fewer, limit = fewer + 1 := ⟨limit - 1, by omega⟩
    have hpow : 2 * 128 ^ (limit + 1) = 128 * (2 * 128 ^ limit) := by ring
    have hread : readWithin (limit + 1) (word ++ rest) = .ok (high, rest) :=
      ih (by omega) (by omega)
    rw [List.cons_append, readWithin, if_neg (fun hc => Nat.succ_ne_zero limit hc.1),
      if_neg hmore, hread]
    rfl

/-- **The reader of numbers is exact.** -/
theorem exact_read : Exact Spells read := by
  intro bytes rest value
  constructor
  · intro h
    obtain ⟨word, heq, hdigits, hlength, hlt⟩ := exists_digits_of_readWithin 9 h
    exact ⟨word, heq, hdigits, hlength, hlt⟩
  · rintro ⟨word, rfl, h⟩
    exact readWithin_of_digits h.digits h.length_le h.value_lt rest

end Varint

/-! ## Values -/

namespace Value

/-- **The words of a value**: what stands behind its key. -/
inductive Spells : Bytes → Value → Prop
  | varint {word : Bytes} {value : Nat} (h : Varint.Spells word value) :
    Spells word (.varint value)
  | fixed64 {word : Bytes} (h : word.length = 8) :
    Spells word (.fixed64 (Bytes.ofLittleEndian word))
  | payload {word content : Bytes} (h : Varint.Spells word content.length) :
    Spells (word ++ content) (.payload content)
  | fixed32 {word : Bytes} (h : word.length = 4) :
    Spells word (.fixed32 (Bytes.ofLittleEndian word))

/-- A given number of bytes is read off the front just when there are as many. -/
theorem take_eq_ok_iff {α : Type} {size : Nat} {bytes rest : Bytes} (make : Bytes → α) {item : α}
    {fault : Fault} :
    (if (bytes.take size).length < size then Except.error fault
      else .ok (make (bytes.take size), bytes.drop size)) = .ok (item, rest)
      ↔ ∃ word, bytes = word ++ rest ∧ word.length = size ∧ make word = item := by
  constructor
  · intro h
    split at h
    · cases h
    · rename_i hlength
      obtain ⟨rfl, rfl⟩ := Prod.mk.inj (Except.ok.inj h)
      have hle := List.length_take_le size bytes
      exact ⟨bytes.take size, (List.take_append_drop size bytes).symm, by omega, rfl⟩
  · rintro ⟨word, rfl, rfl, rfl⟩
    rw [List.take_left, List.drop_left, if_neg (Nat.lt_irrefl _)]

section Kinds

variable {bytes rest : Bytes} {value : Value}

theorem read_varint_iff : read 0 bytes = .ok (value, rest)
    ↔ ∃ word, bytes = word ++ rest ∧ ∃ number, Varint.Spells word number ∧ .varint number = value
    := by
  constructor
  · intro h
    obtain ⟨⟨number, others⟩, hread, heq⟩ := Except.bind_eq_ok_iff.1 h
    obtain ⟨rfl, rfl⟩ := Prod.mk.inj (Except.ok.inj heq)
    obtain ⟨word, rfl, hword⟩ := Varint.exact_read.1 hread
    exact ⟨word, rfl, number, hword, rfl⟩
  · rintro ⟨word, rfl, number, hword, rfl⟩
    have hread : Varint.read (word ++ rest) = .ok (number, rest) :=
      Varint.exact_read.2 ⟨word, rfl, hword⟩
    exact Except.bind_eq_ok_iff.2 ⟨(number, rest), hread, rfl⟩

theorem read_fixed64_iff : read 1 bytes = .ok (value, rest)
    ↔ ∃ word, bytes = word ++ rest ∧ word.length = 8 ∧ .fixed64 (Bytes.ofLittleEndian word) = value
    := by
  simp only [read, List.splitAt_eq]
  exact take_eq_ok_iff fun word => fixed64 (Bytes.ofLittleEndian word)

/-- Reading a byte string, once its length has been read. -/
theorem read_payload_eq (bytes : Bytes) : read 2 bytes = Varint.read bytes >>= fun found =>
    if (found.2.take found.1).length < found.1 then .error .truncatedPayload
    else .ok (.payload (found.2.take found.1), found.2.drop found.1) := by
  simp only [read, List.splitAt_eq]
  rfl

theorem read_payload_iff : read 2 bytes = .ok (value, rest)
    ↔ ∃ word content, bytes = word ++ (content ++ rest) ∧ Varint.Spells word content.length
      ∧ .payload content = value := by
  rw [read_payload_eq, Except.bind_eq_ok_iff]
  constructor
  · rintro ⟨⟨length, others⟩, hlength, h⟩
    obtain ⟨word, rfl, hword⟩ := Varint.exact_read.1 hlength
    obtain ⟨content, rfl, rfl, hvalue⟩ := (take_eq_ok_iff payload).1 h
    exact ⟨word, content, rfl, hword, hvalue⟩
  · rintro ⟨word, content, rfl, hword, hvalue⟩
    exact ⟨(content.length, content ++ rest), Varint.exact_read.2 ⟨word, rfl, hword⟩,
      (take_eq_ok_iff payload).2 ⟨content, rfl, rfl, hvalue⟩⟩

theorem read_fixed32_iff : read 5 bytes = .ok (value, rest)
    ↔ ∃ word, bytes = word ++ rest ∧ word.length = 4 ∧ .fixed32 (Bytes.ofLittleEndian word) = value
    := by
  simp only [read, List.splitAt_eq]
  exact take_eq_ok_iff fun word => fixed32 (Bytes.ofLittleEndian word)

end Kinds

/-- **The reader of values is exact** for each kind of value, and for no other number. -/
theorem exact_read (kind : Nat) :
    Exact (fun word value => kind = value.kind ∧ Spells word value) (read kind) := by
  intro bytes rest value
  constructor
  · intro h
    unfold read at h
    split at h
    · obtain ⟨word, rfl, number, hword, rfl⟩ := read_varint_iff.1 h
      exact ⟨word, rfl, rfl, .varint hword⟩
    · obtain ⟨word, rfl, hlength, rfl⟩ := read_fixed64_iff.1 h
      exact ⟨word, rfl, rfl, .fixed64 hlength⟩
    · obtain ⟨word, content, rfl, hword, rfl⟩ := read_payload_iff.1 h
      exact ⟨word ++ content, (List.append_assoc word content rest).symm, rfl, .payload hword⟩
    · obtain ⟨word, rfl, hlength, rfl⟩ := read_fixed32_iff.1 h
      exact ⟨word, rfl, rfl, .fixed32 hlength⟩
    · cases h
  · rintro ⟨word, rfl, rfl, hword⟩
    cases hword with
    | varint h => exact read_varint_iff.2 ⟨word, rfl, _, h, rfl⟩
    | fixed64 h => exact read_fixed64_iff.2 ⟨word, rfl, h, rfl⟩
    | payload h => exact read_payload_iff.2 ⟨_, _, List.append_assoc _ _ rest, h, rfl⟩
    | fixed32 h => exact read_fixed32_iff.2 ⟨word, rfl, h, rfl⟩

end Value

/-! ## Fields -/

namespace Field

/-- **The words of a field**: a key, in which a number of at most thirty-two bits other than zero
stands beside the kind of value, and a value of that kind. -/
inductive Spells : Bytes → Field → Prop
  | intro {keyWord valueWord : Bytes} {field : Field} (hpos : 0 < field.number)
    (hlt : field.number < word32Limit) (hkey : Varint.Spells keyWord field.key)
    (hvalue : field.value.Spells valueWord) : Spells (keyWord ++ valueWord) field

theorem Spells.ne_nil {word : Bytes} {field : Field} (h : Spells word field) : word ≠ [] := by
  cases h with
  | intro hpos hlt hkey hvalue =>
    exact List.append_ne_nil_of_left_ne_nil
      (List.ne_nil_of_length_pos hkey.digits.length_pos) _

theorem key_eq_iff {found : Nat} {field : Field} :
    field.key = found ↔ field.number = found / 8 ∧ field.value.kind = found % 8 := by
  constructor
  · rintro rfl
    exact ⟨field.key_div.symm, field.key_mod.symm⟩
  · rintro ⟨hnumber, hkind⟩
    rw [key, hnumber, hkind]
    exact Nat.div_add_mod found 8

/-- Reading the field that bytes begin with, once its key has been read. -/
theorem next_eq_bind {bytes : Bytes} (h : bytes ≠ []) :
    next bytes = Varint.read bytes >>= fun found =>
      if word32Limit ≤ found.1 / 8 then .error .numberOutOfRange
      else if found.1 / 8 = 0 then .error .numberZero
      else Value.read (found.1 % 8) found.2 >>= fun read =>
        .ok (some (⟨found.1 / 8, read.1⟩, read.2)) := by
  rw [next_of_ne_nil h]
  rfl

theorem next_eq_none_iff {bytes : Bytes} : next bytes = .ok none ↔ bytes = [] := by
  refine ⟨fun h => ?_, fun h => h ▸ rfl⟩
  by_contra hne
  rw [next_eq_bind hne] at h
  obtain ⟨found, -, h⟩ := Except.bind_eq_ok_iff.1 h
  split at h
  · cases h
  · split at h
    · cases h
    · obtain ⟨read, -, h⟩ := Except.bind_eq_ok_iff.1 h
      cases h

/-- **The reader of fields is exact.** -/
theorem next_eq_some_iff {bytes rest : Bytes} {field : Field} :
    next bytes = .ok (some (field, rest)) ↔ ∃ word, bytes = word ++ rest ∧ Spells word field := by
  constructor
  · intro h
    have hne : bytes ≠ [] := by
      rintro rfl
      cases h
    rw [next_eq_bind hne] at h
    obtain ⟨⟨found, others⟩, hkey, hafter⟩ := Except.bind_eq_ok_iff.1 h
    obtain ⟨keyWord, rfl, hkeyWord⟩ := Varint.exact_read.1 hkey
    split at hafter
    · cases hafter
    · rename_i hlt
      split at hafter
      · cases hafter
      · rename_i hpos
        obtain ⟨⟨value, after⟩, hvalue, heq⟩ := Except.bind_eq_ok_iff.1 hafter
        obtain ⟨rfl, rfl⟩ := Prod.mk.inj (Option.some.inj (Except.ok.inj heq))
        obtain ⟨valueWord, rfl, hkind, hvalueWord⟩ := (Value.exact_read _).1 hvalue
        have hfound : key ⟨found / 8, value⟩ = found := key_eq_iff.2 ⟨rfl, hkind.symm⟩
        exact ⟨keyWord ++ valueWord, (List.append_assoc _ _ _).symm,
          .intro (Nat.pos_of_ne_zero hpos) (Nat.not_le.1 hlt) (hfound.symm ▸ hkeyWord) hvalueWord⟩
  · rintro ⟨word, rfl, hword⟩
    rw [next_eq_bind (List.append_ne_nil_of_left_ne_nil hword.ne_nil rest)]
    cases hword with
    | @intro keyWord valueWord _ hpos hlt hkey hvalue =>
      refine Except.bind_eq_ok_iff.2 ⟨(field.key, valueWord ++ rest), ?_, ?_⟩
      · exact Varint.exact_read.2 ⟨keyWord, List.append_assoc _ _ _, hkey⟩
      · simp only [key_div, key_mod]
        rw [if_neg (by omega), if_neg (by omega)]
        exact Except.bind_eq_ok_iff.2 ⟨(field.value, rest),
          (Value.exact_read _).2 ⟨valueWord, rfl, rfl, hvalue⟩, rfl⟩

/-- **No word is the beginning of another**: what bytes begin with is one word at most. -/
theorem Spells.unique {word other rest after : Bytes} {field found : Field} (h : Spells word field)
    (hother : Spells other found) (heq : word ++ rest = other ++ after) :
    word = other ∧ field = found ∧ rest = after := by
  have hnext : next (word ++ rest) = .ok (some (field, rest)) :=
    next_eq_some_iff.2 ⟨word, rfl, h⟩
  rw [heq, next_eq_some_iff.2 ⟨other, rfl, hother⟩] at hnext
  obtain ⟨rfl, rfl⟩ := Prod.mk.inj (Option.some.inj (Except.ok.inj hnext))
  exact ⟨List.append_cancel_right heq, rfl, rfl⟩

/-! ## Messages -/

/-- **The bytes of a message split** into words, each with the field that it is for. -/
structure Splits (bytes : Bytes) (pieces : List (Bytes × Field)) : Prop where
  /-- The words follow one another and leave nothing over. -/
  flatten : (pieces.map Prod.fst).flatten = bytes
  /-- Each is a word for its field. -/
  spells : ∀ piece ∈ pieces, Spells piece.1 piece.2

theorem splits_nil_iff {bytes : Bytes} : Splits bytes [] ↔ bytes = [] :=
  ⟨fun h => h.flatten.symm, fun h => ⟨h.symm, fun _ hmem => absurd hmem List.not_mem_nil⟩⟩

theorem splits_cons_iff {bytes word : Bytes} {field : Field} {pieces : List (Bytes × Field)} :
    Splits bytes ((word, field) :: pieces)
      ↔ Spells word field ∧ ∃ rest, bytes = word ++ rest ∧ Splits rest pieces := by
  constructor
  · rintro ⟨rfl, hspells⟩
    obtain ⟨hword, hrest⟩ := List.forall_mem_cons.1 hspells
    exact ⟨hword, _, rfl, rfl, hrest⟩
  · rintro ⟨hword, rest, rfl, rfl, hrest⟩
    exact ⟨rfl, List.forall_mem_cons.2 ⟨hword, hrest⟩⟩

/-- **The bytes of a message split in one way only.** -/
theorem Splits.unique {bytes : Bytes} {pieces others : List (Bytes × Field)}
    (h : Splits bytes pieces) (hothers : Splits bytes others) : pieces = others := by
  induction pieces generalizing bytes others with
  | nil =>
    obtain rfl := splits_nil_iff.1 h
    cases others with
    | nil => rfl
    | cons other others =>
      obtain ⟨hword, rest, heq, -⟩ := splits_cons_iff.1 hothers
      exact absurd (List.append_eq_nil_iff.1 heq.symm).1 hword.ne_nil
  | cons piece pieces ih =>
    obtain ⟨hword, rest, rfl, hrest⟩ := splits_cons_iff.1 h
    cases others with
    | nil =>
      exact absurd (List.append_eq_nil_iff.1 (splits_nil_iff.1 hothers)).1 hword.ne_nil
    | cons other others =>
      obtain ⟨hother, after, heq, hafter⟩ := splits_cons_iff.1 hothers
      obtain ⟨hwords, hfields, rfl⟩ := hword.unique hother heq
      rw [Prod.ext hwords hfields, ih hrest hafter]

variable {α : Type} {interpret : Field → Except Fault α}

/-- **What has been read** stands behind what was found before it: one item for each word. -/
theorem exists_splits_of_collect {found items : List α} {bytes : Bytes}
    (h : collect interpret found bytes = .ok items) :
    ∃ pieces others, Splits bytes pieces ∧ items = found.reverse ++ others
      ∧ List.Forall₂ (fun piece item => interpret piece.2 = .ok item) pieces others := by
  fun_induction collect interpret found bytes with
  | case1 => cases h
  | case2 found bytes hnext =>
    obtain rfl := Except.ok.inj h
    exact ⟨[], [], splits_nil_iff.2 (next_eq_none_iff.1 hnext), (List.append_nil _).symm, .nil⟩
  | case3 => cases h
  | case4 found bytes field rest hnext item hitem ih =>
    obtain ⟨pieces, others, hrest, rfl, hothers⟩ := ih h
    obtain ⟨word, rfl, hword⟩ := next_eq_some_iff.1 hnext
    refine ⟨(word, field) :: pieces, item :: others, ?_, ?_, .cons hitem hothers⟩
    · exact splits_cons_iff.2 ⟨hword, rest, rfl, hrest⟩
    · rw [List.reverse_cons, List.append_assoc, List.singleton_append]

/-- Bytes that split are read up to the end, if every field can be interpreted. -/
theorem Splits.collect_eq {bytes : Bytes} {pieces : List (Bytes × Field)} {items : List α}
    (h : Splits bytes pieces)
    (hitems : List.Forall₂ (fun piece item => interpret piece.2 = .ok item) pieces items)
    (found : List α) : collect interpret found bytes = .ok (found.reverse ++ items) := by
  induction hitems generalizing bytes found with
  | nil =>
    obtain rfl := splits_nil_iff.1 h
    rw [collect_of_next_none interpret rfl, List.append_nil]
  | @cons piece item pieces items hitem _ ih =>
    obtain ⟨hword, rest, rfl, hrest⟩ := splits_cons_iff.1 h
    rw [collect_of_next_some interpret (next_eq_some_iff.2 ⟨piece.1, rfl, hword⟩), hitem]
    change collect interpret (item :: found) rest = _
    rw [ih hrest, List.reverse_cons, List.append_assoc, List.singleton_append]

/-- **A message is read just when its bytes split** and every field can be interpreted. -/
theorem readAll_eq_ok_iff {bytes : Bytes} {items : List α} :
    readAll interpret bytes = .ok items ↔ ∃ pieces, Splits bytes pieces
      ∧ List.Forall₂ (fun piece item => interpret piece.2 = .ok item) pieces items := by
  constructor
  · intro h
    obtain ⟨pieces, others, hsplits, rfl, hothers⟩ := exists_splits_of_collect h
    exact ⟨pieces, hsplits, hothers⟩
  · rintro ⟨pieces, hsplits, hitems⟩
    exact hsplits.collect_eq hitems []

/-- **What was found before** only stands in front of what is read then. -/
theorem collect_append (found before : List α) (bytes : Bytes) :
    collect interpret (found ++ before) bytes
      = (collect interpret found bytes).map (before.reverse ++ ·) := by
  fun_induction collect interpret found bytes with
  | case1 found bytes fault hnext => exact collect_of_next_error interpret hnext
  | case2 found bytes hnext =>
    rw [collect_of_next_none interpret hnext, List.reverse_append]
    rfl
  | case3 found bytes field rest hnext fault hitem =>
    rw [collect_of_next_some interpret hnext, hitem]
    rfl
  | case4 found bytes field rest hnext item hitem ih =>
    rw [collect_of_next_some interpret hnext, hitem]
    exact ih

/-- The first field comes first, and then what follows it. -/
theorem readAll_of_next_some {bytes rest : Bytes} {field : Field} {item : α}
    (hnext : next bytes = .ok (some (field, rest))) (hitem : interpret field = .ok item) :
    readAll interpret bytes = (readAll interpret rest).map (item :: ·) := by
  rw [readAll, collect_of_next_some interpret hnext, hitem]
  exact collect_append [] [item] rest

/-- **Reading is local**: bytes that are read up to their end are read alike in front of others,
which are then read by themselves. -/
theorem readAll_append {bytes : Bytes} {items : List α} (h : readAll interpret bytes = .ok items)
    (more : Bytes) :
    readAll interpret (bytes ++ more) = (readAll interpret more).map (items ++ ·) := by
  obtain ⟨pieces, hsplits, hitems⟩ := readAll_eq_ok_iff.1 h
  clear h
  -- a word is read alike whatever follows it, so the induction is on the words of `bytes`
  induction hitems generalizing bytes with
  | nil =>
    obtain rfl := splits_nil_iff.1 hsplits
    cases hmore : readAll interpret more <;> exact hmore
  | @cons piece item pieces items hitem _ ih =>
    obtain ⟨hword, rest, rfl, hrest⟩ := splits_cons_iff.1 hsplits
    have hnext : next (piece.1 ++ rest ++ more) = .ok (some (piece.2, rest ++ more)) :=
      next_eq_some_iff.2 ⟨piece.1, List.append_assoc _ _ _, hword⟩
    rw [readAll_of_next_some hnext hitem, ih hrest]
    cases readAll interpret more <;> rfl

/-- **A number occurs** in the bytes of a message when one of the fields has it. -/
def Occurs (number : Nat) (bytes : Bytes) : Prop :=
  ∃ pieces, Splits bytes pieces ∧ ∃ piece ∈ pieces, piece.2.number = number

end Field

/-! ## What a message says

A message knows some numbers.  What it says under one of them is said by the values of the fields
with that number, in their order; other fields do not matter. -/

/-- The value of a field, if the field has the number. -/
def Field.value? (number : Nat) (field : Field) : Option Value :=
  if field.number = number then some field.value else none

section

variable {α β : Type} {number : Nat} {Holds : Value → α → Prop} {fields : List Field}

/-- **A repeated field**: every value with the number holds an item, and these are the items. -/
def All (number : Nat) (Holds : Value → α → Prop) (fields : List Field) (items : List α) : Prop :=
  List.Forall₂ Holds (fields.filterMap (Field.value? number)) items

/-- **A singular field**: every value with the number holds an item, and the last one counts; if
there is none, the fallback does. -/
def Last (number : Nat) (Holds : Value → α → Prop) (fields : List Field) (fallback item : α) :
    Prop :=
  ∃ items, All number Holds fields items ∧ item = items.getLastD fallback

/-- There is a result for every item of a list just when there is one for each. -/
theorem exists_forall₂_iff {R : α → β → Prop} {items : List α} :
    (∃ results, List.Forall₂ R items results) ↔ ∀ item ∈ items, ∃ result, R item result := by
  induction items with
  | nil => simp
  | cons item items ih => simp [List.forall₂_cons_left_iff, ← ih]

/-- Every field with the number holds an item. -/
theorem All.exists_holds {items : List α} (h : All number Holds fields items) {field : Field}
    (hmem : field ∈ fields) (hnumber : field.number = number) : ∃ item, Holds field.value item :=
  exists_forall₂_iff.1 ⟨items, h⟩ field.value (List.mem_filterMap.2 ⟨field, hmem, if_pos hnumber⟩)

theorem Last.exists_holds {fallback item : α} (h : Last number Holds fields fallback item)
    {field : Field} (hmem : field ∈ fields) (hnumber : field.number = number) :
    ∃ item, Holds field.value item := by
  obtain ⟨items, hall, -⟩ := h
  exact hall.exists_holds hmem hnumber

/-- **What is read of a field** under a number: an item that its value holds, if it has the
number, and nothing otherwise. -/
def Reads (interpret : Field → Except Fault β) (number : Nat) (Holds : Value → α → Prop)
    (item? : β → Option α) : Prop :=
  ∀ {field : Field} {part : β}, interpret field = .ok part →
    Option.Rel Holds (field.value? number) (item? part)

theorem rel_value?_self {field : Field} {item : α} (hnumber : field.number = number)
    (h : Holds field.value item) : Option.Rel Holds (field.value? number) (some item) := by
  rw [Field.value?, if_pos hnumber]
  exact .some h

theorem rel_value?_other {field : Field} (hnumber : field.number ≠ number) :
    Option.Rel Holds (field.value? number) none := by
  rw [Field.value?, if_neg hnumber]
  exact .none

variable {interpret : Field → Except Fault β} {item? : β → Option α} {parts : List β}

/-- What is read of all fields is held by the values with the number. -/
theorem Reads.all (h : Reads interpret number Holds item?)
    (hparts : List.Forall₂ (fun field part => interpret field = .ok part) fields parts) :
    All number Holds fields (parts.filterMap item?) :=
  List.rel_filterMap (fun _ _ hpart => h hpart) hparts

/-- The items of a repeated field are those that are read. -/
theorem Reads.all_iff (h : Reads interpret number Holds item?) (hunique : Relator.RightUnique Holds)
    (hparts : List.Forall₂ (fun field part => interpret field = .ok part) fields parts)
    (items : List α) : All number Holds fields items ↔ parts.filterMap item? = items :=
  ⟨fun hitems => List.right_unique_forall₂' hunique (h.all hparts) hitems,
    fun heq => heq ▸ h.all hparts⟩

/-- **A number occurs** just when an item is read under it. -/
theorem Reads.occurs_iff (h : Reads interpret number Holds item?) {bytes : Bytes}
    (hread : Field.readAll interpret bytes = .ok parts) :
    Field.Occurs number bytes ↔ parts.filterMap item? ≠ [] := by
  obtain ⟨pieces, hsplits, hpieces⟩ := Field.readAll_eq_ok_iff.1 hread
  have hlength := (h.all (List.forall₂_map_left_iff.2 hpieces)).length_eq
  have hnone : (pieces.map Prod.snd).filterMap (Field.value? number) = []
      ↔ parts.filterMap item? = [] := by
    rw [← List.length_eq_zero_iff, ← List.length_eq_zero_iff, hlength]
  rw [ne_eq, ← hnone, List.filterMap_eq_nil_iff]
  constructor
  · rintro ⟨others, hothers, piece, hmem, hnumber⟩ hall
    obtain rfl := hsplits.unique hothers
    have hvalue := hall piece.2 (List.mem_map_of_mem hmem)
    rw [Field.value?, if_pos hnumber] at hvalue
    cases hvalue
  · intro hsome
    by_contra hnot
    refine hsome fun field hmem => ?_
    obtain ⟨piece, hpiece, rfl⟩ := List.mem_map.1 hmem
    exact if_neg fun hnumber => hnot ⟨pieces, hsplits, piece, hpiece, hnumber⟩

/-- What every later part replaces is in the end what the last part says. -/
theorem foldl_eq_getLastD {γ : Type} {add : γ → β → γ} {item : γ → α}
    (hadd : ∀ before part, item (add before part) = (item? part).getD (item before))
    (parts : List β) (before : γ) :
    item (parts.foldl add before) = (parts.filterMap item?).getLastD (item before) := by
  induction parts generalizing before with
  | nil => rfl
  | cons part parts ih =>
    rw [List.foldl_cons, ih, hadd, List.filterMap_cons]
    cases item? part with
    | none => rfl
    | some found => exact List.getLastD_cons.symm

/-- The item of a singular field is the one that is there after all parts. -/
theorem Reads.last_iff (h : Reads interpret number Holds item?)
    (hunique : Relator.RightUnique Holds)
    (hparts : List.Forall₂ (fun field part => interpret field = .ok part) fields parts)
    {γ : Type} {add : γ → β → γ} (get : γ → α)
    (hadd : ∀ before part, get (add before part) = (item? part).getD (get before))
    (before : γ) {item : α} :
    Last number Holds fields (get before) item ↔ get (parts.foldl add before) = item := by
  simp only [Last, h.all_iff hunique hparts, exists_eq_left', foldl_eq_getLastD hadd]
  exact eq_comm

/-- **The bytes of a message** split into words whose fields say the item. -/
def Message (Says : List Field → α → Prop) (bytes : Bytes) (item : α) : Prop :=
  ∃ pieces, Field.Splits bytes pieces ∧ Says (pieces.map Prod.snd) item

/-- **A message is read just from its bytes**, if what its fields say is what their parts make up,
and every field of a message that says anything has a part. -/
theorem message_iff {Says : List Field → α → Prop} {make : List β → α}
    (hmeans : ∀ {fields parts item}, List.Forall₂ (fun field part => interpret field = .ok part)
      fields parts → (Says fields item ↔ make parts = item))
    (hparts : ∀ {fields item}, Says fields item → ∀ field ∈ fields, ∃ part,
      interpret field = .ok part)
    {bytes : Bytes} {item : α} :
    (Field.readAll interpret bytes).map make = .ok item ↔ Message Says bytes item := by
  rw [Except.map_eq_ok_iff]
  constructor
  · rintro ⟨parts, hall, hmake⟩
    obtain ⟨pieces, hsplits, hpieces⟩ := Field.readAll_eq_ok_iff.1 hall
    exact ⟨pieces, hsplits, (hmeans (List.forall₂_map_left_iff.2 hpieces)).2 hmake⟩
  · rintro ⟨pieces, hsplits, hitem⟩
    obtain ⟨parts, hpieces⟩ := exists_forall₂_iff.2 (hparts hitem)
    exact ⟨parts, Field.readAll_eq_ok_iff.2 ⟨pieces, hsplits, List.forall₂_map_left_iff.1 hpieces⟩,
      (hmeans hpieces).1 hitem⟩

end

/-! ## What a value holds -/

namespace Value

/-- The value is a byte string. -/
def IsPayload (value : Value) (content : Bytes) : Prop := value = .payload content

/-- The value is a text in UTF-8. -/
def IsText (value : Value) (text : String) : Prop := value = .payload (Text.Utf8.encode text)

/-- The value is a number of thirty-two bits. -/
def IsWord32 (value : Value) (word : UInt32) : Prop := value = .varint word.toNat

/-- The value is a byte string that spells an item. -/
def IsMessage {α : Type} (Spells : Bytes → α → Prop) (value : Value) (item : α) : Prop :=
  ∃ content, value = .payload content ∧ Spells content item

variable {value : Value} {name : String}

theorem asPayload_eq_ok_iff {content : Bytes} :
    value.asPayload name = .ok content ↔ value.IsPayload content := by
  cases value <;> simp [asPayload, IsPayload]

theorem asText_eq_ok_iff {text : String} : value.asText name = .ok text ↔ value.IsText text := by
  rw [asText, Except.bind_eq_ok_iff]
  constructor
  · rintro ⟨content, hcontent, h⟩
    split at h
    · rename_i found hfound
      obtain rfl := Except.ok.inj h
      rw [asPayload_eq_ok_iff, IsPayload, Text.Utf8.decode?_eq_some_iff.1 hfound] at hcontent
      exact hcontent
    · cases h
  · rintro rfl
    refine ⟨Text.Utf8.encode text, rfl, ?_⟩
    rw [Text.Utf8.decode?_encode]
    rfl

theorem asWord32_eq_ok_iff {word : UInt32} :
    value.asWord32 name = .ok word ↔ value.IsWord32 word := by
  cases value with
  | varint number =>
    rw [asWord32, IsWord32, Value.varint.injEq]
    constructor
    · intro h
      split at h
      · rename_i hlt
        obtain rfl := Except.ok.inj h
        exact (UInt32.toNat_ofNat_of_lt' hlt).symm
      · cases h
    · rintro rfl
      have hlt : word.toNat < word32Limit := word.toNat_lt
      rw [if_pos hlt, UInt32.ofNat_toNat]
  | fixed64 => simp [asWord32, IsWord32]
  | payload => simp [asWord32, IsWord32]
  | fixed32 => simp [asWord32, IsWord32]

/-! What a value holds is one item at most. -/

theorem rightUnique_isPayload : Relator.RightUnique IsPayload := by
  rintro value content other rfl h
  exact Value.payload.inj h

theorem rightUnique_isText : Relator.RightUnique IsText := by
  rintro value text other rfl h
  exact Text.Utf8.encode_injective (Value.payload.inj h)

theorem rightUnique_isWord32 : Relator.RightUnique IsWord32 := by
  rintro value word other rfl h
  exact UInt32.toNat_inj.1 (Value.varint.inj h)

theorem rightUnique_isMessage {α : Type} {decode : Bytes → Except Fault α}
    {Spells : Bytes → α → Prop}
    (h : ∀ {content item}, decode content = .ok item ↔ Spells content item) :
    Relator.RightUnique (IsMessage Spells) := by
  rintro value item other ⟨content, rfl, hitem⟩ ⟨same, heq, hother⟩
  obtain rfl := Value.payload.inj heq
  rw [← h] at hitem hother
  exact Except.ok.inj (hitem.symm.trans hother)

end Value

end Coffer.Wire
