import Coffer.Proofs.Wire.Grammar

/-!
# Proofs/Wire/Progress — a reader goes forward, and no further than it has to

A field is read off a word of two bytes or more, and whatever follows the word is left as it is
(`Field.Consumes`).  The reader never asks for a byte that is not there: put together from reads
that have no outcome past the end, it has the same outcome on all bytes (`Field.run_nextGuarded`).
So fields that come off the front one by one are no more than half as many as the bytes
(`Field.Yields.length_le`), and the loop over a message, stopped after that many fields, is never
stopped too early (`Field.readUpTo_eq`).
-/

namespace Coffer.Wire

/-! ## Words -/

namespace Value

theorem Spells.length_pos {word : Bytes} {value : Value} (h : Spells word value) :
    0 < word.length := by
  cases h with
  | varint h => exact h.digits.length_pos
  | fixed64 h => omega
  | payload h =>
    rw [List.length_append]
    exact Nat.add_pos_left h.digits.length_pos _
  | fixed32 h => omega

/-- **A byte string is the end of its word.** -/
theorem Spells.payload_isSuffix {word content : Bytes} (h : Spells word (.payload content)) :
    content <:+ word := by
  cases h with
  | payload => exact List.suffix_append _ _

end Value

namespace Field

variable {bytes rest : Bytes} {field : Field}

/-- **A word of a field** has a byte for its key and one for its value at least. -/
theorem Spells.two_le_length {word : Bytes} (h : Spells word field) : 2 ≤ word.length := by
  cases h with
  | intro _ _ hkey hvalue =>
    have hkey := hkey.digits.length_pos
    have hvalue := hvalue.length_pos
    rw [List.length_append]
    omega

theorem Spells.payload_isSuffix {word content : Bytes} (h : Spells word field)
    (hvalue : field.value = .payload content) : content <:+ word := by
  cases h with
  | intro _ _ _ hspells =>
    rw [hvalue] at hspells
    exact hspells.payload_isSuffix.trans (List.suffix_append _ _)

/-- **What is consumed when a field is read**, and what is left. -/
structure Consumes (bytes word rest : Bytes) (field : Field) : Prop where
  /-- What is left is the end of the bytes. -/
  append : word ++ rest = bytes
  /-- Two bytes are consumed at least. -/
  two_le : 2 ≤ word.length
  /-- A byte string that is given lies in what is consumed. -/
  payload : ∀ content, field.value = .payload content → content <:+ word
  /-- In front of any other bytes the same is read, and those are left. -/
  next_append : ∀ more, next (word ++ more) = .ok (some (field, more))

/-- **A field that is read has been consumed**, and nothing else. -/
theorem exists_consumes (h : next bytes = .ok (some (field, rest))) :
    ∃ word, Consumes bytes word rest field := by
  obtain ⟨word, rfl, hword⟩ := next_eq_some_iff.1 h
  exact ⟨word, rfl, hword.two_le_length, fun _ => hword.payload_isSuffix,
    fun more => next_eq_some_iff.2 ⟨word, rfl, hword⟩⟩

/-- **A length that announces more** bytes than are left is a fault. -/
theorem next_of_announced {number length : Nat} {keyWord lengthWord left : Bytes}
    (hpos : 0 < number) (hlt : number < word32Limit)
    (hkey : Varint.Spells keyWord (key ⟨number, .payload left⟩))
    (hlength : Varint.Spells lengthWord length) (hleft : left.length < length) :
    next (keyWord ++ (lengthWord ++ left)) = .error .truncatedPayload := by
  have hne := List.append_ne_nil_of_left_ne_nil
    (List.ne_nil_of_length_pos hkey.digits.length_pos) (lengthWord ++ left)
  have hshort : (left.take length).length < length := (List.length_take_le' _ _).trans_lt hleft
  rw [next_eq_bind hne, Varint.exact_read.2 ⟨keyWord, rfl, hkey⟩]
  simp only [bind, Except.bind, key_div, key_mod, Value.kind]
  rw [if_neg (by omega), if_neg (by omega)]
  simp only [Value.read, Varint.exact_read.2 ⟨lengthWord, rfl, hlength⟩, bind, Except.bind,
    List.splitAt_eq]
  rw [if_pos hshort]
  rfl

end Field

/-! ## Reads inside the bytes

The same readers once more, put together from reads that have no outcome when they go past the
end. -/

/-- A reader that may go past the end of the bytes, and then has no outcome at all. -/
abbrev Guarded : Type → Type := ExceptT Fault Option

/-- The first byte, which there has to be. -/
def byte? : Bytes → Option (UInt8 × Bytes)
  | [] => none
  | byte :: rest => some (byte, rest)

/-- The first bytes, of which there have to be enough. -/
def split? (size : Nat) (bytes : Bytes) : Option (Bytes × Bytes) :=
  if size ≤ bytes.length then some (bytes.splitAt size) else none

/-- Reads a varint of at most `limit` bytes. -/
def Varint.readGuarded : (limit : Nat) → Bytes → Guarded (Nat × Bytes)
  | 0, _ => throw .varintOverflow
  | limit + 1, bytes =>
    if bytes = [] then throw .truncatedVarint
    else do
      let (byte, rest) ← byte? bytes
      if limit = 0 ∧ 1 < byte then throw .varintOverflow
      else if byte < 128 then return (byte.toNat, rest)
      else do
        let (high, rest) ← readGuarded limit rest
        return (byte.toNat % 128 + 128 * high, rest)

/-- Reads a value of the given kind. -/
def Value.readGuarded (kind : Nat) (bytes : Bytes) : Guarded (Value × Bytes) :=
  match kind with
  | 0 => do
    let (value, rest) ← Varint.readGuarded 10 bytes
    return (varint value, rest)
  | 1 =>
    if bytes.length < 8 then throw .truncatedFixed64
    else do
      let (head, rest) ← split? 8 bytes
      return (fixed64 (Bytes.ofLittleEndian head), rest)
  | 2 => do
    let (length, rest) ← Varint.readGuarded 10 bytes
    if rest.length < length then throw .truncatedPayload
    else do
      let (content, rest) ← split? length rest
      return (payload content, rest)
  | 5 =>
    if bytes.length < 4 then throw .truncatedFixed32
    else do
      let (head, rest) ← split? 4 bytes
      return (fixed32 (Bytes.ofLittleEndian head), rest)
  | other => throw (.unsupportedKind other)

/-- Reads the first field. -/
def Field.nextGuarded (bytes : Bytes) : Guarded (Option (Field × Bytes)) :=
  if bytes = [] then return none
  else do
    let (key, rest) ← Varint.readGuarded 10 bytes
    if word32Limit ≤ key / 8 then throw .numberOutOfRange
    else if key / 8 = 0 then throw .numberZero
    else do
      let (value, rest) ← Value.readGuarded (key % 8) rest
      return some (⟨key / 8, value⟩, rest)

/-- **A chain of readers stays inside the bytes** when each of its links does. -/
theorem run_bind_eq {α β : Type} {x : Guarded α} {outcome : Except Fault α} {f : α → Guarded β}
    {g : α → Except Fault β} (hx : x.run = some outcome) (hf : ∀ a, (f a).run = some (g a)) :
    (x >>= f).run = some (outcome >>= g) := by
  rw [ExceptT.run_bind]
  cases outcome with
  | error fault => exact congrArg (· >>= _) hx
  | ok a => exact (congrArg (· >>= _) hx).trans (hf a)

/-- A test that both readers make sends both the same way. -/
theorem run_ite_eq {α : Type} {p q : Prop} [Decidable p] [Decidable q] {x y : Guarded α}
    {outcome other : Except Fault α} (hpq : p ↔ q) (hx : q → x.run = some outcome)
    (hy : ¬ q → y.run = some other) :
    (if p then x else y).run = some (if q then outcome else other) := by
  split
  · rename_i h
    rw [if_pos (hpq.1 h), hx (hpq.1 h)]
  · rename_i h
    rw [if_neg (fun hq => h (hpq.2 hq)), hy fun hq => h (hpq.2 hq)]

theorem Varint.run_readGuarded (limit : Nat) (bytes : Bytes) :
    (readGuarded limit bytes).run = some (readWithin limit bytes) := by
  induction limit generalizing bytes with
  | zero => rfl
  | succ limit ih =>
    cases bytes with
    | nil => rfl
    | cons byte tail =>
      rw [readGuarded, if_neg (List.cons_ne_nil byte tail)]
      refine run_ite_eq Iff.rfl (fun _ => rfl) fun _ => ?_
      exact run_ite_eq Iff.rfl (fun _ => rfl) fun _ => run_bind_eq (ih tail) fun _ => rfl

/-- What is split off has been counted before. -/
theorem run_split {α : Type} (size : Nat) (bytes : Bytes) (fault : Fault) (make : Bytes → α) :
    (if bytes.length < size then throw fault
      else do
        let (head, rest) ← split? size bytes
        return (make head, rest) : Guarded (α × Bytes)).run
      = some (if (bytes.take size).length < size then .error fault
        else .ok (make (bytes.take size), bytes.drop size)) := by
  have hcount : bytes.length < size ↔ (bytes.take size).length < size := by
    rw [List.length_take]
    omega
  refine run_ite_eq hcount (fun _ => rfl) fun hlength => ?_
  rw [split?, if_pos (by omega), List.splitAt_eq]
  rfl

theorem Value.run_readGuarded (kind : Nat) (bytes : Bytes) :
    (readGuarded kind bytes).run = some (read kind bytes) := by
  unfold readGuarded
  split
  · exact run_bind_eq (Varint.run_readGuarded 10 bytes) fun _ => rfl
  · simp only [read, List.splitAt_eq]
    exact run_split 8 bytes _ fun head => fixed64 (Bytes.ofLittleEndian head)
  · rw [read_payload_eq]
    exact run_bind_eq (Varint.run_readGuarded 10 bytes) fun found =>
      run_split found.1 found.2 _ payload
  · simp only [read, List.splitAt_eq]
    exact run_split 4 bytes _ fun head => fixed32 (Bytes.ofLittleEndian head)
  · rename_i hvarint hfixed64 hpayload hfixed32
    rw [read.eq_5 kind bytes hvarint hfixed64 hpayload hfixed32]
    rfl

/-- **No read goes past the end** of any bytes. -/
theorem Field.run_nextGuarded (bytes : Bytes) : (nextGuarded bytes).run = some (next bytes) := by
  cases bytes with
  | nil => rfl
  | cons byte tail =>
    rw [nextGuarded, if_neg (List.cons_ne_nil byte tail), next_eq_bind (List.cons_ne_nil _ _)]
    refine run_bind_eq (Varint.run_readGuarded 10 _) fun found => ?_
    refine run_ite_eq Iff.rfl (fun _ => rfl) fun _ => run_ite_eq Iff.rfl (fun _ => rfl) fun _ => ?_
    exact run_bind_eq (Value.run_readGuarded _ _) fun _ => rfl

/-! ## Fields one by one -/

namespace Field

/-- **Fields come off the front** of bytes one by one, and `rest` is left. -/
inductive Yields : Bytes → List Field → Bytes → Prop
  /-- No field has been read. -/
  | nil (bytes : Bytes) : Yields bytes [] bytes
  /-- A field has been read, and then others. -/
  | cons {bytes between rest : Bytes} {field : Field} {fields : List Field}
    (hnext : next bytes = .ok (some (field, between))) (hrest : Yields between fields rest) :
    Yields bytes (field :: fields) rest

/-- **Every field takes two bytes** at least. -/
theorem Yields.length_le {bytes rest : Bytes} {fields : List Field} (h : Yields bytes fields rest) :
    2 * fields.length + rest.length ≤ bytes.length := by
  induction h with
  | nil bytes => exact (Nat.zero_add bytes.length).le
  | cons hnext _ ih =>
    obtain ⟨word, rfl, hlength, -⟩ := exists_consumes hnext
    rw [List.length_cons, List.length_append]
    omega

variable {α β : Type} (interpret : Field → Except Fault α)

/-- **The loop over a message, stopped** when there are more than `limit` fields: then it has no
outcome. -/
def readUpTo (limit : Nat) (found : List α) (bytes : Bytes) : Option (Except Fault (List α)) :=
  match next bytes with
  | .error fault => some (.error fault)
  | .ok none => some (.ok found.reverse)
  | .ok (some (field, rest)) =>
    match limit with
    | 0 => none
    | limit + 1 =>
      match interpret field with
      | .error fault => some (.error fault)
      | .ok item => readUpTo limit (item :: found) rest

/-- **The loop ends** before it is stopped, on any bytes: every field has taken two. -/
theorem readUpTo_eq {limit : Nat} (found : List α) {bytes : Bytes}
    (h : bytes.length ≤ 2 * limit + 1) :
    readUpTo interpret limit found bytes = some (collect interpret found bytes) := by
  induction limit generalizing found bytes with
  | zero =>
    rw [readUpTo]
    split
    · rename_i hnext
      rw [collect_of_next_error interpret hnext]
    · rename_i hnext
      rw [collect_of_next_none interpret hnext]
    · rename_i hnext
      obtain ⟨word, rfl, hlength, -⟩ := exists_consumes hnext
      rw [List.length_append] at h
      omega
  | succ limit ih =>
    rw [readUpTo]
    split
    · rename_i hnext
      rw [collect_of_next_error interpret hnext]
    · rename_i hnext
      rw [collect_of_next_none interpret hnext]
    · rename_i field rest hnext
      obtain ⟨word, rfl, hlength, -⟩ := exists_consumes hnext
      rw [List.length_append] at h
      rw [collect_of_next_some interpret hnext]
      cases interpret field with
      | error fault => rfl
      | ok item => exact ih (item :: found) (by omega)

variable {interpret}

/-- **A decoder ends after half as many fields** as there are bytes: its loop, stopped after so
many, gives what the decoder gives. -/
def EndsByHalf (interpret : Field → Except Fault α) (make : Bytes → List α → β)
    (decode : Bytes → Except Fault β) : Prop :=
  ∀ bytes, (readUpTo interpret (bytes.length / 2) [] bytes).map (Except.map (make bytes))
    = some (decode bytes)

theorem endsByHalf_of_eq {make : Bytes → List α → β} {decode : Bytes → Except Fault β}
    (h : ∀ bytes, decode bytes = (readAll interpret bytes).map (make bytes)) :
    EndsByHalf interpret make decode := by
  intro bytes
  rw [readUpTo_eq interpret [] (by omega), h]
  rfl

end Field

end Coffer.Wire
