import Coffer.Text.Utf8
import Coffer.Wire.Varint

/-!
# Wire/Field — numbered fields

A message is a sequence of **fields**, each a number and a value.  A field is written as a key, a
varint that holds the number and the kind of value, and then the value.  `next` reads the first
field of a message and gives back what follows it, which is always shorter
(`length_lt_of_next`).
-/

namespace Coffer.Wire

/-- How many numbers have thirty-two bits: `2 ^ 32`. -/
def word32Limit : Nat := 0x100000000

/-- The value of a field. -/
inductive Value
  /-- A number written as a varint. -/
  | varint (value : Nat)
  /-- A number on eight bytes, lowest first. -/
  | fixed64 (value : Nat)
  /-- A byte string, written after its length. -/
  | payload (bytes : Bytes)
  /-- A number on four bytes, lowest first. -/
  | fixed32 (value : Nat)
deriving DecidableEq

namespace Value

/-- The number by which a key announces what kind of value follows. -/
def kind : Value → Nat
  | varint _ => 0
  | fixed64 _ => 1
  | payload _ => 2
  | fixed32 _ => 5

/-- A value in bytes, without its key. -/
def write : Value → Bytes
  | varint value => Varint.write value
  | fixed64 value => Bytes.littleEndian 8 value
  | payload bytes => Varint.write bytes.length ++ bytes
  | fixed32 value => Bytes.littleEndian 4 value

/-- Reads a value of the given kind, and gives back what follows it. -/
def read (kind : Nat) (bytes : Bytes) : Except Fault (Value × Bytes) :=
  match kind with
  | 0 => do
    let (value, rest) ← Varint.read bytes
    return (varint value, rest)
  | 1 =>
    let (head, rest) := bytes.splitAt 8
    if head.length < 8 then .error .truncatedFixed64
    else .ok (fixed64 (Bytes.ofLittleEndian head), rest)
  | 2 => do
    let (length, rest) ← Varint.read bytes
    let (content, rest) := rest.splitAt length
    if content.length < length then throw .truncatedPayload
    return (payload content, rest)
  | 5 =>
    let (head, rest) := bytes.splitAt 4
    if head.length < 4 then .error .truncatedFixed32
    else .ok (fixed32 (Bytes.ofLittleEndian head), rest)
  | other => .error (.unsupportedKind other)

/-! ## What a field is expected to hold

`field` names the field in the fault. -/

/-- The byte string that the value has to be. -/
def asPayload (field : String) : Value → Except Fault Bytes
  | payload bytes => .ok bytes
  | _ => .error (.expectedPayload field)

/-- The text that the value has to be. -/
def asText (field : String) (value : Value) : Except Fault String := do
  match Text.Utf8.decode? (← value.asPayload field) with
  | some text => pure text
  | none => throw (.invalidText field)

/-- The number of thirty-two bits that the value has to be. -/
def asWord32 (field : String) : Value → Except Fault UInt32
  | varint value =>
    if value < word32Limit then .ok (UInt32.ofNat value) else .error (.valueOutOfRange field)
  | _ => .error (.expectedVarint field)

end Value

/-- **A field**: a number and a value. -/
structure Field where
  /-- The number by which the message knows the field. -/
  number : Nat
  /-- What the field holds. -/
  value : Value
deriving DecidableEq

namespace Field

/-! ## Writing -/

/-- The number that stands before a value: the field's number and the kind of the value. -/
def key (field : Field) : Nat := 8 * field.number + field.value.kind

/-- A field in bytes. -/
def write (field : Field) : Bytes := Varint.write field.key ++ field.value.write

/-- Fields one after the other. -/
def writeAll (fields : List Field) : Bytes := fields.flatMap write

/-- A byte string as a field, left out when it is empty. -/
def bytes (number : Nat) (content : Bytes) : List Field :=
  if content = [] then [] else [⟨number, .payload content⟩]

/-- A text as a field, left out when it is empty. -/
def text (number : Nat) (content : String) : List Field :=
  bytes number (Text.Utf8.encode content)

/-- An inner message as a field, written even when it is empty. -/
def message (number : Nat) (content : Bytes) : List Field := [⟨number, .payload content⟩]

/-- A number as a field, left out when it is zero. -/
def word32 (number : Nat) (value : UInt32) : List Field :=
  if value = 0 then [] else [⟨number, .varint value.toNat⟩]

/-! ## Reading -/

/-- Reads the first field, and gives back what follows it; there is none in an empty message. -/
def next : Bytes → Except Fault (Option (Field × Bytes))
  | [] => .ok none
  | bytes => do
    let (key, rest) ← Varint.read bytes
    if word32Limit ≤ key / 8 then throw .numberOutOfRange
    if key / 8 = 0 then throw .numberZero
    let (value, rest) ← Value.read (key % 8) rest
    return some (⟨key / 8, value⟩, rest)

end Field

/-! ## Reading goes forward -/

namespace Varint

theorem length_lt_of_readWithin {limit : Nat} {bytes rest : Bytes} {value : Nat}
    (h : readWithin limit bytes = .ok (value, rest)) : rest.length < bytes.length := by
  induction limit generalizing bytes rest value with
  | zero => simp [readWithin] at h
  | succ limit ih =>
    cases bytes with
    | nil => simp [readWithin] at h
    | cons byte tail =>
      rw [readWithin] at h
      split at h
      · simp at h
      · split at h
        · simp only [Except.ok.injEq, Prod.mk.injEq] at h
          simp [← h.2]
        · cases hr : readWithin limit tail with
          | error fault => simp [hr, bind, Except.bind] at h
          | ok found =>
            simp only [hr, bind, Except.bind, pure, Except.pure, Except.ok.injEq,
              Prod.mk.injEq] at h
            have := ih hr
            simp only [← h.2, List.length_cons]
            omega

theorem length_lt_of_read {bytes rest : Bytes} {value : Nat}
    (h : read bytes = .ok (value, rest)) : rest.length < bytes.length :=
  length_lt_of_readWithin h

end Varint

namespace Value

theorem length_le_of_read {kind : Nat} {bytes rest : Bytes} {value : Value}
    (h : read kind bytes = .ok (value, rest)) : rest.length ≤ bytes.length := by
  unfold read at h
  split at h
  · cases hr : Varint.read bytes with
    | error fault => simp [hr, bind, Except.bind] at h
    | ok found =>
      simp only [hr, bind, Except.bind, pure, Except.pure, Except.ok.injEq, Prod.mk.injEq] at h
      have := Varint.length_lt_of_read hr
      simp only [← h.2]
      omega
  · simp only [List.splitAt_eq] at h
    split at h
    · simp at h
    · simp only [Except.ok.injEq, Prod.mk.injEq] at h
      simp [← h.2]
  · cases hr : Varint.read bytes with
    | error fault => simp [hr, bind, Except.bind] at h
    | ok found =>
      have := Varint.length_lt_of_read hr
      simp only [hr, bind, Except.bind, List.splitAt_eq] at h
      split at h
      · simp [throw, throwThe, MonadExceptOf.throw] at h
      · simp only [pure, Except.pure, Except.ok.injEq, Prod.mk.injEq] at h
        simp only [← h.2, List.length_drop]
        omega
  · simp only [List.splitAt_eq] at h
    split at h
    · simp at h
    · simp only [Except.ok.injEq, Prod.mk.injEq] at h
      simp [← h.2]
  · simp at h

end Value

/-- **Reading a field goes forward**: what follows it is shorter than what it was read from. -/
theorem Field.length_lt_of_next {bytes rest : Bytes} {field : Field}
    (h : Field.next bytes = .ok (some (field, rest))) : rest.length < bytes.length := by
  cases bytes with
  | nil => simp [Field.next] at h
  | cons byte tail =>
    rw [Field.next] at h
    · cases hk : Varint.read (byte :: tail) with
      | error fault => simp [hk, bind, Except.bind] at h
      | ok found =>
        simp only [hk, bind, Except.bind, throw, throwThe, MonadExceptOf.throw, pure,
          Except.pure] at h
        split at h
        · simp at h
        · split at h
          · simp at h
          · cases hv : Value.read (found.1 % 8) found.2 with
            | error fault => simp [hv] at h
            | ok read =>
              simp only [hv, Except.ok.injEq, Option.some.injEq, Prod.mk.injEq] at h
              have hlt := Varint.length_lt_of_read hk
              have hle := Value.length_le_of_read hv
              rw [← h.2]
              omega
    · simp

/-! ## Whole messages -/

namespace Field

/-- Reads the fields up to the end and gives each as `interpret` sees it, after those in `found`,
which are held last to first.  A field is interpreted before the next one is read. -/
def collect {α : Type} (interpret : Field → Except Fault α) (found : List α) (bytes : Bytes) :
    Except Fault (List α) :=
  match _h : next bytes with
  | .error fault => .error fault
  | .ok none => .ok found.reverse
  | .ok (some (field, rest)) =>
    match interpret field with
    | .error fault => .error fault
    | .ok item => collect interpret (item :: found) rest
termination_by bytes.length
decreasing_by exact length_lt_of_next (by assumption)

/-- **Reads a message**: its fields in order, each as `interpret` sees it.  The first fault wins,
whether it lies in the bytes or in what a field holds. -/
def readAll {α : Type} (interpret : Field → Except Fault α) (bytes : Bytes) :
    Except Fault (List α) :=
  collect interpret [] bytes

end Field

end Coffer.Wire
