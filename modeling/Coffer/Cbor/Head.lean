import Coffer.Text.Utf8

/-!
# Cbor/Head — the heads of data items

A data item begins with a **head** that tells what it is and carries a number: a value, a length, or
how many items follow.  A head is written in the fewest bytes, and read in any.
-/

namespace Coffer.Cbor

/-- **A head**.  A length that is not given is that of an item which goes on until a stop. -/
inductive Head
  /-- A natural number. -/
  | positive (value : Nat)
  /-- The negative number `-1 - value`. -/
  | negative (value : Nat)
  /-- A byte string. -/
  | bytes (length : Option Nat)
  /-- A text. -/
  | text (length : Option Nat)
  /-- An array. -/
  | array (size : Option Nat)
  /-- A map, by the number of its entries. -/
  | map (size : Option Nat)
  /-- A tag on the item that follows. -/
  | tag (number : Nat)
  /-- A simple value. -/
  | simple (number : Nat)
  /-- A floating-point number. -/
  | float
  /-- The stop of an item whose length was not given. -/
  | stop
deriving DecidableEq

namespace Head

/-! ## Writing -/

/-- A head of the given major type, in the fewest bytes. -/
def write (major number : Nat) : Bytes :=
  let first (low : Nat) := UInt8.ofNat (32 * major + low)
  if number < 24 then [first number]
  else if number < 0x100 then first 24 :: Bytes.bigEndian 1 number
  else if number < 0x10000 then first 25 :: Bytes.bigEndian 2 number
  else if number < 0x100000000 then first 26 :: Bytes.bigEndian 4 number
  else first 27 :: Bytes.bigEndian 8 number

/-! ## Reading -/

/-- The number in the `size` bytes at the front. -/
def readNumber (size : Nat) (bytes : Bytes) : Option (Nat × Bytes) :=
  let (front, rest) := bytes.splitAt size
  if front.length < size then none else some (Bytes.ofBigEndian front, rest)

/-- The number that the low bits of a first byte announce: themselves, the next one, two, four or
eight bytes, or none. -/
def readArgument (low : Nat) (bytes : Bytes) : Option (Option Nat × Bytes) :=
  if low < 24 then some (some low, bytes)
  else if low < 28 then (readNumber (1 <<< (low - 24)) bytes).map fun (n, rest) => (some n, rest)
  else if low = 31 then some (none, bytes)
  else none

/-- The head of a major type with a number.  Among the simple values, those of more than one byte
are floating-point numbers. -/
def ofArgument? (major low : Nat) (argument : Option Nat) : Option Head :=
  match major, argument with
  | 0, some value => some (positive value)
  | 1, some value => some (negative value)
  | 2, length => some (bytes length)
  | 3, length => some (text length)
  | 4, size => some (array size)
  | 5, size => some (map size)
  | 6, some number => some (tag number)
  | 7, none => some stop
  | 7, some number => if low ≤ 24 then some (simple number) else some float
  | _, _ => none

/-- **Reads a head**, and gives back what follows it. -/
def read : Bytes → Option (Head × Bytes)
  | [] => none
  | first :: rest => do
    let low := first.toNat % 32
    let (argument, rest) ← readArgument low rest
    return (← ofArgument? (first.toNat / 32) low argument, rest)

/-! ## Reading goes forward -/

theorem length_le_of_readNumber {size number : Nat} {bytes rest : Bytes}
    (h : readNumber size bytes = some (number, rest)) : rest.length ≤ bytes.length := by
  simp only [readNumber, List.splitAt_eq] at h
  split at h
  · simp at h
  · simp only [Option.some.injEq, Prod.mk.injEq] at h
    simp [← h.2]

theorem length_le_of_readArgument {low : Nat} {argument : Option Nat} {bytes rest : Bytes}
    (h : readArgument low bytes = some (argument, rest)) : rest.length ≤ bytes.length := by
  unfold readArgument at h
  split at h
  · simp only [Option.some.injEq, Prod.mk.injEq] at h
    simp [← h.2]
  · split at h
    · obtain ⟨found, hf, hr⟩ := Option.map_eq_some_iff.1 h
      simp only [Prod.mk.injEq] at hr
      rw [← hr.2]
      exact length_le_of_readNumber hf
    · split at h
      · simp only [Option.some.injEq, Prod.mk.injEq] at h
        simp [← h.2]
      · simp at h

/-- **Reading a head goes forward.** -/
theorem length_lt_of_read {head : Head} {bytes rest : Bytes}
    (h : read bytes = some (head, rest)) : rest.length < bytes.length := by
  cases bytes with
  | nil => simp [read] at h
  | cons first tail =>
    rw [read] at h
    obtain ⟨⟨argument, after⟩, hf, h⟩ := Option.bind_eq_some_iff.1 h
    obtain ⟨made, _, h⟩ := Option.bind_eq_some_iff.1 h
    simp only [pure, Option.some.injEq, Prod.mk.injEq] at h
    have := length_le_of_readArgument hf
    rw [← h.2, List.length_cons]
    omega

end Head

end Coffer.Cbor
