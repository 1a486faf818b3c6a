/-!
# Bytes — byte strings, fixed-size blocks, and numbers written in bytes

A byte string is a list of bytes.  A **block** is a byte string of a known length.  Numbers are
written in a fixed number of bytes, lowest first (`littleEndian`) or highest first (`bigEndian`).
-/

namespace Coffer

/-- A byte string. -/
abbrev Bytes := List UInt8

namespace Bytes

/-! ## Numbers as bytes -/

/-- `value` on `width` bytes, lowest first; what does not fit is dropped. -/
def littleEndian : (width value : Nat) → Bytes
  | 0, _ => []
  | width + 1, value => UInt8.ofNat value :: littleEndian width (value / 256)

/-- The number whose bytes, lowest first, are given. -/
def ofLittleEndian (bytes : Bytes) : Nat :=
  bytes.foldr (fun byte value => byte.toNat + 256 * value) 0

/-- `value` on `width` bytes, highest first; what does not fit is dropped. -/
def bigEndian (width value : Nat) : Bytes := (littleEndian width value).reverse

/-- The number whose bytes, highest first, are given. -/
def ofBigEndian (bytes : Bytes) : Nat :=
  bytes.foldl (fun value byte => 256 * value + byte.toNat) 0

@[simp] theorem length_littleEndian (width value : Nat) :
    (littleEndian width value).length = width := by
  induction width generalizing value with
  | zero => rfl
  | succ width ih => simp [littleEndian, ih]

@[simp] theorem length_bigEndian (width value : Nat) : (bigEndian width value).length = width := by
  simp [bigEndian]

/-! ## Pieces -/

/-- The byte string cut into pieces of `size` bytes, of which only the last may be shorter.
A size of zero counts as one. -/
def chunks (size : Nat) : Bytes → List Bytes
  | [] => []
  | byte :: rest => (byte :: rest.take (size - 1)) :: chunks size (rest.drop (size - 1))
termination_by bytes => bytes.length
decreasing_by simp only [List.length_drop, List.length_cons]; omega

/-- The bytewise exclusive or of two byte strings, as long as the shorter one. -/
def xor (a b : Bytes) : Bytes := List.zipWith (· ^^^ ·) a b

end Bytes

/-! ## Blocks -/

/-- **A block**: a byte string of exactly `size` bytes. -/
structure Block (size : Nat) where
  /-- The bytes, first to last. -/
  bytes : Bytes
  /-- There are exactly `size` of them. -/
  length_bytes : bytes.length = size
deriving DecidableEq

namespace Block

variable {size : Nat}

/-- The byte string as a block, if it has the right length. -/
def ofBytes? (size : Nat) (bytes : Bytes) : Option (Block size) :=
  if h : bytes.length = size then some ⟨bytes, h⟩ else none

/-- One byte, `size` times. -/
def replicate (size : Nat) (byte : UInt8) : Block size :=
  ⟨List.replicate size byte, List.length_replicate⟩

/-- `value` on `size` bytes, highest first. -/
def bigEndian (size value : Nat) : Block size :=
  ⟨Bytes.bigEndian size value, Bytes.length_bigEndian size value⟩

instance : Inhabited (Block size) := ⟨replicate size 0⟩

theorem ofBytes?_eq_some_iff {bytes : Bytes} {block : Block size} :
    ofBytes? size bytes = some block ↔ block.bytes = bytes := by
  obtain ⟨content, h⟩ := block
  unfold ofBytes?
  split
  · simp [eq_comm]
  · rename_i hne
    simp only [reduceCtorEq, false_iff]
    rintro rfl
    exact hne h

@[simp] theorem ofBytes?_bytes (block : Block size) : ofBytes? size block.bytes = some block :=
  ofBytes?_eq_some_iff.2 rfl

end Block

end Coffer
