import Coffer.Bytes

/-!
# Word — words of thirty-two bits

Rotations, words as four bytes, lowest or highest first, and **squares** of sixteen words, which are
stirred four words at a time.
-/

namespace Coffer.Word

/-- The bits moved up by `count` places, those that leave at the top coming in at the bottom. -/
def rotateLeft (word count : UInt32) : UInt32 := (word <<< count) ||| (word >>> (32 - count))

/-- The bits moved down by `count` places, those that leave at the bottom coming in at the top. -/
def rotateRight (word count : UInt32) : UInt32 := (word >>> count) ||| (word <<< (32 - count))

/-- The four bytes of a word, lowest first. -/
def littleEndian (word : UInt32) : Bytes := Bytes.littleEndian 4 word.toNat

/-- The four bytes of a word, highest first. -/
def bigEndian (word : UInt32) : Bytes := Bytes.bigEndian 4 word.toNat

/-- The words that a byte string holds, four bytes each, lowest first. -/
def ofLittleEndian (bytes : Bytes) : List UInt32 :=
  (Bytes.chunks 4 bytes).map fun piece => UInt32.ofNat (Bytes.ofLittleEndian piece)

/-- The words that a byte string holds, four bytes each, highest first. -/
def ofBigEndian (bytes : Bytes) : List UInt32 :=
  (Bytes.chunks 4 bytes).map fun piece => UInt32.ofNat (Bytes.ofBigEndian piece)

@[simp] theorem length_littleEndian (word : UInt32) : (littleEndian word).length = 4 :=
  Bytes.length_littleEndian 4 _

@[simp] theorem length_bigEndian (word : UInt32) : (bigEndian word).length = 4 :=
  Bytes.length_bigEndian 4 _

@[simp] theorem length_flatMap_littleEndian (words : List UInt32) :
    (words.flatMap littleEndian).length = 4 * words.length := by
  induction words with
  | nil => rfl
  | cons word rest ih => simp only [List.flatMap_cons, List.length_append, length_littleEndian, ih,
      List.length_cons]; omega

/-- The first `size` words of a list, zero where it is too short. -/
def fill (size : Nat) (words : List UInt32) : Vector UInt32 size :=
  Vector.ofFn fun index => words.getD index 0

/-! ## Squares -/

/-- **A square**: four rows of four words, one after the other. -/
abbrev Square := Vector UInt32 16

/-- A square with the word at a place replaced. -/
def Square.put (square : Square) (place : Fin 16) (word : UInt32) : Square :=
  square.set place word

/-- Four places of a square, one in each row. -/
structure Quarter where
  (a b c d : Fin 16)

/-- The columns of a square, then its diagonals. -/
def quarters : List Quarter :=
  [⟨0, 4, 8, 12⟩, ⟨1, 5, 9, 13⟩, ⟨2, 6, 10, 14⟩, ⟨3, 7, 11, 15⟩,
   ⟨0, 5, 10, 15⟩, ⟨1, 6, 11, 12⟩, ⟨2, 7, 8, 13⟩, ⟨3, 4, 9, 14⟩]

end Coffer.Word
