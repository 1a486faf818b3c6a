import Coffer.Word

/-!
# Digest/Sha256 — the SHA-256 digest

The message is padded to whole blocks of 64 bytes; each block is spread over 64 words that stir a
state of eight words.
-/

namespace Coffer.Digest.Sha256

/-- The 64 round constants: the first bits of the fractional parts of the cube roots of the first
64 primes. -/
def roundConstants : List UInt32 :=
  [0x428a2f98, 0x71374491, 0xb5c0fbcf, 0xe9b5dba5, 0x3956c25b, 0x59f111f1, 0x923f82a4, 0xab1c5ed5,
   0xd807aa98, 0x12835b01, 0x243185be, 0x550c7dc3, 0x72be5d74, 0x80deb1fe, 0x9bdc06a7, 0xc19bf174,
   0xe49b69c1, 0xefbe4786, 0x0fc19dc6, 0x240ca1cc, 0x2de92c6f, 0x4a7484aa, 0x5cb0a9dc, 0x76f988da,
   0x983e5152, 0xa831c66d, 0xb00327c8, 0xbf597fc7, 0xc6e00bf3, 0xd5a79147, 0x06ca6351, 0x14292967,
   0x27b70a85, 0x2e1b2138, 0x4d2c6dfc, 0x53380d13, 0x650a7354, 0x766a0abb, 0x81c2c92e, 0x92722c85,
   0xa2bfe8a1, 0xa81a664b, 0xc24b8b70, 0xc76c51a3, 0xd192e819, 0xd6990624, 0xf40e3585, 0x106aa070,
   0x19a4c116, 0x1e376c08, 0x2748774c, 0x34b0bcb5, 0x391c0cb3, 0x4ed8aa4a, 0x5b9cca4f, 0x682e6ff3,
   0x748f82ee, 0x78a5636f, 0x84c87814, 0x8cc70208, 0x90befffa, 0xa4506ceb, 0xbef9a3f7, 0xc67178f2]

/-- The state of eight words. -/
structure State where
  (a b c d e f g h : UInt32)

/-- The state before the first block: the first bits of the fractional parts of the square roots
of the first eight primes. -/
def State.start : State :=
  ⟨0x6a09e667, 0xbb67ae85, 0x3c6ef372, 0xa54ff53a, 0x510e527f, 0x9b05688c, 0x1f83d9ab, 0x5be0cd19⟩

/-- The eight words of a state, each highest byte first. -/
def State.bytes (s : State) : Bytes :=
  [s.a, s.b, s.c, s.d, s.e, s.f, s.g, s.h].flatMap Word.bigEndian

/-- One word more of the schedule, which follows from the sixteen before it. -/
def extend (schedule : Array UInt32) : Array UInt32 :=
  let at' (back : Nat) := schedule.getD (schedule.size - back) 0
  let low := at' 15
  let high := at' 2
  let s0 := Word.rotateRight low 7 ^^^ Word.rotateRight low 18 ^^^ (low >>> 3)
  let s1 := Word.rotateRight high 17 ^^^ Word.rotateRight high 19 ^^^ (high >>> 10)
  schedule.push (at' 16 + s0 + at' 7 + s1)

/-- The 64 words over which a block is spread. -/
def schedule (block : Bytes) : Array UInt32 :=
  Nat.fold 48 (fun _ _ words => extend words) (Word.ofBigEndian block).toArray

/-- One round: a constant and a word of the schedule stir the state. -/
def round (s : State) (input : UInt32 × UInt32) : State :=
  let s1 := Word.rotateRight s.e 6 ^^^ Word.rotateRight s.e 11 ^^^ Word.rotateRight s.e 25
  let choice := (s.e &&& s.f) ^^^ (~~~ s.e &&& s.g)
  let t1 := s.h + s1 + choice + input.1 + input.2
  let s0 := Word.rotateRight s.a 2 ^^^ Word.rotateRight s.a 13 ^^^ Word.rotateRight s.a 22
  let majority := (s.a &&& s.b) ^^^ (s.a &&& s.c) ^^^ (s.b &&& s.c)
  ⟨t1 + (s0 + majority), s.a, s.b, s.c, s.d + t1, s.e, s.f, s.g⟩

/-- The state after one more block. -/
def absorb (s : State) (block : Bytes) : State :=
  let t := (roundConstants.zip (schedule block).toList).foldl round s
  ⟨s.a + t.a, s.b + t.b, s.c + t.c, s.d + t.d, s.e + t.e, s.f + t.f, s.g + t.g, s.h + t.h⟩

/-- What is appended to a message of `length` bytes: one bit, zeros, and its length in bits. -/
def padding (length : Nat) : Bytes :=
  0x80 :: List.replicate ((119 - length % 64) % 64) 0 ++ Bytes.bigEndian 8 (8 * length)

/-- **The digest** of a message. -/
def digest (message : Bytes) : Bytes :=
  ((Bytes.chunks 64 (message ++ padding message.length)).foldl absorb State.start).bytes

@[simp] theorem length_digest (message : Bytes) : (digest message).length = 32 := by
  simp [digest, State.bytes]

end Coffer.Digest.Sha256
