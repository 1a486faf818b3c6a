import Coffer.Word

/-!
# Cipher/ChaCha20 — a stream of key bytes

A key of 32 bytes, a counter and a nonce fill a state of sixteen words; ten double rounds stir it.
`stream` gives as many key bytes as are wanted, and `subkey` makes a new key from a key and sixteen
bytes of nonce.
-/

namespace Coffer.Cipher.ChaCha20

/-- The state: sixteen words. -/
abbrev State := Word.Square

/-- The words at the head of every state. -/
def constants : List UInt32 := [0x61707865, 0x3320646e, 0x79622d32, 0x6b206574]

/-- The state that a key and sixteen further bytes fill. -/
def State.fill (key : Block 32) (input : Bytes) : State :=
  Word.fill 16 (constants ++ Word.ofLittleEndian key.bytes ++ Word.ofLittleEndian input)

/-- Stirs four words of the state. -/
def quarterRound (s : State) (q : Word.Quarter) : State :=
  let s := s.put q.a (s.get q.a + s.get q.b)
  let s := s.put q.d (Word.rotateLeft (s.get q.d ^^^ s.get q.a) 16)
  let s := s.put q.c (s.get q.c + s.get q.d)
  let s := s.put q.b (Word.rotateLeft (s.get q.b ^^^ s.get q.c) 12)
  let s := s.put q.a (s.get q.a + s.get q.b)
  let s := s.put q.d (Word.rotateLeft (s.get q.d ^^^ s.get q.a) 8)
  let s := s.put q.c (s.get q.c + s.get q.d)
  s.put q.b (Word.rotateLeft (s.get q.b ^^^ s.get q.c) 7)

/-- Two rounds: the columns of the state, then its diagonals. -/
def doubleRound (s : State) : State := Word.quarters.foldl quarterRound s

/-- `count` double rounds. -/
def doubleRounds : (count : Nat) → State → State
  | 0, s => s
  | count + 1, s => doubleRounds count (doubleRound s)

/-- The sixty-four key bytes with the given counter. -/
def block (key : Block 32) (nonce : Bytes) (counter : Nat) : Bytes :=
  let start := State.fill key (Bytes.littleEndian 4 counter ++ nonce)
  let stirred := doubleRounds 10 start
  (Vector.zipWith (· + ·) start stirred).toList.flatMap Word.littleEndian

@[simp] theorem length_block (key : Block 32) (nonce : Bytes) (counter : Nat) :
    (block key nonce counter).length = 64 := by
  rw [block, Word.length_flatMap_littleEndian, Vector.length_toList]

/-- **The key stream**: `length` key bytes, starting with the block that `counter` numbers. -/
def stream (key : Block 32) (nonce : Bytes) (counter length : Nat) : Bytes :=
  ((List.range ((length + 63) / 64)).flatMap fun i => block key nonce (counter + i)).take length

/-- A new key from a key and sixteen bytes of nonce: the first and the last four words of the
stirred state. -/
def subkey (key : Block 32) (nonce : Bytes) : Block 32 :=
  let words := (doubleRounds 10 (State.fill key nonce)).toList
  ⟨(words.take 4 ++ words.drop 12).flatMap Word.littleEndian, by
    rw [Word.length_flatMap_littleEndian]
    simp [words]⟩

end Coffer.Cipher.ChaCha20
