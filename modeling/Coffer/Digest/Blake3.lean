import Coffer.Text.Utf8
import Coffer.Word

/-!
# Digest/Blake3 — the BLAKE3 digest

A message is cut into chunks of 1024 bytes, the leaves of a binary tree whose left subtrees are
full.  Every node compresses its content under a key; the root gives the digest.  `hash` uses the
fixed key, `deriveKey` a key that depends on a context text.
-/

namespace Coffer.Digest.Blake3

/-- Eight words: a key, or what a node passes on to its parent. -/
abbrev Chaining := Vector UInt32 8

/-- Sixteen words: a block of a message, or the state of a compression. -/
abbrev Words := Word.Square

/-- The fixed key. -/
def fixedKey : Chaining :=
  #v[0x6a09e667, 0xbb67ae85, 0x3c6ef372, 0xa54ff53a, 0x510e527f, 0x9b05688c, 0x1f83d9ab, 0x5be0cd19]

/-! ## Flags -/

/-- The block is the first of its chunk. -/
def chunkStart : UInt32 := 1
/-- The block is the last of its chunk. -/
def chunkEnd : UInt32 := 2
/-- The node has two children. -/
def parentNode : UInt32 := 4
/-- The node is the root. -/
def rootNode : UInt32 := 8
/-- The message is a context from which a key is made. -/
def contextText : UInt32 := 32
/-- The message is digested under a key made from a context. -/
def contextKeyed : UInt32 := 64

/-! ## Compression -/

/-- Stirs four words of the state with two words of the message. -/
def mix (s : Words) (q : Word.Quarter) (x y : UInt32) : Words :=
  let s := s.put q.a (s.get q.a + s.get q.b + x)
  let s := s.put q.d (Word.rotateRight (s.get q.d ^^^ s.get q.a) 16)
  let s := s.put q.c (s.get q.c + s.get q.d)
  let s := s.put q.b (Word.rotateRight (s.get q.b ^^^ s.get q.c) 12)
  let s := s.put q.a (s.get q.a + s.get q.b + y)
  let s := s.put q.d (Word.rotateRight (s.get q.d ^^^ s.get q.a) 8)
  let s := s.put q.c (s.get q.c + s.get q.d)
  s.put q.b (Word.rotateRight (s.get q.b ^^^ s.get q.c) 7)

/-- Words two by two. -/
def pairs : List UInt32 → List (UInt32 × UInt32)
  | x :: y :: rest => (x, y) :: pairs rest
  | _ => []

/-- One round: the columns of the state, then its diagonals, each with two words of the message. -/
def round (m s : Words) : Words :=
  (Word.quarters.zip (pairs m.toList)).foldl (fun s (q, x, y) => mix s q x y) s

/-- The order in which the next round takes the message words of a round. -/
def order : List Nat := [2, 6, 3, 10, 7, 0, 4, 13, 1, 11, 12, 5, 9, 14, 15, 8]

/-- The message words in the order of the next round. -/
def permute (m : Words) : Words := Word.fill 16 (order.map fun index => m[index]?.getD 0)

/-- `count` rounds, the message words being permuted in between. -/
def rounds : (count : Nat) → (m s : Words) → Words
  | 0, _, s => s
  | count + 1, m, s => rounds count (permute m) (round m s)

/-- **A node**: all that a compression depends on. -/
structure Node where
  /-- The key, or what the blocks before this one gave. -/
  chaining : Chaining
  /-- The message words. -/
  block : Words
  /-- Which chunk this is; zero for a node with children. -/
  counter : Nat
  /-- How many bytes of the block count. -/
  length : Nat
  /-- The flags. -/
  flags : UInt32

/-- The compression of a node: seven rounds, then the two halves of the state are joined. -/
def Node.compress (node : Node) (extra : UInt32) : Chaining :=
  let start := Word.fill 16 (node.chaining.toList ++ fixedKey.toList.take 4
    ++ [UInt32.ofNat node.counter, UInt32.ofNat (node.counter / 0x100000000),
      UInt32.ofNat node.length, node.flags ||| extra])
  let stirred := (rounds 7 node.block start).toList
  Word.fill 8 (List.zipWith (· ^^^ ·) stirred (stirred.drop 8))

/-! ## Leaves -/

/-- The node of a chunk's last block, after those before it have been compressed one by one. -/
def lastBlock (flags : UInt32) (counter : Nat) (chaining : Chaining) (start : UInt32)
    (block : Bytes) : List Bytes → Node
  | [] =>
    ⟨chaining, Word.fill 16 (Word.ofLittleEndian block), counter, block.length,
      flags ||| start ||| chunkEnd⟩
  | next :: rest =>
    let node : Node :=
      ⟨chaining, Word.fill 16 (Word.ofLittleEndian block), counter, block.length, flags ||| start⟩
    lastBlock flags counter (node.compress 0) 0 next rest

/-- The node of a chunk. -/
def leaf (key : Chaining) (flags : UInt32) (chunk : Bytes) (counter : Nat) : Node :=
  match Bytes.chunks 64 chunk with
  | [] => lastBlock flags counter key chunkStart [] []
  | block :: rest => lastBlock flags counter key chunkStart block rest

/-- The leaves of a message; the empty message has one, too. -/
def leaves (key : Chaining) (flags : UInt32) (message : Bytes) : Node × List Node :=
  match (Bytes.chunks 1024 message).zipIdx with
  | [] => (leaf key flags [] 0, [])
  | first :: rest =>
    (leaf key flags first.1 first.2, rest.map fun (chunk, counter) => leaf key flags chunk counter)

/-! ## The tree -/

/-- The parent of two nodes. -/
def parent (key : Chaining) (flags : UInt32) (left right : Node) : Node :=
  let block : Words := left.compress 0 ++ right.compress 0
  ⟨key, block, 0, 64, flags ||| parentNode⟩

/-- The nodes one level up: neighbours are joined, and a node left over goes up as it is. -/
def joinPairs (key : Chaining) (flags : UInt32) : List Node → List Node
  | left :: right :: rest => parent key flags left right :: joinPairs key flags rest
  | nodes => nodes

theorem length_joinPairs_le (key : Chaining) (flags : UInt32) :
    ∀ nodes : List Node, (joinPairs key flags nodes).length ≤ nodes.length
  | [] => Nat.le_refl _
  | [_] => Nat.le_refl _
  | _ :: _ :: rest => by
    have := length_joinPairs_le key flags rest
    simp only [joinPairs, List.length_cons]
    omega

/-- The root over a level of nodes.  Joining neighbours level by level makes every left subtree
full. -/
def root (key : Chaining) (flags : UInt32) (first : Node) : List Node → Node
  | [] => first
  | second :: rest =>
    root key flags (parent key flags first second) (joinPairs key flags rest)
termination_by nodes => nodes.length
decreasing_by
  have := length_joinPairs_le key flags rest
  simp only [List.length_cons]
  omega

/-! ## Digests -/

/-- The digest of a message under a key, as words. -/
def digestWords (key : Chaining) (flags : UInt32) (message : Bytes) : Chaining :=
  let (first, rest) := leaves key flags message
  (root key flags first rest).compress rootNode

/-- The words of a digest, each lowest byte first. -/
def digest (key : Chaining) (flags : UInt32) (message : Bytes) : Block 32 :=
  ⟨(digestWords key flags message).toList.flatMap Word.littleEndian, by
    rw [Word.length_flatMap_littleEndian, Vector.length_toList]⟩

/-- **The digest** of a message. -/
def hash (message : Bytes) : Block 32 := digest fixedKey 0 message

/-- **The digest of a message for a context**: the context makes the key. -/
def deriveKey (context : String) (message : Bytes) : Block 32 :=
  digest (digestWords fixedKey contextText (Text.Utf8.encode context)) contextKeyed message

end Coffer.Digest.Blake3
