import Coffer.Digest.Sha256

/-!
# Digest/KeyDerivation — keyed digests and keys derived from them

`authenticate` is HMAC and `extract`, `expand` are the two steps of HKDF, all over SHA-256.
-/

namespace Coffer.Digest

/-- A key filled up with zeros to the block size; one that is longer is digested first. -/
def blockKey (key : Bytes) : Bytes :=
  let short := if 64 < key.length then Sha256.digest key else key
  short ++ List.replicate (64 - short.length) 0

/-- The digest of a message under a key. -/
def authenticate (key message : Bytes) : Bytes :=
  let inner := (blockKey key).map (· ^^^ 0x36)
  let outer := (blockKey key).map (· ^^^ 0x5c)
  Sha256.digest (outer ++ Sha256.digest (inner ++ message))

@[simp] theorem length_authenticate (key message : Bytes) :
    (authenticate key message).length = 32 := by
  simp [authenticate]

/-- A key from input whose bits need not be uniform; without a salt, zeros stand for it. -/
def extract (salt : Option Bytes) (input : Bytes) : Bytes :=
  authenticate (salt.getD (List.replicate 32 0)) input

/-- The first `count` links of a chain of digests in which each covers the one before it, the
context and its own number; `number` is the number of the first. -/
def links (key context : Bytes) : (count number : Nat) → (before : Bytes) → List Bytes
  | 0, _, _ => []
  | count + 1, number, before =>
    let link := authenticate key (before ++ context ++ [UInt8.ofNat number])
    link :: links key context count (number + 1) link

theorem length_flatten_links (key context : Bytes) (count number : Nat) (before : Bytes) :
    (links key context count number before).flatten.length = 32 * count := by
  induction count generalizing number before with
  | zero => rfl
  | succ count ih =>
    simp only [links, List.flatten_cons, List.length_append, length_authenticate, ih]
    omega

/-- `length` bytes derived from a key for a context; there are at most 255 digests of them. -/
def expand (key context : Bytes) (length : Nat) : Option (Block length) :=
  if 255 * 32 < length then none
  else some ⟨(links key context ((length + 31) / 32) 1 []).flatten.take length, by
    rw [List.length_take, length_flatten_links]
    omega⟩

end Coffer.Digest
