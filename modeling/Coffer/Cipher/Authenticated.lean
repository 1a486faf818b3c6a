import Coffer.Cipher.ChaCha20
import Coffer.Cipher.Poly1305

/-!
# Cipher/Authenticated — encryption that notices any change

A key of 32 bytes and a nonce of 24 give a key stream.  Its first block keys the tag, which covers
the ciphertext; the blocks after it are combined with the message.
-/

namespace Coffer.Cipher.Authenticated

/-- How many bytes a nonce has. -/
def nonceSize : Nat := 24

/-- How many bytes a tag has. -/
def tagSize : Nat := 16

/-- How many blocks of a key stream can be numbered: `2 ^ 32 - 1`. -/
def blockLimit : Nat := 0xffffffff

/-- Whether a message is too long: the blocks of its key stream could no longer be numbered. -/
def TooLong (message : Bytes) : Prop := blockLimit ≤ message.length / 64

instance (message : Bytes) : Decidable (TooLong message) :=
  inferInstanceAs (Decidable (_ ≤ _))

/-- The key under which one message is encrypted: the first sixteen bytes of the nonce make it. -/
def messageKey (key : Block 32) (nonce : Bytes) : Block 32 :=
  ChaCha20.subkey key (nonce.take 16)

/-- The nonce that goes with that key: the last eight bytes, after four zeros. -/
def messageNonce (nonce : Bytes) : Bytes := List.replicate 4 0 ++ nonce.drop 16

/-- The message with the key stream taken up; doing it again takes it off. -/
def mask (key : Block 32) (nonce message : Bytes) : Bytes :=
  Bytes.xor message
    (ChaCha20.stream (messageKey key nonce) (messageNonce nonce) 1 message.length)

/-- What the tag covers: the ciphertext, filled up to whole pieces, and its length. -/
def covered (ciphertext : Bytes) : Bytes :=
  ciphertext ++ List.replicate ((16 - ciphertext.length % 16) % 16) 0
    ++ Bytes.littleEndian 8 0 ++ Bytes.littleEndian 8 ciphertext.length

/-- The tag of a ciphertext. -/
def tag (key : Block 32) (nonce ciphertext : Bytes) : Bytes :=
  let once := ChaCha20.stream (messageKey key nonce) (messageNonce nonce) 0 32
  Poly1305.tag once (covered ciphertext)

/-- **Encrypts**: nonce, ciphertext and tag. -/
def encrypt (key : Block 32) (nonce message : Bytes) : Option Bytes :=
  if TooLong message then none
  else
    let ciphertext := mask key nonce message
    some (nonce ++ ciphertext ++ tag key nonce ciphertext)

/-- **Decrypts** what holds a nonce, a ciphertext and its tag. -/
def decrypt (key : Block 32) (sealed : Bytes) : Option Bytes :=
  if sealed.length < nonceSize + tagSize then none
  else
    let nonce := sealed.take nonceSize
    let body := sealed.drop nonceSize
    let ciphertext := body.take (body.length - tagSize)
    let given := body.drop (body.length - tagSize)
    if TooLong ciphertext ∨ tag key nonce ciphertext ≠ given then none
    else some (mask key nonce ciphertext)

end Coffer.Cipher.Authenticated
