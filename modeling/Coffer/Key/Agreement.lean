import Coffer.Cipher.Authenticated
import Coffer.Digest.KeyDerivation
import Coffer.Key.Private

/-!
# Key/Agreement — shared secrets, symmetric keys and sealed messages

A private and a public key agree on a **shared secret**, from which a **symmetric key** is derived.
Under a symmetric key a message is **sealed** with a nonce off the tape, and opened again only if
nothing of it has changed.
-/

namespace Coffer

open Curve

/-- **A shared secret**: the first coordinate of the point agreed on. -/
structure SharedSecret where
  /-- The coordinate on 32 bytes, highest first. -/
  block : Block 32
deriving DecidableEq

/-- **A symmetric key**. -/
structure SymmetricKey where
  /-- The 32 bytes of the key. -/
  block : Block 32
deriving DecidableEq

/-- **Agrees** on a secret: the multiple of the public key's point by the private key's scalar. -/
def PrivateKey.agree (mine : PrivateKey) (theirs : PublicKey) : Except KeyError SharedSecret :=
  match theirs.point.multiple mine.scalar with
  | .finite point => .ok ⟨Block.bigEndian 32 point.x.val⟩
  | .identity => .error .invalidPoint

/-- **Derives** the symmetric key of a secret, without salt and for no particular context. -/
def SharedSecret.symmetricKey (secret : SharedSecret) : Except KeyError SymmetricKey :=
  match Digest.expand (Digest.extract none secret.block.bytes) [] 32 with
  | some block => .ok ⟨block⟩
  | none => .error (.derivation "invalid number of blocks, too large output")

/-- The symmetric key that a private and a public key agree on. -/
def PrivateKey.symmetricKey (mine : PrivateKey) (theirs : PublicKey) :
    Except KeyError SymmetricKey := do
  (← mine.agree theirs).symmetricKey

/-- Takes `count` bytes off the tape. -/
def Tape.secret (count : Nat) : StateT Tape (Except KeyError) Bytes := fun tape =>
  match tape.take? count with
  | some taken => .ok taken
  | none => .error .sourceExhausted

namespace SymmetricKey

/-- Seals a message with the given nonce. -/
def sealWith (key : SymmetricKey) (nonce message : Bytes) : Except KeyError Bytes :=
  match Cipher.Authenticated.encrypt key.block nonce message with
  | some sealed => .ok sealed
  | none => .error .encryption

/-- **Seals** a message with a nonce off the tape. -/
def sealMessage (key : SymmetricKey) (message : Bytes) : StateT Tape (Except KeyError) Bytes := do
  key.sealWith (← Tape.secret Cipher.Authenticated.nonceSize) message

/-- **Opens** a sealed message. -/
def openMessage (key : SymmetricKey) (sealed : Bytes) : Except KeyError Bytes :=
  match Cipher.Authenticated.decrypt key.block sealed with
  | some message => .ok message
  | none => .error .authenticationFailed

/-- The form of a key for messages, which shows nothing of it. -/
def redacted : String := "SymmetricKey(\"[REDACTED]\")"

end SymmetricKey

end Coffer
