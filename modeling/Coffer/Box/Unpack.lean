import Coffer.Box.Pack

/-!
# Box/Unpack — opening one's gate of a box

The holder of a private key finds the first gate with the matching public key, opens it under the
key agreed on with the packer, and reads the tokens inside.
-/

namespace Coffer

/-- What a recipient finds in its gate. -/
structure GateContent where
  /-- The access key of the box. -/
  accessKey : Bytes
  /-- The bearer token. -/
  bearer : Bytes
  /-- The session token, if there is one. -/
  session : Option Bytes
  /-- The recipient's public key. -/
  publicKey : PublicKey
deriving DecidableEq

/-- A session token as a recipient gets it back: an empty one is none. -/
def Recipient.receivedSession (recipient : Recipient) : Option Bytes :=
  recipient.session.filter fun session => !session.isEmpty

namespace GateContent

/-- The content of a gate with the given tokens; an empty session token is none. -/
def ofTokens (publicKey : PublicKey) (tokens : Tokens) : GateContent where
  accessKey := tokens.accessKey
  bearer := tokens.bearer
  session := if tokens.session = [] then none else some tokens.session
  publicKey := publicKey

/-- The content of a gate as a recipient of another box. -/
def toRecipient (data : GateContent) : Recipient := ⟨data.publicKey, data.bearer, data.session⟩

/-- The form of a gate's content for messages, which shows no secret. -/
def redacted (data : GateContent) : String :=
  "GateData \x7b access_key: \"[REDACTED]\", bearer_token_len: " ++ toString data.bearer.length
    ++ ", has_session_token: " ++ toString data.session.isSome
    ++ ", gate_key: " ++ data.publicKey.abbreviated ++ " \x7d"

end GateContent

/-- What a recipient finds in a box. -/
structure Unpacked where
  /-- The content of its gate. -/
  gate : GateContent
  /-- The policies. -/
  policies : List ContainerPolicy
deriving DecidableEq

namespace AccessBox

/-- The first gate for a public key. -/
def gateFor? (box : AccessBox) (key : PublicKey) : Option Gate :=
  box.gates.find? fun gate => gate.publicKey == key.encode

/-- **The content of the gate for a private key.** -/
def gateContent (box : AccessBox) (mine : PrivateKey) : Except BoxError GateContent := do
  let packer ← (PublicKey.decode box.ownerKey).mapError .malformedOwnerKey
  let publicKey := mine.publicKey
  match box.gateFor? publicKey with
  | none => throw (.noMatchingGate publicKey.toHex)
  | some gate =>
    let key ← (mine.symmetricKey packer).mapError .ofKeyError
    let bytes ← (key.openMessage gate.tokens).mapError fun _ => .authenticationFailed
    return GateContent.ofTokens publicKey (← (Tokens.decode bytes).mapError .malformed)

/-- **The policies of a box**: all of them, or the fault of the first that does not read. -/
def containerPolicies (box : AccessBox) : Except BoxError (List ContainerPolicy) :=
  (box.policies.mapM ContainerPolicy.ofStored).mapError .malformed

/-- **Unpacks a box** for a private key. -/
def unpack (box : AccessBox) (mine : PrivateKey) : Except BoxError Unpacked := do
  let gate ← box.gateContent mine
  return ⟨gate, ← box.containerPolicies⟩

end AccessBox

end Coffer
