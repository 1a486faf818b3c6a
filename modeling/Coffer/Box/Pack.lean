import Coffer.Box.Basic
import Coffer.Box.Error
import Coffer.Key.Agreement

/-!
# Box/Pack — packing a box

A **draft** collects recipients and policies.  Packing it makes a private key and an access key off
the tape, and seals for each recipient the tokens under the key agreed on with that recipient.
Either every recipient gets a gate or there is no box.
-/

namespace Coffer

/-- **A recipient** and what is delegated to it. -/
structure Recipient where
  /-- The recipient's public key. -/
  publicKey : PublicKey
  /-- The bearer token. -/
  bearer : Bytes
  /-- The session token, if there is one. -/
  session : Option Bytes
deriving DecidableEq

/-- What only the packer of a box sees. -/
structure Secrets where
  /-- The access key of the box. -/
  accessKey : Bytes
  /-- The private key that the box was packed with. -/
  privateKey : PrivateKey
deriving DecidableEq

/-- The access key as it is handed out, in hexadecimal. -/
def Secrets.accessKeyText (secrets : Secrets) : String := Hex.encode secrets.accessKey

/-- The form of secrets for messages, which shows nothing of them. -/
def Secrets.redacted : String :=
  "Secrets \x7b access_key: \"[REDACTED]\", ephemeral_key: " ++ PrivateKey.redacted ++ " \x7d"

/-- A packed box and its secrets. -/
structure Packed where
  /-- The box. -/
  box : AccessBox
  /-- Its secrets. -/
  secrets : Secrets
deriving DecidableEq

/-- Why a draft could not be packed. -/
inductive PackError
  /-- The tape ended before there was a private key. -/
  | noPrivateKey
  /-- A failure after that. -/
  | box (cause : BoxError)
deriving DecidableEq

/-- **A draft** of a box. -/
structure Draft where
  /-- The recipients, in order. -/
  recipients : List Recipient
  /-- The policies, in order. -/
  policies : List ContainerPolicy
deriving DecidableEq

namespace Draft

/-- The draft of nothing. -/
def empty : Draft := ⟨[], []⟩

/-- A draft with one more recipient. -/
def addRecipient (draft : Draft) (recipient : Recipient) : Draft :=
  { draft with recipients := draft.recipients ++ [recipient] }

/-- A draft with several more recipients. -/
def addRecipients (draft : Draft) (recipients : List Recipient) : Draft :=
  { draft with recipients := draft.recipients ++ recipients }

/-- A draft with one more policy. -/
def addPolicy (draft : Draft) (policy : ContainerPolicy) : Draft :=
  { draft with policies := draft.policies ++ [policy] }

/-- A draft with several more policies. -/
def addPolicies (draft : Draft) (policies : List ContainerPolicy) : Draft :=
  { draft with policies := draft.policies ++ policies }

end Draft

/-- How many bytes an access key has. -/
def accessKeySize : Nat := 32

namespace Recipient

/-- The tokens a recipient gets. -/
def tokens (recipient : Recipient) (accessKey : Bytes) : Tokens :=
  ⟨accessKey, recipient.bearer, recipient.session.getD []⟩

/-- **The gate of a recipient**: its tokens under the key agreed on with it. -/
def makeGate (packer : PrivateKey) (accessKey : Bytes) (recipient : Recipient) :
    StateT Tape (Except KeyError) Gate := do
  let key ← packer.symmetricKey recipient.publicKey
  let sealed ← key.sealMessage (recipient.tokens accessKey).encode
  return ⟨recipient.publicKey.encode, sealed⟩

end Recipient

namespace Draft

/-- Packs a draft with the given private key. -/
def packWith (draft : Draft) (packer : PrivateKey) : StateT Tape (Except KeyError) Packed := do
  let accessKey ← Tape.secret accessKeySize
  let gates ← draft.recipients.mapM (Recipient.makeGate packer accessKey)
  return {
    box := ⟨packer.publicKey.encode, gates, draft.policies.map ContainerPolicy.toStored⟩
    secrets := ⟨accessKey, packer⟩ }

/-- **Packs a draft**, with a new private key off the tape. -/
def pack (draft : Draft) (tape : Tape) : Except PackError (Packed × Tape) :=
  match PrivateKey.generate? tape with
  | none => .error .noPrivateKey
  | some (packer, rest) =>
    ((draft.packWith packer).run rest).mapError fun cause => .box (.ofKeyError cause)

end Draft

/-- Packs a box for recipients, without policies. -/
def pack (recipients : List Recipient) (tape : Tape) : Except PackError (Packed × Tape) :=
  (Draft.empty.addRecipients recipients).pack tape

end Coffer
