import Coffer.Policy

/-!
# Box/Basic — access boxes, gates and tokens, and their bytes

An **access box** is what is stored: the public key of whoever packed it, one **gate** for each
recipient, and policies in clear.  A gate holds, sealed for its recipient, **tokens**: the access
key of the box and what was delegated to that recipient.

Each of the three is a message.  Of a field that occurs once in a message the last occurrence
counts, of a field that may be repeated all occurrences count in order, and other fields are passed
over.
-/

namespace Coffer

open Wire

/-! ## Gates -/

/-- **A gate**: one recipient's place in a box. -/
structure Gate where
  /-- The 33 bytes of the recipient's public key. -/
  publicKey : Bytes
  /-- The recipient's tokens, sealed. -/
  tokens : Bytes
deriving DecidableEq

namespace Gate

/-- The fields of a gate: its tokens, then its key. -/
def fields (gate : Gate) : List Field := Field.bytes 1 gate.tokens ++ Field.bytes 2 gate.publicKey

/-- The bytes of a gate. -/
def encode (gate : Gate) : Bytes := Field.writeAll gate.fields

/-- What one field says about a gate. -/
inductive Part
  | tokens (bytes : Bytes)
  | publicKey (bytes : Bytes)
  | unknown

/-- Reads one field of a gate. -/
def Part.ofField (field : Field) : Except Fault Part :=
  match field.number with
  | 1 => return tokens (← field.value.asPayload "gate.tokens")
  | 2 => return publicKey (← field.value.asPayload "gate.gate_public_key")
  | _ => return unknown

/-- A gate with one more part; a later part replaces an earlier one. -/
def add (gate : Gate) : Part → Gate
  | .tokens bytes => { gate with tokens := bytes }
  | .publicKey bytes => { gate with publicKey := bytes }
  | .unknown => gate

/-- Reads a gate. -/
def decode (bytes : Bytes) : Except Fault Gate :=
  return (← Field.readAll Part.ofField bytes).foldl add ⟨[], []⟩

end Gate

/-! ## Boxes -/

/-- **An access box**. -/
structure AccessBox where
  /-- The 33 bytes of the packer's public key. -/
  ownerKey : Bytes
  /-- The gates, in the order of the recipients. -/
  gates : List Gate
  /-- The policies, in clear. -/
  policies : List StoredPolicy
deriving DecidableEq

namespace AccessBox

/-- The box that holds nothing. -/
def empty : AccessBox := ⟨[], [], []⟩

/-- Whether a box holds nothing: no key, no gate, no policy. -/
def isEmpty (box : AccessBox) : Bool :=
  box.ownerKey.isEmpty && box.gates.isEmpty && box.policies.isEmpty

/-- The fields of a box: its key, its gates and its policies. -/
def fields (box : AccessBox) : List Field :=
  Field.bytes 1 box.ownerKey
    ++ box.gates.flatMap (fun gate => Field.message 2 gate.encode)
    ++ box.policies.flatMap (fun stored => Field.message 3 stored.encode)

/-- The bytes of a box. -/
def encode (box : AccessBox) : Bytes := Field.writeAll box.fields

/-- Writes a box behind what a buffer already holds. -/
def encodeAfter (box : AccessBox) (buffer : Bytes) : Bytes := buffer ++ box.encode

/-- What one field says about a box. -/
inductive Part
  | ownerKey (bytes : Bytes)
  | gate (gate : Gate)
  | policy (stored : StoredPolicy)
  | unknown

namespace Part

/-- Reads one field of a box. -/
def ofField (field : Field) : Except Fault Part :=
  match field.number with
  | 1 => return ownerKey (← field.value.asPayload "owner_public_key")
  | 2 => return gate (← Gate.decode (← field.value.asPayload "gates"))
  | 3 => return policy (← StoredPolicy.decode (← field.value.asPayload "container_policy"))
  | _ => return unknown

/-- The key after one more part. -/
def lastOwnerKey (before : Bytes) : Part → Bytes
  | ownerKey bytes => bytes
  | _ => before

/-- The gate a part holds. -/
def gate? : Part → Option Gate
  | .gate content => some content
  | _ => none

/-- The policy a part holds. -/
def policy? : Part → Option StoredPolicy
  | .policy stored => some stored
  | _ => none

end Part

/-- The box that parts make up. -/
def ofParts (parts : List Part) : AccessBox where
  ownerKey := parts.foldl Part.lastOwnerKey []
  gates := parts.filterMap Part.gate?
  policies := parts.filterMap Part.policy?

/-- **Reads a box.** -/
def decode (bytes : Bytes) : Except Fault AccessBox :=
  return ofParts (← Field.readAll Part.ofField bytes)

end AccessBox

/-! ## Tokens -/

/-- **Tokens**: what is sealed inside a gate. -/
structure Tokens where
  /-- The key that all recipients of a box share. -/
  accessKey : Bytes
  /-- The recipient's bearer token. -/
  bearer : Bytes
  /-- The recipient's session token; empty if there is none. -/
  session : Bytes
deriving DecidableEq

namespace Tokens

/-- The fields of tokens. -/
def fields (tokens : Tokens) : List Field :=
  Field.bytes 1 tokens.accessKey ++ Field.bytes 2 tokens.bearer ++ Field.bytes 3 tokens.session

/-- The bytes of tokens. -/
def encode (tokens : Tokens) : Bytes := Field.writeAll tokens.fields

/-- What one field says about tokens. -/
inductive Part
  | accessKey (bytes : Bytes)
  | bearer (bytes : Bytes)
  | session (bytes : Bytes)
  | unknown

/-- Reads one field of tokens. -/
def Part.ofField (field : Field) : Except Fault Part :=
  match field.number with
  | 1 => return accessKey (← field.value.asPayload "tokens.access_key")
  | 2 => return bearer (← field.value.asPayload "tokens.bearer_token")
  | 3 => return session (← field.value.asPayload "tokens.session_token")
  | _ => return unknown

/-- Tokens with one more part; a later part replaces an earlier one. -/
def add (tokens : Tokens) : Part → Tokens
  | .accessKey bytes => { tokens with accessKey := bytes }
  | .bearer bytes => { tokens with bearer := bytes }
  | .session bytes => { tokens with session := bytes }
  | .unknown => tokens

/-- Reads tokens. -/
def decode (bytes : Bytes) : Except Fault Tokens :=
  return (← Field.readAll Part.ofField bytes).foldl add ⟨[], [], []⟩

/-- The form of tokens for messages, which shows nothing of them. -/
def redacted : String := "Tokens \x7b .. \x7d"

end Tokens

end Coffer
