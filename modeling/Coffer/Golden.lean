import Coffer.Address.Json
import Coffer.Box.Unpack

/-!
# Golden — known answers

Keys, agreements and a box together with what must come of them.  The box was sealed with fixed keys
and nonces, so it fixes every step from the encoding of keys to the fields of a message.
-/

namespace Coffer.Golden

/-- A private key and its public key. -/
structure KnownKey where
  (name privateKey publicKey : String)

/-- One side of an agreement, the secret and the key derived from it. -/
structure KnownAgreement where
  (name privateKey peerKey secret symmetricKey : String)

/-- What one recipient must find in a box. -/
structure KnownGate where
  /-- The recipient's private key. -/
  privateKey : String
  /-- The access key. -/
  accessKey : String
  /-- The bearer token. -/
  bearer : Bytes
  /-- The session token, if there is one. -/
  session : Option Bytes

/-- A box and what must be found in it. -/
structure KnownBox where
  /-- The name of the answer. -/
  name : String
  /-- The bytes of the box. -/
  box : String
  /-- What the recipients must find. -/
  gates : List KnownGate
  /-- The location of its first policy. -/
  location : String
  /-- The bytes of its first policy. -/
  policy : String

/-! ## The answers -/

/-- The private key that the box was packed with. -/
def packerKey : String := "0101010101010101010101010101010101010101010101010101010101010101"

/-- The private key of the first recipient. -/
def firstKey : String := "0202020202020202020202020202020202020202020202020202020202020202"

/-- The private key of the second recipient. -/
def secondKey : String := "0303030303030303030303030303030303030303030303030303030303030303"

/-- The public key of the packer. -/
def packerPublicKey : String := "026ff03b949241ce1dadd43519e6960e0a85b41a69a05c328103aa2bce1594ca16"

/-- The public key of the first recipient. -/
def firstPublicKey : String := "02550f471003f3df97c3df506ac797f6721fb1a1fb7b8f6f83d224498a65c88e24"

/-- The public key of the second recipient. -/
def secondPublicKey : String := "02591ab771ebbcfd6d9cb9094d106528add1a69d44c2c1f627f089ec58b9c61adf"

/-- The secret that packer and first recipient share. -/
def sharedSecret : String := "eb459a6b30d70eb4c0ddcd34ea96ed59e8f8d1843c22dd895ab603aa13d9a81d"

/-- The key derived from that secret. -/
def symmetricKey : String := "8ce095688d962700130525dfc28dbd6fee0441cddc061fe62e23c73fca15053d"

/-- The access key of the box. -/
def accessKey : String := "5a5a5a5a5a5a5a5a5a5a5a5a5a5a5a5a5a5a5a5a5a5a5a5a5a5a5a5a5a5a5a5a"

/-- The keys. -/
def knownKeys : List KnownKey :=
  [⟨"ephemeral 0x01", packerKey, packerPublicKey⟩,
   ⟨"recipient 0x02", firstKey, firstPublicKey⟩,
   ⟨"recipient 0x03", secondKey, secondPublicKey⟩]

/-- The agreements: the two sides of one secret. -/
def knownAgreements : List KnownAgreement :=
  [⟨"packer side", packerKey, firstPublicKey, sharedSecret, symmetricKey⟩,
   ⟨"recipient side", firstKey, packerPublicKey, sharedSecret, symmetricKey⟩]

/-- A box for two recipients with one policy. -/
def knownBox : KnownBox where
  name := "two recipients with policy"
  box :=
    "0a21026ff03b949241ce1dadd43519e6960e0a85b41a69a05c328103aa2bce1594ca16"
      ++ "127b0a56000102030405060708090a0b0c0d0e0f1011121314151617558886f03680072a"
      ++ "8fbe1eaf48df1d2a36eb4962331581b995b5ee87b37f7d7ef1e749c097cbf1c88bfaee29"
      ++ "8e73f33bd611cd755a8ab00127696365ba10122102550f471003f3df97c3df506ac797f6"
      ++ "721fb1a1fb7b8f6f83d224498a65c88e241288010a6318191a1b1c1d1e1f202122232425"
      ++ "262728292a2b2c2d2e2f46d2786edc51bbd04ca874aaa2059e0d79a26a2fdc1b7c02aeb3"
      ++ "699193083a5c89a5422a06bdee9b68c0b9ee1c46c7088c09e0a353865500b3d21c821e65"
      ++ "5c8ca5b836c825f14626d45ffa122102591ab771ebbcfd6d9cb9094d106528add1a69d44"
      ++ "c2c1f627f089ec58b9c61adf1a0f0a02657512090a0508021201581001"
  gates :=
    [⟨firstKey, accessKey, Text.Utf8.encode "bearer-one", none⟩,
     ⟨secondKey, accessKey, Text.Utf8.encode "bearer-two", some (Text.Utf8.encode "session-two")⟩]
  location := "eu"
  policy := "0a0508021201581001"

/-- The policy in that box. -/
def boxPolicy : ContainerPolicy := ⟨"eu", .ofRules [⟨2, "X"⟩] 1⟩

/-! ## Checking -/

/-- Reads a private key in hexadecimal. -/
def readPrivateKey (digits : String) : Except String PrivateKey := do
  let bytes ← (Hex.decode digits).mapError Hex.Fault.message
  (PrivateKey.decode bytes).mapError KeyError.message

/-- Checks a key; the detail is the public key found. -/
def KnownKey.check (known : KnownKey) : Except String String := do
  let found := (← readPrivateKey known.privateKey).publicKey.toHex
  if found = known.publicKey then return found else throw found

/-- Checks an agreement; the detail is the key found. -/
def KnownAgreement.check (known : KnownAgreement) : Except String String := do
  let mine ← readPrivateKey known.privateKey
  let peer ← (PublicKey.ofHex known.peerKey).mapError KeyError.message
  let secret ← (mine.agree peer).mapError KeyError.message
  let key ← secret.symmetricKey.mapError KeyError.message
  let secretDigits := Hex.encode secret.block.bytes
  let keyDigits := Hex.encode key.block.bytes
  if secretDigits = known.secret ∧ keyDigits = known.symmetricKey then return keyDigits
  else throw (secretDigits ++ " / " ++ keyDigits)

/-- Checks what one recipient finds in a box. -/
def KnownGate.check (gate : KnownGate) (known : KnownBox) (box : AccessBox) :
    Except String Unit := do
  let found ← (box.unpack (← readPrivateKey gate.privateKey)).mapError BoxError.message
  if Hex.encode found.gate.accessKey ≠ gate.accessKey ∨ found.gate.bearer ≠ gate.bearer
      ∨ found.gate.session ≠ gate.session then
    throw ("gate mismatch for " ++ gate.privateKey)
  match found.policies with
  | [] => throw "missing policy"
  | policy :: _ =>
    if policy.location ≠ known.location ∨ Hex.encode policy.policy.encoded ≠ known.policy then
      throw "policy mismatch"

/-- Checks a box; the detail is its name. -/
def KnownBox.check (known : KnownBox) : Except String String := do
  let bytes ← (Hex.decode known.box).mapError Hex.Fault.message
  let box ← (AccessBox.decode bytes).mapError fun fault => (BoxError.malformed fault).message
  if box.encode ≠ bytes then throw "re-encoding differs"
  for gate in known.gates do
    gate.check known box
  return known.name

/-- What comes of a check. -/
structure Outcome where
  /-- The name of the answer. -/
  name : String
  /-- Whether it holds. -/
  passed : Bool
  /-- What was found. -/
  detail : String

/-- The outcome of a check under a name. -/
def Outcome.of (name : String) : Except String String → Outcome
  | .ok detail => ⟨name, true, detail⟩
  | .error detail => ⟨name, false, detail⟩

/-- **Checks all known answers.** -/
def outcomes : List Outcome :=
  knownKeys.map (fun known => .of known.name known.check)
    ++ knownAgreements.map (fun known => .of known.name known.check)
    ++ [.of knownBox.name knownBox.check]

/-! ## The answers as JSON -/

/-- A key as an object. -/
def KnownKey.toJson (known : KnownKey) : Json :=
  .record [("name", .ofText known.name), ("private_key", .ofText known.privateKey),
    ("public_key", .ofText known.publicKey)]

/-- An agreement as an object. -/
def KnownAgreement.toJson (known : KnownAgreement) : Json :=
  .record [("name", .ofText known.name), ("private_key", .ofText known.privateKey),
    ("peer_public_key", .ofText known.peerKey), ("shared_secret", .ofText known.secret),
    ("symmetric_key", .ofText known.symmetricKey)]

/-- What a recipient must find as an object. -/
def KnownGate.toJson (known : KnownGate) : Json :=
  .record [("private_key", .ofText known.privateKey), ("access_key", .ofText known.accessKey),
    ("bearer_token", Bytes.toJson known.bearer),
    ("session_token", (known.session.map Bytes.toJson).getD .null)]

/-- A box as an object. -/
def KnownBox.toJson (known : KnownBox) : Json :=
  .record [("name", .ofText known.name), ("box_hex", .ofText known.box),
    ("gates", .array (known.gates.map KnownGate.toJson)),
    ("location_constraint", .ofText known.location), ("policy_hex", .ofText known.policy)]

/-- **All known answers** as a JSON text. -/
def jsonText : String :=
  (Json.record [("keys", .array (knownKeys.map KnownKey.toJson)),
    ("agreements", .array (knownAgreements.map KnownAgreement.toJson)),
    ("boxes", .array [knownBox.toJson])]).pretty

end Coffer.Golden
