/-!
# Key/Error — what can go wrong with keys

The failures of keys and of the messages they protect, with their wording.
-/

namespace Coffer

/-- A failure of a key, or of a message under a key. -/
inductive KeyError
  /-- The bytes have the shape of a point of another curve. -/
  | curveMismatch
  /-- The bytes are no point of the curve, or an agreement gave the identity. -/
  | invalidPoint
  /-- The bytes are no private key. -/
  | invalidPrivateKey
  /-- A sealed message has been changed, or belongs to another key. -/
  | authenticationFailed
  /-- No key could be derived. -/
  | derivation (detail : String)
  /-- A message could not be encrypted. -/
  | encryption
  /-- The random source failed. -/
  | randomSource (detail : String)
deriving DecidableEq

/-- The wording of a failure. -/
def KeyError.message : KeyError → String
  | curveMismatch => "curve mismatch: key is not a P-256 point"
  | invalidPoint => "invalid curve point"
  | invalidPrivateKey => "invalid private key"
  | authenticationFailed => "authentication failed"
  | derivation detail => "key derivation error: " ++ detail
  | encryption => "encryption error"
  | randomSource detail => "random source error: " ++ detail

/-- The failure of a random source that has no bytes left. -/
def KeyError.sourceExhausted : KeyError := randomSource "no random bytes left"

end Coffer
