import Coffer.Key.Error
import Coffer.Wire.Fault

/-!
# Box/Error — what can go wrong with a box

The failures of packing, reading and opening a box, with their wording.
-/

namespace Coffer

/-- A failure of a box. -/
inductive BoxError
  /-- A key belongs to another curve. -/
  | curveMismatch
  /-- A key agreement gave no usable point. -/
  | invalidPoint
  /-- A gate does not open. -/
  | authenticationFailed
  /-- No gate of the box is for this key, given in hexadecimal. -/
  | noMatchingGate (key : String)
  /-- The bytes of a box, of its tokens or of a policy are no message. -/
  | malformed (fault : Wire.Fault)
  /-- The packer's key in the box is no public key. -/
  | malformedOwnerKey (cause : KeyError)
  /-- Any other failure of a key. -/
  | key (cause : KeyError)
deriving DecidableEq

namespace BoxError

/-- The failure of a box that a failure of a key amounts to. -/
def ofKeyError : KeyError → BoxError
  | .curveMismatch => curveMismatch
  | .invalidPoint => invalidPoint
  | .authenticationFailed => authenticationFailed
  | other => key other

/-- The wording of a failure. -/
def message : BoxError → String
  | curveMismatch => "curve mismatch"
  | invalidPoint => "invalid curve point"
  | authenticationFailed => "authentication failed"
  | noMatchingGate digits => "no gate data for key " ++ digits ++ " was found"
  | malformed fault => "malformed box: " ++ fault.message
  | malformedOwnerKey cause => "malformed box: couldn't decode owner public key: " ++ cause.message
  | .key cause => "crypto error: " ++ cause.message

end BoxError

end Coffer
