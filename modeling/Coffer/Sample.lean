import Coffer.Service.Basic
import Coffer.Store.ObjectMap
import Coffer.Store.Wrapped

/-!
# Sample — recipients and a service for trying things out

A **sample recipient** follows from a seed, so the same seed gives the same keys and tokens.  A
**sample service** keeps its objects in memory, counts the calls of its store, and comes with sample
recipients.
-/

namespace Coffer

/-- **A sample recipient**. -/
structure SampleRecipient where
  /-- The private key. -/
  key : PrivateKey
  /-- The bearer token. -/
  bearer : Bytes
  /-- The session token, if there is one. -/
  session : Option Bytes
deriving DecidableEq

/-- Why there is no sample. -/
inductive SampleError
  /-- The seed, repeated, is no private key. -/
  | badSeed (seed : UInt8) (cause : KeyError)
  /-- There are fewer seeds than recipients. -/
  | tooMany
  /-- The box for the recipients could not be packed. -/
  | unpacked (cause : BoxError)
  /-- There was no private key to pack the box with. -/
  | noPrivateKey
  /-- There cannot be room for the service's pool. -/
  | room (cause : RoomError)
deriving DecidableEq

/-- The wording of an error, if it has one. -/
def SampleError.message? : SampleError → Option String
  | badSeed seed cause =>
    some ("fixture seed 0x" ++ Hex.encode [seed] ++ " is not a valid scalar: " ++ cause.message)
  | tooMany => some "at most 254 deterministic recipients"
  | unpacked cause => some ("packing fixture box failed: " ++ cause.message)
  | noPrivateKey => none
  | room cause => some cause.message

namespace SampleRecipient

/-- A token that shows its purpose and the seed. -/
def token (purpose : String) (seed : Nat) : Bytes :=
  Text.Utf8.encode (purpose ++ "-" ++ toString seed)

/-- The recipient whose private key is the seed, repeated. -/
def ofSeed (seed : UInt8) : Except SampleError SampleRecipient := do
  let key ← (PrivateKey.decode (List.replicate 32 seed)).mapError (.badSeed seed)
  return ⟨key, token "bearer" seed.toNat, none⟩

/-- The recipient with a session token. -/
def addSession (sample : SampleRecipient) : SampleRecipient :=
  { sample with session := some (token "session" (sample.key.encode.headD 0).toNat) }

/-- The sample as a recipient of a box. -/
def recipient (sample : SampleRecipient) : Recipient :=
  ⟨sample.key.publicKey, sample.bearer, sample.session⟩

/-- How many seeds there are. -/
def limit : Nat := 254

/-- The recipient at an index; every other one has a session token. -/
def atIndex (index : Nat) : Except SampleError SampleRecipient := do
  let sample ← ofSeed (UInt8.ofNat (index + 1))
  return if index % 2 = 1 then sample.addSession else sample

/-- The first `count` recipients. -/
def several (count : Nat) : Except SampleError (List SampleRecipient) :=
  if limit < count then .error .tooMany else (List.range count).mapM atIndex

end SampleRecipient

/-- **A sample service**. -/
structure SampleService where
  /-- The service. -/
  service : CredentialService (Counted ObjectMap)
  /-- The container that boxes are put into. -/
  container : ContainerId
  /-- The owner of the boxes. -/
  issuer : OwnerId
  /-- The recipients. -/
  recipients : List SampleRecipient

namespace SampleService

/-- The container of all samples. -/
def sampleContainer : ContainerId := ⟨Block.replicate 32 0xc0⟩

/-- The owner in the name of the first recipient. -/
def issuerOf : List SampleRecipient → OwnerId
  | [] => ⟨Block.replicate 32 0⟩
  | first :: _ => OwnerId.ofPublicKey first.key.publicKey

/-- A service for the first `count` recipients. -/
def fresh (count : Nat) : Except SampleError SampleService := do
  let recipients ← SampleRecipient.several count
  let service ← (CredentialService.create (.fresh .empty) .default).mapError .room
  return ⟨service, sampleContainer, issuerOf recipients, recipients⟩

/-- Packs a box for all recipients. -/
def pack (sample : SampleService) (tape : Tape) : Except SampleError (Packed × Tape) :=
  (Coffer.pack (sample.recipients.map SampleRecipient.recipient) tape).mapError fun cause =>
    match cause with
    | .noPrivateKey => .noPrivateKey
    | .box cause => .unpacked cause

/-- Puts a packed box. -/
def put (sample : SampleService) (packed : Packed) (now : Int) :
    Except ServiceError Address × SampleService :=
  let keys := sample.recipients.map fun recipient => recipient.key.publicKey
  let (answer, service) :=
    (CredentialService.put sample.container sample.issuer packed.box keys now).run sample.service
  (answer, { sample with service := service })

/-- Gets the tokens of all recipients, one after the other. -/
def getAll (sample : SampleService) (address : Address) :
    List (Except ServiceError GateContent) × SampleService :=
  let (answers, service) :=
    (sample.recipients.mapM fun recipient => CredentialService.fetchGate address recipient.key).run
      sample.service
  (answers, { sample with service := service })

end SampleService

end Coffer
