import Coffer.Address
import Coffer.Address.Json
import Coffer.Box.Basic
import Coffer.Box.Error
import Coffer.Box.Pack
import Coffer.Box.Unpack
import Coffer.Bytes
import Coffer.Cbor.Head
import Coffer.Cbor.Item
import Coffer.Cipher.Authenticated
import Coffer.Cipher.ChaCha20
import Coffer.Cipher.Poly1305
import Coffer.Content
import Coffer.Curve.Field
import Coffer.Curve.Point
import Coffer.Digest.Blake3
import Coffer.Digest.KeyDerivation
import Coffer.Digest.Sha256
import Coffer.Golden
import Coffer.Hex
import Coffer.Identifier
import Coffer.Json.Reader
import Coffer.Json.Value
import Coffer.Json.Writer
import Coffer.Key.Agreement
import Coffer.Key.Error
import Coffer.Key.Private
import Coffer.Key.Public
import Coffer.Policy
import Coffer.Pool.Basic
import Coffer.Pool.Lending
import Coffer.Random
import Coffer.Sample
import Coffer.Service.Basic
import Coffer.Service.Error
import Coffer.Service.Settings
import Coffer.Store.AttributeColumn
import Coffer.Store.Basic
import Coffer.Store.Database
import Coffer.Store.Error
import Coffer.Store.ObjectMap
import Coffer.Store.Wrapped
import Coffer.Text.Quoted
import Coffer.Text.Unprinted
import Coffer.Text.Utf8
import Coffer.Wire.Fault
import Coffer.Wire.Field
import Coffer.Wire.Varint
import Coffer.Word
import Coffer.Proofs.Bytes
import Coffer.Proofs.Wire.RoundTrip
import Coffer.Proofs.Wire.Grammar
import Coffer.Proofs.Wire.Shortest
import Coffer.Proofs.Policy.RoundTrip
import Coffer.Proofs.Policy.Grammar
import Coffer.Proofs.Box.RoundTrip
import Coffer.Proofs.Box.Grammar
import Coffer.Proofs.Box.Shortest
import Coffer.Proofs.Cipher.Authenticated
import Coffer.Proofs.Key.Sealing
import Coffer.Proofs.Curve.Bits
import Coffer.Proofs.Curve.Primality
import Coffer.Proofs.Curve.Field
import Coffer.Proofs.Curve.Group
import Coffer.Proofs.Key.RoundTrip
import Coffer.Proofs.Curve.Order
import Coffer.Proofs.Key.Agreement
import Coffer.Proofs.Key.Generation
import Coffer.Proofs.Box.Gates
import Coffer.Proofs.Box.TapeLayout
import Coffer.Proofs.Box.Packing
import Coffer.Proofs.Box.Extension
import Coffer.Proofs.Box.Access
import Coffer.Proofs.Wire.Truncation
import Coffer.Proofs.Box.Truncation
import Coffer.Proofs.Box.Policies
import Coffer.Proofs.Cbor.RoundTrip
import Coffer.Proofs.Store.AttributeColumn
import Coffer.Proofs.Content
import Coffer.Proofs.Store.Archive
import Coffer.Proofs.Store.Interchange
import Coffer.Proofs.Store.Migration
import Coffer.Proofs.Store.Immutability
import Coffer.Proofs.Store.Convergence
import Coffer.Proofs.Pool.Soundness
import Coffer.Proofs.Pool.Marks
import Coffer.Proofs.Pool.Safety
import Coffer.Proofs.Service.Run
import Coffer.Proofs.Service.Safekeeping
import Coffer.Proofs.Service.Isolation
import Coffer.Proofs.Service.Accounting
import Coffer.Proofs.Service.Addressing
import Coffer.Proofs.Text
import Coffer.Proofs.Hex
import Coffer.Proofs.Address
import Coffer.Proofs.Key.Reading
import Coffer.Proofs.Json.Grammar
import Coffer.Proofs.Json.Tokens
import Coffer.Proofs.Json.Reading
import Coffer.Proofs.Json.Value
import Coffer.Proofs.Json.Writing
import Coffer.Proofs.Address.Json
import Coffer.Proofs.Box.Progress
import Coffer.Proofs.Wire.Varint
import Coffer.Proofs.Wire.Puts
import Coffer.Proofs.Service.Settings
