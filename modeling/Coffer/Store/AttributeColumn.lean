import Coffer.Cbor.Item
import Coffer.Content

/-!
# Store/AttributeColumn — attributes as one column of a table

The attributes of an object are kept as one data item: an array of maps, each with a text `key` and
a text `value`.  A reader passes over other entries of a map and over what follows the array.
-/

namespace Coffer.AttributeColumn

open Cbor

/-! ## Writing -/

/-- A text as a data item. -/
def writeText (text : String) : Bytes :=
  Head.write 3 (Text.Utf8.encode text).length ++ Text.Utf8.encode text

/-- An attribute as a map of two entries. -/
def writeAttribute (entry : Attribute) : Bytes :=
  Head.write 5 2 ++ writeText "key" ++ writeText entry.key
    ++ writeText "value" ++ writeText entry.value

/-- **The column** for a list of attributes. -/
def write (attributes : List Attribute) : Bytes :=
  Head.write 4 attributes.length ++ attributes.flatMap writeAttribute

/-! ## Reading -/

/-- How deep items may be nested in a column. -/
def depth : Nat := 256

/-- How long the name of a map's entry may be. -/
def nameLimit : Nat := 4096

/-- The name of a map's entry: a text or a byte string of known length. -/
def readName (bytes : Bytes) : Option (Bytes × Bytes) := do
  match ← readUntagged bytes with
  | (.text (some length), rest) => if length ≤ nameLimit then readPiece true length rest else none
  | (.bytes (some length), rest) => if length ≤ nameLimit then readPiece false length rest else none
  | _ => none

/-- A text. -/
def readText (bytes : Bytes) : Option (String × Bytes) := do
  match ← readUntagged bytes with
  | (.text length, rest) =>
    let (content, rest) ← readString true length rest
    return (← Text.Utf8.decode? content, rest)
  | _ => none

/-- What one entry of a map says about an attribute. -/
inductive Part
  | key (text : String)
  | value (text : String)
  | unknown

/-- The key a part holds. -/
def Part.key? : Part → Option String
  | .key text => some text
  | _ => none

/-- The value a part holds. -/
def Part.value? : Part → Option String
  | .value text => some text
  | _ => none

/-- Reads one entry of a map: its name, then what the name asks for. -/
def readPart (bytes : Bytes) : Option (Part × Bytes) := do
  let (name, rest) ← readName bytes
  if name = Text.Utf8.encode "key" then
    let (text, rest) ← readText rest
    return (.key text, rest)
  else if name = Text.Utf8.encode "value" then
    let (text, rest) ← readText rest
    return (.value text, rest)
  else
    let (_, rest) ← skip (depth - 2) rest
    return (.unknown, rest)

/-- The attribute that parts make up: there must be exactly one key and one value among them. -/
def ofParts? (parts : List Part) : Option Attribute :=
  match parts.filterMap Part.key?, parts.filterMap Part.value? with
  | [key], [value] => some ⟨key, value⟩
  | _, _ => none

/-- Reads an attribute. -/
def readAttribute (bytes : Bytes) : Option (Attribute × Bytes) := do
  match ← readUntagged bytes with
  | (.map size, rest) =>
    let (parts, rest) ← readSequence readPart size rest
    return (← ofParts? parts, rest)
  | _ => none

/-- **Reads a column.**  A byte string counts as an array of its bytes, so only an empty one will
do. -/
def read? (bytes : Bytes) : Option (List Attribute) := do
  match ← readUntagged bytes with
  | (.array size, rest) => return (← readSequence readAttribute size rest).1
  | (.bytes length, rest) =>
    let (content, _) ← readString false length rest
    if content = [] then some [] else none
  | _ => none

end Coffer.AttributeColumn
