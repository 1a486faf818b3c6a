import Coffer.Cbor.Head

/-!
# Cbor/Item — strings, sequences and items passed over

A string, an array or a map either announces its length or goes on until a stop.  `skip` passes over
one item of any kind; how deep items may be nested in it is limited.
-/

namespace Coffer.Cbor

/-! ## Strings -/

/-- The `length` bytes at the front; as a text they must be well-formed UTF-8. -/
def readPiece (isText : Bool) (length : Nat) (bytes : Bytes) : Option (Bytes × Bytes) :=
  let (piece, rest) := bytes.splitAt length
  if piece.length < length then none
  else if isText && (Text.Utf8.decode? piece).isNone then none
  else some (piece, rest)

/-- The length that the head of a string announces, if it is a string of the kind wanted. -/
def stringLength? (isText : Bool) : Head → Option (Option Nat)
  | .text length => if isText then some length else none
  | .bytes length => if isText then none else some length
  | _ => none

/-- The pieces of a string up to its stop, joined behind `found`; `nested` strings of unknown length
have been entered inside it.  Every piece is a string of the same kind. -/
def readPieces (isText : Bool) : (fuel nested : Nat) → (found bytes : Bytes) →
    Option (Bytes × Bytes)
  | 0, _, _, _ => none
  | fuel + 1, nested, found, bytes =>
    match Head.read bytes with
    | none => none
    | some (.stop, rest) =>
      match nested with
      | 0 => some (found, rest)
      | nested + 1 => readPieces isText fuel nested found rest
    | some (head, rest) =>
      match stringLength? isText head with
      | none => none
      | some none => readPieces isText fuel (nested + 1) found rest
      | some (some length) => do
        let (piece, rest) ← readPiece isText length rest
        readPieces isText fuel nested (found ++ piece) rest

/-- The content of a string whose head has been read. -/
def readString (isText : Bool) (length : Option Nat) (bytes : Bytes) : Option (Bytes × Bytes) :=
  match length with
  | some length => readPiece isText length bytes
  | none => readPieces isText (bytes.length + 1) 0 [] bytes

/-! ## Sequences -/

/-- Reads what an array or a map holds, up to its announced size or its stop.  Every element is at
least a byte long, so there is fuel for as many elements as there are bytes. -/
def readElements {α : Type} (element : Bytes → Option (α × Bytes)) :
    (fuel : Nat) → (size : Option Nat) → (bytes : Bytes) → Option (List α × Bytes)
  | 0, _, _ => none
  | _ + 1, some 0, bytes => some ([], bytes)
  | fuel + 1, some (size + 1), bytes => do
    let (first, rest) ← element bytes
    let (others, rest) ← readElements element fuel (some size) rest
    return (first :: others, rest)
  | fuel + 1, none, bytes =>
    match Head.read bytes with
    | some (.stop, rest) => some ([], rest)
    | _ => do
      let (first, rest) ← element bytes
      let (others, rest) ← readElements element fuel none rest
      return (first :: others, rest)

/-- The elements of an array or a map whose head has been read. -/
def readSequence {α : Type} (element : Bytes → Option (α × Bytes)) (size : Option Nat)
    (bytes : Bytes) : Option (List α × Bytes) :=
  readElements element (bytes.length + 1) size bytes

/-! ## Tags -/

/-- Reads the first head that is no tag. -/
def readUntagged (bytes : Bytes) : Option (Head × Bytes) :=
  match _h : Head.read bytes with
  | some (.tag _, rest) => readUntagged rest
  | other => other
termination_by bytes.length
decreasing_by exact Head.length_lt_of_read (by assumption)

/-- How many bytes a number has at most that is written as a byte string behind a tag. -/
def wideSize : Nat := 16

/-- How many negative numbers have that many bytes, one bit being the sign: `2 ^ 127`. -/
def negativeLimit : Nat := 0x80000000000000000000000000000000

/-- The length of the byte string behind a tag, if the two are a number: tag two makes a natural
number, tag three a negative one.  A longer byte string is an item of its own. -/
def wideLength? (tag : Nat) (bytes : Bytes) : Option (Nat × Bytes) :=
  match Head.read bytes with
  | some (.bytes (some length), rest) =>
    if (tag = 2 ∨ tag = 3) ∧ length ≤ wideSize then some (length, rest) else none
  | _ => none

/-- Passes over the `length` bytes of a number; a negative one must not be below all that have as
many bytes. -/
def skipWide (tag length : Nat) (bytes : Bytes) : Option (Unit × Bytes) := do
  let (digits, rest) ← readPiece false length bytes
  if tag = 3 ∧ negativeLimit ≤ Bytes.ofBigEndian digits then none else some ((), rest)

/-! ## Items -/

/-- The simple values that are known: false, true, null and undefined. -/
def knownSimple (number : Nat) : Bool := 20 ≤ number && number ≤ 23

/-- **Passes over one item**, in which arrays, maps and tagged items may be nested `depth` deep. -/
def skip : (depth : Nat) → (bytes : Bytes) → Option (Unit × Bytes)
  | depth, bytes => do
    match ← Head.read bytes with
    | (.positive _, rest) | (.negative _, rest) | (.float, rest) => some ((), rest)
    | (.simple number, rest) => if knownSimple number then some ((), rest) else none
    | (.bytes length, rest) => (readString false length rest).map fun (_, rest) => ((), rest)
    | (.text length, rest) => (readString true length rest).map fun (_, rest) => ((), rest)
    | (.array size, rest) =>
      match depth with
      | 0 => none
      | depth + 1 => (readSequence (skip depth) size rest).map fun (_, rest) => ((), rest)
    | (.map size, rest) =>
      match depth with
      | 0 => none
      | depth + 1 =>
        (readSequence (fun entry => do skip depth (← skip depth entry).2) size rest).map
          fun (_, rest) => ((), rest)
    | (.tag tag, rest) =>
      match wideLength? tag rest with
      | some (length, rest) => skipWide tag length rest
      | none =>
        match depth with
        | 0 => none
        | depth + 1 => skip depth rest
    | (.stop, _) => none

end Coffer.Cbor
