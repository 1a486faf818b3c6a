import Coffer.Json.Value

/-!
# Json/Reader — reading a JSON text

The grammar of JSON without a limit on the size of numbers or on nesting.  Every reader takes the
characters that are left and gives back those it did not use.
-/

namespace Coffer.Json

/-! ## White space and numbers -/

/-- Whether a character is white space between tokens. -/
def isSpace (c : Char) : Bool := c == ' ' || c == '\n' || c == '\t' || c == '\r'

/-- The characters after any white space. -/
def skipSpace (chars : List Char) : List Char := chars.dropWhile isSpace

/-- One digit or more. -/
def readDigits (chars : List Char) : Option (List Char × List Char) :=
  match chars.span isDigit with
  | ([], _) => none
  | found => some found

/-- The whole part of a number: zero, or digits that do not begin with zero. -/
def readWhole : List Char → Option (List Char × List Char)
  | '0' :: rest => some (['0'], rest)
  | chars => readDigits chars

/-- The part of a number behind its point, if there is a point. -/
def readFraction : List Char → Option (List Char × List Char)
  | '.' :: rest => do
    let (digits, rest) ← readDigits rest
    return ('.' :: digits, rest)
  | chars => some ([], chars)

/-- The sign of an exponent, if there is one. -/
def readSign : List Char → List Char × List Char
  | '+' :: rest => (['+'], rest)
  | '-' :: rest => (['-'], rest)
  | chars => ([], chars)

/-- The exponent of a number, if it has one. -/
def readExponent : List Char → Option (List Char × List Char)
  | [] => some ([], [])
  | mark :: rest =>
    if mark == 'e' || mark == 'E' then do
      let (sign, rest) := readSign rest
      let (digits, rest) ← readDigits rest
      return (mark :: (sign ++ digits), rest)
    else some ([], mark :: rest)

/-- A number that has no sign in front. -/
def readUnsigned (chars : List Char) : Option (List Char × List Char) := do
  let (whole, rest) ← readWhole chars
  let (fraction, rest) ← readFraction rest
  let (exponent, rest) ← readExponent rest
  return (whole ++ fraction ++ exponent, rest)

/-- A number, as written. -/
def readNumber : List Char → Option (List Char × List Char)
  | '-' :: rest => do
    let (digits, rest) ← readUnsigned rest
    return ('-' :: digits, rest)
  | chars => readUnsigned chars

/-! ## Strings -/

/-- What a string is made of: a character, or a number of sixteen bits that was written as one. -/
inductive Piece
  /-- A character that stands for itself or is written by a short escape. -/
  | char (c : Char)
  /-- A number written in four hexadecimal digits. -/
  | unit (value : Nat)

/-- The value of a hexadecimal digit, in either case. -/
def hexValue? (c : Char) : Option Nat :=
  if isDigit c then some (c.toNat - '0'.toNat)
  else if 'a' ≤ c ∧ c ≤ 'f' then some (c.toNat - 'a'.toNat + 10)
  else if 'A' ≤ c ∧ c ≤ 'F' then some (c.toNat - 'A'.toNat + 10)
  else none

/-- The number of four hexadecimal digits. -/
def unitValue? (a b c d : Char) : Option Nat := do
  return 4096 * (← hexValue? a) + 256 * (← hexValue? b) + 16 * (← hexValue? c) + (← hexValue? d)

/-- The character that a short escape stands for. -/
def escape? : Char → Option Char
  | '"' => some '"'
  | '\\' => some '\\'
  | '/' => some '/'
  | 'b' => some '\x08'
  | 'f' => some '\x0c'
  | 'n' => some '\n'
  | 'r' => some '\r'
  | 't' => some '\t'
  | _ => none

/-- The pieces of a string up to its closing quote.  A control character has to be escaped. -/
def readPieces : List Char → Option (List Piece × List Char)
  | [] => none
  | '"' :: rest => some ([], rest)
  | '\\' :: 'u' :: a :: b :: c :: d :: rest => do
    let value ← unitValue? a b c d
    let (pieces, rest) ← readPieces rest
    return (.unit value :: pieces, rest)
  | '\\' :: c :: rest => do
    let escaped ← escape? c
    let (pieces, rest) ← readPieces rest
    return (.char escaped :: pieces, rest)
  | c :: rest =>
    if c.toNat < 32 then none
    else do
      let (pieces, rest) ← readPieces rest
      return (.char c :: pieces, rest)

/-- The text that pieces spell.  Two numbers that are a surrogate pair spell one character; a
surrogate that is not in a pair spells none, and then there is no text. -/
def spell? : List Piece → Option (List Char)
  | [] => some []
  | .char c :: rest => (spell? rest).map (c :: ·)
  | .unit value :: rest =>
    if value < 0xd800 ∨ 0xdfff < value then (spell? rest).map (Char.ofNat value :: ·)
    else match rest with
      | .unit low :: rest =>
        if value < 0xdc00 ∧ 0xdc00 ≤ low ∧ low ≤ 0xdfff then
          (spell? rest).map
            (Char.ofNat (0x10000 + 1024 * (value - 0xd800) + (low - 0xdc00)) :: ·)
        else none
      | _ => none

/-- A string whose opening quote has been read. -/
def readString (chars : List Char) : Option (Option (List Char) × List Char) := do
  let (pieces, rest) ← readPieces chars
  return (spell? pieces, rest)

/-! ## Arrays and objects -/

/-- Items with commas in between, up to the closing mark; there is at least one. -/
def readItems {α : Type} (item : List Char → Option (α × List Char)) (close : Char) :
    (fuel : Nat) → List Char → Option (List α × List Char)
  | 0, _ => none
  | fuel + 1, chars => do
    let (first, rest) ← item chars
    match skipSpace rest with
    | [] => none
    | mark :: rest =>
      if mark == close then return ([first], rest)
      else if mark == ',' then
        let (others, rest) ← readItems item close fuel rest
        return (first :: others, rest)
      else none

/-- What stands between an opening mark that has been read and the closing one. -/
def readEnclosed {α : Type} (item : List Char → Option (α × List Char)) (close : Char)
    (chars : List Char) : Option (List α × List Char) :=
  match skipSpace chars with
  | [] => none
  | mark :: rest =>
    if mark == close then some ([], rest) else readItems item close chars.length chars

/-- A member of an object: a string, a colon and a value. -/
def readMember (value : List Char → Option (Json × List Char)) (chars : List Char) :
    Option ((Option (List Char) × Json) × List Char) :=
  match skipSpace chars with
  | '"' :: rest => do
    let (name, rest) ← readString rest
    match skipSpace rest with
    | ':' :: rest =>
      let (content, rest) ← value rest
      return ((name, content), rest)
    | _ => none
  | _ => none

/-! ## Values -/

/-- A value, after white space, in which values may be nested `depth` deep. -/
def readValue (depth : Nat) (chars : List Char) : Option (Json × List Char) :=
  match skipSpace chars with
  | 'n' :: 'u' :: 'l' :: 'l' :: rest => some (null, rest)
  | 't' :: 'r' :: 'u' :: 'e' :: rest => some (bool true, rest)
  | 'f' :: 'a' :: 'l' :: 's' :: 'e' :: rest => some (bool false, rest)
  | '"' :: rest => (readString rest).map fun (content, rest) => (string content, rest)
  | '[' :: rest =>
    match depth with
    | 0 => none
    | depth + 1 =>
      (readEnclosed (readValue depth) ']' rest).map fun (items, rest) => (array items, rest)
  | '\x7b' :: rest =>
    match depth with
    | 0 => none
    | depth + 1 =>
      (readEnclosed (readMember (readValue depth)) '\x7d' rest).map
        fun (members, rest) => (object members, rest)
  | chars => (readNumber chars).map fun (digits, rest) => (number digits, rest)

/-- **Reads a JSON text**: one value, and nothing but white space around it. -/
def ofText? (text : String) : Option Json :=
  let chars := text.toList
  match readValue chars.length chars with
  | some (value, rest) => if skipSpace rest = [] then some value else none
  | none => none

end Coffer.Json
