/-!
# Json/Value — values of the JSON notation

A **value** keeps what a reader can see of it: a number by its digits as written, an object by its
members in order, repeated names included.
-/

namespace Coffer

/-- **A JSON value**.  A string that spells half of a surrogate pair is well-formed but is no text;
its content is `none`. -/
inductive Json
  /-- The value `null`. -/
  | null
  /-- A truth value. -/
  | bool (value : Bool)
  /-- A number, as written. -/
  | number (digits : List Char)
  /-- A string. -/
  | string (content : Option (List Char))
  /-- An array. -/
  | array (items : List Json)
  /-- An object. -/
  | object (members : List (Option (List Char) × Json))

namespace Json

/-- A natural number. -/
def ofNat (value : Nat) : Json := number (toString value).toList

/-- A text. -/
def ofText (text : String) : Json := string (some text.toList)

/-- An object whose members have texts for names. -/
def record (members : List (String × Json)) : Json :=
  object (members.map fun (name, value) => (some name.toList, value))

/-- Whether a character is a decimal digit. -/
def isDigit (c : Char) : Bool := '0' ≤ c && c ≤ '9'

/-- The number that decimal digits spell. -/
def decimal (digits : List Char) : Nat :=
  digits.foldl (fun value c => 10 * value + (c.toNat - '0'.toNat)) 0

/-- The natural number that a value is, if it is written in digits alone. -/
def natural? : Json → Option Nat
  | number digits => if digits.all isDigit then some (decimal digits) else none
  | _ => none

/-- The values of the members with the given name, in order. -/
def membersNamed (name : String) (members : List (Option (List Char) × Json)) : List Json :=
  (members.filter fun member => member.1 == some name.toList).map Prod.snd

/-- The value of the member with the given name, if there is one; an object in which the name is
repeated, or in which some name is no text, is refused. -/
def member? (name : String) (members : List (Option (List Char) × Json)) : Option (Option Json) :=
  if members.all fun member => member.1.isSome then
    match membersNamed name members with
    | [] => some none
    | [value] => some (some value)
    | _ => none
  else none

end Json

end Coffer
