import Coffer.Json.Value

/-!
# Json/Writer — writing a JSON text

`compact` writes no white space at all; `pretty` puts every item and member on a line of its own,
two blanks further in than what encloses it.
-/

namespace Coffer.Json

/-- A character as it stands in a string. -/
def escaped (c : Char) : List Char :=
  if c = '"' ∨ c = '\\' then ['\\', c]
  else if c = '\x08' then ['\\', 'b']
  else if c = '\x0c' then ['\\', 'f']
  else if c = '\n' then ['\\', 'n']
  else if c = '\r' then ['\\', 'r']
  else if c = '\t' then ['\\', 't']
  else if c.toNat < 32 then
    ['\\', 'u', '0', '0', Nat.digitChar (c.toNat / 16), Nat.digitChar (c.toNat % 16)]
  else [c]

/-- A string in quotes; one that is no text is written as an empty one. -/
def writeString (content : Option (List Char)) : List Char :=
  '"' :: (content.getD []).flatMap escaped ++ ['"']

/-- What stands around the items of a value: after the opening mark, between two items, before the
closing mark, and behind a member's name. -/
structure Layout where
  (afterOpen between beforeClose colon : List Char)

/-- The layout without white space. -/
def Layout.compact : Layout := ⟨[], [','], [], [':']⟩

/-- The layout with lines, for a value that is nested `depth` deep. -/
def Layout.pretty (depth : Nat) : Layout :=
  let line (depth : Nat) := '\n' :: List.replicate (2 * depth) ' '
  ⟨line (depth + 1), ',' :: line (depth + 1), line depth, [':', ' ']⟩

/-- Written items between marks; nothing is put between the marks if there are no items. -/
def enclose (layout : Layout) (opening closing : Char) (items : List (List Char)) : List Char :=
  if items = [] then [opening, closing]
  else opening :: layout.afterOpen ++ layout.between.intercalate items ++ layout.beforeClose
    ++ [closing]

mutual

/-- A value in a layout that may depend on how deep it is nested. -/
def write (layout : Nat → Layout) (depth : Nat) : Json → List Char
  | null => ['n', 'u', 'l', 'l']
  | bool true => ['t', 'r', 'u', 'e']
  | bool false => ['f', 'a', 'l', 's', 'e']
  | number digits => digits
  | string content => writeString content
  | array items => enclose (layout depth) '[' ']' (writeItems layout (depth + 1) items)
  | object members =>
    enclose (layout depth) '\x7b' '\x7d'
      (writeMembers layout (layout depth).colon (depth + 1) members)

/-- The items of an array, each written. -/
def writeItems (layout : Nat → Layout) (depth : Nat) : List Json → List (List Char)
  | [] => []
  | item :: rest => write layout depth item :: writeItems layout depth rest

/-- The members of an object, each written. -/
def writeMembers (layout : Nat → Layout) (colon : List Char) (depth : Nat) :
    List (Option (List Char) × Json) → List (List Char)
  | [] => []
  | (name, value) :: rest =>
    (writeString name ++ colon ++ write layout depth value)
      :: writeMembers layout colon depth rest

end

/-- **A value without white space.** -/
def compact (value : Json) : String := String.ofList (write (fun _ => Layout.compact) 0 value)

/-- **A value on several lines.** -/
def pretty (value : Json) : String := String.ofList (write Layout.pretty 0 value)

end Coffer.Json
