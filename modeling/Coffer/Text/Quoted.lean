import Coffer.Text.Unprinted

/-!
# Text/Quoted — texts and characters shown in quotes

A quoted text is readable on one line: the mark that encloses it and the backslash are escaped,
NUL, tab, line feed and carriage return have short names, and an unprinted character stands by
its number in hexadecimal.
-/

namespace Coffer.Text

/-- The number of a character, in hexadecimal between braces. -/
def numbered (c : Char) : List Char :=
  ['\\', 'u', '\x7b'] ++ Nat.toDigits 16 c.toNat ++ ['\x7d']

/-- A character as it stands inside quotes made of `mark`. -/
def escaped (mark c : Char) : List Char :=
  if c = '\x00' then ['\\', '0']
  else if c = '\t' then ['\\', 't']
  else if c = '\r' then ['\\', 'r']
  else if c = '\n' then ['\\', 'n']
  else if c = '\\' ∨ c = mark then ['\\', c]
  else if isUnprinted c then numbered c
  else [c]

/-- The characters between two marks, each escaped where it has to be. -/
def enclosed (mark : Char) (chars : List Char) : String :=
  String.ofList (mark :: chars.flatMap (escaped mark) ++ [mark])

/-- A text in double quotes. -/
def quoted (text : String) : String := enclosed '"' text.toList

/-- A character in single quotes. -/
def quotedChar (c : Char) : String := enclosed '\'' [c]

end Coffer.Text
