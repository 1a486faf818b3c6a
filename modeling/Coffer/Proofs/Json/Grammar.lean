import Coffer.Json.Reader

/-!
# Proofs/Json/Grammar — which characters spell which value

The notation on its own, without a reader or a writer.  A value is **spelled** by characters without
white space at either end (`Json.Spells`); between two tokens there may be white space of any
length.  A **text** of a value has white space around it too (`Json.IsText`).  Nothing bounds the
length of a number or how deep values are nested.
-/

namespace Coffer.Json

/-- **White space**, which may be empty. -/
def Space (chars : List Char) : Prop := ∀ c ∈ chars, isSpace c = true

/-! ## Numbers -/

/-- One digit or more. -/
def Digits (chars : List Char) : Prop := chars ≠ [] ∧ ∀ c ∈ chars, isDigit c = true

/-- The whole part of a number: zero, or digits that do not begin with zero. -/
def Whole (chars : List Char) : Prop :=
  chars = ['0'] ∨ Digits chars ∧ ∀ c ∈ chars.head?, c ≠ '0'

/-- The part of a number behind its point, if there is a point. -/
inductive Fraction : List Char → Prop
  | none : Fraction []
  | some {digits : List Char} (hdigits : Digits digits) : Fraction ('.' :: digits)

/-- The exponent of a number, if it has one. -/
inductive Exponent : List Char → Prop
  | none : Exponent []
  | some {mark : Char} {sign digits : List Char} (hmark : mark = 'e' ∨ mark = 'E')
    (hsign : sign ∈ [[], ['+'], ['-']]) (hdigits : Digits digits) :
    Exponent (mark :: (sign ++ digits))

/-- A number that has no sign in front. -/
inductive Unsigned : List Char → Prop
  | mk {whole fraction exponent : List Char} (hwhole : Whole whole)
    (hfraction : Fraction fraction) (hexponent : Exponent exponent) :
    Unsigned (whole ++ (fraction ++ exponent))

/-- **A number.** -/
inductive Number : List Char → Prop
  | plain {chars : List Char} (h : Unsigned chars) : Number chars
  | negative {chars : List Char} (h : Unsigned chars) : Number ('-' :: chars)

/-! ## Strings -/

/-- What spells a piece of a string: a character that needs no escape, a short escape, or the number
of a character in four hexadecimal digits. -/
inductive SpellsPiece : List Char → Piece → Prop
  | plain {c : Char} (hquote : c ≠ '"') (hslash : c ≠ '\\') (hcontrol : 32 ≤ c.toNat) :
    SpellsPiece [c] (.char c)
  | escape {c meant : Char} (h : escape? c = some meant) : SpellsPiece ['\\', c] (.char meant)
  | unit {a b c d : Char} {value : Nat} (h : unitValue? a b c d = some value) :
    SpellsPiece ['\\', 'u', a, b, c, d] (.unit value)

/-- What spells the pieces of a string, one after the other. -/
inductive SpellsPieces : List Char → List Piece → Prop
  | nil : SpellsPieces [] []
  | cons {chars others : List Char} {piece : Piece} {pieces : List Piece}
    (hpiece : SpellsPiece chars piece) (hothers : SpellsPieces others pieces) :
    SpellsPieces (chars ++ others) (piece :: pieces)

/-! ## Values -/

/-- **Items in white space**, with commas in between; there is at least one. -/
inductive Listed {α : Type} (Item : List Char → α → Prop) : List Char → List α → Prop
  | last {before chars after : List Char} {item : α} (hbefore : Space before)
    (hitem : Item chars item) (hafter : Space after) :
    Listed Item (before ++ (chars ++ after)) [item]
  | cons {before chars after others : List Char} {item : α} {items : List α}
    (hbefore : Space before) (hitem : Item chars item) (hafter : Space after)
    (hothers : Listed Item others items) :
    Listed Item (before ++ (chars ++ (after ++ ',' :: others))) (item :: items)

/-- A member of an object: a string, a colon and a value. -/
inductive SpellsMember (Value : List Char → Json → Prop) :
    List Char → Option (List Char) × Json → Prop
  | mk {name before after chars : List Char} {pieces : List Piece} {value : Json}
    (hname : SpellsPieces name pieces) (hbefore : Space before) (hafter : Space after)
    (hvalue : Value chars value) :
    SpellsMember Value ('"' :: (name ++ '"' :: (before ++ ':' :: (after ++ chars))))
      (spell? pieces, value)

/-- **What spells a value**, from its first character to its last. -/
inductive Spells : List Char → Json → Prop
  | null : Spells ['n', 'u', 'l', 'l'] null
  | true : Spells ['t', 'r', 'u', 'e'] (bool true)
  | false : Spells ['f', 'a', 'l', 's', 'e'] (bool false)
  | number {digits : List Char} (h : Number digits) : Spells digits (number digits)
  | string {chars : List Char} {pieces : List Piece} (h : SpellsPieces chars pieces) :
    Spells ('"' :: (chars ++ ['"'])) (string (spell? pieces))
  | emptyArray {space : List Char} (h : Space space) : Spells ('[' :: (space ++ [']'])) (array [])
  | array {chars : List Char} {items : List Json} (h : Listed Spells chars items) :
    Spells ('[' :: (chars ++ [']'])) (array items)
  | emptyObject {space : List Char} (h : Space space) :
    Spells ('\x7b' :: (space ++ ['\x7d'])) (object [])
  | object {chars : List Char} {members : List (Option (List Char) × Json)}
    (h : Listed (SpellsMember Spells) chars members) :
    Spells ('\x7b' :: (chars ++ ['\x7d'])) (object members)

/-- **A text of a value**: what spells it, in white space. -/
def IsText (text : String) (value : Json) : Prop :=
  ∃ before chars after, Space before ∧ Spells chars value ∧ Space after
    ∧ text.toList = before ++ (chars ++ after)

end Coffer.Json
