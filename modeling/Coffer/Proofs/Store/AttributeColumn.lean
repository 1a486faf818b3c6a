import Coffer.Proofs.Cbor.RoundTrip
import Coffer.Store.AttributeColumn

/-!
# Proofs/Store/AttributeColumn — attributes read back from their column

The attributes of an object read back from the column in which a table keeps them, in their order,
provided that their number and the lengths of their texts are numbers that a head can carry.
-/

namespace Coffer.AttributeColumn

open Cbor

/-! ## Texts -/

/-- **A text is sized** when a head can carry its length. -/
def Sized (text : String) : Prop := (Text.Utf8.encode text).length < Head.numberLimit

/-- A character takes four bytes at most. -/
theorem length_encode_le (text : String) :
    (Text.Utf8.encode text).length ≤ 4 * text.length := by
  rw [Text.Utf8.encode_eq_flatMap, List.length_flatMap, ← String.length_toList]
  induction text.toList with
  | nil => exact Nat.le_refl 0
  | cons char chars ih =>
    have hchar := char.utf8Size_le_four
    simp only [List.map_cons, List.sum_cons, String.length_utf8EncodeChar, List.length_cons] at *
    omega

/-- How many characters a text may have to be sized in any case: `2 ^ 62`. -/
def characterLimit : Nat := 0x4000000000000000

theorem sized_of_length_lt {text : String} (h : text.length < characterLimit) : Sized text := by
  have hbytes := length_encode_le text
  simp only [Sized, Head.numberLimit, characterLimit] at *
  omega

theorem readUntagged_writeText {text : String} (h : Sized text) (rest : Bytes) :
    readUntagged (writeText text ++ rest)
      = some (.text (some (Text.Utf8.encode text).length), Text.Utf8.encode text ++ rest) := by
  rw [writeText, List.append_assoc]
  exact readUntagged_of_read (Head.read_write_append (by decide) h (fun _ => rfl) _)
    (fun number => by simp)

theorem readPiece_encode (text : String) (rest : Bytes) :
    readPiece true (Text.Utf8.encode text).length (Text.Utf8.encode text ++ rest)
      = some (Text.Utf8.encode text, rest) :=
  readPiece_append (fun _ => by rw [Text.Utf8.decode?_encode, Option.isSome_some]) rest

theorem readText_writeText {text : String} (h : Sized text) (rest : Bytes) :
    readText (writeText text ++ rest) = some (text, rest) := by
  simp only [readText, readUntagged_writeText h, bind, Option.bind, readString,
    readPiece_encode, Text.Utf8.decode?_encode, pure]

theorem readName_writeText {name : String} (h : (Text.Utf8.encode name).length ≤ nameLimit)
    (rest : Bytes) :
    readName (writeText name ++ rest) = some (Text.Utf8.encode name, rest) := by
  have hsized : Sized name := Nat.lt_of_le_of_lt h (by decide)
  simp only [readName, readUntagged_writeText hsized, bind, Option.bind, if_pos h,
    readPiece_encode]

/-! ## Attributes -/

/-- **An attribute is sized** when its texts are. -/
structure SizedAttribute (entry : Attribute) : Prop where
  /-- The key is short enough. -/
  key : Sized entry.key
  /-- The value is short enough. -/
  value : Sized entry.value

/-- What an entry of a map is written as. -/
def writePart : Part → Bytes
  | .key text => writeText "key" ++ writeText text
  | .value text => writeText "value" ++ writeText text
  | .unknown => []

theorem readPart_key {text : String} (h : Sized text) (rest : Bytes) :
    readPart (writePart (.key text) ++ rest) = some (.key text, rest) := by
  have hname : (Text.Utf8.encode "key").length ≤ nameLimit := by decide
  rw [writePart, List.append_assoc, readPart, readName_writeText hname]
  simp only [bind, Option.bind, ↓reduceIte, readText_writeText h, pure]

theorem readPart_value {text : String} (h : Sized text) (rest : Bytes) :
    readPart (writePart (.value text) ++ rest) = some (.value text, rest) := by
  have hname : (Text.Utf8.encode "value").length ≤ nameLimit := by decide
  have hne : Text.Utf8.encode "value" ≠ Text.Utf8.encode "key" := by decide
  rw [writePart, List.append_assoc, readPart, readName_writeText hname]
  simp only [bind, Option.bind, if_neg hne, ↓reduceIte, readText_writeText h, pure]

theorem writeText_ne_nil (text : String) : writeText text ≠ [] :=
  List.append_ne_nil_of_left_ne_nil (Head.write_ne_nil _ _) _

theorem writeAttribute_eq (entry : Attribute) : writeAttribute entry
    = Head.write 5 2 ++ [Part.key entry.key, Part.value entry.value].flatMap writePart := by
  simp only [writeAttribute, writePart, List.flatMap_cons, List.flatMap_nil, List.append_assoc,
    List.append_nil]

theorem writeAttribute_ne_nil (entry : Attribute) : writeAttribute entry ≠ [] := by
  rw [writeAttribute_eq]
  exact List.append_ne_nil_of_left_ne_nil (Head.write_ne_nil _ _) _

/-- **An attribute reads back**, and what follows it is left. -/
theorem readAttribute_writeAttribute {entry : Attribute} (h : SizedAttribute entry)
    (rest : Bytes) : readAttribute (writeAttribute entry ++ rest) = some (entry, rest) := by
  have hhead (bytes : Bytes) :
      readUntagged (Head.write 5 2 ++ bytes) = some (.map (some 2), bytes) :=
    readUntagged_of_read (Head.read_write_append (by decide) (by decide) (fun _ => rfl) bytes)
      (fun number => by simp)
  have hparts : readSequence readPart (some 2)
      ([Part.key entry.key, Part.value entry.value].flatMap writePart ++ rest)
      = some ([Part.key entry.key, Part.value entry.value].map id, rest) := by
    refine readSequence_flatMap ?_ ?_ rest
    · intro part hmem
      rcases List.mem_pair.1 hmem with rfl | rfl
      · exact readPart_key h.key
      · exact readPart_value h.value
    · intro part hmem
      rcases List.mem_pair.1 hmem with rfl | rfl <;>
        exact List.append_ne_nil_of_left_ne_nil (writeText_ne_nil _) _
  rw [writeAttribute_eq, List.append_assoc, readAttribute, hhead]
  simp only [bind, Option.bind, hparts]
  rfl

/-! ## Columns -/

/-- **A list of attributes is sized** when its entries are and their number is. -/
structure SizedColumn (attributes : List Attribute) : Prop where
  /-- There are few enough. -/
  length : attributes.length < Head.numberLimit
  /-- All of them are sized. -/
  entries : ∀ entry ∈ attributes, SizedAttribute entry

/-- One attribute with a short key and a short value is sized. -/
theorem sizedColumn_singleton {key value : String} (hkey : key.length < characterLimit)
    (hvalue : value.length < characterLimit) : SizedColumn [⟨key, value⟩] where
  length := (by decide : 1 < Head.numberLimit)
  entries := List.forall_mem_singleton.2 ⟨sized_of_length_lt hkey, sized_of_length_lt hvalue⟩

/-- **A column reads back.** -/
theorem read?_write {attributes : List Attribute} (h : SizedColumn attributes) :
    read? (write attributes) = some attributes := by
  have hhead (bytes : Bytes) : readUntagged (Head.write 4 attributes.length ++ bytes)
      = some (.array (some attributes.length), bytes) :=
    readUntagged_of_read (Head.read_write_append (by decide) h.length (fun _ => rfl) bytes)
      (fun number => by simp)
  have hentries : readSequence readAttribute (some attributes.length)
      (attributes.flatMap writeAttribute ++ []) = some (attributes.map id, []) :=
    readSequence_flatMap
      (fun entry hmem => readAttribute_writeAttribute (h.entries entry hmem))
      (fun entry _ => writeAttribute_ne_nil entry) []
  rw [List.append_nil, List.map_id] at hentries
  rw [read?, write, hhead]
  simp only [bind, Option.bind, hentries, pure]

end Coffer.AttributeColumn
