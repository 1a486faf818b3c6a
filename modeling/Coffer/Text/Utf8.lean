import Coffer.Bytes

/-!
# Text/Utf8 — texts as byte strings

A text is written in UTF-8 and read back only from well-formed UTF-8, so reading undoes writing
(`decode?_encode`) and accepts nothing else (`decode?_eq_some_iff`).
-/

namespace Coffer.Text.Utf8

/-- The text in UTF-8. -/
def encode (text : String) : Bytes := text.toUTF8.data.toList

/-- The text that the bytes spell, if they are well-formed UTF-8. -/
def decode? (bytes : Bytes) : Option String := String.fromUTF8? ⟨bytes.toArray⟩

/-- **Reading is exact**: bytes read as a text just when they are that text in UTF-8. -/
theorem decode?_eq_some_iff {bytes : Bytes} {text : String} :
    decode? bytes = some text ↔ bytes = encode text := by
  unfold decode? encode String.fromUTF8? String.toUTF8
  split
  · rename_i h
    constructor
    · intro e
      cases e
      rfl
    · rintro rfl
      rfl
  · rename_i h
    simp only [reduceCtorEq, false_iff]
    rintro rfl
    exact h text.isValidUTF8

@[simp] theorem decode?_encode (text : String) : decode? (encode text) = some text :=
  decode?_eq_some_iff.2 rfl

/-- The bytes of a text are those of its characters, one after the other. -/
theorem encode_eq_flatMap (text : String) :
    encode text = text.toList.flatMap String.utf8EncodeChar := by
  rw [encode, String.toUTF8, ← String.utf8Encode_toList, List.utf8Encode,
    List.toList_data_toByteArray]

theorem encode_injective {a b : String} (h : encode a = encode b) : a = b := by
  have := decode?_encode a
  rw [h, decode?_encode] at this
  exact (Option.some.inj this).symm

end Coffer.Text.Utf8
