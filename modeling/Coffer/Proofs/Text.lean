import Mathlib.Data.List.TakeDrop
import Coffer.Text.Utf8

/-!
# Proofs/Text — characters that are single bytes, and where texts are cut

A text whose bytes in UTF-8 are all below 128 has one byte for each character, and so has a text
whose characters are (`Text.map_charOf_encode`).  Characters are cut in front of the first one that
fails a test (`List.span_append_of_pos`).
-/

/-- **Items are cut** in front of the first one that fails the test. -/
theorem List.span_append_of_pos {α : Type} {p : α → Bool} {front back : List α}
    (hfront : ∀ item ∈ front, p item = true) (hback : ∀ item ∈ back.head?, p item = false) :
    (front ++ back).span p = (front, back) := by
  rw [List.span_eq_takeWhile_dropWhile, List.takeWhile_append_of_pos hfront,
    List.dropWhile_append_of_pos hfront]
  cases back with
  | nil => rw [List.takeWhile_nil, List.append_nil, List.dropWhile_nil]
  | cons item back =>
    have hitem : ¬ p item = true := by rw [hback item rfl]; exact Bool.false_ne_true
    rw [List.takeWhile_cons_of_neg hitem, List.append_nil, List.dropWhile_cons_of_neg hitem]

namespace Coffer.Text

/-- The character that a byte is by itself. -/
def charOf (byte : UInt8) : Char := Char.ofNat byte.toNat

theorem toNat_charOf (byte : UInt8) : (charOf byte).toNat = byte.toNat := by
  have hlt := byte.toNat_lt
  rw [charOf, Char.ofNat, dif_pos (.inl (by omega))]
  rfl

/-- The bytes of a character that is no single byte are no single bytes. -/
theorem toNat_lt_of_utf8EncodeChar {c : Char}
    (h : ∀ byte ∈ String.utf8EncodeChar c, byte.toNat < 128) : c.toNat < 128 := by
  by_contra hlarge
  have hval : 127 < c.val.toNat := by
    rw [Char.toNat_val]
    omega
  simp only [String.utf8EncodeChar, if_neg (Nat.not_le.2 hval)] at h
  split at h
  · have hfirst := h _ (List.mem_cons_self ..)
    rw [UInt8.toNat_ofNat'] at hfirst
    omega
  · split at h
    · have hfirst := h _ (List.mem_cons_self ..)
      rw [UInt8.toNat_ofNat'] at hfirst
      omega
    · have hfirst := h _ (List.mem_cons_self ..)
      rw [UInt8.toNat_ofNat'] at hfirst
      omega

variable {text : String}

theorem toNat_lt_of_mem_toList (h : ∀ byte ∈ Utf8.encode text, byte.toNat < 128) :
    ∀ c ∈ text.toList, c.toNat < 128 := by
  intro c hc
  rw [Utf8.encode_eq_flatMap] at h
  exact toNat_lt_of_utf8EncodeChar fun byte hbyte => h byte (List.mem_flatMap.2 ⟨c, hc, hbyte⟩)

/-- **A text of single bytes** has one byte for each character. -/
theorem map_charOf_encode (h : ∀ c ∈ text.toList, c.toNat < 128) :
    (Utf8.encode text).map charOf = text.toList := by
  rw [Utf8.encode_eq_flatMap]
  generalize text.toList = chars at h ⊢
  induction chars with
  | nil => rfl
  | cons c chars ih =>
    obtain ⟨hc, hchars⟩ := List.forall_mem_cons.1 h
    have hbyte : String.utf8EncodeChar c = [UInt8.ofNat c.toNat] :=
      if_pos (by rw [Char.toNat_val]; omega)
    have hchar : charOf (UInt8.ofNat c.toNat) = c := by
      rw [charOf, UInt8.toNat_ofNat', Nat.mod_eq_of_lt (by omega), Char.ofNat_toNat]
    rw [List.flatMap_cons, hbyte, List.map_append, ih hchars, List.map_singleton, hchar]
    rfl

end Coffer.Text
