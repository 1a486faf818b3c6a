import Coffer.Address
import Coffer.Proofs.Hex

/-!
# Proofs/Address — which texts are addresses, and what is wrong with the others

A text is an address when it is two identifiers in hexadecimal with a slash in between.  Of another
text without a slash this is what is reported; of one with a slash what is wrong with the half in
front of the first slash, or if nothing is, what is wrong with the half behind it
(`Address.ofText_exact`).
-/

namespace Coffer

/-! ## Identifiers -/

namespace Identifier

variable {named : Named} {text : String}

/-- **Reading an identifier is exact**: a text reads as one just when it spells its bytes. -/
theorem ofHex_eq_ok_iff {id : Identifier named} :
    ofHex named text = .ok id ↔ Hex.Spells text.toList id.bytes := by
  rw [ofHex, Except.bind_pure_eq_ok_iff]
  constructor
  · rintro ⟨block, hblock, rfl⟩
    exact Hex.decodeBlock_eq_ok_iff.1 hblock
  · intro h
    exact ⟨id.block, Hex.decodeBlock_eq_ok_iff.2 h, rfl⟩

theorem ofHex_eq_error_iff {fault : Hex.Fault} :
    ofHex named text = .error fault ↔ Hex.Flaw 32 (Text.Utf8.encode text) fault := by
  rw [ofHex, Except.bind_pure_eq_error_iff, Hex.decodeBlock_eq_error_iff]

/-- What is written of an identifier spells its bytes. -/
theorem spells_toHex (id : Identifier named) : Hex.Spells id.toHex.toList id.bytes := by
  rw [toHex, Hex.encode, String.toList_ofList]
  exact Hex.spells_flatMap_byteDigits id.bytes

end Identifier

namespace Address

/-! ## Halves -/

variable {text : String} {front back : List Char}

theorem half_eq_ok_iff {named : Named} {digits : List Char} {id : Identifier named} :
    half named digits = .ok id ↔ Hex.Spells digits id.bytes := by
  rw [half, Except.mapError_eq_ok_iff, Identifier.ofHex_eq_ok_iff, String.toList_ofList]

theorem half_eq_error_iff {named : Named} {digits : List Char} {error : AddressError} :
    half named digits = .error error
      ↔ ∃ fault, Hex.Flaw 32 (Text.Utf8.encode (String.ofList digits)) fault
        ∧ .hex fault = error := by
  simp only [half, Except.mapError_eq_error_iff, Identifier.ofHex_eq_error_iff]

/-- No digit is a slash. -/
theorem slash_notMem_of_spells {bytes : Bytes} (h : Hex.Spells front bytes) : '/' ∉ front := by
  intro hmem
  obtain ⟨value, hdigit⟩ := h.exists_digit _ hmem
  exact absurd hdigit.mem (by decide)

/-! ## The slash -/

theorem ofText_of_notMem (h : '/' ∉ text.toList) : ofText text = .error (.noSeparator text) := by
  have hspan : (text.toList ++ []).span (· != '/') = (text.toList, []) :=
    List.span_append_of_pos (fun c hc => bne_iff_ne.2 fun hslash => h (hslash ▸ hc)) nofun
  rw [List.append_nil] at hspan
  simp only [ofText, hspan]

theorem ofText_of_eq_append (h : text.toList = front ++ '/' :: back) (hfront : '/' ∉ front) :
    ofText text = half .container front >>= fun container =>
      half .object back >>= fun object => pure ⟨container, object⟩ := by
  have hspan : (front ++ '/' :: back).span (· != '/') = (front, '/' :: back) :=
    List.span_append_of_pos (fun c hc => bne_iff_ne.2 fun hslash => hfront (hslash ▸ hc))
      (by rintro _ ⟨⟩; rfl)
  rw [← h] at hspan
  simp only [ofText, hspan]

/-- The half in front of the slash is looked at first. -/
theorem ofText_eq_error_iff_of_eq_append (h : text.toList = front ++ '/' :: back)
    (hfront : '/' ∉ front) {cause : AddressError} :
    ofText text = .error cause ↔ half .container front = .error cause
      ∨ (∃ container, half .container front = .ok container)
        ∧ half .object back = .error cause := by
  rw [ofText_of_eq_append h hfront, Except.bind_eq_error_iff]
  simp only [Except.bind_pure_eq_error_iff, exists_and_right]

/-- What is written is cut at its slash again. -/
theorem toList_toText (address : Address) :
    address.toText.toList
      = address.container.toHex.toList ++ '/' :: address.object.toHex.toList := by
  rw [toText, String.toList_append, String.toList_append, List.append_assoc]
  rfl

/-- **A text is an address** when it spells the bytes of its container and those of its object, with
a slash in between. -/
theorem ofText_eq_ok_iff {address : Address} :
    ofText text = .ok address ↔ ∃ front back, text.toList = front ++ '/' :: back
      ∧ Hex.Spells front address.container.bytes ∧ Hex.Spells back address.object.bytes := by
  constructor
  · intro h
    by_cases hslash : '/' ∈ text.toList
    · obtain ⟨front, back, htext, hfront⟩ := List.eq_append_cons_of_mem hslash
      rw [ofText_of_eq_append htext hfront] at h
      obtain ⟨container, hcontainer, h⟩ := Except.bind_eq_ok_iff.1 h
      obtain ⟨object, hobject, rfl⟩ := Except.bind_pure_eq_ok_iff.1 h
      exact ⟨front, back, htext, half_eq_ok_iff.1 hcontainer, half_eq_ok_iff.1 hobject⟩
    · rw [ofText_of_notMem hslash] at h
      cases h
  · rintro ⟨front, back, htext, hfront, hback⟩
    rw [ofText_of_eq_append htext (slash_notMem_of_spells hfront), half_eq_ok_iff.2 hfront,
      half_eq_ok_iff.2 hback]
    rfl

/-- **What is reported of a half**: the one in front of the first slash, if something is wrong with
it, and otherwise the one behind. -/
theorem ofText_eq_hex_iff {fault : Hex.Fault} :
    ofText text = .error (.hex fault) ↔ ∃ front back, text.toList = front ++ '/' :: back
      ∧ '/' ∉ front
      ∧ (Hex.Flaw 32 (Text.Utf8.encode (String.ofList front)) fault
        ∨ (∃ container : ContainerId, Hex.Spells front container.bytes)
          ∧ Hex.Flaw 32 (Text.Utf8.encode (String.ofList back)) fault) := by
  have hhalves {front back : List Char} (h : text.toList = front ++ '/' :: back)
      (hfront : '/' ∉ front) :
      ofText text = .error (.hex fault)
        ↔ Hex.Flaw 32 (Text.Utf8.encode (String.ofList front)) fault
          ∨ (∃ container : ContainerId, Hex.Spells front container.bytes)
            ∧ Hex.Flaw 32 (Text.Utf8.encode (String.ofList back)) fault := by
    simp only [ofText_eq_error_iff_of_eq_append h hfront, half_eq_error_iff, half_eq_ok_iff,
      AddressError.hex.injEq, exists_eq_right]
  constructor
  · intro h
    by_cases hslash : '/' ∈ text.toList
    · obtain ⟨front, back, htext, hfront⟩ := List.eq_append_cons_of_mem hslash
      exact ⟨front, back, htext, hfront, (hhalves htext hfront).1 h⟩
    · rw [ofText_of_notMem hslash] at h
      cases h
  · rintro ⟨front, back, htext, hfront, h⟩
    exact (hhalves htext hfront).2 h

theorem ofText_eq_noSeparator_iff {shown : String} :
    ofText text = .error (.noSeparator shown) ↔ '/' ∉ text.toList ∧ shown = text := by
  by_cases hslash : '/' ∈ text.toList
  · refine iff_of_false ?_ fun h => h.1 hslash
    obtain ⟨front, back, htext, hfront⟩ := List.eq_append_cons_of_mem hslash
    simp only [ofText_eq_error_iff_of_eq_append htext hfront, half_eq_error_iff, reduceCtorEq,
      and_false, exists_false, or_self, not_false_iff]
  · simp only [ofText_of_notMem hslash, Except.error.injEq, AddressError.noSeparator.injEq, hslash,
      not_false_iff, true_and, eq_comm]

/-- **Reading addresses is exact.**  What is written reads back.  A text reads as an address just
when it spells its container and its object in digits of either case, with a slash in between, and
then it is what is written but for the case.  A text is reported to have no slash just when it has
none.  All else that is reported is what is wrong with the bytes of the half in front of the first
slash, or if that is an identifier, of the half behind it; identifiers of every kind are read and
reported on in this way. -/
theorem ofText_exact :
    (∀ address : Address, ofText address.toText = .ok address)
      ∧ (∀ text address, ofText text = .ok address ↔ ∃ front back,
        text.toList = front ++ '/' :: back ∧ front.length = 64 ∧ back.length = 64
          ∧ Hex.Spells front address.container.bytes ∧ Hex.Spells back address.object.bytes)
      ∧ (∀ text address, ofText text = .ok address → address.toText = text.toLower)
      ∧ (∀ text, (∃ shown, ofText text = .error (.noSeparator shown)) ↔ '/' ∉ text.toList)
      ∧ (∀ text shown, ofText text = .error (.noSeparator shown) → shown = text)
      ∧ (∀ text fault, ofText text = .error (.hex fault) ↔ ∃ front back,
        text.toList = front ++ '/' :: back ∧ '/' ∉ front
          ∧ (Hex.Flaw 32 (Text.Utf8.encode (String.ofList front)) fault
            ∨ (∃ container : ContainerId, Hex.Spells front container.bytes)
              ∧ Hex.Flaw 32 (Text.Utf8.encode (String.ofList back)) fault))
      ∧ ∀ named text,
        (∀ id, Identifier.ofHex named text = .ok id ↔ Hex.Spells text.toList id.bytes)
          ∧ ∀ fault, Identifier.ofHex named text = .error fault
            ↔ Hex.Flaw 32 (Text.Utf8.encode text) fault := by
  have hlength {named : Named} {digits : List Char} {id : Identifier named}
      (h : Hex.Spells digits id.bytes) : digits.length = 64 := by
    rw [h.length_eq, Identifier.bytes, id.block.length_bytes]
  refine ⟨fun address => ?_, fun text address => ?_, fun text address h => ?_, fun text => ?_,
    fun text shown h => (ofText_eq_noSeparator_iff.1 h).2, fun text fault => ofText_eq_hex_iff,
    fun named text => ⟨fun id => Identifier.ofHex_eq_ok_iff, fun fault =>
      Identifier.ofHex_eq_error_iff⟩⟩
  · exact ofText_eq_ok_iff.2 ⟨_, _, address.toList_toText, address.container.spells_toHex,
      address.object.spells_toHex⟩
  · rw [ofText_eq_ok_iff]
    constructor
    · rintro ⟨front, back, htext, hfront, hback⟩
      exact ⟨front, back, htext, hlength hfront, hlength hback, hfront, hback⟩
    · rintro ⟨front, back, htext, -, -, hfront, hback⟩
      exact ⟨front, back, htext, hfront, hback⟩
  · obtain ⟨front, back, htext, hfront, hback⟩ := ofText_eq_ok_iff.1 h
    have hlower : text.toLower.toList = text.toList.map Char.toLower := String.toList_map
    rw [← String.toList_inj, toList_toText, hlower, htext, List.map_append, List.map_cons,
      hfront.map_toLower, hback.map_toLower]
    simp only [Identifier.toHex, Hex.encode, String.toList_ofList]
    rfl
  · simp only [ofText_eq_noSeparator_iff, exists_and_left, exists_eq, and_true]

/-- Digits in upper case read, and are written in lower case. -/
theorem ofText_exact_upper_case :
    ∃ address, ofText (String.ofList (List.replicate 64 'A' ++ '/' :: List.replicate 64 '7'))
        = .ok address
      ∧ address.toText
        = (String.ofList (List.replicate 64 'A' ++ '/' :: List.replicate 64 '7')).toLower :=
  have hread : ofText (String.ofList (List.replicate 64 'A' ++ '/' :: List.replicate 64 '7'))
      = .ok ⟨⟨⟨List.replicate 32 0xaa, rfl⟩⟩, ⟨⟨List.replicate 32 0x77, rfl⟩⟩⟩ := by
    decide +kernel
  ⟨_, hread, ofText_exact.2.2.1 _ _ hread⟩

end Address

end Coffer
