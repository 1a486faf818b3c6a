import Coffer.Content
import Coffer.Proofs.Bytes
import Coffer.Proofs.Store.AttributeColumn

/-!
# Proofs/Content — different contents have different streams

In a stream every part shows where it ends: an identifier has a fixed length, and whatever has not
stands behind its length or its number.  Such an encoding is **delimited**: it can be cut off what
follows it in one way only.  So no two contents share a stream, no stream is the beginning of
another, and contents with one identifier are one content unless the digest collides
(`Content.distinct_streams`).
-/

namespace Coffer

attribute [ext] Attribute Content

/-! ## Encodings that show where they end -/

/-- **An encoding is delimited** on good items when the bytes of a good item can be cut off the
front of whatever follows them in one way only. -/
structure Delimited {α : Type} (Good : α → Prop) (encode : α → Bytes) : Prop where
  /-- What is in front and what follows it are both determined. -/
  cut : ∀ {item other : α} {rest after : Bytes}, Good item → Good other →
    encode item ++ rest = encode other ++ after → item = other ∧ rest = after

namespace Delimited

variable {α : Type} {Good : α → Prop} {encode : α → Bytes}

/-- An encoding of a fixed length is delimited if it tells items apart. -/
theorem of_length {size : Nat} (hlength : ∀ item, (encode item).length = size)
    (hinj : ∀ {item other}, Good item → Good other → encode item = encode other → item = other) :
    Delimited Good encode where
  cut {item other _ _} hitem hother h := by
    obtain ⟨hencode, hrest⟩ := List.append_inj h ((hlength item).trans (hlength other).symm)
    exact ⟨hinj hitem hother hencode, hrest⟩

/-- Items one after the other are told apart if their number is known. -/
theorem cut_flatMap (h : Delimited Good encode) {items others : List α} {rest after : Bytes}
    (hlength : items.length = others.length) (hitems : ∀ item ∈ items, Good item)
    (hothers : ∀ other ∈ others, Good other)
    (heq : items.flatMap encode ++ rest = others.flatMap encode ++ after) :
    items = others ∧ rest = after := by
  induction items generalizing others with
  | nil =>
    obtain rfl := List.length_eq_zero_iff.1 hlength.symm
    exact ⟨rfl, heq⟩
  | cons item items ih =>
    obtain ⟨other, others, rfl⟩ := List.exists_cons_of_length_eq_add_one hlength.symm
    rw [List.forall_mem_cons] at hitems hothers
    rw [List.flatMap_cons, List.flatMap_cons, List.append_assoc, List.append_assoc] at heq
    obtain ⟨rfl, htail⟩ := h.cut hitems.1 hothers.1 heq
    obtain ⟨rfl, hrest⟩ := ih (Nat.succ.inj hlength) hitems.2 hothers.2 htail
    exact ⟨rfl, hrest⟩

/-- **No item's bytes are the beginning of another's.** -/
theorem eq_of_append_eq (h : Delimited Good encode) {item other : α} {rest : Bytes}
    (hitem : Good item) (hother : Good other) (heq : encode item ++ rest = encode other) :
    item = other :=
  (h.cut hitem hother (heq.trans (List.append_nil _).symm)).1

end Delimited

namespace Identifier

variable {named : Named}

theorem bytes_injective : Function.Injective (bytes : Identifier named → Bytes) := by
  rintro ⟨⟨content, hcontent⟩⟩ ⟨⟨other, hother⟩⟩ h
  obtain rfl : content = other := h
  rfl

theorem delimited_bytes : Delimited (fun _ => True) (bytes : Identifier named → Bytes) :=
  .of_length (fun id => id.block.length_bytes) fun _ _ h => bytes_injective h

end Identifier

/-! ## Streams -/

namespace Content

open Cbor

/-- **A content is sized** when the number of its attributes and the lengths of their texts and of
the payload have sixty-four bits. -/
structure Sized (content : Content) : Prop where
  /-- The attributes are few enough, and none is too long. -/
  attributes : AttributeColumn.SizedColumn content.attributes
  /-- The payload is short enough. -/
  payload : content.payload.length < Head.numberLimit

theorem delimited_lengthBytes : Delimited (· < Head.numberLimit) lengthBytes :=
  .of_length (Bytes.length_littleEndian 8) fun hlength hother h =>
    Bytes.eq_of_littleEndian_eq hlength hother h

/-- A byte string behind its length is delimited. -/
theorem delimited_sized : Delimited (fun bytes => bytes.length < Head.numberLimit) sized where
  cut hbytes hothers h := by
    simp only [sized, List.append_assoc] at h
    obtain ⟨hlength, htail⟩ := delimited_lengthBytes.cut hbytes hothers h
    exact List.append_inj htail hlength

/-- Where a key ends and its value begins can be told. -/
theorem delimited_attributeStream :
    Delimited AttributeColumn.SizedAttribute attributeStream where
  cut {entry other _ _} hentry hother h := by
    simp only [attributeStream, List.append_assoc] at h
    obtain ⟨hkey, htail⟩ := delimited_sized.cut hentry.key hother.key h
    obtain ⟨hvalue, hrest⟩ := delimited_sized.cut hentry.value hother.value htail
    exact ⟨Attribute.ext (Text.Utf8.encode_injective hkey) (Text.Utf8.encode_injective hvalue),
      hrest⟩

/-- **A stream is delimited**: each of its parts is, one after the other. -/
theorem delimited_stream : Delimited Sized stream where
  cut hcontent hother h := by
    simp only [stream, List.append_assoc] at h
    obtain ⟨hcontainer, h⟩ := Identifier.delimited_bytes.cut trivial trivial h
    obtain ⟨howner, h⟩ := Identifier.delimited_bytes.cut trivial trivial h
    obtain ⟨hnumber, h⟩ :=
      delimited_lengthBytes.cut hcontent.attributes.length hother.attributes.length h
    -- attributes do not show that they are the last, but their number has been cut off before
    obtain ⟨hattributes, h⟩ := delimited_attributeStream.cut_flatMap hnumber
      hcontent.attributes.entries hother.attributes.entries h
    obtain ⟨hpayload, hrest⟩ := delimited_sized.cut hcontent.payload hother.payload h
    exact ⟨Content.ext hcontainer howner hattributes hpayload, hrest⟩

/-- Contents with one identifier are one content, or else their streams collide. -/
theorem collision_of_objectId_eq {content other : Content} (hcontent : content.Sized)
    (hother : other.Sized) (hne : content ≠ other) (h : content.objectId = other.objectId) :
    content.stream ≠ other.stream
      ∧ Digest.Blake3.deriveKey digestContext content.stream
        = Digest.Blake3.deriveKey digestContext other.stream := by
  refine ⟨fun hstream => hne ?_, congrArg Identifier.block h⟩
  exact delimited_stream.eq_of_append_eq hcontent hother ((List.append_nil _).trans hstream)

/-- **Different contents have different streams**, of which none is the beginning of the other; so
if they have one identifier, then the digest collides on two different messages. -/
theorem distinct_streams {content other : Content} (hcontent : content.Sized)
    (hother : other.Sized) :
    (content.stream = other.stream
        ↔ content.container = other.container ∧ content.owner = other.owner
          ∧ content.attributes = other.attributes ∧ content.payload = other.payload)
      ∧ (content.stream <+: other.stream ∨ other.stream <+: content.stream
        → content.stream = other.stream)
      ∧ (content ≠ other → content.objectId = other.objectId
        → content.stream ≠ other.stream
          ∧ Digest.Blake3.deriveKey digestContext content.stream
            = Digest.Blake3.deriveKey digestContext other.stream) := by
  have hinj : content.stream = other.stream → content = other := fun h =>
    (delimited_stream.cut hcontent hother (congrArg (· ++ []) h)).1
  refine ⟨?_, ?_, fun hne hid => ⟨fun h => hne (hinj h), congrArg Identifier.block hid⟩⟩
  · rw [← Content.ext_iff]
    exact ⟨hinj, congrArg stream⟩
  · rintro (⟨rest, h⟩ | ⟨rest, h⟩)
    · rw [delimited_stream.eq_of_append_eq hcontent hother h]
    · rw [delimited_stream.eq_of_append_eq hother hcontent h]

/-- Two attributes with the same letters, of which one key is longer by what the value is
shorter. -/
theorem distinct_streams_moved_boundary :
    let content : Content := ⟨⟨Block.replicate 32 1⟩, ⟨Block.replicate 32 2⟩, [⟨"ab", "c"⟩], []⟩
    let other : Content := { content with attributes := [⟨"a", "bc"⟩] }
    content.Sized ∧ other.Sized ∧ content.stream ≠ other.stream
      ∧ ¬ (content.stream <+: other.stream ∨ other.stream <+: content.stream) := by
  intro content other
  have hcontent : content.Sized :=
    ⟨AttributeColumn.sizedColumn_singleton (by decide) (by decide), by decide⟩
  have hother : other.Sized :=
    ⟨AttributeColumn.sizedColumn_singleton (by decide) (by decide), by decide⟩
  obtain ⟨hequal, hbegins, -⟩ := distinct_streams hcontent hother
  have hne : content.stream ≠ other.stream := fun h =>
    absurd (hequal.1 h).2.2.1 (by decide : ([⟨"ab", "c"⟩] : List Attribute) ≠ [⟨"a", "bc"⟩])
  exact ⟨hcontent, hother, hne, fun h => hne (hbegins h)⟩

end Content

end Coffer
