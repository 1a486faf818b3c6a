import Mathlib.Data.List.Basic
import Coffer.Box.Basic
import Coffer.Proofs.Policy.RoundTrip

/-!
# Proofs/Box/RoundTrip — boxes and tokens read back

Gates, tokens and boxes read back from their bytes, provided that no part is longer than a length
can say.  `decode_encodeAfter` sums it up: what is written behind a buffer is the box and nothing
but the box, and an empty box is the only one without bytes.
-/

namespace Coffer

open Wire

/-! ## Gates -/

namespace Gate

theorem decode_eq (bytes : Bytes) :
    decode bytes = (Field.readAll Part.ofField bytes).map (List.foldl add ⟨[], []⟩) := by
  rw [decode]
  cases Field.readAll Part.ofField bytes <;> rfl

theorem fits_of_mem_fields {gate : Gate} (h : gate.encode.length < Varint.valueLimit) :
    ∀ field ∈ gate.fields, field.Fits := by
  have htokens : gate.tokens.length ≤ gate.encode.length :=
    Field.length_le_of_bytes_subset (List.subset_append_left _ _)
  have hkey : gate.publicKey.length ≤ gate.encode.length :=
    Field.length_le_of_bytes_subset (List.subset_append_right _ _)
  exact List.forall_mem_append.2 ⟨Field.fits_of_mem_bytes (by decide) (by omega),
    Field.fits_of_mem_bytes (by decide) (by omega)⟩

/-- A gate is little longer than what it holds. -/
theorem length_encode_le {gate : Gate} (htokens : gate.tokens.length < Varint.valueLimit)
    (hkey : gate.publicKey.length < Varint.valueLimit) :
    gate.encode.length ≤ gate.tokens.length + gate.publicKey.length + 40 := by
  have hfirst : (Field.writeAll (Field.bytes 1 gate.tokens)).length ≤ gate.tokens.length + 20 :=
    Field.length_writeAll_bytes_le (by decide) htokens
  have hsecond : (Field.writeAll (Field.bytes 2 gate.publicKey)).length
      ≤ gate.publicKey.length + 20 :=
    Field.length_writeAll_bytes_le (by decide) hkey
  rw [encode, fields, Field.writeAll_append, List.length_append]
  omega

/-- **A gate reads back**, also one that holds nothing. -/
theorem decode_encode {gate : Gate} (h : gate.encode.length < Varint.valueLimit) :
    decode gate.encode = .ok gate := by
  have hreadTokens : Part.ofField ⟨1, .payload gate.tokens⟩ = .ok (.tokens gate.tokens) := rfl
  have hreadKey : Part.ofField ⟨2, .payload gate.publicKey⟩ = .ok (.publicKey gate.publicKey) :=
    rfl
  have htokens := Field.foldl_mapM_optional add ⟨[], []⟩
    (p := gate.tokens = []) hreadTokens (fun hempty => by rw [hempty]; rfl)
    (Field.bytes 2 gate.publicKey)
  have hkey := Field.foldl_mapM_optional add ⟨[], gate.tokens⟩
    (p := gate.publicKey = []) hreadKey (fun hempty => by rw [hempty]; rfl) []
  rw [List.append_nil] at hkey
  rw [decode_eq, encode, Field.readAll_writeAll _ (fits_of_mem_fields h)]
  exact htokens.trans hkey

end Gate

/-! ## Tokens -/

namespace Tokens

/-- No part of the tokens is longer than a length can say. -/
structure Sized (tokens : Tokens) : Prop where
  /-- The access key is short enough. -/
  accessKey : tokens.accessKey.length < Varint.valueLimit
  /-- The bearer token is short enough. -/
  bearer : tokens.bearer.length < Varint.valueLimit
  /-- The session token is short enough. -/
  session : tokens.session.length < Varint.valueLimit

theorem decode_eq (bytes : Bytes) :
    decode bytes = (Field.readAll Part.ofField bytes).map (List.foldl add ⟨[], [], []⟩) := by
  rw [decode]
  cases Field.readAll Part.ofField bytes <;> rfl

/-- Tokens whose bytes are few enough have no part that is too long. -/
theorem sized_of_length_lt {tokens : Tokens} (h : tokens.encode.length < Varint.valueLimit) :
    tokens.Sized where
  accessKey := Nat.lt_of_le_of_lt (Field.length_le_of_bytes_subset
    (List.subset_append_of_subset_left _ (List.subset_append_left _ _))) h
  bearer := Nat.lt_of_le_of_lt (Field.length_le_of_bytes_subset
    (List.subset_append_of_subset_left _ (List.subset_append_right _ _))) h
  session := Nat.lt_of_le_of_lt
    (Field.length_le_of_bytes_subset (List.subset_append_right _ _)) h

theorem Sized.fits_of_mem_fields {tokens : Tokens} (h : tokens.Sized) :
    ∀ field ∈ tokens.fields, field.Fits :=
  List.forall_mem_append.2 ⟨List.forall_mem_append.2
    ⟨Field.fits_of_mem_bytes (by decide) h.accessKey,
      Field.fits_of_mem_bytes (by decide) h.bearer⟩,
    Field.fits_of_mem_bytes (by decide) h.session⟩

/-- **Tokens read back.** -/
theorem decode_encode {tokens : Tokens} (h : tokens.Sized) :
    decode tokens.encode = .ok tokens := by
  obtain ⟨accessKey, bearer, session⟩ := tokens
  have hreadKey : Part.ofField ⟨1, .payload accessKey⟩ = .ok (.accessKey accessKey) := rfl
  have hreadBearer : Part.ofField ⟨2, .payload bearer⟩ = .ok (.bearer bearer) := rfl
  have hreadSession : Part.ofField ⟨3, .payload session⟩ = .ok (.session session) := rfl
  have hkey := Field.foldl_mapM_optional add ⟨[], [], []⟩
    (p := accessKey = []) hreadKey (fun hempty => by rw [hempty]; rfl)
    (Field.bytes 2 bearer ++ Field.bytes 3 session)
  have hbearer := Field.foldl_mapM_optional add ⟨accessKey, [], []⟩
    (p := bearer = []) hreadBearer (fun hempty => by rw [hempty]; rfl) (Field.bytes 3 session)
  have hsession := Field.foldl_mapM_optional add ⟨accessKey, bearer, []⟩
    (p := session = []) hreadSession (fun hempty => by rw [hempty]; rfl) []
  rw [List.append_nil] at hsession
  rw [decode_eq, encode, Field.readAll_writeAll _ h.fits_of_mem_fields, fields,
    List.append_assoc]
  exact hkey.trans (hbearer.trans hsession)

end Tokens

/-! ## Boxes -/

namespace AccessBox

/-- No part of the box is longer than a length can say: neither its key nor, in bytes, one of its
gates or policies. -/
structure Sized (box : AccessBox) : Prop where
  /-- The packer's key is short enough. -/
  ownerKey : box.ownerKey.length < Varint.valueLimit
  /-- The bytes of every gate are few enough. -/
  gates : ∀ gate ∈ box.gates, gate.encode.length < Varint.valueLimit
  /-- The bytes of every policy are few enough. -/
  policies : ∀ stored ∈ box.policies, stored.encode.length < Varint.valueLimit

theorem decode_eq (bytes : Bytes) :
    decode bytes = (Field.readAll Part.ofField bytes).map ofParts := by
  rw [decode]
  cases Field.readAll Part.ofField bytes <;> rfl

/-- A box whose bytes are few enough has no part that is too long. -/
theorem sized_of_length_lt {box : AccessBox} (h : box.encode.length < Varint.valueLimit) :
    box.Sized where
  ownerKey := Nat.lt_of_le_of_lt (Field.length_le_of_bytes_subset
    (List.subset_append_of_subset_left _ (List.subset_append_left _ _))) h
  gates gate hmem := by
    have hfield : ⟨2, .payload gate.encode⟩ ∈ box.fields :=
      List.mem_append_left _ (List.mem_append_right _
        (List.mem_flatMap.2 ⟨gate, hmem, List.mem_singleton_self _⟩))
    exact Nat.lt_of_le_of_lt (Field.length_le_of_mem hfield) h
  policies stored hmem := by
    have hfield : ⟨3, .payload stored.encode⟩ ∈ box.fields :=
      List.mem_append_right _ (List.mem_flatMap.2 ⟨stored, hmem, List.mem_singleton_self _⟩)
    exact Nat.lt_of_le_of_lt (Field.length_le_of_mem hfield) h

theorem Sized.fits_of_mem_fields {box : AccessBox} (h : box.Sized) :
    ∀ field ∈ box.fields, field.Fits := by
  refine List.forall_mem_append.2 ⟨List.forall_mem_append.2 ⟨?_, ?_⟩, ?_⟩
  · exact Field.fits_of_mem_bytes (by decide) h.ownerKey
  · exact List.forall_mem_flatMap.2 fun gate hmem =>
      Field.fits_of_mem_message (by decide) (h.gates gate hmem)
  · exact List.forall_mem_flatMap.2 fun stored hmem =>
      Field.fits_of_mem_message (by decide) (h.policies stored hmem)

/-- The parts that the fields of a box read as. -/
def parts (box : AccessBox) : List Part :=
  (if box.ownerKey = [] then [] else [.ownerKey box.ownerKey])
    ++ box.gates.map .gate ++ box.policies.map .policy

theorem mapM_ofField_fields {box : AccessBox} (h : box.Sized) :
    box.fields.mapM Part.ofField = .ok box.parts := by
  have hkey : (Field.bytes 1 box.ownerKey).mapM Part.ofField
      = .ok (if box.ownerKey = [] then [] else [.ownerKey box.ownerKey]) := by
    rw [Field.bytes]
    split <;> rfl
  have hgates : (box.gates.flatMap fun gate => Field.message 2 gate.encode).mapM Part.ofField
      = .ok (box.gates.map .gate) := by
    refine Field.mapM_messages fun gate hmem => ?_
    simp only [Part.ofField, Value.asPayload, bind, Except.bind, pure, Except.pure,
      Gate.decode_encode (h.gates gate hmem)]
  have hpolicies : (box.policies.flatMap fun stored => Field.message 3 stored.encode).mapM
      Part.ofField = .ok (box.policies.map .policy) := by
    refine Field.mapM_messages fun stored hmem => ?_
    simp only [Part.ofField, Value.asPayload, bind, Except.bind, pure, Except.pure,
      StoredPolicy.decode_encode (h.policies stored hmem)]
  rw [fields, List.mapM_append, List.mapM_append, hkey, hgates, hpolicies]
  rfl

/-- The parts of a box make it up again. -/
theorem ofParts_parts (box : AccessBox) : ofParts box.parts = box := by
  obtain ⟨ownerKey, gates, policies⟩ := box
  have hkey : (if ownerKey = [] then [] else [Part.ownerKey ownerKey]).foldl
      Part.lastOwnerKey [] = ownerKey := by
    split
    · rename_i hempty
      exact hempty.symm
    · rfl
  have hkeyGates : (if ownerKey = [] then [] else [Part.ownerKey ownerKey]).filterMap
      Part.gate? = [] := by
    split <;> rfl
  have hkeyPolicies : (if ownerKey = [] then [] else [Part.ownerKey ownerKey]).filterMap
      Part.policy? = [] := by
    split <;> rfl
  have hnoGate : policies.filterMap (Part.gate? ∘ Part.policy) = [] :=
    List.filterMap_eq_nil_iff.2 fun _ _ => rfl
  have hnoPolicy : gates.filterMap (Part.policy? ∘ Part.gate) = [] :=
    List.filterMap_eq_nil_iff.2 fun _ _ => rfl
  have hgates : gates.filterMap (Part.gate? ∘ Part.gate) = gates := List.filterMap_some
  have hpolicies : policies.filterMap (Part.policy? ∘ Part.policy) = policies :=
    List.filterMap_some
  simp only [parts, ofParts, List.foldl_append, hkey, List.foldl_map, Part.lastOwnerKey,
    List.foldl_fixed, List.filterMap_append, hkeyGates, hkeyPolicies, List.filterMap_map,
    hnoGate, hnoPolicy, hgates, hpolicies, List.nil_append, List.append_nil]

/-- The bytes of a box read as its parts. -/
theorem readAll_encode {box : AccessBox} (h : box.Sized) :
    Field.readAll Part.ofField box.encode = .ok box.parts := by
  rw [encode, Field.readAll_writeAll _ h.fits_of_mem_fields, mapM_ofField_fields h]

/-- **A box reads back.** -/
theorem decode_encode {box : AccessBox} (h : box.Sized) : decode box.encode = .ok box := by
  rw [decode_eq, readAll_encode h]
  exact congrArg Except.ok (ofParts_parts box)

/-- **Boxes are told apart** by their bytes. -/
theorem Sized.eq_of_encode_eq {box other : AccessBox} (hbox : box.Sized)
    (hother : other.Sized) (h : box.encode = other.encode) : box = other := by
  have hdecode := decode_encode hbox
  rw [h, decode_encode hother] at hdecode
  exact (Except.ok.inj hdecode).symm

theorem isEmpty_iff {box : AccessBox} : box.isEmpty = true ↔ box = .empty := by
  obtain ⟨ownerKey, gates, policies⟩ := box
  simp [isEmpty, empty, and_assoc]

/-- Only the empty box has no bytes. -/
theorem encode_eq_nil_iff (box : AccessBox) : box.encode = [] ↔ box.isEmpty = true := by
  have hall : box.encode = [] ↔ box.fields = [] := by
    rw [encode, Field.writeAll, List.flatMap_eq_nil_iff]
    constructor
    · intro h
      exact List.eq_nil_iff_forall_not_mem.2 fun field hmem => field.write_ne_nil (h field hmem)
    · intro h field hmem
      rw [h] at hmem
      simp at hmem
  have hkey : Field.bytes 1 box.ownerKey = [] ↔ box.ownerKey = [] := by
    rw [Field.bytes]
    split <;> simp_all
  have hgates : (box.gates.flatMap fun gate => Field.message 2 gate.encode) = []
      ↔ box.gates = [] := by
    cases box.gates <;> simp [Field.message]
  have hpolicies : (box.policies.flatMap fun stored => Field.message 3 stored.encode) = []
      ↔ box.policies = [] := by
    cases box.policies <;> simp [Field.message]
  rw [hall, fields, List.append_eq_nil_iff, List.append_eq_nil_iff, hkey, hgates, hpolicies,
    isEmpty, Bool.and_eq_true, Bool.and_eq_true, List.isEmpty_iff, List.isEmpty_iff,
    List.isEmpty_iff]

/-- **What is written behind a buffer is the box**, its gates and policies in their order, and the
buffer stays in front; nothing is written just when the box is empty.  Tokens read back likewise. -/
theorem decode_encodeAfter {box : AccessBox} (hbox : box.Sized) (buffer : Bytes)
    {tokens : Tokens} (htokens : tokens.Sized) :
    (∃ bytes, box.encodeAfter buffer = buffer ++ bytes ∧ bytes = box.encode
      ∧ decode bytes = .ok box ∧ (bytes = [] ↔ box.isEmpty = true))
      ∧ Tokens.decode tokens.encode = .ok tokens :=
  ⟨⟨box.encode, rfl, rfl, decode_encode hbox, encode_eq_nil_iff box⟩,
    Tokens.decode_encode htokens⟩

/-- A box with an empty gate and an empty policy, behind a buffer that is not empty. -/
theorem decode_encodeAfter_empty_entries :
    let box : AccessBox := ⟨[2], [⟨[], []⟩, ⟨[3], [4, 5]⟩], [⟨"", []⟩, ⟨"é", [6]⟩]⟩
    let tokens : Tokens := ⟨[1], [], [2]⟩
    box.Sized ∧ tokens.Sized
      ∧ (∃ bytes, box.encodeAfter [7] = [7] ++ bytes ∧ bytes = box.encode
        ∧ decode bytes = .ok box ∧ (bytes = [] ↔ box.isEmpty = true))
      ∧ Tokens.decode tokens.encode = .ok tokens := by
  intro box tokens
  have hbox : box.Sized := ⟨by decide, by decide +kernel, by decide +kernel⟩
  have htokens : tokens.Sized := ⟨by decide, by decide, by decide⟩
  exact ⟨hbox, htokens, decode_encodeAfter hbox [7] htokens⟩

end AccessBox

end Coffer
