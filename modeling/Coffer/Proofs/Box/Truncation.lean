import Coffer.Box.Error
import Coffer.Proofs.Box.RoundTrip
import Coffer.Proofs.Wire.Truncation

/-!
# Proofs/Box/Truncation — a box that is cut short is never read as a damaged one

The bytes of a box are its fields, one after the other, so what is left of them after a cut is
either the bytes of its **first** fields (`AccessBox.fields_first`), which are a box themselves, or
ends inside a field, which shows (`AccessBox.decode_append_of_next_error`).  A gate or a policy is
there as it was or not at all (`AccessBox.decode_cut`).
-/

namespace Coffer.AccessBox

open Wire

variable {box : AccessBox}

/-! ## The first fields of a box -/

/-- How many fields the packer's key takes. -/
def keyFields (box : AccessBox) : Nat := (Field.bytes 1 box.ownerKey).length

/-- **The box made of the first fields** of a box: its key, if it has one, then gates, and then
policies. -/
def first (box : AccessBox) (count : Nat) : AccessBox where
  ownerKey := if count = 0 then [] else box.ownerKey
  gates := box.gates.take (count - box.keyFields)
  policies := box.policies.take (count - box.keyFields - box.gates.length)

/-- The fields of a box, where there is one for each gate and for each policy. -/
theorem fields_eq (box : AccessBox) :
    box.fields = Field.bytes 1 box.ownerKey
      ++ box.gates.map (fun gate => ⟨2, .payload gate.encode⟩)
      ++ box.policies.map (fun stored => ⟨3, .payload stored.encode⟩) := by
  simp only [List.map_eq_flatMap]
  rfl

/-- **The first fields** are those of the box that is made of them. -/
theorem fields_first (box : AccessBox) (count : Nat) :
    (box.first count).fields = box.fields.take count := by
  have hkey : Field.bytes 1 (box.first count).ownerKey
      = (Field.bytes 1 box.ownerKey).take count := by
    cases count with
    | zero => rfl
    | succ count =>
      have hsame : (box.first (count + 1)).ownerKey = box.ownerKey := rfl
      rw [hsame, Field.bytes]
      split
      · exact List.take_nil.symm
      · rw [List.take_succ_cons, List.take_nil]
  rw [fields_eq, fields_eq, List.take_append, List.take_append, List.length_append,
    List.length_map, ← List.map_take, ← List.map_take, Nat.sub_add_eq, hkey]
  rfl

theorem encode_first (box : AccessBox) (count : Nat) :
    (box.first count).encode = Field.writeAll (box.fields.take count) := by
  rw [encode, fields_first]

theorem gates_first_prefix (box : AccessBox) (count : Nat) :
    (box.first count).gates <+: box.gates := List.take_prefix _ _

theorem policies_first_prefix (box : AccessBox) (count : Nat) :
    (box.first count).policies <+: box.policies := List.take_prefix _ _

/-- No part of the first fields is too long, if none of the box is. -/
theorem Sized.first (h : box.Sized) (count : Nat) : (box.first count).Sized where
  ownerKey := by
    rw [AccessBox.first]
    split
    · exact Nat.succ_pos _
    · exact h.ownerKey
  gates gate hmem := h.gates gate ((box.gates_first_prefix count).subset hmem)
  policies stored hmem := h.policies stored ((box.policies_first_prefix count).subset hmem)

/-! ## Cuts -/

/-- **Bytes behind a box** that do not begin with a field are at fault. -/
theorem decode_append_of_next_error (h : box.Sized) {piece : Bytes} {fault : Fault}
    (hpiece : Field.next piece = .error fault) : decode (box.encode ++ piece) = .error fault := by
  rw [decode_eq, Field.readAll_append (readAll_encode h), Field.readAll,
    Field.collect_of_next_error Part.ofField hpiece]
  rfl

/-- Every field of a box is a payload. -/
theorem exists_payload_of_mem_fields {field : Field} (h : field ∈ box.fields) :
    ∃ content, field = ⟨field.number, .payload content⟩ := by
  rw [fields_eq, List.mem_append, List.mem_append] at h
  rcases h with (hkey | hgate) | hpolicy
  · rw [Field.bytes] at hkey
    split at hkey
    · cases hkey
    · obtain rfl := List.mem_singleton.1 hkey
      exact ⟨_, rfl⟩
  · obtain ⟨gate, -, rfl⟩ := List.mem_map.1 hgate
    exact ⟨_, rfl⟩
  · obtain ⟨stored, -, rfl⟩ := List.mem_map.1 hpolicy
    exact ⟨_, rfl⟩

/-- **Bytes end inside a field** of a message when behind some of its fields they hold a part of
the next one, which is a payload. -/
structure EndsInside (fields : List Field) (cut : Bytes) (number : Nat) (content piece : Bytes) :
    Prop where
  /-- The part stands behind the fields before it. -/
  behind : ∃ count, fields[count]? = some ⟨number, .payload content⟩
    ∧ cut = Field.writeAll (fields.take count) ++ piece
  /-- It is what the field begins with. -/
  begins : piece <+: Field.write ⟨number, .payload content⟩
  /-- It is not the whole field. -/
  ne_write : piece ≠ Field.write ⟨number, .payload content⟩
  /-- It is not nothing. -/
  ne_nil : piece ≠ []

/-- **What ends inside a field** has the fault that goes with the cut. -/
theorem EndsInside.decode_eq {cut piece content : Bytes} {number : Nat} (h : box.Sized)
    (hcut : EndsInside box.fields cut number content piece) :
    decode cut = .error (Field.cutFault number content piece.length) := by
  obtain ⟨⟨count, hfield, rfl⟩, ⟨missing, hwrite⟩, hne, hnil⟩ := hcut
  have hmissing : missing ≠ [] := by
    rintro rfl
    exact hne ((List.append_nil piece).symm.trans hwrite)
  have hfits := h.fits_of_mem_fields _ (List.mem_of_getElem? hfield)
  rw [← encode_first]
  exact decode_append_of_next_error (h.first count)
    (Field.next_of_cut hfits hwrite.symm hnil hmissing)

/-- Of the bytes of a box a cut leaves its first fields, or ends inside a field. -/
theorem cut_between_or_inside {cut : Bytes} (hcut : cut <+: box.encode) :
    (∃ count, cut = Field.writeAll (box.fields.take count))
      ∨ ∃ number content piece, EndsInside box.fields cut number content piece := by
  obtain ⟨missing, hmissing⟩ := hcut
  rcases Field.cut_between_or_inside hmissing.symm with
    hbetween | ⟨count, field, piece, rest, hfield, hbehind, hwrite, hpiece, hrest⟩
  · exact .inl hbetween
  · obtain ⟨content, hpayload⟩ := exists_payload_of_mem_fields (List.mem_of_getElem? hfield)
    rw [hpayload] at hfield hwrite
    refine .inr ⟨field.number, content, piece, ⟨count, hfield, hbehind⟩, ⟨rest, hwrite.symm⟩, ?_,
      hpiece⟩
    intro hwhole
    exact hrest (List.append_right_eq_self.1 (hwhole.trans hwrite).symm)

/-- **A box that is cut short is never read as a damaged one.**  A cut is between two fields or
inside one.  Between two fields, what is left reads as the box made of the fields before the cut;
inside a field it is malformed, with a truncated varint if the cut is in what announces the payload
and with a truncated payload otherwise.  So less than all of its bytes never read as the box, and no
more is ever read than gates and policies of the box in their places. -/
theorem decode_cut (h : box.Sized) {cut : Bytes} (hcut : cut <+: box.encode) :
    ((∃ count, cut = Field.writeAll (box.fields.take count))
        ∨ ∃ number content piece, EndsInside box.fields cut number content piece)
      ∧ (∀ count, cut = Field.writeAll (box.fields.take count) →
        decode cut = .ok (box.first count) ∧ (box.first count).fields = box.fields.take count)
      ∧ (∀ number content piece, EndsInside box.fields cut number content piece →
        (decode cut).mapError BoxError.malformed
          = .error (.malformed (Field.cutFault number content piece.length)))
      ∧ (cut ≠ box.encode → decode cut ≠ .ok box)
      ∧ ∀ other, decode cut = .ok other →
        other.gates <+: box.gates ∧ other.policies <+: box.policies
          ∧ (other.ownerKey = [] ∨ other.ownerKey = box.ownerKey) := by
  have hbetween (count : Nat) (heq : cut = Field.writeAll (box.fields.take count)) :
      decode cut = .ok (box.first count) := by
    rw [heq, ← encode_first]
    exact decode_encode (h.first count)
  have hfirst {other : AccessBox} (hother : decode cut = .ok other) :
      ∃ count, cut = Field.writeAll (box.fields.take count) ∧ other = box.first count := by
    rcases cut_between_or_inside hcut with ⟨count, heq⟩ | ⟨number, content, piece, hinside⟩
    · rw [hbetween count heq] at hother
      exact ⟨count, heq, (Except.ok.inj hother).symm⟩
    · rw [hinside.decode_eq h] at hother
      cases hother
  refine ⟨cut_between_or_inside hcut, fun count heq => ⟨hbetween count heq, box.fields_first count⟩,
    fun number content piece hinside => ?_, fun hne hbox => ?_, fun other hother => ?_⟩
  · rw [hinside.decode_eq h]
    rfl
  · obtain ⟨count, heq, hwhole⟩ := hfirst hbox
    rw [← encode_first, ← hwhole] at heq
    exact hne heq
  · obtain ⟨count, -, rfl⟩ := hfirst hother
    exact ⟨box.gates_first_prefix count, box.policies_first_prefix count, ite_eq_or_eq _ _ _⟩

/-- A gate whose length takes two bytes, cut behind the first of them, and a cut between that gate
and one that holds nothing. -/
theorem decode_cut_inside_length :
    let gate : Gate := ⟨[], List.replicate 130 7⟩
    let box : AccessBox := ⟨[2], [gate, ⟨[], []⟩], [⟨"é", [6]⟩]⟩
    box.Sized ∧ [0x0a, 1, 2, 0x12, 0x85] <+: box.encode
      ∧ (decode [0x0a, 1, 2, 0x12, 0x85]).mapError BoxError.malformed
        = .error (.malformed .truncatedVarint)
      ∧ Field.writeAll (box.fields.take 2) <+: box.encode
      ∧ decode (Field.writeAll (box.fields.take 2)) = .ok ⟨[2], [gate], []⟩ := by
  intro gate box
  have hsized : box.Sized := ⟨by decide, by decide +kernel, by decide +kernel⟩
  have hcut : [0x0a, 1, 2, 0x12, 0x85] <+: box.encode := by decide +kernel
  have hinside : EndsInside box.fields [0x0a, 1, 2, 0x12, 0x85] 2 gate.encode [0x12, 0x85] :=
    ⟨⟨1, rfl, by decide +kernel⟩, by decide +kernel, by decide +kernel, List.cons_ne_nil _ _⟩
  have hfault : Field.cutFault 2 gate.encode 2 = .truncatedVarint := by decide +kernel
  have hfirst : Field.writeAll (box.fields.take 2) <+: box.encode := by decide +kernel
  have hmalformed := (decode_cut hsized hcut).2.2.1 2 gate.encode [0x12, 0x85] hinside
  rw [← hfault]
  exact ⟨hsized, hcut, hmalformed, hfirst, ((decode_cut hsized hfirst).2.1 2 rfl).1⟩

end Coffer.AccessBox
