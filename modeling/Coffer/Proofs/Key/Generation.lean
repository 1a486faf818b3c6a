import Coffer.Key.Private
import Coffer.Proofs.Bytes
import Coffer.Proofs.Key.Sealing

/-!
# Proofs/Key/Generation — which bytes of the tape become the private key

A block of 32 bytes is either the bytes of one private key or rejected, as zero or as too large.  So
the key that comes off a tape is the first block after the leading rejected ones
(`PrivateKey.generate?_eq_some_iff`), and there is none just when the tape ends before the end of
that block (`PrivateKey.generate?_eq_none_iff`).
-/

namespace Coffer

open Curve

theorem Bytes.chunks_append {size : Nat} {block : Bytes} (hlength : block.length = size)
    (hpos : 0 < size) (rest : Bytes) :
    chunks size (block ++ rest) = block :: chunks size rest := by
  obtain _ | ⟨byte, block⟩ := block
  · exact absurd hlength hpos.ne
  · have hblock : block.length = size - 1 := by rw [← hlength]; rfl
    rw [List.cons_append, chunks, List.take_left' hblock, List.drop_left' hblock]

/-! ## Blocks that are keys -/

namespace PrivateKey

@[simp] theorem length_encode (key : PrivateKey) : key.encode.length = size :=
  Bytes.length_bigEndian _ _

theorem ofBigEndian_encode (key : PrivateKey) : Bytes.ofBigEndian key.encode = key.scalar := by
  rw [encode, Bytes.ofBigEndian_bigEndian, Nat.mod_eq_of_lt (key.lt_order.trans (by decide))]

/-- **A private key reads back.** -/
theorem decode_encode (key : PrivateKey) : decode key.encode = .ok key := by
  have hscalar : ofScalar? key.scalar = some key := dif_pos ⟨key.pos, key.lt_order⟩
  rw [decode, if_pos key.length_encode, ofBigEndian_encode, hscalar]

/-- **Bytes are a private key** when they are as many as one has, and their number is its scalar. -/
theorem decode_eq_ok_iff {bytes : Bytes} {key : PrivateKey} :
    decode bytes = .ok key ↔ bytes.length = size ∧ Bytes.ofBigEndian bytes = key.scalar := by
  constructor
  · intro h
    rw [decode] at h
    split at h
    · rename_i hlength
      split at h
      · rename_i found hfound
        obtain rfl := Except.ok.inj h
        obtain ⟨_, hscalar⟩ := Option.dite_none_right_eq_some.1 hfound
        exact ⟨hlength, congrArg scalar (Option.some.inj hscalar)⟩
      · cases h
    · cases h
  · rintro ⟨hlength, hscalar⟩
    have hbytes : key.encode = bytes := by
      rw [encode, ← hscalar, ← hlength, Bytes.bigEndian_ofBigEndian]
    rw [← hbytes, decode_encode]

theorem encode_injective : Function.Injective encode := by
  intro first second h
  have hread := decode_encode first
  rw [h, decode_encode second] at hread
  exact (Except.ok.inj hread).symm

/-- **A block is rejected** when its number is zero or not below the order of the curve. -/
def Rejected (block : Bytes) : Prop :=
  block.length = size ∧ (Bytes.ofBigEndian block = 0 ∨ order ≤ Bytes.ofBigEndian block)

instance (block : Bytes) : Decidable (Rejected block) := inferInstanceAs (Decidable (_ ∧ _))

theorem Rejected.decode_eq {block : Bytes} (h : Rejected block) :
    decode block = .error .invalidPrivateKey := by
  have hscalar : ofScalar? (Bytes.ofBigEndian block) = none := dif_neg fun hok => by
    have hbad := h.2
    omega
  rw [decode, if_pos h.1, hscalar]

theorem not_rejected_encode (key : PrivateKey) : ¬ Rejected key.encode := fun h => by
  have hread := h.decode_eq
  rw [decode_encode] at hread
  cases hread

/-- **A block that is not rejected is the bytes of a key.** -/
theorem exists_encode_eq {block : Bytes} (hlength : block.length = size) (h : ¬ Rejected block) :
    ∃ key : PrivateKey, key.encode = block := by
  have hscalar : 0 < Bytes.ofBigEndian block ∧ Bytes.ofBigEndian block < order := by
    by_contra hbad
    exact h ⟨hlength, by omega⟩
  refine ⟨⟨_, hscalar.1, hscalar.2⟩, ?_⟩
  rw [encode, ← hlength, Bytes.bigEndian_ofBigEndian]

end PrivateKey

/-! ## The leading rejected blocks -/

/-- **How many blocks at the front of a tape are rejected.** -/
def Tape.rejected (tape : Tape) : Nat :=
  ((Bytes.chunks PrivateKey.size tape.remaining).takeWhile
    fun block => decide (PrivateKey.Rejected block)).length

namespace PrivateKey

variable {block : Bytes}

theorem rejected_of_length_lt {bytes : Bytes} (h : bytes.length < size) :
    Tape.rejected ⟨bytes⟩ = 0 := by
  have hshort : ¬ Rejected bytes := fun hbad => h.ne hbad.1
  obtain _ | ⟨byte, rest⟩ := bytes
  · rw [Tape.rejected, Bytes.chunks]
    rfl
  · have hrest : rest.length ≤ size - 1 := by
      rw [List.length_cons] at h
      omega
    rw [Tape.rejected, Bytes.chunks, List.take_of_length_le hrest, List.takeWhile_cons_of_neg]
    · rfl
    · rwa [decide_eq_true_iff]

theorem rejected_encode_append (key : PrivateKey) (rest : Bytes) :
    Tape.rejected ⟨key.encode ++ rest⟩ = 0 := by
  rw [Tape.rejected, Bytes.chunks_append key.length_encode (by decide),
    List.takeWhile_cons_of_neg (by simpa using key.not_rejected_encode)]
  rfl

theorem Rejected.rejected_append (h : Rejected block) (rest : Bytes) :
    Tape.rejected ⟨block ++ rest⟩ = Tape.rejected ⟨rest⟩ + 1 := by
  rw [Tape.rejected, Bytes.chunks_append h.1 (by decide),
    List.takeWhile_cons_of_pos (by simpa using h)]
  rfl

/-! ## The key off the tape -/

theorem generate?_of_length_lt {bytes : Bytes} (h : bytes.length < size) :
    generate? ⟨bytes⟩ = none := by
  have htake : (⟨bytes⟩ : Tape).take? size = none := if_neg (Nat.not_le.2 h)
  rw [generate?]
  split
  · rfl
  · rename_i hsome
    rw [htake] at hsome
    cases hsome

theorem generate?_encode_append (key : PrivateKey) (rest : Bytes) :
    generate? ⟨key.encode ++ rest⟩ = some (key, ⟨rest⟩) := by
  have htake : (⟨key.encode ++ rest⟩ : Tape).take? size = some (key.encode, ⟨rest⟩) :=
    Tape.take?_eq_some_iff.2 ⟨key.length_encode, rfl⟩
  rw [generate?]
  split
  · rename_i hnone
    rw [htake] at hnone
    cases hnone
  · rename_i bytes after hsome
    rw [htake] at hsome
    cases hsome
    rw [decode_encode]

theorem Rejected.generate?_append (h : Rejected block) (rest : Bytes) :
    generate? ⟨block ++ rest⟩ = generate? ⟨rest⟩ := by
  have htake : (⟨block ++ rest⟩ : Tape).take? size = some (block, ⟨rest⟩) :=
    Tape.take?_eq_some_iff.2 ⟨h.1, rfl⟩
  rw [generate?]
  split
  · rename_i hnone
    rw [htake] at hnone
    cases hnone
  · rename_i bytes after hsome
    rw [htake] at hsome
    cases hsome
    rw [h.decode_eq]

/-- **Every byte string** begins with rejected blocks, behind which it ends or goes on with a
key. -/
theorem exists_rejected_append (bytes : Bytes) : ∃ (blocks : List Bytes) (tail : Bytes),
    bytes = blocks.flatten ++ tail ∧ (∀ block ∈ blocks, Rejected block)
      ∧ (tail.length < size ∨ ∃ (key : PrivateKey) (rest : Bytes), tail = key.encode ++ rest) := by
  -- on the length: a rejected block is cut off the front
  induction hlength : bytes.length using Nat.strongRecOn generalizing bytes with
  | ind length ih =>
    subst hlength
    by_cases hshort : bytes.length < size
    · exact ⟨[], bytes, rfl, List.forall_mem_nil _, .inl hshort⟩
    obtain ⟨block, rest, hsize, rfl⟩ : ∃ block rest, block.length = size ∧ bytes = block ++ rest :=
      ⟨bytes.take size, bytes.drop size, List.length_take_of_le (Nat.not_lt.1 hshort),
        (List.take_append_drop size bytes).symm⟩
    by_cases hbad : Rejected block
    · have hlt : rest.length < (block ++ rest).length := by
        rw [List.length_append, hsize]
        exact Nat.lt_add_of_pos_left (by decide)
      obtain ⟨blocks, tail, rfl, hblocks, htail⟩ := ih rest.length hlt rest rfl
      exact ⟨block :: blocks, tail, (List.append_assoc _ _ _).symm,
        List.forall_mem_cons.2 ⟨hbad, hblocks⟩, htail⟩
    · obtain ⟨key, rfl⟩ := exists_encode_eq hsize hbad
      exact ⟨[], _, rfl, List.forall_mem_nil _, .inr ⟨key, rest, rfl⟩⟩

section

variable {blocks : List Bytes} (h : ∀ block ∈ blocks, Rejected block) (tail : Bytes)

include h

theorem length_flatten_rejected : blocks.flatten.length = size * blocks.length := by
  induction blocks with
  | nil => rfl
  | cons block blocks ih =>
    rw [List.forall_mem_cons] at h
    rw [List.flatten_cons, List.length_append, h.1.1, ih h.2, List.length_cons]
    ring

theorem rejected_flatten_append :
    Tape.rejected ⟨blocks.flatten ++ tail⟩ = Tape.rejected ⟨tail⟩ + blocks.length := by
  induction blocks with
  | nil => rfl
  | cons block blocks ih =>
    rw [List.forall_mem_cons] at h
    rw [List.flatten_cons, List.append_assoc, h.1.rejected_append, ih h.2, List.length_cons,
      Nat.add_assoc]

theorem generate?_flatten_append :
    generate? ⟨blocks.flatten ++ tail⟩ = generate? ⟨tail⟩ := by
  induction blocks with
  | nil => rfl
  | cons block blocks ih =>
    rw [List.forall_mem_cons] at h
    rw [List.flatten_cons, List.append_assoc, h.1.generate?_append, ih h.2]

end

/-- **There is no key** just when the tape ends before the block behind the rejected ones does. -/
theorem generate?_eq_none_iff {tape : Tape} :
    generate? tape = none ↔ tape.remaining.length < size * (tape.rejected + 1) := by
  obtain ⟨bytes⟩ := tape
  obtain ⟨blocks, tail, rfl, hblocks, htail⟩ := exists_rejected_append bytes
  have hlength := length_flatten_rejected hblocks
  rw [generate?_flatten_append hblocks, rejected_flatten_append hblocks, List.length_append,
    hlength]
  obtain hshort | ⟨key, rest, rfl⟩ := htail
  · rw [generate?_of_length_lt hshort, rejected_of_length_lt hshort, Nat.zero_add, Nat.mul_succ]
    exact iff_of_true rfl (Nat.add_lt_add_left hshort _)
  · rw [generate?_encode_append, rejected_encode_append, Nat.zero_add, Nat.mul_succ,
      List.length_append, length_encode]
    exact iff_of_false nofun (by omega)

/-- **The key off a tape** is the block behind the rejected ones, and the rest comes behind it. -/
theorem generate?_eq_some_iff {tape rest : Tape} {key : PrivateKey} :
    generate? tape = some (key, rest) ↔ tape.remaining
      = tape.remaining.take (size * tape.rejected) ++ key.encode ++ rest.remaining := by
  obtain ⟨bytes⟩ := tape
  obtain ⟨after⟩ := rest
  obtain ⟨blocks, tail, rfl, hblocks, htail⟩ := exists_rejected_append bytes
  have hlength := length_flatten_rejected hblocks
  have hzero : Tape.rejected ⟨tail⟩ = 0 := by
    obtain hshort | ⟨found, rest, rfl⟩ := htail
    · exact rejected_of_length_lt hshort
    · exact rejected_encode_append found rest
  simp only [generate?_flatten_append hblocks, rejected_flatten_append hblocks, hzero,
    Nat.zero_add, List.take_left' hlength, List.append_assoc, List.append_cancel_left_eq]
  obtain hshort | ⟨found, rest, rfl⟩ := htail
  · rw [generate?_of_length_lt hshort]
    refine iff_of_false nofun fun htail => ?_
    rw [htail, List.length_append, length_encode] at hshort
    omega
  · rw [generate?_encode_append, Option.some.injEq, Prod.mk.injEq, Tape.mk.injEq]
    constructor
    · rintro ⟨rfl, rfl⟩
      rfl
    · intro heq
      obtain ⟨hkey, hrest⟩ := List.append_inj heq (found.length_encode.trans key.length_encode.symm)
      exact ⟨encode_injective hkey, hrest⟩

/-- What is left of a tape behind a key. -/
theorem exists_append_of_generate? {tape rest : Tape} {key : PrivateKey}
    (h : generate? tape = some (key, rest)) :
    ∃ front, front.length = size * (tape.rejected + 1)
      ∧ tape.remaining = front ++ rest.remaining := by
  have htape := generate?_eq_some_iff.1 h
  have hlength := congrArg List.length htape
  simp only [List.length_append, List.length_take, length_encode] at hlength
  refine ⟨_, ?_, htape⟩
  have hsize : 0 < size := by decide
  rw [List.length_append, List.length_take, length_encode, Nat.mul_succ]
  omega

end PrivateKey

end Coffer
