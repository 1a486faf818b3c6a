import Mathlib.Algebra.BigOperators.Fin
import Coffer.Proofs.Wire.Shortest

/-!
# Proofs/Wire/Varint — which bytes begin with a number, and with which

A number ends at the first byte below 128 (`Varint.EndsAt`), and what is read is the sum of the
seven bits of each byte up to there, each at its place (`Varint.total`).  The sum is the same when
it is put together by shifts in a word of sixty-four bits (`Varint.Digits.toNat_overlay`): an
accepted number has no bit outside of it.  Bytes with no such end are refused, and how many there
are says with which fault (`Varint.fault_of_readWithin`).
-/

namespace Coffer.Wire.Varint

/-! ## Where a number ends -/

/-- **The first number of some bytes ends** at the first byte below 128.  It has to be one of the
first ten, and if it is the tenth, it is zero or one. -/
structure EndsAt (bytes : Bytes) (last : Nat) : Prop where
  /-- All bytes before have their top bit set. -/
  first : bytes.findIdx? (fun byte => byte < 128) = some last
  /-- It is one of the first ten. -/
  lt_ten : last < 10
  /-- The tenth carries one bit only. -/
  tenth : last = 9 → bytes[last]? = some 0 ∨ bytes[last]? = some 1

/-- **The number that bytes make up**: byte `i` has its low seven bits at place `i`. -/
def total (word : Bytes) : Nat := ∑ i : Fin word.length, word[i].toNat % 128 * 2 ^ (7 * i.val)

theorem total_cons (byte : UInt8) (word : Bytes) :
    total (byte :: word) = byte.toNat % 128 + 128 * total word := by
  have hplace (i : Fin word.length) : word[i].toNat % 128 * 2 ^ (7 * (i.val + 1))
      = 128 * (word[i].toNat % 128 * 2 ^ (7 * i.val)) := by
    rw [Nat.mul_add, Nat.pow_add]
    ring
  rw [total, total, Finset.mul_sum, ← Finset.sum_congr rfl fun i _ => hplace i]
  exact (Fin.sum_univ_succ _).trans (by simp)

/-- What a byte counts is part of the number. -/
theorem le_total {word : Bytes} {place : Nat} (h : place < word.length) :
    word[place].toNat % 128 * 2 ^ (7 * place) ≤ total word :=
  Finset.single_le_sum (f := fun i : Fin word.length => word[i].toNat % 128 * 2 ^ (7 * i.val))
    (fun _ _ => Nat.zero_le _) (Finset.mem_univ (⟨place, h⟩ : Fin word.length))

theorem Digits.findIdx?_append {word : Bytes} {value : Nat} (h : Digits word value)
    (rest : Bytes) :
    (word ++ rest).findIdx? (fun byte => byte < 128) = some (word.length - 1) := by
  induction h with
  | last hbyte =>
    rw [List.singleton_append, List.findIdx?_cons, if_pos (decide_eq_true hbyte)]
    rfl
  | more hmore hhigh ih =>
    have hpos := hhigh.length_pos
    rw [List.cons_append, List.findIdx?_cons, if_neg (by simpa using hmore), ih, Option.map_some,
      List.length_cons, Nat.sub_add_cancel hpos]
    rfl

/-- The bytes up to the first one below 128 are digits of what they make up. -/
theorem digits_take {bytes : Bytes} {last : Nat}
    (h : bytes.findIdx? (fun byte => byte < 128) = some last) :
    Digits (bytes.take (last + 1)) (total (bytes.take (last + 1))) := by
  induction bytes generalizing last with
  | nil => cases h
  | cons byte tail ih =>
    rw [List.findIdx?_cons] at h
    rw [List.take_succ_cons, total_cons]
    split at h
    · rename_i hbyte
      obtain rfl := Option.some.inj h
      have hbyte := of_decide_eq_true hbyte
      have hlt : byte.toNat < 128 := UInt8.lt_iff_toNat_lt.1 hbyte
      rw [Nat.mod_eq_of_lt hlt]
      exact .last hbyte
    · rename_i hmore
      obtain ⟨place, hplace, rfl⟩ := Option.map_eq_some_iff.1 h
      exact .more (fun hbyte => hmore (decide_eq_true hbyte)) (ih hplace)

/-- Digits are digits of a number below `2 * 128 ^ limit`, if there are `limit` or fewer of them or
if one more is there that carries one bit. -/
theorem Digits.value_lt_iff {word : Bytes} {value limit : Nat} (h : Digits word value)
    (hlength : word.length ≤ limit + 1) :
    value < 2 * 128 ^ limit ↔ ∀ byte ∈ word[limit]?, byte = 0 ∨ byte = 1 := by
  induction h generalizing limit with
  | @last byte hbyte =>
    have hlt : byte.toNat < 128 := UInt8.lt_iff_toNat_lt.1 hbyte
    cases limit with
    | zero =>
      have hbit : byte = 0 ∨ byte = 1 ↔ byte.toNat < 2 := by
        rw [← UInt8.toNat_inj, ← UInt8.toNat_inj, UInt8.toNat_zero, UInt8.toNat_one]
        omega
      simp only [List.getElem?_cons_zero, Option.mem_def, Option.some.injEq, forall_eq', hbit,
        Nat.pow_zero, Nat.mul_one]
    | succ limit =>
      have hpos : 0 < 128 ^ limit := Nat.pow_pos (by decide)
      refine iff_of_true ?_ (by simp)
      rw [Nat.pow_succ]
      omega
  | @more byte word high _ hhigh ih =>
    have hpos := hhigh.length_pos
    rw [List.length_cons] at hlength
    obtain ⟨limit, rfl⟩ : ∃ fewer, limit = fewer + 1 := ⟨limit - 1, by omega⟩
    rw [List.getElem?_cons_succ, ← ih (by omega), Nat.pow_succ]
    omega

/-- **Bytes begin with a number** just when there is an end to it, and then it is the number they
make up. -/
theorem EndsAt.spells {bytes : Bytes} {last : Nat} (h : EndsAt bytes last) :
    Spells (bytes.take (last + 1)) (total (bytes.take (last + 1))) := by
  have hdigits := digits_take h.first
  have hlength : (bytes.take (last + 1)).length ≤ 10 :=
    (List.length_take_le _ _).trans h.lt_ten
  refine ⟨hdigits, hlength, (hdigits.value_lt_iff hlength).2 fun byte hbyte => ?_⟩
  rw [Option.mem_def, List.getElem?_take] at hbyte
  obtain ⟨hle, htaken⟩ := Option.ite_none_right_eq_some.1 hbyte
  obtain rfl : last = 9 := by have := h.lt_ten; omega
  have htenth := h.tenth rfl
  rw [htaken] at htenth
  exact htenth.imp Option.some.inj Option.some.inj

theorem Spells.endsAt {word : Bytes} {value : Nat} (h : Spells word value) (rest : Bytes) :
    EndsAt (word ++ rest) (word.length - 1) := by
  have hpos := h.digits.length_pos
  have hlength := h.length_le
  refine ⟨h.digits.findIdx?_append rest, by omega, fun hlast => ?_⟩
  have hword : 9 < word.length := by omega
  have htenth := (h.digits.value_lt_iff hlength).1 h.value_lt _ (List.getElem?_eq_getElem hword)
  rw [hlast, List.getElem?_append_left hword, List.getElem?_eq_getElem hword]
  exact htenth.imp (congrArg some) (congrArg some)

/-- **Bytes with no end** are refused: they run out before the tenth, or run past it. -/
theorem fault_of_readWithin (limit : Nat) {bytes : Bytes} {fault : Fault}
    (h : readWithin (limit + 1) bytes = .error fault) :
    fault = if bytes.length < limit + 1 then .truncatedVarint else .varintOverflow := by
  induction limit generalizing bytes with
  | zero =>
    cases bytes with
    | nil => exact (Except.error.inj h).symm
    | cons byte tail =>
      have hlong : ¬ (byte :: tail).length < 0 + 1 := by simp
      rw [if_neg hlong]
      rw [readWithin] at h
      split at h
      · exact (Except.error.inj h).symm
      · split at h
        · cases h
        · exact (Except.error.inj h).symm
  | succ limit ih =>
    cases bytes with
    | nil => exact (Except.error.inj h).symm
    | cons byte tail =>
      rw [readWithin, if_neg (fun hc => Nat.succ_ne_zero limit hc.1)] at h
      split at h
      · cases h
      · rw [ih (Except.bind_pure_eq_error_iff.1 h), List.length_cons]
        simp only [Nat.add_lt_add_iff_right]

/-! ## In a word of sixty-four bits -/

/-- The low seven bits of a byte, shifted to their place. -/
def placed (byte : UInt8) (place : Nat) : UInt64 :=
  (byte &&& 0x7f).toUInt64 <<< UInt64.ofNat (7 * place)

/-- **The loop on a word of sixty-four bits**: the low seven bits of each byte are laid over
`value`, the first at the given place. -/
def overlay (value : UInt64) (place : Nat) : Bytes → UInt64
  | [] => value
  | byte :: word => overlay (value ||| placed byte place) (place + 1) word

/-- **No bit is lost in a shift** whose result has at most sixty-four bits. -/
theorem toNat_placed {byte : UInt8} {place : Nat} (hplace : place < 10)
    (h : byte.toNat % 128 * 2 ^ (7 * place) < valueLimit) :
    (placed byte place).toNat = byte.toNat % 128 * 2 ^ (7 * place) := by
  have hlow : (byte &&& 0x7f).toNat = byte.toNat % 128 := by
    rw [UInt8.toNat_and]
    exact Nat.and_two_pow_sub_one_eq_mod byte.toNat 7
  have hshift : (UInt64.ofNat (7 * place)).toNat % 64 = 7 * place := by
    rw [UInt64.toNat_ofNat_of_lt' (by simp only [UInt64.size]; omega)]
    omega
  rw [placed, UInt64.toNat_shiftLeft, UInt8.toNat_toUInt64, hlow, hshift, Nat.shiftLeft_eq]
  exact Nat.mod_eq_of_lt h

/-- What is laid over bits that lie below its place is added to them. -/
theorem toNat_or_placed {byte : UInt8} {place : Nat} {value : UInt64} (hplace : place < 10)
    (hvalue : value.toNat < 2 ^ (7 * place))
    (hlt : value.toNat + 2 ^ (7 * place) * (byte.toNat % 128) < valueLimit) :
    (value ||| placed byte place).toNat
      = value.toNat + 2 ^ (7 * place) * (byte.toNat % 128) := by
  have hbyte : byte.toNat % 128 * 2 ^ (7 * place) < valueLimit := by
    rw [Nat.mul_comm]
    omega
  rw [UInt64.toNat_or, toNat_placed hplace hbyte, Nat.or_comm, Nat.mul_comm,
    ← Nat.two_pow_add_eq_or_of_lt hvalue, Nat.add_comm]

/-- **Shifts make up the same number** as sums do, if it has at most sixty-four bits. -/
theorem Digits.toNat_overlay {word : Bytes} {high place : Nat} {value : UInt64}
    (h : Digits word high) (hplace : place + word.length ≤ 10)
    (hvalue : value.toNat < 2 ^ (7 * place))
    (hlt : value.toNat + 2 ^ (7 * place) * high < valueLimit) :
    (overlay value place word).toNat = value.toNat + 2 ^ (7 * place) * high := by
  induction h generalizing place value with
  | @last byte hbyte =>
    have hmod : byte.toNat % 128 = byte.toNat := Nat.mod_eq_of_lt (UInt8.lt_iff_toNat_lt.1 hbyte)
    rw [List.length_singleton] at hplace
    rw [overlay, overlay, toNat_or_placed (by omega) hvalue (by rwa [hmod]), hmod]
  | @more byte word high hmore hhigh ih =>
    rw [List.length_cons] at hplace
    have hpow : 2 ^ (7 * (place + 1)) = 128 * 2 ^ (7 * place) := by
      rw [Nat.mul_add, Nat.pow_add, Nat.mul_comm]
    have hsplit : 2 ^ (7 * place) * (byte.toNat % 128 + 128 * high)
        = 2 ^ (7 * place) * (byte.toNat % 128) + 2 ^ (7 * (place + 1)) * high := by
      rw [hpow]
      ring
    rw [hsplit, ← Nat.add_assoc] at hlt ⊢
    have hnext : (value ||| placed byte place).toNat
        = value.toNat + 2 ^ (7 * place) * (byte.toNat % 128) :=
      toNat_or_placed (by omega) hvalue (by omega)
    have hfits : 2 ^ (7 * place) * (byte.toNat % 128) ≤ 2 ^ (7 * place) * 127 :=
      Nat.mul_le_mul_left _ (by omega)
    rw [overlay, ih (by omega) (by rw [hnext, hpow]; omega) (by rw [hnext]; exact hlt), hnext]

/-! ## Main statement -/

/-- **Reading numbers is exact.**  A number of sixty-four bits is written in one to ten bytes and
reads back from them in front of any others.  Bytes begin with a number just when there is an end
to it.  Then the bytes up to there are consumed, and the number is the sum of their low seven bits,
each at its place; it has at most sixty-four bits, so the shifts of a word of sixty-four bits lose
none and make up the same number.  Bytes in which no number ends are refused, fewer than ten as
truncated and others as too long.  No number is read from fewer bytes than are written for it. -/
theorem numbers_exact :
    (∀ (number : UInt64) (suffix : Bytes),
      1 ≤ (write number.toNat).length ∧ (write number.toNat).length ≤ 10
        ∧ read (write number.toNat ++ suffix) = .ok (number.toNat, suffix))
      ∧ (∀ bytes, (∃ found, read bytes = .ok found) ↔ ∃ last, EndsAt bytes last)
      ∧ (∀ bytes last, EndsAt bytes last →
        read bytes = .ok (total (bytes.take (last + 1)), bytes.drop (last + 1))
          ∧ total (bytes.take (last + 1)) < valueLimit
          ∧ (∀ place byte, place ≤ last → bytes[place]? = some byte →
            (placed byte place).toNat = byte.toNat % 128 * 2 ^ (7 * place))
          ∧ (overlay 0 0 (bytes.take (last + 1))).toNat = total (bytes.take (last + 1)))
      ∧ (∀ bytes, (¬ ∃ last, EndsAt bytes last) → ∃ fault, read bytes = .error fault
        ∧ fault.message = if bytes.length < 10 then "truncated varint" else "varint overflow")
      ∧ ∀ bytes value rest, read bytes = .ok (value, rest) →
        (write value).length + rest.length ≤ bytes.length := by
  have hread {bytes : Bytes} {last : Nat} (h : EndsAt bytes last) :
      read bytes = .ok (total (bytes.take (last + 1)), bytes.drop (last + 1)) :=
    exact_read.2 ⟨_, (List.take_append_drop (last + 1) bytes).symm, h.spells⟩
  refine ⟨fun number suffix => ?_, fun bytes => ⟨?_, fun ⟨_, h⟩ => ⟨_, hread h⟩⟩,
    fun bytes last h => ?_, fun bytes hnone => ?_, ?_⟩
  · have hlt : number.toNat < valueLimit := number.toNat_lt
    exact ⟨List.length_pos_of_ne_nil (write_ne_nil _), length_write_le 9 hlt,
      read_write_append hlt suffix⟩
  · rintro ⟨⟨value, rest⟩, hfound⟩
    obtain ⟨word, rfl, hword⟩ := exact_read.1 hfound
    exact ⟨_, hword.endsAt rest⟩
  · have hspells := h.spells
    refine ⟨hread h, hspells.value_lt, fun place byte hplace hbyte => ?_, ?_⟩
    · have htaken : (bytes.take (last + 1))[place]? = some byte := by
        rw [List.getElem?_take, if_pos (Nat.lt_succ_of_le hplace), hbyte]
      obtain ⟨hlength, rfl⟩ := List.getElem?_eq_some_iff.1 htaken
      exact toNat_placed (Nat.lt_of_le_of_lt hplace h.lt_ten)
        (Nat.lt_of_le_of_lt (le_total hlength) hspells.value_lt)
    · have hplace : 0 + (bytes.take (last + 1)).length ≤ 10 := by
        rw [Nat.zero_add]
        exact hspells.length_le
      have hlt : (0 : UInt64).toNat + 2 ^ (7 * 0) * total (bytes.take (last + 1)) < valueLimit := by
        simpa using hspells.value_lt
      have hoverlay := hspells.digits.toNat_overlay hplace (by decide) hlt
      simpa using hoverlay
  · cases hfound : read bytes with
    | ok found =>
      obtain ⟨word, rfl, hword⟩ := exact_read.1 hfound
      exact absurd ⟨_, hword.endsAt found.2⟩ hnone
    | error fault =>
      refine ⟨fault, rfl, ?_⟩
      rw [fault_of_readWithin 9 hfound, apply_ite Fault.message]
      rfl
  · intro bytes value rest hfound
    obtain ⟨word, rfl, hword⟩ := exact_read.1 hfound
    rw [List.length_append]
    exact Nat.add_le_add_right hword.digits.length_write_le _

/-- The largest number takes all ten bytes, of which the last carries one bit. -/
theorem numbers_exact_largest :
    EndsAt [255, 255, 255, 255, 255, 255, 255, 255, 255, 1, 7] 9
      ∧ read [255, 255, 255, 255, 255, 255, 255, 255, 255, 1, 7]
        = .ok (0xffffffffffffffff, [7]) := by
  have hends : EndsAt [255, 255, 255, 255, 255, 255, 255, 255, 255, 1, 7] 9 :=
    ⟨by decide, by decide, fun _ => .inr rfl⟩
  have htotal : total [255, 255, 255, 255, 255, 255, 255, 255, 255, 1] = 0xffffffffffffffff := by
    simp only [total_cons]
    rfl
  refine ⟨hends, (numbers_exact.2.2.1 _ 9 hends).1.trans ?_⟩
  exact congrArg (fun value => Except.ok (value, [7])) htotal

end Coffer.Wire.Varint
