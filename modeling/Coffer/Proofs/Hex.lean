import Coffer.Hex
import Coffer.Proofs.Outcome
import Coffer.Proofs.Text

/-!
# Proofs/Hex — which texts are hexadecimal, and what is wrong with the others

A text **spells** a byte string when it has two digits for each byte, high half first, each in
either case (`Hex.Spells`); nothing else is read (`Hex.decode_eq_ok_iff`).  What is reported of
another text looks at its bytes in UTF-8: their number first, then the first of them that is no
digit, and last whether there are as many as were asked for (`Hex.decodeBlock_eq_error_iff`).
-/

namespace Coffer.Hex

open Text (charOf)

/-! ## Digits -/

/-- The digits in order, the letters in lower case. -/
def lowerDigits : List Char := "0123456789abcdef".toList

/-- The digits in order, the letters in upper case. -/
def upperDigits : List Char := "0123456789ABCDEF".toList

/-- **A digit for a value**: the one that stands there among the digits of either case. -/
def Digit (c : Char) (value : Nat) : Prop :=
  lowerDigits[value]? = some c ∨ upperDigits[value]? = some c

instance (c : Char) (value : Nat) : Decidable (Digit c value) := inferInstanceAs (Decidable (_ ∨ _))

/-- **A byte is a digit** when it is the character of one. -/
def IsDigit (byte : UInt8) : Prop := ∃ value, Digit (charOf byte) value

theorem Digit.value_lt {c : Char} {value : Nat} (h : Digit c value) : value < 16 := by
  rcases h with h | h <;> exact (List.getElem?_eq_some_iff.1 h).1

theorem Digit.mem {c : Char} {value : Nat} (h : Digit c value) : c ∈ lowerDigits ++ upperDigits :=
  List.mem_append.2 (h.imp List.mem_of_getElem? List.mem_of_getElem?)

theorem Digit.toNat_lt {c : Char} {value : Nat} (h : Digit c value) : c.toNat < 128 := by
  have hall : (lowerDigits ++ upperDigits).all (·.toNat < 128) = true := by decide
  exact of_decide_eq_true (List.all_eq_true.1 hall c h.mem)

/-- What holds of every digit in its place holds of the digits for a value. -/
theorem Digit.of_forall {motive : Char → Nat → Prop} {c : Char} {value : Nat} (h : Digit c value)
    (hlower : ∀ place : Fin lowerDigits.length, motive lowerDigits[place] place)
    (hupper : ∀ place : Fin upperDigits.length, motive upperDigits[place] place) :
    motive c value := by
  obtain h | h := h
  · obtain ⟨hlt, rfl⟩ := List.getElem?_eq_some_iff.1 h
    exact hlower ⟨value, hlt⟩
  · obtain ⟨hlt, rfl⟩ := List.getElem?_eq_some_iff.1 h
    exact hupper ⟨value, hlt⟩

private theorem digitValue?_of_digit {c : Char} {value : Nat} (h : Digit c value) :
    digitValue? (UInt8.ofNat c.toNat) = some value :=
  h.of_forall (motive := fun c value => digitValue? (UInt8.ofNat c.toNat) = some value)
    (by decide) (by decide)

private theorem digit_ofNat : ∀ value : Fin 16,
    (value.val < 10 → Digit (Char.ofNat (48 + value)) value)
      ∧ (10 ≤ value.val → Digit (Char.ofNat (87 + value)) value
        ∧ Digit (Char.ofNat (55 + value)) value) := by
  decide

/-- **The reader of digits is exact.** -/
theorem digitValue?_eq_some_iff {byte : UInt8} {value : Nat} :
    digitValue? byte = some value ↔ Digit (charOf byte) value := by
  constructor
  · intro h
    -- the three ranges of digits, each with its distance from the values
    have hrange : (byte.toNat = 48 + value ∧ value < 10)
        ∨ ((byte.toNat = 87 + value ∨ byte.toNat = 55 + value) ∧ 10 ≤ value ∧ value < 16) := by
      simp only [digitValue?] at h
      split at h
      · have hvalue := Option.some.inj h
        omega
      · split at h
        · have hvalue := Option.some.inj h
          omega
        · obtain ⟨hupper, hvalue⟩ := Option.ite_none_right_eq_some.1 h
          have hvalue := Option.some.inj hvalue
          omega
    rw [charOf]
    obtain ⟨hbyte, hlt⟩ | ⟨hbyte | hbyte, hle, hlt⟩ := hrange
    · rw [hbyte]
      exact (digit_ofNat ⟨value, by omega⟩).1 hlt
    · rw [hbyte]
      exact ((digit_ofNat ⟨value, hlt⟩).2 hle).1
    · rw [hbyte]
      exact ((digit_ofNat ⟨value, hlt⟩).2 hle).2
  · intro h
    rw [← byte.ofNat_toNat, ← Text.toNat_charOf]
    exact digitValue?_of_digit h

theorem digitValue?_eq_none_iff {byte : UInt8} : digitValue? byte = none ↔ ¬ IsDigit byte := by
  simp only [IsDigit, Option.eq_none_iff_forall_ne_some, ne_eq, digitValue?_eq_some_iff, not_exists]

/-! ## Pairs of digits -/

/-- **What spells a byte string**: two digits for each byte, high half first. -/
inductive Spells : List Char → Bytes → Prop
  /-- No digits spell no bytes. -/
  | nil : Spells [] []
  /-- Two digits more spell one byte more. -/
  | cons {high low : Char} {chars : List Char} {byte : UInt8} {bytes : Bytes}
    (hhigh : Digit high (byte.toNat / 16)) (hlow : Digit low (byte.toNat % 16))
    (hrest : Spells chars bytes) : Spells (high :: low :: chars) (byte :: bytes)

theorem Spells.length_eq {chars : List Char} {bytes : Bytes} (h : Spells chars bytes) :
    chars.length = 2 * bytes.length := by
  induction h with
  | nil => rfl
  | cons _ _ _ ih =>
    simp only [List.length_cons, ih]
    omega

theorem Spells.exists_digit {chars : List Char} {bytes : Bytes} (h : Spells chars bytes) :
    ∀ c ∈ chars, ∃ value, Digit c value := by
  induction h with
  | nil => exact List.forall_mem_nil _
  | cons hhigh hlow _ ih =>
    exact List.forall_mem_cons.2 ⟨⟨_, hhigh⟩, List.forall_mem_cons.2 ⟨⟨_, hlow⟩, ih⟩⟩

/-- The byte of two halves. -/
theorem toNat_ofNat_halves {high low : Nat} (hhigh : high < 16) (hlow : low < 16) :
    (UInt8.ofNat (16 * high + low)).toNat / 16 = high
      ∧ (UInt8.ofNat (16 * high + low)).toNat % 16 = low := by
  rw [UInt8.toNat_ofNat']
  omega

theorem ofNat_halves (byte : UInt8) :
    UInt8.ofNat (16 * (byte.toNat / 16) + byte.toNat % 16) = byte := by
  rw [Nat.div_add_mod, UInt8.ofNat_toNat]

theorem eq_nil_of_even_of_short {digits : Bytes} (heven : digits.length % 2 = 0)
    (hshort : ∀ high low rest, digits = high :: low :: rest → False) : digits = [] := by
  match digits, heven, hshort with
  | [], _, _ => rfl
  | [_], heven, _ => cases heven
  | high :: low :: rest, _, hshort => exact (hshort high low rest rfl).elim

/-- **The reader of pairs is exact**, as long as nothing is left over. -/
theorem decodePairs_eq_ok_iff {index : Nat} {digits bytes : Bytes}
    (heven : digits.length % 2 = 0) :
    decodePairs index digits = .ok bytes ↔ Spells (digits.map charOf) bytes := by
  induction index, digits using decodePairs.induct generalizing bytes with
  | case1 index high low rest h l hlow hhigh ih =>
    have hrest : rest.length % 2 = 0 := by
      simp only [List.length_cons] at heven
      omega
    have hhighDigit := digitValue?_eq_some_iff.1 hhigh
    have hlowDigit := digitValue?_eq_some_iff.1 hlow
    obtain ⟨hhighHalf, hlowHalf⟩ := toNat_ofNat_halves hhighDigit.value_lt hlowDigit.value_lt
    simp only [decodePairs, hhigh, hlow, Except.bind_pure_eq_ok_iff, ih hrest]
    constructor
    · rintro ⟨others, hothers, rfl⟩
      exact .cons (hhighHalf.symm ▸ hhighDigit) (hlowHalf.symm ▸ hlowDigit) hothers
    · intro hspells
      cases hspells with
      | @cons _ _ _ byte others hfirst hsecond hothers =>
        rw [← digitValue?_eq_some_iff, hhigh, Option.some.injEq] at hfirst
        rw [← digitValue?_eq_some_iff, hlow, Option.some.injEq] at hsecond
        exact ⟨others, hothers, by rw [hfirst, hsecond, ofNat_halves]⟩
  | case2 index high low rest hhigh =>
    simp only [decodePairs, hhigh, reduceCtorEq, false_iff]
    intro hspells
    exact digitValue?_eq_none_iff.1 hhigh (hspells.exists_digit _ (List.mem_cons_self ..))
  | case3 index high low rest h hlow hhigh =>
    simp only [decodePairs, hhigh, hlow, reduceCtorEq, false_iff]
    intro hspells
    exact digitValue?_eq_none_iff.1 hlow
      (hspells.exists_digit _ (List.mem_cons_of_mem _ (List.mem_cons_self ..)))
  | case4 digits index hshort =>
    obtain rfl : digits = [] := eq_nil_of_even_of_short heven hshort
    rw [decodePairs, Except.ok.injEq, List.map_nil]
    · constructor
      · rintro rfl
        exact .nil
      · intro hspells
        cases hspells
        rfl
    · exact hshort

/-! ## The first bad digit -/

/-- **The first byte that is no digit**, and its place. -/
def FirstBad (digits : Bytes) (byte : UInt8) (place : Nat) : Prop :=
  ¬ IsDigit byte ∧ ∃ before after, digits = before ++ byte :: after ∧ before.length = place
    ∧ ∀ earlier ∈ before, IsDigit earlier

section FirstBad

variable {digits : Bytes} {digit byte : UInt8} {place : Nat}

theorem not_firstBad_nil : ¬ FirstBad [] byte place := by
  rintro ⟨-, before, after, h, -⟩
  exact List.append_ne_nil_of_right_ne_nil before (List.cons_ne_nil byte after) h.symm

theorem firstBad_cons_of_not_isDigit (h : ¬ IsDigit digit) :
    FirstBad (digit :: digits) byte place ↔ byte = digit ∧ place = 0 := by
  constructor
  · rintro ⟨-, before, after, heq, rfl, hbefore⟩
    cases before with
    | nil => exact ⟨(List.cons.inj heq).1.symm, rfl⟩
    | cons first before =>
      obtain rfl := (List.cons.inj heq).1
      exact absurd (hbefore digit (List.mem_cons_self ..)) h
  · rintro ⟨rfl, rfl⟩
    exact ⟨h, [], digits, rfl, rfl, List.forall_mem_nil _⟩

theorem firstBad_cons_of_isDigit (h : IsDigit digit) :
    FirstBad (digit :: digits) byte place ↔ ∃ later, FirstBad digits byte later ∧ later + 1 = place
    := by
  constructor
  · rintro ⟨hbad, before, after, heq, rfl, hbefore⟩
    cases before with
    | nil =>
      obtain rfl := (List.cons.inj heq).1
      exact absurd h hbad
    | cons first before =>
      exact ⟨before.length, ⟨hbad, before, after, (List.cons.inj heq).2, rfl,
        (List.forall_mem_cons.1 hbefore).2⟩, rfl⟩
  · rintro ⟨_, ⟨hbad, before, after, rfl, rfl, hbefore⟩, rfl⟩
    exact ⟨hbad, digit :: before, after, rfl, rfl, List.forall_mem_cons.2 ⟨h, hbefore⟩⟩

theorem FirstBad.not_forall_isDigit (h : FirstBad digits byte place) :
    ¬ ∀ digit ∈ digits, IsDigit digit := by
  obtain ⟨hbad, before, after, rfl, -⟩ := h
  exact fun hall => hbad (hall byte (List.mem_append_right before (List.mem_cons_self ..)))

end FirstBad

/-- **The first byte that is no digit** is reported, with its place. -/
theorem decodePairs_eq_error_iff {index : Nat} {digits : Bytes} {fault : Fault}
    (heven : digits.length % 2 = 0) :
    decodePairs index digits = .error fault
      ↔ ∃ byte place, FirstBad digits byte place ∧ .badDigit byte (index + place) = fault := by
  induction index, digits using decodePairs.induct with
  | case1 index high low rest h l hlow hhigh ih =>
    have hrest : rest.length % 2 = 0 := by
      simp only [List.length_cons] at heven
      omega
    have hhighDigit : IsDigit high := ⟨h, digitValue?_eq_some_iff.1 hhigh⟩
    have hlowDigit : IsDigit low := ⟨l, digitValue?_eq_some_iff.1 hlow⟩
    simp only [decodePairs, hhigh, hlow, Except.bind_pure_eq_error_iff, ih hrest,
      firstBad_cons_of_isDigit hhighDigit, firstBad_cons_of_isDigit hlowDigit]
    have hplace (place : Nat) : index + (place + 1 + 1) = index + 2 + place := by omega
    constructor
    · rintro ⟨byte, place, hbad, rfl⟩
      exact ⟨byte, place + 1 + 1, ⟨place + 1, ⟨place, hbad, rfl⟩, rfl⟩,
        congrArg (Fault.badDigit byte) (hplace place)⟩
    · rintro ⟨byte, _, ⟨_, ⟨place, hbad, rfl⟩, rfl⟩, rfl⟩
      exact ⟨byte, place, hbad, congrArg (Fault.badDigit byte) (hplace place).symm⟩
  | case2 index high low rest hhigh =>
    simp only [decodePairs, hhigh,
      firstBad_cons_of_not_isDigit (digitValue?_eq_none_iff.1 hhigh), Except.error.injEq]
    constructor
    · rintro rfl
      exact ⟨high, 0, ⟨rfl, rfl⟩, rfl⟩
    · rintro ⟨_, _, ⟨rfl, rfl⟩, rfl⟩
      rfl
  | case3 index high low rest h hlow hhigh =>
    have hhighDigit : IsDigit high := ⟨h, digitValue?_eq_some_iff.1 hhigh⟩
    simp only [decodePairs, hhigh, hlow, firstBad_cons_of_isDigit hhighDigit,
      firstBad_cons_of_not_isDigit (digitValue?_eq_none_iff.1 hlow), Except.error.injEq]
    constructor
    · rintro rfl
      exact ⟨low, 1, ⟨0, ⟨rfl, rfl⟩, rfl⟩, rfl⟩
    · rintro ⟨_, _, ⟨_, ⟨rfl, rfl⟩, rfl⟩, rfl⟩
      rfl
  | case4 digits index hshort =>
    obtain rfl : digits = [] := eq_nil_of_even_of_short heven hshort
    rw [decodePairs]
    · exact iff_of_false nofun fun ⟨byte, place, hbad, _⟩ => not_firstBad_nil hbad
    · exact hshort

/-! ## Texts -/

/-- Whether digits are looked for among the characters or among the bytes makes no difference. -/
theorem spells_map_charOf_iff {text : String} {bytes : Bytes} :
    Spells ((Text.Utf8.encode text).map charOf) bytes ↔ Spells text.toList bytes := by
  constructor
  · intro h
    have hsmall : ∀ byte ∈ Text.Utf8.encode text, byte.toNat < 128 := by
      intro byte hbyte
      obtain ⟨value, hdigit⟩ := h.exists_digit _ (List.mem_map_of_mem hbyte)
      rw [← Text.toNat_charOf]
      exact hdigit.toNat_lt
    rwa [Text.map_charOf_encode (Text.toNat_lt_of_mem_toList hsmall)] at h
  · intro h
    rwa [Text.map_charOf_encode fun c hc => (h.exists_digit c hc).elim fun _ => Digit.toNat_lt]

/-- **Reading is exact**: a text reads as a byte string just when it spells it. -/
theorem decode_eq_ok_iff {text : String} {bytes : Bytes} :
    decode text = .ok bytes ↔ Spells text.toList bytes := by
  rw [← spells_map_charOf_iff]
  simp only [decode]
  split
  · rename_i hodd
    refine iff_of_false nofun fun h => ?_
    have hlength := h.length_eq
    rw [List.length_map] at hlength
    omega
  · exact decodePairs_eq_ok_iff (by omega)

/-- **What is wrong with the bytes of a text** that should spell a block of a size. -/
inductive Flaw (size : Nat) (digits : Bytes) : Fault → Prop
  /-- The number of bytes is odd. -/
  | oddLength (hodd : digits.length % 2 = 1) : Flaw size digits .oddLength
  /-- The number is even, but not every byte is a digit, and this is the first that is none. -/
  | badDigit {byte : UInt8} {place : Nat} (heven : digits.length % 2 = 0)
    (hbad : FirstBad digits byte place) : Flaw size digits (.badDigit byte place)
  /-- The number is even and every byte is a digit, but there are too few or too many. -/
  | wrongLength (heven : digits.length % 2 = 0) (hdigits : ∀ digit ∈ digits, IsDigit digit)
    (hlength : digits.length ≠ 2 * size) : Flaw size digits .wrongLength

variable {size : Nat} {text : String}

/-- **Reading a block is exact**: a text reads as a block just when it spells its bytes. -/
theorem decodeBlock_eq_ok_iff {block : Block size} :
    decodeBlock size text = .ok block ↔ Spells text.toList block.bytes := by
  rw [decodeBlock, Except.bind_eq_ok_iff]
  constructor
  · rintro ⟨bytes, hbytes, h⟩
    split at h
    · rename_i found hfound
      obtain rfl := Except.ok.inj h
      rw [Block.ofBytes?_eq_some_iff.1 hfound]
      exact decode_eq_ok_iff.1 hbytes
    · cases h
  · intro h
    refine ⟨block.bytes, decode_eq_ok_iff.2 h, ?_⟩
    rw [Block.ofBytes?_bytes]
    rfl

/-- **What is reported** of a text that spells no block is what is wrong with its bytes. -/
theorem decodeBlock_eq_error_iff {fault : Fault} :
    decodeBlock size text = .error fault ↔ Flaw size (Text.Utf8.encode text) fault := by
  by_cases hodd : (Text.Utf8.encode text).length % 2 = 1
  · have hdecode : decode text = .error .oddLength := if_pos hodd
    rw [decodeBlock, hdecode]
    constructor
    · rintro ⟨⟩
      exact .oddLength hodd
    · rintro (_ | ⟨heven, _⟩ | ⟨heven, _⟩)
      · rfl
      · omega
      · omega
  have heven : (Text.Utf8.encode text).length % 2 = 0 := by omega
  have hdecode : decode text = decodePairs 0 (Text.Utf8.encode text) := if_neg hodd
  rw [decodeBlock, Except.bind_eq_error_iff, hdecode, decodePairs_eq_error_iff heven]
  constructor
  · rintro (⟨byte, place, hbad, rfl⟩ | ⟨bytes, hbytes, h⟩)
    · rw [Nat.zero_add]
      exact .badDigit heven hbad
    · have hspells := (decodePairs_eq_ok_iff heven).1 hbytes
      have hlength := hspells.length_eq
      rw [List.length_map] at hlength
      split at h
      · cases h
      · rename_i hnone
        obtain rfl := Except.error.inj h
        refine .wrongLength heven (fun digit hdigit => ?_) fun hsize => ?_
        · exact hspells.exists_digit _ (List.mem_map_of_mem hdigit)
        · have hblock : Block.ofBytes? size bytes = some ⟨bytes, by omega⟩ :=
            Block.ofBytes?_eq_some_iff.2 rfl
          rw [hnone] at hblock
          cases hblock
  · rintro (hodd | ⟨_, hbad⟩ | ⟨_, hdigits, hlength⟩)
    · omega
    · exact .inl ⟨_, _, hbad, by rw [Nat.zero_add]⟩
    · right
      cases hpairs : decodePairs 0 (Text.Utf8.encode text) with
      | error found =>
        obtain ⟨byte, place, hbad, -⟩ := (decodePairs_eq_error_iff heven).1 hpairs
        exact absurd hdigits hbad.not_forall_isDigit
      | ok bytes =>
        have hspells := ((decodePairs_eq_ok_iff heven).1 hpairs).length_eq
        rw [List.length_map] at hspells
        have hblock : Block.ofBytes? size bytes = none := dif_neg (by omega)
        refine ⟨bytes, rfl, ?_⟩
        rw [hblock]
        rfl

/-! ## Writing -/

private theorem digit_ofFin : ∀ value : Fin 16, Digit (digit value) value := by decide

theorem digit_digit {value : Nat} (h : value < 16) : Digit (digit value) value :=
  digit_ofFin ⟨value, h⟩

/-- **Of the digits for a value**, the one in lower case is written. -/
theorem Digit.toLower_eq {c : Char} {value : Nat} (h : Digit c value) : c.toLower = digit value :=
  h.of_forall (motive := fun c value => c.toLower = digit value) (by decide) (by decide)

/-- **What is written spells** the byte string. -/
theorem spells_flatMap_byteDigits (bytes : Bytes) : Spells (bytes.flatMap byteDigits) bytes := by
  induction bytes with
  | nil => exact .nil
  | cons byte bytes ih =>
    have hlt := byte.toNat_lt
    exact .cons (digit_digit (by omega)) (digit_digit (by omega)) ih

/-- **Whatever spells a byte string** is what is written for it, but for the case of the letters. -/
theorem Spells.map_toLower {chars : List Char} {bytes : Bytes} (h : Spells chars bytes) :
    chars.map Char.toLower = bytes.flatMap byteDigits := by
  induction h with
  | nil => rfl
  | cons hhigh hlow _ ih =>
    rw [List.map_cons, List.map_cons, hhigh.toLower_eq, hlow.toLower_eq, ih]
    rfl

end Coffer.Hex
