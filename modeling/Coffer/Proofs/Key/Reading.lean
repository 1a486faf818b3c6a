import Coffer.Proofs.Curve.Order
import Coffer.Proofs.Hex

/-!
# Proofs/Key/Reading — which bytes are a public key

A finite point is a **solution** of the equation of the curve in numbers below the prime, and no
solution has zero for its second number; so of the two points with one first coordinate, just one
has an odd second coordinate.  A key is therefore read off two byte strings and no others: its 33
bytes, and the 65 that hold both coordinates (`PublicKey.decode_eq_ok_iff`).
-/

namespace Coffer

open Curve

namespace Curve

/-! ## Solutions -/

/-- **A solution** of the equation of the curve: two numbers below the prime that satisfy it up to
multiples of the prime. -/
structure Solution (x y : Nat) : Prop where
  /-- The first number is below the prime. -/
  x_lt : x < prime
  /-- The second number is below the prime. -/
  y_lt : y < prime
  /-- They satisfy the equation, with all terms on the sides where they are positive. -/
  equation : y ^ 2 + 3 * x ≡ x ^ 3 + constant.val [MOD prime]

open Coordinate in
theorem onCurve_iff {x y : Coordinate} :
    OnCurve x y ↔ y.val ^ 2 + 3 * x.val ≡ x.val ^ 3 + constant.val [MOD prime] := by
  rw [OnCurve, ← residue_inj, ← ZMod.natCast_eq_natCast_iff]
  simp only [residue_add, residue_sub, residue_mul, residue_ofNat, Nat.cast_add, Nat.cast_mul,
    Nat.cast_pow, Nat.cast_ofNat]
  constructor
  · intro h
    change residue y ^ 2 + 3 * residue x = residue x ^ 3 + residue constant
    linear_combination h
  · intro h
    change residue y ^ 2 + 3 * residue x = residue x ^ 3 + residue constant at h
    linear_combination h

/-- **Solutions are the coordinates of finite points.** -/
theorem solution_iff {x y : Nat} :
    Solution x y ↔ ∃ point : FinitePoint, point.x.val = x ∧ point.y.val = y := by
  constructor
  · rintro ⟨hx, hy, hequation⟩
    exact ⟨⟨⟨x, hx⟩, ⟨y, hy⟩, onCurve_iff.2 hequation⟩, rfl, rfl⟩
  · rintro ⟨point, rfl, rfl⟩
    exact ⟨point.x.isLt, point.y.isLt, onCurve_iff.1 point.onCurve⟩

/-- **No finite point has zero for its second coordinate**, since the cubic has no root. -/
theorem FinitePoint.y_ne_zero (point : FinitePoint) : point.y ≠ 0 := by
  intro hzero
  have hequation := point.onCurve
  rw [hzero, OnCurve, ← Coordinate.residue_inj] at hequation
  simp only [Coordinate.residue_add, Coordinate.residue_sub, Coordinate.residue_mul,
    Coordinate.residue_ofNat, Coordinate.residue_zero] at hequation
  exact cubic_ne_zero (Coordinate.residue point.x) (by linear_combination -hequation)

/-- A coordinate and its opposite differ in parity. -/
theorem decide_neg_val_mod_two {y : Coordinate} (hne : y ≠ 0) :
    (decide ((-y).val % 2 = 1)) = !decide (y.val % 2 = 1) := by
  rw [Coordinate.neg_val_mod_two hne]
  rcases Nat.mod_two_eq_zero_or_one y.val with h | h <;> rw [h] <;> rfl

/-- **Of the two points with one first coordinate**, one has either parity. -/
theorem FinitePoint.exists_parity_eq (point : FinitePoint) (odd : Bool) :
    ∃ other : FinitePoint, other.x = point.x ∧ decide (other.y.val % 2 = 1) = odd := by
  by_cases hsame : decide (point.y.val % 2 = 1) = odd
  · exact ⟨point, rfl, hsame⟩
  · have hneg : OnCurve point.x (-point.y) := by
      rw [OnCurve, neg_mul_neg]
      exact point.onCurve
    refine ⟨⟨point.x, -point.y, hneg⟩, rfl, ?_⟩
    rw [decide_neg_val_mod_two point.y_ne_zero]
    exact Bool.not_eq.2 hsame

end Curve

namespace PublicKey

variable {bytes : Bytes} {key : PublicKey}

/-! ## Coordinates -/

theorem coordinateBytes_eq {x : Coordinate} (hlength : bytes.length = 32)
    (hx : x.val = Bytes.ofBigEndian bytes) : coordinateBytes x = bytes := by
  rw [coordinateBytes, hx, ← hlength, Bytes.bigEndian_ofBigEndian]

theorem coordinate?_eq_some_iff {x : Coordinate} (hlength : bytes.length = 32) :
    coordinate? bytes = some x ↔ bytes = coordinateBytes x := by
  constructor
  · intro h
    obtain ⟨_, hx⟩ := Option.dite_none_right_eq_some.1 h
    obtain rfl := Option.some.inj hx
    exact (coordinateBytes_eq hlength rfl).symm
  · rintro rfl
    exact coordinate?_coordinateBytes x

theorem ofCoordinates?_eq_some_iff {x y : Coordinate} {point : FinitePoint} :
    FinitePoint.ofCoordinates? x y = some point ↔ point.x = x ∧ point.y = y := by
  constructor
  · intro h
    obtain ⟨_, hpoint⟩ := Option.dite_none_right_eq_some.1 h
    obtain rfl := Option.some.inj hpoint
    exact ⟨rfl, rfl⟩
  · rintro ⟨rfl, rfl⟩
    exact dif_pos point.onCurve

/-- The root with a parity. -/
theorem mod_two_eq_of_root {odd : Bool} {root y : Coordinate} (hne : y ≠ 0)
    (hy : y = if (root.val % 2 == 1) == odd then root else -root) :
    decide (y.val % 2 = 1) = odd := by
  split at hy
  · rename_i hparity
    rw [hy, ← beq_eq_decide]
    exact beq_iff_eq.1 hparity
  · rename_i hparity
    have hroot : root ≠ 0 := by
      rintro rfl
      exact hne (hy.trans neg_zero)
    rw [hy, decide_neg_val_mod_two hroot, ← beq_eq_decide]
    exact Bool.not_eq.2 fun h => hparity (beq_iff_eq.2 h)

/-- **Decompressing is exact**: there is one point at most with a first coordinate and a parity of
the second. -/
theorem decompress?_eq_some_iff {odd : Bool} {x : Coordinate} {point : FinitePoint} :
    decompress? odd x = some point ↔ point.x = x ∧ decide (point.y.val % 2 = 1) = odd := by
  constructor
  · intro h
    simp only [decompress?, Option.bind_eq_bind, Option.bind_eq_some_iff] at h
    obtain ⟨root, -, hpoint⟩ := h
    obtain ⟨hx, hy⟩ := ofCoordinates?_eq_some_iff.1 hpoint
    exact ⟨hx, mod_two_eq_of_root point.y_ne_zero hy⟩
  · rintro ⟨rfl, rfl⟩
    exact decompress?_eq point

/-! ## Keys -/

/-- **The 65 bytes** that hold both coordinates of a key. -/
def encodeWhole (key : PublicKey) : Bytes :=
  4 :: (coordinateBytes key.point.x ++ coordinateBytes key.point.y)

theorem length_encodeWhole (key : PublicKey) : key.encodeWhole.length = 65 := by
  rw [encodeWhole, List.length_cons, List.length_append, length_coordinateBytes,
    length_coordinateBytes]

section Tags

variable {tag : UInt8} {coordinates : Bytes} {point : FinitePoint}

theorem length_halves (hlength : coordinates.length = 64) :
    (coordinates.take 32).length = 32 ∧ (coordinates.drop 32).length = 32 := by
  rw [List.length_take, List.length_drop, hlength]
  exact ⟨rfl, rfl⟩

theorem point?_four_eq_some_iff (hlength : coordinates.length = 64) :
    point? 4 coordinates = some point ↔ 4 :: coordinates = encodeWhole ⟨point⟩ := by
  obtain ⟨hfront, hback⟩ := length_halves hlength
  simp only [point?, if_pos, Option.bind_eq_bind, Option.bind_eq_some_iff,
    coordinate?_eq_some_iff hfront, coordinate?_eq_some_iff hback, ofCoordinates?_eq_some_iff]
  constructor
  · rintro ⟨x, hx, y, hy, rfl, rfl⟩
    rw [encodeWhole, ← hx, ← hy, List.take_append_drop]
  · intro h
    rw [(List.cons.inj h).2]
    exact ⟨_, List.take_left' (length_coordinateBytes _), _,
      List.drop_left' (length_coordinateBytes _), rfl, rfl⟩

/-- The tag of a key tells whether its second coordinate is odd. -/
theorem tag_eq_iff (htag : tag = 2 ∨ tag = 3) (y : Coordinate) :
    tag = UInt8.ofNat (2 + y.val % 2) ↔ decide (y.val % 2 = 1) = decide (tag = 3) := by
  rcases htag with rfl | rfl <;> rcases Nat.mod_two_eq_zero_or_one y.val with h | h <;>
    rw [h] <;> decide

theorem point?_eq_some_iff (htag : tag = 2 ∨ tag = 3) (hlength : coordinates.length = 32) :
    point? tag coordinates = some point ↔ tag :: coordinates = encode ⟨point⟩ := by
  have hne : tag ≠ 4 := by rcases htag with rfl | rfl <;> decide
  simp only [point?, if_neg hne, Option.bind_eq_bind, Option.bind_eq_some_iff,
    coordinate?_eq_some_iff hlength, decompress?_eq_some_iff, ← tag_eq_iff htag, encode,
    List.cons.injEq]
  constructor
  · rintro ⟨x, hx, rfl, hparity⟩
    exact ⟨hparity, hx⟩
  · rintro ⟨hparity, hx⟩
    exact ⟨_, hx, rfl, hparity⟩

end Tags

/-! ## Shapes -/

/-- **The shape of a point of another curve**: a number of bytes and a tag that such points have. -/
def OtherCurve (bytes : Bytes) : Prop :=
  (bytes.length = 49 ∨ bytes.length = 67) ∧ (bytes.head? = some 2 ∨ bytes.head? = some 3)
    ∨ (bytes.length = 97 ∨ bytes.length = 133) ∧ bytes.head? = some 4

/-- **The shape of a key**: 33 bytes of which the first is two or three, or 65 of which it is
four. -/
def Shaped (bytes : Bytes) : Prop :=
  bytes.length = 33 ∧ (bytes.head? = some 2 ∨ bytes.head? = some 3)
    ∨ bytes.length = 65 ∧ bytes.head? = some 4

theorem OtherCurve.not_shaped (h : OtherCurve bytes) : ¬ Shaped bytes := by
  rintro (⟨hlength, -⟩ | ⟨hlength, -⟩) <;> rcases h with ⟨h, -⟩ | ⟨h, -⟩ <;> omega

theorem shaped_cons_iff {tag : UInt8} {coordinates : Bytes} :
    Shaped (tag :: coordinates) ↔ (coordinates.length + 1 = 33 ∧ (tag = 2 ∨ tag = 3))
      ∨ (coordinates.length + 1 = 65 ∧ tag = 4) := by
  simp only [Shaped, List.length_cons, List.head?_cons, Option.some.injEq]

theorem otherCurve_cons_iff {tag : UInt8} {coordinates : Bytes} :
    OtherCurve (tag :: coordinates)
      ↔ ((coordinates.length + 1 = 49 ∨ coordinates.length + 1 = 67) ∧ (tag = 2 ∨ tag = 3))
        ∨ ((coordinates.length + 1 = 97 ∨ coordinates.length + 1 = 133) ∧ tag = 4) := by
  simp only [OtherCurve, List.length_cons, List.head?_cons, Option.some.injEq]

theorem decode_of_shaped {tag : UInt8} {coordinates : Bytes} (h : Shaped (tag :: coordinates)) :
    decode (tag :: coordinates) = match point? tag coordinates with
      | some point => .ok ⟨point⟩
      | none => .error .invalidPoint := by
  simp only [decode]
  refine (if_pos (shaped_cons_iff.1 h)).trans ?_
  cases point? tag coordinates <;> rfl

theorem decode_of_otherCurve (h : OtherCurve bytes) : decode bytes = .error .curveMismatch := by
  cases bytes with
  | nil => simp [OtherCurve] at h
  | cons tag coordinates =>
    simp only [decode]
    rw [if_neg (mt shaped_cons_iff.2 h.not_shaped), if_pos (otherCurve_cons_iff.1 h)]

theorem decode_of_not (hshaped : ¬ Shaped bytes) (hother : ¬ OtherCurve bytes) :
    decode bytes = .error .invalidPoint := by
  cases bytes with
  | nil => rfl
  | cons tag coordinates =>
    simp only [decode]
    rw [if_neg (mt shaped_cons_iff.2 hshaped), if_neg (mt otherCurve_cons_iff.2 hother)]

theorem shaped_encodeWhole (key : PublicKey) : Shaped key.encodeWhole :=
  .inr ⟨key.length_encodeWhole, rfl⟩

/-- **A key is read off its two forms**, and off no other bytes. -/
theorem decode_eq_ok_iff :
    decode bytes = .ok key ↔ bytes = key.encode ∨ bytes = key.encodeWhole := by
  constructor
  · intro h
    by_cases hshaped : Shaped bytes
    · cases bytes with
      | nil => cases h
      | cons tag coordinates =>
        rw [decode_of_shaped hshaped] at h
        split at h
        · rename_i point hpoint
          obtain rfl := Except.ok.inj h
          obtain ⟨hlength, htag⟩ | ⟨hlength, rfl⟩ := shaped_cons_iff.1 hshaped
          · exact .inl ((point?_eq_some_iff htag (by omega)).1 hpoint)
          · exact .inr ((point?_four_eq_some_iff (by omega)).1 hpoint)
        · cases h
    · by_cases hother : OtherCurve bytes
      · rw [decode_of_otherCurve hother] at h
        cases h
      · rw [decode_of_not hshaped hother] at h
        cases h
  · rintro (rfl | rfl)
    · exact decode_encode key
    · have hpoint : point? 4 (coordinateBytes key.point.x ++ coordinateBytes key.point.y)
          = some key.point := by
        refine (point?_four_eq_some_iff ?_).2 rfl
        rw [List.length_append, length_coordinateBytes, length_coordinateBytes]
      rw [encodeWhole, decode_of_shaped key.shaped_encodeWhole, hpoint]

/-- **Bytes are of another curve** just by their shape. -/
theorem decode_eq_curveMismatch_iff : decode bytes = .error .curveMismatch ↔ OtherCurve bytes := by
  refine ⟨fun h => ?_, decode_of_otherCurve⟩
  by_contra hother
  by_cases hshaped : Shaped bytes
  · cases bytes with
    | nil => cases h
    | cons tag coordinates =>
      rw [decode_of_shaped hshaped] at h
      split at h <;> cases h
  · rw [decode_of_not hshaped hother] at h
    cases h

/-- **All other bytes are no point.** -/
theorem decode_eq_invalidPoint_iff :
    decode bytes = .error .invalidPoint
      ↔ ¬ OtherCurve bytes ∧ ∀ key, decode bytes ≠ .ok key := by
  constructor
  · intro h
    rw [← decode_eq_curveMismatch_iff, h]
    exact ⟨nofun, fun key => nofun⟩
  · rintro ⟨hother, hnone⟩
    by_cases hshaped : Shaped bytes
    · cases bytes with
      | nil => rfl
      | cons tag coordinates =>
        rw [decode_of_shaped hshaped] at hnone ⊢
        split
        · rename_i point hpoint
          rw [hpoint] at hnone
          exact absurd rfl (hnone ⟨point⟩)
        · rfl
    · exact decode_of_not hshaped hother

/-! ## Texts -/

/-- **A key in hexadecimal** reads as its bytes do, in digits of either case. -/
theorem ofHex_of_spells {text : String} (h : Hex.Spells text.toList bytes) :
    ofHex text = decode bytes := by
  simp only [ofHex, Hex.decode_eq_ok_iff.2 h]

theorem ofHex_of_not_spells {text : String} (h : ¬ ∃ bytes, Hex.Spells text.toList bytes) :
    ofHex text = .error .invalidPoint := by
  rw [ofHex]
  split
  · rename_i bytes hbytes
    exact absurd ⟨bytes, Hex.decode_eq_ok_iff.1 hbytes⟩ h
  · rfl

/-! ## The forms in numbers -/

/-- **The first form**: 33 bytes, of which the number behind the tag is the first of a solution. -/
theorem exists_eq_encode_iff : (∃ key : PublicKey, bytes = key.encode)
    ↔ bytes.length = 33 ∧ (bytes.head? = some 2 ∨ bytes.head? = some 3)
      ∧ ∃ y, Solution (Bytes.ofBigEndian bytes.tail) y := by
  constructor
  · rintro ⟨key, rfl⟩
    have htag := tag_eq_two_or_three key.point.y
    refine ⟨key.length_encode, ?_, key.point.y.val, ?_⟩
    · simpa only [encode, List.head?_cons, Option.some.injEq] using htag
    · rw [encode, List.tail_cons, ofBigEndian_coordinateBytes]
      exact solution_iff.2 ⟨key.point, rfl, rfl⟩
  · rintro ⟨hlength, htag, y, hsolution⟩
    obtain ⟨tag, coordinates, rfl⟩ := List.exists_cons_of_length_eq_add_one hlength
    simp only [List.head?_cons, Option.some.injEq, List.tail_cons] at htag hsolution
    obtain ⟨point, hx, -⟩ := solution_iff.1 hsolution
    obtain ⟨other, hother, hparity⟩ := point.exists_parity_eq (decide (tag = 3))
    refine ⟨⟨other⟩, ?_⟩
    rw [encode, ← (tag_eq_iff htag other.y).2 hparity, hother,
      coordinateBytes_eq (Nat.succ.inj hlength) hx]

/-- **The second form**: 65 bytes, of which the two numbers behind the tag are a solution. -/
theorem exists_eq_encodeWhole_iff : (∃ key : PublicKey, bytes = key.encodeWhole)
    ↔ bytes.length = 65 ∧ bytes.head? = some 4
      ∧ Solution (Bytes.ofBigEndian (bytes.tail.take 32)) (Bytes.ofBigEndian (bytes.tail.drop 32))
    := by
  constructor
  · rintro ⟨key, rfl⟩
    refine ⟨key.length_encodeWhole, rfl, ?_⟩
    rw [encodeWhole, List.tail_cons, List.take_left' (length_coordinateBytes _),
      List.drop_left' (length_coordinateBytes _), ofBigEndian_coordinateBytes,
      ofBigEndian_coordinateBytes]
    exact solution_iff.2 ⟨key.point, rfl, rfl⟩
  · rintro ⟨hlength, htag, hsolution⟩
    obtain ⟨tag, coordinates, rfl⟩ := List.exists_cons_of_length_eq_add_one hlength
    simp only [List.head?_cons, Option.some.injEq, List.tail_cons] at htag hsolution
    obtain ⟨point, hx, hy⟩ := solution_iff.1 hsolution
    obtain ⟨hfront, hback⟩ := length_halves (Nat.succ.inj hlength)
    refine ⟨⟨point⟩, ?_⟩
    rw [encodeWhole, htag, coordinateBytes_eq hfront hx, coordinateBytes_eq hback hy,
      List.take_append_drop]

/-- **Reading public keys is exact.**  Bytes have the shape of another curve's point, or are a key,
or are reported as no point.  They are a key just when they are 33 with a tag of two or three in
front of a number that belongs to a solution, or 65 with a tag of four in front of a solution.  What
is written of a key has 33 bytes and reads back, and 33 bytes that read are what is written; the two
forms of one solution read as one key, and different keys are written differently.  Hexadecimal in
digits of either case reads as its bytes do, and other texts are no point. -/
theorem decode_exact :
    (∀ bytes, decode bytes = .error .curveMismatch ↔ OtherCurve bytes)
      ∧ (∀ bytes, (∃ key, decode bytes = .ok key)
        ↔ (bytes.length = 33 ∧ (bytes.head? = some 2 ∨ bytes.head? = some 3)
            ∧ ∃ y, Solution (Bytes.ofBigEndian bytes.tail) y)
          ∨ (bytes.length = 65 ∧ bytes.head? = some 4
            ∧ Solution (Bytes.ofBigEndian (bytes.tail.take 32))
              (Bytes.ofBigEndian (bytes.tail.drop 32))))
      ∧ (∀ bytes, decode bytes = .error .invalidPoint
        ↔ ¬ OtherCurve bytes ∧ ∀ key, decode bytes ≠ .ok key)
      ∧ (∀ key : PublicKey, key.encode.length = 33 ∧ decode key.encode = .ok key)
      ∧ (∀ bytes key, bytes.length = 33 → decode bytes = .ok key → key.encode = bytes)
      ∧ (∀ x y, Solution x y → ∃ key, key.point.x.val = x ∧ key.point.y.val = y
        ∧ decode (UInt8.ofNat (2 + y % 2) :: Bytes.bigEndian 32 x) = .ok key
        ∧ decode (4 :: (Bytes.bigEndian 32 x ++ Bytes.bigEndian 32 y)) = .ok key)
      ∧ Function.Injective encode
      ∧ (∀ text bytes, Hex.Spells text.toList bytes → ofHex text = decode bytes)
      ∧ ∀ text, (¬ ∃ bytes, Hex.Spells text.toList bytes) → ofHex text = .error .invalidPoint := by
  refine ⟨fun bytes => decode_eq_curveMismatch_iff, fun bytes => ?_,
    fun bytes => decode_eq_invalidPoint_iff, fun key => ⟨key.length_encode, key.decode_encode⟩,
    fun bytes key hlength h => ?_, fun x y hsolution => ?_, encode_injective,
    fun text bytes => ofHex_of_spells, fun text => ofHex_of_not_spells⟩
  · simp only [decode_eq_ok_iff, exists_or, exists_eq_encode_iff, exists_eq_encodeWhole_iff]
  · rcases decode_eq_ok_iff.1 h with rfl | rfl
    · rfl
    · rw [length_encodeWhole] at hlength
      omega
  · obtain ⟨point, rfl, rfl⟩ := solution_iff.1 hsolution
    exact ⟨⟨point⟩, rfl, rfl, decode_eq_ok_iff.2 (.inl rfl), decode_eq_ok_iff.2 (.inr rfl)⟩

/-- Both forms of the base point read as one key. -/
theorem decode_exact_base : Solution base.x.val base.y.val ∧ ∃ key : PublicKey,
    key.point.x.val = base.x.val ∧ key.point.y.val = base.y.val
      ∧ decode (UInt8.ofNat (2 + base.y.val % 2) :: Bytes.bigEndian 32 base.x.val) = .ok key
      ∧ decode (4 :: (Bytes.bigEndian 32 base.x.val ++ Bytes.bigEndian 32 base.y.val)) = .ok key :=
  have hbase := solution_iff.2 ⟨base, rfl, rfl⟩
  ⟨hbase, decode_exact.2.2.2.2.2.1 _ _ hbase⟩

end PublicKey

end Coffer
