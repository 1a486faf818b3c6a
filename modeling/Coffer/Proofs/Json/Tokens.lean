import Mathlib.Data.List.TakeWhile
import Coffer.Proofs.Json.Grammar
import Coffer.Proofs.Text

/-!
# Proofs/Json/Tokens — white space, numbers and strings are read as they are spelled

Each reader takes what the notation has in front and leaves the rest.  A reader of numbers goes on
as far as it can: it finds the number in front when what follows does not go on with it
(`Json.Ends`), as after any number in a text.  A string says where it ends, so nothing is asked of
what follows.
-/

namespace Coffer.Json

variable {chars rest : List Char}

/-! ## White space -/

theorem space_nil : Space [] := List.forall_mem_nil _

theorem skipSpace_append {space : List Char} (h : Space space) :
    skipSpace (space ++ chars) = skipSpace chars := List.dropWhile_append_of_pos h

theorem skipSpace_cons {c : Char} (h : isSpace c = false) : skipSpace (c :: rest) = c :: rest :=
  List.dropWhile_cons_of_neg (Bool.eq_false_iff.1 h)

theorem exists_eq_append_skipSpace (chars : List Char) :
    ∃ space, Space space ∧ chars = space ++ skipSpace chars :=
  ⟨chars.takeWhile isSpace, fun _ => List.mem_takeWhile_imp, List.takeWhile_append_dropWhile.symm⟩

theorem skipSpace_eq_nil_iff : skipSpace chars = [] ↔ Space chars := List.dropWhile_eq_nil_iff

/-! ## Numbers -/

/-- **Nothing goes on with a number.** -/
def Ends (rest : List Char) : Prop :=
  ∀ c ∈ rest.head?, isDigit c = false ∧ c ≠ '.' ∧ c ≠ 'e' ∧ c ≠ 'E'

theorem digits_of_readDigits {digits : List Char} (h : readDigits chars = some (digits, rest)) :
    Digits digits ∧ chars = digits ++ rest := by
  simp only [readDigits, List.span_eq_takeWhile_dropWhile] at h
  split at h
  · cases h
  · rename_i hne
    obtain ⟨rfl, rfl⟩ := Prod.mk.inj (Option.some.inj h)
    exact ⟨⟨fun hnil => hne _ (Prod.ext hnil rfl), fun _ => List.mem_takeWhile_imp⟩,
      List.takeWhile_append_dropWhile.symm⟩

theorem readDigits_append {digits : List Char} (h : Digits digits)
    (hrest : ∀ c ∈ rest.head?, isDigit c = false) :
    readDigits (digits ++ rest) = some (digits, rest) := by
  rw [readDigits, List.span_append_of_pos h.2 hrest]
  split
  · rename_i heq
    exact absurd (Prod.mk.inj heq).1 h.1
  · rfl

theorem whole_of_readWhole {whole : List Char} (h : readWhole chars = some (whole, rest)) :
    Whole whole ∧ chars = whole ++ rest := by
  rw [readWhole.eq_def] at h
  split at h
  · obtain ⟨rfl, rfl⟩ := Prod.mk.inj (Option.some.inj h)
    exact ⟨.inl rfl, rfl⟩
  · rename_i hne
    obtain ⟨hdigits, rfl⟩ := digits_of_readDigits h
    refine ⟨.inr ⟨hdigits, fun c hc hzero => ?_⟩, rfl⟩
    cases whole with
    | nil => cases hc
    | cons first others =>
      obtain rfl := Option.some.inj hc
      exact hne (others ++ rest) (hzero ▸ rfl)

theorem readWhole_append {whole : List Char} (h : Whole whole)
    (hrest : ∀ c ∈ rest.head?, isDigit c = false) :
    readWhole (whole ++ rest) = some (whole, rest) := by
  rw [readWhole.eq_def]
  obtain rfl | ⟨hdigits, hzero⟩ := h
  · rfl
  · split
    · rename_i heq
      cases whole with
      | nil => exact absurd rfl hdigits.1
      | cons first others => exact absurd (List.cons.inj heq).1 (hzero first rfl)
    · exact readDigits_append hdigits hrest

theorem fraction_of_readFraction {fraction : List Char}
    (h : readFraction chars = some (fraction, rest)) :
    Fraction fraction ∧ chars = fraction ++ rest := by
  rw [readFraction.eq_def] at h
  split at h
  · obtain ⟨⟨digits, _⟩, hread, h⟩ := Option.bind_eq_some_iff.1 h
    obtain ⟨rfl, rfl⟩ := Prod.mk.inj (Option.some.inj h)
    obtain ⟨hdigits, rfl⟩ := digits_of_readDigits hread
    exact ⟨.some hdigits, rfl⟩
  · obtain ⟨rfl, rfl⟩ := Prod.mk.inj (Option.some.inj h)
    exact ⟨.none, rfl⟩

theorem readFraction_append {fraction : List Char} (h : Fraction fraction)
    (hrest : ∀ c ∈ rest.head?, isDigit c = false ∧ c ≠ '.') :
    readFraction (fraction ++ rest) = some (fraction, rest) := by
  cases h with
  | none =>
    rw [List.nil_append, readFraction.eq_def]
    split
    · exact absurd rfl (hrest '.' rfl).2
    · rfl
  | some hdigits =>
    rw [List.cons_append, readFraction, readDigits_append hdigits fun c hc => (hrest c hc).1]
    rfl

theorem sign_of_readSign {sign : List Char} (h : readSign chars = (sign, rest)) :
    sign ∈ [[], ['+'], ['-']] ∧ chars = sign ++ rest := by
  rw [readSign.eq_def] at h
  split at h
  · obtain ⟨rfl, rfl⟩ := Prod.mk.inj h
    exact ⟨by decide, rfl⟩
  · obtain ⟨rfl, rfl⟩ := Prod.mk.inj h
    exact ⟨by decide, rfl⟩
  · obtain ⟨rfl, rfl⟩ := Prod.mk.inj h
    exact ⟨by decide, rfl⟩

theorem readSign_append {sign digits : List Char} (h : sign ∈ [[], ['+'], ['-']])
    (hdigits : Digits digits) : readSign (sign ++ (digits ++ rest)) = (sign, digits ++ rest) := by
  obtain ⟨first, others, rfl⟩ := List.exists_cons_of_ne_nil hdigits.1
  have hfirst := hdigits.2 first (List.mem_cons_self ..)
  simp only [List.mem_cons, List.not_mem_nil, or_false] at h
  obtain rfl | rfl | rfl := h
  · rw [List.nil_append, readSign.eq_def]
    split
    · rename_i heq
      rw [(List.cons.inj heq).1] at hfirst
      cases hfirst
    · rename_i heq
      rw [(List.cons.inj heq).1] at hfirst
      cases hfirst
    · rfl
  · rfl
  · rfl

theorem exponent_of_readExponent {exponent : List Char}
    (h : readExponent chars = some (exponent, rest)) :
    Exponent exponent ∧ chars = exponent ++ rest := by
  rw [readExponent.eq_def] at h
  split at h
  · obtain ⟨rfl, rfl⟩ := Prod.mk.inj (Option.some.inj h)
    exact ⟨.none, rfl⟩
  · rename_i mark after
    split at h
    · rename_i hmark
      cases hread : readSign after with
      | mk sign unsigned =>
      rw [hread] at h
      obtain ⟨hsign, rfl⟩ := sign_of_readSign hread
      obtain ⟨⟨digits, _⟩, hread, h⟩ := Option.bind_eq_some_iff.1 h
      obtain ⟨rfl, rfl⟩ := Prod.mk.inj (Option.some.inj h)
      obtain ⟨hdigits, rfl⟩ := digits_of_readDigits hread
      rw [Bool.or_eq_true, beq_iff_eq, beq_iff_eq] at hmark
      exact ⟨.some hmark hsign hdigits, by rw [List.cons_append, List.append_assoc]⟩
    · obtain ⟨rfl, rfl⟩ := Prod.mk.inj (Option.some.inj h)
      exact ⟨.none, rfl⟩

theorem readExponent_append {exponent : List Char} (h : Exponent exponent)
    (hrest : Ends rest) : readExponent (exponent ++ rest) = some (exponent, rest) := by
  cases h with
  | none =>
    rw [List.nil_append, readExponent.eq_def]
    split
    · rfl
    · rename_i mark after
      obtain ⟨-, -, hlower, hupper⟩ := hrest mark rfl
      rw [beq_eq_false_iff_ne.2 hlower, beq_eq_false_iff_ne.2 hupper]
      rfl
  | @some mark sign digits hmark hsign hdigits =>
    rw [← beq_iff_eq, ← beq_iff_eq (b := 'E'), ← Bool.or_eq_true] at hmark
    rw [List.cons_append, List.append_assoc, readExponent, if_pos hmark]
    simp only [readSign_append hsign hdigits, readDigits_append hdigits fun c hc => (hrest c hc).1]
    rfl

theorem unsigned_of_readUnsigned {digits : List Char}
    (h : readUnsigned chars = some (digits, rest)) : Unsigned digits ∧ chars = digits ++ rest := by
  obtain ⟨⟨whole, _⟩, hreadWhole, h⟩ := Option.bind_eq_some_iff.1 h
  obtain ⟨⟨fraction, _⟩, hreadFraction, h⟩ := Option.bind_eq_some_iff.1 h
  obtain ⟨⟨exponent, _⟩, hreadExponent, h⟩ := Option.bind_eq_some_iff.1 h
  obtain ⟨rfl, rfl⟩ := Prod.mk.inj (Option.some.inj h)
  obtain ⟨hwhole, rfl⟩ := whole_of_readWhole hreadWhole
  obtain ⟨hfraction, rfl⟩ := fraction_of_readFraction hreadFraction
  obtain ⟨hexponent, rfl⟩ := exponent_of_readExponent hreadExponent
  rw [List.append_assoc whole]
  exact ⟨.mk hwhole hfraction hexponent, by simp only [List.append_assoc]⟩

/-- An exponent is no part of what stands in front of it. -/
theorem Exponent.head?_append {exponent : List Char} (h : Exponent exponent) (hrest : Ends rest) :
    ∀ c ∈ (exponent ++ rest).head?, isDigit c = false ∧ c ≠ '.' := by
  cases h with
  | none => exact fun c hc => ⟨(hrest c hc).1, (hrest c hc).2.1⟩
  | @some mark sign digits hmark =>
    rintro _ ⟨⟩
    obtain rfl | rfl := hmark
    · decide
    · decide

theorem Fraction.head?_append {fraction : List Char} (h : Fraction fraction)
    (hrest : ∀ c ∈ rest.head?, isDigit c = false ∧ c ≠ '.') :
    ∀ c ∈ (fraction ++ rest).head?, isDigit c = false := by
  cases h with
  | none => exact fun c hc => (hrest c hc).1
  | some =>
    rintro c ⟨⟩
    rfl

theorem readUnsigned_append {digits : List Char} (h : Unsigned digits) (hrest : Ends rest) :
    readUnsigned (digits ++ rest) = some (digits, rest) := by
  obtain ⟨hwhole, hfraction, hexponent⟩ := h
  have hbehind := hexponent.head?_append hrest
  have hdigits := hfraction.head?_append hbehind
  simp only [readUnsigned, List.append_assoc, readWhole_append hwhole hdigits,
    readFraction_append hfraction hbehind, readExponent_append hexponent hrest, Option.bind_eq_bind,
    Option.bind_some, Option.pure_def]

theorem number_of_readNumber {digits : List Char} (h : readNumber chars = some (digits, rest)) :
    Number digits ∧ chars = digits ++ rest := by
  rw [readNumber.eq_def] at h
  split at h
  · obtain ⟨⟨digits, _⟩, hread, h⟩ := Option.bind_eq_some_iff.1 h
    obtain ⟨rfl, rfl⟩ := Prod.mk.inj (Option.some.inj h)
    obtain ⟨hdigits, rfl⟩ := unsigned_of_readUnsigned hread
    exact ⟨.negative hdigits, rfl⟩
  · obtain ⟨hdigits, rfl⟩ := unsigned_of_readUnsigned h
    exact ⟨.plain hdigits, rfl⟩

theorem Whole.exists_cons {whole : List Char} (h : Whole whole) :
    ∃ first others, whole = first :: others ∧ isDigit first = true := by
  obtain rfl | ⟨⟨hne, hdigits⟩, -⟩ := h
  · exact ⟨'0', [], rfl, rfl⟩
  · obtain ⟨first, others, rfl⟩ := List.exists_cons_of_ne_nil hne
    exact ⟨first, others, rfl, hdigits first (List.mem_cons_self ..)⟩

theorem Unsigned.exists_cons {digits : List Char} (h : Unsigned digits) :
    ∃ first others, digits = first :: others ∧ isDigit first = true := by
  obtain ⟨hwhole, -, -⟩ := h
  obtain ⟨first, others, rfl, hfirst⟩ := hwhole.exists_cons
  exact ⟨first, _, rfl, hfirst⟩

theorem Number.exists_cons {digits : List Char} (h : Number digits) :
    ∃ first others, digits = first :: others ∧ (isDigit first = true ∨ first = '-') := by
  cases h with
  | plain h =>
    obtain ⟨first, others, rfl, hfirst⟩ := h.exists_cons
    exact ⟨first, others, rfl, .inl hfirst⟩
  | negative => exact ⟨'-', _, rfl, .inr rfl⟩

theorem readNumber_append {digits : List Char} (h : Number digits) (hrest : Ends rest) :
    readNumber (digits ++ rest) = some (digits, rest) := by
  cases h with
  | plain h =>
    obtain ⟨first, others, heq, hfirst⟩ := h.exists_cons
    rw [readNumber.eq_def]
    split
    · rename_i hminus
      rw [heq, List.cons_append] at hminus
      rw [(List.cons.inj hminus).1] at hfirst
      cases hfirst
    · exact readUnsigned_append h hrest
  | negative h =>
    rw [List.cons_append, readNumber, readUnsigned_append h hrest]
    rfl

/-! ## Strings -/

theorem exists_spellsPieces_of_readPieces {pieces : List Piece}
    (h : readPieces chars = some (pieces, rest)) :
    ∃ spelled, SpellsPieces spelled pieces ∧ chars = spelled ++ '"' :: rest := by
  fun_induction readPieces chars generalizing pieces with
  | case1 => cases h
  | case2 =>
    obtain ⟨rfl, rfl⟩ := Prod.mk.inj (Option.some.inj h)
    exact ⟨[], .nil, rfl⟩
  | case3 a b c d after ih =>
    obtain ⟨value, hvalue, h⟩ := Option.bind_eq_some_iff.1 h
    obtain ⟨⟨others, _⟩, hothers, h⟩ := Option.bind_eq_some_iff.1 h
    obtain ⟨rfl, rfl⟩ := Prod.mk.inj (Option.some.inj h)
    obtain ⟨spelled, hspelled, rfl⟩ := ih hothers
    exact ⟨_, .cons (.unit hvalue) hspelled, rfl⟩
  | case4 c after _ ih =>
    obtain ⟨meant, hmeant, h⟩ := Option.bind_eq_some_iff.1 h
    obtain ⟨⟨others, _⟩, hothers, h⟩ := Option.bind_eq_some_iff.1 h
    obtain ⟨rfl, rfl⟩ := Prod.mk.inj (Option.some.inj h)
    obtain ⟨spelled, hspelled, rfl⟩ := ih hothers
    exact ⟨_, .cons (.escape hmeant) hspelled, rfl⟩
  | case5 => cases h
  | case6 c after hquote _ hescape hcontrol ih =>
    obtain ⟨⟨others, _⟩, hothers, h⟩ := Option.bind_eq_some_iff.1 h
    obtain ⟨rfl, rfl⟩ := Prod.mk.inj (Option.some.inj h)
    obtain ⟨spelled, hspelled, rfl⟩ := ih hothers
    refine ⟨_, .cons (.plain hquote (fun hslash => ?_) (Nat.not_lt.1 hcontrol)) hspelled, rfl⟩
    -- a quote at least comes behind, so this would have been read as an escape
    obtain ⟨first, others, heq⟩ := List.exists_cons_of_ne_nil
      (List.append_ne_nil_of_right_ne_nil spelled (List.cons_ne_nil '"' _))
    exact hescape first others hslash heq

theorem SpellsPiece.readPieces_append {spelled : List Char} {piece : Piece}
    (h : SpellsPiece spelled piece) :
    readPieces (spelled ++ chars)
      = (readPieces chars).map fun (pieces, rest) => (piece :: pieces, rest) := by
  cases h with
  | plain hquote hslash hcontrol =>
    rw [List.cons_append, List.nil_append, readPieces, if_neg (Nat.not_lt.2 hcontrol)]
    · cases readPieces chars <;> rfl
    · exact hquote
    · exact fun _ _ _ _ _ h => absurd h hslash
    · exact fun _ _ h => absurd h hslash
  | @escape c meant hmeant =>
    rw [List.cons_append, List.cons_append, List.nil_append, readPieces, hmeant]
    · cases readPieces chars <;> rfl
    · rintro _ _ _ _ _ rfl
      cases hmeant
  | unit hvalue =>
    simp only [List.cons_append, List.nil_append, readPieces, hvalue]
    cases readPieces chars <;> rfl

/-- **A string is read up to its quote**: the first one that is not part of a piece. -/
theorem SpellsPieces.readPieces_append {spelled : List Char} {pieces : List Piece}
    (h : SpellsPieces spelled pieces) :
    readPieces (spelled ++ '"' :: rest) = some (pieces, rest) := by
  induction h with
  | nil => rfl
  | cons hpiece _ ih =>
    rw [List.append_assoc, hpiece.readPieces_append, ih]
    rfl

theorem exists_spellsPieces_of_readString {content : Option (List Char)}
    (h : readString chars = some (content, rest)) : ∃ spelled pieces,
      SpellsPieces spelled pieces ∧ content = spell? pieces ∧ chars = spelled ++ '"' :: rest := by
  obtain ⟨⟨pieces, _⟩, hpieces, h⟩ := Option.bind_eq_some_iff.1 h
  obtain ⟨rfl, rfl⟩ := Prod.mk.inj (Option.some.inj h)
  obtain ⟨spelled, hspelled, rfl⟩ := exists_spellsPieces_of_readPieces hpieces
  exact ⟨spelled, pieces, hspelled, rfl, rfl⟩

theorem SpellsPieces.readString_append {spelled : List Char} {pieces : List Piece}
    (h : SpellsPieces spelled pieces) :
    readString (spelled ++ '"' :: rest) = some (spell? pieces, rest) := by
  rw [readString, h.readPieces_append]
  rfl

end Coffer.Json
