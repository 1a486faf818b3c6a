import Mathlib.Data.List.Induction
import Coffer.Proofs.Json.Tokens

/-!
# Proofs/Json/Value — which values are natural numbers, and the members of an object by name

The notation has one spelling in digits alone for each natural number, so a value that can be
spelled is a natural number just when it is the one that is written for it
(`Json.natural?_eq_some_iff`).  An object has one member of a name just when it is, in some order,
that member and others of other names (`Json.perm_cons_of_membersNamed`), and the same goes for
several names at once (`Json.exists_perm_membersOf_append_iff`).
-/

namespace Coffer.Json

/-! ## Decimal digits -/

theorem exists_eq_digitChar {c : Char} (h : isDigit c = true) :
    ∃ digit, digit < 10 ∧ c.toNat - '0'.toNat = digit ∧ c = Nat.digitChar digit := by
  rw [isDigit, Bool.and_eq_true, decide_eq_true_eq, decide_eq_true_eq] at h
  have hlower : 48 ≤ c.toNat := h.1
  have hupper : c.toNat ≤ 57 := h.2
  have hzero : '0'.toNat = 48 := rfl
  refine ⟨c.toNat - 48, by omega, rfl, Char.toNat_inj.1 ?_⟩
  rw [Nat.toNat_digitChar_of_lt_ten (by omega)]
  omega

theorem decimal_append_singleton (digits : List Char) (c : Char) :
    decimal (digits ++ [c]) = 10 * decimal digits + (c.toNat - '0'.toNat) := by
  rw [decimal, List.foldl_append]
  rfl

/-- **No other digits spell the number**, unless they begin with zero. -/
theorem toDigits_decimal {digits : List Char} (h : Digits digits)
    (hzero : ∀ c ∈ digits.head?, c ≠ '0') :
    0 < decimal digits ∧ Nat.toDigits 10 (decimal digits) = digits := by
  induction digits using List.reverseRecOn with
  | nil => exact absurd rfl h.1
  | append_singleton front c ih =>
    have hlast := h.2 c (List.mem_append_right front (List.mem_singleton_self c))
    obtain ⟨digit, hlt, hdigit, rfl⟩ := exists_eq_digitChar hlast
    rw [decimal_append_singleton, hdigit]
    cases front with
    | nil =>
      have hdigit : digit ≠ 0 := by
        rintro rfl
        exact hzero '0' rfl rfl
      rw [show decimal [] = 0 from rfl, Nat.mul_zero, Nat.zero_add, List.nil_append]
      exact ⟨Nat.pos_of_ne_zero hdigit, Nat.toDigits_of_lt_base hlt⟩
    | cons first others =>
      obtain ⟨hpos, hfront⟩ := ih
        ⟨List.cons_ne_nil first others, fun c hc => h.2 c (List.mem_append_left _ hc)⟩ hzero
      rw [← Nat.toDigits_append_toDigits (by decide) hpos hlt, hfront, Nat.toDigits_of_lt_base hlt]
      exact ⟨by omega, rfl⟩

/-! ## Natural numbers -/

theorem ofNat_eq (n : Nat) : ofNat n = number (Nat.toDigits 10 n) := congrArg number Nat.toList_repr

theorem isDigit_of_mem_toDigits {n : Nat} {c : Char} (h : c ∈ Nat.toDigits 10 n) :
    isDigit c = true := Nat.isDigit_of_mem_toDigits (by decide) (by decide) h

theorem natural?_ofNat (n : Nat) : (ofNat n).natural? = some n := by
  rw [ofNat_eq, natural?, if_pos (List.all_eq_true.2 fun _ => isDigit_of_mem_toDigits)]
  exact congrArg some (Nat.ofDigitChars_toDigits (by decide) (by decide))

/-- The digits of a number do not begin with zero, unless it is zero. -/
theorem head?_toDigits_ne {n : Nat} (hn : n ≠ 0) : ∀ c ∈ (Nat.toDigits 10 n).head?, c ≠ '0' := by
  induction n using Nat.strong_induction_on with
  | _ n ih =>
  by_cases hlt : n < 10
  · rw [Nat.toDigits_of_lt_base hlt]
    rintro _ ⟨⟩ hzero
    have hdigit := Nat.toNat_digitChar_of_lt_ten hlt
    have hcode : '0'.toNat = 48 := rfl
    rw [hzero, hcode] at hdigit
    omega
  · have hfront := ih (n / 10) (by omega) (by omega)
    rw [Nat.toDigits_of_base_le (by decide) (Nat.not_lt.1 hlt)]
    obtain ⟨first, others, hcons⟩ :=
      List.exists_cons_of_ne_nil (Nat.toDigits_ne_nil (n := n / 10) (b := 10))
    rw [hcons] at hfront ⊢
    exact hfront

theorem whole_toDigits (n : Nat) : Whole (Nat.toDigits 10 n) := by
  obtain rfl | hn := eq_or_ne n 0
  · exact .inl rfl
  · exact .inr ⟨⟨Nat.toDigits_ne_nil, fun _ => isDigit_of_mem_toDigits⟩, head?_toDigits_ne hn⟩

theorem number_toDigits (n : Nat) : Number (Nat.toDigits 10 n) := by
  have h := Unsigned.mk (whole_toDigits n) .none .none
  rw [List.append_nil, List.append_nil] at h
  exact .plain h

theorem Whole.eq_toDigits {whole : List Char} (h : Whole whole) :
    whole = Nat.toDigits 10 (decimal whole) := by
  obtain rfl | ⟨hdigits, hzero⟩ := h
  · rfl
  · exact (toDigits_decimal hdigits hzero).2.symm

/-- A number without a sign is a whole part, or has a point or the mark of an exponent. -/
theorem Unsigned.whole_or_mem {digits : List Char} (h : Unsigned digits) :
    Whole digits ∨ '.' ∈ digits ∨ 'e' ∈ digits ∨ 'E' ∈ digits := by
  obtain ⟨hwhole, hfraction, hexponent⟩ := h
  cases hfraction with
  | some => exact .inr (.inl (List.mem_append_right _ (List.mem_cons_self ..)))
  | none =>
    cases hexponent with
    | some hmark =>
      refine .inr (.inr (hmark.imp ?_ ?_))
      · rintro rfl
        exact List.mem_append_right _ (List.mem_cons_self ..)
      · rintro rfl
        exact List.mem_append_right _ (List.mem_cons_self ..)
    | none =>
      rw [List.append_nil, List.append_nil]
      exact .inl hwhole

/-- A number in digits alone has a whole part and nothing else. -/
theorem Unsigned.eq_toDigits {digits : List Char} (h : Unsigned digits)
    (hall : ∀ c ∈ digits, isDigit c = true) : digits = Nat.toDigits 10 (decimal digits) := by
  obtain hwhole | hpoint | hlower | hupper := h.whole_or_mem
  · exact hwhole.eq_toDigits
  · exact absurd (hall '.' hpoint) (by decide)
  · exact absurd (hall 'e' hlower) (by decide)
  · exact absurd (hall 'E' hupper) (by decide)

/-- **A value is a natural number** just when it is the one that is written for it. -/
theorem natural?_eq_some_iff {chars : List Char} {value : Json} (h : Spells chars value) {n : Nat} :
    value.natural? = some n ↔ value = ofNat n := by
  refine ⟨fun hn => ?_, fun heq => heq ▸ natural?_ofNat n⟩
  cases h with
  | number h =>
    obtain ⟨hall, hn⟩ := Option.ite_none_right_eq_some.1 hn
    rw [List.all_eq_true] at hall
    obtain rfl := Option.some.inj hn
    rw [ofNat_eq]
    cases h with
    | plain h => exact congrArg number (h.eq_toDigits hall)
    | negative => exact absurd (hall '-' (List.mem_cons_self ..)) (by decide)
  | _ => cases hn

/-! ## Items and members -/

theorem Listed.exists_of_mem {α : Type} {Item : List Char → α → Prop} {chars : List Char}
    {items : List α} (h : Listed Item chars items) : ∀ item ∈ items, ∃ chars, Item chars item := by
  induction h with
  | last _ hitem => exact List.forall_mem_singleton.2 ⟨_, hitem⟩
  | cons _ hitem _ _ ih => exact List.forall_mem_cons.2 ⟨⟨_, hitem⟩, ih⟩

theorem Spells.exists_of_mem_array {chars : List Char} {items : List Json}
    (h : Spells chars (.array items)) : ∀ item ∈ items, ∃ chars, Spells chars item := by
  cases h with
  | emptyArray => exact List.forall_mem_nil _
  | array h => exact h.exists_of_mem

theorem Spells.exists_of_mem_object {chars : List Char}
    {members : List (Option (List Char) × Json)} (h : Spells chars (.object members)) :
    ∀ member ∈ members, ∃ chars, Spells chars member.2 := by
  cases h with
  | emptyObject => exact List.forall_mem_nil _
  | object h =>
    intro member hmember
    obtain ⟨_, ⟨_, _, _, hvalue⟩⟩ := h.exists_of_mem member hmember
    exact ⟨_, hvalue⟩

section Members

variable {name : String} {members others : List (Option (List Char) × Json)} {value : Json}

/-- **A member is found by its name** if the name is not repeated and every name is a text. -/
theorem member?_eq_some_iff {found : Option Json} : member? name members = some found
    ↔ (∀ member ∈ members, member.1.isSome = true)
      ∧ membersNamed name members = found.toList := by
  rw [member?]
  split
  · rename_i hall
    rw [List.all_eq_true] at hall
    simp only [and_iff_right hall]
    split
    · rename_i hnamed
      cases found <;> simp [hnamed]
    · rename_i value hnamed
      cases found <;> simp [hnamed]
    · rename_i hnil hsingle
      cases found with
      | none => exact iff_of_false nofun hnil
      | some value => exact iff_of_false nofun (hsingle value)
  · rename_i hall
    exact iff_of_false nofun fun h => hall (List.all_eq_true.2 h.1)

theorem member?_eq_some_some_iff : member? name members = some (some value)
    ↔ (∀ member ∈ members, member.1.isSome = true) ∧ membersNamed name members = [value] :=
  member?_eq_some_iff

theorem length_membersNamed :
    (membersNamed name members).length = (members.map Prod.fst).count (some name.toList) := by
  rw [membersNamed, List.length_map, List.count, List.countP_map, List.countP_eq_length_filter]
  rfl

theorem membersNamed_perm (name : String) (h : members.Perm others) :
    (membersNamed name members).Perm (membersNamed name others) := (h.filter _).map _

theorem membersNamed_eq_nil (h : ∀ member ∈ members, member.1 ≠ some name.toList) :
    membersNamed name members = [] := by
  rw [membersNamed, List.map_eq_nil_iff, List.filter_eq_nil_iff]
  exact fun member hmember heq => h member hmember (eq_of_beq heq)

theorem membersNamed_cons_self :
    membersNamed name ((some name.toList, value) :: members)
      = value :: membersNamed name members := by
  simp only [membersNamed, List.filter_cons, beq_self_eq_true, if_true, List.map_cons]

theorem membersNamed_cons_of_ne {member : Option (List Char) × Json}
    (h : member.1 ≠ some name.toList) :
    membersNamed name (member :: members) = membersNamed name members := by
  simp only [membersNamed, List.filter_cons, beq_eq_false_iff_ne.2 h, Bool.false_eq_true, if_false]

theorem mem_membersNamed_iff :
    value ∈ membersNamed name members ↔ (some name.toList, value) ∈ members := by
  rw [membersNamed, List.mem_map]
  constructor
  · rintro ⟨member, hmember, rfl⟩
    obtain ⟨hmember, hname⟩ := List.mem_filter.1 hmember
    exact eq_of_beq hname ▸ hmember
  · exact fun h => ⟨_, List.mem_filter.2 ⟨h, beq_self_eq_true _⟩, rfl⟩

/-- Members of a name are not lost by a filter that keeps them all. -/
theorem membersNamed_filter {p : Option (List Char) × Json → Bool}
    (h : ∀ member, member.1 = some name.toList → p member = true) :
    membersNamed name (members.filter p) = membersNamed name members := by
  have hkept (member : Option (List Char) × Json) :
      (member.1 == some name.toList && p member) = (member.1 == some name.toList) := by
    rw [Bool.and_eq_left_iff_imp, beq_iff_eq]
    exact h member
  rw [membersNamed, List.filter_filter, List.filter_congr fun member _ => hkept member,
    ← membersNamed]

theorem membersNamed_filter_ne {other : String} (h : name ≠ other) :
    membersNamed name (members.filter fun member => member.1 != some other.toList)
      = membersNamed name members := by
  refine membersNamed_filter fun member hname => bne_iff_ne.2 ?_
  rw [hname]
  exact fun heq => h (String.toList_inj.1 (Option.some.inj heq))

/-- **The members of a name come first**, in some order, and then the others. -/
theorem perm_membersNamed_append (name : String) (members : List (Option (List Char) × Json)) :
    members.Perm ((membersNamed name members).map (Prod.mk (some name.toList))
      ++ members.filter fun member => member.1 != some name.toList) := by
  have hnamed : (membersNamed name members).map (Prod.mk (some name.toList))
      = members.filter fun member => member.1 == some name.toList := by
    rw [membersNamed, List.map_map]
    refine (List.map_congr_left fun member hmember => ?_).trans (List.map_id _)
    exact Prod.ext (eq_of_beq (List.mem_filter.1 hmember).2).symm rfl
  rw [hnamed]
  exact (List.filter_append_perm (fun member => member.1 == some name.toList) members).symm

/-- **An object with one member of a name** has, in some order, that member and others. -/
theorem perm_cons_of_membersNamed (h : membersNamed name members = [value]) :
    members.Perm ((some name.toList, value)
      :: members.filter fun member => member.1 != some name.toList) := by
  have hperm := perm_membersNamed_append name members
  rwa [h] at hperm

/-! What an object has under several names, all of them different. -/

/-- The members that have values under names. -/
def membersOf (named : List (String × List Json)) : List (Option (List Char) × Json) :=
  named.flatMap fun pair => pair.2.map (Prod.mk (some pair.1.toList))

theorem membersNamed_append (name : String) (members others : List (Option (List Char) × Json)) :
    membersNamed name (members ++ others)
      = membersNamed name members ++ membersNamed name others := by
  rw [membersNamed, List.filter_append, List.map_append]
  rfl

theorem membersNamed_map_self (name : String) (values : List Json) :
    membersNamed name (values.map (Prod.mk (some name.toList))) = values := by
  induction values with
  | nil => rfl
  | cons value values ih => rw [List.map_cons, membersNamed_cons_self, ih]

theorem fst_of_mem_membersOf {named : List (String × List Json)}
    {member : Option (List Char) × Json} (h : member ∈ membersOf named) :
    ∃ pair ∈ named, member.1 = some pair.1.toList := by
  obtain ⟨pair, hpair, hmember⟩ := List.mem_flatMap.1 h
  obtain ⟨value, -, rfl⟩ := List.mem_map.1 hmember
  exact ⟨pair, hpair, rfl⟩

theorem membersNamed_membersOf {named : List (String × List Json)}
    (hnames : named.Pairwise fun pair other => pair.1 ≠ other.1) :
    ∀ pair ∈ named, membersNamed pair.1 (membersOf named) = pair.2 := by
  induction named with
  | nil => exact List.forall_mem_nil _
  | cons first named ih =>
    obtain ⟨hne, hnames⟩ := List.pairwise_cons.1 hnames
    have hsplit (name : String) : membersNamed name (membersOf (first :: named))
        = membersNamed name (first.2.map (Prod.mk (some first.1.toList)))
          ++ membersNamed name (membersOf named) := by
      rw [membersOf, List.flatMap_cons, membersNamed_append]
      rfl
    refine List.forall_mem_cons.2 ⟨?_, fun pair hpair => ?_⟩
    · rw [hsplit, membersNamed_map_self, membersNamed_eq_nil, List.append_nil]
      intro member hmember heq
      obtain ⟨pair, hpair, hname⟩ := fst_of_mem_membersOf hmember
      exact hne pair hpair (String.toList_inj.1 (Option.some.inj (heq.symm.trans hname)))
    · rw [hsplit, ih hnames pair hpair, membersNamed_eq_nil, List.nil_append]
      intro member hmember heq
      obtain ⟨value, -, rfl⟩ := List.mem_map.1 hmember
      exact hne pair hpair (String.toList_inj.1 (Option.some.inj heq))

/-- **Members are those of given names and others**, in some order, just when each of the names has
the given values, in some order. -/
theorem exists_perm_membersOf_append_iff {named : List (String × List Json)}
    (hnames : named.Pairwise fun pair other => pair.1 ≠ other.1) :
    (∃ others, members.Perm (membersOf named ++ others)
      ∧ ∀ other ∈ others, ∀ pair ∈ named, other.1 ≠ some pair.1.toList)
      ↔ ∀ pair ∈ named, (membersNamed pair.1 members).Perm pair.2 := by
  constructor
  · rintro ⟨others, hperm, hothers⟩ pair hpair
    have hnamed := membersNamed_perm pair.1 hperm
    rwa [membersNamed_append, membersNamed_membersOf hnames pair hpair,
      membersNamed_eq_nil fun other hother => hothers other hother pair hpair,
      List.append_nil] at hnamed
  · intro h
    induction named generalizing members with
    | nil => exact ⟨members, .refl _, fun _ _ => List.forall_mem_nil _⟩
    | cons first named ih =>
      obtain ⟨hne, hnames⟩ := List.pairwise_cons.1 hnames
      obtain ⟨hfirst, hnamed⟩ := List.forall_mem_cons.1 h
      -- the members of the first name come off, and do not matter to the other names
      have hrest : ∀ pair ∈ named, (membersNamed pair.1
          (members.filter fun member => member.1 != some first.1.toList)).Perm pair.2 := by
        intro pair hpair
        rw [membersNamed_filter_ne (hne pair hpair).symm]
        exact hnamed pair hpair
      obtain ⟨others, hperm, hothers⟩ := ih hnames hrest
      refine ⟨others, ?_, fun other hother => List.forall_mem_cons.2 ⟨?_, hothers other hother⟩⟩
      · rw [membersOf, List.flatMap_cons, List.append_assoc]
        exact (perm_membersNamed_append first.1 members).trans ((hfirst.map _).append hperm)
      · have hmem := hperm.mem_iff.2 (List.mem_append_right _ hother)
        exact bne_iff_ne.1 (List.mem_filter.1 hmem).2

end Members

end Coffer.Json
