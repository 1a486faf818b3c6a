import Coffer.Proofs.Json.Tokens

/-!
# Proofs/Json/Reading — a text is read as the value it spells

The reader of values finds only what is spelled in front (`Json.sound_readValue`), and it finds
every value that is not spelled by more characters than it may nest values
(`Json.readValue_append`).  Both are inductions on that depth; the steps between, through the items
of an array and the members of an object, hold for readers of items of any kind.  A text is read as
deep as it is long, so it is read just when it is a text of a value (`Json.ofText?_eq_some_iff`).
-/

namespace Coffer.Json

variable {α : Type} {read : List Char → Option (α × List Char)} {Item : List Char → α → Prop}
  {chars rest : List Char} {close : Char}

/-- **A reader finds only what is there**, behind white space. -/
def Sound (read : List Char → Option (α × List Char)) (Item : List Char → α → Prop) : Prop :=
  ∀ chars item rest, read chars = some (item, rest) →
    ∃ before spelled, Space before ∧ Item spelled item ∧ chars = before ++ (spelled ++ rest)

/-- **A reader finds whatever is there** and is not spelled by more than so many characters. -/
def Complete (size : Nat) (read : List Char → Option (α × List Char))
    (Item : List Char → α → Prop) : Prop :=
  ∀ before spelled item rest, Space before → Item spelled item → spelled.length ≤ size →
    Ends rest → read (before ++ (spelled ++ rest)) = some (item, rest)

/-- What an item begins with can be told from white space and from the closing mark. -/
def Starts (close : Char) (Item : List Char → α → Prop) : Prop :=
  ∀ spelled item, Item spelled item →
    ∃ first others, spelled = first :: others ∧ isSpace first = false ∧ first ≠ close

/-! ## Marks -/

theorem eq_of_isSpace {c : Char} (h : isSpace c = true) :
    c = ' ' ∨ c = '\n' ∨ c = '\t' ∨ c = '\r' := by
  simpa only [isSpace, Bool.or_eq_true, beq_iff_eq, or_assoc] using h

theorem Space.ends_append {space : List Char} (h : Space space) (hrest : Ends rest) :
    Ends (space ++ rest) := by
  cases space with
  | nil => exact hrest
  | cons first others =>
    rintro _ ⟨⟩
    obtain rfl | rfl | rfl | rfl := eq_of_isSpace (h first (List.mem_cons_self ..)) <;> decide

/-- The marks that close an array and an object. -/
def Closes (close : Char) : Prop := close = ']' ∨ close = '\x7d'

theorem Closes.ne_comma (h : Closes close) : close ≠ ',' := by
  obtain rfl | rfl := h <;> decide

theorem Closes.isSpace (h : Closes close) : isSpace close = false := by
  obtain rfl | rfl := h <;> rfl

theorem Closes.ends (h : Closes close) : Ends (close :: rest) := by
  rintro _ ⟨⟩
  obtain rfl | rfl := h <;> decide

theorem ends_comma : Ends (',' :: rest) := by
  rintro _ ⟨⟩
  decide

/-! ## Items -/

/-- What stands between an opening mark and the closing one: white space, or items. -/
def Enclosed (Item : List Char → α → Prop) (chars : List Char) (items : List α) : Prop :=
  Space chars ∧ items = [] ∨ Listed Item chars items

theorem Sound.listed_of_readItems (h : Sound read Item) {fuel : Nat} {items : List α}
    (hread : readItems read close fuel chars = some (items, rest)) :
    ∃ spelled, Listed Item spelled items ∧ chars = spelled ++ close :: rest := by
  induction fuel generalizing chars items with
  | zero => cases hread
  | succ fuel ih =>
    obtain ⟨⟨first, behind⟩, hfirst, hrest⟩ := Option.bind_eq_some_iff.1 hread
    obtain ⟨before, spelled, hbefore, hspelled, rfl⟩ := h _ _ _ hfirst
    obtain ⟨after, hafter, hbehind⟩ := exists_eq_append_skipSpace behind
    simp only at hrest
    split at hrest
    · cases hrest
    · rename_i mark behind hmark
      rw [hbehind, hmark]
      split at hrest
      · rename_i hclose
        obtain ⟨rfl, rfl⟩ := Prod.mk.inj (Option.some.inj hrest)
        obtain rfl := eq_of_beq hclose
        exact ⟨_, .last hbefore hspelled hafter, by simp only [List.append_assoc]⟩
      · split at hrest
        · rename_i hcomma
          obtain ⟨⟨others, _⟩, hothers, hrest⟩ := Option.bind_eq_some_iff.1 hrest
          obtain ⟨rfl, rfl⟩ := Prod.mk.inj (Option.some.inj hrest)
          obtain rfl := eq_of_beq hcomma
          obtain ⟨spelledOthers, hlisted, rfl⟩ := ih hothers
          exact ⟨_, .cons hbefore hspelled hafter hlisted,
            by simp only [List.append_assoc, List.cons_append]⟩
        · cases hrest

theorem Sound.enclosed_of_readEnclosed (h : Sound read Item) {items : List α}
    (hread : readEnclosed read close chars = some (items, rest)) :
    ∃ spelled, Enclosed Item spelled items ∧ chars = spelled ++ close :: rest := by
  rw [readEnclosed] at hread
  split at hread
  · cases hread
  · rename_i mark others hmark
    split at hread
    · rename_i hclose
      obtain ⟨rfl, rfl⟩ := Prod.mk.inj (Option.some.inj hread)
      obtain rfl := eq_of_beq hclose
      obtain ⟨space, hspace, heq⟩ := exists_eq_append_skipSpace chars
      exact ⟨space, .inl ⟨hspace, rfl⟩, hmark ▸ heq⟩
    · obtain ⟨spelled, hlisted, heq⟩ := h.listed_of_readItems hread
      exact ⟨spelled, .inr hlisted, heq⟩

/-- **The items are found** up to the closing mark; each takes a character at least. -/
theorem Complete.readItems_append {size : Nat} (h : Complete size read Item) (hclose : Closes close)
    {spelled : List Char} {items : List α} (hlisted : Listed Item spelled items)
    (hsize : spelled.length ≤ size) {fuel : Nat} (hfuel : spelled.length < fuel) :
    readItems read close fuel (spelled ++ close :: rest) = some (items, rest) := by
  induction hlisted generalizing fuel with
  | @last before chars after item hbefore hitem hafter =>
    obtain ⟨fuel, rfl⟩ := Nat.exists_eq_add_one_of_ne_zero (Nat.ne_zero_of_lt hfuel)
    simp only [List.length_append] at hsize
    have hread := h before chars item (after ++ close :: rest) hbefore hitem (by omega)
      (hafter.ends_append hclose.ends)
    simp only [readItems, List.append_assoc, hread, Option.bind_eq_bind, Option.bind_some,
      skipSpace_append hafter, skipSpace_cons hclose.isSpace, beq_self_eq_true, if_true]
    rfl
  | @cons before chars after others item items hbefore hitem hafter hothers ih =>
    obtain ⟨fuel, rfl⟩ := Nat.exists_eq_add_one_of_ne_zero (Nat.ne_zero_of_lt hfuel)
    simp only [List.length_append, List.length_cons] at hsize hfuel
    have hread := h before chars item (after ++ ',' :: (others ++ close :: rest)) hbefore hitem
      (by omega) (hafter.ends_append ends_comma)
    have hcomma : (',' == close) = false := beq_eq_false_iff_ne.2 hclose.ne_comma.symm
    have hrest : readItems read close fuel (others ++ close :: rest) = some (items, rest) :=
      ih (by omega) (by omega)
    simp only [readItems, List.append_assoc, List.cons_append, hread, Option.bind_eq_bind,
      Option.bind_some, skipSpace_append hafter, skipSpace_cons (c := ',') rfl, hcomma,
      beq_self_eq_true, if_true, hrest]
    rfl

theorem Listed.exists_eq_append (hstarts : Starts close Item) {spelled : List Char} {items : List α}
    (h : Listed Item spelled items) : ∃ before first others, Space before
      ∧ spelled = before ++ first :: others ∧ isSpace first = false ∧ first ≠ close := by
  cases h with
  | last hbefore hitem =>
    obtain ⟨first, others, rfl, hfirst⟩ := hstarts _ _ hitem
    exact ⟨_, first, _, hbefore, rfl, hfirst⟩
  | cons hbefore hitem =>
    obtain ⟨first, others, rfl, hfirst⟩ := hstarts _ _ hitem
    exact ⟨_, first, _, hbefore, rfl, hfirst⟩

theorem Complete.readEnclosed_append {size : Nat} (h : Complete size read Item)
    (hclose : Closes close) (hstarts : Starts close Item) {spelled : List Char} {items : List α}
    (henclosed : Enclosed Item spelled items) (hsize : spelled.length ≤ size) :
    readEnclosed read close (spelled ++ close :: rest) = some (items, rest) := by
  rw [readEnclosed]
  obtain ⟨hspace, rfl⟩ | hlisted := henclosed
  · simp only [skipSpace_append hspace, skipSpace_cons hclose.isSpace, beq_self_eq_true, if_true]
  · have hfuel : spelled.length < (spelled ++ close :: rest).length := by
      rw [List.length_append, List.length_cons]
      omega
    have hread : readItems read close _ (spelled ++ close :: rest) = some (items, rest) :=
      h.readItems_append hclose hlisted hsize hfuel
    obtain ⟨before, first, others, hbefore, rfl, hspace, hne⟩ := hlisted.exists_eq_append hstarts
    simp only [List.append_assoc, skipSpace_append hbefore, List.cons_append,
      skipSpace_cons hspace, beq_eq_false_iff_ne.2 hne]
    rwa [List.append_assoc] at hread

/-! ## Members -/

variable {value : List Char → Option (Json × List Char)} {Value : List Char → Json → Prop}

theorem Sound.readMember (h : Sound value Value) :
    Sound (readMember value) (SpellsMember Value) := by
  intro chars member rest hread
  obtain ⟨before, hbefore, heq⟩ := exists_eq_append_skipSpace chars
  rw [Json.readMember] at hread
  split at hread
  · rename_i quoted hquote
    obtain ⟨⟨name, behind⟩, hname, hrest⟩ := Option.bind_eq_some_iff.1 hread
    obtain ⟨spelled, pieces, hspelled, rfl, rfl⟩ := exists_spellsPieces_of_readString hname
    obtain ⟨after, hafter, hbehind⟩ := exists_eq_append_skipSpace behind
    simp only at hrest
    split at hrest
    · rename_i behind hcolon
      obtain ⟨⟨content, _⟩, hcontent, hrest⟩ := Option.bind_eq_some_iff.1 hrest
      obtain ⟨rfl, rfl⟩ := Prod.mk.inj (Option.some.inj hrest)
      obtain ⟨space, inner, hspace, hinner, rfl⟩ := h _ _ _ hcontent
      refine ⟨before, _, hbefore, .mk hspelled hafter hspace hinner, ?_⟩
      rw [heq, hquote, hbehind, hcolon]
      simp only [List.append_assoc, List.cons_append]
    · cases hrest
  · cases hread

theorem Complete.readMember {size : Nat} (h : Complete size value Value) :
    Complete size (readMember value) (SpellsMember Value) := by
  rintro before _ _ rest hbefore ⟨hname, hspace, hafter, hvalue⟩ hsize hrest
  simp only [List.length_cons, List.length_append] at hsize
  rw [Json.readMember, skipSpace_append hbefore, List.cons_append, skipSpace_cons rfl]
  simp only [List.append_assoc, List.cons_append, hname.readString_append, Option.bind_eq_bind,
    Option.bind_some, Option.pure_def, skipSpace_append hspace, skipSpace_cons (c := ':') rfl,
    h _ _ _ rest hafter hvalue (by omega) hrest]

theorem starts_spellsMember : Starts '\x7d' (SpellsMember Value) := by
  rintro _ _ ⟨⟩
  exact ⟨'"', _, rfl, rfl, by decide⟩

/-! ## Values -/

theorem Enclosed.spells_array {items : List Json} (h : Enclosed Spells chars items) :
    Spells ('[' :: (chars ++ [']'])) (array items) := by
  obtain ⟨hspace, rfl⟩ | hlisted := h
  · exact .emptyArray hspace
  · exact .array hlisted

theorem Enclosed.spells_object {members : List (Option (List Char) × Json)}
    (h : Enclosed (SpellsMember Spells) chars members) :
    Spells ('\x7b' :: (chars ++ ['\x7d'])) (object members) := by
  obtain ⟨hspace, rfl⟩ | hlisted := h
  · exact .emptyObject hspace
  · exact .object hlisted

/-- **Only what is spelled in front is read.** -/
theorem sound_readValue (depth : Nat) : Sound (readValue depth) Spells := by
  -- what is between two marks is read with one level less
  induction depth using Nat.strong_induction_on with
  | _ depth ih =>
  intro chars value rest hread
  obtain ⟨before, hbefore, heq⟩ := exists_eq_append_skipSpace chars
  rw [readValue.eq_def] at hread
  split at hread
  · rename_i hnull
    obtain ⟨rfl, rfl⟩ := Prod.mk.inj (Option.some.inj hread)
    exact ⟨before, _, hbefore, .null, heq.trans (hnull ▸ rfl)⟩
  · rename_i htrue
    obtain ⟨rfl, rfl⟩ := Prod.mk.inj (Option.some.inj hread)
    exact ⟨before, _, hbefore, .true, heq.trans (htrue ▸ rfl)⟩
  · rename_i hfalse
    obtain ⟨rfl, rfl⟩ := Prod.mk.inj (Option.some.inj hread)
    exact ⟨before, _, hbefore, .false, heq.trans (hfalse ▸ rfl)⟩
  · rename_i hquote
    obtain ⟨⟨content, _⟩, hcontent, hread⟩ := Option.map_eq_some_iff.1 hread
    obtain ⟨rfl, rfl⟩ := Prod.mk.inj hread
    obtain ⟨spelled, pieces, hspelled, rfl, rfl⟩ := exists_spellsPieces_of_readString hcontent
    refine ⟨before, _, hbefore, .string hspelled, ?_⟩
    rw [heq, hquote, List.cons_append, List.append_assoc, List.singleton_append]
  · rename_i hopen
    split at hread
    · cases hread
    · obtain ⟨⟨items, _⟩, hitems, hread⟩ := Option.map_eq_some_iff.1 hread
      obtain ⟨rfl, rfl⟩ := Prod.mk.inj hread
      obtain ⟨spelled, hspelled, rfl⟩ :=
        (ih _ (Nat.lt_succ_self _)).enclosed_of_readEnclosed hitems
      refine ⟨before, _, hbefore, hspelled.spells_array, ?_⟩
      rw [heq, hopen, List.cons_append, List.append_assoc, List.singleton_append]
  · rename_i hopen
    split at hread
    · cases hread
    · obtain ⟨⟨members, _⟩, hmembers, hread⟩ := Option.map_eq_some_iff.1 hread
      obtain ⟨rfl, rfl⟩ := Prod.mk.inj hread
      obtain ⟨spelled, hspelled, rfl⟩ :=
        (ih _ (Nat.lt_succ_self _)).readMember.enclosed_of_readEnclosed hmembers
      refine ⟨before, _, hbefore, hspelled.spells_object, ?_⟩
      rw [heq, hopen, List.cons_append, List.append_assoc, List.singleton_append]
  · obtain ⟨⟨digits, _⟩, hdigits, hread⟩ := Option.map_eq_some_iff.1 hread
    obtain ⟨rfl, rfl⟩ := Prod.mk.inj hread
    obtain ⟨hnumber, hskip⟩ := number_of_readNumber hdigits
    exact ⟨before, digits, hbefore, .number hnumber, hskip ▸ heq⟩

theorem starts_spells : Starts ']' Spells := by
  intro spelled value h
  cases h with
  | null => exact ⟨'n', _, rfl, rfl, by decide⟩
  | true => exact ⟨'t', _, rfl, rfl, by decide⟩
  | false => exact ⟨'f', _, rfl, rfl, by decide⟩
  | number h =>
    obtain ⟨first, others, rfl, hfirst⟩ := h.exists_cons
    refine ⟨first, others, rfl, Bool.eq_false_iff.2 fun hspace => ?_, ?_⟩
    · obtain rfl | rfl | rfl | rfl := eq_of_isSpace hspace <;> exact absurd hfirst (by decide)
    · rintro rfl
      exact absurd hfirst (by decide)
  | string => exact ⟨'"', _, rfl, rfl, by decide⟩
  | emptyArray => exact ⟨'[', _, rfl, rfl, by decide⟩
  | array => exact ⟨'[', _, rfl, rfl, by decide⟩
  | emptyObject => exact ⟨'\x7b', _, rfl, rfl, by decide⟩
  | object => exact ⟨'\x7b', _, rfl, rfl, by decide⟩

theorem readValue_number_append {depth : Nat} {digits : List Char} (h : Number digits)
    (hrest : Ends rest) : readValue depth (digits ++ rest) = some (number digits, rest) := by
  obtain ⟨first, others, rfl, hfirst⟩ := h.exists_cons
  obtain ⟨_, _, heq, hspace, -⟩ := starts_spells _ _ (.number h)
  obtain ⟨rfl, rfl⟩ := List.cons.inj heq
  rw [readValue.eq_def, List.cons_append, skipSpace_cons hspace]
  split
  case h_7 =>
    rw [← List.cons_append, readNumber_append h hrest]
    rfl
  all_goals
    rename_i heq
    obtain ⟨rfl, -⟩ := List.cons.inj heq
    exact absurd hfirst (by decide)

theorem readValue_array_append {depth : Nat} (h : Complete depth (readValue depth) Spells)
    {items : List Json} (henclosed : Enclosed Spells chars items) (hsize : chars.length ≤ depth) :
    readValue (depth + 1) ('[' :: (chars ++ [']']) ++ rest) = some (array items, rest) := by
  have hread : readEnclosed (readValue depth) ']' (chars ++ ']' :: rest) = some (items, rest) :=
    h.readEnclosed_append (.inl rfl) starts_spells henclosed hsize
  rw [readValue.eq_def, List.cons_append, skipSpace_cons rfl, List.append_assoc,
    List.singleton_append]
  simp only [hread, Option.map_some]

theorem readValue_object_append {depth : Nat} (h : Complete depth (readValue depth) Spells)
    {members : List (Option (List Char) × Json)}
    (henclosed : Enclosed (SpellsMember Spells) chars members) (hsize : chars.length ≤ depth) :
    readValue (depth + 1) ('\x7b' :: (chars ++ ['\x7d']) ++ rest)
      = some (object members, rest) := by
  have hread : readEnclosed (readMember (readValue depth)) '\x7d' (chars ++ '\x7d' :: rest)
      = some (members, rest) :=
    h.readMember.readEnclosed_append (.inr rfl) starts_spellsMember henclosed hsize
  rw [readValue.eq_def, List.cons_append, skipSpace_cons rfl, List.append_assoc,
    List.singleton_append]
  simp only [hread, Option.map_some]

theorem readValue_space_append {depth : Nat} {before : List Char} (h : Space before) :
    readValue depth (before ++ chars) = readValue depth chars := by
  rw [readValue.eq_def, skipSpace_append h, ← readValue.eq_def]

/-- **Whatever value is spelled in front is read**, if it is spelled by no more characters than
values may be nested.  If it is a number, nothing may go on with it. -/
theorem readValue_append {depth : Nat} {spelled : List Char} {value : Json}
    (h : Spells spelled value) (hsize : spelled.length ≤ depth)
    (hrest : Ends rest ∨ ∀ digits, value ≠ .number digits) :
    readValue depth (spelled ++ rest) = some (value, rest) := by
  induction depth generalizing spelled value rest with
  | zero =>
    obtain ⟨first, others, rfl, -⟩ := starts_spells _ _ h
    cases hsize
  | succ depth ih =>
    have hcomplete : Complete depth (readValue depth) Spells :=
      fun before spelled value rest hbefore h hsize hrest =>
        (readValue_space_append hbefore).trans (ih h hsize (.inl hrest))
    -- what is between the marks is shorter by two
    have hinner {chars : List Char} {opening closing : Char}
        (h : (opening :: (chars ++ [closing])).length ≤ depth + 1) : chars.length ≤ depth := by
      rw [List.length_cons, List.length_append, List.length_singleton] at h
      omega
    cases h with
    | null => rfl
    | true => rfl
    | false => rfl
    | number h => exact readValue_number_append h (hrest.resolve_right fun hne => hne _ rfl)
    | string h =>
      rw [readValue.eq_def, List.cons_append, skipSpace_cons rfl, List.append_assoc,
        List.singleton_append]
      simp only [h.readString_append, Option.map_some]
    | emptyArray h => exact readValue_array_append hcomplete (.inl ⟨h, rfl⟩) (hinner hsize)
    | array h => exact readValue_array_append hcomplete (.inr h) (hinner hsize)
    | emptyObject h => exact readValue_object_append hcomplete (.inl ⟨h, rfl⟩) (hinner hsize)
    | object h => exact readValue_object_append hcomplete (.inr h) (hinner hsize)

/-! ## Texts -/

variable {text : String} {value : Json}

theorem ends_nil : Ends [] := nofun

/-- **Reading a text is exact**: it is read as the value it is a text of. -/
theorem ofText?_eq_some_iff : ofText? text = some value ↔ IsText text value := by
  simp only [ofText?]
  constructor
  · intro h
    split at h
    · rename_i found rest hread
      obtain ⟨hspace, hvalue⟩ := Option.ite_none_right_eq_some.1 h
      obtain rfl := Option.some.inj hvalue
      obtain ⟨before, spelled, hbefore, hspelled, heq⟩ := sound_readValue _ _ _ _ hread
      exact ⟨before, spelled, rest, hbefore, hspelled, skipSpace_eq_nil_iff.1 hspace, heq⟩
    · cases h
  · rintro ⟨before, spelled, after, hbefore, hspelled, hafter, heq⟩
    have hsize : spelled.length ≤ text.toList.length := by
      rw [heq, List.length_append, List.length_append]
      omega
    have hends : Ends after := List.append_nil after ▸ hafter.ends_append ends_nil
    have hread : readValue text.toList.length text.toList = some (value, after) := by
      rw [heq, readValue_space_append hbefore, ← heq]
      exact readValue_append hspelled hsize (.inl hends)
    simp only [hread, skipSpace_eq_nil_iff.2 hafter, if_true]

/-- **Nothing but white space may follow** a value, unless it is a number. -/
theorem ofText?_eq_none_of_append {before spelled rest : List Char} (hbefore : Space before)
    (hspelled : Spells spelled value) (hvalue : ∀ digits, value ≠ .number digits)
    (hrest : ¬ Space rest) : ofText? (String.ofList (before ++ (spelled ++ rest))) = none := by
  have hread : readValue (before ++ (spelled ++ rest)).length (before ++ (spelled ++ rest))
      = some (value, rest) := by
    rw [readValue_space_append hbefore]
    refine readValue_append hspelled ?_ (.inr hvalue)
    rw [List.length_append, List.length_append]
    omega
  simp only [ofText?, String.toList_ofList, hread]
  exact if_neg fun hspace => hrest (skipSpace_eq_nil_iff.1 hspace)

end Coffer.Json
