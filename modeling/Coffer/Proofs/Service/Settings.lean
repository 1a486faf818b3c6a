import Coffer.Proofs.Json.Value
import Coffer.Proofs.Json.Writing
import Coffer.Service.Settings

/-!
# Proofs/Service/Settings — settings read as overrides of the defaults

An object **gives** some of the numbers (`Settings.Gives`) when it has a member for each of those,
in any order and among members of other names.  It is read as the defaults with these numbers in
their place, and an object that gives no numbers in this way is refused
(`Settings.read_as_overrides`).  Such an object is flawed (`Settings.Flawed`): a known name is
repeated, or has a value that is no number of sixty-four bits in digits alone (`Settings.Unfit`),
or some name is no text.
-/

namespace Coffer.Settings

/-- A member of an object. -/
abbrev Member : Type := Option (List Char) × Json

/-! ## What an object gives -/

/-- **What is given** of the settings: numbers of sixty-four bits, each of which may be left out. -/
structure Given where
  /-- How many buffers nobody holds are kept at most. -/
  poolCapacity : Option UInt64
  /-- How much room a new buffer has. -/
  bufferSize : Option UInt64
  /-- How much room a buffer may have to be kept. -/
  maxRetained : Option UInt64

/-- The values of a number that may be left out: one or none. -/
def values (number : Option UInt64) : List Json :=
  (number.map fun word => Json.ofNat word.toNat).toList

/-- The names of the members that settings know. -/
def names : List String := ["pool_capacity", "buffer_size", "max_retained_size"]

namespace Given

/-- The values of what is given, each under its name. -/
def named (given : Given) : List (String × List Json) :=
  [("pool_capacity", values given.poolCapacity), ("buffer_size", values given.bufferSize),
    ("max_retained_size", values given.maxRetained)]

/-- **The defaults, with what is given in their place.** -/
def settings (given : Given) : Settings where
  poolCapacity := (given.poolCapacity.map UInt64.toNat).getD default.poolCapacity
  bufferSize := (given.bufferSize.map UInt64.toNat).getD default.bufferSize
  maxRetained := (given.maxRetained.map UInt64.toNat).getD default.maxRetained

end Given

/-- **A member of another name**, which is a text. -/
structure IsOther (member : Member) : Prop where
  isSome : member.1.isSome = true
  ne : ∀ name ∈ names, member.1 ≠ some name.toList

/-- **Members give numbers** when they are, in any order, the members for these and others. -/
def Gives (members : List Member) (given : Given) : Prop :=
  ∃ others, members.Perm (Json.membersOf given.named ++ others) ∧ ∀ other ∈ others, IsOther other

variable {members others : List Member} {given : Given}

/-- One value or none in some order are that value or none. -/
theorem perm_values_iff {number : Option UInt64} {items : List Json} :
    items.Perm (values number) ↔ items = values number := by
  cases number with
  | none => exact List.perm_nil
  | some word => exact List.perm_singleton

theorem exists_eq_values_of_mem_named {pair : String × List Json} (h : pair ∈ given.named) :
    ∃ number, pair.2 = values number := by
  obtain _ | ⟨_, _ | ⟨_, _ | ⟨_, ⟨⟩⟩⟩⟩ := h
  · exact ⟨_, rfl⟩
  · exact ⟨_, rfl⟩
  · exact ⟨_, rfl⟩

theorem perm_iff_of_mem_named {pair : String × List Json} (h : pair ∈ given.named)
    {items : List Json} : items.Perm pair.2 ↔ items = pair.2 := by
  obtain ⟨number, hnumber⟩ := exists_eq_values_of_mem_named h
  rw [hnumber, perm_values_iff]

theorem Given.pairwise_named (given : Given) :
    given.named.Pairwise fun pair other => pair.1 ≠ other.1 := by
  refine List.pairwise_map.1 (?_ : names.Pairwise (· ≠ ·))
  decide

/-- **Members give numbers** just when each known name has the values of its number. -/
theorem gives_iff : Gives members given ↔ (∀ member ∈ members, member.1.isSome = true)
    ∧ ∀ pair ∈ given.named, Json.membersNamed pair.1 members = pair.2 := by
  constructor
  · rintro ⟨others, hperm, hothers⟩
    refine ⟨fun member hmember => ?_, fun pair hpair => (perm_iff_of_mem_named hpair).1 ?_⟩
    · obtain hmember | hmember := List.mem_append.1 (hperm.mem_iff.1 hmember)
      · obtain ⟨pair, -, hname⟩ := Json.fst_of_mem_membersOf hmember
        rw [hname]
        rfl
      · exact (hothers member hmember).isSome
    · refine (Json.exists_perm_membersOf_append_iff given.pairwise_named).1
        ⟨others, hperm, fun other hother pair hpair => ?_⟩ pair hpair
      exact (hothers other hother).ne pair.1 (List.mem_map_of_mem (f := Prod.fst) hpair)
  · rintro ⟨hall, hnamed⟩
    obtain ⟨others, hperm, hothers⟩ :=
      (Json.exists_perm_membersOf_append_iff given.pairwise_named).2 fun pair hpair =>
        (perm_iff_of_mem_named hpair).2 (hnamed pair hpair)
    refine ⟨others, hperm, fun other hother => ⟨?_, ?_⟩⟩
    · exact hall other (hperm.mem_iff.2 (List.mem_append_right _ hother))
    · exact List.forall_mem_map (P := fun name : String => other.1 ≠ some name.toList).2
        (hothers other hother)

/-! ## What is read -/

theorem number?_eq_some_iff {chars : List Char} {value : Json} (h : Json.Spells chars value)
    {n : Nat} :
    number? value = some n ↔ ∃ word : UInt64, value = .ofNat word.toNat ∧ word.toNat = n := by
  constructor
  · intro hn
    obtain ⟨found, hfound, hn⟩ := Option.bind_eq_some_iff.1 hn
    obtain ⟨hlt, hn⟩ := Option.ite_none_right_eq_some.1 hn
    obtain rfl := Option.some.inj hn
    have hword : (UInt64.ofNat found).toNat = found := UInt64.toNat_ofNat_of_lt' hlt
    exact ⟨.ofNat found, hword.symm ▸ (Json.natural?_eq_some_iff h).1 hfound, hword⟩
  · rintro ⟨word, rfl, rfl⟩
    have hlt : word.toNat < numberLimit := word.toNat_lt
    rw [number?, Json.natural?_ofNat]
    exact if_pos hlt

theorem numberOr?_eq_some_iff {found : Option Json}
    (h : ∀ value ∈ found, ∃ chars, Json.Spells chars value) {fallback n : Nat} :
    numberOr? fallback found = some n
      ↔ ∃ number, found.toList = values number ∧ (number.map UInt64.toNat).getD fallback = n := by
  cases found with
  | none =>
    constructor
    · intro hn
      exact ⟨none, rfl, Option.some.inj hn⟩
    · rintro ⟨_ | word, hvalues, rfl⟩
      · rfl
      · cases hvalues
  | some value =>
    obtain ⟨chars, hchars⟩ := h value rfl
    rw [numberOr?, number?_eq_some_iff hchars]
    constructor
    · rintro ⟨word, rfl, rfl⟩
      exact ⟨some word, rfl, rfl⟩
    · rintro ⟨_ | word, hvalues, rfl⟩
      · cases hvalues
      · exact ⟨word, List.singleton_inj.1 hvalues, rfl⟩

/-- **One setting is read** from an object whose names are texts, if its own name has the values of
a number. -/
theorem member?_bind_numberOr?_iff {chars : List Char} (h : Json.Spells chars (.object members))
    {name : String} {fallback n : Nat} :
    (Json.member? name members).bind (numberOr? fallback) = some n
      ↔ (∀ member ∈ members, member.1.isSome = true)
        ∧ ∃ number, Json.membersNamed name members = values number
          ∧ (number.map UInt64.toNat).getD fallback = n := by
  have hspells {found : Option Json} (hfound : Json.membersNamed name members = found.toList) :
      ∀ value ∈ found, ∃ chars, Json.Spells chars value := by
    intro value hvalue
    refine h.exists_of_mem_object (some name.toList, value) (Json.mem_membersNamed_iff.1 ?_)
    rw [hfound]
    exact Option.mem_toList.2 hvalue
  rw [Option.bind_eq_some_iff]
  constructor
  · rintro ⟨found, hfound, hn⟩
    obtain ⟨hall, hnamed⟩ := Json.member?_eq_some_iff.1 hfound
    obtain ⟨number, hnumber, hn⟩ := (numberOr?_eq_some_iff (hspells hnamed)).1 hn
    exact ⟨hall, number, hnamed.trans hnumber, hn⟩
  · rintro ⟨hall, number, hnumber, hn⟩
    have hnamed : Json.membersNamed name members
        = (number.map fun word => Json.ofNat word.toNat).toList := hnumber
    exact ⟨_, Json.member?_eq_some_iff.2 ⟨hall, hnamed⟩,
      (numberOr?_eq_some_iff (hspells hnamed)).2 ⟨number, rfl, hn⟩⟩

/-- **An object is read as what it gives**, and as the defaults for what it does not. -/
theorem ofJson?_object_eq_some_iff {chars : List Char} (h : Json.Spells chars (.object members))
    {settings : Settings} :
    ofJson? (.object members) = some settings ↔ ∃ given, Gives members given
      ∧ given.settings = settings := by
  have hread : ofJson? (.object members)
      = ((Json.member? "pool_capacity" members).bind (numberOr? default.poolCapacity)).bind
        fun poolCapacity =>
          ((Json.member? "buffer_size" members).bind (numberOr? default.bufferSize)).bind
        fun bufferSize =>
          ((Json.member? "max_retained_size" members).bind (numberOr? default.maxRetained)).bind
        fun maxRetained => some ⟨poolCapacity, bufferSize, maxRetained⟩ := by
    simp only [ofJson?, Option.bind_assoc, Option.bind_eq_bind, Option.pure_def]
  rw [hread]
  constructor
  · intro hsettings
    obtain ⟨_, hpool, hsettings⟩ := Option.bind_eq_some_iff.1 hsettings
    obtain ⟨_, hbuffer, hsettings⟩ := Option.bind_eq_some_iff.1 hsettings
    obtain ⟨_, hretained, hsettings⟩ := Option.bind_eq_some_iff.1 hsettings
    obtain ⟨hall, poolCapacity, hpoolNamed, rfl⟩ := (member?_bind_numberOr?_iff h).1 hpool
    obtain ⟨-, bufferSize, hbufferNamed, rfl⟩ := (member?_bind_numberOr?_iff h).1 hbuffer
    obtain ⟨-, maxRetained, hretainedNamed, rfl⟩ := (member?_bind_numberOr?_iff h).1 hretained
    refine ⟨⟨poolCapacity, bufferSize, maxRetained⟩, gives_iff.2 ⟨hall, ?_⟩,
      Option.some.inj hsettings⟩
    exact List.forall_mem_cons.2 ⟨hpoolNamed, List.forall_mem_cons.2 ⟨hbufferNamed,
      List.forall_mem_singleton.2 hretainedNamed⟩⟩
  · rintro ⟨given, hgives, rfl⟩
    obtain ⟨hall, hnamed⟩ := gives_iff.1 hgives
    obtain ⟨hpool, hnamed⟩ := List.forall_mem_cons.1 hnamed
    obtain ⟨hbuffer, hretained⟩ := List.forall_mem_cons.1 hnamed
    have hretained := List.forall_mem_singleton.1 hretained
    exact Option.bind_eq_some_iff.2
      ⟨_, (member?_bind_numberOr?_iff h).2 ⟨hall, _, hpool, rfl⟩, Option.bind_eq_some_iff.2
        ⟨_, (member?_bind_numberOr?_iff h).2 ⟨hall, _, hbuffer, rfl⟩, Option.bind_eq_some_iff.2
          ⟨_, (member?_bind_numberOr?_iff h).2 ⟨hall, _, hretained, rfl⟩, rfl⟩⟩⟩

variable {text : String}

theorem ofText?_object_eq_some_iff (h : Json.IsText text (.object members))
    {settings : Settings} :
    ofText? text = some settings ↔ ∃ given, Gives members given ∧ given.settings = settings := by
  rw [ofText?, Json.ofText?_eq_some_iff.2 h, Option.bind_some]
  obtain ⟨_, _, _, -, hspells, -⟩ := h
  exact ofJson?_object_eq_some_iff hspells

/-! ## What does not matter -/

/-- Whether a member has one of the known names. -/
def isKnown (member : Member) : Bool := names.any fun name => member.1 == some name.toList

theorem membersNamed_filter_isKnown (members : List Member) {name : String} (h : name ∈ names) :
    Json.membersNamed name (members.filter isKnown) = Json.membersNamed name members :=
  Json.membersNamed_filter fun _ hname => List.any_eq_true.2 ⟨name, h, beq_iff_eq.2 hname⟩

/-- **Members give the same numbers** as others that have the same members of known names, in
whatever order. -/
theorem Gives.of_perm (h : Gives members given) (hothers : ∀ other ∈ others, other.1.isSome = true)
    (hperm : (members.filter isKnown).Perm (others.filter isKnown)) : Gives others given := by
  refine gives_iff.2 ⟨hothers, fun pair hpair => (perm_iff_of_mem_named hpair).1 ?_⟩
  have hname : pair.1 ∈ names := List.mem_map_of_mem (f := Prod.fst) hpair
  rw [← (gives_iff.1 h).2 pair hpair, ← membersNamed_filter_isKnown others hname,
    ← membersNamed_filter_isKnown members hname]
  exact Json.membersNamed_perm pair.1 hperm.symm

/-! ## What is refused -/

/-- **A value that is no setting**: it is negative, needs more than sixty-four bits, has a fraction
or an exponent, or is no number at all. -/
inductive Unfit : Json → Prop
  | negative (digits : List Char) : Unfit (.number ('-' :: digits))
  | tooLarge {n : Nat} (h : numberLimit ≤ n) : Unfit (.ofNat n)
  | fractional {digits : List Char} (h : '.' ∈ digits) : Unfit (.number digits)
  | exponent {digits : List Char} (h : 'e' ∈ digits ∨ 'E' ∈ digits) : Unfit (.number digits)
  | notNumber {value : Json} (h : ∀ digits, value ≠ .number digits) : Unfit value

theorem not_unfit_ofNat (word : UInt64) : ¬ Unfit (.ofNat word.toNat) := by
  have hdigit {c : Char} (h : c ∈ Nat.toDigits 10 word.toNat) : Json.isDigit c = true :=
    Json.isDigit_of_mem_toDigits h
  generalize hvalue : Json.ofNat word.toNat = value
  intro h
  rw [Json.ofNat_eq] at hvalue
  cases h with
  | negative digits =>
    rw [Json.number.inj hvalue] at hdigit
    exact absurd (hdigit (List.mem_cons_self ..)) (by decide)
  | @tooLarge n hn =>
    have hword := congrArg Json.natural? hvalue
    rw [← Json.ofNat_eq, Json.natural?_ofNat, Json.natural?_ofNat] at hword
    exact absurd word.toNat_lt (Nat.not_lt.2 (Option.some.inj hword ▸ hn))
  | fractional h =>
    rw [Json.number.inj hvalue] at hdigit
    exact absurd (hdigit h) (by decide)
  | exponent h =>
    rw [Json.number.inj hvalue] at hdigit
    obtain h | h := h
    · exact absurd (hdigit h) (by decide)
    · exact absurd (hdigit h) (by decide)
  | notNumber h => exact h _ hvalue.symm

/-- A natural number is no setting, or is one of sixty-four bits. -/
theorem unfit_ofNat_or (n : Nat) :
    Unfit (.ofNat n) ∨ ∃ word : UInt64, Json.ofNat n = .ofNat word.toNat := by
  obtain hlt | hle := Nat.lt_or_ge n numberLimit
  · exact .inr ⟨.ofNat n, by rw [UInt64.toNat_ofNat_of_lt' hlt]⟩
  · exact .inl (.tooLarge hle)

/-- **A value that can be spelled is no setting** just when it is no number of sixty-four bits. -/
theorem unfit_iff {chars : List Char} {value : Json} (h : Json.Spells chars value) :
    Unfit value ↔ ∀ word : UInt64, value ≠ .ofNat word.toNat := by
  refine ⟨fun hunfit word heq => not_unfit_ofNat word (heq ▸ hunfit), fun hne => ?_⟩
  cases h with
  | number h =>
    cases h with
    | negative => exact .negative _
    | plain h =>
      obtain hwhole | hpoint | hmark := h.whole_or_mem
      · rw [hwhole.eq_toDigits, ← Json.ofNat_eq] at hne ⊢
        exact (unfit_ofNat_or _).resolve_right fun ⟨word, hword⟩ => hne word hword
      · exact .fractional hpoint
      · exact .exponent hmark
  | _ => exact .notNumber nofun

/-- **Members give numbers** just when their names are texts and each known name has the value of
one number or none. -/
theorem exists_gives_iff : (∃ given, Gives members given)
    ↔ (∀ member ∈ members, member.1.isSome = true)
      ∧ ∀ name ∈ names, ∃ number, Json.membersNamed name members = values number := by
  simp only [gives_iff, exists_and_left]
  refine and_congr_right fun _ => ⟨?_, fun h => ?_⟩
  · rintro ⟨given, hnamed⟩
    have hexists : ∀ pair ∈ given.named,
        ∃ number, Json.membersNamed pair.1 members = values number := by
      intro pair hpair
      obtain ⟨number, hnumber⟩ := exists_eq_values_of_mem_named hpair
      exact ⟨number, (hnamed pair hpair).trans hnumber⟩
    exact (List.forall_mem_map (l := given.named)
      (P := fun name => ∃ number, Json.membersNamed name members = values number)).2 hexists
  · obtain ⟨⟨poolCapacity, hpool⟩, h⟩ := List.forall_mem_cons.1 h
    obtain ⟨⟨bufferSize, hbuffer⟩, h⟩ := List.forall_mem_cons.1 h
    obtain ⟨maxRetained, hretained⟩ := List.forall_mem_singleton.1 h
    exact ⟨⟨poolCapacity, bufferSize, maxRetained⟩, List.forall_mem_cons.2 ⟨hpool,
      List.forall_mem_cons.2 ⟨hbuffer, List.forall_mem_singleton.2 hretained⟩⟩⟩

/-- Values are that of one number or none just when they are at most one, and fit. -/
theorem exists_eq_values_iff {items : List Json}
    (h : ∀ value ∈ items, ∃ chars, Json.Spells chars value) :
    (∃ number, items = values number)
      ↔ ¬ (2 ≤ items.length ∨ ∃ value ∈ items, Unfit value) := by
  match items, h with
  | [], _ =>
    refine iff_of_true ⟨none, rfl⟩ ?_
    rintro (hlength | ⟨value, hvalue, -⟩)
    · exact absurd hlength (by decide)
    · exact List.not_mem_nil hvalue
  | [value], h =>
    obtain ⟨chars, hchars⟩ := h value (List.mem_singleton_self value)
    have hflaw : (2 ≤ [value].length ∨ ∃ other ∈ [value], Unfit other) ↔ Unfit value := by simp
    rw [hflaw, unfit_iff hchars]
    push Not
    constructor
    · rintro ⟨_ | word, hvalues⟩
      · cases hvalues
      · exact ⟨word, List.singleton_inj.1 hvalues⟩
    · rintro ⟨word, rfl⟩
      exact ⟨some word, rfl⟩
  | _ :: _ :: _, _ =>
    refine iff_of_false ?_ fun hfit => hfit (.inl (by simp))
    rintro ⟨_ | word, hvalues⟩
    · cases hvalues
    · cases hvalues

/-- **An object has a flaw**: some name is no text, or a known name is repeated or has a value that
is no setting. -/
def Flawed (members : List Member) : Prop :=
  (∃ member ∈ members, member.1 = none) ∨ ∃ name ∈ names,
    2 ≤ (members.map Prod.fst).count (some name.toList)
      ∨ ∃ value, (some name.toList, value) ∈ members ∧ Unfit value

/-- **Members give numbers** unless they have a flaw. -/
theorem exists_gives_iff_not_flawed {chars : List Char}
    (h : Json.Spells chars (.object members)) :
    (∃ given, Gives members given) ↔ ¬ Flawed members := by
  have hvalues (name : String) : (∃ number, Json.membersNamed name members = values number)
      ↔ ¬ (2 ≤ (members.map Prod.fst).count (some name.toList)
        ∨ ∃ value, (some name.toList, value) ∈ members ∧ Unfit value) := by
    rw [exists_eq_values_iff fun value hvalue =>
      h.exists_of_mem_object (some name.toList, value) (Json.mem_membersNamed_iff.1 hvalue)]
    simp only [Json.length_membersNamed, Json.mem_membersNamed_iff]
  have hnames : (∀ member ∈ members, member.1.isSome = true)
      ↔ ¬ ∃ member ∈ members, member.1 = none := by
    simp only [Option.isSome_iff_ne_none, not_exists, not_and, ne_eq]
  rw [exists_gives_iff, hnames, Flawed, not_or]
  refine and_congr_right fun _ => ?_
  simp only [hvalues, not_exists, not_and]

/-! ## Texts -/

/-- **A text is refused** just when its object has a flaw. -/
theorem ofText?_object_eq_none_iff (h : Json.IsText text (.object members)) :
    ofText? text = none ↔ Flawed members := by
  have hspells : ∃ chars, Json.Spells chars (.object members) := by
    obtain ⟨_, chars, _, -, hspells, -⟩ := h
    exact ⟨chars, hspells⟩
  obtain ⟨chars, hspells⟩ := hspells
  rw [← not_iff_not, ← exists_gives_iff_not_flawed hspells, ← ne_eq,
    Option.ne_none_iff_exists']
  simp only [ofText?_object_eq_some_iff h]
  exact ⟨fun ⟨_, given, hgives, _⟩ => ⟨given, hgives⟩,
    fun ⟨given, hgives⟩ => ⟨_, given, hgives, rfl⟩⟩

theorem ofText?_of_gives (h : Json.IsText text (.object members)) (hgives : Gives members given) :
    ofText? text = some given.settings :=
  (ofText?_object_eq_some_iff h).2 ⟨given, hgives, rfl⟩

/-- Members that give numbers, written with their values, are read. -/
theorem Gives.ofText?_compact_pretty (h : Gives members given)
    (hwritten : ∀ member ∈ members, member.2.Written) :
    ofText? (Json.object members).compact = some given.settings
      ∧ ofText? (Json.object members).pretty = some given.settings := by
  have hobject : (Json.object members).Written :=
    .object (fun member hmember => Option.isSome_iff_exists.1 ((gives_iff.1 h).1 member hmember))
      hwritten
  obtain ⟨hcompact, hpretty⟩ := hobject.ofText?_compact_pretty
  exact ⟨ofText?_of_gives (Json.ofText?_eq_some_iff.1 hcompact) h,
    ofText?_of_gives (Json.ofText?_eq_some_iff.1 hpretty) h⟩

/-- **Neither the order nor other members matter.** -/
theorem ofText?_eq_of_perm {other : String} (h : Json.IsText text (.object members))
    (hother : Json.IsText other (.object others))
    (hmembers : ∀ member ∈ members, member.1.isSome = true)
    (hothers : ∀ member ∈ others, member.1.isSome = true)
    (hperm : (members.filter isKnown).Perm (others.filter isKnown)) :
    ofText? text = ofText? other := by
  refine Option.ext fun settings => ?_
  rw [ofText?_object_eq_some_iff h, ofText?_object_eq_some_iff hother]
  refine exists_congr fun given => and_congr_left fun _ => ⟨fun hgives => ?_, fun hgives => ?_⟩
  · exact hgives.of_perm hothers hperm
  · exact hgives.of_perm hmembers hperm.symm

/-- **Settings are read as overrides of the defaults.**  A text of an object that gives numbers,
with whatever white space between its tokens, in whatever order and among whatever members of other
names, is read as the defaults with these numbers in their place; so the members of other names and
the order do not matter.  A text of an object is refused just when some name is no text, or a known
name is repeated or has a value that is no setting: a value that is not the number of a word of
sixty-four bits in digits alone. -/
theorem read_as_overrides :
    (∀ text members given, Json.IsText text (.object members) → Gives members given →
      ofText? text = some given.settings)
      ∧ (∀ members given, Gives members given → (∀ member ∈ members, member.2.Written) →
        ofText? (Json.object members).compact = some given.settings
          ∧ ofText? (Json.object members).pretty = some given.settings)
      ∧ (∀ text other members others, Json.IsText text (.object members) →
        Json.IsText other (.object others) →
        (∀ member ∈ members, member.1.isSome = true) →
        (∀ member ∈ others, member.1.isSome = true) →
        (members.filter isKnown).Perm (others.filter isKnown) → ofText? text = ofText? other)
      ∧ (∀ text members, Json.IsText text (.object members) →
        (ofText? text = none ↔ Flawed members))
      ∧ ∀ chars value, Json.Spells chars value →
        (Unfit value ↔ ∀ word : UInt64, value ≠ .ofNat word.toNat) :=
  ⟨fun _ _ _ => ofText?_of_gives, fun _ _ => Gives.ofText?_compact_pretty,
    fun _ _ _ _ => ofText?_eq_of_perm, fun _ _ => ofText?_object_eq_none_iff,
    fun _ _ => unfit_iff⟩

/-- The largest number is read, also behind a member of another name, and a negative one is
refused. -/
theorem read_as_overrides_largest_and_negative :
    ofText? "\x7b\"x\":[null],\"buffer_size\":18446744073709551615\x7d"
        = some ⟨64, 18446744073709551615, 1048576⟩
      ∧ ofText? "\x7b\"buffer_size\":18446744073709551615\x7d"
        = ofText? "\x7b\"x\":[null],\"buffer_size\":18446744073709551615\x7d"
      ∧ ofText? "\x7b\"buffer_size\":-1\x7d" = none := by
  have hlargest : (Json.ofNat 18446744073709551615).Written := by
    rw [Json.ofNat_eq]
    exact .number (Json.number_toDigits _)
  have hmixed : (Json.record [("x", .array [.null]),
      ("buffer_size", .ofNat 18446744073709551615)]).Written :=
    .object (List.forall_mem_cons.2 ⟨⟨_, rfl⟩, List.forall_mem_singleton.2 ⟨_, rfl⟩⟩)
      (List.forall_mem_cons.2 ⟨.array (List.forall_mem_singleton.2 .null),
        List.forall_mem_singleton.2 hlargest⟩)
  have hplain : (Json.record [("buffer_size", .ofNat 18446744073709551615)]).Written :=
    .object (List.forall_mem_singleton.2 ⟨_, rfl⟩) (List.forall_mem_singleton.2 hlargest)
  have hnegative : (Json.record [("buffer_size", .number ['-', '1'])]).Written :=
    .object (List.forall_mem_singleton.2 ⟨_, rfl⟩) (List.forall_mem_singleton.2
      (.number (.negative (.mk (Json.whole_toDigits 1) .none .none))))
  -- the texts are these values, written without white space
  have hmixedText := Json.ofText?_eq_some_iff.1 hmixed.ofText?_compact_pretty.1
  have hplainText := Json.ofText?_eq_some_iff.1 hplain.ofText?_compact_pretty.1
  have hnegativeText := Json.ofText?_eq_some_iff.1 hnegative.ofText?_compact_pretty.1
  have hgives : Gives [(some "x".toList, .array [.null]),
      (some "buffer_size".toList, .ofNat 18446744073709551615)]
      ⟨none, some 18446744073709551615, none⟩ :=
    ⟨[(some "x".toList, .array [.null])], .swap _ _ _,
      List.forall_mem_singleton.2 ⟨rfl, by decide⟩⟩
  refine ⟨read_as_overrides.1 _ _ _ hmixedText hgives,
    read_as_overrides.2.2.1 _ _ _ _ hplainText hmixedText (by decide) (by decide) (.refl _),
    (read_as_overrides.2.2.2.1 _ _ hnegativeText).2
      (.inr ⟨"buffer_size", by decide, .inr ⟨_, List.mem_singleton_self _, .negative _⟩⟩)⟩

end Coffer.Settings
