import Coffer.Address.Json
import Coffer.Proofs.Json.Value
import Coffer.Proofs.Json.Writing

/-!
# Proofs/Address/Json — which JSON texts are addresses

A value **stands for** an address (`Address.Stands`) when it is an object in which, in any order and
among members of other names, there is the container and there is the object, once each; or when it
is the array of the two.  A text is read as the addresses that its value stands for and as no others
(`Address.ofJsonText_exact`), whatever white space it has between its tokens and however it spells
what is skipped.
-/

namespace Coffer

variable {chars : List Char} {value : Json} {text : String}

/-! ## Byte strings -/

namespace Bytes

theorem byteOfJson?_eq_some_iff (h : Json.Spells chars value) {byte : UInt8} :
    byteOfJson? value = some byte ↔ value = .ofNat byte.toNat := by
  constructor
  · intro hbyte
    obtain ⟨number, hnumber, hbyte⟩ := Option.bind_eq_some_iff.1 hbyte
    obtain ⟨hlt, hbyte⟩ := Option.ite_none_right_eq_some.1 hbyte
    obtain rfl := Option.some.inj hbyte
    rw [(Json.natural?_eq_some_iff h).1 hnumber, UInt8.toNat_ofNat', Nat.mod_eq_of_lt hlt]
  · rintro rfl
    have hlt : byte.toNat < 256 := byte.toNat_lt
    rw [byteOfJson?, Json.natural?_ofNat]
    simp only [Option.bind_eq_bind, Option.bind_some, if_pos hlt, UInt8.ofNat_toNat]

theorem mapM_byteOfJson?_eq_some_iff {items : List Json}
    (h : ∀ item ∈ items, ∃ chars, Json.Spells chars item) {bytes : Bytes} :
    items.mapM byteOfJson? = some bytes ↔ items = bytes.map fun byte => .ofNat byte.toNat := by
  induction items generalizing bytes with
  | nil =>
    rw [List.mapM_nil, Option.pure_def, Option.some_inj, eq_comm, eq_comm (a := []),
      List.map_eq_nil_iff]
  | cons item items ih =>
    obtain ⟨⟨chars, hitem⟩, hitems⟩ := List.forall_mem_cons.1 h
    simp only [List.mapM_cons, Option.bind_eq_bind, Option.bind_eq_some_iff,
      byteOfJson?_eq_some_iff hitem, ih hitems]
    constructor
    · rintro ⟨byte, rfl, bytes, rfl, hbytes⟩
      rw [← Option.some.inj hbytes, List.map_cons]
    · intro heq
      cases bytes with
      | nil => cases heq
      | cons byte bytes =>
        obtain ⟨hbyte, hbytes⟩ := List.cons.inj heq
        exact ⟨byte, hbyte, bytes, hbytes, rfl⟩

/-- **A byte string is read from its own value** and no other. -/
theorem ofJson?_eq_some_iff (h : Json.Spells chars value) {bytes : Bytes} :
    ofJson? value = some bytes ↔ value = bytes.toJson := by
  rw [toJson]
  cases value with
  | array items =>
    rw [ofJson?, mapM_byteOfJson?_eq_some_iff h.exists_of_mem_array, Json.array.injEq]
  | _ => exact iff_of_false nofun nofun

/-- A byte string is written in numbers. -/
theorem written_toJson (bytes : Bytes) : bytes.toJson.Written := by
  refine .array fun item hitem => ?_
  obtain ⟨byte, -, rfl⟩ := List.mem_map.1 hitem
  rw [Json.ofNat_eq]
  exact .number (Json.number_toDigits byte.toNat)

end Bytes

/-! ## Identifiers -/

namespace Identifier

variable {named : Named} {id : Identifier named}

/-- **A value of an identifier**: 32 integers from 0 to 255. -/
def IsJson (value : Json) : Prop :=
  ∃ numbers : List Nat, numbers.length = 32 ∧ (∀ number ∈ numbers, number < 256)
    ∧ value = .array (numbers.map .ofNat)

theorem isJson_toJson (id : Identifier named) : IsJson id.toJson := by
  refine ⟨id.bytes.map UInt8.toNat, ?_, fun number hnumber => ?_, ?_⟩
  · rw [List.length_map, bytes, id.block.length_bytes]
  · obtain ⟨byte, -, rfl⟩ := List.mem_map.1 hnumber
    exact byte.toNat_lt
  · rw [toJson, Bytes.toJson, List.map_map]
    rfl

theorem ofBytes?_eq_some_iff {bytes : Bytes} :
    ofBytes? named bytes = some id ↔ bytes = id.bytes := by
  rw [ofBytes?, Option.map_eq_some_iff]
  constructor
  · rintro ⟨block, hblock, rfl⟩
    exact (Block.ofBytes?_eq_some_iff.1 hblock).symm
  · rintro rfl
    exact ⟨id.block, Block.ofBytes?_bytes id.block, rfl⟩

/-- **An identifier is read from its own value** and no other. -/
theorem ofJson?_eq_some_iff (h : Json.Spells chars value) :
    ofJson? named value = some id ↔ value = id.toJson := by
  simp only [ofJson?, Option.bind_eq_some_iff, Bytes.ofJson?_eq_some_iff h, ofBytes?_eq_some_iff]
  rw [exists_eq_right]
  rfl

end Identifier

namespace Address

/-! ## What stands for an address -/

/-- **A member of another name**, which is a text. -/
structure IsOther (member : Option (List Char) × Json) : Prop where
  isSome : member.1.isSome = true
  ne_container : member.1 ≠ some "container_id".toList
  ne_object : member.1 ≠ some "object_id".toList

/-- **What stands for an address.** -/
inductive Stands (address : Address) : Json → Prop
  /-- The two identifiers, the container first. -/
  | array : Stands address (.array [address.container.toJson, address.object.toJson])
  /-- The two members, in any order and anywhere among others. -/
  | object {members others : List (Option (List Char) × Json)}
    (hmembers : members.Perm ((some "container_id".toList, address.container.toJson)
      :: (some "object_id".toList, address.object.toJson) :: others))
    (hothers : ∀ other ∈ others, IsOther other) : Stands address (.object members)

variable {address : Address} {members : List (Option (List Char) × Json)}

/-- An object is read by the two names, each of which it has to have once. -/
theorem ofJson?_object_eq_some_iff (h : Json.Spells chars (.object members)) :
    ofJson? (.object members) = some address
      ↔ (∀ member ∈ members, member.1.isSome = true)
        ∧ Json.membersNamed "container_id" members = [address.container.toJson]
        ∧ Json.membersNamed "object_id" members = [address.object.toJson] := by
  -- a value that is the one of a member can be spelled
  have hspells {name : String} {value : Json} (hvalue : Json.membersNamed name members = [value]) :
      ∃ chars, Json.Spells chars value := by
    refine h.exists_of_mem_object (some name.toList, value) (Json.mem_membersNamed_iff.1 ?_)
    rw [hvalue]
    exact List.mem_singleton_self value
  simp only [ofJson?, Option.bind_eq_bind, Option.bind_eq_some_iff, Option.pure_def,
    Option.some.injEq]
  constructor
  · rintro ⟨_, hcontainer, first, ⟨value, rfl, hfirst⟩, _, hobject, second, ⟨other, rfl, hsecond⟩,
      rfl⟩
    obtain ⟨hall, hcontainer⟩ := Json.member?_eq_some_some_iff.1 hcontainer
    obtain ⟨-, hobject⟩ := Json.member?_eq_some_some_iff.1 hobject
    obtain ⟨_, hvalue⟩ := hspells hcontainer
    obtain ⟨_, hother⟩ := hspells hobject
    rw [(Identifier.ofJson?_eq_some_iff hvalue).1 hfirst] at hcontainer
    rw [(Identifier.ofJson?_eq_some_iff hother).1 hsecond] at hobject
    exact ⟨hall, hcontainer, hobject⟩
  · rintro ⟨hall, hcontainer, hobject⟩
    obtain ⟨_, hvalue⟩ := hspells hcontainer
    obtain ⟨_, hother⟩ := hspells hobject
    exact ⟨_, Json.member?_eq_some_some_iff.2 ⟨hall, hcontainer⟩, address.container,
      ⟨_, rfl, (Identifier.ofJson?_eq_some_iff hvalue).2 rfl⟩, _,
      Json.member?_eq_some_some_iff.2 ⟨hall, hobject⟩, address.object,
      ⟨_, rfl, (Identifier.ofJson?_eq_some_iff hother).2 rfl⟩, rfl⟩

/-- **The members of an address** are its two and others, in any order, just when the two names are
there once each. -/
theorem stands_object_iff : Stands address (.object members)
    ↔ (∀ member ∈ members, member.1.isSome = true)
      ∧ Json.membersNamed "container_id" members = [address.container.toJson]
      ∧ Json.membersNamed "object_id" members = [address.object.toJson] := by
  constructor
  · rintro (_ | ⟨hmembers, hothers⟩)
    have hne : some "container_id".toList ≠ some "object_id".toList := by decide
    have hcontainers := Json.membersNamed_perm "container_id" hmembers
    have hobjects := Json.membersNamed_perm "object_id" hmembers
    rw [Json.membersNamed_cons_self, Json.membersNamed_cons_of_ne hne.symm,
      Json.membersNamed_eq_nil fun other hother => (hothers other hother).ne_container]
      at hcontainers
    rw [Json.membersNamed_cons_of_ne hne, Json.membersNamed_cons_self,
      Json.membersNamed_eq_nil fun other hother => (hothers other hother).ne_object] at hobjects
    refine ⟨fun member hmember => ?_, List.perm_singleton.1 hcontainers,
      List.perm_singleton.1 hobjects⟩
    obtain _ | ⟨_, _ | ⟨_, hmember⟩⟩ := hmembers.mem_iff.1 hmember
    · rfl
    · rfl
    · exact (hothers member hmember).isSome
  · rintro ⟨hall, hcontainer, hobject⟩
    have hcontainers := Json.perm_cons_of_membersNamed hcontainer
    rw [← Json.membersNamed_filter_ne (by decide : "object_id" ≠ "container_id")] at hobject
    have hobjects := Json.perm_cons_of_membersNamed hobject
    refine .object (hcontainers.trans (hobjects.cons _)) fun other hother => ?_
    obtain ⟨hother, hneObject⟩ := List.mem_filter.1 hother
    obtain ⟨hother, hneContainer⟩ := List.mem_filter.1 hother
    exact ⟨hall other hother, bne_iff_ne.1 hneContainer, bne_iff_ne.1 hneObject⟩

/-- **A value is read as the address it stands for** and as no other. -/
theorem ofJson?_eq_some_iff (h : Json.Spells chars value) :
    ofJson? value = some address ↔ Stands address value := by
  cases value with
  | object members => rw [ofJson?_object_eq_some_iff h, stands_object_iff]
  | array items =>
    match items, h with
    | [container, object], h =>
      obtain ⟨_, hcontainer⟩ := h.exists_of_mem_array container (List.mem_cons_self ..)
      obtain ⟨_, hobject⟩ := h.exists_of_mem_array object (.tail _ (List.mem_cons_self ..))
      simp only [ofJson?, Option.bind_eq_bind, Option.bind_eq_some_iff, Option.pure_def,
        Option.some.injEq, Identifier.ofJson?_eq_some_iff hcontainer,
        Identifier.ofJson?_eq_some_iff hobject]
      constructor
      · rintro ⟨_, rfl, _, rfl, rfl⟩
        exact .array
      · rintro ⟨⟩
        exact ⟨_, rfl, _, rfl, rfl⟩
    | [], _ => exact iff_of_false nofun nofun
    | [_], _ => exact iff_of_false nofun nofun
    | _ :: _ :: _ :: _, _ => exact iff_of_false nofun nofun
  | _ => exact iff_of_false nofun nofun

/-! ## Texts -/

theorem ofJsonText?_eq_some_iff :
    ofJsonText? text = some address ↔ ∃ value, Json.IsText text value ∧ Stands address value := by
  rw [ofJsonText?, Option.bind_eq_some_iff]
  refine exists_congr fun value => ?_
  rw [Json.ofText?_eq_some_iff]
  refine and_congr_right ?_
  rintro ⟨_, _, _, -, hspells, -⟩
  exact ofJson?_eq_some_iff hspells

theorem written_toJson (address : Address) : address.toJson.Written :=
  .object (List.forall_mem_cons.2 ⟨⟨_, rfl⟩, List.forall_mem_singleton.2 ⟨_, rfl⟩⟩)
    (List.forall_mem_cons.2 ⟨Bytes.written_toJson _,
      List.forall_mem_singleton.2 (Bytes.written_toJson _)⟩)

theorem stands_toJson (address : Address) : Stands address address.toJson :=
  .object (.refl _) (List.forall_mem_nil _)

/-- What stands for an address begins with a mark that no number begins with. -/
theorem Stands.exists_cons (hstands : Stands address value) (h : Json.Spells chars value) :
    ∃ first others, chars = first :: others ∧ (first = '[' ∨ first = '\x7b') := by
  cases hstands with
  | array =>
    cases h
    exact ⟨'[', _, rfl, .inl rfl⟩
  | object =>
    cases h with
    | emptyObject => exact ⟨'\x7b', _, rfl, .inr rfl⟩
    | object => exact ⟨'\x7b', _, rfl, .inr rfl⟩

/-- **Nothing but white space may follow** the value of an address. -/
theorem ofJsonText?_eq_none_of_append {before spelled rest : List Char}
    (hbefore : Json.Space before) (hspelled : Json.Spells spelled value)
    (hrest : ¬ Json.Space rest) :
    ofJsonText? (String.ofList (before ++ (spelled ++ rest))) = none := by
  by_cases hvalue : ∀ digits, value ≠ .number digits
  · rw [ofJsonText?, Json.ofText?_eq_none_of_append hbefore hspelled hvalue hrest, Option.bind_none]
  -- what follows may go on with a number, but a number is no address
  push Not at hvalue
  obtain ⟨digits, rfl⟩ := hvalue
  cases hspelled with
  | number hnumber =>
  refine Option.eq_none_iff_forall_ne_some.2 fun address haddress => ?_
  obtain ⟨value, ⟨space, chars, after, hspace, hchars, -, heq⟩, hstands⟩ :=
    ofJsonText?_eq_some_iff.1 haddress
  obtain ⟨mark, inner, rfl, hmark⟩ := hstands.exists_cons hchars
  obtain ⟨first, others, rfl, hfirst⟩ := hnumber.exists_cons
  obtain ⟨_, _, hcons, hblank, -⟩ := Json.starts_spells _ _ (.number hnumber)
  obtain ⟨rfl, -⟩ := List.cons.inj hcons
  have hskip := congrArg Json.skipSpace heq
  rw [String.toList_ofList, Json.skipSpace_append hbefore, Json.skipSpace_append hspace,
    List.cons_append, List.cons_append, Json.skipSpace_cons hblank] at hskip
  obtain rfl | rfl := hmark
  · rw [(List.cons.inj hskip).1] at hfirst
    exact absurd hfirst (by decide)
  · rw [(List.cons.inj hskip).1] at hfirst
    exact absurd hfirst (by decide)

/-- An object in which a name is missing or repeated, or names no identifier, is no address. -/
theorem not_stands_object {name : String} (hname : name ∈ ["container_id", "object_id"])
    (h : (members.map Prod.fst).count (some name.toList) ≠ 1
      ∨ ∃ value, (some name.toList, value) ∈ members ∧ ¬ Identifier.IsJson value) :
    ¬ Stands address (.object members) := by
  intro hstands
  obtain ⟨-, hcontainer, hobject⟩ := stands_object_iff.1 hstands
  have hsingle : ∃ value, Json.membersNamed name members = [value] ∧ Identifier.IsJson value := by
    obtain _ | ⟨_, _ | ⟨_, ⟨⟩⟩⟩ := hname
    · exact ⟨_, hcontainer, address.container.isJson_toJson⟩
    · exact ⟨_, hobject, address.object.isJson_toJson⟩
  obtain ⟨value, hvalue, hjson⟩ := hsingle
  obtain hcount | ⟨other, hother, hnot⟩ := h
  · rw [← Json.length_membersNamed, hvalue] at hcount
    exact hcount rfl
  · rw [← Json.mem_membersNamed_iff, hvalue, List.mem_singleton] at hother
    exact hnot (hother ▸ hjson)

theorem not_stands_array {items : List Json}
    (h : items.length ≠ 2 ∨ ∃ value ∈ items, ¬ Identifier.IsJson value) :
    ¬ Stands address (.array items) := by
  rintro ⟨⟩
  obtain hlength | ⟨value, hvalue, hnot⟩ := h
  · exact hlength rfl
  · obtain _ | ⟨_, _ | ⟨_, ⟨⟩⟩⟩ := hvalue
    · exact hnot address.container.isJson_toJson
    · exact hnot address.object.isJson_toJson

theorem ofJsonText?_eq_none_of_not_stands (h : Json.IsText text value)
    (hnot : ∀ address, ¬ Stands address value) : ofJsonText? text = none := by
  rw [ofJsonText?, Json.ofText?_eq_some_iff.2 h, Option.bind_some,
    Option.eq_none_iff_forall_ne_some]
  obtain ⟨_, _, _, -, hspells, -⟩ := h
  exact fun address haddress => hnot address ((ofJson?_eq_some_iff hspells).1 haddress)

/-- **Reading addresses from JSON is exact.**  What is written reads back.  A text reads as an
address just when, with whatever white space between its tokens, it is a text of a value that stands
for the address.  So an object is refused in which one of the two names is missing or repeated, or
in which it names anything but 32 integers from 0 to 255, and so is an array that is not two of
those; and nothing but white space may follow the value. -/
theorem ofJsonText_exact :
    (∀ address : Address, ofJsonText? address.toJsonText = some address)
      ∧ (∀ text address, ofJsonText? text = some address
        ↔ ∃ value, Json.IsText text value ∧ Stands address value)
      ∧ (∀ text members, Json.IsText text (.object members) →
        ∀ name ∈ ["container_id", "object_id"],
          ((members.map Prod.fst).count (some name.toList) ≠ 1
            ∨ ∃ value, (some name.toList, value) ∈ members ∧ ¬ Identifier.IsJson value) →
          ofJsonText? text = none)
      ∧ (∀ text items, Json.IsText text (.array items) →
        (items.length ≠ 2 ∨ ∃ value ∈ items, ¬ Identifier.IsJson value) →
          ofJsonText? text = none)
      ∧ ∀ before spelled rest value, Json.Space before → Json.Spells spelled value →
        ¬ Json.Space rest → ofJsonText? (String.ofList (before ++ (spelled ++ rest))) = none := by
  refine ⟨fun address => ?_, fun text address => ofJsonText?_eq_some_iff,
    fun text members htext name hname hflaw => ?_, fun text items htext hflaw => ?_,
    fun before spelled rest value => ofJsonText?_eq_none_of_append⟩
  · have htext := Json.ofText?_eq_some_iff.1 address.written_toJson.ofText?_compact_pretty.1
    exact ofJsonText?_eq_some_iff.2 ⟨address.toJson, htext, address.stands_toJson⟩
  · exact ofJsonText?_eq_none_of_not_stands htext fun _ => not_stands_object hname hflaw
  · exact ofJsonText?_eq_none_of_not_stands htext fun _ => not_stands_array hflaw

/-- An object without its container is refused. -/
theorem ofJsonText_exact_lacking_container :
    Json.IsText "\x7b\"object_id\":[]\x7d" (.record [("object_id", .array [])])
      ∧ ofJsonText? "\x7b\"object_id\":[]\x7d" = none := by
  have hwritten : (Json.record [("object_id", .array [])]).Written :=
    .object (List.forall_mem_singleton.2 ⟨_, rfl⟩)
      (List.forall_mem_singleton.2 (.array (List.forall_mem_nil _)))
  have hcompact : (Json.record [("object_id", .array [])]).compact
      = "\x7b\"object_id\":[]\x7d" := by decide
  have htext := Json.ofText?_eq_some_iff.1 hwritten.ofText?_compact_pretty.1
  rw [hcompact] at htext
  exact ⟨htext, ofJsonText_exact.2.2.1 _ _ htext "container_id" (List.mem_cons_self ..)
    (.inl (by decide))⟩

end Address

end Coffer
