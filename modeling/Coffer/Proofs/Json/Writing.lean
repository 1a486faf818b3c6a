import Coffer.Json.Writer
import Coffer.Proofs.Json.Reading

/-!
# Proofs/Json/Writing — what is written spells the value

In whatever layout a value is written, what is written spells it, as long as the layout puts nothing
between the tokens but white space (`Json.Layout.Blank`) and the value is one that can be written:
its numbers are numbers of the notation and its strings are texts (`Json.Written`).  So what is
written reads back, on one line or on several.
-/

namespace Coffer.Json

/-! ## Strings -/

/-- The number in the escape of a control character is the character's own. -/
private theorem unitValue?_control : ∀ code : Fin 32,
    unitValue? '0' '0' (Nat.digitChar (code / 16)) (Nat.digitChar (code % 16)) = some code.val := by
  decide

/-- **What is written for a character** spells it, by itself or by its number. -/
theorem spellsPiece_escaped (c : Char) : SpellsPiece (escaped c) (.char c)
    ∨ c.toNat < 32 ∧ SpellsPiece (escaped c) (.unit c.toNat) := by
  rw [escaped]
  split
  · rename_i h
    obtain rfl | rfl := h
    · exact .inl (.escape rfl)
    · exact .inl (.escape rfl)
  iterate 5
    split
    · rename_i h
      subst h
      exact .inl (.escape rfl)
  split
  · rename_i hlt
    exact .inr ⟨hlt, .unit (unitValue?_control ⟨c.toNat, hlt⟩)⟩
  · rename_i hnot _ _ _ _ _ hle
    obtain ⟨hquote, hslash⟩ := not_or.1 hnot
    exact .inl (.plain hquote hslash (Nat.not_lt.1 hle))

theorem exists_spellsPieces_escaped (content : List Char) : ∃ pieces,
    SpellsPieces (content.flatMap escaped) pieces ∧ spell? pieces = some content := by
  induction content with
  | nil => exact ⟨[], .nil, rfl⟩
  | cons c content ih =>
    obtain ⟨pieces, hpieces, hspell⟩ := ih
    obtain hchar | ⟨hlt, hunit⟩ := spellsPiece_escaped c
    · refine ⟨.char c :: pieces, .cons hchar hpieces, ?_⟩
      rw [spell?, hspell]
      rfl
    · refine ⟨.unit c.toNat :: pieces, .cons hunit hpieces, ?_⟩
      rw [spell?.eq_def]
      simp only [if_pos (.inl (by omega) : c.toNat < 0xd800 ∨ 0xdfff < c.toNat), hspell,
        Char.ofNat_toNat, Option.map_some]

theorem spells_writeString (content : List Char) :
    Spells (writeString (some content)) (string (some content)) := by
  obtain ⟨pieces, hpieces, hspell⟩ := exists_spellsPieces_escaped content
  have hspells := Spells.string hpieces
  rw [hspell] at hspells
  exact hspells

theorem spellsMember_write {Value : List Char → Json → Prop} {name space chars : List Char}
    {value : Json} (hspace : Space space) (hvalue : Value chars value) :
    SpellsMember Value (writeString (some name) ++ ':' :: space ++ chars) (some name, value) := by
  obtain ⟨pieces, hpieces, hspell⟩ := exists_spellsPieces_escaped name
  have hmember := SpellsMember.mk hpieces space_nil hspace hvalue
  rw [hspell] at hmember
  simpa only [writeString, Option.getD_some, List.cons_append, List.append_assoc, List.nil_append]
    using hmember

/-! ## Layouts -/

/-- **A layout that adds nothing but white space** to the marks. -/
structure Layout.Blank (layout : Layout) : Prop where
  afterOpen : Space layout.afterOpen
  between : ∃ space, Space space ∧ layout.between = ',' :: space
  beforeClose : Space layout.beforeClose
  colon : ∃ space, Space space ∧ layout.colon = ':' :: space

theorem Layout.blank_compact : Layout.compact.Blank :=
  ⟨space_nil, ⟨[], space_nil, rfl⟩, space_nil, ⟨[], space_nil, rfl⟩⟩

theorem Layout.blank_pretty (depth : Nat) : (Layout.pretty depth).Blank := by
  have hline (depth : Nat) : Space ('\n' :: List.replicate (2 * depth) ' ') := by
    refine List.forall_mem_cons.2 ⟨rfl, fun c hc => ?_⟩
    rw [List.eq_of_mem_replicate hc]
    rfl
  exact ⟨hline _, ⟨_, hline _, rfl⟩, hline _, ⟨[' '], by simp [Space, isSpace], rfl⟩⟩

section Items

variable {α : Type} {Item : List Char → α → Prop} {write : α → List Char} {items : List α}

/-- **Written items in a layout** are a list of them. -/
theorem listed_intercalate {before space after : List Char} (hbefore : Space before)
    (hspace : Space space) (hafter : Space after) (hitems : items ≠ [])
    (hwrite : ∀ item ∈ items, Item (write item) item) :
    Listed Item (before ++ ((',' :: space).intercalate (items.map write) ++ after)) items := by
  induction items generalizing before with
  | nil => exact absurd rfl hitems
  | cons item items ih =>
    obtain ⟨hitem, hothers⟩ := List.forall_mem_cons.1 hwrite
    cases items with
    | nil =>
      rw [List.map_singleton, List.intercalate_singleton]
      exact .last hbefore hitem hafter
    | cons second items =>
      have hrest := ih hspace (List.cons_ne_nil second items) hothers
      have hlisted := Listed.cons hbefore hitem space_nil hrest
      rw [List.map_cons, List.map_cons, List.intercalate_cons_cons, ← List.map_cons]
      simpa only [List.append_assoc, List.cons_append, List.nil_append] using hlisted

theorem enclosed_intercalate {layout : Layout} (h : layout.Blank) (opening closing : Char)
    (hwrite : ∀ item ∈ items, Item (write item) item) :
    ∃ chars, enclose layout opening closing (items.map write) = opening :: (chars ++ [closing])
      ∧ Enclosed Item chars items := by
  rw [enclose]
  split
  · rename_i hnil
    exact ⟨[], rfl, .inl ⟨space_nil, List.map_eq_nil_iff.1 hnil⟩⟩
  · rename_i hne
    obtain ⟨space, hspace, hbetween⟩ := h.between
    refine ⟨_, ?_, .inr (listed_intercalate h.afterOpen hspace h.beforeClose ?_ hwrite)⟩
    · rw [hbetween]
      simp only [List.cons_append, List.append_assoc]
    · rintro rfl
      exact hne rfl

end Items

/-! ## Values -/

/-- **A value that can be written**: its numbers are numbers of the notation, and its strings and
the names of its members are texts. -/
inductive Written : Json → Prop
  | null : Written null
  | bool (value : Bool) : Written (bool value)
  | number {digits : List Char} (h : Number digits) : Written (number digits)
  | string (content : List Char) : Written (string (some content))
  | array {items : List Json} (h : ∀ item ∈ items, Written item) : Written (array items)
  | object {members : List (Option (List Char) × Json)}
    (hname : ∀ member ∈ members, ∃ name, member.1 = some name)
    (hvalue : ∀ member ∈ members, Written member.2) : Written (object members)

section Write

variable {layout : Nat → Layout} {depth : Nat} {value : Json}

theorem writeItems_eq_map (items : List Json) :
    writeItems layout depth items = items.map (write layout depth) := by
  induction items with
  | nil => rfl
  | cons item items ih => rw [writeItems, ih, List.map_cons]

theorem writeMembers_eq_map (colon : List Char) (members : List (Option (List Char) × Json)) :
    writeMembers layout colon depth members = members.map fun member =>
      writeString member.1 ++ colon ++ write layout depth member.2 := by
  induction members with
  | nil => rfl
  | cons member members ih => rw [writeMembers, ih, List.map_cons]

/-- **What is written spells the value**, whatever white space the layout adds. -/
theorem Written.spells_write (h : Written value) (hlayout : ∀ depth, (layout depth).Blank) :
    Spells (write layout depth value) value := by
  induction h generalizing depth with
  | null => exact .null
  | bool value =>
    cases value with
    | true => exact .true
    | false => exact .false
  | number h => exact .number h
  | string content => exact spells_writeString content
  | @array items h ih =>
    have hitem : ∀ item ∈ items, Spells (write layout (depth + 1) item) item :=
      fun item hitem => ih item hitem
    obtain ⟨chars, heq, hchars⟩ := enclosed_intercalate (hlayout depth) '[' ']' hitem
    rw [write, writeItems_eq_map, heq]
    exact hchars.spells_array
  | @object members hname hvalue ih =>
    obtain ⟨space, hspace, hcolon⟩ := (hlayout depth).colon
    have hmember : ∀ member ∈ members, SpellsMember Spells
        (writeString member.1 ++ ':' :: space ++ write layout (depth + 1) member.2) member := by
      rintro ⟨_, value⟩ hmem
      obtain ⟨name, rfl⟩ := hname _ hmem
      exact spellsMember_write hspace (ih _ hmem)
    obtain ⟨chars, heq, hchars⟩ := enclosed_intercalate (hlayout depth) '\x7b' '\x7d' hmember
    rw [write, writeMembers_eq_map, hcolon, heq]
    exact hchars.spells_object

/-- **What is written reads back**, in any layout of white space. -/
theorem Written.ofText?_write (h : Written value) (hlayout : ∀ depth, (layout depth).Blank) :
    ofText? (String.ofList (write layout depth value)) = some value := by
  have hspells : Spells (write layout depth value) value := h.spells_write hlayout
  refine ofText?_eq_some_iff.2 ⟨[], _, [], space_nil, hspells, space_nil, ?_⟩
  rw [String.toList_ofList, List.append_nil, List.nil_append]

/-- **A value on one line or on several** is read as what it is. -/
theorem Written.ofText?_compact_pretty (h : Written value) :
    ofText? value.compact = some value ∧ ofText? value.pretty = some value :=
  ⟨h.ofText?_write fun _ => Layout.blank_compact, h.ofText?_write Layout.blank_pretty⟩

end Write

end Coffer.Json
