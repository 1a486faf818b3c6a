import Coffer.Proofs.Store.AttributeColumn
import Coffer.Store.Database
import Coffer.Store.ObjectMap

/-!
# Proofs/Store/Archive — what both stores keep

An **archive** is what any store should be: contents, of which the first put at an address stays.
An object map and a database each **stand for** an archive, and every call on them answers as the
archive does and leaves them standing for the archive after the call (`run_put`, `run_get`,
`run_head`).
-/

namespace Coffer

/-! ## Archives -/

/-- **An archive**: contents, the latest first. -/
structure Archive where
  /-- The contents. -/
  kept : List Content

namespace Archive

/-- The archive that keeps nothing. -/
def empty : Archive := ⟨[]⟩

/-- The content at an address. -/
def find? (archive : Archive) (address : Address) : Option Content :=
  archive.kept.find? fun content => content.address == address

/-- Keeps a content, unless there is one at its address already. -/
def insertNew (archive : Archive) (content : Content) : Archive :=
  match archive.find? content.address with
  | some _ => archive
  | none => ⟨content :: archive.kept⟩

/-- Keeps several contents, one after the other. -/
def insertAll (archive : Archive) (contents : List Content) : Archive :=
  contents.foldl insertNew archive

variable {archive : Archive} {content found : Content} {address : Address}

theorem address_of_find?_eq_some (h : archive.find? address = some found) :
    found.address = address := by
  simpa using List.find?_some h

theorem mem_of_find?_eq_some (h : archive.find? address = some found) : found ∈ archive.kept :=
  List.mem_of_find?_eq_some h

theorem find?_eq_none_iff :
    archive.find? address = none ↔ address ∉ archive.kept.map Content.address := by
  simp [find?]

theorem insertNew_of_eq_some (h : archive.find? content.address = some found) :
    archive.insertNew content = archive := by
  rw [insertNew, h]

theorem insertNew_of_eq_none (h : archive.find? content.address = none) :
    archive.insertNew content = ⟨content :: archive.kept⟩ := by
  rw [insertNew, h]

/-- **Putting a content** shows at its own address, unless something was found there before. -/
theorem find?_insertNew (archive : Archive) (content : Content) (address : Address) :
    (archive.insertNew content).find? address
      = (archive.find? address).or (if content.address = address then some content else none) := by
  cases hself : archive.find? content.address with
  | some found =>
    rw [insertNew_of_eq_some hself]
    split
    · rename_i h
      rw [← h, hself]
      rfl
    · exact Option.or_none.symm
  | none =>
    rw [insertNew_of_eq_none hself, find?, List.find?_cons]
    split
    · rename_i h
      obtain rfl := eq_of_beq h
      rw [hself, if_pos rfl]
      rfl
    · rename_i h
      rw [if_neg (by simpa using h), Option.or_none]
      rfl

/-- **What is kept stays**, whatever is put later. -/
theorem find?_insertNew_of_eq_some (h : archive.find? address = some found) (content : Content) :
    (archive.insertNew content).find? address = some found := by
  rw [find?_insertNew, h]
  rfl

/-- **What has been put is found**: itself, or what was there before it. -/
theorem find?_insertNew_self (archive : Archive) (content : Content) :
    ∃ found, (archive.insertNew content).find? content.address = some found
      ∧ (found = content ∨ found ∈ archive.kept) := by
  rw [find?_insertNew, if_pos rfl]
  cases hfind : archive.find? content.address with
  | none => exact ⟨content, rfl, .inl rfl⟩
  | some found => exact ⟨found, rfl, .inr (mem_of_find?_eq_some hfind)⟩

/-- Nothing is kept but what was put. -/
theorem mem_insertNew (h : found ∈ (archive.insertNew content).kept) :
    found = content ∨ found ∈ archive.kept := by
  rw [insertNew] at h
  split at h
  · exact .inr h
  · exact List.mem_cons.1 h

theorem insertAll_append (archive : Archive) (contents others : List Content) :
    archive.insertAll (contents ++ others) = (archive.insertAll contents).insertAll others :=
  List.foldl_append

theorem find?_insertAll_of_eq_some (h : archive.find? address = some found)
    (contents : List Content) : (archive.insertAll contents).find? address = some found := by
  induction contents generalizing archive with
  | nil => exact h
  | cons content contents ih => exact ih (find?_insertNew_of_eq_some h content)

theorem mem_insertAll {contents : List Content} (h : found ∈ (archive.insertAll contents).kept) :
    found ∈ contents ∨ found ∈ archive.kept := by
  induction contents generalizing archive with
  | nil => exact .inr h
  | cons content contents ih =>
    rcases ih h with hmem | hmem
    · exact .inl (List.mem_cons_of_mem content hmem)
    · rcases mem_insertNew hmem with rfl | hmem
      · exact .inl List.mem_cons_self
      · exact .inr hmem

end Archive

/-! ## Stores that stand for an archive -/

/-- The object map that stands for an archive. -/
def ObjectMap.ofArchive (archive : Archive) : ObjectMap :=
  ⟨archive.kept.map fun content => (content.address, ⟨content.header, content.payload⟩)⟩

/-- The database that stands for an archive. -/
def Database.ofArchive (archive : Archive) : Database :=
  ⟨some [(Database.currentVersion : Int)], some (archive.kept.map Database.rowOf)⟩

namespace ObjectMap

theorem find?_ofArchive (archive : Archive) (address : Address) :
    (ofArchive archive).find? address
      = (archive.find? address).map fun content => ⟨content.header, content.payload⟩ := by
  obtain ⟨kept⟩ := archive
  rw [find?, ofArchive, Archive.find?]
  induction kept with
  | nil => rfl
  | cons content kept ih =>
    rw [List.map_cons, List.lookup_cons, List.find?_cons, Bool.beq_comm]
    split
    · rfl
    · exact ih

theorem insertNew_ofArchive (archive : Archive) (content : Content) :
    (ofArchive archive).insertNew content.address ⟨content.header, content.payload⟩
      = ofArchive (archive.insertNew content) := by
  rw [insertNew, find?_ofArchive, Archive.insertNew]
  cases archive.find? content.address <;> rfl

theorem run_get_ofArchive (archive : Archive) (address : Address) :
    (get address).run (ofArchive archive)
      = (match archive.find? address with
        | some content => .ok content.payload
        | none => .error (.notFound address), ofArchive archive) := by
  have hfind := find?_ofArchive archive address
  cases h : archive.find? address with
  | none =>
    rw [h] at hfind
    simp only [get, StateT.run_bind, StateT.run_get, pure_bind, hfind, Option.map_none]
    rfl
  | some content =>
    rw [h] at hfind
    simp only [get, StateT.run_bind, StateT.run_get, pure_bind, hfind, Option.map_some]
    rfl

theorem run_head_ofArchive (archive : Archive) (address : Address) :
    (head address).run (ofArchive archive)
      = (match archive.find? address with
        | some content => .ok content.header
        | none => .error (.notFound address), ofArchive archive) := by
  have hfind := find?_ofArchive archive address
  cases h : archive.find? address with
  | none =>
    rw [h] at hfind
    simp only [head, StateT.run_bind, StateT.run_get, pure_bind, hfind, Option.map_none]
    rfl
  | some content =>
    rw [h] at hfind
    simp only [head, StateT.run_bind, StateT.run_get, pure_bind, hfind, Option.map_some]
    rfl

end ObjectMap

namespace Database

theorem findRow?_map_rowOf (archive : Archive) (address : Address) :
    findRow? (archive.kept.map rowOf) address = (archive.find? address).map rowOf := by
  rw [findRow?, List.find?_map]
  rfl

theorem insertNew_map_rowOf (archive : Archive) (content : Content) :
    insertNew (archive.kept.map rowOf) (rowOf content)
      = (archive.insertNew content).kept.map rowOf := by
  have hfind := findRow?_map_rowOf archive content.address
  have haddress : (rowOf content).address = content.address := rfl
  rw [insertNew, haddress, hfind, Archive.insertNew]
  cases archive.find? content.address <;> rfl

/-- **A row holds the header** of the content that it is for. -/
theorem headerOf_rowOf {content : Content}
    (h : AttributeColumn.SizedColumn content.attributes) :
    headerOf (rowOf content) = .ok content.header := by
  have howner : Identifier.ofBytes? .owner content.owner.bytes = some content.owner := by
    rw [Identifier.ofBytes?, Identifier.bytes, Block.ofBytes?_bytes]
    rfl
  simp only [headerOf, rowOf, howner, AttributeColumn.read?_write h]
  rfl

theorem row_ofArchive (archive : Archive) (address : Address) :
    (ofArchive archive).row address = match archive.find? address with
      | some content => .ok (rowOf content)
      | none => .error (.notFound address) := by
  simp only [row, ofArchive, findRow?_map_rowOf]
  cases archive.find? address <;> rfl

end Database

/-! ## Both kinds of store -/

/-- **A backend**: one of the kinds of store that keep objects. -/
inductive Backend
  /-- Objects are kept in memory. -/
  | objectMap
  /-- Objects are kept in tables. -/
  | database
deriving DecidableEq

namespace Backend

/-- The state of a backend. -/
abbrev State : Backend → Type
  | objectMap => ObjectMap
  | database => Database

instance (backend : Backend) : ObjectStore backend.State :=
  match backend with
  | objectMap => inferInstanceAs (ObjectStore ObjectMap)
  | database => inferInstanceAs (ObjectStore Database)

/-- **Opens a backend again**: tables are brought to the current version, and what is in memory is
there already. -/
def reopen : (backend : Backend) → backend.State → Except StoreError Unit × backend.State
  | objectMap => fun objects => (.ok (), objects)
  | database => Database.migrate

/-- A backend just opened for the first time. -/
def empty : (backend : Backend) → backend.State
  | objectMap => ObjectMap.empty
  | database => (database.reopen Database.blank).2

/-- The state that stands for an archive. -/
def ofArchive : (backend : Backend) → Archive → backend.State
  | objectMap => ObjectMap.ofArchive
  | database => Database.ofArchive

variable (backend : Backend) (archive : Archive)

theorem empty_eq : backend.empty = backend.ofArchive .empty := by
  cases backend <;> rfl

/-- **Opening again** changes nothing. -/
theorem reopen_ofArchive :
    backend.reopen (backend.ofArchive archive) = (.ok (), backend.ofArchive archive) := by
  cases backend <;> rfl

/-- **Putting** a content always succeeds, and keeps it unless its address is taken. -/
theorem run_put (content : Content) :
    (ObjectStore.put content).run (backend.ofArchive archive)
      = (.ok content.objectId, backend.ofArchive (archive.insertNew content)) := by
  cases backend with
  | objectMap => exact congrArg (Prod.mk _) (ObjectMap.insertNew_ofArchive archive content)
  | database =>
    have hrows := Database.insertNew_map_rowOf archive content
    change (_, Database.mk _ (some (Database.insertNew _ _))) = _
    rw [hrows]
    rfl

/-- **Getting** gives the payload that is kept. -/
theorem run_get (address : Address) :
    (ObjectStore.get address).run (backend.ofArchive archive)
      = (match archive.find? address with
        | some content => .ok content.payload
        | none => .error (.notFound address), backend.ofArchive archive) := by
  cases backend with
  | objectMap => exact ObjectMap.run_get_ofArchive archive address
  | database =>
    change (((Database.ofArchive archive).row address).map Row.payload, _) = _
    rw [Database.row_ofArchive]
    cases archive.find? address <;> rfl

/-- **Getting changes nothing**, whatever is in the backend. -/
theorem run_get_state (address : Address) (state : backend.State) :
    ((ObjectStore.get address).run state).2 = state := by
  cases backend with
  | objectMap =>
    change ((ObjectMap.get address).run state).2 = state
    simp only [ObjectMap.get, StateT.run_bind, StateT.run_get, pure_bind]
    cases ObjectMap.find? state address <;> rfl
  | database => rfl

/-- **The header** of what is kept, provided that its attributes fit into a column. -/
theorem run_head {address : Address} {content : Content}
    (hfind : archive.find? address = some content)
    (hsized : AttributeColumn.SizedColumn content.attributes) :
    (ObjectStore.head address).run (backend.ofArchive archive)
      = (.ok content.header, backend.ofArchive archive) := by
  cases backend with
  | objectMap =>
    have hhead := ObjectMap.run_head_ofArchive archive address
    rw [hfind] at hhead
    exact hhead
  | database =>
    change (((Database.ofArchive archive).row address).bind Database.headerOf, _) = _
    rw [Database.row_ofArchive, hfind]
    exact congrArg (Prod.mk · _) (Database.headerOf_rowOf hsized)

/-- There is no header where nothing is kept. -/
theorem run_head_of_eq_none {address : Address} (hfind : archive.find? address = none) :
    (ObjectStore.head address).run (backend.ofArchive archive)
      = (.error (.notFound address), backend.ofArchive archive) := by
  cases backend with
  | objectMap =>
    have hhead := ObjectMap.run_head_ofArchive archive address
    rw [hfind] at hhead
    exact hhead
  | database =>
    change (((Database.ofArchive archive).row address).bind Database.headerOf, _) = _
    rw [Database.row_ofArchive, hfind]
    rfl

/-- Asking for a header changes nothing. -/
theorem run_head_state (address : Address) :
    ((ObjectStore.head address).run (backend.ofArchive archive)).2 = backend.ofArchive archive := by
  cases backend with
  | objectMap => exact congrArg Prod.snd (ObjectMap.run_head_ofArchive archive address)
  | database => rfl

end Backend

end Coffer
