import Mathlib.Data.Finset.Card
import Coffer.Proofs.Store.Immutability

/-!
# Proofs/Store/Convergence — neither the order nor the repetition of puts shows

Of contents with different addresses an empty archive keeps each one once
(`Archive.kept_perm_dedup`), so archives that were given the same contents find the same at every
address (`Archive.find?_insertAll_congr`).  Hence a store that started empty holds nothing but the
contents that were put into it, in whatever order and however often (`Backend.puts_converge`).
-/

namespace Coffer

namespace Archive

/-! ## Contents of different addresses -/

variable {archive : Archive} {contents others : List Content} {content : Content}

theorem distinct_empty : empty.Distinct := List.nodup_nil

theorem Distinct.insertAll (h : archive.Distinct) (contents : List Content) :
    (archive.insertAll contents).Distinct := by
  induction contents generalizing archive with
  | nil => exact h
  | cons content contents ih => exact ih (h.insertNew content)

/-- **Putting several contents** gives back their identifiers and keeps them one after the other. -/
theorem run_mapM_put (archive : Archive) (contents : List Content) :
    ((contents.map StoreCall.put).mapM perform).run archive
      = (contents.map fun content => .stored (.ok content.objectId),
        archive.insertAll contents) := by
  induction contents generalizing archive with
  | nil => rfl
  | cons content contents ih =>
    rw [List.map_cons, StateM.run_mapM_cons, ih]
    rfl

/-- Something is found where one of the contents belongs. -/
theorem exists_find?_insertAll (archive : Archive) (h : content ∈ contents) :
    ∃ found, (archive.insertAll contents).find? content.address = some found := by
  obtain ⟨before, after, rfl⟩ := List.append_of_mem h
  obtain ⟨found, hfound, -⟩ := find?_insertNew_self (archive.insertAll before) content
  rw [insertAll_append]
  exact ⟨found, find?_insertAll_of_eq_some hfound after⟩

theorem mem_of_mem_insertAll_empty (h : content ∈ (empty.insertAll contents).kept) :
    content ∈ contents := (mem_insertAll h).resolve_right List.not_mem_nil

theorem sized_insertAll_empty
    (h : ∀ content ∈ contents, AttributeColumn.SizedColumn content.attributes) :
    (empty.insertAll contents).Sized := fun content hmem =>
  h content (mem_of_mem_insertAll_empty hmem)

/-- What is found is the one content that was put for the address. -/
theorem find?_insertAll_empty_eq_some_iff
    (h : Set.InjOn Content.address {content | content ∈ contents}) {address : Address} :
    (empty.insertAll contents).find? address = some content
      ↔ content ∈ contents ∧ content.address = address := by
  constructor
  · intro hfind
    exact ⟨mem_of_mem_insertAll_empty (mem_of_find?_eq_some hfind),
      address_of_find?_eq_some hfind⟩
  · rintro ⟨hmem, rfl⟩
    obtain ⟨found, hfind⟩ := exists_find?_insertAll empty hmem
    have hput : found ∈ contents := mem_of_mem_insertAll_empty (mem_of_find?_eq_some hfind)
    rwa [h hput hmem (address_of_find?_eq_some hfind)] at hfind

/-- **Contents of different addresses** are all kept, and nothing else is. -/
theorem mem_insertAll_empty_iff (h : Set.InjOn Content.address {content | content ∈ contents}) :
    content ∈ (empty.insertAll contents).kept ↔ content ∈ contents :=
  ⟨mem_of_mem_insertAll_empty, fun hmem =>
    mem_of_find?_eq_some ((find?_insertAll_empty_eq_some_iff h).2 ⟨hmem, rfl⟩)⟩

/-- **Each of them is kept once.** -/
theorem kept_perm_dedup (h : Set.InjOn Content.address {content | content ∈ contents}) :
    (empty.insertAll contents).kept.Perm contents.dedup := by
  have hdistinct : (empty.insertAll contents).Distinct := distinct_empty.insertAll contents
  refine (List.perm_ext_iff_of_nodup (hdistinct.of_map Content.address) contents.nodup_dedup).2
    fun content => ?_
  rw [mem_insertAll_empty_iff h, List.mem_dedup]

/-- **The same contents** are found, however they were put. -/
theorem find?_insertAll_congr (h : Set.InjOn Content.address {content | content ∈ contents})
    (hothers : Set.InjOn Content.address {content | content ∈ others})
    (hmem : ∀ content, content ∈ others ↔ content ∈ contents) (address : Address) :
    (empty.insertAll others).find? address = (empty.insertAll contents).find? address := by
  ext content
  rw [find?_insertAll_empty_eq_some_iff h, find?_insertAll_empty_eq_some_iff hothers, hmem]

/-- An answer tells no more of an archive than what is found in it. -/
theorem answer_congr {other : Archive} (h : ∀ address, archive.find? address = other.find? address)
    (call : StoreCall) : archive.answer call = other.answer call := by
  cases call with
  | put content => rfl
  | get address buffer => rw [answer, answer, h]
  | head address => rw [answer, answer, h]

end Archive

/-! ## The objects in a backend -/

/-- The object that a content becomes: its address, its header and its payload. -/
def Content.object (content : Content) : Address × Except StoreError Header × Bytes :=
  (content.address, .ok content.header, content.payload)

namespace Backend

variable (backend : Backend)

/-- **The objects in a backend**: where each lies, its header and its payload. -/
def objects (state : backend.State) : List (Address × Except StoreError Header × Bytes) :=
  (backend.entries state).map fun entry =>
    (backend.addressOf entry, backend.headerOf entry, backend.payloadOf entry)

/-- How many objects there are in a backend. -/
def size : (backend : Backend) → backend.State → Nat
  | objectMap => ObjectMap.size
  | database => fun database => (database.objects.getD []).length

theorem objects_ofArchive {archive : Archive} (h : archive.Sized) :
    backend.objects (backend.ofArchive archive) = archive.kept.map Content.object := by
  rw [objects, entries_ofArchive, List.map_map]
  refine List.map_congr_left fun content hmem => ?_
  cases backend with
  | objectMap => rfl
  | database =>
    have hheader := Database.headerOf_rowOf (h content hmem)
    exact congrArg (fun header => (content.address, header, content.payload)) hheader

theorem size_ofArchive (archive : Archive) :
    backend.size (backend.ofArchive archive) = archive.kept.length := by
  cases backend <;> exact List.length_map _

/-! ## Putting contents into an empty backend -/

section Puts

variable {contents others : List Content}
  (hsized : ∀ content ∈ contents, AttributeColumn.SizedColumn content.attributes)

include hsized

/-- **Putting contents** gives back their identifiers, and leaves the backend standing for the
archive that was given the same contents. -/
theorem reached_map_put :
    backend.reached (contents.map .put)
      = (contents.map fun content => .stored (.ok content.objectId),
        backend.ofArchive (Archive.empty.insertAll contents)) := by
  have hcalls : ∀ call ∈ contents.map StoreCall.put, call.Sized := List.forall_mem_map.2 hsized
  have hrun := backend.run_mapM_perform Archive.sized_empty hcalls
  rwa [Archive.run_mapM_put, ← empty_eq] at hrun

/-- What comes next is answered as by that archive. -/
theorem run_perform_reached_map_put (call : StoreCall) :
    (backend.perform call).run (backend.reached (contents.map .put)).2
      = ((Archive.empty.insertAll contents).answer call,
        backend.ofArchive ((Archive.empty.insertAll contents).after call)) := by
  rw [backend.reached_map_put hsized]
  exact backend.run_perform (Archive.sized_insertAll_empty hsized) call

/-- **Each different content** becomes one object. -/
theorem objects_reached_map_put
    (haddress : Set.InjOn Content.address {content | content ∈ contents}) :
    (backend.objects (backend.reached (contents.map .put)).2).Perm
      (contents.dedup.map Content.object) := by
  rw [backend.reached_map_put hsized,
    backend.objects_ofArchive (Archive.sized_insertAll_empty hsized)]
  exact (Archive.kept_perm_dedup haddress).map Content.object

end Puts

/-- **The order and the repetition of puts leave no trace.**  If no two different contents have one
identifier, then putting them into an empty backend gives back each one's identifier and leaves just
one object for each different content; whatever else consists of the same contents leaves the same
objects, with the same answers to any call afterwards; and to put one of them again gives back its
identifier and changes nothing. -/
theorem puts_converge {contents : List Content}
    (hsized : ∀ content ∈ contents, AttributeColumn.SizedColumn content.attributes)
    (hids : Set.InjOn Content.objectId {content | content ∈ contents}) :
    let reached := backend.reached (contents.map .put)
    reached.1 = contents.map (fun content => .stored (.ok content.objectId))
      ∧ (backend.objects reached.2).Perm (contents.dedup.map Content.object)
      ∧ backend.size reached.2 = contents.toFinset.card
      ∧ (∀ others : List Content, (∀ content, content ∈ others ↔ content ∈ contents) →
        let again := backend.reached (others.map .put)
        again.1 = others.map (fun content => .stored (.ok content.objectId))
          ∧ (backend.objects again.2).Perm (backend.objects reached.2)
          ∧ ∀ call, ((backend.perform call).run again.2).1
            = ((backend.perform call).run reached.2).1)
      ∧ ∀ content ∈ contents, (backend.perform (.put content)).run reached.2
        = (.stored (.ok content.objectId), reached.2) := by
  intro reached
  have hreached : reached = _ := backend.reached_map_put hsized
  have haddress : Set.InjOn Content.address {content | content ∈ contents} :=
    fun content hcontent other hother h => hids hcontent hother (congrArg Address.object h)
  have hobjects := backend.objects_reached_map_put hsized haddress
  refine ⟨congrArg Prod.fst hreached, hobjects, ?_, fun others hmem => ?_, fun content hmem => ?_⟩
  · rw [hreached, backend.size_ofArchive, (Archive.kept_perm_dedup haddress).length_eq,
      List.card_toFinset]
  · -- other puts of the same contents meet the same conditions
    have hothers : ∀ content ∈ others, AttributeColumn.SizedColumn content.attributes :=
      fun content hother => hsized content ((hmem content).1 hother)
    have haddress' : Set.InjOn Content.address {content | content ∈ others} :=
      haddress.mono fun content hother => (hmem content).1 hother
    have hdedup : others.dedup.Perm contents.dedup :=
      (List.perm_ext_iff_of_nodup others.nodup_dedup contents.nodup_dedup).2 fun content => by
        rw [List.mem_dedup, List.mem_dedup, hmem]
    refine ⟨congrArg Prod.fst (backend.reached_map_put hothers), ?_, fun call => ?_⟩
    · exact (backend.objects_reached_map_put hothers haddress').trans
        ((hdedup.map Content.object).trans hobjects.symm)
    · rw [backend.run_perform_reached_map_put hothers, backend.run_perform_reached_map_put hsized]
      exact Archive.answer_congr (Archive.find?_insertAll_congr haddress haddress' hmem) call
  · obtain ⟨found, hfind⟩ := Archive.exists_find?_insertAll .empty hmem
    rw [backend.run_perform_reached_map_put hsized, Archive.after,
      Archive.insertNew_of_eq_some hfind, hreached]
    rfl

/-- Two contents in tables, of which the first comes again in between, or last, or not at all. -/
theorem puts_converge_repeated :
    let first : Content :=
      ⟨⟨Block.replicate 32 7⟩, ⟨Block.replicate 32 8⟩, [⟨"FileName", "é"⟩], [3]⟩
    let second : Content := { first with payload := [4] }
    let contents := [first, first, second, first]
    (∀ content ∈ contents, AttributeColumn.SizedColumn content.attributes)
      ∧ Set.InjOn Content.objectId {content | content ∈ contents}
      ∧ database.size (database.reached (contents.map .put)).2 = 2
      ∧ (database.objects (database.reached ([second, first].map .put)).2).Perm
        (database.objects (database.reached (contents.map .put)).2) := by
  intro first second contents
  have hcolumn : AttributeColumn.SizedColumn first.attributes :=
    AttributeColumn.sizedColumn_singleton (by decide) (by decide)
  have hmem (content : Content) : content ∈ contents ↔ content = first ∨ content = second := by
    simp [contents, or_comm]
  have hsized : ∀ content ∈ contents, AttributeColumn.SizedColumn content.attributes := by
    intro content hcontent
    obtain rfl | rfl := (hmem content).1 hcontent
    · exact hcolumn
    · exact hcolumn
  have hne : first.objectId ≠ second.objectId := by decide +kernel
  have hids : Set.InjOn Content.objectId {content | content ∈ contents} := by
    intro content hcontent other hother h
    obtain rfl | rfl := (hmem content).1 hcontent <;> obtain rfl | rfl := (hmem other).1 hother
    · rfl
    · exact absurd h hne
    · exact absurd h.symm hne
    · rfl
  obtain ⟨-, -, hsize, hothers, -⟩ := database.puts_converge hsized hids
  have hsame (content : Content) : content ∈ [second, first] ↔ content ∈ contents := by
    rw [hmem, List.mem_pair, or_comm]
  exact ⟨hsized, hids, hsize.trans (by decide), (hothers _ hsame).2.1⟩

end Backend

end Coffer
