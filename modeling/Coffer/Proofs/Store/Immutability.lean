import Coffer.Proofs.Store.Interchange

/-!
# Proofs/Store/Immutability — what is stored stays under its own name

Every entry of a backend lies where its own content belongs (`Backend.Certified`).  No call changes
an entry, and only putting adds one, at the address that it gives back (`Backend.Effect`); so
whatever is called, the first content stored at an address is what is read there ever after
(`Backend.self_certifying`).  Different contents may well have one identifier: then the first one
stays.
-/

namespace Coffer

/-- **What was stored**: each content that was put, behind the address that was given back. -/
def storedContents (history : List (StoreCall × StoreAnswer)) : List (Address × Content) :=
  history.filterMap fun
    | (.put content, .stored (.ok id)) => some (⟨content.container, id⟩, content)
    | _ => none

/-! ## Archives -/

namespace Archive

/-- **An archive is distinct** when no two contents have one address. -/
def Distinct (archive : Archive) : Prop := (archive.kept.map Content.address).Nodup

variable {archive : Archive}

theorem Distinct.insertNew (h : archive.Distinct) (content : Content) :
    (archive.insertNew content).Distinct := by
  cases hfind : archive.find? content.address with
  | some found => rwa [insertNew_of_eq_some hfind]
  | none =>
    rw [insertNew_of_eq_none hfind]
    exact List.nodup_cons.2 ⟨find?_eq_none_iff.1 hfind, h⟩

theorem Distinct.after (h : archive.Distinct) (call : StoreCall) :
    (archive.after call).Distinct := by
  cases call with
  | put content => exact h.insertNew content
  | get address buffer => exact h
  | head address => exact h

/-- **What every call keeps**, any sequence of calls keeps. -/
theorem run_induction {P : Archive → Prop} (h : P archive) {calls : List StoreCall}
    (hstep : ∀ archive, P archive → ∀ call ∈ calls, P (archive.after call)) :
    P ((calls.mapM perform).run archive).2 := by
  induction calls generalizing archive with
  | nil => exact h
  | cons call calls ih =>
    rw [StateM.run_mapM_cons]
    exact ih (hstep archive h call List.mem_cons_self) fun archive h call hmem =>
      hstep archive h call (List.mem_cons_of_mem _ hmem)

/-- **The first content stored at an address** is found there, unless there was one before. -/
theorem find?_run (archive : Archive) (calls : List StoreCall) (address : Address) :
    ((calls.mapM perform).run archive).2.find? address
      = (archive.find? address).or
        ((storedContents (calls.zip ((calls.mapM perform).run archive).1)).lookup address) := by
  -- what the first call puts is found before what the others put
  induction calls generalizing archive with
  | nil => exact (Option.or_none).symm
  | cons call calls ih =>
    rw [StateM.run_mapM_cons, List.zip_cons_cons, ih]
    cases call with
    | put content =>
      change ((archive.insertNew content).find? address).or _
        = (archive.find? address).or (List.lookup address ((content.address, content) :: _))
      rw [find?_insertNew, Option.or_assoc, List.lookup_cons]
      congr 1
      split
      · rename_i h
        rw [h, beq_self_eq_true]
        rfl
      · rename_i h
        rw [beq_eq_false_iff_ne.2 (Ne.symm h)]
        rfl
    | get address buffer => rfl
    | head address => rfl

end Archive

/-! ## Entries -/

namespace Backend

/-- What lies in a backend: objects with their addresses, or rows. -/
abbrev Entry : Backend → Type
  | objectMap => Address × KeptObject
  | database => Row

/-- The entries of a backend, the latest first. -/
def entries : (backend : Backend) → backend.State → List backend.Entry
  | objectMap => ObjectMap.entries
  | database => fun database => database.objects.getD []

/-- Where an entry lies. -/
def addressOf : (backend : Backend) → backend.Entry → Address
  | objectMap => Prod.fst
  | database => Row.address

/-- The header of an entry. -/
def headerOf : (backend : Backend) → backend.Entry → Except StoreError Header
  | objectMap => fun entry => .ok entry.2.header
  | database => Database.headerOf

/-- The payload of an entry. -/
def payloadOf : (backend : Backend) → backend.Entry → Bytes
  | objectMap => fun entry => entry.2.payload
  | database => Row.payload

/-- The entry for a content. -/
def entryOf : (backend : Backend) → Content → backend.Entry
  | objectMap => fun content => (content.address, ⟨content.header, content.payload⟩)
  | database => Database.rowOf

variable (backend : Backend)

/-- Performs a call on a backend. -/
def perform (call : StoreCall) : StateM backend.State StoreAnswer := call.perform

/-- **What calls lead to** from an empty backend: their answers, and the state after them. -/
def reached (calls : List StoreCall) : List StoreAnswer × backend.State :=
  (calls.mapM backend.perform).run backend.empty

/-- The addresses of a backend's entries. -/
def addresses (state : backend.State) : List Address :=
  (backend.entries state).map backend.addressOf

/-- **An entry is certified** when it has a header, which tells how long the payload is, and lies
under the identifier of the content that its own data make up. -/
def Certified (entry : backend.Entry) : Prop :=
  ∃ header, backend.headerOf entry = .ok header
    ∧ header.payloadLength = (backend.payloadOf entry).length
    ∧ (backend.addressOf entry).object
      = Content.objectId ⟨(backend.addressOf entry).container, header.owner, header.attributes,
          backend.payloadOf entry⟩

/-- **What a call can do**: it adds the one entry at the address that is given back for a content,
if there was none; otherwise it changes nothing. -/
inductive Effect (state : backend.State) : StoreCall → StoreAnswer → backend.State → Prop
  /-- A content is put where nothing lies. -/
  | added {content : Content} {id : ObjectId} {entry : backend.Entry} {next : backend.State}
      (hfree : ⟨content.container, id⟩ ∉ backend.addresses state)
      (haddress : backend.addressOf entry = ⟨content.container, id⟩)
      (hentries : backend.entries next = entry :: backend.entries state) :
      Effect state (.put content) (.stored (.ok id)) next
  /-- A content is put where something lies. -/
  | taken {content : Content} {id : ObjectId}
      (htaken : ⟨content.container, id⟩ ∈ backend.addresses state) :
      Effect state (.put content) (.stored (.ok id)) state
  /-- A payload is read. -/
  | got {address : Address} {buffer filled : Buffer} {outcome : Except StoreError Unit} :
      Effect state (.get address buffer) (.read outcome filled) state
  /-- A header is read. -/
  | told {address : Address} {outcome : Except StoreError Header} :
      Effect state (.head address) (.header outcome) state

variable {backend}

/-- **Every entry stays** as it is. -/
theorem Effect.subset {state next : backend.State} {call : StoreCall} {answer : StoreAnswer}
    (h : backend.Effect state call answer next) : backend.entries state ⊆ backend.entries next := by
  cases h with
  | added hfree haddress hentries =>
    rw [hentries]
    exact List.subset_cons_self _ _
  | taken htaken => exact List.Subset.refl _
  | got => exact List.Subset.refl _
  | told => exact List.Subset.refl _

variable (backend) (archive : Archive)

theorem entries_ofArchive :
    backend.entries (backend.ofArchive archive) = archive.kept.map backend.entryOf := by
  cases backend <;> rfl

@[simp] theorem addressOf_entryOf (content : Content) :
    backend.addressOf (backend.entryOf content) = content.address := by
  cases backend <;> rfl

theorem addresses_ofArchive :
    backend.addresses (backend.ofArchive archive) = archive.kept.map Content.address := by
  rw [addresses, entries_ofArchive, List.map_map]
  exact List.map_congr_left fun content _ => backend.addressOf_entryOf content

/-- The entry for a content is certified. -/
theorem certified_entryOf {content : Content}
    (h : AttributeColumn.SizedColumn content.attributes) :
    backend.Certified (backend.entryOf content) := by
  cases backend with
  | objectMap => exact ⟨content.header, rfl, rfl, rfl⟩
  | database => exact ⟨content.header, Database.headerOf_rowOf h, rfl, rfl⟩

/-- **A call adds an entry** where the archive keeps a new content, and nothing else. -/
theorem effect_ofArchive (call : StoreCall) :
    backend.Effect (backend.ofArchive archive) call (archive.answer call)
      (backend.ofArchive (archive.after call)) := by
  cases call with
  | put content =>
    rw [Archive.after]
    cases hfind : archive.find? content.address with
    | some found =>
      rw [Archive.insertNew_of_eq_some hfind]
      refine .taken ?_
      rw [addresses_ofArchive]
      exact List.mem_map.2 ⟨found, Archive.mem_of_find?_eq_some hfind,
        Archive.address_of_find?_eq_some hfind⟩
    | none =>
      rw [Archive.insertNew_of_eq_none hfind]
      refine .added ?_ (backend.addressOf_entryOf content) ?_
      · rw [addresses_ofArchive]
        exact Archive.find?_eq_none_iff.1 hfind
      · rw [entries_ofArchive, entries_ofArchive]
        rfl
  | get address buffer =>
    rw [Archive.answer]
    split
    · exact .got
    · exact .got
  | head address =>
    rw [Archive.answer]
    split
    · exact .told
    · exact .told

/-- **Any sequence of calls** leaves the backend standing for an archive, in which the first content
stored at an address is found. -/
theorem exists_archive {calls : List StoreCall} (hcalls : ∀ call ∈ calls, call.Sized) :
    ∃ archive : Archive, (backend.reached calls).2 = backend.ofArchive archive
      ∧ archive.Sized ∧ archive.Distinct ∧ ∀ address, archive.find? address
        = (storedContents (calls.zip (backend.reached calls).1)).lookup address := by
  have hreached : backend.reached calls
      = (((calls.mapM Archive.perform).run .empty).1,
        backend.ofArchive ((calls.mapM Archive.perform).run .empty).2) := by
    rw [reached, empty_eq]
    exact backend.run_mapM_perform Archive.sized_empty hcalls
  rw [hreached]
  refine ⟨((calls.mapM Archive.perform).run .empty).2, rfl, ?_, ?_, Archive.find?_run .empty calls⟩
  · exact Archive.run_induction Archive.sized_empty fun _ h call hmem => h.after (hcalls call hmem)
  · exact Archive.run_induction List.nodup_nil fun _ h call _ => h.after call

/-- **A backend certifies itself and never changes what it keeps.**  After any sequence of calls,
each entry is certified and the only one at its address; one more call leaves all entries as they
are and adds at most the one that `Effect` allows; and what is read at an address is the payload of
the first content that was stored there. -/
theorem self_certifying {calls : List StoreCall} (hcalls : ∀ call ∈ calls, call.Sized) :
    let reached := backend.reached calls
    (∀ entry ∈ backend.entries reached.2, backend.Certified entry)
      ∧ (backend.addresses reached.2).Nodup
      ∧ (∀ call : StoreCall, let after := (backend.perform call).run reached.2
        backend.entries reached.2 ⊆ backend.entries after.2
          ∧ backend.Effect reached.2 call after.1 after.2)
      ∧ ∀ address buffer, (backend.perform (.get address buffer)).run reached.2
        = (match (storedContents (calls.zip reached.1)).lookup address with
          | some content => .read (.ok ()) (buffer.append content.payload)
          | none => .read (.error (.notFound address)) buffer, reached.2) := by
  intro reached
  obtain ⟨archive, hstate, hsized, hdistinct, hfind⟩ := backend.exists_archive hcalls
  change reached.2 = _ at hstate
  have hperform (call : StoreCall) : (backend.perform call).run (backend.ofArchive archive)
      = (archive.answer call, backend.ofArchive (archive.after call)) :=
    backend.run_perform hsized call
  rw [hstate]
  refine ⟨fun entry hmem => ?_, ?_, fun call => ?_, fun address buffer => ?_⟩
  · rw [entries_ofArchive] at hmem
    obtain ⟨content, hcontent, rfl⟩ := List.mem_map.1 hmem
    exact backend.certified_entryOf (hsized content hcontent)
  · rwa [addresses_ofArchive]
  · rw [hperform]
    have heffect := backend.effect_ofArchive archive call
    exact ⟨heffect.subset, heffect⟩
  · rw [hperform, ← hfind]
    rfl

/-- A content put into tables twice, and read behind what a buffer held. -/
theorem self_certifying_repeated_put :
    let content : Content :=
      ⟨⟨Block.replicate 32 7⟩, ⟨Block.replicate 32 8⟩, [⟨"FileName", "é"⟩], [3]⟩
    let calls : List StoreCall := [.put content, .head content.address, .put content]
    let reached := database.reached calls
    (∀ call ∈ calls, call.Sized)
      ∧ (database.addresses reached.2).Nodup
      ∧ (database.perform (.get content.address ⟨0, [1, 2], 2⟩)).run reached.2
        = (.read (.ok ()) (Buffer.append ⟨0, [1, 2], 2⟩ [3]), reached.2) := by
  intro content calls reached
  have hcolumn : AttributeColumn.SizedColumn content.attributes :=
    AttributeColumn.sizedColumn_singleton (by decide) (by decide)
  have hcalls : ∀ call ∈ calls, call.Sized :=
    List.forall_mem_cons.2 ⟨hcolumn, List.forall_mem_cons.2
      ⟨trivial, List.forall_mem_singleton.2 hcolumn⟩⟩
  have hfirst : (storedContents (calls.zip (database.reached calls).1)).lookup content.address
      = some content := List.lookup_cons_self
  obtain ⟨-, hnodup, -, hget⟩ := database.self_certifying hcalls
  refine ⟨hcalls, hnodup, ?_⟩
  rw [hget, hfirst]

end Backend

end Coffer
