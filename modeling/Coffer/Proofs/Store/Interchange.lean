import Coffer.Proofs.Outcome
import Coffer.Proofs.Store.Archive

/-!
# Proofs/Store/Interchange — one store in place of the other

A caller of a store sees the answers to its calls and nothing else.  Each call on a store that
stands for an archive is answered as the archive answers it (`Backend.run_perform`), so any sequence
of calls is answered alike by an object map and by a database, however often the tables are opened
again in between (`Database.answers_eq_objectMap_answers`).
-/

namespace Coffer

/-! ## Calls and their answers -/

/-- **A call** on a store, with what the caller hands over. -/
inductive StoreCall
  /-- Put a content. -/
  | put (content : Content)
  /-- Get the payload of the object at an address into a buffer. -/
  | get (address : Address) (buffer : Buffer)
  /-- Get the header of the object at an address. -/
  | head (address : Address)
deriving DecidableEq

/-- **What the caller sees** of a call. -/
inductive StoreAnswer
  /-- The identifier of the content that was put. -/
  | stored (outcome : Except StoreError ObjectId)
  /-- Whether there was a payload, and the buffer that was handed over. -/
  | read (outcome : Except StoreError Unit) (buffer : Buffer)
  /-- The header. -/
  | header (outcome : Except StoreError Header)

/-- Performs a call on a store. -/
def StoreCall.perform {σ : Type} [ObjectStore σ] : StoreCall → StateM σ StoreAnswer
  | put content => return .stored (← ObjectStore.put content)
  | get address buffer => do
    let (outcome, buffer) ← ObjectStore.getInto address buffer
    return .read outcome buffer
  | head address => return .header (← ObjectStore.head address)

/-- **A call is sized** when the attributes that it puts fit into a column. -/
def StoreCall.Sized : StoreCall → Prop
  | put content => AttributeColumn.SizedColumn content.attributes
  | get _ _ => True
  | head _ => True

/-! ## The answers of an archive -/

namespace Archive

/-- What is answered where a content is kept or not. -/
def answer (archive : Archive) : StoreCall → StoreAnswer
  | .put content => .stored (.ok content.objectId)
  | .get address buffer =>
    match archive.find? address with
    | some content => .read (.ok ()) (buffer.append content.payload)
    | none => .read (.error (.notFound address)) buffer
  | .head address =>
    match archive.find? address with
    | some content => .header (.ok content.header)
    | none => .header (.error (.notFound address))

/-- What is kept after a call. -/
def after (archive : Archive) : StoreCall → Archive
  | .put content => archive.insertNew content
  | .get _ _ => archive
  | .head _ => archive

/-- Performs a call on an archive. -/
def perform (call : StoreCall) : StateM Archive StoreAnswer := fun archive =>
  (archive.answer call, archive.after call)

/-- **An archive is sized** when the attributes of all that it keeps fit into a column. -/
def Sized (archive : Archive) : Prop :=
  ∀ content ∈ archive.kept, AttributeColumn.SizedColumn content.attributes

variable {archive : Archive}

theorem sized_empty : empty.Sized := fun _ hmem => absurd hmem List.not_mem_nil

/-- Sized calls leave an archive sized. -/
theorem Sized.after (h : archive.Sized) {call : StoreCall} (hcall : call.Sized) :
    (archive.after call).Sized := by
  cases call with
  | put content =>
    intro found hmem
    rcases mem_insertNew hmem with rfl | hmem
    · exact hcall
    · exact h found hmem
  | get address buffer => exact h
  | head address => exact h

end Archive

/-! ## Calls on a backend -/

namespace Backend

variable (backend : Backend) {archive : Archive}

/-- **A call on a store is answered as by the archive** that the store stands for, and the store
stands for what the archive keeps then. -/
theorem run_perform (h : archive.Sized) (call : StoreCall) :
    call.perform.run (backend.ofArchive archive)
      = (archive.answer call, backend.ofArchive (archive.after call)) := by
  cases call with
  | put content =>
    rw [StoreCall.perform, StateM.run_bind, backend.run_put]
    rfl
  | get address buffer =>
    simp only [StoreCall.perform, ObjectStore.getInto, StateM.run_bind, backend.run_get,
      Archive.answer, Archive.after]
    cases archive.find? address <;> rfl
  | head address =>
    rw [StoreCall.perform, StateM.run_bind, Archive.answer, Archive.after]
    cases hfind : archive.find? address with
    | none =>
      rw [backend.run_head_of_eq_none archive hfind]
      rfl
    | some content =>
      rw [backend.run_head archive hfind (h content (Archive.mem_of_find?_eq_some hfind))]
      rfl

/-- **A sequence of calls** is answered as by the archive. -/
theorem run_mapM_perform (h : archive.Sized) {calls : List StoreCall}
    (hcalls : ∀ call ∈ calls, call.Sized) :
    (calls.mapM StoreCall.perform).run (backend.ofArchive archive)
      = (((calls.mapM Archive.perform).run archive).1,
        backend.ofArchive ((calls.mapM Archive.perform).run archive).2) := by
  induction calls generalizing archive with
  | nil => rfl
  | cons call calls ih =>
    rw [List.forall_mem_cons] at hcalls
    have hrest := ih (h.after hcalls.1) hcalls.2
    rw [StateM.run_mapM_cons, backend.run_perform h, hrest, StateM.run_mapM_cons]
    rfl

end Backend

/-! ## Tables that are opened again -/

/-- What can happen to a database: it is called, or opened again. -/
inductive DatabaseStep
  /-- A call is performed. -/
  | perform (call : StoreCall)
  /-- The tables are opened again. -/
  | reopen
deriving DecidableEq

/-- The call of a step, if it is one. -/
def DatabaseStep.call? : DatabaseStep → Option StoreCall
  | perform call => some call
  | reopen => none

namespace Database

/-- Brings the tables to the current version, as is done whenever they are opened. -/
def reopen : StateM Database (Except StoreError Unit) := migrate

/-- **The answers to the calls** among some steps, unless the tables cannot be opened again. -/
def answers : List DatabaseStep → StateM Database (Except StoreError (List StoreAnswer))
  | [] => return .ok []
  | .perform call :: steps => do
    let answer ← call.perform
    return (← answers steps).map (answer :: ·)
  | .reopen :: steps => do
    match ← reopen with
    | .ok () => answers steps
    | .error cause => return .error cause

/-- **Opening the tables again** can be left out. -/
theorem run_answers {archive : Archive} (h : archive.Sized) {steps : List DatabaseStep}
    (hsteps : ∀ call ∈ steps.filterMap DatabaseStep.call?, call.Sized) :
    ((answers steps).run (ofArchive archive)).1
      = .ok (((steps.filterMap DatabaseStep.call?).mapM Archive.perform).run archive).1 := by
  induction steps generalizing archive with
  | nil => rfl
  | cons step steps ih =>
    cases step with
    | perform call =>
      have hcalls : ∀ other ∈ call :: steps.filterMap DatabaseStep.call?, other.Sized := hsteps
      rw [List.forall_mem_cons] at hcalls
      have hcall : call.perform.run (ofArchive archive)
          = (archive.answer call, ofArchive (archive.after call)) :=
        Backend.database.run_perform h call
      have hrest := congrArg (Except.map (archive.answer call :: ·))
        (ih (h.after hcalls.1) hcalls.2)
      have hkept := StateM.run_mapM_cons Archive.perform call
        (steps.filterMap DatabaseStep.call?) archive
      rw [answers, StateM.run_bind, hcall]
      exact hrest.trans (congrArg (Except.ok ∘ Prod.fst) hkept.symm)
    | reopen => exact ih h hsteps

/-- **The two stores are interchangeable.**  Whatever is called, a database that has just been
opened and is opened again any number of times answers as an empty object map does; and both answer
as an archive, which keeps the first content put at an address, appends its payload to the buffer
that is handed over, and leaves the buffer alone where nothing is kept. -/
theorem answers_eq_objectMap_answers (steps : List DatabaseStep)
    (hsized : ∀ content, DatabaseStep.perform (.put content) ∈ steps →
      AttributeColumn.SizedColumn content.attributes) :
    let calls := steps.filterMap DatabaseStep.call?
    let opened := reopen.run blank
    let objects := (calls.mapM StoreCall.perform).run ObjectMap.empty
    opened.1 = .ok ()
      ∧ ((answers steps).run opened.2).1 = .ok objects.1
      ∧ objects.1 = ((calls.mapM Archive.perform).run .empty).1 := by
  intro calls opened objects
  have hcalls : ∀ call ∈ calls, call.Sized := by
    intro call hmem
    obtain ⟨step, hstep, hcall⟩ := List.mem_filterMap.1 hmem
    cases step with
    | reopen => cases hcall
    | perform other =>
      obtain rfl : other = call := Option.some.inj hcall
      cases other with
      | put content => exact hsized content hstep
      | get address buffer => trivial
      | head address => trivial
  have hobjects : objects.1 = ((calls.mapM Archive.perform).run .empty).1 :=
    congrArg Prod.fst (Backend.objectMap.run_mapM_perform Archive.sized_empty hcalls)
  refine ⟨rfl, ?_, hobjects⟩
  rw [hobjects]
  exact run_answers Archive.sized_empty hcalls

/-- A content put twice around an opening, read behind what a buffer held, missed in another
container, and asked for its header. -/
theorem answers_around_reopening :
    let content : Content :=
      ⟨⟨Block.replicate 32 7⟩, ⟨Block.replicate 32 8⟩, [⟨"FileName", "é"⟩, ⟨"", ""⟩], [3]⟩
    let elsewhere : Address := ⟨⟨Block.replicate 32 1⟩, content.objectId⟩
    let steps : List DatabaseStep :=
      [.reopen, .perform (.put content), .reopen, .perform (.put content),
        .perform (.get content.address ⟨0, [1, 2], 2⟩), .perform (.get elsewhere ⟨0, [1], 2⟩),
        .perform (.head content.address), .perform (.head elsewhere)]
    let calls := steps.filterMap DatabaseStep.call?
    (∀ content, DatabaseStep.perform (.put content) ∈ steps →
      AttributeColumn.SizedColumn content.attributes)
    ∧ ((answers steps).run (reopen.run blank).2).1
      = .ok ((calls.mapM StoreCall.perform).run ObjectMap.empty).1 := by
  intro content elsewhere steps calls
  have hsized : ∀ content, DatabaseStep.perform (.put content) ∈ steps →
      AttributeColumn.SizedColumn content.attributes := by
    intro other hmem
    obtain rfl : other = content := by simpa [steps] using hmem
    refine ⟨by decide, fun entry hentry => ?_⟩
    rcases List.mem_pair.1 hentry with rfl | rfl
    · exact ⟨AttributeColumn.sized_of_length_lt (by decide),
        AttributeColumn.sized_of_length_lt (by decide)⟩
    · exact ⟨AttributeColumn.sized_of_length_lt (by decide),
        AttributeColumn.sized_of_length_lt (by decide)⟩
  exact ⟨hsized, (answers_eq_objectMap_answers steps hsized).2.1⟩

end Database

end Coffer
