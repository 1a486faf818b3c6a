import Coffer.Proofs.Outcome
import Coffer.Proofs.Pool.Soundness
import Coffer.Proofs.Store.Archive
import Coffer.Service.Basic

/-!
# Proofs/Service/Run — what any run of a service keeps

A **run** is any sequence of actions on a service, its store or its pool, whether they succeed or
fail, with the backend opened again in between.  Before and after each action the store stands for
an archive and the pool is sound; the action adds to the archive the content that it stores, if it
stores one (`Keeps.step`, `Keeps.run`).
-/

namespace Coffer

/-! ## Actions -/

/-- **What can be done** to a service, to its store and to its pool. -/
inductive ServiceAction
  /-- Put a box. -/
  | put (container : ContainerId) (issuer : OwnerId) (box : AccessBox)
      (recipients : List PublicKey) (now : Int)
  /-- Fetch a box. -/
  | fetch (address : Address)
  /-- Fetch a box and unpack it. -/
  | fetchUnpacked (address : Address) (key : PrivateKey)
  /-- Fetch a box and open a gate of it. -/
  | fetchGate (address : Address) (key : PrivateKey)
  /-- Close the pool. -/
  | closePool
  /-- Put a content directly into the store. -/
  | putContent (content : Content)
  /-- Get a payload directly from the store. -/
  | getPayload (address : Address)
  /-- Get a header directly from the store. -/
  | getHeader (address : Address)
  /-- Do something to the pool or to a buffer that is out. -/
  | lend (action : PoolAction)
  /-- Open the backend again, with a new service. -/
  | reopen

/-- The content that an action stores, if it stores one: a put that is refused does not. -/
def ServiceAction.content? : ServiceAction → Option Content
  | put container issuer box recipients now =>
    match CredentialService.putFault? box recipients with
    | some _ => none
    | none => some (CredentialService.boxContent container issuer box now)
  | putContent content => some content
  | _ => none

namespace CredentialService

variable {backend : Backend}

/-- Opens the backend again; the service begins again unless that fails. -/
def reopen : StateM (CredentialService backend.State) Unit := fun service =>
  match backend.reopen service.store with
  | (.ok (), store) => ((), service.renewed store)
  | (.error _, store) => ((), { service with store := store })

/-- Performs an action, whatever comes of it. -/
def perform : ServiceAction → StateM (CredentialService backend.State) Unit
  | .put container issuer box recipients now => discard (put container issuer box recipients now)
  | .fetch address => discard (fetch address)
  | .fetchUnpacked address key => discard (fetchUnpacked address key)
  | .fetchGate address key => discard (fetchGate address key)
  | .closePool => discard closePool
  | .putContent content => discard (onStore (ObjectStore.put content))
  | .getPayload address => discard (onStore (ObjectStore.get address))
  | .getHeader address => discard (onStore (ObjectStore.head address))
  | .lend action => discard (onLending (·.step action))
  | .reopen => reopen

/-- **One step**: the service after an action. -/
def step (service : CredentialService backend.State) (action : ServiceAction) :
    CredentialService backend.State :=
  ((perform action).run service).2

/-- **A run**: the service after a sequence of actions. -/
def run (service : CredentialService backend.State) (actions : List ServiceAction) :
    CredentialService backend.State :=
  actions.foldl step service

/-! ## What a service keeps -/

/-- **A service keeps an archive** when its store stands for it and its pool is sound; new buffers
have room for `bufferSize` bytes. -/
structure Keeps (service : CredentialService backend.State) (archive : Archive)
    (bufferSize : Nat) : Prop where
  /-- The store stands for the archive. -/
  store : service.store = backend.ofArchive archive
  /-- The pool is sound. -/
  lending : service.lending.Sound
  /-- New buffers have that room. -/
  bufferSize_eq : service.lending.pool.bufferSize = bufferSize

/-- A new service has a new pool as its settings ask for. -/
theorem eq_of_create {σ : Type} {store : σ} {settings : Settings} {service : CredentialService σ}
    (h : create store settings = .ok service) :
    service = ⟨store, .fresh (.fresh settings.poolCapacity settings.bufferSize
      settings.maxRetained), settings⟩ := by
  simp only [create, Settings.pool, BufferPool.create] at h
  split at h
  · cases h
  · exact (Except.ok.inj h).symm

/-- A new service keeps nothing. -/
theorem keeps_of_create {settings : Settings} {service : CredentialService backend.State}
    (h : create backend.empty settings = .ok service) :
    service.Keeps .empty settings.bufferSize := by
  rw [eq_of_create h]
  exact ⟨backend.empty_eq, Lending.Sound.fresh _ _ _, rfl⟩

/-! ## Calls on the store and on the pool -/

section

variable {σ : Type} {service : CredentialService σ}

theorem run_onStore {α : Type} (call : StateM σ α) :
    (onStore call).run service
      = ((call.run service.store).1, { service with store := (call.run service.store).2 }) := rfl

theorem run_onPool {α : Type} (change : BufferPool → α × BufferPool) :
    (onPool change).run service = ((change service.lending.pool).1,
      { service with lending :=
        { service.lending with pool := (change service.lending.pool).2 } }) := rfl

variable [ObjectStore σ]

theorem run_put_of_fault (container : ContainerId) (issuer : OwnerId) {box : AccessBox}
    {recipients : List PublicKey} (now : Int) {fault : ServiceError}
    (h : putFault? box recipients = some fault) :
    (put container issuer box recipients now).run service = (.error fault, service) := by
  rw [put, h]
  rfl

/-- **A put that is not refused** is one call on the store, with what it answers. -/
theorem run_put_of_putFault?_eq_none (container : ContainerId) (issuer : OwnerId) {box : AccessBox}
    {recipients : List PublicKey} (now : Int) (h : putFault? box recipients = none) :
    let stored := (ObjectStore.put (boxContent container issuer box now)).run service.store
    (put container issuer box recipients now).run service
      = ((stored.1.mapError .ofStoreError).map fun object => ⟨container, object⟩,
        { service with store := stored.2 }) := by
  rw [put, h, StateM.run_bind, run_onStore]
  dsimp only
  cases ((ObjectStore.put (boxContent container issuer box now)).run service.store).1 with
  | ok object => rfl
  | error cause => rfl

/-- Without room for a buffer nothing is fetched. -/
theorem run_fetch_of_acquire_eq_error {address : Address} {cause : RoomError}
    (h : service.lending.pool.acquire = (.error cause, service.lending.pool)) :
    (fetch address).run service = (.error (.room cause), service) := by
  rw [fetch, StateT.run_bind, run_onPool, h]
  rfl

/-- With a buffer, fetching reads what the store puts into it, and gives it back. -/
theorem run_fetch_of_acquire_eq_ok {address : Address} {buffer : Buffer}
    (h : service.lending.pool.acquire.1 = .ok buffer) :
    (fetch address).run service
      = let read := (ObjectStore.getInto address buffer).run service.store
        (readBox read.1.1 read.1.2,
          { service with
            store := read.2
            lending := { service.lending with
              pool := service.lending.pool.acquire.2.release read.1.2 } }) := by
  rw [fetch, StateT.run_bind, run_onPool, h]
  rfl

/-- What fetching answers when the store gives this answer. -/
def fetchedOf : Except StoreError Bytes → Except ServiceError AccessBox
  | .ok payload => (AccessBox.decode payload).mapError fun fault => .box (.malformed fault)
  | .error (.notFound missing) => .error (.notFound missing)
  | .error cause => .error (.store cause)

/-- A buffer after the store has given this answer. -/
def filledBy (buffer : Buffer) : Except StoreError Bytes → Buffer
  | .ok payload => buffer.append payload
  | .error _ => buffer

theorem run_getInto (address : Address) (buffer : Buffer) (store : σ) :
    (ObjectStore.getInto address buffer).run store
      = ((((ObjectStore.get address).run store).1.map fun _ => (),
          filledBy buffer ((ObjectStore.get address).run store).1),
        ((ObjectStore.get address).run store).2) := by
  rw [ObjectStore.getInto, StateM.run_bind]
  obtain ⟨answer, after⟩ := (ObjectStore.get address).run store
  cases answer <;> rfl

/-- **What is read from the buffer** is what the store has answered, if it was empty. -/
theorem readBox_filledBy {buffer : Buffer} (hempty : buffer.content = [])
    (answer : Except StoreError Bytes) :
    readBox (answer.map fun _ => ()) (filledBy buffer answer) = fetchedOf answer := by
  cases answer with
  | error cause => cases cause <;> rfl
  | ok payload =>
    change (AccessBox.decode (buffer.content ++ payload)).mapError _ = _
    rw [hempty, List.nil_append]
    rfl

/-- **A fetch with a buffer** answers what the store answers, and the buffer goes back. -/
theorem run_fetch_eq {address : Address} {buffer : Buffer}
    (h : service.lending.pool.acquire.1 = .ok buffer) (hempty : buffer.content = []) :
    let got := (ObjectStore.get address).run service.store
    (fetch address).run service = (fetchedOf got.1,
      { service with
        store := got.2
        lending := { service.lending with
          pool := service.lending.pool.acquire.2.release (filledBy buffer got.1) } }) := by
  intro got
  rw [run_fetch_of_acquire_eq_ok h, run_getInto]
  exact congrArg (Prod.mk · _) (readBox_filledBy hempty got.1)

theorem run_fetchUnpacked (address : Address) (key : PrivateKey) :
    (fetchUnpacked address key).run service
      = (match ((fetch address).run service).1 with
        | .ok box => (box.unpack key).mapError .box
        | .error cause => .error cause, ((fetch address).run service).2) := by
  rw [fetchUnpacked, StateT.run_bind]
  cases (fetch address).run service with
  | mk answer after => cases answer <;> rfl

theorem run_fetchGate (address : Address) (key : PrivateKey) :
    (fetchGate address key).run service
      = (((fetchUnpacked address key).run service).1.map Unpacked.gate,
        ((fetch address).run service).2) := by
  have hafter : ((fetchUnpacked address key).run service).2 = ((fetch address).run service).2 :=
    congrArg Prod.snd (run_fetchUnpacked address key)
  rw [← hafter]
  rfl

end

variable {service : CredentialService backend.State} {archive : Archive} {bufferSize : Nat}

/-! ## Putting -/

variable (container : ContainerId) (issuer : OwnerId) {box : AccessBox}
  {recipients : List PublicKey} (now : Int)

/-- **A put that is not refused** gives the address of the content and keeps it there. -/
theorem Keeps.run_put (h : service.Keeps archive bufferSize)
    (hfault : putFault? box recipients = none) :
    (put container issuer box recipients now).run service
      = (.ok (boxContent container issuer box now).address,
        { service with
          store := backend.ofArchive (archive.insertNew (boxContent container issuer box now)) })
    := by
  have hput := backend.run_put archive (boxContent container issuer box now)
  rw [← h.store] at hput
  rw [run_put_of_putFault?_eq_none container issuer now hfault, hput]
  rfl

/-! ## Fetching -/

/-- What fetching answers from an archive, when a new buffer has room for `bufferSize` bytes. -/
def fetched (archive : Archive) (bufferSize : Nat) (address : Address) :
    Except ServiceError AccessBox :=
  if roomLimit < bufferSize then .error (.room .tooLarge)
  else match archive.find? address with
    | some content =>
      (AccessBox.decode content.payload).mapError fun fault => .box (.malformed fault)
    | none => .error (.notFound address)

/-- **Fetching** reads what is kept, and leaves the pool sound. -/
theorem Keeps.run_fetch (h : service.Keeps archive bufferSize) (address : Address) :
    ((fetch address).run service).1 = fetched archive bufferSize address
      ∧ ((fetch address).run service).2.Keeps archive bufferSize := by
  rw [fetched, ← h.bufferSize_eq]
  by_cases hroom : roomLimit < service.lending.pool.bufferSize
  · rw [run_fetch_of_acquire_eq_error (h.lending.acquire_of_lt hroom), if_pos hroom]
    exact ⟨rfl, h.store, h.lending, rfl⟩
  · obtain ⟨buffer, hbuffer, hempty⟩ := h.lending.acquire_of_le (Nat.not_lt.1 hroom)
    have hgot := backend.run_get archive address
    rw [← h.store] at hgot
    rw [run_fetch_eq hbuffer hempty, if_neg hroom]
    refine ⟨?_, (congrArg Prod.snd hgot).trans h.store,
      h.lending.acquire_release (Nat.not_lt.1 hroom) _, ?_⟩
    · rw [hgot]
      cases archive.find? address <;> rfl
    · rw [BufferPool.bufferSize_release, BufferPool.bufferSize_acquire]

/-! ## Steps and runs -/

/-- A change to the store alone. -/
theorem Keeps.of_store (h : service.Keeps archive bufferSize) {store : backend.State}
    {later : Archive} (hstore : store = backend.ofArchive later) :
    Keeps { service with store := store } later bufferSize :=
  ⟨hstore, h.lending, h.bufferSize_eq⟩

/-- A change to the lending alone. -/
theorem Keeps.of_lending (h : service.Keeps archive bufferSize) {lending : Lending}
    (hsound : lending.Sound) (hsize : lending.pool.bufferSize = service.lending.pool.bufferSize) :
    Keeps { service with lending := lending } archive bufferSize :=
  ⟨h.store, hsound, hsize.trans h.bufferSize_eq⟩

theorem Keeps.keeps_of_put (h : service.Keeps archive bufferSize)
    (hfault : putFault? box recipients = none) :
    ((put container issuer box recipients now).run service).2.Keeps
      (archive.insertNew (boxContent container issuer box now)) bufferSize := by
  rw [h.run_put container issuer now hfault]
  exact h.of_store rfl

/-- Opening the backend again changes nothing that is kept. -/
theorem Keeps.run_reopen (h : service.Keeps archive bufferSize) :
    (reopen.run service).2.Keeps archive bufferSize := by
  have hreopen := backend.reopen_ofArchive archive
  rw [← h.store] at hreopen
  have hrun : reopen service = ((), service.renewed service.store) := by
    rw [reopen, hreopen]
  change (reopen service).2.Keeps _ _
  rw [hrun]
  exact ⟨h.store, Lending.Sound.renewed _ _, h.bufferSize_eq⟩

/-- **One step** adds to the archive the content that the action stores, if it stores one. -/
theorem Keeps.step (h : service.Keeps archive bufferSize) (action : ServiceAction) :
    (step service action).Keeps (archive.insertAll action.content?.toList) bufferSize := by
  cases action with
  | put container issuer box recipients now =>
    change ((put container issuer box recipients now).run service).2.Keeps _ _
    rw [ServiceAction.content?]
    cases hfault : putFault? box recipients with
    | none => exact h.keeps_of_put container issuer now hfault
    | some fault =>
      rw [run_put_of_fault container issuer now hfault]
      exact h
  | fetch address => exact (h.run_fetch address).2
  | fetchUnpacked address key =>
    change ((fetchUnpacked address key).run service).2.Keeps _ _
    rw [run_fetchUnpacked]
    exact (h.run_fetch address).2
  | fetchGate address key =>
    change ((fetchGate address key).run service).2.Keeps _ _
    rw [run_fetchGate]
    exact (h.run_fetch address).2
  | closePool => exact h.of_lending (h.lending.step .drain) rfl
  | putContent content =>
    refine h.of_store ?_
    rw [h.store]
    exact congrArg Prod.snd (backend.run_put archive content)
  | getPayload address =>
    refine h.of_store ?_
    rw [h.store]
    exact congrArg Prod.snd (backend.run_get archive address)
  | getHeader address =>
    refine h.of_store ?_
    rw [h.store]
    exact backend.run_head_state archive address
  | lend action =>
    exact h.of_lending (h.lending.step action) (service.lending.bufferSize_step action)
  | reopen => exact h.run_reopen

/-- **A run** adds to the archive the contents that its actions store, in their order. -/
theorem Keeps.run (h : service.Keeps archive bufferSize) (actions : List ServiceAction) :
    (run service actions).Keeps (archive.insertAll (actions.filterMap ServiceAction.content?))
      bufferSize := by
  induction actions generalizing service archive with
  | nil => exact h
  | cons action actions ih =>
    have hrest := ih (h.step action)
    rw [← Archive.insertAll_append] at hrest
    rw [List.filterMap_cons]
    cases hcontent : action.content? with
    | none =>
      rw [hcontent] at hrest
      exact hrest
    | some content =>
      rw [hcontent] at hrest
      exact hrest

end CredentialService

end Coffer
