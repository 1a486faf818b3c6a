import Coffer.Proofs.Pool.Safety
import Coffer.Proofs.Service.Run

/-!
# Proofs/Service/Isolation — fetching does not depend on what the pool has been through

Whatever has been done to a service and to the buffers of its pool, a fetch answers what the store
answers and nothing else, and the buffer that it takes goes back on every way out
(`CredentialService.fetch_isolated`).
-/

namespace Coffer

/-! ## Taking a buffer and giving it back -/

namespace BufferPool

variable {pool : BufferPool}

/-- The room of the buffer that is taken next. -/
def nextRoom (pool : BufferPool) : Nat :=
  match pool.idle with
  | buffer :: _ => buffer.capacity
  | [] => pool.bufferSize

theorem capacity_of_acquire_eq_ok {buffer : Buffer} (h : pool.acquire.1 = .ok buffer) :
    buffer.capacity = pool.nextRoom := by
  rw [nextRoom]
  cases hidle : pool.idle with
  | cons first rest =>
    rw [acquire_of_idle_eq_cons hidle] at h
    obtain rfl := Except.ok.inj h
    rfl
  | nil =>
    rw [acquire_of_idle_eq_nil hidle, newBuffer] at h
    split at h
    · cases h
    · obtain rfl := Except.ok.inj h
      rfl

theorem idleCount_acquire (pool : BufferPool) :
    pool.acquire.2.idleCount = pool.idleCount - 1 := by
  rw [idleCount, idleCount]
  cases hidle : pool.idle with
  | cons first rest =>
    rw [acquire_of_idle_eq_cons hidle]
    rfl
  | nil =>
    rw [acquire_of_idle_eq_nil hidle, idle_newBuffer, hidle]
    rfl

theorem idleCount_release (pool : BufferPool) (buffer : Buffer) :
    (pool.release buffer).idleCount =
      if pool.closed = false ∧ buffer.capacity ≤ pool.maxRetained ∧ pool.idleCount < pool.capacity
      then pool.idleCount + 1 else pool.idleCount := by
  rw [release]
  simp only [keeps_iff]
  split <;> rfl

/-- **How many buffers are idle** after one has been taken and a buffer has been given back. -/
theorem Bounded.idleCount_acquire_release (h : pool.Bounded) (buffer : Buffer) :
    (pool.acquire.2.release buffer).idleCount =
      if pool.closed then 0
      else if pool.idleCount = 0 then
        if 1 ≤ pool.capacity ∧ buffer.capacity ≤ pool.maxRetained then 1 else 0
      else if buffer.capacity ≤ pool.maxRetained then pool.idleCount else pool.idleCount - 1 := by
  obtain ⟨hcapacity, -, hretained, hclosed⟩ := bare_eq_iff.1 pool.bare_acquire
  have hcount := h.idleCount_le
  rw [idleCount_release, idleCount_acquire, hclosed, hcapacity, hretained]
  cases hshut : pool.closed with
  | true =>
    have hnone : pool.idleCount = 0 := congrArg List.length (h.idle_of_closed hshut)
    simp [hnone]
  | false =>
    simp only [true_and, Bool.false_eq_true, ↓reduceIte]
    split <;> split <;> split <;> omega

end BufferPool

namespace CredentialService

variable {σ : Type} {service : CredentialService σ} {settings : Settings}

/-! ## Steady services -/

/-- **A service is steady** when its pool is bounded and sound, and as its settings ask for. -/
structure Steady (settings : Settings) (service : CredentialService σ) : Prop where
  /-- The pool is bounded. -/
  bounded : service.lending.pool.Bounded
  /-- The lending is sound. -/
  sound : service.lending.Sound
  /-- The limits of the pool are those in the settings. -/
  anew_eq : service.lending.pool.anew
    = .fresh settings.poolCapacity settings.bufferSize settings.maxRetained

theorem steady_of_create {store : σ} (h : create store settings = .ok service) :
    service.Steady settings := by
  rw [eq_of_create h]
  exact ⟨.fresh _ _ _, .fresh _ _ _, rfl⟩

/-- Whether a service is steady is in its lending. -/
theorem Steady.of_lending_eq {other : CredentialService σ} (h : service.Steady settings)
    (heq : other.lending = service.lending) : other.Steady settings :=
  ⟨heq ▸ h.bounded, heq ▸ h.sound, heq ▸ h.anew_eq⟩

variable [ObjectStore σ]

/-! ## The buffer that is used -/

/-- The room of an empty buffer after the store has given this answer. -/
def roomAfter (room : Nat) : Except StoreError Bytes → Nat
  | .ok payload => Buffer.grown room payload.length
  | .error _ => room

theorem capacity_filledBy {buffer : Buffer} (hempty : buffer.content = [])
    (answer : Except StoreError Bytes) :
    (filledBy buffer answer).capacity = roomAfter buffer.capacity answer := by
  cases answer with
  | error cause => rfl
  | ok payload =>
    change Buffer.grown buffer.capacity (buffer.content.length + payload.length) = _
    rw [hempty, List.length_nil, Nat.zero_add]
    rfl

/-! ## Histories -/

/-- **A service that can be reached** from a new one, by whatever is done to it, to its store, to
its pool, and to the buffers that others hold. -/
inductive Reached (settings : Settings) : CredentialService σ → Prop
  /-- A new service over any store. -/
  | created {store : σ} {service : CredentialService σ} (h : create store settings = .ok service) :
    Reached settings service
  /-- A box has been put, or not. -/
  | put {service : CredentialService σ} (h : Reached settings service) (container : ContainerId)
      (issuer : OwnerId) (box : AccessBox) (recipients : List PublicKey) (now : Int) :
    Reached settings ((put container issuer box recipients now).run service).2
  /-- A box has been fetched, or not. -/
  | fetched {service : CredentialService σ} (h : Reached settings service) (address : Address) :
    Reached settings ((fetch address).run service).2
  /-- A box has been fetched and unpacked, or not. -/
  | unpacked {service : CredentialService σ} (h : Reached settings service) (address : Address)
      (key : PrivateKey) : Reached settings ((fetchUnpacked address key).run service).2
  /-- A box has been fetched and a gate of it opened, or not. -/
  | opened {service : CredentialService σ} (h : Reached settings service) (address : Address)
      (key : PrivateKey) : Reached settings ((fetchGate address key).run service).2
  /-- The pool has been closed. -/
  | closed {service : CredentialService σ} (h : Reached settings service) :
    Reached settings (closePool.run service).2
  /-- Something has been done to the pool or to a buffer that is out. -/
  | lent {service : CredentialService σ} (h : Reached settings service) (action : PoolAction) :
    Reached settings ((onLending (·.step action)).run service).2
  /-- Something has been done to the store. -/
  | stored {service : CredentialService σ} (h : Reached settings service) (store : σ) :
    Reached settings { service with store := store }
  /-- The service has begun again. -/
  | renewed {service : CredentialService σ} (h : Reached settings service) (store : σ) :
    Reached settings (service.renewed store)

theorem run_put_lending (container : ContainerId) (issuer : OwnerId) (box : AccessBox)
    (recipients : List PublicKey) (now : Int) :
    ((put container issuer box recipients now).run service).2.lending = service.lending := by
  cases hfault : putFault? box recipients with
  | some fault => rw [run_put_of_fault container issuer now hfault]
  | none => rw [run_put_of_putFault?_eq_none container issuer now hfault]

/-- **A fetch keeps a service steady.** -/
theorem Steady.run_fetch (h : service.Steady settings) (address : Address) :
    ((fetch address).run service).2.Steady settings := by
  by_cases hroom : service.lending.pool.bufferSize ≤ roomLimit
  · obtain ⟨buffer, hbuffer, hempty⟩ := h.sound.acquire_of_le hroom
    rw [run_fetch_eq hbuffer hempty]
    refine ⟨h.bounded.acquire.release _, h.sound.acquire_release hroom _, ?_⟩
    rw [← h.anew_eq]
    exact BufferPool.anew_eq_of_bare_eq
      ((BufferPool.bare_release _ _).trans (BufferPool.bare_acquire _))
  · rw [run_fetch_of_acquire_eq_error (h.sound.acquire_of_lt (Nat.not_le.1 hroom))]
    exact h

/-- **Every service that can be reached is steady.** -/
theorem Reached.steady (h : Reached settings service) : service.Steady settings := by
  induction h with
  | created h => exact steady_of_create h
  | put h container issuer box recipients now ih =>
    exact ih.of_lending_eq (run_put_lending container issuer box recipients now)
  | fetched h address ih => exact ih.run_fetch address
  | unpacked h address key ih =>
    rw [run_fetchUnpacked]
    exact ih.run_fetch address
  | opened h address key ih =>
    rw [run_fetchGate]
    exact ih.run_fetch address
  | closed h ih => exact ⟨.drain _, ih.sound.step .drain, ih.anew_eq⟩
  | @lent service h action ih =>
    exact ⟨Lending.bounded_step ih.bounded action, ih.sound.step action,
      (service.lending.anew_step action).trans ih.anew_eq⟩
  | stored h store ih => exact ih.of_lending_eq rfl
  | renewed h store ih => exact ⟨.fresh _ _ _, .renewed _ _, ih.anew_eq⟩

/-! ## Isolation -/

/-- **A fetch is isolated from the history of the pool.**  When there is room for a buffer, it
answers what the store answers, and leaves the buffers that are out, and whether the pool is closed,
as they were.  One buffer has been taken and has come back: it is idle again unless it has grown too
large, and a new one is idle now if the pool may keep it.  Without room for a buffer nothing
happens.  Asking either backend for a payload changes nothing in it. -/
theorem fetch_isolated (h : Reached settings service) (address : Address) :
    let got := (ObjectStore.get address).run service.store
    let fetched := (fetch address).run service
    let before := service.lending.pool
    let after := fetched.2.lending.pool
    let room := roomAfter before.nextRoom got.1
    (settings.bufferSize ≤ roomLimit →
      fetched.1 = fetchedOf got.1 ∧ fetched.2.store = got.2
      ∧ fetched.2.lending.slots = service.lending.slots ∧ after.closed = before.closed
      ∧ after.idleCount =
        if before.closed then 0
        else if before.idleCount = 0 then
          if 1 ≤ settings.poolCapacity ∧ room ≤ settings.maxRetained then 1 else 0
        else if room ≤ settings.maxRetained then before.idleCount else before.idleCount - 1)
    ∧ (roomLimit < settings.bufferSize → fetched = (.error (.room .tooLarge), service))
    ∧ ∀ (backend : Backend) (state : backend.State),
      ((ObjectStore.get address).run state).2 = state := by
  intro got fetched before after room
  have hsteady := h.steady
  have hcapacity : before.capacity = settings.poolCapacity :=
    congrArg BufferPool.capacity hsteady.anew_eq
  have hsize : before.bufferSize = settings.bufferSize :=
    congrArg BufferPool.bufferSize hsteady.anew_eq
  have hretained : before.maxRetained = settings.maxRetained :=
    congrArg BufferPool.maxRetained hsteady.anew_eq
  rw [← hcapacity, ← hsize, ← hretained]
  refine ⟨fun hroom => ?_, fun hroom => ?_, fun backend => backend.run_get_state address⟩
  · obtain ⟨buffer, hbuffer, hempty⟩ := hsteady.sound.acquire_of_le hroom
    have hfetch : fetched = _ := run_fetch_eq hbuffer hempty
    have hafter : after = before.acquire.2.release (filledBy buffer got.1) :=
      congrArg (fun other => other.2.lending.pool) hfetch
    have hused : (filledBy buffer got.1).capacity = room := by
      rw [capacity_filledBy hempty, BufferPool.capacity_of_acquire_eq_ok hbuffer]
    obtain ⟨-, -, -, hclosed⟩ := BufferPool.bare_eq_iff.1
      ((before.acquire.2.bare_release (filledBy buffer got.1)).trans before.bare_acquire)
    have hcount := hsteady.bounded.idleCount_acquire_release (filledBy buffer got.1)
    rw [hused] at hcount
    rw [hafter, hfetch]
    exact ⟨rfl, rfl, rfl, hclosed, hcount⟩
  · exact run_fetch_of_acquire_eq_error (hsteady.sound.acquire_of_lt hroom)

/-- A box that is not there, asked for while somebody holds a buffer with something in it. -/
theorem fetch_isolated_while_held :
    let container : ContainerId := ⟨Block.replicate 32 0x11⟩
    let address : Address := ⟨container, ⟨Block.replicate 32 0x33⟩⟩
    let missing : Address := ⟨container, ⟨Block.replicate 32 0x44⟩⟩
    let store : ObjectMap := ⟨[(address, ⟨⟨⟨Block.replicate 32 0x22⟩, [], 1⟩, [0x12]⟩)]⟩
    let settings : Settings := ⟨1, 2, 4⟩
    ∃ start, create store settings = .ok start
      ∧ let held := ((onLending (·.step (.write 0 [1, 2, 3]))).run
          ((onLending (·.step .acquire)).run start).2).2
        let fetched := (fetch missing).run held
        Reached settings held ∧ settings.bufferSize ≤ roomLimit
          ∧ fetched.1 = .error (.notFound missing)
          ∧ fetched.2.lending.slots = [some ⟨0, [1, 2, 3], 8⟩]
          ∧ fetched.2.lending.pool.idleCount = 1 := by
  intro container address missing store settings
  obtain ⟨start, hstart⟩ : ∃ start, create store settings = .ok start := ⟨_, rfl⟩
  refine ⟨start, hstart, ?_⟩
  intro held fetched
  have hheld : Reached settings held := .lent (.lent (.created hstart) .acquire) _
  have hroom : settings.bufferSize ≤ roomLimit := by decide
  obtain ⟨hanswer, -, hslots, -, hcount⟩ := (fetch_isolated hheld missing).1 hroom
  cases hstart
  exact ⟨hheld, hroom, hanswer, hslots, hcount⟩

/-- **Without room for a buffer it is not told that a box is not there.** -/
theorem missing_not_reported_without_room :
    let address : Address := ⟨⟨Block.replicate 32 0⟩, ⟨Block.replicate 32 0⟩⟩
    let settings : Settings := { Settings.default with bufferSize := 0x8000000000000000 }
    ∃ start, create ObjectMap.empty settings = .ok start
      ∧ ((ObjectStore.get address).run start.store).1 = .error (.notFound address)
      ∧ ((fetch address).run start).1 ≠ .error (.notFound address) := by
  intro address settings
  refine ⟨_, rfl, rfl, ?_⟩
  intro h
  cases h

end CredentialService

end Coffer
