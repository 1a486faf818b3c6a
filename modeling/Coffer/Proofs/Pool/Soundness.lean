import Coffer.Pool.Lending

/-!
# Proofs/Pool/Soundness — what any history leaves in a pool

A lending is **sound** when every buffer that nobody holds is empty, and when there is no buffer at
all if there cannot be room for one.  Nothing that can be done to a lending makes it unsound
(`Lending.Sound.step`), so whoever takes a buffer from the pool finds nothing in it
(`Lending.Sound.acquire_of_le`).
-/

namespace Coffer

/-! ## Pools -/

namespace BufferPool

variable {pool : BufferPool}

/-- All buffers that nobody holds are empty. -/
def IdleEmpty (pool : BufferPool) : Prop := ∀ buffer ∈ pool.idle, buffer.content = []

/-! ### Which buffer is taken -/

theorem newBuffer_of_le {room : Nat} (h : room ≤ roomLimit) :
    pool.newBuffer room
      = (.ok ⟨pool.nextMark, [], room⟩, { pool with nextMark := pool.nextMark + 1 }) :=
  if_neg (Nat.not_lt.2 h)

theorem newBuffer_of_lt {room : Nat} (h : roomLimit < room) :
    pool.newBuffer room = (.error .tooLarge, pool) :=
  if_pos h

theorem acquire_of_idle_eq_cons {buffer : Buffer} {rest : List Buffer}
    (h : pool.idle = buffer :: rest) : pool.acquire = (.ok buffer, { pool with idle := rest }) := by
  rw [acquire, h]

theorem acquire_of_idle_eq_nil (h : pool.idle = []) :
    pool.acquire = pool.newBuffer pool.bufferSize := by
  rw [acquire, h]

/-! ### What the operations keep -/

/-- A pool without its buffers: its limits, and whether it is closed. -/
def bare (pool : BufferPool) : BufferPool := { pool with idle := [], nextMark := 0 }

/-- Pools that are the same without their buffers have the same limits, and are closed alike. -/
theorem bare_eq_iff {pool other : BufferPool} : pool.bare = other.bare ↔
    pool.capacity = other.capacity ∧ pool.bufferSize = other.bufferSize
      ∧ pool.maxRetained = other.maxRetained ∧ pool.closed = other.closed := by
  simp only [bare, BufferPool.mk.injEq, true_and, and_true]

theorem anew_eq_of_bare_eq {pool other : BufferPool} (h : pool.bare = other.bare) :
    pool.anew = other.anew := by
  obtain ⟨hcapacity, hsize, hretained, -⟩ := bare_eq_iff.1 h
  rw [anew, anew, hcapacity, hsize, hretained]

theorem bare_newBuffer (pool : BufferPool) (room : Nat) :
    (pool.newBuffer room).2.bare = pool.bare := by
  rw [newBuffer]
  split <;> rfl

theorem bare_acquire (pool : BufferPool) : pool.acquire.2.bare = pool.bare := by
  rw [acquire]
  split
  · rfl
  · exact pool.bare_newBuffer _

theorem bare_release (pool : BufferPool) (buffer : Buffer) :
    (pool.release buffer).bare = pool.bare := by
  rw [release]
  split <;> rfl

theorem idle_newBuffer (pool : BufferPool) (room : Nat) :
    (pool.newBuffer room).2.idle = pool.idle := by
  rw [newBuffer]
  split <;> rfl

theorem bufferSize_acquire (pool : BufferPool) :
    pool.acquire.2.bufferSize = pool.bufferSize :=
  (bare_eq_iff.1 pool.bare_acquire).2.1

theorem idle_acquire_subset (pool : BufferPool) : pool.acquire.2.idle ⊆ pool.idle := by
  cases hidle : pool.idle with
  | cons buffer rest =>
    rw [acquire_of_idle_eq_cons hidle]
    exact List.subset_cons_self buffer rest
  | nil =>
    rw [acquire_of_idle_eq_nil hidle, idle_newBuffer, hidle]
    exact List.nil_subset []

theorem IdleEmpty.acquire (h : pool.IdleEmpty) : pool.acquire.2.IdleEmpty :=
  fun buffer hmem => h buffer (pool.idle_acquire_subset hmem)

theorem bufferSize_release (pool : BufferPool) (buffer : Buffer) :
    (pool.release buffer).bufferSize = pool.bufferSize :=
  (bare_eq_iff.1 (pool.bare_release buffer)).2.1

theorem mem_idle_release {buffer out : Buffer} (h : buffer ∈ (pool.release out).idle) :
    buffer = out.cleared ∨ buffer ∈ pool.idle := by
  rw [release] at h
  split at h
  · exact List.mem_cons.1 h
  · exact .inr h

/-- **A buffer comes back emptied**, whatever was in it. -/
theorem IdleEmpty.release (h : pool.IdleEmpty) (buffer : Buffer) :
    (pool.release buffer).IdleEmpty := by
  intro other hmem
  rcases mem_idle_release hmem with rfl | hmem
  · rfl
  · exact h other hmem

theorem IdleEmpty.drain (pool : BufferPool) : pool.drain.2.IdleEmpty :=
  fun _ hmem => absurd hmem List.not_mem_nil

end BufferPool

/-! ## Lendings -/

namespace Lending

variable {lending : Lending}

/-- **A lending is sound**: its idle buffers are empty, and there are none, nor any that are out, if
there cannot be room for one. -/
structure Sound (lending : Lending) : Prop where
  /-- The buffers that nobody holds are empty. -/
  idle : lending.pool.IdleEmpty
  /-- There is room for a buffer, or no buffer. -/
  room : lending.pool.bufferSize ≤ roomLimit
    ∨ lending.pool.idle = [] ∧ ∀ slot, lending.buffer? slot = none

theorem Sound.fresh (capacity bufferSize maxRetained : Nat) :
    (fresh (.fresh capacity bufferSize maxRetained)).Sound :=
  ⟨fun _ hmem => absurd hmem List.not_mem_nil, .inr ⟨rfl, fun _ => rfl⟩⟩

/-- A lending of a pool begun anew is sound. -/
theorem Sound.renewed (lending : Lending) (pool : BufferPool) :
    (lending.renewed pool.anew).Sound := by
  refine ⟨fun _ hmem => absurd hmem List.not_mem_nil, .inr ⟨rfl, fun slot => ?_⟩⟩
  rw [buffer?, Lending.renewed, List.getElem?_map]
  cases lending.slots[slot]? <;> rfl

/-! ### Taking and giving back -/

/-- **Whoever takes a buffer finds nothing in it**, if there is room for one. -/
theorem Sound.acquire_of_le (h : lending.Sound) (hroom : lending.pool.bufferSize ≤ roomLimit) :
    ∃ buffer, lending.pool.acquire.1 = .ok buffer ∧ buffer.content = [] := by
  rw [BufferPool.acquire]
  split
  · rename_i buffer rest hidle
    exact ⟨buffer, rfl, h.idle buffer (hidle ▸ List.mem_cons_self)⟩
  · rw [BufferPool.newBuffer, if_neg (Nat.not_lt.2 hroom)]
    exact ⟨_, rfl, rfl⟩

/-- Without room nobody gets a buffer. -/
theorem Sound.acquire_of_lt (h : lending.Sound) (hroom : roomLimit < lending.pool.bufferSize) :
    lending.pool.acquire = (.error .tooLarge, lending.pool) := by
  obtain ⟨hidle, -⟩ := h.room.resolve_left (Nat.not_le.2 hroom)
  rw [BufferPool.acquire, hidle]
  exact if_pos hroom

/-- Taking a buffer and giving one back at once leaves a lending sound. -/
theorem Sound.acquire_release (h : lending.Sound) (hroom : lending.pool.bufferSize ≤ roomLimit)
    (buffer : Buffer) :
    Sound { lending with pool := lending.pool.acquire.2.release buffer } := by
  refine ⟨h.idle.acquire.release _, .inl ?_⟩
  rw [BufferPool.bufferSize_release, BufferPool.bufferSize_acquire]
  exact hroom

/-! ### Steps -/

/-- What holds of a lending and is kept by giving one buffer back is kept by giving back all. -/
theorem releaseAll_induction {motive : Lending → Prop} (h : motive lending)
    (hstep : ∀ other slot, motive other → motive (other.release slot)) :
    motive lending.releaseAll := by
  rw [releaseAll]
  generalize List.range lending.slots.length = slots
  induction slots generalizing lending with
  | nil => exact h
  | cons slot slots ih => exact ih (hstep lending slot h)

section

variable {motive : BufferPool → Prop} (h : motive lending.pool)

include h

theorem pool_acquire (hacquire : ∀ pool, motive pool → motive pool.acquire.2) :
    motive lending.acquire.2.pool := by
  have hpool := hacquire lending.pool h
  rw [acquire]
  split
  · rename_i buffer pool heq
    rw [heq] at hpool
    exact hpool
  · exact h

theorem pool_change (slot : Nat) (f : Buffer → Buffer) :
    motive (lending.change slot f).2.pool := by
  rw [change]
  split <;> exact h

theorem pool_replace (hnew : ∀ pool room, motive pool → motive (pool.newBuffer room).2)
    (slot room : Nat) : motive (lending.replace slot room).2.pool := by
  have hpool := hnew lending.pool room h
  rw [replace]
  split
  · split
    · rename_i buffer pool heq
      rw [heq] at hpool
      exact hpool
    · exact h
  · exact h

theorem pool_release (hrelease : ∀ pool buffer, motive pool → motive (pool.release buffer))
    (slot : Nat) : motive (lending.release slot).pool := by
  rw [release]
  split
  · exact hrelease _ _ h
  · exact h

/-- **What taking, making and giving back keep, every step keeps** but closing the pool. -/
theorem pool_step_of_ne_drain (hacquire : ∀ pool, motive pool → motive pool.acquire.2)
    (hnew : ∀ pool room, motive pool → motive (pool.newBuffer room).2)
    (hrelease : ∀ pool buffer, motive pool → motive (pool.release buffer))
    {action : PoolAction} (haction : action ≠ .drain) : motive (lending.step action).2.pool := by
  cases action with
  | acquire => exact pool_acquire h hacquire
  | write slot bytes => exact pool_change h slot _
  | truncate slot length => exact pool_change h slot _
  | read slot =>
    rw [step]
    split <;> exact h
  | replace slot room => exact pool_replace h hnew slot room
  | release slot => exact pool_release h hrelease slot
  | releaseAll =>
    exact releaseAll_induction (motive := fun other => motive other.pool) h
      fun _ slot hother => pool_release hother hrelease slot
  | drain => exact absurd rfl haction

/-- **What the operations of a pool keep, every step of a lending keeps.** -/
theorem pool_step (hacquire : ∀ pool, motive pool → motive pool.acquire.2)
    (hnew : ∀ pool room, motive pool → motive (pool.newBuffer room).2)
    (hrelease : ∀ pool buffer, motive pool → motive (pool.release buffer))
    (hdrain : ∀ pool, motive pool → motive pool.drain.2) (action : PoolAction) :
    motive (lending.step action).2.pool := by
  by_cases haction : action = .drain
  · rw [haction]
    exact hdrain _ h
  · exact pool_step_of_ne_drain h hacquire hnew hrelease haction

end

/-- **No step but closing the pool** changes its limits, or opens or closes it. -/
theorem bare_step (lending : Lending) {action : PoolAction} (haction : action ≠ .drain) :
    (lending.step action).2.pool.bare = lending.pool.bare :=
  pool_step_of_ne_drain (motive := fun pool => pool.bare = lending.pool.bare) rfl
    (fun pool hpool => pool.bare_acquire.trans hpool)
    (fun pool room hpool => (pool.bare_newBuffer room).trans hpool)
    (fun pool buffer hpool => (pool.bare_release buffer).trans hpool) haction

/-- No step changes the limits of a pool. -/
theorem anew_step (lending : Lending) (action : PoolAction) :
    (lending.step action).2.pool.anew = lending.pool.anew := by
  by_cases haction : action = .drain
  · rw [haction]
    rfl
  · exact BufferPool.anew_eq_of_bare_eq (lending.bare_step haction)

/-- **No step changes how much room a new buffer has.** -/
theorem bufferSize_step (lending : Lending) (action : PoolAction) :
    (lending.step action).2.pool.bufferSize = lending.pool.bufferSize := by
  have hanew := congrArg BufferPool.bufferSize (lending.anew_step action)
  exact hanew

/-- No step leaves anything in a buffer that nobody holds. -/
theorem idleEmpty_step (h : lending.pool.IdleEmpty) (action : PoolAction) :
    (lending.step action).2.pool.IdleEmpty := by
  refine pool_step h ?_ ?_ ?_ ?_ action
  · exact fun pool hpool => hpool.acquire
  · intro pool room hpool
    rw [BufferPool.IdleEmpty, BufferPool.idle_newBuffer]
    exact hpool
  · exact fun pool buffer hpool => hpool.release buffer
  · exact fun pool _ => BufferPool.IdleEmpty.drain pool

/-- **Without room for a buffer there never is one**, so only closing the pool does anything. -/
theorem step_of_no_buffer (hroom : roomLimit < lending.pool.bufferSize)
    (hidle : lending.pool.idle = []) (hslots : ∀ slot, lending.buffer? slot = none)
    (action : PoolAction) :
    (lending.step action).2 = lending ∨ (lending.step action).2 = lending.drain.2 := by
  have hacquire : lending.pool.acquire = (.error .tooLarge, lending.pool) := by
    rw [BufferPool.acquire, hidle]
    exact if_pos hroom
  have hrelease : ∀ slot, lending.release slot = lending := by
    intro slot
    rw [release, hslots]
  cases action with
  | acquire => simp [step, acquire, hacquire]
  | write slot bytes => simp [step, change, hslots]
  | truncate slot length => simp [step, change, hslots]
  | read slot => simp [step, hslots]
  | replace slot room => simp [step, replace, hslots]
  | release slot => exact .inl (hrelease slot)
  | releaseAll =>
    exact .inl (releaseAll_induction (motive := fun other => other = lending) rfl
      fun other slot hother => by rw [hother, hrelease])
  | drain => exact .inr rfl

/-- **Nothing that can be done to a lending makes it unsound.** -/
theorem Sound.step (h : lending.Sound) (action : PoolAction) : (lending.step action).2.Sound := by
  refine ⟨idleEmpty_step h.idle action, ?_⟩
  rw [bufferSize_step]
  by_cases hroom : lending.pool.bufferSize ≤ roomLimit
  · exact .inl hroom
  · obtain ⟨hidle, hslots⟩ := h.room.resolve_left hroom
    rcases step_of_no_buffer (Nat.not_le.1 hroom) hidle hslots action with heq | heq
    · rw [heq]
      exact .inr ⟨hidle, hslots⟩
    · rw [heq]
      exact .inr ⟨rfl, hslots⟩

end Lending

end Coffer
