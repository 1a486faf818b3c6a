import Coffer.Proofs.Pool.Marks

/-!
# Proofs/Pool/Safety — what a pool never does

A pool is **bounded** when it keeps no more buffers than it may, none that is too large, and none
once it is closed.  Every operation keeps it so (`BufferPool.Bounded`), and none changes its limits.
With what is known of marks this says all there is to say of a pool after any history
(`Lending.safe_after`).
-/

namespace Coffer

/-! ## Pools -/

namespace BufferPool

variable {pool : BufferPool}

/-- **A pool is bounded** when what it keeps is within its limits. -/
structure Bounded (pool : BufferPool) : Prop where
  /-- It keeps no more buffers than it may. -/
  idleCount_le : pool.idleCount ≤ pool.capacity
  /-- It keeps no buffer that is too large. -/
  capacity_le : ∀ buffer ∈ pool.idle, buffer.capacity ≤ pool.maxRetained
  /-- Once it is closed it keeps none. -/
  idle_of_closed : pool.closed = true → pool.idle = []

theorem Bounded.fresh (capacity bufferSize maxRetained : Nat) :
    (fresh capacity bufferSize maxRetained).Bounded :=
  ⟨Nat.zero_le _, fun _ hmem => absurd hmem List.not_mem_nil, fun _ => rfl⟩

theorem Bounded.newBuffer (h : pool.Bounded) (room : Nat) : (pool.newBuffer room).2.Bounded := by
  by_cases hroom : room ≤ roomLimit
  · rw [newBuffer_of_le hroom]
    exact ⟨h.idleCount_le, h.capacity_le, h.idle_of_closed⟩
  · rw [newBuffer_of_lt (Nat.not_le.1 hroom)]
    exact h

theorem Bounded.acquire (h : pool.Bounded) : pool.acquire.2.Bounded := by
  cases hidle : pool.idle with
  | nil =>
    rw [acquire_of_idle_eq_nil hidle]
    exact h.newBuffer _
  | cons buffer rest =>
    have hcount := h.idleCount_le
    rw [idleCount, hidle, List.length_cons] at hcount
    rw [acquire_of_idle_eq_cons hidle]
    refine ⟨Nat.le_of_succ_le hcount, fun other hmem => ?_, fun hclosed => ?_⟩
    · exact h.capacity_le other (hidle ▸ List.mem_cons_of_mem buffer hmem)
    · have hnil := h.idle_of_closed hclosed
      rw [hidle] at hnil
      cases hnil

/-- **A buffer that comes back** is kept just when the pool is open and both limits allow it. -/
theorem keeps_iff (pool : BufferPool) (buffer : Buffer) :
    pool.keeps buffer = true ↔ pool.closed = false ∧ buffer.capacity ≤ pool.maxRetained
      ∧ pool.idleCount < pool.capacity := by
  simp only [keeps, Bool.and_eq_true, decide_eq_true_eq, Bool.not_eq_true']
  tauto

theorem Bounded.release (h : pool.Bounded) (buffer : Buffer) : (pool.release buffer).Bounded := by
  rw [BufferPool.release]
  split
  · rename_i hkeeps
    obtain ⟨hopen, hroom, hcount⟩ := (pool.keeps_iff buffer).1 hkeeps
    refine ⟨hcount, List.forall_mem_cons.2 ⟨hroom, h.capacity_le⟩, fun hclosed => ?_⟩
    exact absurd (hopen.symm.trans hclosed) Bool.false_ne_true
  · exact h

theorem Bounded.drain (pool : BufferPool) : pool.drain.2.Bounded :=
  ⟨Nat.zero_le _, fun _ hmem => absurd hmem List.not_mem_nil, fun _ => rfl⟩

end BufferPool

/-! ## Lendings -/

namespace Lending

variable {lending : Lending}

theorem bounded_step (h : lending.pool.Bounded) (action : PoolAction) :
    (lending.step action).2.pool.Bounded :=
  pool_step h (fun _ hpool => hpool.acquire) (fun _ room hpool => hpool.newBuffer room)
    (fun _ buffer hpool => hpool.release buffer) (fun pool _ => .drain pool) action

theorem bounded_run (h : lending.pool.Bounded) (actions : List PoolAction) :
    (lending.run actions).pool.Bounded :=
  run_induction (motive := fun other => other.pool.Bounded) h
    (fun _ action hother => bounded_step hother action) actions

theorem Sound.run (h : lending.Sound) (actions : List PoolAction) : (lending.run actions).Sound :=
  run_induction h (fun _ action hother => hother.step action) actions

theorem anew_run (lending : Lending) (actions : List PoolAction) :
    (lending.run actions).pool.anew = lending.pool.anew :=
  run_induction (motive := fun other => other.pool.anew = lending.pool.anew) rfl
    (fun other action hother => (other.anew_step action).trans hother) actions

/-- **A pool is closed** just when it has been closed. -/
theorem closed_run_iff (hopen : lending.pool.closed = false) (actions : List PoolAction) :
    (lending.run actions).pool.closed = true ↔ .drain ∈ actions := by
  induction actions using List.reverseRecOn with
  | nil => simp [run, hopen]
  | append_singleton actions action ih =>
    rw [run_append, List.mem_append, List.mem_singleton]
    change ((lending.run actions).step action).2.pool.closed = true ↔ _
    by_cases haction : action = .drain
    · rw [haction]
      exact iff_of_true rfl (.inr rfl)
    · obtain ⟨-, -, -, hclosed⟩ :=
        BufferPool.bare_eq_iff.1 ((lending.run actions).bare_step haction)
      rw [hclosed, or_iff_left (Ne.symm haction)]
      exact ih

/-- **All there is to say of a lending** after a history that began with a new pool. -/
structure SafeAfter (capacity bufferSize maxRetained : Nat) (history : List PoolAction)
    (lending : Lending) : Prop where
  /-- No more buffers are idle than may be. -/
  idleCount_le : lending.pool.idleCount ≤ capacity
  /-- Idle buffers are empty, and none is too large. -/
  idle : ∀ buffer ∈ lending.pool.idle, buffer.content = [] ∧ buffer.capacity ≤ maxRetained
  /-- The pool is closed just when it has been drained. -/
  closed_iff : lending.pool.closed = true ↔ .drain ∈ history
  /-- A pool that has been drained keeps nothing, drops what comes back, and hands out new buffers
  only. -/
  drained : .drain ∈ history → lending.pool.idleCount = 0
    ∧ (∀ slot, (lending.release slot).pool = lending.pool)
    ∧ lending.pool.acquire = lending.pool.newBuffer bufferSize
  /-- Each buffer is idle or in one slot. -/
  apart : lending.marks.Nodup
  /-- Whoever takes a buffer gets an empty one, into a slot of its own: one that nobody has seen, or
  an idle one that has been given back and that nobody holds. -/
  acquire : bufferSize ≤ roomLimit → ∃ buffer,
    (lending.step .acquire).1 = .filled lending.slots.length 0
      ∧ (lending.step .acquire).2.slots = lending.slots ++ [some buffer]
      ∧ buffer.content = []
      ∧ (buffer.capacity = bufferSize
          ∧ Unseen (fresh (.fresh capacity bufferSize maxRetained)) history buffer.mark
        ∨ buffer ∈ lending.pool.idle
          ∧ GivenBack (fresh (.fresh capacity bufferSize maxRetained)) history buffer.mark
          ∧ ∀ other ∈ lending.held, other.mark ≠ buffer.mark)
  /-- Without room for a buffer nobody gets one, and there is none. -/
  refused : roomLimit < bufferSize →
    lending.step .acquire = (.refused .tooLarge, lending) ∧ lending.marks = []
  /-- What comes back while the pool is open is kept just when both limits allow it. -/
  release : .drain ∉ history → ∀ slot buffer, lending.buffer? slot = some buffer →
    (lending.release slot).pool.idle =
      if buffer.capacity ≤ maxRetained ∧ lending.pool.idleCount < capacity then
        buffer.cleared :: lending.pool.idle
      else lending.pool.idle
  /-- Draining drops all idle buffers and tells how many they were: none, from the second time
  on. -/
  drain : (lending.step .drain).1 = .dropped lending.pool.idleCount
    ∧ (lending.step .drain).2.pool.idle = []
    ∧ (.drain ∈ history → (lending.step .drain).1 = .dropped 0)

theorem acquire_of_pool_acquire_eq_ok {buffer : Buffer} {pool : BufferPool}
    (h : lending.pool.acquire = (.ok buffer, pool)) :
    lending.acquire = (.filled lending.slots.length buffer.content.length,
      ⟨pool, lending.slots ++ [some buffer]⟩) := by
  rw [Lending.acquire, h]

/-- **Taking a buffer** when there is room for one. -/
theorem step_acquire_of_le (h : lending.pool.IdleEmpty)
    (hroom : lending.pool.bufferSize ≤ roomLimit) : ∃ buffer,
    (lending.step .acquire).1 = .filled lending.slots.length 0
      ∧ (lending.step .acquire).2.slots = lending.slots ++ [some buffer]
      ∧ buffer.content = []
      ∧ (buffer ∈ lending.pool.idle
        ∨ buffer.capacity = lending.pool.bufferSize ∧ buffer.mark = lending.pool.nextMark) := by
  cases hidle : lending.pool.idle with
  | cons buffer rest =>
    have hempty := h buffer (hidle ▸ List.mem_cons_self)
    have hacquire := BufferPool.acquire_of_idle_eq_cons hidle
    rw [step, acquire_of_pool_acquire_eq_ok hacquire, hempty]
    exact ⟨buffer, rfl, rfl, hempty, .inl List.mem_cons_self⟩
  | nil =>
    have hacquire := BufferPool.acquire_of_idle_eq_nil hidle
    rw [BufferPool.newBuffer_of_le hroom] at hacquire
    rw [step, acquire_of_pool_acquire_eq_ok hacquire]
    exact ⟨_, rfl, rfl, rfl, .inr ⟨rfl, rfl⟩⟩

/-- **Giving a buffer back** to an open pool. -/
theorem idle_release (hopen : lending.pool.closed = false) {slot : Nat} {buffer : Buffer}
    (hbuffer : lending.buffer? slot = some buffer) :
    (lending.release slot).pool.idle =
      if buffer.capacity ≤ lending.pool.maxRetained ∧ lending.pool.idleCount < lending.pool.capacity
      then buffer.cleared :: lending.pool.idle else lending.pool.idle := by
  rw [Lending.release, hbuffer]
  change (lending.pool.release buffer).idle = _
  rw [BufferPool.release]
  simp only [BufferPool.keeps_iff, hopen, true_and]
  split <;> rfl

/-- Giving a buffer back to a closed pool drops it. -/
theorem pool_release_of_closed (hclosed : lending.pool.closed = true) (slot : Nat) :
    (lending.release slot).pool = lending.pool := by
  refine pool_release (motive := fun pool => pool = lending.pool) rfl ?_ slot
  rintro pool buffer rfl
  rw [BufferPool.release, if_neg]
  rw [BufferPool.keeps_iff, hclosed]
  exact fun hkeeps => absurd hkeeps.1 Bool.false_ne_true.symm

/-- In a lending without buffers there are no marks. -/
theorem marks_eq_nil (hidle : lending.pool.idle = [])
    (hslots : ∀ slot, lending.buffer? slot = none) : lending.marks = [] := by
  have hheld : lending.held = [] := by
    rw [List.eq_nil_iff_forall_not_mem]
    intro buffer hmem
    rw [held, List.reduceOption_mem_iff] at hmem
    obtain ⟨slot, hslot, hget⟩ := List.getElem_of_mem hmem
    have hnone := hslots slot
    rw [buffer?, List.getElem?_eq_getElem hslot, hget] at hnone
    cases hnone
  rw [marks, hidle, hheld]
  rfl

/-- **A pool is safe**: whatever is done to it and to the buffers that are out. -/
theorem safe_after (capacity bufferSize maxRetained : Nat) (history : List PoolAction) :
    SafeAfter capacity bufferSize maxRetained history
      ((fresh (.fresh capacity bufferSize maxRetained)).run history) := by
  generalize hstart : fresh (.fresh capacity bufferSize maxRetained) = start
  have hbounded : (start.run history).pool.Bounded := bounded_run (hstart ▸ .fresh _ _ _) history
  have hsound : (start.run history).Sound := Sound.run (hstart ▸ .fresh _ _ _) history
  have hmarked : start.Marked := hstart ▸ .fresh _ _ _
  have hclosed := closed_run_iff (hstart ▸ rfl : start.pool.closed = false) history
  have hgiven := givenBack_of_mem_idle (hstart ▸ rfl : start.pool.idle = []) history
  have hunseen := unseen_nextMark hmarked history
  have happart := hmarked.run history
  have hlimits : (start.run history).pool.anew = .fresh capacity bufferSize maxRetained := by
    rw [anew_run, ← hstart]
    rfl
  generalize start.run history = lending at *
  obtain rfl : lending.pool.capacity = capacity := congrArg BufferPool.capacity hlimits
  obtain rfl : lending.pool.bufferSize = bufferSize := congrArg BufferPool.bufferSize hlimits
  obtain rfl : lending.pool.maxRetained = maxRetained := congrArg BufferPool.maxRetained hlimits
  have hdrained : .drain ∈ history → lending.pool.idle = [] := fun hdrain =>
    hbounded.idle_of_closed (hclosed.2 hdrain)
  refine
    { idleCount_le := hbounded.idleCount_le
      idle := fun buffer hmem => ⟨hsound.idle buffer hmem, hbounded.capacity_le buffer hmem⟩
      closed_iff := hclosed
      drained := fun hdrain => ⟨congrArg List.length (hdrained hdrain),
        pool_release_of_closed (hclosed.2 hdrain),
        BufferPool.acquire_of_idle_eq_nil (hdrained hdrain)⟩
      apart := happart.nodup
      acquire := fun hroom => ?_
      refused := fun hroom => ?_
      release := fun hdrain slot buffer hbuffer =>
        idle_release (Bool.eq_false_iff.2 fun hshut => hdrain (hclosed.1 hshut)) hbuffer
      drain := ⟨rfl, rfl, fun hdrain =>
        congrArg PoolAnswer.dropped (congrArg List.length (hdrained hdrain))⟩ }
  · obtain ⟨buffer, hanswer, hslots, hempty, hfrom⟩ := step_acquire_of_le hsound.idle hroom
    refine ⟨buffer, hanswer, hslots, hempty, ?_⟩
    rw [hstart]
    rcases hfrom with hmem | ⟨hcapacity, hmark⟩
    · exact .inr ⟨hmem, hgiven buffer hmem, happart.mark_ne hmem⟩
    · rw [hmark]
      exact .inl ⟨hcapacity, hunseen⟩
  · have hacquire := hsound.acquire_of_lt hroom
    obtain ⟨hidle, hslots⟩ := hsound.room.resolve_left (Nat.not_le.2 hroom)
    exact ⟨by rw [step, Lending.acquire, hacquire], marks_eq_nil hidle hslots⟩

/-- **Without room for a buffer nobody gets one.** -/
theorem not_filled_without_room :
    ∃ pool, BufferPool.create 1 0x8000000000000000 0 = .ok pool
      ∧ ∀ slot length, ((fresh pool).step .acquire).1 ≠ .filled slot length := by
  refine ⟨_, rfl, fun slot length h => ?_⟩
  cases h

end Lending

end Coffer
