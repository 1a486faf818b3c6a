import Coffer.Proofs.Pool.Soundness
import Mathlib.Data.List.Induction
import Mathlib.Data.List.Perm.Subperm
import Mathlib.Data.List.ReduceOption

/-!
# Proofs/Pool/Marks — where each buffer is

Every buffer has a mark of its own.  A step of a lending moves marks about and makes at most one new
one (`Lending.Moves.step`), so at every moment of a run each buffer is idle or in one slot
(`Lending.Marked.run`), a new buffer is one that nobody has seen (`Lending.unseen_nextMark`), and an
idle one has been given back (`Lending.givenBack_of_mem_idle`).
-/

namespace Coffer.Lending

/-- **A run**: the lending after a sequence of actions. -/
def run (lending : Lending) (actions : List PoolAction) : Lending :=
  actions.foldl (fun lending action => (lending.step action).2) lending

theorem run_append (lending : Lending) (actions others : List PoolAction) :
    lending.run (actions ++ others) = (lending.run actions).run others :=
  List.foldl_append

variable {lending other : Lending} {slot : Nat} {buffer : Buffer} {action : PoolAction}

/-- **What every step keeps, every run keeps.** -/
theorem run_induction {motive : Lending → Prop} (h : motive lending)
    (hstep : ∀ other action, motive other → motive (other.step action).2)
    (actions : List PoolAction) : motive (lending.run actions) := by
  induction actions generalizing lending with
  | nil => exact h
  | cons action actions ih => exact ih (hstep lending action h)

/-! ## Marks -/

/-- The buffers that are out. -/
def held (lending : Lending) : List Buffer := lending.slots.reduceOption

/-- The marks of all buffers that there are, first those that nobody holds. -/
def marks (lending : Lending) : List Nat :=
  (lending.pool.idle ++ lending.held).map Buffer.mark

theorem exists_slots_eq (h : lending.buffer? slot = some buffer) :
    ∃ front back, lending.slots = front ++ some buffer :: back
      ∧ ∀ other, lending.slots.set slot other = front ++ other :: back := by
  have hget : lending.slots[slot]? = some (some buffer) := Option.join_eq_some_iff.1 h
  obtain ⟨hlt, hslot⟩ := List.getElem?_eq_some_iff.1 hget
  refine ⟨lending.slots.take slot, lending.slots.drop (slot + 1), ?_, fun other => ?_⟩
  · rw [← hslot, List.getElem_cons_drop hlt, List.take_append_drop]
  · exact List.set_eq_take_append_cons_drop.trans (if_pos hlt)

/-- **The buffer in a slot**, apart from all others. -/
theorem exists_marks_perm (h : lending.buffer? slot = some buffer) :
    ∃ others : List Nat, lending.marks.Perm (lending.pool.idle.map Buffer.mark
        ++ buffer.mark :: others)
      ∧ ∀ pool other, (marks ⟨pool, lending.slots.set slot other⟩).Perm
        (pool.idle.map Buffer.mark ++ (other.toList.map Buffer.mark ++ others)) := by
  obtain ⟨front, back, hslots, hset⟩ := exists_slots_eq h
  refine ⟨(front ++ back).reduceOption.map Buffer.mark, ?_, fun pool other => ?_⟩
  · rw [marks, held, hslots, List.map_append]
    refine List.Perm.append_left _ ?_
    simp only [List.reduceOption_append, List.reduceOption_cons_of_some, List.map_append,
      List.map_cons]
    exact List.perm_middle
  · rw [marks, held, hset, List.map_append]
    refine List.Perm.append_left _ ?_
    cases other with
    | none => simp [List.reduceOption_append, List.reduceOption_cons_of_none]
    | some buffer =>
      simp only [List.reduceOption_append, List.reduceOption_cons_of_some, List.map_append,
        List.map_cons, Option.toList_some, List.map_nil]
      exact List.perm_middle

/-! ## What a step does to marks -/

/-- **Marks are moved** from one lending to another: some may be gone, and one may be new. -/
def Moves (lending other : Lending) : Prop :=
  other.pool.nextMark = lending.pool.nextMark ∧ other.marks.Subperm lending.marks
    ∨ other.pool.nextMark = lending.pool.nextMark + 1
      ∧ other.marks.Subperm (lending.pool.nextMark :: lending.marks)

theorem Moves.refl (lending : Lending) : lending.Moves lending :=
  .inl ⟨rfl, .refl _⟩

theorem Moves.acquire (lending : Lending) : lending.Moves lending.acquire.2 := by
  rw [Lending.acquire]
  cases hidle : lending.pool.idle with
  | cons buffer rest =>
    rw [BufferPool.acquire_of_idle_eq_cons hidle]
    refine .inl ⟨rfl, List.Perm.subperm ?_⟩
    simp only [marks, held, hidle, List.reduceOption_append, List.map_append, List.map_cons,
      List.cons_append, ← List.append_assoc]
    exact List.perm_append_singleton _ _
  | nil =>
    rw [BufferPool.acquire_of_idle_eq_nil hidle]
    by_cases hroom : lending.pool.bufferSize ≤ roomLimit
    · rw [BufferPool.newBuffer_of_le hroom]
      refine .inr ⟨rfl, List.Perm.subperm ?_⟩
      simp only [marks, held, hidle, List.reduceOption_append, List.map_append, List.nil_append]
      exact List.perm_append_singleton _ _
    · rw [BufferPool.newBuffer_of_lt (Nat.not_le.1 hroom)]
      exact .refl _

theorem Moves.change (lending : Lending) (slot : Nat) {f : Buffer → Buffer}
    (hmark : ∀ buffer, (f buffer).mark = buffer.mark) :
    lending.Moves (lending.change slot f).2 := by
  rw [Lending.change]
  split
  · rename_i buffer hbuffer
    obtain ⟨others, hall, hset⟩ := exists_marks_perm hbuffer
    refine .inl ⟨rfl, List.Perm.subperm ?_⟩
    have hperm := hset lending.pool (some (f buffer))
    rw [Option.toList_some, List.map_singleton, hmark] at hperm
    exact hperm.trans hall.symm
  · exact .refl _

theorem Moves.replace (lending : Lending) (slot room : Nat) :
    lending.Moves (lending.replace slot room).2 := by
  rw [Lending.replace]
  split
  · rename_i buffer hbuffer
    by_cases hroom : room ≤ roomLimit
    · rw [BufferPool.newBuffer_of_le hroom]
      obtain ⟨others, hall, hset⟩ := exists_marks_perm hbuffer
      have hperm := hset { lending.pool with nextMark := lending.pool.nextMark + 1 }
        (some ⟨lending.pool.nextMark, [], room⟩)
      have hothers : (lending.pool.idle.map Buffer.mark ++ others).Subperm lending.marks :=
        ((List.subperm_append_left _).2 .cons_self).trans hall.symm.subperm
      exact .inr ⟨rfl, hperm.subperm.trans
        (List.perm_middle.subperm.trans ((List.subperm_cons _).2 hothers))⟩
    · rw [BufferPool.newBuffer_of_lt (Nat.not_le.1 hroom)]
      exact .refl _
  · exact .refl _

/-- Giving a buffer back makes no mark. -/
theorem release_marks (lending : Lending) (slot : Nat) :
    (lending.release slot).pool.nextMark = lending.pool.nextMark
      ∧ (lending.release slot).marks.Subperm lending.marks := by
  rw [Lending.release]
  split
  · rename_i buffer hbuffer
    obtain ⟨others, hall, hset⟩ := exists_marks_perm hbuffer
    have hperm := hset (lending.pool.release buffer) none
    refine ⟨?_, hperm.subperm.trans (.trans ?_ hall.symm.subperm)⟩
    · change (lending.pool.release buffer).nextMark = _
      rw [BufferPool.release]
      split <;> rfl
    · rw [BufferPool.release]
      split
      · exact List.perm_middle.symm.subperm
      · rw [Option.toList_none, List.map_nil, List.nil_append, List.subperm_append_left]
        exact .cons_self
  · exact ⟨rfl, .refl _⟩

/-- **A step moves marks**, and makes at most one. -/
theorem Moves.step (lending : Lending) (action : PoolAction) :
    lending.Moves (lending.step action).2 := by
  cases action with
  | acquire => exact .acquire lending
  | write slot bytes => exact .change lending slot fun _ => rfl
  | truncate slot length => exact .change lending slot fun _ => rfl
  | read slot =>
    rw [Lending.step]
    split <;> exact .refl _
  | replace slot room => exact .replace lending slot room
  | release slot => exact .inl (release_marks lending slot)
  | releaseAll =>
    refine .inl (releaseAll_induction (motive := fun other =>
      other.pool.nextMark = lending.pool.nextMark ∧ other.marks.Subperm lending.marks)
      ⟨rfl, .refl _⟩ fun other slot hother => ?_)
    obtain ⟨hnext, hmarks⟩ := release_marks other slot
    exact ⟨hnext.trans hother.1, hmarks.trans hother.2⟩
  | drain =>
    refine .inl ⟨rfl, ?_⟩
    rw [marks, marks, List.map_append, List.map_append]
    exact (List.sublist_append_right _ _).subperm

/-! ## Marks in a run -/

/-- **A lending is marked** when all buffers that there are have different marks, all of which have
been used. -/
structure Marked (lending : Lending) : Prop where
  /-- No two buffers have the same mark. -/
  nodup : lending.marks.Nodup
  /-- No buffer has a mark that is still to be used. -/
  lt_nextMark : ∀ mark ∈ lending.marks, mark < lending.pool.nextMark

theorem Marked.fresh (capacity bufferSize maxRetained : Nat) :
    (fresh (.fresh capacity bufferSize maxRetained)).Marked :=
  ⟨List.nodup_nil, fun _ hmem => absurd hmem List.not_mem_nil⟩

theorem Marked.of_moves (h : lending.Marked) (hmoves : lending.Moves other) : other.Marked := by
  rcases hmoves with ⟨hnext, perm, hperm, hsublist⟩ | ⟨hnext, perm, hperm, hsublist⟩
  · refine ⟨hperm.nodup_iff.1 (hsublist.nodup h.nodup), fun mark hmem => ?_⟩
    rw [hnext]
    exact h.lt_nextMark mark (hsublist.subset (hperm.mem_iff.2 hmem))
  · have hnodup : (lending.pool.nextMark :: lending.marks).Nodup :=
      List.nodup_cons.2 ⟨fun hmem => Nat.lt_irrefl _ (h.lt_nextMark _ hmem), h.nodup⟩
    refine ⟨hperm.nodup_iff.1 (hsublist.nodup hnodup), fun mark hmem => ?_⟩
    rw [hnext]
    rcases List.mem_cons.1 (hsublist.subset (hperm.mem_iff.2 hmem)) with rfl | hmem
    · exact Nat.lt_succ_self _
    · exact Nat.lt_succ_of_lt (h.lt_nextMark mark hmem)

/-- **At every moment each buffer is in one place.** -/
theorem Marked.run (h : lending.Marked) (actions : List PoolAction) :
    (lending.run actions).Marked :=
  run_induction h (fun other action hother => hother.of_moves (.step other action)) actions

/-- Nobody holds a buffer that is idle. -/
theorem Marked.mark_ne (h : lending.Marked) (hidle : buffer ∈ lending.pool.idle) :
    ∀ other ∈ lending.held, other.mark ≠ buffer.mark := by
  intro other hheld heq
  have hnodup := h.nodup
  rw [marks, List.map_append, List.nodup_append] at hnodup
  exact hnodup.2.2 _ (List.mem_map_of_mem hidle) _ (List.mem_map_of_mem hheld) heq.symm

theorem nextMark_le_run (lending : Lending) (actions : List PoolAction) :
    lending.pool.nextMark ≤ (lending.run actions).pool.nextMark := by
  refine run_induction (motive := fun other => lending.pool.nextMark ≤ other.pool.nextMark)
    (Nat.le_refl _) (fun other action hother => ?_) actions
  rcases Moves.step other action with ⟨hnext, -⟩ | ⟨hnext, -⟩ <;> omega

/-- **A mark is unseen** when no buffer has had it at any moment of a run. -/
def Unseen (start : Lending) (history : List PoolAction) (mark : Nat) : Prop :=
  ∀ before after, history = before ++ after → mark ∉ (start.run before).marks

/-- **A new buffer is one that nobody has seen.** -/
theorem unseen_nextMark {start : Lending} (h : start.Marked) (history : List PoolAction) :
    start.Unseen history (start.run history).pool.nextMark := by
  rintro before after rfl hmem
  have hlt := (h.run before).lt_nextMark _ hmem
  have hle := nextMark_le_run (start.run before) after
  rw [← run_append] at hle
  exact Nat.lt_irrefl _ (Nat.lt_of_lt_of_le hlt hle)

/-! ## Idle buffers -/

/-- **An action gives a buffer back** when it empties its slot. -/
def GivesBack (lending : Lending) (action : PoolAction) (buffer : Buffer) : Prop :=
  ∃ slot, lending.buffer? slot = some buffer ∧ (action = .release slot ∨ action = .releaseAll)

/-- A buffer was **given back** at some moment of a run. -/
def GivenBack (start : Lending) (history : List PoolAction) (mark : Nat) : Prop :=
  ∃ before action after buffer, history = before ++ action :: after
    ∧ (start.run before).GivesBack action buffer ∧ buffer.mark = mark

/-- **One lending is left of another** when buffers have been given back. -/
structure LeftOf (other lending : Lending) : Prop where
  /-- What is idle was idle, or in a slot. -/
  idle : ∀ buffer ∈ other.pool.idle, buffer ∈ lending.pool.idle
    ∨ ∃ slot out, lending.buffer? slot = some out ∧ buffer = out.cleared
  /-- What is in a slot was there. -/
  slots : ∀ slot out, other.buffer? slot = some out → lending.buffer? slot = some out

theorem LeftOf.refl (lending : Lending) : lending.LeftOf lending :=
  ⟨fun _ => .inl, fun _ _ => id⟩

theorem LeftOf.release (h : other.LeftOf lending) (slot : Nat) :
    (other.release slot).LeftOf lending := by
  rw [Lending.release]
  split
  · rename_i out hout
    refine ⟨fun buffer hmem => ?_, fun place back hback => ?_⟩
    · rcases BufferPool.mem_idle_release hmem with heq | hmem
      · exact .inr ⟨slot, out, h.slots slot out hout, heq⟩
      · exact h.idle buffer hmem
    · change ((other.slots.set slot none)[place]?).join = _ at hback
      rw [List.getElem?_set] at hback
      split at hback
      · split at hback <;> cases hback
      · exact h.slots place back hback
  · exact h

/-- **Only what is given back becomes idle.** -/
theorem mem_idle_step (h : buffer ∈ (lending.step action).2.pool.idle) :
    buffer ∈ lending.pool.idle
      ∨ ∃ out, lending.GivesBack action out ∧ buffer = out.cleared := by
  have hself : lending.pool.idle ⊆ lending.pool.idle := List.Subset.refl _
  cases action with
  | acquire =>
    have hsubset := pool_acquire (motive := fun pool => pool.idle ⊆ lending.pool.idle) hself
      fun pool hpool => List.Subset.trans pool.idle_acquire_subset hpool
    exact .inl (hsubset h)
  | write slot bytes =>
    exact .inl (pool_change (motive := fun pool => pool.idle ⊆ lending.pool.idle) hself slot _ h)
  | truncate slot length =>
    exact .inl (pool_change (motive := fun pool => pool.idle ⊆ lending.pool.idle) hself slot _ h)
  | read slot =>
    rw [step] at h
    split at h <;> exact .inl h
  | replace slot room =>
    have hsubset := pool_replace (motive := fun pool => pool.idle ⊆ lending.pool.idle) hself
      (fun pool room hpool => (pool.idle_newBuffer room).symm ▸ hpool) slot room
    exact .inl (hsubset h)
  | release slot =>
    rw [step, Lending.release] at h
    split at h
    · rename_i out hout
      rcases BufferPool.mem_idle_release h with heq | hmem
      · exact .inr ⟨out, ⟨slot, hout, .inl rfl⟩, heq⟩
      · exact .inl hmem
    · exact .inl h
  | releaseAll =>
    have hleft : lending.releaseAll.LeftOf lending :=
      releaseAll_induction (motive := fun other => other.LeftOf lending) (.refl lending)
        fun _ slot hother => hother.release slot
    rcases hleft.idle buffer h with hmem | ⟨slot, out, hout, heq⟩
    · exact .inl hmem
    · exact .inr ⟨out, ⟨slot, hout, .inr rfl⟩, heq⟩
  | drain => exact absurd h List.not_mem_nil

theorem GivenBack.append {start : Lending} {history : List PoolAction} {mark : Nat}
    (h : start.GivenBack history mark) (later : List PoolAction) :
    start.GivenBack (history ++ later) mark := by
  obtain ⟨before, action, after, buffer, rfl, hgives, hmark⟩ := h
  refine ⟨before, action, after ++ later, buffer, ?_, hgives, hmark⟩
  rw [List.append_assoc, List.cons_append]

/-- **An idle buffer has been given back.** -/
theorem givenBack_of_mem_idle {start : Lending} (hstart : start.pool.idle = [])
    (history : List PoolAction) :
    ∀ buffer ∈ (start.run history).pool.idle, start.GivenBack history buffer.mark := by
  induction history using List.reverseRecOn with
  | nil =>
    intro buffer hmem
    rw [run, List.foldl_nil, hstart] at hmem
    exact absurd hmem List.not_mem_nil
  | append_singleton history action ih =>
    intro buffer hmem
    rw [run_append] at hmem
    rcases mem_idle_step hmem with hmem | ⟨out, hgives, heq⟩
    · exact (ih buffer hmem).append [action]
    · exact ⟨history, action, [], out, rfl, hgives, (congrArg Buffer.mark heq).symm⟩

end Coffer.Lending
