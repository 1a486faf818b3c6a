import Coffer.Pool.Basic

/-!
# Pool/Lending — a pool and the buffers that are out

A **lending** is a pool together with the buffers it has handed out.  Each of these is in a slot of
its own; slots are numbered in the order in which they were filled and are never filled again.
`step` is one thing that can happen to a lending.
-/

namespace Coffer

/-- **A lending**: a pool, and the slots in which holders keep its buffers. -/
structure Lending where
  /-- The pool. -/
  pool : BufferPool
  /-- The slots; one whose buffer has been given back is empty. -/
  slots : List (Option Buffer)
deriving DecidableEq

/-- What can be done to a lending. -/
inductive PoolAction
  /-- Take a buffer into the next slot. -/
  | acquire
  /-- Append bytes to the buffer in a slot. -/
  | write (slot : Nat) (bytes : Bytes)
  /-- Cut the buffer in a slot. -/
  | truncate (slot length : Nat)
  /-- Look at the buffer in a slot. -/
  | read (slot : Nat)
  /-- Put a new buffer with the given room into a slot, in place of the one there. -/
  | replace (slot room : Nat)
  /-- Give the buffer in a slot back. -/
  | release (slot : Nat)
  /-- Give all buffers back, in the order of the slots. -/
  | releaseAll
  /-- Close the pool. -/
  | drain
deriving DecidableEq

/-- What comes of an action. -/
inductive PoolAnswer
  /-- The slot that was filled, and how many bytes are in its buffer. -/
  | filled (slot length : Nat)
  /-- How many bytes are in a buffer. -/
  | length (length : Nat)
  /-- The bytes in a buffer. -/
  | content (bytes : Bytes)
  /-- How many buffers were dropped. -/
  | dropped (count : Nat)
  /-- There cannot be room for a buffer; nothing was done. -/
  | refused (cause : RoomError)
  /-- Nothing to tell. -/
  | done
deriving DecidableEq

namespace Lending

/-- A lending of which nothing is out. -/
def fresh (pool : BufferPool) : Lending := ⟨pool, []⟩

/-- A lending of another pool.  The slots that were filled in this one are not filled again. -/
def renewed (lending : Lending) (pool : BufferPool) : Lending :=
  ⟨pool, lending.slots.map fun _ => none⟩

/-- The buffer in a slot. -/
def buffer? (lending : Lending) (slot : Nat) : Option Buffer := (lending.slots[slot]?).join

/-- A lending with another buffer in a slot. -/
def setSlot (lending : Lending) (slot : Nat) (buffer : Option Buffer) : Lending :=
  { lending with slots := lending.slots.set slot buffer }

/-- Takes a buffer into the next slot. -/
def acquire (lending : Lending) : PoolAnswer × Lending :=
  match lending.pool.acquire with
  | (.ok buffer, pool) =>
    (.filled lending.slots.length buffer.content.length,
      ⟨pool, lending.slots ++ [some buffer]⟩)
  | (.error cause, _) => (.refused cause, lending)

/-- Changes the buffer in a slot, and gives its length. -/
def change (lending : Lending) (slot : Nat) (f : Buffer → Buffer) : PoolAnswer × Lending :=
  match lending.buffer? slot with
  | some buffer => (.length (f buffer).content.length, lending.setSlot slot (some (f buffer)))
  | none => (.done, lending)

/-- Puts a new buffer into a slot, in place of the one there. -/
def replace (lending : Lending) (slot room : Nat) : PoolAnswer × Lending :=
  match lending.buffer? slot with
  | some _ =>
    match lending.pool.newBuffer room with
    | (.ok buffer, pool) =>
      (.length 0, { lending with pool := pool }.setSlot slot (some buffer))
    | (.error cause, _) => (.refused cause, lending)
  | none => (.done, lending)

/-- Gives the buffer in a slot back. -/
def release (lending : Lending) (slot : Nat) : Lending :=
  match lending.buffer? slot with
  | some buffer => { lending with pool := lending.pool.release buffer }.setSlot slot none
  | none => lending

/-- Gives all buffers back, in the order of the slots. -/
def releaseAll (lending : Lending) : Lending :=
  (List.range lending.slots.length).foldl release lending

/-- Closes the pool. -/
def drain (lending : Lending) : PoolAnswer × Lending :=
  let (count, pool) := lending.pool.drain
  (.dropped count, { lending with pool := pool })

/-- **One step** of a lending. -/
def step (lending : Lending) : PoolAction → PoolAnswer × Lending
  | .acquire => lending.acquire
  | .write slot bytes => lending.change slot (·.append bytes)
  | .truncate slot length => lending.change slot (·.truncate length)
  | .read slot =>
    match lending.buffer? slot with
    | some buffer => (.content buffer.content, lending)
    | none => (.done, lending)
  | .replace slot room => lending.replace slot room
  | .release slot => (.done, lending.release slot)
  | .releaseAll => (.done, lending.releaseAll)
  | .drain => lending.drain

end Lending

end Coffer
