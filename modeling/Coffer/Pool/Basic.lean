import Coffer.Bytes

/-!
# Pool/Basic — a pool of reusable buffers

A **pool** keeps buffers that nobody holds, to hand them out again.  It keeps at most as many as its
capacity, none that has grown too large, and none at all once it is closed.  A buffer is emptied
when it comes back, so whoever gets it next finds nothing in it.  Pools and buffers that would need
more room than there can be are refused.
-/

namespace Coffer

/-! ## Room -/

/-- Why a pool or a buffer could not be made. -/
inductive RoomError
  /-- It would need more bytes than can be set aside at once. -/
  | tooLarge
deriving DecidableEq

/-- The wording of an error. -/
def RoomError.message : RoomError → String
  | tooLarge => "capacity overflow"

/-- How many bytes can be set aside at once: `2 ^ 63 - 1`. -/
def roomLimit : Nat := 0x7fffffffffffffff

/-! ## Buffers -/

/-- **A buffer**: the bytes in it, and how many it has room for. -/
structure Buffer where
  /-- What tells this buffer from all others. -/
  mark : Nat
  /-- The bytes in it. -/
  content : Bytes
  /-- How many bytes it has room for. -/
  capacity : Nat
deriving DecidableEq

namespace Buffer

/-- The least room a buffer grows to. -/
def leastGrowth : Nat := 8

/-- The room of a buffer after it had to hold `length` bytes: if it grows, then at least to twice
what it was, so that the cost of growing stays in proportion. -/
def grown (capacity length : Nat) : Nat :=
  if length ≤ capacity then capacity else max (max (2 * capacity) length) leastGrowth

/-- A buffer with more bytes at its end. -/
def append (buffer : Buffer) (bytes : Bytes) : Buffer :=
  { buffer with
    content := buffer.content ++ bytes
    capacity := grown buffer.capacity (buffer.content.length + bytes.length) }

/-- A buffer cut to at most `length` bytes. -/
def truncate (buffer : Buffer) (length : Nat) : Buffer :=
  { buffer with content := buffer.content.take length }

/-- A buffer with nothing in it, and its room as it was. -/
def cleared (buffer : Buffer) : Buffer := { buffer with content := [] }

end Buffer

/-! ## Pools -/

/-- **A pool of buffers**. -/
structure BufferPool where
  /-- How many buffers it keeps at most. -/
  capacity : Nat
  /-- How much room a new buffer has. -/
  bufferSize : Nat
  /-- How much room a buffer may have to be kept. -/
  maxRetained : Nat
  /-- The buffers that nobody holds, the latest first. -/
  idle : List Buffer
  /-- Whether the pool is closed. -/
  closed : Bool
  /-- The mark of the next new buffer. -/
  nextMark : Nat
deriving DecidableEq

namespace BufferPool

/-- A pool with no buffers yet. -/
def fresh (capacity bufferSize maxRetained : Nat) : BufferPool :=
  ⟨capacity, bufferSize, maxRetained, [], false, 0⟩

/-- How many buffers nobody holds. -/
def idleCount (pool : BufferPool) : Nat := pool.idle.length

/-- How many bytes a pool sets aside for each buffer it may keep. -/
def bytesPerBuffer : Nat := 32

/-- **A new pool**, if there can be room to keep so many buffers. -/
def create (capacity bufferSize maxRetained : Nat) : Except RoomError BufferPool :=
  if roomLimit < bytesPerBuffer * capacity then .error .tooLarge
  else .ok (fresh capacity bufferSize maxRetained)

/-- A pool like this one that has no buffers yet. -/
def anew (pool : BufferPool) : BufferPool :=
  fresh pool.capacity pool.bufferSize pool.maxRetained

/-- A buffer that has never been handed out. -/
def newBuffer (pool : BufferPool) (room : Nat) : Except RoomError Buffer × BufferPool :=
  if roomLimit < room then (.error .tooLarge, pool)
  else (.ok ⟨pool.nextMark, [], room⟩, { pool with nextMark := pool.nextMark + 1 })

/-- **Takes a buffer**: the one that came back last, or a new one if there is none. -/
def acquire (pool : BufferPool) : Except RoomError Buffer × BufferPool :=
  match pool.idle with
  | buffer :: rest => (.ok buffer, { pool with idle := rest })
  | [] => pool.newBuffer pool.bufferSize

/-- Whether a buffer that comes back is kept. -/
def keeps (pool : BufferPool) (buffer : Buffer) : Bool :=
  decide (buffer.capacity ≤ pool.maxRetained) && !pool.closed
    && decide (pool.idleCount < pool.capacity)

/-- **Gives a buffer back**; the pool keeps it emptied, or drops it. -/
def release (pool : BufferPool) (buffer : Buffer) : BufferPool :=
  if pool.keeps buffer then { pool with idle := buffer.cleared :: pool.idle } else pool

/-- **Closes the pool** and drops the buffers that nobody holds, whose number is given. -/
def drain (pool : BufferPool) : Nat × BufferPool :=
  (pool.idleCount, { pool with idle := [], closed := true })

/-- The state of a pool for messages. -/
def summary (pool : BufferPool) : String :=
  "BufferPool \x7b idle: " ++ toString pool.idleCount ++ ", capacity: " ++ toString pool.capacity
    ++ ", closed: " ++ toString pool.closed ++ " \x7d"

end BufferPool

end Coffer
