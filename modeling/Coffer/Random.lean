import Coffer.Bytes

/-!
# Random — a tape of random bytes

Random bytes come from a **tape** and are taken from its front.  A request for more than is left
fails and takes nothing.
-/

namespace Coffer

/-- **A tape** of random bytes. -/
structure Tape where
  /-- The bytes not yet taken. -/
  remaining : Bytes
deriving DecidableEq

namespace Tape

/-- Takes `count` bytes off the front. -/
def take? (count : Nat) (tape : Tape) : Option (Bytes × Tape) :=
  if count ≤ tape.remaining.length then
    some (tape.remaining.take count, ⟨tape.remaining.drop count⟩)
  else none

theorem length_remaining_of_take? {count : Nat} {tape rest : Tape} {bytes : Bytes}
    (h : tape.take? count = some (bytes, rest)) :
    rest.remaining.length + count = tape.remaining.length := by
  unfold take? at h
  split at h
  · simp only [Option.some.injEq, Prod.mk.injEq] at h
    simp only [← h.2, List.length_drop]
    omega
  · simp at h

end Tape

end Coffer
