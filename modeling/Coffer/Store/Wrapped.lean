import Coffer.Store.Basic

/-!
# Store/Wrapped — a store that counts, and one that fails

A **counted** store passes every call on and counts it.  The **unavailable** store fails every call.
-/

namespace Coffer

/-- **A counted store**: a store and how often each of its calls was made. -/
structure Counted (σ : Type) where
  /-- The state of the store. -/
  inner : σ
  /-- How often a content was put. -/
  puts : Nat
  /-- How often a payload was asked for. -/
  gets : Nat
  /-- How often a header was asked for. -/
  heads : Nat
deriving DecidableEq

namespace Counted

variable {σ : Type}

/-- A store of which no call has been made. -/
def fresh (inner : σ) : Counted σ := ⟨inner, 0, 0, 0⟩

/-- How many calls have been made. -/
def calls (counted : Counted σ) : Nat := counted.puts + counted.gets + counted.heads

/-- Makes a call on the store inside. -/
def inside {α : Type} (call : StateM σ α) : StateM (Counted σ) α := fun counted =>
  let (answer, inner) := call.run counted.inner
  (answer, { counted with inner := inner })

instance [ObjectStore σ] : ObjectStore (Counted σ) where
  put content := do
    modify fun counted => { counted with puts := counted.puts + 1 }
    inside (ObjectStore.put content)
  get address := do
    modify fun counted => { counted with gets := counted.gets + 1 }
    inside (ObjectStore.get address)
  head address := do
    modify fun counted => { counted with heads := counted.heads + 1 }
    inside (ObjectStore.head address)

end Counted

/-- **The unavailable store**, which has no state. -/
inductive Unavailable
  | unavailable
deriving DecidableEq

namespace Unavailable

/-- The failure of every call. -/
def failure : StoreError := .io "backend unavailable"

instance : ObjectStore Unavailable where
  put _ := return .error failure
  get _ := return .error failure
  head _ := return .error failure

end Unavailable

end Coffer
