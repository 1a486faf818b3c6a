import Coffer.Json.Reader
import Coffer.Pool.Basic

/-!
# Service/Settings — the settings of the credential service

Settings are read from a JSON text: an object of which every member may be left out, or an array of
at most three numbers.  What is left out has its default.
-/

namespace Coffer

/-- **The settings** of the credential service. -/
structure Settings where
  /-- How many buffers nobody holds are kept at most. -/
  poolCapacity : Nat
  /-- How much room a new buffer has. -/
  bufferSize : Nat
  /-- How much room a buffer may have to be kept. -/
  maxRetained : Nat
deriving DecidableEq

namespace Settings

/-- The settings when nothing else is said. -/
def default : Settings := ⟨64, 4096, 1048576⟩

/-- A new pool as settings ask for, if there can be room for it. -/
def pool (settings : Settings) : Except RoomError BufferPool :=
  BufferPool.create settings.poolCapacity settings.bufferSize settings.maxRetained

/-- How many numbers a setting can be: `2 ^ 64`. -/
def numberLimit : Nat := 0x10000000000000000

/-- A setting: a natural number below the limit. -/
def number? (value : Json) : Option Nat := do
  let number ← value.natural?
  if number < numberLimit then some number else none

/-- A setting that may be left out. -/
def numberOr? (fallback : Nat) : Option Json → Option Nat
  | none => some fallback
  | some value => number? value

/-- The settings that a value stands for. -/
def ofJson? : Json → Option Settings
  | .object members => do
    return {
      poolCapacity :=
        ← numberOr? default.poolCapacity (← Json.member? "pool_capacity" members)
      bufferSize := ← numberOr? default.bufferSize (← Json.member? "buffer_size" members)
      maxRetained :=
        ← numberOr? default.maxRetained (← Json.member? "max_retained_size" members) }
  | .array items =>
    if items.length ≤ 3 then do
      return {
        poolCapacity := ← numberOr? default.poolCapacity items[0]?
        bufferSize := ← numberOr? default.bufferSize items[1]?
        maxRetained := ← numberOr? default.maxRetained items[2]? }
    else none
  | _ => none

/-- **Reads settings** from a JSON text. -/
def ofText? (text : String) : Option Settings := (Json.ofText? text).bind ofJson?

end Settings

end Coffer
