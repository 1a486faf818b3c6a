import Mathlib.Algebra.BigOperators.Group.List.Basic
import Coffer.Cbor.Item
import Coffer.Proofs.Bytes

/-!
# Proofs/Cbor/RoundTrip — heads, strings and sequences read back

A head that is written in the fewest bytes is read in any number, so it reads back, whatever follows
(`Head.read_write_append`).  A string of announced length reads back behind its head, and so does a
sequence whose elements do (`readSequence_flatMap`).
-/

namespace Coffer.Cbor

/-! ## Heads -/

namespace Head

/-- How many numbers a head can carry: `2 ^ 64`. -/
def numberLimit : Nat := 0x10000000000000000

theorem readNumber_bigEndian_append {size number : Nat} (h : number < 256 ^ size) (rest : Bytes) :
    readNumber size (Bytes.bigEndian size number ++ rest) = some (number, rest) := by
  have hlength := Bytes.length_bigEndian size number
  simp only [readNumber, List.splitAt_eq]
  rw [List.take_left' hlength, List.drop_left' hlength, if_neg (by omega),
    Bytes.ofBigEndian_bigEndian, Nat.mod_eq_of_lt h]

/-- A head whose first byte announces its number. -/
theorem read_cons {major low number : Nat} {bytes rest : Bytes} {head : Head} (hmajor : major < 8)
    (hlow : low < 32) (hnumber : readArgument low bytes = some (some number, rest))
    (hhead : ofArgument? major low (some number) = some head) :
    read (UInt8.ofNat (32 * major + low) :: bytes) = some (head, rest) := by
  have hfirst : (UInt8.ofNat (32 * major + low)).toNat = 32 * major + low := by
    rw [UInt8.toNat_ofNat']
    omega
  have hmod : (32 * major + low) % 32 = low := by omega
  have hdiv : (32 * major + low) / 32 = major := by omega
  simp only [read, hfirst, hmod, hdiv, hnumber, hhead, bind, Option.bind]
  rfl

/-- **A head reads back**, and what follows it is left. -/
theorem read_write_append {major number : Nat} {head : Head} (hmajor : major < 8)
    (hnumber : number < numberLimit)
    (hhead : ∀ low, ofArgument? major low (some number) = some head) (rest : Bytes) :
    read (write major number ++ rest) = some (head, rest) := by
  have hwide : ∀ (step : Nat), step < 4 → number < 256 ^ (1 <<< step) →
      read (UInt8.ofNat (32 * major + (24 + step))
        :: (Bytes.bigEndian (1 <<< step) number ++ rest)) = some (head, rest) := by
    intro step hstep hfits
    refine read_cons hmajor (by omega) ?_ (hhead _)
    rw [readArgument, if_neg (by omega), if_pos (by omega), Nat.add_sub_cancel_left,
      readNumber_bigEndian_append hfits]
    rfl
  simp only [numberLimit] at hnumber
  simp only [write]
  split
  · rename_i hlt
    refine read_cons hmajor (by omega) ?_ (hhead _)
    rw [readArgument, if_pos hlt]
    rfl
  · split
    · exact hwide 0 (by decide) (by simpa using ‹_›)
    · split
      · exact hwide 1 (by decide) (by simpa using ‹_›)
      · split
        · exact hwide 2 (by decide) (by simpa using ‹_›)
        · exact hwide 3 (by decide) (by simpa using hnumber)

theorem write_ne_nil (major number : Nat) : write major number ≠ [] := by
  simp only [write]
  split_ifs <;> simp

end Head

theorem readUntagged_of_read {bytes rest : Bytes} {head : Head}
    (h : Head.read bytes = some (head, rest)) (huntagged : ∀ number, head ≠ .tag number) :
    readUntagged bytes = some (head, rest) := by
  rw [readUntagged]
  split
  · rename_i number after htag
    rw [h] at htag
    cases htag
    exact absurd rfl (huntagged number)
  · exact h

/-! ## Strings -/

theorem readPiece_append {isText : Bool} {content : Bytes}
    (h : isText = true → (Text.Utf8.decode? content).isSome) (rest : Bytes) :
    readPiece isText content.length (content ++ rest) = some (content, rest) := by
  simp only [readPiece, List.splitAt_eq, List.take_left', List.drop_left', lt_self_iff_false,
    ↓reduceIte]
  rw [if_neg]
  cases isText with
  | false => simp
  | true => simpa using Option.isSome_iff_ne_none.1 (h rfl)

/-! ## Sequences -/

variable {α : Type} {element : Bytes → Option (α × Bytes)}

theorem readElements_flatMap {β : Type} {items : List β} {write : β → Bytes} {value : β → α}
    (h : ∀ item ∈ items, ∀ rest, element (write item ++ rest) = some (value item, rest))
    {fuel : Nat} (hfuel : items.length < fuel) (rest : Bytes) :
    readElements element fuel (some items.length) (items.flatMap write ++ rest)
      = some (items.map value, rest) := by
  induction items generalizing fuel with
  | nil =>
    obtain ⟨fuel, rfl⟩ : ∃ n, fuel = n + 1 := ⟨fuel - 1, by simp at hfuel; omega⟩
    rfl
  | cons item items ih =>
    obtain ⟨fuel, rfl⟩ : ∃ n, fuel = n + 1 := ⟨fuel - 1, by omega⟩
    have hothers := ih (fun other hmem => h other (List.mem_cons_of_mem item hmem))
      (Nat.lt_of_succ_lt_succ hfuel)
    rw [List.flatMap_cons, List.append_assoc, List.length_cons, readElements,
      h item List.mem_cons_self]
    simp only [bind, Option.bind, hothers, pure, List.map_cons]

/-- **A sequence of announced size reads back** if its elements do and none of them is empty. -/
theorem readSequence_flatMap {β : Type} {items : List β} {write : β → Bytes} {value : β → α}
    (h : ∀ item ∈ items, ∀ rest, element (write item ++ rest) = some (value item, rest))
    (hne : ∀ item ∈ items, write item ≠ []) (rest : Bytes) :
    readSequence element (some items.length) (items.flatMap write ++ rest)
      = some (items.map value, rest) := by
  refine readElements_flatMap h ?_ rest
  have hlength : items.length ≤ (items.flatMap write).length := by
    rw [List.length_flatMap]
    have hsum := List.length_le_sum_of_one_le (items.map fun item => (write item).length) ?_
    · rwa [List.length_map] at hsum
    · intro length hmem
      obtain ⟨item, hitem, rfl⟩ := List.mem_map.1 hmem
      exact List.length_pos_iff.2 (hne item hitem)
  rw [List.length_append]
  omega

end Coffer.Cbor
