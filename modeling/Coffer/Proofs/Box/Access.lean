import Coffer.Proofs.Box.Extension
import Coffer.Proofs.Box.Packing

/-!
# Proofs/Box/Access — what the holder of a key can learn of a box

Whoever asks for the content of its gate is answered in one of five ways (`AccessBox.Answers`), and
the packer's key and the first gate for its own key decide in which.  Other gates, later gates for
the same key and the policies are not looked at (`AccessBox.gateContent_sees`).
-/

namespace Coffer.AccessBox

open Cipher.Authenticated

variable {box : AccessBox} {mine : PrivateKey} {answer : Except BoxError GateContent}

/-! ## The first gate -/

/-- **The first gate for a key**: it carries the key, and no gate before it does. -/
def FirstGate (box : AccessBox) (key : PublicKey) (gate : Gate) : Prop :=
  gate.publicKey = key.encode ∧ ∃ before after, box.gates = before ++ gate :: after
    ∧ ∀ earlier ∈ before, earlier.publicKey ≠ key.encode

theorem gateFor?_eq_some_iff {key : PublicKey} {gate : Gate} :
    box.gateFor? key = some gate ↔ box.FirstGate key gate := by
  simp [gateFor?, FirstGate, List.find?_eq_some_iff_append]

theorem gateFor?_eq_none_iff {key : PublicKey} :
    box.gateFor? key = none ↔ ∀ gate ∈ box.gates, gate.publicKey ≠ key.encode := by
  simp [gateFor?]

/-! ## The answers -/

/-- **How a caller is answered**, according to the packer's key and the first gate for its own. -/
inductive Answers (box : AccessBox) (mine : PrivateKey) : Except BoxError GateContent → Prop
  /-- The packer's key is no public key. -/
  | unreadable {cause : KeyError} (hpacker : PublicKey.decode box.ownerKey = .error cause) :
    Answers box mine (.error (.malformedOwnerKey cause))
  /-- No gate is for the caller. -/
  | unmatched {packer : PublicKey} (hpacker : PublicKey.decode box.ownerKey = .ok packer)
      (hnone : ∀ gate ∈ box.gates, gate.publicKey ≠ mine.publicKey.encode) :
    Answers box mine (.error (.noMatchingGate mine.publicKey.toHex))
  /-- The first gate for the caller does not open. -/
  | shut {packer : PublicKey} {key : SymmetricKey} {gate : Gate}
      (hpacker : PublicKey.decode box.ownerKey = .ok packer)
      (hkey : mine.symmetricKey packer = .ok key) (hgate : box.FirstGate mine.publicKey gate)
      (hshut : ∀ bytes, key.openMessage gate.tokens ≠ .ok bytes) :
    Answers box mine (.error .authenticationFailed)
  /-- It opens, but there are no tokens inside. -/
  | garbled {packer : PublicKey} {key : SymmetricKey} {gate : Gate} {bytes : Bytes}
      {fault : Wire.Fault} (hpacker : PublicKey.decode box.ownerKey = .ok packer)
      (hkey : mine.symmetricKey packer = .ok key) (hgate : box.FirstGate mine.publicKey gate)
      (hopen : key.openMessage gate.tokens = .ok bytes)
      (htokens : Tokens.decode bytes = .error fault) :
    Answers box mine (.error (.malformed fault))
  /-- There are tokens inside. -/
  | opened {packer : PublicKey} {key : SymmetricKey} {gate : Gate} {bytes : Bytes}
      {tokens : Tokens} (hpacker : PublicKey.decode box.ownerKey = .ok packer)
      (hkey : mine.symmetricKey packer = .ok key) (hgate : box.FirstGate mine.publicKey gate)
      (hopen : key.openMessage gate.tokens = .ok bytes)
      (htokens : Tokens.decode bytes = .ok tokens) :
    Answers box mine (.ok (.ofTokens mine.publicKey tokens))

theorem gateContent_of_decode_eq_error {cause : KeyError}
    (hpacker : PublicKey.decode box.ownerKey = .error cause) :
    box.gateContent mine = .error (.malformedOwnerKey cause) := by
  simp only [gateContent, hpacker, Except.mapError, bind, Except.bind]

/-- **One of the five answers is given**, since every agreement ends with a key. -/
theorem answers_gateContent (box : AccessBox) (mine : PrivateKey) :
    box.Answers mine (box.gateContent mine) := by
  cases hpacker : PublicKey.decode box.ownerKey with
  | error cause =>
    rw [gateContent_of_decode_eq_error hpacker]
    exact .unreadable hpacker
  | ok packer =>
    cases hfind : box.gateFor? mine.publicKey with
    | none =>
      rw [gateContent_of_gateFor?_eq_none hpacker hfind]
      exact .unmatched hpacker (gateFor?_eq_none_iff.1 hfind)
    | some gate =>
      have hgate := gateFor?_eq_some_iff.1 hfind
      obtain ⟨key, hkey⟩ := mine.exists_symmetricKey_eq packer
      rw [gateContent_of_gateFor?_eq_some hpacker hfind hkey]
      cases hopen : key.openMessage gate.tokens with
      | error cause => exact .shut hpacker hkey hgate fun bytes => by rw [hopen]; exact nofun
      | ok bytes =>
        cases htokens : Tokens.decode bytes with
        | error fault =>
          simp only [htokens]
          exact .garbled hpacker hkey hgate hopen htokens
        | ok tokens =>
          simp only [htokens]
          exact .opened hpacker hkey hgate hopen htokens

/-- **No other answer is given.** -/
theorem Answers.gateContent_eq (h : box.Answers mine answer) : box.gateContent mine = answer := by
  cases h with
  | unreadable hpacker => exact gateContent_of_decode_eq_error hpacker
  | unmatched hpacker hnone =>
    exact gateContent_of_gateFor?_eq_none hpacker (gateFor?_eq_none_iff.2 hnone)
  | @shut packer key gate hpacker hkey hgate hshut =>
    rw [gateContent_of_gateFor?_eq_some hpacker (gateFor?_eq_some_iff.2 hgate) hkey]
    cases hopen : key.openMessage gate.tokens with
    | error cause => rfl
    | ok bytes => exact absurd hopen (hshut bytes)
  | garbled hpacker hkey hgate hopen htokens =>
    rw [gateContent_of_gateFor?_eq_some hpacker (gateFor?_eq_some_iff.2 hgate) hkey, hopen]
    simp only [htokens]
  | opened hpacker hkey hgate hopen htokens =>
    rw [gateContent_of_gateFor?_eq_some hpacker (gateFor?_eq_some_iff.2 hgate) hkey, hopen]
    simp only [htokens]

/-- **The holder of a key sees the packer's key and its own first gate.**  The answer is exactly the
one of the five that these two call for; boxes that agree in the two, whatever else there is in
them, answer alike; and a first gate that is too short to be sealed tokens does not open. -/
theorem gateContent_sees (mine : PrivateKey) (box : AccessBox) :
    (∀ answer, box.gateContent mine = answer ↔ box.Answers mine answer)
      ∧ (∀ other : AccessBox, ∀ gate, other.ownerKey = box.ownerKey →
        other.FirstGate mine.publicKey gate → box.FirstGate mine.publicKey gate →
          other.gateContent mine = box.gateContent mine)
      ∧ ∀ packer gate, PublicKey.decode box.ownerKey = .ok packer →
        box.FirstGate mine.publicKey gate → gate.tokens.length < nonceSize + tagSize →
          box.gateContent mine = .error .authenticationFailed := by
  refine ⟨fun answer => ⟨?_, Answers.gateContent_eq⟩, fun other gate hkey hother hbox => ?_,
    fun packer gate hpacker hgate hshort => ?_⟩
  · rintro rfl
    exact answers_gateContent box mine
  · exact gateContent_congr hkey
      ((gateFor?_eq_some_iff.2 hother).trans (gateFor?_eq_some_iff.2 hbox).symm)
  · obtain ⟨key, hkey⟩ := mine.exists_symmetricKey_eq packer
    refine (Answers.shut hpacker hkey hgate fun bytes hopen => ?_).gateContent_eq
    have hlong := (SymmetricKey.openMessage_eq_ok_iff.1 hopen).1
    omega

/-- A gate of one byte, alone in a box, and in another between a gate without a key and a second
gate for the same one. -/
theorem gateContent_sees_short_gate :
    let mine : PrivateKey := ⟨1, by decide, by decide⟩
    let packer : PublicKey := (⟨2, by decide, by decide⟩ : PrivateKey).publicKey
    let gate : Gate := ⟨mine.publicKey.encode, [9]⟩
    let box : AccessBox := ⟨packer.encode, [gate], []⟩
    let other : AccessBox :=
      ⟨packer.encode, [⟨[], [8]⟩, gate, ⟨gate.publicKey, [7]⟩], [⟨"é", [6]⟩]⟩
    PublicKey.decode box.ownerKey = .ok packer
      ∧ box.FirstGate mine.publicKey gate ∧ other.FirstGate mine.publicKey gate
      ∧ gate.tokens.length < nonceSize + tagSize
      ∧ other.gateContent mine = .error .authenticationFailed := by
  intro mine packer gate box other
  have hpacker : PublicKey.decode box.ownerKey = .ok packer := packer.decode_encode
  have hbox : box.FirstGate mine.publicKey gate := ⟨rfl, [], [], rfl, List.forall_mem_nil _⟩
  have hother : other.FirstGate mine.publicKey gate :=
    ⟨rfl, [⟨[], [8]⟩], _, rfl, List.forall_mem_singleton.2 (List.cons_ne_nil _ _).symm⟩
  obtain ⟨-, hsame, hshort⟩ := gateContent_sees mine box
  exact ⟨hpacker, hbox, hother, by decide,
    (hsame other gate rfl hother hbox).trans (hshort packer gate hpacker hbox (by decide))⟩

end Coffer.AccessBox
