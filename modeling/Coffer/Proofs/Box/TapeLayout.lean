import Coffer.Proofs.Box.Gates
import Coffer.Proofs.Key.Generation

/-!
# Proofs/Box/TapeLayout — what packing takes off the tape

Packing takes off the tape, one behind the other, the blocks that are no private key, the private
key, the access key and a nonce for each recipient, and nothing else.  So no byte is used twice
(`Packed.LaidOut`).  There is no box only where the tape ends in one of these or the tokens of a
recipient are too long (`Draft.Fails`), and one of the two always applies (`Draft.pack_layout`).
-/

namespace Coffer

open Cipher.Authenticated

/-! ## Drafts step by step -/

/-- **A step** in making up a draft. -/
inductive DraftStep
  /-- One more recipient. -/
  | recipient (recipient : Recipient)
  /-- Several more recipients. -/
  | recipients (recipients : List Recipient)
  /-- One more policy. -/
  | policy (policy : ContainerPolicy)
  /-- Several more policies. -/
  | policies (policies : List ContainerPolicy)

namespace DraftStep

/-- The draft after a step. -/
def apply (draft : Draft) : DraftStep → Draft
  | .recipient added => draft.addRecipient added
  | .recipients added => draft.addRecipients added
  | .policy added => draft.addPolicy added
  | .policies added => draft.addPolicies added

/-- The recipients that a step brings. -/
def newRecipients : DraftStep → List Recipient
  | .recipient added => [added]
  | .recipients added => added
  | _ => []

/-- The policies that a step brings. -/
def newPolicies : DraftStep → List ContainerPolicy
  | .policy added => [added]
  | .policies added => added
  | _ => []

theorem apply_eq (draft : Draft) (step : DraftStep) :
    apply draft step
      = ⟨draft.recipients ++ step.newRecipients, draft.policies ++ step.newPolicies⟩ := by
  cases step <;>
    simp [apply, Draft.addRecipient, Draft.addRecipients, Draft.addPolicy, Draft.addPolicies,
      newRecipients, newPolicies]

end DraftStep

/-- The draft that steps make up. -/
def Draft.ofSteps (steps : List DraftStep) : Draft := steps.foldl DraftStep.apply Draft.empty

/-- **A draft holds what its steps brought**, recipients and policies each in order. -/
theorem Draft.ofSteps_eq (steps : List DraftStep) :
    ofSteps steps
      = ⟨steps.flatMap DraftStep.newRecipients, steps.flatMap DraftStep.newPolicies⟩ := by
  have hfold (draft : Draft) : steps.foldl DraftStep.apply draft
      = ⟨draft.recipients ++ steps.flatMap DraftStep.newRecipients,
        draft.policies ++ steps.flatMap DraftStep.newPolicies⟩ := by
    induction steps generalizing draft with
    | nil => simp
    | cons step steps ih =>
      rw [List.foldl_cons, ih, DraftStep.apply_eq]
      simp only [List.flatMap_cons, List.append_assoc]
  exact hfold Draft.empty

/-! ## The whole tape -/

/-- Where on a tape the private key ends. -/
def Tape.keyEnd (tape : Tape) : Nat := PrivateKey.size * (tape.rejected + 1)

/-- The access key on a tape: the bytes behind the private key. -/
def Tape.accessKey (tape : Tape) : Bytes := (tape.remaining.drop tape.keyEnd).take accessKeySize

/-- Where on a tape the access key and the nonces of some recipients end. -/
def Tape.noncesEnd (tape : Tape) (count : Nat) : Nat :=
  tape.keyEnd + accessKeySize + nonceSize * count

theorem Tape.noncesEnd_zero_le (tape : Tape) (count : Nat) :
    tape.noncesEnd 0 ≤ tape.noncesEnd count :=
  Nat.add_le_add_left (Nat.mul_le_mul_left _ count.zero_le) _

/-- **A packed box is laid out on a tape**: the rejected blocks, the private key, the access key and
the nonces of the gates lie one behind the other, and the box is made of these, the recipients and
the policies. -/
structure Packed.LaidOut (packed : Packed) (draft : Draft) (tape rest : Tape) : Prop where
  /-- What lies on the tape, and what is left of it. -/
  tape : tape.remaining = tape.remaining.take (PrivateKey.size * tape.rejected)
    ++ packed.secrets.privateKey.encode ++ packed.secrets.accessKey
    ++ Gate.nonces packed.box.gates ++ rest.remaining
  /-- The access key has 32 bytes. -/
  length_accessKey : packed.secrets.accessKey.length = accessKeySize
  /-- The box carries the packer's key. -/
  ownerKey : packed.box.ownerKey = packed.secrets.privateKey.publicKey.encode
  /-- There is a gate for each recipient, in order. -/
  gates : List.Forall₂ (Gate.SealedFor packed.secrets.privateKey packed.secrets.accessKey)
    draft.recipients packed.box.gates
  /-- The policies are those of the draft, in order. -/
  policies : packed.box.policies = draft.policies.map ContainerPolicy.toStored

/-- **Why there is no box**: the tape ends too early, or the tokens of a recipient are too long. -/
inductive Draft.Fails (draft : Draft) (tape : Tape) : PackError → Prop
  /-- The tape ends before the private key does. -/
  | noPrivateKey (hend : tape.remaining.length < tape.keyEnd) : Fails draft tape .noPrivateKey
  /-- The tape ends in the access key. -/
  | noAccessKey (hkey : tape.keyEnd ≤ tape.remaining.length)
      (hend : tape.remaining.length < tape.noncesEnd 0) :
    Fails draft tape (.box (.key .sourceExhausted))
  /-- The tape ends in the nonce of a recipient, and all before it fit. -/
  | noNonce {before after : List Recipient} {recipient : Recipient}
      (hrecipients : draft.recipients = before ++ recipient :: after)
      (hfits : ∀ earlier ∈ before, earlier.Fits tape.accessKey)
      (hnonces : tape.noncesEnd before.length ≤ tape.remaining.length)
      (hend : tape.remaining.length < tape.noncesEnd (before.length + 1)) :
    Fails draft tape (.box (.key .sourceExhausted))
  /-- The tokens of a recipient are too long, and all before it fit. -/
  | tooLong {before after : List Recipient} {recipient : Recipient}
      (hrecipients : draft.recipients = before ++ recipient :: after)
      (hfits : ∀ earlier ∈ before, earlier.Fits tape.accessKey)
      (hnonces : tape.noncesEnd (before.length + 1) ≤ tape.remaining.length)
      (hlong : ¬ recipient.Fits tape.accessKey) :
    Fails draft tape (.box (.key .encryption))

namespace Draft

variable {draft : Draft} {tape rest : Tape} {packed : Packed}

/-- **With a private key**, a draft is packed just when the access key and all gates are made. -/
theorem run_packWith_eq_ok_iff {packer : PrivateKey} :
    (draft.packWith packer).run tape = .ok (packed, rest)
      ↔ packed.secrets.privateKey = packer
        ∧ tape.remaining
          = packed.secrets.accessKey ++ Gate.nonces packed.box.gates ++ rest.remaining
        ∧ packed.secrets.accessKey.length = accessKeySize
        ∧ packed.box.ownerKey = packer.publicKey.encode
        ∧ List.Forall₂ (Gate.SealedFor packer packed.secrets.accessKey) draft.recipients
          packed.box.gates
        ∧ packed.box.policies = draft.policies.map ContainerPolicy.toStored := by
  simp only [packWith, StateT.run_bind_eq_ok_iff, StateT.run_pure_eq_ok_iff,
    Tape.run_secret_eq_ok_iff, Tape.take?_eq_some_iff, run_mapM_makeGate_eq_ok_iff]
  constructor
  · rintro ⟨accessKey, after, ⟨hlength, htape⟩, gates, _, ⟨hgates, hafter⟩, rfl, rfl⟩
    refine ⟨rfl, ?_, hlength, rfl, hgates, rfl⟩
    rw [htape, hafter, List.append_assoc]
  · rintro ⟨rfl, htape, hlength, hkey, hgates, hpolicies⟩
    rw [List.append_assoc] at htape
    refine ⟨packed.secrets.accessKey, ⟨Gate.nonces packed.box.gates ++ rest.remaining⟩,
      ⟨hlength, htape⟩, packed.box.gates, rest, ⟨hgates, rfl⟩, ?_, rfl⟩
    rw [← hkey, ← hpolicies]

/-- **A draft is packed** just when the box is laid out on the tape. -/
theorem pack_eq_ok_iff :
    draft.pack tape = .ok (packed, rest) ↔ packed.LaidOut draft tape rest := by
  have hgenerate : draft.pack tape = .ok (packed, rest) ↔ ∃ after,
      PrivateKey.generate? tape = some (packed.secrets.privateKey, after)
        ∧ (draft.packWith packed.secrets.privateKey).run after = .ok (packed, rest) := by
    rw [pack]
    cases hkey : PrivateKey.generate? tape with
    | none => simp
    | some found =>
      obtain ⟨packer, after⟩ := found
      simp only [Except.mapError_eq_ok_iff, Option.some.injEq, Prod.mk.injEq]
      constructor
      · intro h
        obtain rfl := (run_packWith_eq_ok_iff.1 h).1
        exact ⟨after, ⟨rfl, rfl⟩, h⟩
      · rintro ⟨_, ⟨rfl, rfl⟩, h⟩
        exact h
  rw [hgenerate]
  simp only [PrivateKey.generate?_eq_some_iff, run_packWith_eq_ok_iff]
  constructor
  · rintro ⟨after, htape, -, hafter, hlength, hkey, hgates, hpolicies⟩
    refine ⟨?_, hlength, hkey, hgates, hpolicies⟩
    rw [hafter] at htape
    simpa only [List.append_assoc] using htape
  · rintro ⟨htape, hlength, hkey, hgates, hpolicies⟩
    refine ⟨⟨packed.secrets.accessKey ++ Gate.nonces packed.box.gates ++ rest.remaining⟩, ?_,
      trivial, rfl, hlength, hkey, hgates, hpolicies⟩
    simpa only [List.append_assoc] using htape

theorem run_packWith_eq_error_iff {packer : PrivateKey} {cause : KeyError} :
    (draft.packWith packer).run tape = .error cause
      ↔ (tape.remaining.length < accessKeySize ∧ cause = .sourceExhausted)
        ∨ ∃ (accessKey : Bytes) (after : Tape), accessKey.length = accessKeySize
          ∧ tape.remaining = accessKey ++ after.remaining
          ∧ (draft.recipients.mapM (Recipient.makeGate packer accessKey)).run after
            = .error cause := by
  simp only [packWith, StateT.run_bind_eq_error_iff, StateT.run_pure_ne_error,
    Tape.run_secret_eq_error_iff, Tape.run_secret_eq_ok_iff, Tape.take?_eq_some_iff, and_false,
    exists_false, or_false, and_assoc]

theorem pack_of_generate? {packer : PrivateKey} {after : Tape}
    (h : PrivateKey.generate? tape = some (packer, after)) :
    draft.pack tape
      = ((draft.packWith packer).run after).mapError fun cause => .box (.ofKeyError cause) := by
  rw [pack, h]

/-- What lies behind the private key. -/
theorem remaining_of_generate? {packer : PrivateKey} {after : Tape}
    (h : PrivateKey.generate? tape = some (packer, after)) :
    tape.remaining.length = tape.keyEnd + after.remaining.length
      ∧ tape.accessKey = after.remaining.take accessKeySize := by
  obtain ⟨front, hfront, htape⟩ := PrivateKey.exists_append_of_generate? h
  have hend : front.length = tape.keyEnd := hfront
  refine ⟨by rw [htape, List.length_append, hend], ?_⟩
  rw [Tape.accessKey, htape, List.drop_left' hend]

/-- **Where there is no box**, the draft fails in one of the four ways. -/
theorem fails_of_pack_eq_error {cause : PackError} (h : draft.pack tape = .error cause) :
    draft.Fails tape cause := by
  cases hgenerate : PrivateKey.generate? tape with
  | none =>
    rw [pack, hgenerate] at h
    cases h
    exact .noPrivateKey (PrivateKey.generate?_eq_none_iff.1 hgenerate)
  | some found =>
    obtain ⟨packer, after⟩ := found
    obtain ⟨hlength, haccess⟩ := remaining_of_generate? hgenerate
    rw [pack_of_generate? hgenerate, Except.mapError_eq_error_iff] at h
    obtain ⟨found, hrun, rfl⟩ := h
    obtain ⟨hend, rfl⟩ | ⟨accessKey, rest, haccessLength, hafter, hgates⟩ :=
      run_packWith_eq_error_iff.1 hrun
    · exact .noAccessKey (by omega) (by rw [Tape.noncesEnd]; omega)
    · have hkey : tape.accessKey = accessKey := by
        rw [haccess, hafter, List.take_left' haccessLength]
      have hrest := congrArg List.length hafter
      rw [List.length_append, haccessLength] at hrest
      rw [← hkey] at hgates
      obtain ⟨before, recipient, others, hrecipients, hfits, hle, hcause⟩ :=
        run_mapM_makeGate_eq_error_iff.1 hgates
      have hnonces : tape.noncesEnd before.length ≤ tape.remaining.length := by
        rw [Tape.noncesEnd]
        omega
      obtain ⟨hend, rfl⟩ | ⟨hle, hlong, rfl⟩ := hcause
      · exact .noNonce hrecipients hfits hnonces (by rw [Tape.noncesEnd]; omega)
      · exact .tooLong hrecipients hfits (by rw [Tape.noncesEnd]; omega) hlong

theorem exists_generate?_eq (h : tape.keyEnd ≤ tape.remaining.length) :
    ∃ packer after, PrivateKey.generate? tape = some (packer, after) := by
  cases hgenerate : PrivateKey.generate? tape with
  | none => exact absurd (PrivateKey.generate?_eq_none_iff.1 hgenerate) (Nat.not_lt.2 h)
  | some found => exact ⟨found.1, found.2, rfl⟩

/-- Where the gates are not all made, there is no box. -/
theorem pack_eq_error_of_gates (cause : KeyError)
    (hle : tape.noncesEnd 0 ≤ tape.remaining.length)
    (hgates : ∀ (packer : PrivateKey) (rest : Tape),
      tape.remaining.length = tape.noncesEnd 0 + rest.remaining.length →
        (draft.recipients.mapM (Recipient.makeGate packer tape.accessKey)).run rest
          = .error cause) :
    draft.pack tape = .error (.box (.ofKeyError cause)) := by
  rw [Tape.noncesEnd] at hle hgates
  obtain ⟨packer, after, hgenerate⟩ := exists_generate?_eq (by omega : tape.keyEnd ≤ _)
  obtain ⟨hlength, haccess⟩ := remaining_of_generate? hgenerate
  have hkey : tape.accessKey.length = accessKeySize := by
    rw [haccess, List.length_take_of_le (by omega)]
  have hafter : after.remaining = tape.accessKey ++ after.remaining.drop accessKeySize := by
    rw [haccess, List.take_append_drop]
  have hrest : (after.remaining.drop accessKeySize).length
      = after.remaining.length - accessKeySize := List.length_drop
  have hrun := hgates packer ⟨after.remaining.drop accessKeySize⟩ (by simp only [hrest]; omega)
  rw [pack_of_generate? hgenerate,
    run_packWith_eq_error_iff.2 (.inr ⟨tape.accessKey, _, hkey, hafter, hrun⟩)]
  rfl

/-- **Where a draft fails**, there is no box. -/
theorem Fails.pack_eq_error {cause : PackError} (h : draft.Fails tape cause) :
    draft.pack tape = .error cause := by
  cases h with
  | noPrivateKey hend => rw [pack, PrivateKey.generate?_eq_none_iff.2 hend]
  | noAccessKey hkey hend =>
    obtain ⟨packer, after, hgenerate⟩ := exists_generate?_eq hkey
    obtain ⟨hlength, -⟩ := remaining_of_generate? hgenerate
    have hshort : after.remaining.length < accessKeySize := by
      rw [Tape.noncesEnd] at hend
      omega
    rw [pack_of_generate? hgenerate, run_packWith_eq_error_iff.2 (.inl ⟨hshort, rfl⟩)]
    rfl
  | @noNonce before after recipient hrecipients hfits hnonces hend =>
    refine pack_eq_error_of_gates .sourceExhausted ((tape.noncesEnd_zero_le _).trans hnonces)
      fun packer rest hlength => ?_
    simp only [Tape.noncesEnd] at hnonces hend hlength
    exact run_mapM_makeGate_eq_error_iff.2 ⟨before, recipient, after, hrecipients, hfits,
      by omega, .inl ⟨by omega, rfl⟩⟩
  | @tooLong before after recipient hrecipients hfits hnonces hlong =>
    refine pack_eq_error_of_gates .encryption ((tape.noncesEnd_zero_le _).trans hnonces)
      fun packer rest hlength => ?_
    simp only [Tape.noncesEnd, Nat.mul_succ] at hnonces hlength
    exact run_mapM_makeGate_eq_error_iff.2 ⟨before, recipient, after, hrecipients, hfits,
      by omega, .inr ⟨by rw [Nat.mul_succ]; omega, hlong, rfl⟩⟩

end Draft

/-! ## Where everything lies -/

namespace Packed.LaidOut

variable {packed : Packed} {draft : Draft} {tape rest : Tape}

theorem generate?_eq (h : packed.LaidOut draft tape rest) :
    PrivateKey.generate? tape = some (packed.secrets.privateKey,
      ⟨packed.secrets.accessKey ++ (Gate.nonces packed.box.gates ++ rest.remaining)⟩) := by
  rw [PrivateKey.generate?_eq_some_iff]
  simpa only [List.append_assoc] using h.tape

/-- **The access key** lies behind the private key. -/
theorem accessKey_eq (h : packed.LaidOut draft tape rest) :
    packed.secrets.accessKey = tape.accessKey := by
  rw [(Draft.remaining_of_generate? h.generate?_eq).2]
  exact (List.take_left' h.length_accessKey).symm

/-- **The nonces and what is left** lie behind the access key. -/
theorem drop_noncesEnd_zero (h : packed.LaidOut draft tape rest) :
    tape.remaining.drop (tape.noncesEnd 0) = Gate.nonces packed.box.gates ++ rest.remaining := by
  obtain ⟨front, hfront, htape⟩ := PrivateKey.exists_append_of_generate? h.generate?_eq
  have hend : (front ++ packed.secrets.accessKey).length = tape.noncesEnd 0 := by
    rw [List.length_append, hfront, h.length_accessKey]
    rfl
  rw [htape]
  dsimp only
  rw [← List.append_assoc, List.drop_left' hend]

/-- **The private key** is the block behind the rejected ones. -/
theorem privateKey_eq (h : packed.LaidOut draft tape rest) :
    packed.secrets.privateKey.encode
      = (tape.remaining.drop (PrivateKey.size * tape.rejected)).take PrivateKey.size := by
  have hlength := (Draft.remaining_of_generate? h.generate?_eq).1
  rw [Tape.keyEnd, Nat.mul_succ] at hlength
  have hfront : (tape.remaining.take (PrivateKey.size * tape.rejected)).length
      = PrivateKey.size * tape.rejected := List.length_take_of_le (by omega)
  have htape := h.tape
  simp only [List.append_assoc] at htape
  rw [htape, List.drop_left' hfront, List.take_left' (PrivateKey.length_encode _)]

/-- **What is taken off the tape** ends with the last nonce. -/
theorem length_remaining (h : packed.LaidOut draft tape rest) :
    tape.remaining.length = tape.noncesEnd draft.recipients.length + rest.remaining.length := by
  have hlength := (Draft.remaining_of_generate? h.generate?_eq).1
  simp only [List.length_append, h.length_accessKey, Gate.length_nonces h.gates] at hlength
  rw [hlength, Tape.noncesEnd]
  omega

/-- **Each gate** is sealed for the recipient at its place. -/
theorem exists_recipient (h : packed.LaidOut draft tape rest) {index : Nat} {gate : Gate}
    (hgate : packed.box.gates[index]? = some gate) :
    ∃ recipient, draft.recipients[index]? = some recipient
      ∧ gate.SealedFor packed.secrets.privateKey tape.accessKey recipient := by
  obtain ⟨hlt, rfl⟩ := List.getElem?_eq_some_iff.1 hgate
  have hlt' : index < draft.recipients.length := h.gates.length_eq ▸ hlt
  rw [← h.accessKey_eq]
  exact ⟨_, List.getElem?_eq_getElem hlt', h.gates.get hlt' hlt⟩

/-- **The nonces** lie behind the access key, in the order of the gates. -/
theorem nonce_eq (h : packed.LaidOut draft tape rest) {index : Nat} {gate : Gate}
    (hgate : packed.box.gates[index]? = some gate) :
    gate.nonce = (tape.remaining.drop (tape.noncesEnd index)).take nonceSize := by
  obtain ⟨recipient, -, hsealed⟩ := h.exists_recipient hgate
  obtain ⟨hlt, hget⟩ := List.getElem?_eq_some_iff.1 hgate
  have hsplit : Gate.nonces packed.box.gates = Gate.nonces (packed.box.gates.take index)
      ++ (gate.nonce ++ Gate.nonces (packed.box.gates.drop (index + 1))) := by
    conv_lhs => rw [← List.take_append_drop index packed.box.gates, List.drop_eq_getElem_cons hlt,
      hget]
    simp only [Gate.nonces, List.flatMap_append, List.flatMap_cons]
  have hbefore : (Gate.nonces (packed.box.gates.take index)).length = nonceSize * index := by
    rw [Gate.length_nonces (List.forall₂_take index h.gates), List.length_take_of_le]
    exact (h.gates.length_eq ▸ hlt).le
  have hend : tape.noncesEnd index = tape.noncesEnd 0 + nonceSize * index := rfl
  rw [hend, ← List.drop_drop, h.drop_noncesEnd_zero, hsplit, List.append_assoc,
    List.drop_left' hbefore, List.append_assoc, List.take_left' hsealed.length_nonce]

end Packed.LaidOut

/-- **Packing uses each byte of the tape at most once, and gives all or nothing.**  A draft is what
its steps brought, recipients and policies each in order.  It is packed just when the box is laid
out on the tape: the private key is the block behind the rejected ones, the access key the bytes
behind it, and the nonce of each gate, one for each recipient in order, the next twenty-four; that
is all that is taken.  Otherwise the tape ends too early or the tokens of a recipient are too
long. -/
theorem Draft.pack_layout (steps : List DraftStep) (tape : Tape) :
    let recipients := steps.flatMap DraftStep.newRecipients
    let policies := steps.flatMap DraftStep.newPolicies
    let draft := Draft.ofSteps steps
    draft = ⟨recipients, policies⟩
      ∧ (policies = [] → Coffer.pack recipients tape = draft.pack tape)
      ∧ (∀ packed rest, draft.pack tape = .ok (packed, rest) ↔ packed.LaidOut draft tape rest)
      ∧ (∀ packed rest, draft.pack tape = .ok (packed, rest) →
        tape.remaining.length = tape.noncesEnd recipients.length + rest.remaining.length
          ∧ packed.secrets.privateKey.encode
            = (tape.remaining.drop (PrivateKey.size * tape.rejected)).take PrivateKey.size
          ∧ packed.secrets.accessKeyText = Hex.encode tape.accessKey
          ∧ packed.box.gates.length = recipients.length
          ∧ ∀ index gate, packed.box.gates[index]? = some gate →
            gate.nonce = (tape.remaining.drop (tape.noncesEnd index)).take nonceSize
              ∧ ∃ recipient, recipients[index]? = some recipient
                ∧ gate.publicKey = recipient.publicKey.encode
                ∧ gate.tokens.length
                  = nonceSize + tagSize + (recipient.tokens tape.accessKey).encode.length)
      ∧ ∀ cause, draft.pack tape = .error cause ↔ draft.Fails tape cause := by
  intro recipients policies draft
  have hdraft : draft = ⟨recipients, policies⟩ := Draft.ofSteps_eq steps
  refine ⟨hdraft, fun hnone => ?_, fun packed rest => Draft.pack_eq_ok_iff,
    fun packed rest h => ?_, fun cause =>
      ⟨Draft.fails_of_pack_eq_error, Draft.Fails.pack_eq_error⟩⟩
  · rw [hdraft, hnone]
    rfl
  · have hlaid := Draft.pack_eq_ok_iff.1 h
    have hrecipients : draft.recipients = recipients := congrArg Draft.recipients hdraft
    rw [← hrecipients]
    refine ⟨hlaid.length_remaining, hlaid.privateKey_eq, congrArg Hex.encode hlaid.accessKey_eq,
      hlaid.gates.length_eq.symm, fun index gate hgate => ⟨hlaid.nonce_eq hgate, ?_⟩⟩
    obtain ⟨recipient, hrecipient, hsealed⟩ := hlaid.exists_recipient hgate
    exact ⟨recipient, hrecipient, hsealed.publicKey, hsealed.length_tokens⟩

/-- A tape that begins with a rejected block, for two recipients between whom a policy comes; and
one that ends in the nonce of the second. -/
theorem Draft.pack_layout_rejected_block :
    let mine : PublicKey := (⟨1, by decide, by decide⟩ : PrivateKey).publicKey
    let steps : List DraftStep := [.recipient ⟨mine, [1], none⟩,
      .policy ⟨"é", .ofRules [⟨1, "a"⟩] 2⟩, .recipients [⟨mine, [2], some [3]⟩]]
    let tape : Tape := ⟨List.replicate 32 0 ++ List.replicate 200 7⟩
    let shorter : Tape := ⟨List.replicate 32 0 ++ List.replicate 100 7⟩
    (∃ packed rest, (Draft.ofSteps steps).pack tape = .ok (packed, rest)
      ∧ packed.box.gates.length = 2 ∧ rest.remaining.length = 88)
      ∧ (Draft.ofSteps steps).pack shorter = .error (.box (.key .sourceExhausted)) := by
  intro mine steps tape shorter
  constructor
  · obtain ⟨⟨packed, rest⟩, hpack⟩ : ∃ result, (Draft.ofSteps steps).pack tape = .ok result :=
      Except.exists_eq_ok_of_isOk (by decide +kernel)
    obtain ⟨-, -, -, hlaid, -⟩ := Draft.pack_layout steps tape
    obtain ⟨hlength, -, -, hgates, -⟩ := hlaid packed rest hpack
    have hend : tape.noncesEnd (steps.flatMap DraftStep.newRecipients).length = 144 := by
      decide +kernel
    have htotal : tape.remaining.length = 232 := by decide +kernel
    exact ⟨packed, rest, hpack, hgates, by omega⟩
  · obtain ⟨-, -, -, -, hfails⟩ := Draft.pack_layout steps shorter
    have hrecipients : (Draft.ofSteps steps).recipients
        = [⟨mine, [1], none⟩] ++ ⟨mine, [2], some [3]⟩ :: [] := rfl
    refine (hfails _).2 (.noNonce hrecipients ?_ ?_ ?_)
    · exact List.forall_mem_singleton.2 (by decide +kernel)
    · decide +kernel
    · decide +kernel

end Coffer
