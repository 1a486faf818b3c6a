import Coffer.Box.Unpack
import Coffer.Proofs.Box.RoundTrip
import Coffer.Proofs.Wire.Grammar

/-!
# Proofs/Box/Policies — policies pass through a box unchanged

A placement policy is read back from its own bytes, and keeps the bytes that it was read from.  So
policies that are stored in a box, written and read come out as they went in, byte for byte; and the
policies of a box come out all together or not at all (`AccessBox.policies_unchanged`).
-/

namespace Coffer

open Wire

namespace ContainerPolicy

variable {stored : StoredPolicy} {policy : ContainerPolicy} {fault : Fault}

theorem ofStored_eq (stored : StoredPolicy) :
    ofStored stored = (PlacementPolicy.decode stored.policy).map (⟨stored.location, ·⟩) := by
  rw [ofStored]
  cases PlacementPolicy.decode stored.policy <;> rfl

/-- **What a stored policy holds**: its location, and the policy that its bytes are. -/
theorem ofStored_eq_ok_iff : ofStored stored = .ok policy
    ↔ policy.location = stored.location
      ∧ PlacementPolicy.decode stored.policy = .ok policy.policy := by
  rw [ofStored_eq, Except.map_eq_ok_iff]
  constructor
  · rintro ⟨placement, hdecode, rfl⟩
    exact ⟨rfl, hdecode⟩
  · rintro ⟨hlocation, hdecode⟩
    exact ⟨policy.policy, hdecode, by rw [← hlocation]⟩

theorem ofStored_eq_error_iff :
    ofStored stored = .error fault ↔ PlacementPolicy.decode stored.policy = .error fault := by
  rw [ofStored_eq]
  cases PlacementPolicy.decode stored.policy <;> simp [Except.map]

theorem exists_ofStored_eq_ok_iff : (∃ policy, ofStored stored = .ok policy)
    ↔ ∃ placement, PlacementPolicy.decode stored.policy = .ok placement := by
  rw [ofStored_eq]
  cases PlacementPolicy.decode stored.policy <;> simp [Except.map]

end ContainerPolicy

namespace AccessBox

/-- **The policies of a box come out all or none.** -/
structure AllOrNone (box : AccessBox) : Prop where
  /-- What comes out are all that are stored, in their order. -/
  gives : ∀ policies, box.containerPolicies = .ok policies
    ↔ List.Forall₂ (fun stored policy => policy.location = stored.location
        ∧ PlacementPolicy.decode stored.policy = .ok policy.policy) box.policies policies
  /-- Nothing comes out just when some bytes are no policy. -/
  refuses : (∃ cause, box.containerPolicies = .error cause)
    ↔ ∃ stored ∈ box.policies, ∃ fault, PlacementPolicy.decode stored.policy = .error fault
  /-- The cause is the fault of the first of them. -/
  first : ∀ cause, box.containerPolicies = .error cause
    ↔ ∃ before stored after fault, box.policies = before ++ stored :: after
      ∧ (∀ earlier ∈ before, ∃ policy, PlacementPolicy.decode earlier.policy = .ok policy)
      ∧ PlacementPolicy.decode stored.policy = .error fault ∧ cause = .malformed fault

variable {box : AccessBox}

theorem containerPolicies_eq_ok_iff {policies : List ContainerPolicy} :
    box.containerPolicies = .ok policies
      ↔ List.Forall₂ (fun stored policy => policy.location = stored.location
        ∧ PlacementPolicy.decode stored.policy = .ok policy.policy) box.policies policies := by
  simp only [containerPolicies, Except.mapError_eq_ok_iff, Except.mapM_eq_ok_iff,
    ContainerPolicy.ofStored_eq_ok_iff]

theorem containerPolicies_eq_error_iff {cause : BoxError} :
    box.containerPolicies = .error cause
      ↔ ∃ before stored after fault, box.policies = before ++ stored :: after
        ∧ (∀ earlier ∈ before, ∃ policy, PlacementPolicy.decode earlier.policy = .ok policy)
        ∧ PlacementPolicy.decode stored.policy = .error fault ∧ cause = .malformed fault := by
  simp only [containerPolicies, Except.mapError_eq_error_iff, Except.mapM_eq_error_iff,
    ContainerPolicy.exists_ofStored_eq_ok_iff, ContainerPolicy.ofStored_eq_error_iff]
  constructor
  · rintro ⟨fault, ⟨before, stored, after, hbox, hbefore, hfault⟩, rfl⟩
    exact ⟨before, stored, after, fault, hbox, hbefore, hfault, rfl⟩
  · rintro ⟨before, stored, after, fault, hbox, hbefore, hfault, rfl⟩
    exact ⟨fault, ⟨before, stored, after, hbox, hbefore, hfault⟩, rfl⟩

theorem allOrNone (box : AccessBox) : box.AllOrNone where
  gives _ := containerPolicies_eq_ok_iff
  first _ := containerPolicies_eq_error_iff
  refuses := by
    constructor
    · rintro ⟨cause, h⟩
      obtain ⟨before, stored, after, fault, hbox, -, hfault, -⟩ :=
        containerPolicies_eq_error_iff.1 h
      exact ⟨stored, hbox ▸ List.mem_append_right _ List.mem_cons_self, fault, hfault⟩
    · rintro ⟨stored, hmem, fault, hfault⟩
      cases hread : box.containerPolicies with
      | error cause => exact ⟨cause, rfl⟩
      | ok policies =>
        obtain ⟨policy, -, hdecode⟩ :=
          exists_forall₂_iff.1 ⟨policies, containerPolicies_eq_ok_iff.1 hread⟩ stored hmem
        rw [hfault] at hdecode
        cases hdecode

/-- **Policies that are put into a box** come out of its bytes. -/
theorem containerPolicies_decode_encode {policies : List ContainerPolicy}
    (hbuilt : ∀ policy ∈ policies, policy.policy.Built)
    (hpolicies : box.policies = policies.map ContainerPolicy.toStored) (hbox : box.Sized) :
    ∃ read, decode box.encode = .ok read ∧ read.containerPolicies = .ok policies := by
  have hlength : ∀ policy ∈ policies, policy.policy.encoded.length < Varint.valueLimit := by
    intro policy hmem
    have hstored : policy.toStored ∈ box.policies := by
      rw [hpolicies]
      exact List.mem_map_of_mem hmem
    exact Nat.lt_of_le_of_lt policy.toStored.length_policy_le (hbox.policies _ hstored)
  refine ⟨box, decode_encode hbox, ?_⟩
  rw [containerPolicies, hpolicies, ContainerPolicy.mapM_ofStored_toStored hbuilt hlength]
  rfl

/-- **Policies pass through unchanged.**  A policy that was made from rules or read is read back
from its bytes, and one that was read has the bytes that it was read from.  Container policies that
are put into a box come out of its bytes as they were; and the policies of any box come out all or
none. -/
theorem policies_unchanged :
    (∀ policy : PlacementPolicy, policy.Built → policy.encoded.length < Varint.valueLimit →
        PlacementPolicy.decode policy.encoded = .ok policy)
      ∧ (∀ bytes policy, PlacementPolicy.decode bytes = .ok policy → policy.encoded = bytes)
      ∧ (∀ (policies : List ContainerPolicy) (box : AccessBox),
        (∀ policy ∈ policies, policy.policy.Built) →
        box.policies = policies.map ContainerPolicy.toStored → box.Sized →
        ∃ read, decode box.encode = .ok read ∧ read.containerPolicies = .ok policies)
      ∧ ∀ box : AccessBox, box.AllOrNone :=
  ⟨fun _ hbuilt hlength => PlacementPolicy.decode_encoded hbuilt hlength,
    fun _ _ hdecode => PlacementPolicy.encoded_of_decode hdecode,
    fun _ _ hbuilt hpolicies hbox => containerPolicies_decode_encode hbuilt hpolicies hbox,
    allOrNone⟩

/-- A policy with a field that is not known and a count of zero that is written, and one made from
an empty rule. -/
theorem policies_unchanged_unknown_field :
    let fields : List Field := [⟨3, .payload [8, 1]⟩, ⟨2, .varint 0⟩]
    let unknown : PlacementPolicy := ⟨[], 0, Field.writeAll fields⟩
    let policies : List ContainerPolicy := [⟨"é", unknown⟩, ⟨"", .ofRules [⟨0, ""⟩] 2⟩]
    let box : AccessBox := ⟨[2], [], policies.map ContainerPolicy.toStored⟩
    (∀ policy ∈ policies, policy.policy.Built) ∧ box.Sized
      ∧ PlacementPolicy.decode unknown.encoded = .ok unknown
      ∧ ∃ read, decode box.encode = .ok read ∧ read.containerPolicies = .ok policies := by
  intro fields unknown policies box
  have hfits : ∀ field ∈ fields, field.Fits :=
    List.forall_mem_cons.2 ⟨⟨by decide, by decide, (by decide : 2 < Varint.valueLimit)⟩,
      List.forall_mem_singleton.2 ⟨by decide, by decide, (by decide : 0 < Varint.valueLimit)⟩⟩
  have hread : PlacementPolicy.decode unknown.encoded = .ok unknown := by
    rw [PlacementPolicy.decode_eq, Field.readAll_writeAll _ hfits]
    rfl
  have hbuilt : ∀ policy ∈ policies, policy.policy.Built :=
    List.forall_mem_cons.2 ⟨.decoded hread, List.forall_mem_singleton.2 (.ofRules _ _)⟩
  have hbox : box.Sized := ⟨by decide, List.forall_mem_nil _, by decide +kernel⟩
  obtain ⟨hdecode, -, hkept, -⟩ := policies_unchanged
  exact ⟨hbuilt, hbox, hdecode unknown (.decoded hread) (by decide +kernel),
    hkept policies box hbuilt rfl hbox⟩

end AccessBox

end Coffer
