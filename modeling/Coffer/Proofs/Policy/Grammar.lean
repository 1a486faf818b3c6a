import Coffer.Proofs.Policy.RoundTrip
import Coffer.Proofs.Wire.Grammar

/-!
# Proofs/Policy/Grammar — which bytes are a policy

What the fields of a replica, a placement policy or a stored policy **say** about it: under each
number it knows, all of them or the last, and nothing under any other.  Bytes are read as one of
these just when they split into fields that say it (`Replica.decode_eq_ok_iff`,
`PlacementPolicy.decode_eq_ok_iff`, `StoredPolicy.decode_eq_ok_iff`).
-/

namespace Coffer

open Wire

attribute [ext] Replica PlacementPolicy StoredPolicy

/-! ## Replicas -/

namespace Replica

/-- The count a part holds. -/
def Part.count? : Part → Option UInt32
  | count value => some value
  | _ => none

/-- The selector a part holds. -/
def Part.selector? : Part → Option String
  | selector text => some text
  | _ => none

/-- **What the fields of a replica say** about it. -/
structure Says (fields : List Field) (replica : Replica) : Prop where
  /-- The last number under 1 is the count, zero if there is none. -/
  count : Last 1 Value.IsWord32 fields 0 replica.count
  /-- The last text under 2 is the selector, empty if there is none. -/
  selector : Last 2 Value.IsText fields "" replica.selector

theorem reads_ofField {field : Field} {part : Part} (h : Part.ofField field = .ok part) :
    Option.Rel Value.IsWord32 (field.value? 1) part.count?
      ∧ Option.Rel Value.IsText (field.value? 2) part.selector? := by
  unfold Part.ofField at h
  split at h
  · rename_i hnumber
    obtain ⟨value, hvalue, rfl⟩ := Except.bind_pure_eq_ok_iff.1 h
    exact ⟨rel_value?_self hnumber (Value.asWord32_eq_ok_iff.1 hvalue),
      rel_value?_other (by omega)⟩
  · rename_i hnumber
    obtain ⟨text, htext, rfl⟩ := Except.bind_pure_eq_ok_iff.1 h
    exact ⟨rel_value?_other (by omega),
      rel_value?_self hnumber (Value.asText_eq_ok_iff.1 htext)⟩
  · rename_i hcount hselector
    obtain rfl := Except.ok.inj h
    exact ⟨rel_value?_other hcount, rel_value?_other hselector⟩

variable {fields : List Field} {replica : Replica}

theorem Says.exists_part (h : Says fields replica) :
    ∀ field ∈ fields, ∃ part, Part.ofField field = .ok part := by
  intro field hmem
  unfold Part.ofField
  split
  · rename_i hnumber
    obtain ⟨value, hvalue⟩ := h.count.exists_holds hmem hnumber
    exact ⟨_, Except.bind_pure_eq_ok_iff.2 ⟨value, Value.asWord32_eq_ok_iff.2 hvalue, rfl⟩⟩
  · rename_i hnumber
    obtain ⟨text, htext⟩ := h.selector.exists_holds hmem hnumber
    exact ⟨_, Except.bind_pure_eq_ok_iff.2 ⟨text, Value.asText_eq_ok_iff.2 htext, rfl⟩⟩
  · exact ⟨_, rfl⟩

theorem says_iff {parts : List Part}
    (hparts : List.Forall₂ (fun field part => Part.ofField field = .ok part) fields parts) :
    Says fields replica ↔ parts.foldl add ⟨0, ""⟩ = replica := by
  have hcount : Reads Part.ofField 1 Value.IsWord32 Part.count? := fun h => (reads_ofField h).1
  have hselector : Reads Part.ofField 2 Value.IsText Part.selector? := fun h => (reads_ofField h).2
  rw [Replica.ext_iff,
    ← hcount.last_iff Value.rightUnique_isWord32 hparts Replica.count
      (fun _ part => by cases part <;> rfl),
    ← hselector.last_iff Value.rightUnique_isText hparts Replica.selector
      (fun _ part => by cases part <;> rfl)]
  exact ⟨fun h => ⟨h.count, h.selector⟩, fun h => ⟨h.1, h.2⟩⟩

/-- **A replica is read just from its bytes.** -/
theorem decode_eq_ok_iff {bytes : Bytes} :
    decode bytes = .ok replica ↔ Message Says bytes replica := by
  rw [decode_eq]
  exact message_iff says_iff Says.exists_part

end Replica

/-! ## Placement policies -/

namespace PlacementPolicy

/-- The backup factor a part holds. -/
def Part.backupFactor? : Part → Option UInt32
  | backupFactor value => some value
  | _ => none

/-- **What the fields of a placement policy say** about it; it keeps the bytes that they stand
in. -/
structure Says (bytes : Bytes) (fields : List Field) (policy : PlacementPolicy) : Prop where
  /-- All messages under 1 are the replicas. -/
  replicas : All 1 (Value.IsMessage (Message Replica.Says)) fields policy.replicas
  /-- The last number under 2 is the backup factor, zero if there is none. -/
  backupFactor : Last 2 Value.IsWord32 fields 0 policy.backupFactor
  /-- The bytes are kept. -/
  encoded : policy.encoded = bytes

theorem reads_ofField {field : Field} {part : Part} (h : Part.ofField field = .ok part) :
    Option.Rel (Value.IsMessage (Message Replica.Says)) (field.value? 1) part.replica?
      ∧ Option.Rel Value.IsWord32 (field.value? 2) part.backupFactor? := by
  unfold Part.ofField at h
  split at h
  · rename_i hnumber
    obtain ⟨content, hcontent, hreplica⟩ := Except.bind_eq_ok_iff.1 h
    obtain ⟨replica, hdecode, rfl⟩ := Except.bind_pure_eq_ok_iff.1 hreplica
    exact ⟨rel_value?_self hnumber
        ⟨content, Value.asPayload_eq_ok_iff.1 hcontent, Replica.decode_eq_ok_iff.1 hdecode⟩,
      rel_value?_other (by omega)⟩
  · rename_i hnumber
    obtain ⟨value, hvalue, rfl⟩ := Except.bind_pure_eq_ok_iff.1 h
    exact ⟨rel_value?_other (by omega),
      rel_value?_self hnumber (Value.asWord32_eq_ok_iff.1 hvalue)⟩
  · rename_i hreplica hfactor
    obtain rfl := Except.ok.inj h
    exact ⟨rel_value?_other hreplica, rel_value?_other hfactor⟩

variable {bytes : Bytes} {fields : List Field} {policy : PlacementPolicy}

theorem Says.exists_part (h : Says bytes fields policy) :
    ∀ field ∈ fields, ∃ part, Part.ofField field = .ok part := by
  intro field hmem
  unfold Part.ofField
  split
  · rename_i hnumber
    obtain ⟨replica, content, hcontent, hreplica⟩ := h.replicas.exists_holds hmem hnumber
    exact ⟨_, Except.bind_eq_ok_iff.2 ⟨content, Value.asPayload_eq_ok_iff.2 hcontent,
      Except.bind_pure_eq_ok_iff.2 ⟨replica, Replica.decode_eq_ok_iff.2 hreplica, rfl⟩⟩⟩
  · rename_i hnumber
    obtain ⟨value, hvalue⟩ := h.backupFactor.exists_holds hmem hnumber
    exact ⟨_, Except.bind_pure_eq_ok_iff.2 ⟨value, Value.asWord32_eq_ok_iff.2 hvalue, rfl⟩⟩
  · exact ⟨_, rfl⟩

theorem says_iff {parts : List Part}
    (hparts : List.Forall₂ (fun field part => Part.ofField field = .ok part) fields parts) :
    Says bytes fields policy
      ↔ ⟨parts.filterMap Part.replica?, parts.foldl Part.lastBackupFactor 0, bytes⟩ = policy := by
  have hreplicas : Reads Part.ofField 1 (Value.IsMessage (Message Replica.Says)) Part.replica? :=
    fun h => (reads_ofField h).1
  have hfactor : Reads Part.ofField 2 Value.IsWord32 Part.backupFactor? :=
    fun h => (reads_ofField h).2
  have hrules := hreplicas.all_iff (Value.rightUnique_isMessage Replica.decode_eq_ok_iff) hparts
    policy.replicas
  have hlast : Last 2 Value.IsWord32 fields 0 policy.backupFactor
      ↔ parts.foldl Part.lastBackupFactor 0 = policy.backupFactor :=
    hfactor.last_iff Value.rightUnique_isWord32 hparts id
      (fun _ part => by cases part <;> rfl) 0
  constructor
  · intro h
    exact PlacementPolicy.ext (hrules.1 h.replicas) (hlast.1 h.backupFactor) h.encoded.symm
  · rintro rfl
    exact ⟨hrules.2 rfl, hlast.2 rfl, rfl⟩

/-- **A placement policy is read just from its bytes**, and keeps them. -/
theorem decode_eq_ok_iff : decode bytes = .ok policy ↔ Message (Says bytes) bytes policy := by
  rw [decode_eq]
  exact message_iff says_iff Says.exists_part

end PlacementPolicy

/-! ## Stored policies -/

namespace StoredPolicy

/-- The location a part holds. -/
def Part.location? : Part → Option String
  | location text => some text
  | _ => none

/-- The policy a part holds, in bytes. -/
def Part.policy? : Part → Option Bytes
  | policy content => some content
  | _ => none

/-- **What the fields of a stored policy say** about it. -/
structure Says (fields : List Field) (stored : StoredPolicy) : Prop where
  /-- The last text under 1 is the location, empty if there is none. -/
  location : Last 1 Value.IsText fields "" stored.location
  /-- The last bytes under 2 are the policy, empty if there are none. -/
  policy : Last 2 Value.IsPayload fields [] stored.policy

theorem reads_ofField {field : Field} {part : Part} (h : Part.ofField field = .ok part) :
    Option.Rel Value.IsText (field.value? 1) part.location?
      ∧ Option.Rel Value.IsPayload (field.value? 2) part.policy? := by
  unfold Part.ofField at h
  split at h
  · rename_i hnumber
    obtain ⟨text, htext, rfl⟩ := Except.bind_pure_eq_ok_iff.1 h
    exact ⟨rel_value?_self hnumber (Value.asText_eq_ok_iff.1 htext),
      rel_value?_other (by omega)⟩
  · rename_i hnumber
    obtain ⟨content, hcontent, rfl⟩ := Except.bind_pure_eq_ok_iff.1 h
    exact ⟨rel_value?_other (by omega),
      rel_value?_self hnumber (Value.asPayload_eq_ok_iff.1 hcontent)⟩
  · rename_i hlocation hpolicy
    obtain rfl := Except.ok.inj h
    exact ⟨rel_value?_other hlocation, rel_value?_other hpolicy⟩

variable {fields : List Field} {stored : StoredPolicy}

theorem Says.exists_part (h : Says fields stored) :
    ∀ field ∈ fields, ∃ part, Part.ofField field = .ok part := by
  intro field hmem
  unfold Part.ofField
  split
  · rename_i hnumber
    obtain ⟨text, htext⟩ := h.location.exists_holds hmem hnumber
    exact ⟨_, Except.bind_pure_eq_ok_iff.2 ⟨text, Value.asText_eq_ok_iff.2 htext, rfl⟩⟩
  · rename_i hnumber
    obtain ⟨content, hcontent⟩ := h.policy.exists_holds hmem hnumber
    exact ⟨_, Except.bind_pure_eq_ok_iff.2 ⟨content, Value.asPayload_eq_ok_iff.2 hcontent, rfl⟩⟩
  · exact ⟨_, rfl⟩

theorem says_iff {parts : List Part}
    (hparts : List.Forall₂ (fun field part => Part.ofField field = .ok part) fields parts) :
    Says fields stored ↔ parts.foldl add ⟨"", []⟩ = stored := by
  have hlocation : Reads Part.ofField 1 Value.IsText Part.location? := fun h => (reads_ofField h).1
  have hpolicy : Reads Part.ofField 2 Value.IsPayload Part.policy? := fun h => (reads_ofField h).2
  rw [StoredPolicy.ext_iff,
    ← hlocation.last_iff Value.rightUnique_isText hparts StoredPolicy.location
      (fun _ part => by cases part <;> rfl),
    ← hpolicy.last_iff Value.rightUnique_isPayload hparts StoredPolicy.policy
      (fun _ part => by cases part <;> rfl)]
  exact ⟨fun h => ⟨h.location, h.policy⟩, fun h => ⟨h.1, h.2⟩⟩

/-- **A stored policy is read just from its bytes.** -/
theorem decode_eq_ok_iff {bytes : Bytes} :
    decode bytes = .ok stored ↔ Message Says bytes stored := by
  rw [decode_eq]
  exact message_iff says_iff Says.exists_part

end StoredPolicy

end Coffer
