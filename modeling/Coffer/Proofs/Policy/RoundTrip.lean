import Mathlib.Data.List.Basic
import Coffer.Policy
import Coffer.Proofs.Outcome
import Coffer.Proofs.Wire.RoundTrip

/-!
# Proofs/Policy/RoundTrip — policies read back

A replica and a stored policy read back from their bytes (`Replica.decode_encode`,
`StoredPolicy.decode_encode`).  A placement policy holds the same thing twice, as rules and as
bytes; whichever way it was **built**, the two agree (`PlacementPolicy.decode_encoded`).
-/

namespace Coffer

open Wire

/-! ## Replicas -/

namespace Replica

theorem decode_eq (bytes : Bytes) :
    decode bytes = (Field.readAll Part.ofField bytes).map (List.foldl add ⟨0, ""⟩) := by
  rw [decode]
  cases Field.readAll Part.ofField bytes <;> rfl

theorem fits_of_mem_fields {replica : Replica} (h : replica.encode.length < Varint.valueLimit) :
    ∀ field ∈ replica.fields, field.Fits := by
  have hselector : (Text.Utf8.encode replica.selector).length ≤ replica.encode.length :=
    Field.length_le_of_bytes_subset (List.subset_append_right _ _)
  exact List.forall_mem_append.2 ⟨Field.fits_of_mem_word32 (by decide) replica.count,
    Field.fits_of_mem_bytes (by decide) (by omega)⟩

theorem ofField_count (value : UInt32) :
    Part.ofField ⟨1, .varint value.toNat⟩ = .ok (.count value) := by
  have hlt : value.toNat < word32Limit := value.toNat_lt
  simp only [Part.ofField, Value.asWord32, if_pos hlt, UInt32.ofNat_toNat]
  rfl

theorem ofField_selector (text : String) :
    Part.ofField ⟨2, .payload (Text.Utf8.encode text)⟩ = .ok (.selector text) := by
  simp only [Part.ofField, Value.asText, Value.asPayload, bind, Except.bind, pure, Except.pure,
    Text.Utf8.decode?_encode]

/-- **A replica reads back.** -/
theorem decode_encode {replica : Replica} (h : replica.encode.length < Varint.valueLimit) :
    decode replica.encode = .ok replica := by
  have hcount := Field.foldl_mapM_optional add ⟨0, ""⟩ (p := replica.count = 0)
    (ofField_count replica.count) (fun hzero => by rw [hzero]; rfl)
    (Field.text 2 replica.selector)
  have hselector := Field.foldl_mapM_optional add ⟨replica.count, ""⟩
    (p := Text.Utf8.encode replica.selector = []) (ofField_selector replica.selector)
    (fun hempty => by rw [Text.Utf8.encode_injective (b := "") hempty]; rfl) []
  rw [List.append_nil] at hselector
  rw [decode_eq, encode, Field.readAll_writeAll _ (fits_of_mem_fields h)]
  exact hcount.trans hselector

end Replica

/-! ## Placement policies -/

namespace PlacementPolicy

/-- **The ways in which a placement policy comes about**: from rules, or read from bytes. -/
inductive Built : PlacementPolicy → Prop
  | ofRules (replicas : List Replica) (backupFactor : UInt32) :
    Built (ofRules replicas backupFactor)
  | decoded {bytes : Bytes} {policy : PlacementPolicy} (h : decode bytes = .ok policy) :
    Built policy

theorem decode_eq (bytes : Bytes) :
    decode bytes = (Field.readAll Part.ofField bytes).map fun parts =>
      ⟨parts.filterMap Part.replica?, parts.foldl Part.lastBackupFactor 0, bytes⟩ := by
  rw [decode]
  cases Field.readAll Part.ofField bytes <;> rfl

theorem encoded_of_decode {bytes : Bytes} {policy : PlacementPolicy}
    (h : decode bytes = .ok policy) : policy.encoded = bytes := by
  rw [decode_eq] at h
  cases hread : Field.readAll Part.ofField bytes with
  | error fault => simp [hread, Except.map] at h
  | ok parts =>
    rw [hread] at h
    obtain rfl := Except.ok.inj h
    rfl

theorem length_encode_le {replicas : List Replica} {replica : Replica} (h : replica ∈ replicas)
    (backupFactor : UInt32) :
    replica.encode.length ≤ (ofRules replicas backupFactor).encoded.length :=
  Field.length_le_of_mem
    (List.mem_append_left _ (List.mem_flatMap.2 ⟨replica, h, List.mem_singleton_self _⟩))

theorem fits_of_mem_fields {replicas : List Replica} {backupFactor : UInt32}
    (h : ∀ replica ∈ replicas, replica.encode.length < Varint.valueLimit) :
    ∀ field ∈ fields replicas backupFactor, field.Fits := by
  refine List.forall_mem_append.2 ⟨?_, Field.fits_of_mem_word32 (by decide) backupFactor⟩
  refine List.forall_mem_flatMap.2 fun replica hmem => ?_
  exact Field.fits_of_mem_message (by decide) (h replica hmem)

theorem mapM_ofField_word32 (value : UInt32) :
    (Field.word32 2 value).mapM Part.ofField
      = .ok (if value = 0 then [] else [.backupFactor value]) := by
  have hlt : value.toNat < word32Limit := value.toNat_lt
  rw [Field.word32]
  split
  · rfl
  · simp [Part.ofField, Value.asWord32, hlt, UInt32.ofNat_toNat, bind, Except.bind, pure,
      Except.pure]

theorem filterMap_replica? (replicas : List Replica) :
    (replicas.map Part.replica).filterMap Part.replica? = replicas := by
  rw [List.filterMap_map]
  exact List.filterMap_some

theorem foldl_lastBackupFactor (replicas : List Replica) (before : UInt32) :
    (replicas.map Part.replica).foldl Part.lastBackupFactor before = before := by
  rw [List.foldl_map]
  exact List.foldl_fixed replicas

/-- **A policy made from rules reads back**, rules and bytes. -/
theorem decode_ofRules {replicas : List Replica}
    (hlt : ∀ replica ∈ replicas, replica.encode.length < Varint.valueLimit)
    (backupFactor : UInt32) :
    decode (ofRules replicas backupFactor).encoded = .ok (ofRules replicas backupFactor) := by
  have hreplicas : (replicas.flatMap fun replica => Field.message 1 replica.encode).mapM
      Part.ofField = .ok (replicas.map Part.replica) := by
    refine Field.mapM_messages fun replica hmem => ?_
    simp only [Part.ofField, Value.asPayload, bind, Except.bind, pure, Except.pure,
      Replica.decode_encode (hlt replica hmem)]
  have hread : Field.readAll Part.ofField (ofRules replicas backupFactor).encoded
      = .ok (replicas.map Part.replica
        ++ if backupFactor = 0 then [] else [.backupFactor backupFactor]) := by
    rw [ofRules, Field.readAll_writeAll _ (fits_of_mem_fields hlt), fields, List.mapM_append,
      hreplicas, mapM_ofField_word32]
    rfl
  rw [decode_eq, hread]
  simp only [Except.map, List.filterMap_append, List.foldl_append, filterMap_replica?,
    foldl_lastBackupFactor]
  split
  · rename_i hzero
    rw [hzero, List.filterMap_nil, List.append_nil]
    rfl
  · rw [List.filterMap_cons_none rfl, List.filterMap_nil, List.append_nil]
    rfl

/-- **The rules and the bytes of a policy agree**, whichever way it was built. -/
theorem decode_encoded {policy : PlacementPolicy} (hbuilt : policy.Built)
    (h : policy.encoded.length < Varint.valueLimit) : decode policy.encoded = .ok policy := by
  cases hbuilt with
  | ofRules replicas backupFactor =>
    exact decode_ofRules (fun replica hmem =>
      Nat.lt_of_le_of_lt (length_encode_le hmem backupFactor) h) backupFactor
  | decoded hdecode =>
    rw [encoded_of_decode hdecode]
    exact hdecode

end PlacementPolicy

/-! ## Stored policies -/

namespace StoredPolicy

theorem decode_eq (bytes : Bytes) :
    decode bytes = (Field.readAll Part.ofField bytes).map (List.foldl add ⟨"", []⟩) := by
  rw [decode]
  cases Field.readAll Part.ofField bytes <;> rfl

theorem length_policy_le (stored : StoredPolicy) : stored.policy.length ≤ stored.encode.length :=
  Field.length_le_of_bytes_subset (List.subset_append_right _ _)

theorem fits_of_mem_fields {stored : StoredPolicy} (h : stored.encode.length < Varint.valueLimit) :
    ∀ field ∈ stored.fields, field.Fits := by
  have hlocation : (Text.Utf8.encode stored.location).length ≤ stored.encode.length :=
    Field.length_le_of_bytes_subset (List.subset_append_left _ _)
  have hpolicy := stored.length_policy_le
  exact List.forall_mem_append.2 ⟨Field.fits_of_mem_bytes (by decide) (by omega),
    Field.fits_of_mem_bytes (by decide) (by omega)⟩

theorem ofField_location (text : String) :
    Part.ofField ⟨1, .payload (Text.Utf8.encode text)⟩ = .ok (.location text) := by
  simp only [Part.ofField, Value.asText, Value.asPayload, bind, Except.bind, pure, Except.pure,
    Text.Utf8.decode?_encode]

/-- **A stored policy reads back.** -/
theorem decode_encode {stored : StoredPolicy} (h : stored.encode.length < Varint.valueLimit) :
    decode stored.encode = .ok stored := by
  have hlocation := Field.foldl_mapM_optional add ⟨"", []⟩
    (p := Text.Utf8.encode stored.location = []) (ofField_location stored.location)
    (fun hempty => by rw [Text.Utf8.encode_injective (b := "") hempty]; rfl)
    (Field.bytes 2 stored.policy)
  have hread : Part.ofField ⟨2, .payload stored.policy⟩ = .ok (.policy stored.policy) := rfl
  have hpolicy := Field.foldl_mapM_optional add ⟨stored.location, []⟩
    (p := stored.policy = []) hread (fun hempty => by rw [hempty]; rfl) []
  rw [List.append_nil] at hpolicy
  rw [decode_eq, encode, Field.readAll_writeAll _ (fits_of_mem_fields h)]
  exact hlocation.trans hpolicy

end StoredPolicy

/-! ## Container policies -/

namespace ContainerPolicy

/-- **A container policy comes back from the form in which a box keeps it.** -/
theorem ofStored_toStored {policy : ContainerPolicy} (hbuilt : policy.policy.Built)
    (h : policy.policy.encoded.length < Varint.valueLimit) :
    ofStored policy.toStored = .ok policy := by
  rw [ofStored, toStored, PlacementPolicy.decode_encoded hbuilt h]
  rfl

/-- **Container policies come back**, all of them and in their order. -/
theorem mapM_ofStored_toStored {policies : List ContainerPolicy}
    (hbuilt : ∀ policy ∈ policies, policy.policy.Built)
    (h : ∀ policy ∈ policies, policy.policy.encoded.length < Varint.valueLimit) :
    (policies.map toStored).mapM ofStored = .ok policies :=
  Except.mapM_eq_ok_iff.2 (List.forall₂_map_left_iff.2
    (List.forall₂_same.2 fun policy hmem => ofStored_toStored (hbuilt policy hmem) (h policy hmem)))

end ContainerPolicy

end Coffer
