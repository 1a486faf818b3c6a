import Coffer.Box.Error
import Coffer.Proofs.Box.RoundTrip
import Coffer.Proofs.Policy.Grammar

/-!
# Proofs/Box/Grammar — which bytes are a box

What the fields of a gate, a box or tokens **say** about it.  All six kinds of message are read
just from the bytes that split into fields saying an item, and all other bytes are malformed
(`decodes_exactly`).
-/

namespace Coffer

open Wire

attribute [ext] Gate AccessBox Tokens

/-! ## Gates -/

namespace Gate

/-- The sealed tokens a part holds. -/
def Part.tokens? : Part → Option Bytes
  | tokens content => some content
  | _ => none

/-- The key a part holds. -/
def Part.publicKey? : Part → Option Bytes
  | publicKey content => some content
  | _ => none

/-- **What the fields of a gate say** about it. -/
structure Says (fields : List Field) (gate : Gate) : Prop where
  /-- The last bytes under 1 are the sealed tokens, empty if there are none. -/
  tokens : Last 1 Value.IsPayload fields [] gate.tokens
  /-- The last bytes under 2 are the key, empty if there are none. -/
  publicKey : Last 2 Value.IsPayload fields [] gate.publicKey

theorem reads_ofField {field : Field} {part : Part} (h : Part.ofField field = .ok part) :
    Option.Rel Value.IsPayload (field.value? 1) part.tokens?
      ∧ Option.Rel Value.IsPayload (field.value? 2) part.publicKey? := by
  unfold Part.ofField at h
  split at h
  · rename_i hnumber
    obtain ⟨content, hcontent, rfl⟩ := Except.bind_pure_eq_ok_iff.1 h
    exact ⟨rel_value?_self hnumber (Value.asPayload_eq_ok_iff.1 hcontent),
      rel_value?_other (by omega)⟩
  · rename_i hnumber
    obtain ⟨content, hcontent, rfl⟩ := Except.bind_pure_eq_ok_iff.1 h
    exact ⟨rel_value?_other (by omega),
      rel_value?_self hnumber (Value.asPayload_eq_ok_iff.1 hcontent)⟩
  · rename_i htokens hkey
    obtain rfl := Except.ok.inj h
    exact ⟨rel_value?_other htokens, rel_value?_other hkey⟩

variable {fields : List Field} {gate : Gate}

theorem Says.exists_part (h : Says fields gate) :
    ∀ field ∈ fields, ∃ part, Part.ofField field = .ok part := by
  intro field hmem
  unfold Part.ofField
  split
  · rename_i hnumber
    obtain ⟨content, hcontent⟩ := h.tokens.exists_holds hmem hnumber
    exact ⟨_, Except.bind_pure_eq_ok_iff.2 ⟨content, Value.asPayload_eq_ok_iff.2 hcontent, rfl⟩⟩
  · rename_i hnumber
    obtain ⟨content, hcontent⟩ := h.publicKey.exists_holds hmem hnumber
    exact ⟨_, Except.bind_pure_eq_ok_iff.2 ⟨content, Value.asPayload_eq_ok_iff.2 hcontent, rfl⟩⟩
  · exact ⟨_, rfl⟩

theorem says_iff {parts : List Part}
    (hparts : List.Forall₂ (fun field part => Part.ofField field = .ok part) fields parts) :
    Says fields gate ↔ parts.foldl add ⟨[], []⟩ = gate := by
  have htokens : Reads Part.ofField 1 Value.IsPayload Part.tokens? := fun h => (reads_ofField h).1
  have hkey : Reads Part.ofField 2 Value.IsPayload Part.publicKey? := fun h => (reads_ofField h).2
  rw [Gate.ext_iff,
    ← hkey.last_iff Value.rightUnique_isPayload hparts Gate.publicKey
      (fun _ part => by cases part <;> rfl),
    ← htokens.last_iff Value.rightUnique_isPayload hparts Gate.tokens
      (fun _ part => by cases part <;> rfl)]
  exact ⟨fun h => ⟨h.publicKey, h.tokens⟩, fun h => ⟨h.2, h.1⟩⟩

/-- **A gate is read just from its bytes.** -/
theorem decode_eq_ok_iff {bytes : Bytes} : decode bytes = .ok gate ↔ Message Says bytes gate := by
  rw [decode_eq]
  exact message_iff says_iff Says.exists_part

end Gate

/-! ## Tokens -/

namespace Tokens

/-- The access key a part holds. -/
def Part.accessKey? : Part → Option Bytes
  | accessKey content => some content
  | _ => none

/-- The bearer token a part holds. -/
def Part.bearer? : Part → Option Bytes
  | bearer content => some content
  | _ => none

/-- The session token a part holds. -/
def Part.session? : Part → Option Bytes
  | session content => some content
  | _ => none

/-- **What the fields of tokens say** about them. -/
structure Says (fields : List Field) (tokens : Tokens) : Prop where
  /-- The last bytes under 1 are the access key, empty if there are none. -/
  accessKey : Last 1 Value.IsPayload fields [] tokens.accessKey
  /-- The last bytes under 2 are the bearer token, empty if there are none. -/
  bearer : Last 2 Value.IsPayload fields [] tokens.bearer
  /-- The last bytes under 3 are the session token, empty if there are none. -/
  session : Last 3 Value.IsPayload fields [] tokens.session

theorem reads_ofField {field : Field} {part : Part} (h : Part.ofField field = .ok part) :
    Option.Rel Value.IsPayload (field.value? 1) part.accessKey?
      ∧ Option.Rel Value.IsPayload (field.value? 2) part.bearer?
      ∧ Option.Rel Value.IsPayload (field.value? 3) part.session? := by
  unfold Part.ofField at h
  split at h
  · rename_i hnumber
    obtain ⟨content, hcontent, rfl⟩ := Except.bind_pure_eq_ok_iff.1 h
    exact ⟨rel_value?_self hnumber (Value.asPayload_eq_ok_iff.1 hcontent),
      rel_value?_other (by omega), rel_value?_other (by omega)⟩
  · rename_i hnumber
    obtain ⟨content, hcontent, rfl⟩ := Except.bind_pure_eq_ok_iff.1 h
    exact ⟨rel_value?_other (by omega),
      rel_value?_self hnumber (Value.asPayload_eq_ok_iff.1 hcontent), rel_value?_other (by omega)⟩
  · rename_i hnumber
    obtain ⟨content, hcontent, rfl⟩ := Except.bind_pure_eq_ok_iff.1 h
    exact ⟨rel_value?_other (by omega), rel_value?_other (by omega),
      rel_value?_self hnumber (Value.asPayload_eq_ok_iff.1 hcontent)⟩
  · rename_i haccess hbearer hsession
    obtain rfl := Except.ok.inj h
    exact ⟨rel_value?_other haccess, rel_value?_other hbearer, rel_value?_other hsession⟩

variable {fields : List Field} {tokens : Tokens}

theorem Says.exists_part (h : Says fields tokens) :
    ∀ field ∈ fields, ∃ part, Part.ofField field = .ok part := by
  intro field hmem
  unfold Part.ofField
  split
  · rename_i hnumber
    obtain ⟨content, hcontent⟩ := h.accessKey.exists_holds hmem hnumber
    exact ⟨_, Except.bind_pure_eq_ok_iff.2 ⟨content, Value.asPayload_eq_ok_iff.2 hcontent, rfl⟩⟩
  · rename_i hnumber
    obtain ⟨content, hcontent⟩ := h.bearer.exists_holds hmem hnumber
    exact ⟨_, Except.bind_pure_eq_ok_iff.2 ⟨content, Value.asPayload_eq_ok_iff.2 hcontent, rfl⟩⟩
  · rename_i hnumber
    obtain ⟨content, hcontent⟩ := h.session.exists_holds hmem hnumber
    exact ⟨_, Except.bind_pure_eq_ok_iff.2 ⟨content, Value.asPayload_eq_ok_iff.2 hcontent, rfl⟩⟩
  · exact ⟨_, rfl⟩

theorem says_iff {parts : List Part}
    (hparts : List.Forall₂ (fun field part => Part.ofField field = .ok part) fields parts) :
    Says fields tokens ↔ parts.foldl add ⟨[], [], []⟩ = tokens := by
  have haccess : Reads Part.ofField 1 Value.IsPayload Part.accessKey? :=
    fun h => (reads_ofField h).1
  have hbearer : Reads Part.ofField 2 Value.IsPayload Part.bearer? :=
    fun h => (reads_ofField h).2.1
  have hsession : Reads Part.ofField 3 Value.IsPayload Part.session? :=
    fun h => (reads_ofField h).2.2
  rw [Tokens.ext_iff,
    ← haccess.last_iff Value.rightUnique_isPayload hparts Tokens.accessKey
      (fun _ part => by cases part <;> rfl),
    ← hbearer.last_iff Value.rightUnique_isPayload hparts Tokens.bearer
      (fun _ part => by cases part <;> rfl),
    ← hsession.last_iff Value.rightUnique_isPayload hparts Tokens.session
      (fun _ part => by cases part <;> rfl)]
  exact ⟨fun h => ⟨h.accessKey, h.bearer, h.session⟩, fun h => ⟨h.1, h.2.1, h.2.2⟩⟩

/-- **Tokens are read just from their bytes.** -/
theorem decode_eq_ok_iff {bytes : Bytes} :
    decode bytes = .ok tokens ↔ Message Says bytes tokens := by
  rw [decode_eq]
  exact message_iff says_iff Says.exists_part

end Tokens

/-! ## Boxes -/

namespace AccessBox

/-- The key of the packer a part holds. -/
def Part.ownerKey? : Part → Option Bytes
  | ownerKey content => some content
  | _ => none

/-- **What the fields of a box say** about it. -/
structure Says (fields : List Field) (box : AccessBox) : Prop where
  /-- The last bytes under 1 are the packer's key, empty if there are none. -/
  ownerKey : Last 1 Value.IsPayload fields [] box.ownerKey
  /-- All messages under 2 are the gates. -/
  gates : All 2 (Value.IsMessage (Message Gate.Says)) fields box.gates
  /-- All messages under 3 are the policies. -/
  policies : All 3 (Value.IsMessage (Message StoredPolicy.Says)) fields box.policies

theorem reads_ofField {field : Field} {part : Part} (h : Part.ofField field = .ok part) :
    Option.Rel Value.IsPayload (field.value? 1) part.ownerKey?
      ∧ Option.Rel (Value.IsMessage (Message Gate.Says)) (field.value? 2) part.gate?
      ∧ Option.Rel (Value.IsMessage (Message StoredPolicy.Says)) (field.value? 3) part.policy? := by
  unfold Part.ofField at h
  split at h
  · rename_i hnumber
    obtain ⟨content, hcontent, rfl⟩ := Except.bind_pure_eq_ok_iff.1 h
    exact ⟨rel_value?_self hnumber (Value.asPayload_eq_ok_iff.1 hcontent),
      rel_value?_other (by omega), rel_value?_other (by omega)⟩
  · rename_i hnumber
    obtain ⟨content, hcontent, hgate⟩ := Except.bind_eq_ok_iff.1 h
    obtain ⟨gate, hdecode, rfl⟩ := Except.bind_pure_eq_ok_iff.1 hgate
    have hmessage := Gate.decode_eq_ok_iff.1 hdecode
    exact ⟨rel_value?_other (by omega),
      rel_value?_self hnumber ⟨content, Value.asPayload_eq_ok_iff.1 hcontent, hmessage⟩,
      rel_value?_other (by omega)⟩
  · rename_i hnumber
    obtain ⟨content, hcontent, hstored⟩ := Except.bind_eq_ok_iff.1 h
    obtain ⟨stored, hdecode, rfl⟩ := Except.bind_pure_eq_ok_iff.1 hstored
    have hmessage := StoredPolicy.decode_eq_ok_iff.1 hdecode
    exact ⟨rel_value?_other (by omega), rel_value?_other (by omega),
      rel_value?_self hnumber ⟨content, Value.asPayload_eq_ok_iff.1 hcontent, hmessage⟩⟩
  · rename_i hkey hgate hpolicy
    obtain rfl := Except.ok.inj h
    exact ⟨rel_value?_other hkey, rel_value?_other hgate, rel_value?_other hpolicy⟩

variable {fields : List Field} {box : AccessBox}

theorem Says.exists_part (h : Says fields box) :
    ∀ field ∈ fields, ∃ part, Part.ofField field = .ok part := by
  intro field hmem
  unfold Part.ofField
  split
  · rename_i hnumber
    obtain ⟨content, hcontent⟩ := h.ownerKey.exists_holds hmem hnumber
    exact ⟨_, Except.bind_pure_eq_ok_iff.2 ⟨content, Value.asPayload_eq_ok_iff.2 hcontent, rfl⟩⟩
  · rename_i hnumber
    obtain ⟨gate, content, hcontent, hgate⟩ := h.gates.exists_holds hmem hnumber
    exact ⟨_, Except.bind_eq_ok_iff.2 ⟨content, Value.asPayload_eq_ok_iff.2 hcontent,
      Except.bind_pure_eq_ok_iff.2 ⟨gate, Gate.decode_eq_ok_iff.2 hgate, rfl⟩⟩⟩
  · rename_i hnumber
    obtain ⟨stored, content, hcontent, hstored⟩ := h.policies.exists_holds hmem hnumber
    exact ⟨_, Except.bind_eq_ok_iff.2 ⟨content, Value.asPayload_eq_ok_iff.2 hcontent,
      Except.bind_pure_eq_ok_iff.2 ⟨stored, StoredPolicy.decode_eq_ok_iff.2 hstored, rfl⟩⟩⟩
  · exact ⟨_, rfl⟩

theorem says_iff {parts : List Part}
    (hparts : List.Forall₂ (fun field part => Part.ofField field = .ok part) fields parts) :
    Says fields box ↔ ofParts parts = box := by
  have hkeyReads : Reads Part.ofField 1 Value.IsPayload Part.ownerKey? :=
    fun h => (reads_ofField h).1
  have hgateReads : Reads Part.ofField 2 (Value.IsMessage (Message Gate.Says)) Part.gate? :=
    fun h => (reads_ofField h).2.1
  have hpolicyReads :
      Reads Part.ofField 3 (Value.IsMessage (Message StoredPolicy.Says)) Part.policy? :=
    fun h => (reads_ofField h).2.2
  have hkey : Last 1 Value.IsPayload fields [] box.ownerKey
      ↔ parts.foldl Part.lastOwnerKey [] = box.ownerKey :=
    hkeyReads.last_iff Value.rightUnique_isPayload hparts id
      (fun _ part => by cases part <;> rfl) []
  have hgates := hgateReads.all_iff (Value.rightUnique_isMessage Gate.decode_eq_ok_iff) hparts
    box.gates
  have hpolicies := hpolicyReads.all_iff
    (Value.rightUnique_isMessage StoredPolicy.decode_eq_ok_iff) hparts box.policies
  constructor
  · intro h
    exact AccessBox.ext (hkey.1 h.ownerKey) (hgates.1 h.gates) (hpolicies.1 h.policies)
  · rintro rfl
    exact ⟨hkey.2 rfl, hgates.2 rfl, hpolicies.2 rfl⟩

/-- **A box is read just from its bytes.** -/
theorem decode_eq_ok_iff {bytes : Bytes} : decode bytes = .ok box ↔ Message Says bytes box := by
  rw [decode_eq]
  exact message_iff says_iff Says.exists_part

end AccessBox

/-! ## All messages -/

/-- **A decoder is exact** on some bytes for what they spell: it gives an item just when they spell
it, and calls them malformed just when they spell none. -/
structure DecodesExactly {α : Type} (decode : Bytes → Except Fault α) (Spells : Bytes → α → Prop)
    (bytes : Bytes) : Prop where
  /-- What is given is what the bytes spell. -/
  gives : ∀ item, decode bytes = .ok item ↔ Spells bytes item
  /-- What spells nothing is malformed. -/
  refuses : (∃ fault, (decode bytes).mapError BoxError.malformed = .error (.malformed fault))
    ↔ ∀ item, ¬ Spells bytes item

theorem decodesExactly_of_iff {α : Type} {decode : Bytes → Except Fault α}
    {Spells : Bytes → α → Prop} (h : ∀ {bytes item}, decode bytes = .ok item ↔ Spells bytes item)
    (bytes : Bytes) : DecodesExactly decode Spells bytes := by
  refine ⟨fun item => h, ?_⟩
  simp only [← h]
  cases decode bytes with
  | error fault => simp [Except.mapError]
  | ok item => simp [Except.mapError]

/-- **The decoders accept exactly the messages.**  Bytes split into words for fields in one way at
most.  Each decoder gives the item that the fields say, where each field of a known number has to
hold what the message expects, and calls all other bytes malformed. -/
theorem decodes_exactly (bytes : Bytes) :
    (∀ pieces others, Field.Splits bytes pieces → Field.Splits bytes others → pieces = others)
      ∧ DecodesExactly AccessBox.decode (Message AccessBox.Says) bytes
      ∧ DecodesExactly Gate.decode (Message Gate.Says) bytes
      ∧ DecodesExactly StoredPolicy.decode (Message StoredPolicy.Says) bytes
      ∧ DecodesExactly Tokens.decode (Message Tokens.Says) bytes
      ∧ DecodesExactly PlacementPolicy.decode
          (fun bytes policy => Message (PlacementPolicy.Says bytes) bytes policy) bytes
      ∧ DecodesExactly Replica.decode (Message Replica.Says) bytes :=
  ⟨fun _ _ h hothers => h.unique hothers,
    decodesExactly_of_iff AccessBox.decode_eq_ok_iff bytes,
    decodesExactly_of_iff Gate.decode_eq_ok_iff bytes,
    decodesExactly_of_iff StoredPolicy.decode_eq_ok_iff bytes,
    decodesExactly_of_iff Tokens.decode_eq_ok_iff bytes,
    decodesExactly_of_iff PlacementPolicy.decode_eq_ok_iff bytes,
    decodesExactly_of_iff Replica.decode_eq_ok_iff bytes⟩

end Coffer
