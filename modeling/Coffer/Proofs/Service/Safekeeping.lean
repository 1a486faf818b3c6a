import Coffer.Proofs.Box.RoundTrip
import Coffer.Proofs.Service.Run

/-!
# Proofs/Service/Safekeeping — a stored box is never lost or changed

Whatever was done to a service before a box is put, and whatever is done to it afterwards, the box
is fetched again as it was put, with its header, from either backend (`box_kept`).  The only thing
in the way is a setting: a service whose new buffers need more room than there can be fetches
nothing at all.
-/

namespace Coffer.CredentialService

/-! ## What is stored of a box -/

theorem length_timestamp_le {now : Int} (hnow : now < 2 ^ 64) : (timestamp now).length ≤ 20 := by
  have hlt : now.toNat < 10 ^ 20 := by omega
  exact (Nat.length_repr_le_iff (by decide)).2 hlt

/-- The attributes of a box fit into a column. -/
theorem sizedColumn_boxAttributes {now : Int} (hnow : now < 2 ^ 64) :
    AttributeColumn.SizedColumn (boxAttributes now) := by
  have htime : (timestamp now).length < AttributeColumn.characterLimit :=
    Nat.lt_of_le_of_lt (length_timestamp_le hnow) (by decide)
  have hname : (timestamp now ++ fileNameSuffix).length < AttributeColumn.characterLimit := by
    have hlength := length_timestamp_le hnow
    have hsuffix : fileNameSuffix.length = 11 := by decide
    rw [String.length_append, hsuffix, AttributeColumn.characterLimit]
    omega
  have hnameKey : Attribute.fileNameKey.length < AttributeColumn.characterLimit := by decide
  have htimeKey : Attribute.timestampKey.length < AttributeColumn.characterLimit := by decide
  refine ⟨Nat.lt_of_le_of_lt (Nat.le_refl 2) (by decide), fun entry hmem => ?_⟩
  rcases List.mem_pair.1 hmem with rfl | rfl
  · exact ⟨AttributeColumn.sized_of_length_lt hnameKey, AttributeColumn.sized_of_length_lt hname⟩
  · exact ⟨AttributeColumn.sized_of_length_lt htimeKey, AttributeColumn.sized_of_length_lt htime⟩

theorem putFault?_eq_none {box : AccessBox} {recipients : List PublicKey}
    (hrecipients : recipients ≠ []) (hbox : box.isEmpty = false) :
    putFault? box recipients = none := by
  rw [putFault?, if_neg hrecipients, hbox]
  rfl

variable {backend : Backend} {service : CredentialService backend.State} {archive : Archive}
  {bufferSize : Nat} {address : Address} {content : Content} {box : AccessBox}

/-! ## What is fetched of it -/

/-- **Fetching a box** whose bytes are kept gives the box, if there is room to read it. -/
theorem Keeps.fetch_of_find? (h : service.Keeps archive bufferSize)
    (hfind : archive.find? address = some content) (hpayload : content.payload = box.encode)
    (hbox : box.Sized) :
    ((fetch address).run service).1
      = if roomLimit < bufferSize then .error (.room .tooLarge) else .ok box := by
  rw [(h.run_fetch address).1, fetched, hfind]
  simp only [hpayload, AccessBox.decode_encode hbox]
  rfl

/-- The header of what is kept, for readers of the store. -/
theorem Keeps.head_of_find? (h : service.Keeps archive bufferSize)
    (hfind : archive.find? address = some content)
    (hsized : AttributeColumn.SizedColumn content.attributes) :
    ((ObjectStore.head address).run service.store).1 = .ok content.header := by
  rw [h.store, backend.run_head archive hfind hsized]

/-- **A box that has been put is found** at its address ever after, if nothing else that was stored
before it has its identifier. -/
theorem find?_of_put {contents : List Content}
    (hunique : ∀ other ∈ contents, other.objectId = content.objectId → other = content)
    (later : List Content) :
    (((Archive.empty.insertAll contents).insertNew content).insertAll later).find? content.address
      = some content := by
  obtain ⟨found, hfound, hcases⟩ :=
    Archive.find?_insertNew_self (Archive.empty.insertAll contents) content
  have heq : found = content := by
    rcases hcases with heq | hmem
    · exact heq
    · have hid := congrArg Address.object (Archive.address_of_find?_eq_some hfound)
      exact hunique found ((Archive.mem_insertAll hmem).resolve_right List.not_mem_nil) hid
  rw [heq] at hfound
  exact Archive.find?_insertAll_of_eq_some hfound later

/-- **A stored box is never lost or changed.**  A put gives an address in its container; after any
further run the box is fetched from there as it was put, everyone's gate opens as it does in that
box, and its header is as it was noted.  If there cannot be room for a buffer, nothing is
fetched. -/
theorem box_kept (backend : Backend) {settings : Settings}
    {start : CredentialService backend.State} (hstart : create backend.empty settings = .ok start)
    (before after : List ServiceAction) (container : ContainerId) (issuer : OwnerId)
    {box : AccessBox} {recipients : List PublicKey} {now : Int} (hrecipients : recipients ≠ [])
    (hbox : box.isEmpty = false) (hsized : box.Sized) (hnow : now < 2 ^ 64)
    (hunique : ∀ other ∈ before.filterMap ServiceAction.content?,
      other.objectId = (boxContent container issuer box now).objectId →
        other = boxContent container issuer box now) :
    let answered := (put container issuer box recipients now).run (run start before)
    let later := run answered.2 after
    ∃ address, answered.1 = .ok address ∧ address.container = container
      ∧ ((ObjectStore.head address).run later.store).1
        = .ok ⟨issuer, [⟨"FileName", toString now.toNat ++ "_access.box"⟩,
          ⟨"Timestamp", toString now.toNat⟩], box.encode.length⟩
      ∧ (settings.bufferSize ≤ roomLimit →
        ((fetch address).run later).1 = .ok box
          ∧ ∀ key, ((fetchUnpacked address key).run later).1 = (box.unpack key).mapError .box
            ∧ ((fetchGate address key).run later).1
              = ((box.unpack key).mapError .box).map Unpacked.gate)
      ∧ (roomLimit < settings.bufferSize →
        ((fetch address).run later).1 = .error (.room .tooLarge)
          ∧ ∀ key, ((fetchUnpacked address key).run later).1 = .error (.room .tooLarge)
            ∧ ((fetchGate address key).run later).1 = .error (.room .tooLarge)) := by
  intro answered later
  have hbefore := (keeps_of_create hstart).run before
  have hfault := putFault?_eq_none hrecipients hbox
  have hlater := (hbefore.keeps_of_put container issuer now hfault).run after
  have hfind := find?_of_put hunique (after.filterMap ServiceAction.content?)
  have hfetch := hlater.fetch_of_find? hfind rfl hsized
  refine ⟨(boxContent container issuer box now).address,
    congrArg Prod.fst (hbefore.run_put container issuer now hfault), rfl, ?_, ?_, ?_⟩
  · exact hlater.head_of_find? hfind (sizedColumn_boxAttributes hnow)
  · intro hroom
    rw [if_neg (Nat.not_lt.2 hroom)] at hfetch
    refine ⟨hfetch, fun key => ?_⟩
    rw [run_fetchGate, run_fetchUnpacked, hfetch]
    exact ⟨rfl, rfl⟩
  · intro hroom
    rw [if_pos hroom] at hfetch
    refine ⟨hfetch, fun key => ?_⟩
    rw [run_fetchGate, run_fetchUnpacked, hfetch]
    exact ⟨rfl, rfl⟩

/-- A box put twice, by a service whose pool has been closed in between, and fetched after another
put was refused and the tables have been opened again. -/
theorem box_kept_after_reopen :
    let container : ContainerId := ⟨Block.replicate 32 0x11⟩
    let issuer : OwnerId := ⟨Block.replicate 32 0x22⟩
    let box : AccessBox := ⟨[2], [⟨[], []⟩], [⟨"é", [6]⟩]⟩
    let recipients : List PublicKey := [⟨Curve.base⟩]
    let before : List ServiceAction := [.put container issuer box recipients 17, .closePool]
    let after : List ServiceAction := [.put container issuer box [] 18, .reopen]
    ∃ start : CredentialService Backend.database.State,
      create Backend.database.empty .default = .ok start ∧ recipients ≠ []
      ∧ box.isEmpty = false ∧ box.Sized
      ∧ (∀ other ∈ before.filterMap ServiceAction.content?,
        other.objectId = (boxContent container issuer box 17).objectId →
          other = boxContent container issuer box 17)
      ∧ let answered := (put container issuer box recipients 17).run (run start before)
        ∃ address, answered.1 = .ok address
          ∧ ((fetch address).run (run answered.2 after)).1 = .ok box := by
  intro container issuer box recipients before after
  have hrecipients : recipients ≠ [] := List.cons_ne_nil _ _
  have hsized : box.Sized := ⟨by decide, by decide +kernel, by decide +kernel⟩
  have hunique : ∀ other ∈ before.filterMap ServiceAction.content?,
      other.objectId = (boxContent container issuer box 17).objectId →
        other = boxContent container issuer box 17 :=
    fun other hmem _ => List.mem_singleton.1 hmem
  obtain ⟨start, hstart⟩ : ∃ start, create Backend.database.empty .default = .ok start := ⟨_, rfl⟩
  obtain ⟨address, haddress, -, -, hfetch, -⟩ := box_kept Backend.database hstart before after
    container issuer hrecipients rfl hsized (by decide) hunique
  exact ⟨start, hstart, hrecipients, rfl, hsized, hunique, address, haddress,
    (hfetch (by decide)).1⟩

/-- **Without room for a buffer a box is put, but not fetched.** -/
theorem not_fetched_without_room :
    let container : ContainerId := ⟨Block.replicate 32 0x11⟩
    let issuer : OwnerId := ⟨Block.replicate 32 0x22⟩
    let box : AccessBox := ⟨[2], [], []⟩
    let settings : Settings := { Settings.default with bufferSize := 0x8000000000000000 }
    ∃ start : CredentialService Backend.objectMap.State,
      create Backend.objectMap.empty settings = .ok start ∧ box.isEmpty = false
      ∧ let answered := (put container issuer box [⟨Curve.base⟩] 1700000000).run start
        ∃ address, answered.1 = .ok address ∧ ((fetch address).run answered.2).1 ≠ .ok box := by
  intro container issuer box settings
  refine ⟨_, rfl, rfl, (boxContent container issuer box 1700000000).address, rfl, ?_⟩
  intro h
  cases h

end Coffer.CredentialService
