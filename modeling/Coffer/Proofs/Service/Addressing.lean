import Coffer.Proofs.Content
import Coffer.Proofs.Service.Safekeeping

/-!
# Proofs/Service/Addressing — an address tells what was put

What is stored of a box tells its container, its issuer, the box and the second in which it was put,
and nothing else (`BoxPut.content_eq_iff`): the bytes of a box read back, and decimal times are
different for different seconds.  So two puts give one address just when all of these are the same,
unless the digest collides; then the second put changes nothing, and to whom the boxes go is never
seen (`BoxPut.identified_by_address`).
-/

namespace Coffer

namespace CredentialService

/-- The digits of a time give it back. -/
theorem ofDigitChars_timestamp (now : Int) :
    Nat.ofDigitChars 10 (timestamp now).toList 0 = now.toNat := by
  have hdigits : (timestamp now).toList = Nat.toDigits 10 now.toNat := Nat.toList_repr
  rw [hdigits, Nat.ofDigitChars_toDigits (by decide) (by decide)]

/-- **Times are told apart** to the second, since the epoch. -/
theorem timestamp_eq_iff {now later : Int} :
    timestamp now = timestamp later ↔ max now 0 = max later 0 := by
  rw [← Int.toNat_eq_max, ← Int.toNat_eq_max, Int.natCast_inj]
  constructor
  · intro h
    rw [← ofDigitChars_timestamp now, h, ofDigitChars_timestamp]
  · exact congrArg toString

theorem boxAttributes_eq_iff {now later : Int} :
    boxAttributes now = boxAttributes later ↔ max now 0 = max later 0 := by
  rw [← timestamp_eq_iff]
  constructor
  · intro h
    exact (Attribute.mk.inj (List.cons.inj (List.cons.inj h).2).1).2
  · intro h
    rw [boxAttributes, h, boxAttributes]

end CredentialService

/-! ## Puts -/

/-- **A put**, with what its caller hands over and what the clock shows. -/
structure BoxPut where
  /-- The container. -/
  container : ContainerId
  /-- Who issues the box. -/
  issuer : OwnerId
  /-- The box. -/
  box : AccessBox
  /-- For whom the box is. -/
  recipients : List PublicKey
  /-- The seconds that the clock shows. -/
  now : Int

namespace BoxPut

open CredentialService

/-- What is stored. -/
def content (boxPut : BoxPut) : Content :=
  boxContent boxPut.container boxPut.issuer boxPut.box boxPut.now

/-- Puts the box. -/
def perform {σ : Type} [ObjectStore σ] (boxPut : BoxPut) :
    StateM (CredentialService σ) (Except ServiceError Address) :=
  put boxPut.container boxPut.issuer boxPut.box boxPut.recipients boxPut.now

/-- **A put is accepted** when there are recipients and the box holds something.  Lengths and the
clock have sixty-four bits. -/
structure Accepted (boxPut : BoxPut) : Prop where
  /-- There are recipients. -/
  recipients : boxPut.recipients ≠ []
  /-- The box holds something. -/
  box : boxPut.box.isEmpty = false
  /-- The bytes of the box can be counted. -/
  length : boxPut.box.encode.length < 2 ^ 64
  /-- The clock is in range. -/
  now : boxPut.now < 2 ^ 64

/-- **Two puts are alike** when they put the same box of the same issuer into the same container in
the same second; all seconds before the epoch are the same. -/
structure Alike (first second : BoxPut) : Prop where
  /-- The containers are the same. -/
  container : first.container = second.container
  /-- The issuers are the same. -/
  issuer : first.issuer = second.issuer
  /-- The boxes are the same. -/
  box : first.box = second.box
  /-- The seconds are the same. -/
  time : max first.now 0 = max second.now 0

variable {first second : BoxPut}

theorem Accepted.sized (h : first.Accepted) : first.box.Sized :=
  AccessBox.sized_of_length_lt h.length

theorem Accepted.sized_content (h : first.Accepted) : first.content.Sized :=
  ⟨sizedColumn_boxAttributes h.now, h.length⟩

/-- **What is stored** is the same just when the puts are alike. -/
theorem content_eq_iff (hfirst : first.Accepted) (hsecond : second.Accepted) :
    first.content = second.content ↔ first.Alike second := by
  rw [Content.ext_iff]
  constructor
  · rintro ⟨hcontainer, hissuer, hattributes, hpayload⟩
    exact ⟨hcontainer, hissuer, hfirst.sized.eq_of_encode_eq hsecond.sized hpayload,
      boxAttributes_eq_iff.1 hattributes⟩
  · rintro ⟨hcontainer, hissuer, hbox, htime⟩
    exact ⟨hcontainer, hissuer, boxAttributes_eq_iff.2 htime, congrArg AccessBox.encode hbox⟩

section Store

variable {backend : Backend} {service : CredentialService backend.State} {archive : Archive}
  {bufferSize : Nat}

/-- **An accepted put** hands its content to the store, and gives the address of the content. -/
theorem Accepted.run_perform (h : first.Accepted) (hkeeps : service.Keeps archive bufferSize) :
    first.perform.run service
      = (.ok first.content.address, { service with
          store := ((ObjectStore.put first.content).run service.store).2 }) := by
  have hstored := backend.run_put archive first.content
  rw [← hkeeps.store] at hstored
  rw [hstored]
  exact hkeeps.run_put first.container first.issuer first.now
    (putFault?_eq_none h.recipients h.box)

/-- **A content that is found** is not stored again. -/
theorem Accepted.run_perform_of_find? (h : first.Accepted)
    (hkeeps : service.Keeps archive bufferSize) {found : Content}
    (hfind : archive.find? first.content.address = some found) :
    first.perform.run service = (.ok first.content.address, service) := by
  have hstored := backend.run_put archive first.content
  rw [← hkeeps.store, Archive.insertNew_of_eq_some hfind, ← hkeeps.store] at hstored
  rw [h.run_perform hkeeps, hstored]

end Store

/-- **An address tells what was put.**  Whatever is done to a service before and in between, two
accepted puts hand their contents to the store and give the addresses of these, and the contents are
the same just when the puts are alike.  Then the second put gives the address of the first and
changes nothing.  To whom a box goes makes no difference to a put.  Puts that are not alike have
different addresses, or the digest collides on two different messages. -/
theorem identified_by_address (backend : Backend) {settings : Settings}
    {start : CredentialService backend.State} (hstart : create backend.empty settings = .ok start)
    (before between : List ServiceAction) (hfirst : first.Accepted) (hsecond : second.Accepted) :
    let service := run start before
    let answered := first.perform.run service
    let later := run answered.2 between
    let answeredLater := second.perform.run later
    answered = (.ok first.content.address, { service with
        store := ((ObjectStore.put first.content).run service.store).2 })
      ∧ answeredLater = (.ok second.content.address, { later with
        store := ((ObjectStore.put second.content).run later.store).2 })
      ∧ (first.content = second.content ↔ first.Alike second)
      ∧ (first.Alike second → answeredLater = (answered.1, later))
      ∧ (∀ others, others ≠ [] →
        { first with recipients := others }.perform.run service = answered)
      ∧ (¬ first.Alike second → answered.1 = answeredLater.1 →
        first.content.stream ≠ second.content.stream
          ∧ Digest.Blake3.deriveKey Content.digestContext first.content.stream
            = Digest.Blake3.deriveKey Content.digestContext second.content.stream) := by
  intro service answered later answeredLater
  have hbefore := (keeps_of_create hstart).run before
  have hput : answered = _ := hfirst.run_perform hbefore
  have hlater := (hbefore.keeps_of_put first.container first.issuer first.now
    (putFault?_eq_none hfirst.recipients hfirst.box)).run between
  have hlaterPut : answeredLater = _ := hsecond.run_perform hlater
  have hcontent := content_eq_iff hfirst hsecond
  refine ⟨hput, hlaterPut, hcontent, fun halike => ?_, fun others hothers => ?_,
    fun hnot haddress => ?_⟩
  · -- whatever the first put has left at the address is still there, so nothing is added
    obtain ⟨found, hfound, -⟩ := Archive.find?_insertNew_self
      (Archive.empty.insertAll (before.filterMap ServiceAction.content?)) first.content
    have hfind := Archive.find?_insertAll_of_eq_some hfound
      (between.filterMap ServiceAction.content?)
    have haddress := congrArg Content.address (hcontent.2 halike)
    rw [haddress] at hfind hput
    rw [hput]
    exact hsecond.run_perform_of_find? hlater hfind
  · have haccepted : Accepted { first with recipients := others } :=
      ⟨hothers, hfirst.box, hfirst.length, hfirst.now⟩
    exact (haccepted.run_perform hbefore).trans hput.symm
  · rw [hput, hlaterPut] at haddress
    exact Content.collision_of_objectId_eq hfirst.sized_content hsecond.sized_content
      (mt hcontent.1 hnot) (congrArg Address.object (Except.ok.inj haddress))

/-- A box put twice by a clock that has not come to the epoch, for different recipients, while the
pool is closed and the tables are opened again in between. -/
theorem identified_by_address_before_epoch :
    let issuer : OwnerId := ⟨Block.replicate 32 0x22⟩
    let first : BoxPut := ⟨⟨Block.replicate 32 0x11⟩, issuer, ⟨[2], [], []⟩, [⟨Curve.base⟩], -5⟩
    let second : BoxPut := { first with recipients := [⟨Curve.base⟩, ⟨Curve.base⟩], now := 0 }
    first.Accepted ∧ second.Accepted ∧ first.Alike second
      ∧ ∃ start : CredentialService Backend.database.State,
        create Backend.database.empty .default = .ok start
          ∧ let answered := first.perform.run start
            let later := run answered.2 [.closePool, .reopen]
            second.perform.run later = (answered.1, later) := by
  intro issuer first second
  have hlength : first.box.encode.length < 2 ^ 64 := by decide +kernel
  have hfirst : first.Accepted := ⟨List.cons_ne_nil _ _, rfl, hlength, by decide⟩
  have hsecond : second.Accepted := ⟨List.cons_ne_nil _ _, rfl, hlength, by decide⟩
  have halike : first.Alike second := ⟨rfl, rfl, rfl, rfl⟩
  obtain ⟨start, hstart⟩ : ∃ start, create Backend.database.empty .default = .ok start := ⟨_, rfl⟩
  obtain ⟨-, -, -, hagain, -⟩ := identified_by_address Backend.database hstart []
    [.closePool, .reopen] hfirst hsecond
  exact ⟨hfirst, hsecond, halike, start, hstart, hagain halike⟩

end BoxPut

end Coffer
