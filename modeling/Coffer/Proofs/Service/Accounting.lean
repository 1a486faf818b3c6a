import Coffer.Proofs.Service.Isolation
import Coffer.Proofs.Service.Safekeeping
import Coffer.Store.Wrapped

/-!
# Proofs/Service/Accounting — one call of the store for each call of the service

A service over a counted store answers as it does over the store itself, whatever store that is, and
each of its calls makes the calls on the store that `ServiceCall` tells: one if a box is put that is
not refused, one if a box is fetched with a buffer, and none otherwise
(`CredentialService.Steady.run_perform_counted`).  So after any run the counts are those of the
run's calls (`CredentialService.store_calls_settled`).
-/

namespace Coffer

/-! ## Calls and their answers -/

/-- **A call of a service**, with what the caller hands over. -/
inductive ServiceCall
  /-- Put a box. -/
  | put (container : ContainerId) (issuer : OwnerId) (box : AccessBox)
      (recipients : List PublicKey) (now : Int)
  /-- Fetch a box. -/
  | fetch (address : Address)
  /-- Fetch a box and unpack it. -/
  | fetchUnpacked (address : Address) (key : PrivateKey)
  /-- Fetch a box and open a gate of it. -/
  | fetchGate (address : Address) (key : PrivateKey)
  /-- Close the pool. -/
  | closePool
  /-- Do something to the pool or to a buffer that is out. -/
  | lend (action : PoolAction)
  /-- Get a header directly from the store. -/
  | getHeader (address : Address)
deriving DecidableEq

/-- **What the caller sees** of a call. -/
inductive ServiceAnswer
  /-- The address of the box that was put. -/
  | put (outcome : Except ServiceError Address)
  /-- The box that was fetched. -/
  | fetched (outcome : Except ServiceError AccessBox)
  /-- What the box holds for a key. -/
  | unpacked (outcome : Except ServiceError Unpacked)
  /-- What a gate of the box holds for a key. -/
  | gate (outcome : Except ServiceError GateContent)
  /-- How many buffers were dropped. -/
  | closed (dropped : Nat)
  /-- What came of an action on the pool. -/
  | lent (answer : PoolAnswer)
  /-- The header. -/
  | header (outcome : Except StoreError Header)

namespace ServiceCall

/-- Performs a call on a service. -/
def perform {σ : Type} [ObjectStore σ] : ServiceCall → StateM (CredentialService σ) ServiceAnswer
  | put container issuer box recipients now =>
    return .put (← CredentialService.put container issuer box recipients now)
  | fetch address => return .fetched (← CredentialService.fetch address)
  | fetchUnpacked address key => return .unpacked (← CredentialService.fetchUnpacked address key)
  | fetchGate address key => return .gate (← CredentialService.fetchGate address key)
  | closePool => return .closed (← CredentialService.closePool)
  | lend action => return .lent (← CredentialService.onLending (·.step action))
  | getHeader address => return .header (← CredentialService.onStore (ObjectStore.head address))

/-- Whether a box is put that is not refused: there are recipients, and it holds something. -/
def putsBox : ServiceCall → Bool
  | put _ _ box recipients _ => decide (recipients ≠ [] ∧ box ≠ .empty)
  | _ => false

/-- Whether a box is fetched, whatever is done with it then. -/
def fetchesBox : ServiceCall → Bool
  | fetch _ | fetchUnpacked _ _ | fetchGate _ _ => true
  | _ => false

/-- Whether a payload is asked for, under these settings: a box is fetched, and there can be room
for a buffer. -/
def getsPayload (settings : Settings) (call : ServiceCall) : Bool :=
  call.fetchesBox && decide (settings.bufferSize ≤ roomLimit)

/-- Whether a header is asked for directly. -/
def getsHeader : ServiceCall → Bool
  | getHeader _ => true
  | _ => false

end ServiceCall

namespace CredentialService

variable {σ : Type} {settings : Settings}

/-- **The same service** over the store counted from some counts on. -/
def counted (service : CredentialService σ) (puts gets heads : Nat) :
    CredentialService (Counted σ) :=
  ⟨⟨service.store, puts, gets, heads⟩, service.lending, service.settings⟩

theorem create_counted {store : σ} {start : CredentialService σ}
    (h : create store settings = .ok start) :
    create (Counted.fresh store) settings = .ok (start.counted 0 0 0) := by
  simp only [create] at h ⊢
  cases hpool : settings.pool with
  | error cause =>
    rw [hpool] at h
    cases h
  | ok pool =>
    rw [hpool] at h
    cases h
    rfl

variable [ObjectStore σ] {service : CredentialService σ}

/-! ## Putting -/

section Put

variable (container : ContainerId) (issuer : OwnerId) {box : AccessBox}
  {recipients : List PublicKey} (now : Int)

theorem run_put_of_recipients_eq_nil (h : recipients = []) :
    (put container issuer box recipients now).run service = (.error .noRecipients, service) :=
  run_put_of_fault container issuer now (if_pos h)

theorem run_put_of_eq_empty (h : recipients ≠ []) (hbox : box = .empty) :
    (put container issuer box recipients now).run service = (.error .emptyBox, service) :=
  run_put_of_fault container issuer now
    ((if_neg h).trans (if_pos (AccessBox.isEmpty_iff.2 hbox)))

theorem run_put_of_ne_empty (h : recipients ≠ []) (hbox : box ≠ .empty) :
    let stored := (ObjectStore.put (boxContent container issuer box now)).run service.store
    (put container issuer box recipients now).run service
      = ((stored.1.mapError .ofStoreError).map fun object => ⟨container, object⟩,
        { service with store := stored.2 }) :=
  run_put_of_putFault?_eq_none container issuer now
    (putFault?_eq_none h (Bool.eq_false_iff.2 (mt AccessBox.isEmpty_iff.1 hbox)))

/-! ## Calls of a service over a counted store -/

theorem run_put_counted (puts gets heads : Nat) :
    (put container issuer box recipients now).run (service.counted puts gets heads)
      = let answered := (put container issuer box recipients now).run service
        let stored := if decide (recipients ≠ [] ∧ box ≠ .empty) then 1 else 0
        (answered.1, answered.2.counted (puts + stored) gets heads) := by
  by_cases hrecipients : recipients = []
  · have hrefused : ¬ (recipients ≠ [] ∧ box ≠ .empty) := fun h => h.1 hrecipients
    rw [run_put_of_recipients_eq_nil container issuer now hrecipients,
      run_put_of_recipients_eq_nil container issuer now hrecipients, decide_eq_false hrefused]
    rfl
  by_cases hbox : box = .empty
  · have hrefused : ¬ (recipients ≠ [] ∧ box ≠ .empty) := fun h => h.2 hbox
    rw [run_put_of_eq_empty container issuer now hrecipients hbox,
      run_put_of_eq_empty container issuer now hrecipients hbox, decide_eq_false hrefused]
    rfl
  · rw [run_put_of_ne_empty container issuer now hrecipients hbox,
      run_put_of_ne_empty container issuer now hrecipients hbox,
      decide_eq_true (And.intro hrecipients hbox)]
    rfl

end Put

variable (puts gets heads : Nat)

/-- **A fetch** asks the store once if there is room for a buffer, and does nothing otherwise. -/
theorem Steady.run_fetch_counted (h : service.Steady settings) (address : Address) :
    (fetch address).run (service.counted puts gets heads)
      = let fetched := (fetch address).run service
        let got := if decide (settings.bufferSize ≤ roomLimit) then 1 else 0
        (fetched.1, fetched.2.counted puts (gets + got) heads) := by
  have hsize : service.lending.pool.bufferSize = settings.bufferSize :=
    congrArg BufferPool.bufferSize h.anew_eq
  -- the pool is the same with and without counting, and so is the buffer that is taken
  by_cases hroom : settings.bufferSize ≤ roomLimit
  · obtain ⟨buffer, hbuffer, hempty⟩ := h.sound.acquire_of_le (hsize.trans_le hroom)
    have hcounted : (service.counted puts gets heads).lending.pool.acquire.1 = .ok buffer := hbuffer
    rw [run_fetch_eq hcounted hempty, run_fetch_eq hbuffer hempty, decide_eq_true hroom]
    rfl
  · have hnone := h.sound.acquire_of_lt (hsize.symm ▸ Nat.not_le.1 hroom)
    have hcounted : (service.counted puts gets heads).lending.pool.acquire
      = (.error .tooLarge, (service.counted puts gets heads).lending.pool) := hnone
    rw [run_fetch_of_acquire_eq_error hcounted, run_fetch_of_acquire_eq_error hnone,
      decide_eq_false hroom]
    rfl

/-- **Each call** of the service makes the calls on the store that it tells. -/
theorem Steady.run_perform_counted (h : service.Steady settings) (call : ServiceCall) :
    call.perform.run (service.counted puts gets heads)
      = let performed := call.perform.run service
        let stored := if call.putsBox then 1 else 0
        let got := if call.getsPayload settings then 1 else 0
        let told := if call.getsHeader then 1 else 0
        (performed.1, performed.2.counted (puts + stored) (gets + got) (heads + told)) := by
  cases call with
  | put container issuer box recipients now =>
    rw [ServiceCall.perform, ServiceCall.perform, StateM.run_bind, run_put_counted]
    rfl
  | fetch address =>
    rw [ServiceCall.perform, ServiceCall.perform, StateM.run_bind, h.run_fetch_counted]
    rfl
  | fetchUnpacked address key =>
    rw [ServiceCall.perform, ServiceCall.perform, StateM.run_bind, StateM.run_bind,
      run_fetchUnpacked, run_fetchUnpacked, h.run_fetch_counted]
    rfl
  | fetchGate address key =>
    rw [ServiceCall.perform, ServiceCall.perform, StateM.run_bind, StateM.run_bind,
      run_fetchGate, run_fetchGate, run_fetchUnpacked, run_fetchUnpacked, h.run_fetch_counted]
    rfl
  | closePool => rfl
  | lend action => rfl
  | getHeader address => rfl

/-! ## Runs -/

/-- **What is done by a call** can be done to a service that is reached. -/
theorem Reached.perform (h : Reached settings service) (call : ServiceCall) :
    Reached settings (call.perform.run service).2 := by
  cases call with
  | put container issuer box recipients now => exact h.put container issuer box recipients now
  | fetch address => exact h.fetched address
  | fetchUnpacked address key => exact h.unpacked address key
  | fetchGate address key => exact h.opened address key
  | closePool => exact h.closed
  | lend action => exact h.lent action
  | getHeader address => exact h.stored _

/-- **After a run** each count has grown by the number of the calls that it is for. -/
theorem Reached.run_mapM_perform_counted (h : Reached settings service)
    (calls : List ServiceCall) :
    (calls.mapM ServiceCall.perform).run (service.counted puts gets heads)
      = let performed := (calls.mapM ServiceCall.perform).run service
        (performed.1, performed.2.counted (puts + calls.countP ServiceCall.putsBox)
          (gets + calls.countP (ServiceCall.getsPayload settings))
          (heads + calls.countP ServiceCall.getsHeader)) := by
  induction calls generalizing service puts gets heads with
  | nil => rfl
  | cons call calls ih =>
    rw [StateM.run_mapM_cons, StateM.run_mapM_cons, h.steady.run_perform_counted]
    dsimp only
    rw [ih _ _ _ (h.perform call)]
    simp only [List.countP_cons, ← Nat.add_assoc, Nat.add_right_comm]

theorem countP_getsPayload (settings : Settings) (calls : List ServiceCall) :
    calls.countP (ServiceCall.getsPayload settings)
      = if settings.bufferSize ≤ roomLimit then calls.countP ServiceCall.fetchesBox else 0 := by
  split
  · rename_i hroom
    refine List.countP_congr fun call _ => ?_
    rw [ServiceCall.getsPayload, decide_eq_true hroom, Bool.and_true]
  · rename_i hroom
    refine List.countP_eq_zero.2 fun call _ hcall => hroom ?_
    exact of_decide_eq_true (Bool.and_eq_true_iff.1 hcall).2

/-- **Each call of a service is at most one call on its store.**  Over any store, failing ones
included, a service answers as it does when the calls on the store are counted.  After any run the
store has been called once for each put with recipients of a box that holds something, once for each
header, and once for each fetch, whatever came of it; only when there cannot be room for a buffer is
nothing asked for.  A put without recipients is refused, and so is one of a box that holds nothing,
and then nothing at all has changed; any other is one call on the store, and answers what that call
answers. -/
theorem store_calls_settled (store : σ) {start : CredentialService σ}
    (hstart : create store settings = .ok start) (calls : List ServiceCall) :
    ∃ startCounted, create (Counted.fresh store) settings = .ok startCounted
      ∧ let run := (calls.mapM ServiceCall.perform).run start
        let runCounted := (calls.mapM ServiceCall.perform).run startCounted
        let after := runCounted.2
        runCounted.1 = run.1 ∧ after.store.inner = run.2.store ∧ after.lending = run.2.lending
        ∧ after.store.puts = calls.countP ServiceCall.putsBox
        ∧ after.store.gets
          = (if settings.bufferSize ≤ roomLimit then calls.countP ServiceCall.fetchesBox else 0)
        ∧ after.store.heads = calls.countP ServiceCall.getsHeader
        ∧ ((∀ call ∈ calls, call.getsHeader = false) →
          after.store.calls = after.store.puts + after.store.gets)
        ∧ ∀ container issuer box recipients now,
          let stored :=
            (ObjectStore.put (boxContent container issuer box now)).run after.store.inner
          let answered := (put container issuer box recipients now).run after
          (recipients = [] → answered = (.error .noRecipients, after))
          ∧ (recipients ≠ [] → box = .empty → answered = (.error .emptyBox, after))
          ∧ (recipients ≠ [] → box ≠ .empty →
            answered = ((stored.1.mapError .ofStoreError).map fun object => ⟨container, object⟩,
              { after with store :=
                ⟨stored.2, after.store.puts + 1, after.store.gets, after.store.heads⟩ })) := by
  refine ⟨start.counted 0 0 0, create_counted hstart, ?_⟩
  intro run runCounted after
  have hrun : runCounted = _ := (Reached.created hstart).run_mapM_perform_counted 0 0 0 calls
  simp only [Nat.zero_add, countP_getsPayload] at hrun
  have hafter : after = _ := congrArg Prod.snd hrun
  have hheads : after.store.heads = calls.countP ServiceCall.getsHeader :=
    congrArg (fun service => service.store.heads) hafter
  refine ⟨congrArg Prod.fst hrun, congrArg (fun service => service.store.inner) hafter,
    congrArg lending hafter, congrArg (fun service => service.store.puts) hafter,
    congrArg (fun service => service.store.gets) hafter, hheads, fun hnone => ?_,
    fun container issuer box recipients now => ⟨?_, ?_, ?_⟩⟩
  · rw [List.countP_eq_zero.2 fun call hmem => Bool.eq_false_iff.1 (hnone call hmem)] at hheads
    rw [Counted.calls, hheads, Nat.add_zero]
  · exact run_put_of_recipients_eq_nil container issuer now
  · exact run_put_of_eq_empty container issuer now
  · exact run_put_of_ne_empty container issuer now

/-- Two puts of which one is refused, two fetches and a header, over a store that fails. -/
theorem store_calls_settled_unavailable :
    let address : Address := ⟨⟨Block.replicate 32 0x11⟩, ⟨Block.replicate 32 0x33⟩⟩
    let issuer : OwnerId := ⟨Block.replicate 32 0x22⟩
    let calls : List ServiceCall :=
      [.put address.container issuer ⟨[2], [], []⟩ [⟨Curve.base⟩] 17, .fetch address,
        .put address.container issuer .empty [] 17, .getHeader address, .fetch address]
    ∃ start, create Unavailable.unavailable .default = .ok start
      ∧ ∃ startCounted, create (Counted.fresh Unavailable.unavailable) .default = .ok startCounted
        ∧ let run := (calls.mapM ServiceCall.perform).run start
          let runCounted := (calls.mapM ServiceCall.perform).run startCounted
          runCounted.1 = run.1 ∧ runCounted.2.store.puts = 1 ∧ runCounted.2.store.gets = 2
          ∧ runCounted.2.store.heads = 1 := by
  intro address issuer calls
  obtain ⟨start, hstart⟩ : ∃ start, create Unavailable.unavailable .default = .ok start := ⟨_, rfl⟩
  obtain ⟨startCounted, hcounted, hanswers, -, -, hputs, hgets, hheads, -⟩ :=
    store_calls_settled Unavailable.unavailable hstart calls
  exact ⟨start, hstart, startCounted, hcounted, hanswers, hputs, hgets, hheads⟩

/-- **Without room for a buffer a fetch is no call on the store.** -/
theorem fetch_not_counted_without_room :
    let address : Address := ⟨⟨Block.replicate 32 0⟩, ⟨Block.replicate 32 0⟩⟩
    let settings : Settings := { Settings.default with bufferSize := 0x8000000000000000 }
    let calls : List ServiceCall := [.fetch address]
    ∃ start, create (Counted.fresh ObjectMap.empty) settings = .ok start
      ∧ ((calls.mapM ServiceCall.perform).run start).2.store.gets
        ≠ calls.countP ServiceCall.fetchesBox := by
  intro address settings calls
  refine ⟨_, rfl, ?_⟩
  exact Nat.zero_ne_one

end CredentialService

end Coffer
