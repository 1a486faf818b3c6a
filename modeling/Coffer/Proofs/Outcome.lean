import Mathlib.Data.List.Forall2

/-!
# Proofs/Outcome — when a computation succeeds

A chain of computations that may fail succeeds just when each of its links does
(`Except.bind_eq_ok_iff`), and so does one that also passes on a state
(`StateT.run_bind_eq_ok_iff`); one such computation for each item of a list gives one result for
each item (`Except.mapM_eq_ok_iff`), unless one fails, of which the first counts
(`Except.mapM_eq_error_iff`, `StateT.run_mapM_eq_error_iff`).
-/

namespace Except

variable {ε δ α β : Type}

theorem bind_eq_ok_iff {x : Except ε α} {f : α → Except ε β} {b : β} :
    (x >>= f) = .ok b ↔ ∃ a, x = .ok a ∧ f a = .ok b := by
  cases x with
  | error cause => simp [bind, Except.bind]
  | ok a => simp [bind, Except.bind]

theorem bind_eq_error_iff {x : Except ε α} {f : α → Except ε β} {cause : ε} :
    (x >>= f) = .error cause ↔ x = .error cause ∨ ∃ a, x = .ok a ∧ f a = .error cause := by
  cases x with
  | error found => simp [bind, Except.bind]
  | ok a => simp [bind, Except.bind]

theorem bind_pure_eq_ok_iff {x : Except ε α} {f : α → β} {b : β} :
    (x >>= fun a => pure (f a)) = .ok b ↔ ∃ a, x = .ok a ∧ f a = b := by
  cases x with
  | error cause => simp [bind, Except.bind]
  | ok a => simp [bind, Except.bind, pure, Except.pure]

theorem bind_pure_eq_error_iff {x : Except ε α} {f : α → β} {cause : ε} :
    (x >>= fun a => pure (f a)) = .error cause ↔ x = .error cause := by
  cases x <;> simp [bind, Except.bind, pure, Except.pure]

theorem map_eq_ok_iff {x : Except ε α} {f : α → β} {b : β} :
    x.map f = .ok b ↔ ∃ a, x = .ok a ∧ f a = b := by
  cases x <;> simp [Except.map]

theorem exists_eq_ok_of_isOk {x : Except ε α} (h : x.isOk = true) : ∃ a, x = .ok a := by
  cases x with
  | error cause => cases h
  | ok a => exact ⟨a, rfl⟩

theorem mapError_eq_ok_iff {x : Except ε α} {f : ε → δ} {a : α} :
    x.mapError f = .ok a ↔ x = .ok a := by
  cases x <;> simp [Except.mapError]

theorem mapError_eq_error_iff {x : Except ε α} {f : ε → δ} {cause : δ} :
    x.mapError f = .error cause ↔ ∃ found, x = .error found ∧ f found = cause := by
  cases x <;> simp [Except.mapError]

/-- **One computation for each item of a list** succeeds just when each does. -/
theorem mapM_eq_ok_iff {f : α → Except ε β} {items : List α} {results : List β} :
    items.mapM f = .ok results
      ↔ List.Forall₂ (fun item result => f item = .ok result) items results := by
  induction items generalizing results with
  | nil =>
    rw [List.mapM_nil, List.forall₂_nil_left_iff]
    exact ⟨fun h => (Except.ok.inj h).symm, fun h => h ▸ rfl⟩
  | cons item items ih =>
    simp only [List.mapM_cons, bind_eq_ok_iff, ih, List.forall₂_cons_left_iff]
    constructor
    · rintro ⟨result, hfirst, others, hrest, heq⟩
      exact ⟨result, others, hfirst, hrest, (Except.ok.inj heq).symm⟩
    · rintro ⟨result, others, hfirst, hrest, rfl⟩
      exact ⟨result, hfirst, others, hrest, rfl⟩

/-- **The first computation that fails** gives the failure of all. -/
theorem mapM_eq_error_iff {f : α → Except ε β} {items : List α} {cause : ε} :
    items.mapM f = .error cause ↔ ∃ before item after, items = before ++ item :: after
      ∧ (∀ earlier ∈ before, ∃ result, f earlier = .ok result) ∧ f item = .error cause := by
  constructor
  · intro h
    induction items with
    | nil => cases h
    | cons item items ih =>
      rw [List.mapM_cons, bind_eq_error_iff] at h
      obtain hitem | ⟨result, hitem, h⟩ := h
      · exact ⟨[], item, items, rfl, List.forall_mem_nil _, hitem⟩
      · rw [bind_eq_error_iff] at h
        obtain hrest | ⟨others, -, h⟩ := h
        · obtain ⟨before, first, after, rfl, hbefore, hfirst⟩ := ih hrest
          exact ⟨item :: before, first, after, rfl,
            List.forall_mem_cons.2 ⟨⟨result, hitem⟩, hbefore⟩, hfirst⟩
        · cases h
  · rintro ⟨before, item, after, rfl, hbefore, hitem⟩
    induction before with
    | nil =>
      rw [List.nil_append, List.mapM_cons, hitem]
      rfl
    | cons earlier before ih =>
      obtain ⟨⟨result, hearlier⟩, hothers⟩ := List.forall_mem_cons.1 hbefore
      rw [List.cons_append, List.mapM_cons, hearlier, ih hothers]
      rfl

end Except

namespace StateM

variable {σ α β : Type}

/-- What comes second starts where the first has ended. -/
theorem run_bind (x : StateM σ α) (f : α → StateM σ β) (s : σ) :
    (x >>= f).run s = (f (x.run s).1).run (x.run s).2 := rfl

/-- The first item comes first, and the others start where it has ended. -/
theorem run_mapM_cons (f : α → StateM σ β) (item : α) (items : List α) (s : σ) :
    ((item :: items).mapM f).run s
      = (((f item).run s).1 :: ((items.mapM f).run ((f item).run s).2).1,
        ((items.mapM f).run ((f item).run s).2).2) := by
  rw [List.mapM_cons]
  rfl

end StateM

namespace StateT

variable {σ ε α β : Type}

theorem run_bind_eq_ok_iff {x : StateT σ (Except ε) α} {f : α → StateT σ (Except ε) β}
    {s t : σ} {b : β} :
    (x >>= f).run s = .ok (b, t) ↔ ∃ a u, x.run s = .ok (a, u) ∧ (f a).run u = .ok (b, t) := by
  rw [StateT.run_bind, Except.bind_eq_ok_iff]
  simp only [Prod.exists]

theorem run_pure_eq_ok_iff {a b : α} {s t : σ} :
    (pure a : StateT σ (Except ε) α).run s = .ok (b, t) ↔ a = b ∧ s = t := by
  change Except.ok (a, s) = Except.ok (b, t) ↔ _
  simp

/-- A computation without a state leaves the state as it is. -/
theorem run_liftM_eq_ok_iff {x : Except ε α} {a : α} {s t : σ} :
    (liftM x : StateT σ (Except ε) α).run s = .ok (a, t) ↔ x = .ok a ∧ s = t := by
  change (x >>= fun b => Except.ok (b, s)) = Except.ok (a, t) ↔ _
  cases x with
  | error cause => simp [bind, Except.bind]
  | ok b => simp [bind, Except.bind]

theorem run_bind_eq_error_iff {x : StateT σ (Except ε) α} {f : α → StateT σ (Except ε) β}
    {s : σ} {cause : ε} :
    (x >>= f).run s = .error cause
      ↔ x.run s = .error cause ∨ ∃ a u, x.run s = .ok (a, u) ∧ (f a).run u = .error cause := by
  rw [StateT.run_bind, Except.bind_eq_error_iff]
  simp only [Prod.exists]

theorem run_pure_ne_error {a : α} {s : σ} {cause : ε} :
    (pure a : StateT σ (Except ε) α).run s ≠ .error cause := nofun

theorem run_liftM_eq_error_iff {x : Except ε α} {s : σ} {cause : ε} :
    (liftM x : StateT σ (Except ε) α).run s = .error cause ↔ x = .error cause := by
  change (x >>= fun b => Except.ok (b, s)) = Except.error cause ↔ _
  cases x <;> simp [bind, Except.bind]

/-- **The first computation that fails**, after those before it, gives the failure of all. -/
theorem run_mapM_eq_error_iff {f : α → StateT σ (Except ε) β} {items : List α} {s : σ}
    {cause : ε} :
    (items.mapM f).run s = .error cause ↔ ∃ before item after results u,
      items = before ++ item :: after ∧ (before.mapM f).run s = .ok (results, u)
        ∧ (f item).run u = .error cause := by
  constructor
  · intro h
    induction items generalizing s with
    | nil => exact absurd h run_pure_ne_error
    | cons first items ih =>
      rw [List.mapM_cons, run_bind_eq_error_iff] at h
      obtain hfirst | ⟨result, u, hfirst, h⟩ := h
      · exact ⟨[], first, items, [], s, rfl, rfl, hfirst⟩
      · obtain hrest | ⟨_, _, _, h⟩ := run_bind_eq_error_iff.1 h
        · obtain ⟨before, item, after, results, v, rfl, hbefore, hitem⟩ := ih hrest
          refine ⟨first :: before, item, after, result :: results, v, rfl, ?_, hitem⟩
          simp only [List.mapM_cons, run_bind_eq_ok_iff, run_pure_eq_ok_iff]
          exact ⟨result, u, hfirst, results, v, hbefore, rfl, rfl⟩
        · exact absurd h run_pure_ne_error
  · rintro ⟨before, item, after, results, u, rfl, hbefore, hitem⟩
    induction before generalizing s results with
    | nil =>
      obtain ⟨rfl, rfl⟩ := run_pure_eq_ok_iff.1 hbefore
      rw [List.nil_append, List.mapM_cons, run_bind_eq_error_iff]
      exact .inl hitem
    | cons first before ih =>
      simp only [List.mapM_cons, run_bind_eq_ok_iff, run_pure_eq_ok_iff] at hbefore
      obtain ⟨result, v, hfirst, others, w, hothers, rfl, rfl⟩ := hbefore
      rw [List.cons_append, List.mapM_cons, run_bind_eq_error_iff]
      exact .inr ⟨result, v, hfirst, run_bind_eq_error_iff.2 (.inl (ih others hothers))⟩

end StateT
