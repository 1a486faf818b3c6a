import Mathlib.Order.Bounds.Basic
import Coffer.Proofs.Store.Interchange

/-!
# Proofs/Store/Migration — tables that are brought up to date, or left alone

Tables are brought to the current version by several statements, the later ones in a transaction
(`Database.migration`); all of them together do what `Database.migrate` says
(`Database.run_migration`).  Calls leave the table of versions alone, so tables that are current
stay so, and opening them again does nothing (`Database.Current.run_answers`).  Hence which versions
are noted and whether there is a table of objects decides what becomes of a database
(`Database.migrate_settles`).
-/

namespace Coffer

/-! ## Statements -/

/-- **A statement** on a database, which may fail; what was done by then stays. -/
abbrev Statement (α : Type) := ExceptT StoreError (StateM Database) α

namespace Statement

variable {α β : Type} {statement : Statement α} {next : α → Statement β} {database after : Database}

/-- **A transaction**: if a statement in it fails, the database is as it was before. -/
def transaction (body : Statement α) : Statement α := ExceptT.mk fun database =>
  match body.run.run database with
  | (.ok result, after) => (.ok result, after)
  | (.error cause, _) => (.error cause, database)

/-- After a statement that succeeds comes the next one. -/
theorem run_bind_of_ok {result : α} (h : statement.run.run database = (.ok result, after)) :
    (statement >>= next).run.run database = (next result).run.run after := by
  rw [ExceptT.run_bind, StateM.run_bind, h]

/-- After a statement that fails comes nothing. -/
theorem run_bind_of_error {cause : StoreError}
    (h : statement.run.run database = (.error cause, after)) :
    (statement >>= next).run.run database = (.error cause, after) := by
  rw [ExceptT.run_bind, StateM.run_bind, h]
  rfl

theorem run_transaction_of_ok {result : α}
    (h : statement.run.run database = (.ok result, after)) :
    (transaction statement).run.run database = (.ok result, after) := by
  rw [transaction, ExceptT.run_mk, StateT.run, h]

/-- **A transaction that fails** has done nothing. -/
theorem run_transaction_of_error {cause : StoreError}
    (h : statement.run.run database = (.error cause, after)) :
    (transaction statement).run.run database = (.error cause, database) := by
  rw [transaction, ExceptT.run_mk, StateT.run, h]

end Statement

namespace Database

open Statement

/-! ## The statements of a migration -/

/-- The failure of a statement on the table of versions when there is none. -/
def noVersions : StoreError := .database "no such table: schema_migrations"

/-- Makes a table of versions, if there is none. -/
def createVersions : Statement Unit := ExceptT.mk fun database =>
  (.ok (), { database with versions := some (database.versions.getD []) })

/-- The largest version in the table of versions, if it can be told apart. -/
def readVersion : Statement Nat := ExceptT.mk fun database =>
  match database.versions with
  | none => (.error noVersions, database)
  | some versions =>
    let found := largestVersion versions
    if found < 0 ∨ versionLimit ≤ found then (.error (.database "version out of range"), database)
    else (.ok found.toNat, database)

/-- Makes a table of objects, unless there is one already. -/
def createObjects : Statement Unit := ExceptT.mk fun database =>
  match database.objects with
  | some _ => (.error (.database "table objects already exists"), database)
  | none => (.ok (), { database with objects := some [] })

/-- Notes a version, unless it is noted already. -/
def noteVersion (version : Nat) : Statement Unit := ExceptT.mk fun database =>
  match database.versions with
  | none => (.error noVersions, database)
  | some versions =>
    if (version : Int) ∈ versions then (.error (.database "version already noted"), database)
    else (.ok (), { database with versions := some (versions ++ [(version : Int)]) })

/-- Sets up what is new in a version. -/
def setUp : Nat → Statement Unit
  | 1 => createObjects
  | version => throw (.migration ("unknown migration version: " ++ toString version))

/-- **Sets up all later versions** and notes them, or does nothing. -/
def upgrade (version : Nat) : Statement Unit :=
  transaction <| (List.range' (version + 1) (currentVersion - version)).forM fun version => do
    setUp version
    noteVersion version

/-- **The statements of a migration.** -/
def migration : Statement Unit := do
  createVersions
  let version ← readVersion
  if currentVersion < version then throw (newerVersion version)
  else if version < currentVersion then upgrade version

/-! ## The largest version -/

variable {database after : Database} {versions : List Int}

theorem max?_eq_some_largestVersion (h : versions ≠ []) :
    versions.max? = some (largestVersion versions) := by
  cases versions with
  | nil => exact absurd rfl h
  | cons first rest => exact List.max?_cons'

/-- **The largest version** is the greatest of those that are noted. -/
theorem isGreatest_largestVersion (h : versions ≠ []) :
    IsGreatest {version | version ∈ versions} (largestVersion versions) :=
  List.max?_eq_some_iff.1 (max?_eq_some_largestVersion h)

theorem eq_largestVersion {largest : Int}
    (h : IsGreatest {version | version ∈ versions} largest) : largestVersion versions = largest :=
  (isGreatest_largestVersion (List.ne_nil_of_mem h.1)).unique h

theorem le_largestVersion {version : Int} (h : version ∈ versions) :
    version ≤ largestVersion versions :=
  (isGreatest_largestVersion (List.ne_nil_of_mem h)).2 h

theorem largestVersion_eq_zero (h : ∀ version ∈ versions, version = 0) :
    largestVersion versions = 0 := by
  cases versions with
  | nil => rfl
  | cons first rest => exact h _ (isGreatest_largestVersion (List.cons_ne_nil _ _)).1

/-! ## What the statements do -/

/-- The versions that are noted in a database. -/
def noted (database : Database) : List Int := database.versions.getD []

/-- The database with its table of versions, which is made if there is none. -/
def withVersions (database : Database) : Database :=
  { database with versions := some database.noted }

/-- The largest version, if it cannot be told apart from others, is not read. -/
theorem run_readVersion_of_error
    (h : largestVersion database.noted < 0 ∨ versionLimit ≤ largestVersion database.noted) :
    readVersion.run.run database.withVersions
      = (.error (.database "version out of range"), database.withVersions) := if_pos h

theorem run_readVersion {version : Nat} (h : largestVersion database.noted = version)
    (hlimit : (version : Int) < versionLimit) :
    readVersion.run.run database.withVersions = (.ok version, database.withVersions) := by
  have hrange : ¬ ((version : Int) < 0 ∨ versionLimit ≤ version) := by omega
  change (if largestVersion database.noted < 0 ∨ _ then _ else (Except.ok _, _)) = _
  rw [h, if_neg hrange]
  rfl

/-- **Nothing can be set up** beside a table of objects. -/
theorem run_upgrade_of_some {rows : List Row} (h : database.objects = some rows) :
    (upgrade 0).run.run database
      = (.error (.database "table objects already exists"), database) := by
  have hcreate : (setUp 1).run.run database
      = (.error (.database "table objects already exists"), database) := by
    obtain ⟨versions, objects⟩ := database
    obtain rfl : objects = some rows := h
    rfl
  exact run_transaction_of_error (run_bind_of_error (run_bind_of_error hcreate))

/-- **Without a table of objects** there is one afterwards, and its version is noted. -/
theorem run_upgrade_of_none (h : database.objects = none) (hnoted : (1 : Int) ∉ database.noted) :
    (upgrade 0).run.run database.withVersions
      = (.ok (), ⟨some (database.noted ++ [1]), some []⟩) := by
  have hcreate : (setUp 1).run.run database.withVersions
      = (.ok (), ⟨some database.noted, some []⟩) := by
    obtain ⟨versions, objects⟩ := database
    obtain rfl : objects = none := h
    rfl
  have hnote : (noteVersion 1).run.run ⟨some database.noted, some []⟩
      = (.ok (), ⟨some (database.noted ++ [1]), some []⟩) := if_neg hnoted
  have hversion : (setUp 1 >>= fun _ => noteVersion 1).run.run database.withVersions
      = (.ok (), ⟨some (database.noted ++ [1]), some []⟩) := (run_bind_of_ok hcreate).trans hnote
  exact run_transaction_of_ok ((run_bind_of_ok hversion).trans rfl)

/-! ## What becomes of a database -/

/-- **The largest version decides** what becomes of a database. -/
theorem migrate_eq {found : Int} (h : largestVersion database.noted = found) :
    migrate database =
      if found < 0 ∨ versionLimit ≤ found then
        (.error (.database "version out of range"), database.withVersions)
      else if (currentVersion : Int) < found then
        (.error (newerVersion found), database.withVersions)
      else if found = currentVersion then (.ok (), database.withVersions)
      else match database.objects with
        | some _ => (.error (.database "table objects already exists"), database.withVersions)
        | none => (.ok (), ⟨some (database.noted ++ [(currentVersion : Int)]), some []⟩) := by
  subst h
  rfl

theorem migrate_of_lt {version : Int} (h : largestVersion database.noted = version)
    (hnewer : (currentVersion : Int) < version) (hlimit : version < versionLimit) :
    migrate database = (.error (newerVersion version), database.withVersions) := by
  have hpositive : (0 : Int) < version := (Int.natCast_nonneg _).trans_lt hnewer
  rw [migrate_eq h, if_neg (not_or.2 ⟨hpositive.not_gt, hlimit.not_ge⟩), if_pos hnewer]

theorem migrate_of_eq (h : largestVersion database.noted = currentVersion) :
    migrate database = (.ok (), database.withVersions) := migrate_eq h

/-- The tables are set up in front of all versions, if there are no objects. -/
theorem migrate_of_eq_zero (h : largestVersion database.noted = 0) :
    migrate database = match database.objects with
      | some _ => (.error (.database "table objects already exists"), database.withVersions)
      | none => (.ok (), ⟨some (database.noted ++ [1]), some []⟩) := migrate_eq h

/-- A version above the largest one is not noted. -/
theorem one_notMem_noted (h : largestVersion database.noted = 0) : (1 : Int) ∉ database.noted :=
  fun hmem => absurd (h ▸ le_largestVersion hmem) (by decide)

/-- **All statements of a migration together** do what is done in one go. -/
theorem run_migration (database : Database) : migration.run.run database = migrate database := by
  have hcreate : createVersions.run.run database = (.ok (), database.withVersions) := rfl
  rw [migration, run_bind_of_ok hcreate]
  by_cases hrange : largestVersion database.noted < 0 ∨ versionLimit ≤ largestVersion database.noted
  · rw [run_bind_of_error (run_readVersion_of_error hrange), migrate_eq rfl, if_pos hrange]
  · obtain ⟨version, hversion⟩ : ∃ version : Nat, largestVersion database.noted = version :=
      Int.eq_ofNat_of_zero_le (by omega)
    have hlimit : (version : Int) < versionLimit := by omega
    rw [run_bind_of_ok (run_readVersion hversion hlimit)]
    obtain hold | hcurrent | hnewer := Nat.lt_trichotomy version currentVersion
    -- nothing but zero is below the current version, so there is one version to set up
    · obtain rfl : version = 0 := Nat.lt_one_iff.1 hold
      rw [migrate_of_eq_zero hversion, if_neg hold.not_gt, if_pos hold]
      cases hobjects : database.objects with
      | some rows => exact run_upgrade_of_some hobjects
      | none => exact run_upgrade_of_none hobjects (one_notMem_noted hversion)
    · subst hcurrent
      rw [migrate_of_eq hversion, if_neg (lt_irrefl _), if_neg (lt_irrefl _)]
      rfl
    · rw [migrate_of_lt hversion (Int.ofNat_lt.2 hnewer) hlimit, if_pos hnewer]
      rfl

/-! ## Tables that are current -/

/-- **The tables are current** when the current version is the largest that is noted. -/
def Current (database : Database) : Prop :=
  ∃ versions, database.versions = some versions ∧ largestVersion versions = currentVersion

/-- **A migration that succeeds** leaves the tables current. -/
theorem current_of_migrate_eq_ok (h : migrate database = (.ok (), after)) : after.Current := by
  -- it succeeds in two ways: the tables were current, or they were set up
  rw [migrate_eq rfl] at h
  split at h
  · cases h
  split at h
  · cases h
  split at h
  · rename_i hcurrent
    cases h
    exact ⟨database.noted, rfl, hcurrent⟩
  split at h
  · cases h
  · rename_i hnewer hcurrent _ hobjects
    cases h
    refine ⟨_, rfl, eq_largestVersion ⟨List.mem_append_right _ (List.mem_singleton_self _), ?_⟩⟩
    intro version hmem
    obtain hmem | hmem := List.mem_append.1 hmem
    · exact (le_largestVersion hmem).trans (not_lt.1 hnewer)
    · exact (List.mem_singleton.1 hmem).le

/-- **No call** touches the versions. -/
theorem versions_perform (database : Database) (call : StoreCall) :
    (call.perform.run database).2.versions = database.versions := by
  cases call with
  | put content =>
    obtain ⟨versions, objects⟩ := database
    cases objects with
    | none => rfl
    | some rows => rfl
  | get address buffer =>
    simp only [StoreCall.perform, ObjectStore.getInto, StateM.run_bind]
    cases ((ObjectStore.get address).run database).1 with
    | ok payload => rfl
    | error cause => rfl
  | head address => rfl

namespace Current

variable (h : database.Current)
include h

theorem migrate : database.migrate = (.ok (), database) := by
  obtain ⟨versions, hversions, hcurrent⟩ := h
  obtain ⟨noted, objects⟩ := database
  obtain rfl : noted = some versions := hversions
  exact migrate_of_eq hcurrent

theorem perform (call : StoreCall) : (call.perform.run database).2.Current := by
  obtain ⟨versions, hversions, hcurrent⟩ := h
  exact ⟨versions, (versions_perform database call).trans hversions, hcurrent⟩

/-- **Opening tables again** that are current can be left out of any steps. -/
theorem run_answers (steps : List DatabaseStep) :
    let calls := steps.filterMap DatabaseStep.call?
    let performed := (calls.mapM StoreCall.perform).run database
    (answers steps).run database = (.ok performed.1, performed.2) := by
  induction steps generalizing database with
  | nil => rfl
  | cons step steps ih =>
    cases step with
    | perform call =>
      have hperformed := StateM.run_mapM_cons StoreCall.perform call
        (steps.filterMap DatabaseStep.call?) database
      have hrest := ih (h.perform call)
      change _ = (Except.ok (((call :: _).mapM StoreCall.perform).run database).1, _)
      rw [answers, StateM.run_bind, StateM.run_bind, hrest]
      exact congrArg (fun performed => (Except.ok performed.1, performed.2)) hperformed.symm
    | reopen =>
      have hreopen : reopen.run database = (.ok (), database) := h.migrate
      rw [answers, StateM.run_bind, hreopen]
      exact ih h

end Current

/-- **A migration settles what becomes of a database.**  It does in one go what its statements do
one after another.  If versions are noted that are newer, it fails for the largest one and changes
nothing; if the current version is the largest, it changes nothing.  If none but zero is noted, it
makes the table of objects and notes the current version; but if there is such a table already, it
fails, with the same versions and the same rows as before.  Once it has succeeded, it succeeds again
and changes nothing, so opening the tables again in between shows in no call's answer. -/
theorem migrate_settles (database : Database)
    (hversions : ∀ version ∈ database.versions.getD [], 0 ≤ version ∧ version < versionLimit) :
    let noted := database.versions.getD []
    database.migrate = migration.run.run database
      ∧ (∀ largest, IsGreatest {version | version ∈ noted} largest → currentVersion < largest →
          database.migrate = (.error (.migration ("database schema version " ++ toString largest
            ++ " is newer than supported version " ++ toString currentVersion)), database))
      ∧ (IsGreatest {version | version ∈ noted} currentVersion →
          database.migrate = (.ok (), database))
      ∧ ((∀ version ∈ noted, version = 0) → database.objects = none →
          database.migrate = (.ok (), ⟨some (noted ++ [(currentVersion : Int)]), some []⟩))
      ∧ (∀ rows, (∀ version ∈ noted, version = 0) → database.objects = some rows →
          ∃ cause, database.migrate = (.error (.database cause), ⟨some noted, some rows⟩))
      ∧ ∀ after, database.migrate = (.ok (), after) → after.migrate = (.ok (), after)
          ∧ ∀ steps : List DatabaseStep,
            let calls := steps.filterMap DatabaseStep.call?
            let performed := (calls.mapM StoreCall.perform).run after
            (answers steps).run after = (.ok performed.1, performed.2) := by
  intro noted
  have hkept {version : Int} (hmem : version ∈ noted) : database.withVersions = database := by
    obtain ⟨versions | versions, objects⟩ := database
    · exact absurd hmem List.not_mem_nil
    · rfl
  refine ⟨(run_migration database).symm, fun largest hlargest hnewer => ?_, fun hlargest => ?_,
    fun hzero hobjects => ?_, fun rows hzero hobjects => ?_, fun after hafter => ?_⟩
  · have hlimit : largest < versionLimit := (hversions largest hlargest.1).2
    rw [migrate_of_lt (eq_largestVersion hlargest) hnewer hlimit, hkept hlargest.1, newerVersion]
  · rw [migrate_of_eq (eq_largestVersion hlargest), hkept hlargest.1]
  · rw [migrate_of_eq_zero (largestVersion_eq_zero hzero), hobjects]
    rfl
  · rw [migrate_of_eq_zero (largestVersion_eq_zero hzero), hobjects, withVersions, hobjects]
    exact ⟨_, rfl⟩
  · have hcurrent : after.Current := current_of_migrate_eq_ok hafter
    exact ⟨hcurrent.migrate, hcurrent.run_answers⟩

/-- Zero alone is noted, then the current version; the tables are opened again around a miss. -/
theorem migrate_settles_above_zero :
    let database : Database := ⟨some [0], none⟩
    let after : Database := ⟨some [0, 1], some []⟩
    let missed : StoreCall := .head ⟨⟨Block.replicate 32 7⟩, ⟨Block.replicate 32 8⟩⟩
    (∀ version ∈ database.versions.getD [], 0 ≤ version ∧ version < versionLimit)
      ∧ database.migrate = (.ok (), after)
      ∧ (answers [.reopen, .perform missed, .reopen]).run after
        = (.ok [(missed.perform.run after).1], after) := by
  intro database after missed
  have hversions : ∀ version ∈ database.versions.getD [], 0 ≤ version ∧ version < versionLimit :=
    List.forall_mem_singleton.2 (by decide)
  obtain ⟨-, -, -, hsetUp, -, hagain⟩ := migrate_settles database hversions
  have hafter : database.migrate = (.ok (), after) :=
    hsetUp (List.forall_mem_singleton.2 rfl) rfl
  exact ⟨hversions, hafter, (hagain after hafter).2 [.reopen, .perform missed, .reopen]⟩

end Database

end Coffer
