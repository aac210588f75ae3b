import Devnest.Runs
import Devnest.Table

/-!
# The reconcile lock

`reconcile_lock.py` guards a reconcile with a session-level advisory lock
of PostgreSQL. Such a lock belongs to a connection, while the code holds a
session of SQLAlchemy: a commit gives the session's connection back to the
pool, and its next statement checks out whichever is idle. The topology
adapter commits within a reconcile, in the janitor, when it detaches a
workspace and when it releases an address.

The state is that of one workspace's lock; the workers are those that run
its reconcile jobs, and any other that draws from the pool.

`reconcile_lock_holds`: the lock does its work along a run exactly when no
worker tries on a connection that another one's lock was left on, and each
releases on the connection it acquired on.
-/

namespace Devnest

open Runs

/-! ## The lock of one connection -/

/-- The connection that has the lock, and how many times it took it again. -/
structure AdvisoryLock where
  connection : Nat
  again : Nat := 0
  deriving DecidableEq, Repr

/-- `pg_try_advisory_lock`: free, or the connection's own already. -/
def pgTryAdvisoryLock (lock : Option AdvisoryLock) (connection : Nat) : Bool × Option AdvisoryLock :=
  match lock with
  | none => (true, some ⟨connection, 0⟩)
  | some l =>
      if l.connection = connection then (true, some { l with again := l.again + 1 })
      else (false, some l)

/-- `pg_advisory_unlock`: only what the connection itself took. -/
def pgAdvisoryUnlock (lock : Option AdvisoryLock) (connection : Nat) : Option AdvisoryLock :=
  match lock with
  | none => none
  | some l =>
      if l.connection ≠ connection then some l
      else match l.again with
        | 0 => none
        | n + 1 => some { l with again := n }

/-! ## Workers and the pool -/

structure LockState where
  /-- The connection that a worker's session has checked out. -/
  sessions : Table Nat Nat := ∅
  lock : Option AdvisoryLock := none
  /-- The workers between a successful `try_acquire_workspace_reconcile_lock` and their
  `release_workspace_reconcile_lock`, each with the connection it acquired on. -/
  holding : Table Nat Nat := ∅
  deriving DecidableEq

/-- What a worker does next. `connection` is the one that the pool hands out if the session has
none, and `fails` that the statement raises. -/
inductive LockStep where
  | statement (worker connection : Nat)
  /-- A commit or a rollback of the session. -/
  | commit (worker : Nat)
  | tryAcquire (worker connection : Nat) (fails : Bool)
  | release (worker connection : Nat) (fails : Bool)
  deriving DecidableEq, Repr

namespace LockState

variable (st : LockState)

def isIdle (connection : Nat) : Bool := st.sessions.entries.all fun e => e.2 ≠ connection

/-- The connection of the worker's next statement; `none` if it has to wait for one. -/
def connectionOf (worker connection : Nat) : Option Nat :=
  (st.sessions.lookup worker).or (if st.isIdle connection then some connection else none)

def checkOut (worker connection : Nat) : LockState :=
  { st with sessions := st.sessions.insert worker connection }

/-- `try_acquire_workspace_reconcile_lock`; an exception counts as a refusal. -/
def tryAcquireWorkspaceReconcileLock (worker connection : Nat) (fails : Bool) : LockState :=
  let st := st.checkOut worker connection
  if fails then st
  else
    let r := pgTryAdvisoryLock st.lock connection
    { st with lock := r.2, holding := if r.1 then st.holding.insert worker connection else st.holding }

/-- `release_workspace_reconcile_lock`; an exception is swallowed. -/
def releaseWorkspaceReconcileLock (worker connection : Nat) : LockState :=
  let st := st.checkOut worker connection
  { st with lock := pgAdvisoryUnlock st.lock connection, holding := st.holding.erase worker }

end LockState

/-- A worker runs one reconcile at a time, and releases what it has acquired once. -/
def reconcileLockStep (st : LockState) : LockStep → LockState
  | .statement w c =>
      match st.connectionOf w c with
      | none => st
      | some c => st.checkOut w c
  | .commit w => { st with sessions := st.sessions.erase w }
  | .tryAcquire w c fails =>
      if (st.holding.lookup w).isSome then st
      else match st.connectionOf w c with
        | none => st
        | some c => st.tryAcquireWorkspaceReconcileLock w c fails
  | .release w c fails =>
      if st.holding.lookup w = none then st
      else if fails then { st with holding := st.holding.erase w }
      else match st.connectionOf w c with
        | none => st
        | some c => st.releaseWorkspaceReconcileLock w c

/-! ## What the lock is for -/

/-- No two workers reconcile at once, and when none does the lock is free. -/
structure LockHolds (st : LockState) : Prop where
  exclusive : ∀ v w, (st.holding.lookup v).isSome → (st.holding.lookup w).isSome → v = w
  free : (∀ w, st.holding.lookup w = none) → st.lock = none

/-- A worker does not try on a connection that has the lock, and releases, without an exception,
on the connection it acquired on. -/
def staysOnConnection (st : LockState) : LockStep → Bool
  | .statement _ _ | .commit _ => true
  | .tryAcquire w c fails =>
      fails || (st.holding.lookup w).isSome ||
        (st.connectionOf w c).all fun c => st.lock.all fun l => l.connection ≠ c
  | .release w c fails =>
      (st.holding.lookup w).all fun acquired => !fails && (st.connectionOf w c).all fun c => c = acquired

/-- The lock is free and nobody holds it, or one worker does, on the connection that has it. -/
inductive LockInv (st : LockState) : Prop
  | free (hlock : st.lock = none) (hnone : ∀ w, st.holding.lookup w = none)
  | held {w c : Nat} (hlock : st.lock = some ⟨c, 0⟩)
      (hone : ∀ v, st.holding.lookup v = if v = w then some c else none)

theorem LockInv.holds {st : LockState} (h : LockInv st) : LockHolds st := by
  cases h with
  | free hlock hnone =>
      refine ⟨fun v w hv _ => ?_, fun _ => hlock⟩
      rw [hnone v] at hv
      cases hv
  | @held w c hlock hone =>
      have hself : ∀ v, (st.holding.lookup v).isSome → v = w := by
        intro v hv
        by_contra hne
        rw [hone v, if_neg hne] at hv
        cases hv
      refine ⟨fun u v hu hv => (hself u hu).trans (hself v hv).symm, fun hnone => ?_⟩
      have hw := hone w
      rw [hnone w, if_pos rfl] at hw
      cases hw

/-! ## One step -/

section Step

variable {st : LockState}

/-- The lock and those who hold it are all that counts. -/
theorem LockInv.congr {st' : LockState} (h : LockInv st) (hlock : st'.lock = st.lock)
    (hholding : st'.holding = st.holding) : LockInv st' := by
  cases h with
  | free hl hnone => exact .free (hlock.trans hl) (hholding ▸ hnone)
  | held hl hone => exact .held (hlock.trans hl) (hholding ▸ hone)

/-- A try on a free lock, or on another connection than the one that has it. -/
theorem LockInv.tryAcquire (h : LockInv st) (w c : Nat) (fails : Bool)
    (hne : fails = true ∨ ∀ l, st.lock = some l → l.connection ≠ c) :
    LockInv (st.tryAcquireWorkspaceReconcileLock w c fails) := by
  unfold LockState.tryAcquireWorkspaceReconcileLock
  dsimp only
  cases fails with
  | true => exact h.congr rfl rfl
  | false =>
      rw [if_neg Bool.false_ne_true]
      cases h with
      | free hlock hnone =>
          have htry : pgTryAdvisoryLock st.lock c = (true, some ⟨c, 0⟩) := by rw [hlock]; rfl
          refine .held (w := w) (c := c) ?_ fun v => ?_
          · show (pgTryAdvisoryLock st.lock c).2 = _
            rw [htry]
          · show (if (pgTryAdvisoryLock st.lock c).1 then st.holding.insert w c
              else st.holding).lookup v = _
            rw [htry, if_pos rfl, Table.lookup_insert_eq, hnone v]
      | @held u d hlock hone =>
          have hother : d ≠ c := by
            rcases hne with hfails | hne
            · cases hfails
            · exact hne _ hlock
          have htry : pgTryAdvisoryLock st.lock c = (false, some ⟨d, 0⟩) := by
            rw [hlock]
            exact if_neg hother
          refine .held (w := u) (c := d) ?_ fun v => ?_
          · show (pgTryAdvisoryLock st.lock c).2 = _
            rw [htry]
          · show (if (pgTryAdvisoryLock st.lock c).1 then st.holding.insert w c
              else st.holding).lookup v = _
            rw [htry, if_neg Bool.false_ne_true, hone v]

/-- Whoever is among the holders is the one, on the lock's connection. -/
theorem LockInv.of_holding {w c : Nat} (h : LockInv st) (hw : st.holding.lookup w = some c) :
    st.lock = some ⟨c, 0⟩ ∧ ∀ v, v ≠ w → st.holding.lookup v = none := by
  cases h with
  | free _ hnone =>
      rw [hnone w] at hw
      cases hw
  | @held u d hlock hone =>
      have hself := hone w
      rw [hw] at hself
      have huw : w = u := by
        by_contra hne
        rw [if_neg hne] at hself
        cases hself
      rw [if_pos huw] at hself
      obtain rfl := Option.some.inj hself
      exact ⟨hlock, fun v hv => by rw [hone v, if_neg (huw ▸ hv)]⟩

/-- A release on the connection that the one holder acquired on. -/
theorem LockInv.release {w c : Nat} (h : LockInv st) (hw : st.holding.lookup w = some c) :
    LockInv (st.releaseWorkspaceReconcileLock w c) := by
  obtain ⟨hlock, hothers⟩ := h.of_holding hw
  refine .free ?_ fun v => ?_
  · show pgAdvisoryUnlock st.lock c = none
    rw [hlock]
    exact if_neg fun hne => hne rfl
  · show (st.holding.erase w).lookup v = none
    by_cases hv : v = w
    · rw [hv]
      exact AList.lookup_erase w st.holding
    · rw [AList.lookup_erase_ne hv]
      exact hothers v hv

/-- A step that stays on the connection keeps the lock and its one holder together. -/
theorem reconcileLockStep_inv (h : LockInv st) (i : LockStep) (hstay : staysOnConnection st i = true) :
    LockInv (reconcileLockStep st i) := by
  cases i with
  | statement w c =>
      simp only [reconcileLockStep]
      cases st.connectionOf w c with
      | none => exact h
      | some c' => exact h.congr rfl rfl
  | commit w => exact h.congr rfl rfl
  | tryAcquire w c fails =>
      simp only [reconcileLockStep]
      by_cases hw : (st.holding.lookup w).isSome
      · rw [if_pos hw]
        exact h
      · rw [if_neg hw]
        simp only [staysOnConnection, hw, Bool.or_false, Bool.or_eq_true] at hstay
        cases hc : st.connectionOf w c with
        | none => exact h
        | some c' =>
            refine h.tryAcquire w c' fails (hstay.imp id fun hall l hl => ?_)
            rw [hc, hl] at hall
            exact of_decide_eq_true hall
  | release w c fails =>
      simp only [reconcileLockStep]
      cases hw : st.holding.lookup w with
      | none => exact h
      | some acquired =>
          rw [if_neg (Option.some_ne_none acquired)]
          simp only [staysOnConnection, hw, Option.all_some, Bool.and_eq_true,
            Bool.not_eq_true'] at hstay
          rw [hstay.1, if_neg Bool.false_ne_true]
          cases hc : st.connectionOf w c with
          | none => exact h
          | some c' =>
              have heq : c' = acquired := by
                have hall := hstay.2
                rw [hc] at hall
                exact of_decide_eq_true hall
              exact h.release (heq ▸ hw)

/-- A try on the connection that the holder's lock was left on makes a second holder. -/
theorem tryAcquire_on_held {u w c : Nat} (h : LockInv st) (hu : st.holding.lookup u = some c)
    (hw : st.holding.lookup w = none) :
    ¬ LockHolds (st.tryAcquireWorkspaceReconcileLock w c false) := by
  obtain ⟨hlock, _⟩ := h.of_holding hu
  have hne : u ≠ w := by
    rintro rfl
    rw [hw] at hu
    cases hu
  have htry : (pgTryAdvisoryLock st.lock c).1 = true := by
    rw [hlock]
    simp only [pgTryAdvisoryLock, if_pos]
  have hholding : (st.tryAcquireWorkspaceReconcileLock w c false).holding
      = st.holding.insert w c := if_pos htry
  intro hholds
  refine hne (hholds.exclusive u w ?_ ?_)
  · rw [hholding, Table.lookup_insert_eq, if_neg hne, hu]
    rfl
  · rw [hholding, Table.lookup_insert_eq, if_pos rfl]
    rfl

/-- A holder that is gone while its connection still has the lock. -/
theorem leaked_lock {w c : Nat} {st' : LockState} (h : LockInv st)
    (hw : st.holding.lookup w = some c) (hlock : st'.lock = st.lock)
    (hholding : st'.holding = st.holding.erase w) : ¬ LockHolds st' := by
  obtain ⟨hheld, hothers⟩ := h.of_holding hw
  intro hholds
  have hfree := hholds.free fun v => by
    rw [hholding]
    by_cases hv : v = w
    · rw [hv]
      exact AList.lookup_erase w st.holding
    · rw [AList.lookup_erase_ne hv]
      exact hothers v hv
  rw [hlock, hheld] at hfree
  cases hfree

/-- Any other step breaks the lock. -/
theorem reconcileLockStep_breaks (h : LockInv st) (i : LockStep) (hstay : staysOnConnection st i = false) :
    ¬ LockHolds (reconcileLockStep st i) := by
  cases i with
  | statement w c => cases hstay
  | commit w => cases hstay
  | tryAcquire w c fails =>
      simp only [staysOnConnection, Bool.or_eq_false_iff] at hstay
      obtain ⟨⟨rfl, hw⟩, hall⟩ := hstay
      have hnone : st.holding.lookup w = none := by simpa using hw
      obtain ⟨c', hc, hall⟩ : ∃ c', st.connectionOf w c = some c' ∧
          (st.lock.all fun l => l.connection ≠ c') = false := by
        cases hc : st.connectionOf w c with
        | none => simp [hc] at hall
        | some c' => exact ⟨c', rfl, by simpa only [hc, Option.all_some] using hall⟩
      simp only [reconcileLockStep, hw, hc]
      cases h with
      | free hlock _ => simp [hlock] at hall
      | @held u d hlock hone =>
          have hd : d = c' := by simpa [hlock] using hall
          have hu : st.holding.lookup u = some d := by rw [hone u, if_pos rfl]
          exact tryAcquire_on_held (.held hlock hone) (hd ▸ hu) hnone
  | release w c fails =>
      obtain ⟨acquired, hw⟩ : ∃ acquired, st.holding.lookup w = some acquired := by
        cases hw : st.holding.lookup w with
        | none => simp [staysOnConnection, hw] at hstay
        | some acquired => exact ⟨acquired, rfl⟩
      simp only [reconcileLockStep, hw, if_neg (Option.some_ne_none acquired)]
      cases fails with
      | true => exact leaked_lock h hw rfl rfl
      | false =>
          obtain ⟨c', hc, hne⟩ : ∃ c', st.connectionOf w c = some c' ∧ c' ≠ acquired := by
            cases hc : st.connectionOf w c with
            | none => simp [staysOnConnection, hw, hc] at hstay
            | some c' => exact ⟨c', rfl, by simpa [staysOnConnection, hw, hc] using hstay⟩
          simp only [hc, if_neg Bool.false_ne_true]
          refine leaked_lock h hw ?_ rfl
          show pgAdvisoryUnlock st.lock c' = st.lock
          rw [(h.of_holding hw).1]
          exact if_pos fun heq => hne heq.symm

end Step

/-! ## Runs -/

/-- Along a run the lock excludes and is freed exactly when no worker tries, while another one
holds the lock, on the connection that it was left on, and each worker releases on the connection
it acquired on, without an exception. -/
theorem reconcile_lock_holds (steps : List LockStep) :
    Always reconcileLockStep LockHolds {} steps ↔
      Along reconcileLockStep (fun st i => staysOnConnection st i = true) {} steps := by
  have hfirst : LockInv {} := .free rfl fun _ => rfl
  refine always_iff_along hfirst (fun st i h hstay => reconcileLockStep_inv h i hstay) hfirst.holds ?_
  intro st i h _
  refine ⟨fun hholds => ?_, fun hstay => (reconcileLockStep_inv h i hstay).holds⟩
  cases hstay : staysOnConnection st i with
  | false => exact absurd hholds (reconcileLockStep_breaks h i hstay)
  | true => rfl

/-- Worker 1 acquires on connection 10 and the detach of its reconcile commits; worker 2 draws
the same connection and acquires as well. Alone, worker 1 draws another connection to release
on, and the lock stays. -/
theorem commit_loses_the_lock :
    ¬ (∀ steps, Always reconcileLockStep LockHolds {} steps) ∧
    (let st := run reconcileLockStep {} [.tryAcquire 1 10 false, .commit 1, .tryAcquire 2 10 false];
      (st.holding.lookup 1).isSome ∧ (st.holding.lookup 2).isSome) ∧
    (let st := run reconcileLockStep {} [.tryAcquire 1 10 false, .commit 1, .release 1 11 false];
      st.holding.entries = [] ∧ st.lock = some ⟨10, 0⟩) := by
  refine ⟨fun h => ?_, by decide +kernel, by decide +kernel⟩
  have htwo := (h [.tryAcquire 1 10 false, .commit 1, .tryAcquire 2 10 false]).last.exclusive 1 2
    (by decide +kernel) (by decide +kernel)
  cases htwo

end Devnest
