import Devnest.Steps

/-!
# Concurrent intents on one workspace

A lifecycle request is three database interactions: read the workspace
row and check it, read the latest configuration version, and write. The
reads take no lock and the write overwrites the status, so under READ
COMMITTED the three can be interleaved with those of other requests.
Run without interruption they are the request of `Intents`
(`perform_eq`).

Two requests are accepted from the same status when both read the row
between the same two commits; the epoch of a transaction counts the
commits before its read. `noLostIntent_always_iff` says which schedules
keep them apart.
-/

namespace Devnest

open Runs

/-! ## The three parts of a request -/

inductive IntentKind where
  | start | stop | restart | delete
  | update (config : WorkspaceConfig)
  deriving DecidableEq, Repr

namespace IntentKind

def jobType : IntentKind → WorkspaceJobType
  | start => .start
  | stop => .stop
  | restart => .restart
  | delete => .delete
  | update _ => .update

def newStatus : IntentKind → WorkspaceStatus
  | start => .starting
  | stop => .stopping
  | restart => .restarting
  | delete => .deleting
  | update _ => .updating

def allowed : IntentKind → List WorkspaceStatus
  | start => [.stopped, .error]
  | stop => [.running]
  | restart => [.running, .stopped]
  | delete => [.running, .stopped, .error, .deleted]
  | update _ => [.running, .stopped, .error]

def message : IntentKind → String
  | start => "Start is only allowed when stopped or error"
  | stop => "Stop is only allowed when running"
  | restart => "Restart is only allowed when running or stopped"
  | delete => "Delete is only allowed when running, stopped, error, or deleted"
  | update _ => "Update is only allowed when running, stopped, or error"

/-- `START` and `RESTART` check the project storage, the quotas and the policies. -/
def startsContainer : IntentKind → Bool
  | start | restart => true
  | stop | delete | update _ => false

end IntentKind

structure Request where
  kind : IntentKind
  inp : IntentInput
  owner : Nat
  user : Nat
  deriving DecidableEq, Repr

/-- The first read, and the checks on the row. -/
def rowCheck (db : Db) (wid : Nat) (req : Request) : Except IntentError Unit := do
  let ws ← getOwnedWorkspace db wid req.owner (req.kind = .delete)
  requireNotBusy ws
  requireStatus ws req.kind.allowed req.kind.message
  if req.kind.startsContainer then ensureWorkspaceReopenAllowed req.inp else .ok ()

/-- The second read, and the quota and policy checks. -/
def versionCheck (db : Db) (wid : Nat) (req : Request) : Except IntentError Nat := do
  let version ← intentConfigVersion db wid
  if req.kind.startsContainer then ensureNotRefused req.inp else .ok ()
  .ok version

/-- The write: the status column of the row as it is now, the job, and for an update the
next version, which a unique constraint may refuse. -/
def commitIntent (db : Db) (wid : Nat) (req : Request) (version : Nat) : Except IntentError Db :=
  match db.workspaces.lookup wid with
  | none => .error .workspaceNotFound
  | some ws =>
      let db := { db with
        workspaces := db.workspaces.insert wid { ws with status := req.kind.newStatus } }
      match req.kind with
      | .update config =>
          if (db.configs.lookup (wid, version + 1)).isSome then .error .integrity
          else .ok ({ db with configs := db.configs.insert (wid, version + 1) config }.queueJob
            (newJob req.inp wid req.user .update (version + 1)))
      | kind => .ok (db.queueJob (newJob req.inp wid req.user kind.jobType version))

/-- The request of `Intents`. -/
def perform (db : Db) (wid : Nat) (req : Request) : Except IntentError Db :=
  match req.kind with
  | .start => requestStartWorkspace db req.inp wid req.owner req.user
  | .stop => requestStopWorkspace db req.inp wid req.owner req.user
  | .restart => requestRestartWorkspace db req.inp wid req.owner req.user
  | .delete => requestDeleteWorkspace db req.inp wid req.owner req.user
  | .update config => requestUpdateWorkspace db req.inp wid req.owner req.user config

theorem lookup_next_version {db : Db} {wid v : Nat} (h : db.latestConfigVersion wid = some v) :
    db.configs.lookup (wid, v + 1) = none := by
  rw [AList.lookup_eq_none]
  intro hmem
  have hle := (List.max?_eq_some_iff.mp h).2 (v + 1)
    (List.mem_map.mpr ⟨(wid, v + 1), List.mem_filter.mpr ⟨hmem, by simp⟩, rfl⟩)
  omega

theorem intentConfigVersion_ok {db : Db} {wid v : Nat} (h : intentConfigVersion db wid = .ok v) :
    db.latestConfigVersion wid = some v := by
  unfold intentConfigVersion at h
  split at h
  · cases h
  · rename_i hv
    rw [hv, Except.ok.inj h]

theorem error_bind {ε α β : Type} (e : ε) (f : α → Except ε β) :
    (Except.error e >>= f) = Except.error e := rfl

theorem ok_bind {ε α β : Type} (a : α) (f : α → Except ε β) : (Except.ok a >>= f) = f a := rfl

/-- Without interruption the three parts are the request. -/
theorem perform_eq (db : Db) (wid : Nat) (req : Request) :
    perform db wid req = (do
      rowCheck db wid req
      let version ← versionCheck db wid req
      commitIntent db wid req version) := by
  obtain ⟨kind, inp, owner, user⟩ := req
  have hwrite : ∀ ws b, getOwnedWorkspace db wid owner b = .ok ws →
      db.workspaces.lookup wid = some ws := fun ws b h => (getOwnedWorkspace_ok h).1
  cases kind with
  | start =>
      simp only [perform, requestStartWorkspace, rowCheck, versionCheck, persistIntent, IntentKind.startsContainer,
        IntentKind.allowed, IntentKind.message]
      cases hown : getOwnedWorkspace db wid owner false with
      | error e => simp [hown, error_bind]
      | ok ws =>
          simp [hown, ok_bind, bind_assoc, commitIntent, hwrite ws _ hown, IntentKind.newStatus,
            IntentKind.jobType]
  | stop =>
      simp only [perform, requestStopWorkspace, rowCheck, versionCheck, persistIntent, IntentKind.startsContainer,
        IntentKind.allowed, IntentKind.message]
      cases hown : getOwnedWorkspace db wid owner false with
      | error e => simp [hown, error_bind]
      | ok ws =>
          simp [hown, ok_bind, bind_assoc, commitIntent, hwrite ws _ hown, IntentKind.newStatus,
            IntentKind.jobType]
  | restart =>
      simp only [perform, requestRestartWorkspace, rowCheck, versionCheck, persistIntent, IntentKind.startsContainer,
        IntentKind.allowed, IntentKind.message]
      cases hown : getOwnedWorkspace db wid owner false with
      | error e => simp [hown, error_bind]
      | ok ws =>
          simp [hown, ok_bind, bind_assoc, commitIntent, hwrite ws _ hown, IntentKind.newStatus,
            IntentKind.jobType]
  | delete =>
      simp only [perform, requestDeleteWorkspace, rowCheck, versionCheck, persistIntent, IntentKind.startsContainer,
        IntentKind.allowed, IntentKind.message]
      cases hown : getOwnedWorkspace db wid owner true with
      | error e => simp [hown, error_bind]
      | ok ws =>
          simp [hown, ok_bind, bind_assoc, commitIntent, hwrite ws _ hown, IntentKind.newStatus,
            IntentKind.jobType]
  | update config =>
      simp only [perform, requestUpdateWorkspace, rowCheck, versionCheck, IntentKind.startsContainer,
        IntentKind.allowed, IntentKind.message]
      cases hown : getOwnedWorkspace db wid owner false with
      | error e => simp [hown, error_bind]
      | ok ws =>
          cases hv : intentConfigVersion db wid with
          | error e => simp [hown, ok_bind, error_bind, bind_assoc]
          | ok v =>
              -- the version just read is the latest, so the next one is free
              have hfree := lookup_next_version (intentConfigVersion_ok hv)
              simp [hown, ok_bind, bind_assoc, commitIntent, hwrite ws _ hown, IntentKind.newStatus,
                hfree]

/-! ## Interleavings -/

/-- One API transaction. -/
inductive Tx where
  | idle
  /-- The row was read after `epoch` commits and passed. -/
  | checked (req : Request) (epoch : Nat)
  | ready (req : Request) (epoch version : Nat)
  /-- A check raised. -/
  | refused (e : IntentError)
  /-- The commit queued job `jid`. -/
  | committed (epoch jid : Nat)
  /-- The commit raised. -/
  | conflicted (epoch : Nat)
  deriving DecidableEq, Repr

structure Race where
  db : Db
  commits : Nat := 0
  txs : Nat → Tx := fun _ => .idle

def Race.set (r : Race) (t : Nat) (tx : Tx) : Race :=
  { r with txs := fun u => if u = t then tx else r.txs u }

inductive Move where
  | check (t : Nat) (req : Request)
  | readVersion (t : Nat)
  | commit (t : Nat)
  deriving DecidableEq, Repr

/-- One database interaction of one transaction. -/
def Race.move (wid : Nat) (r : Race) : Move → Race
  | .check t req =>
      match r.txs t with
      | .idle =>
          match rowCheck r.db wid req with
          | .ok () => r.set t (.checked req r.commits)
          | .error e => r.set t (.refused e)
      | _ => r
  | .readVersion t =>
      match r.txs t with
      | .checked req epoch =>
          match versionCheck r.db wid req with
          | .ok version => r.set t (.ready req epoch version)
          | .error e => r.set t (.refused e)
      | _ => r
  | .commit t =>
      match r.txs t with
      | .ready req epoch version =>
          match commitIntent r.db wid req version with
          | .ok db =>
              { r.set t (.committed epoch (Table.freshKey r.db.jobs)) with
                db := db, commits := r.commits + 1 }
          | .error _ => r.set t (.conflicted epoch)
      | _ => r

/-- Of the requests accepted from one reading of the row at most one queues its job, and no
other comes as far as its commit: it was refused by a check. -/
def NoLostIntent (r : Race) : Prop :=
  ∀ t u epoch jid, t ≠ u → r.txs t = .committed epoch jid →
    (∀ jid', r.txs u ≠ .committed epoch jid') ∧ r.txs u ≠ .conflicted epoch

/-- No other request committed between this transaction's read of the row and its commit. -/
def CommitsCurrent (r : Race) : Move → Prop
  | .commit t => ∀ req epoch version, r.txs t = .ready req epoch version → epoch = r.commits
  | .check _ _ | .readVersion _ => True

/-! ## The invariant of current schedules -/

structure RaceInv (wid : Nat) (r : Race) : Prop where
  checked : ∀ {t req e}, r.txs t = .checked req e →
    e ≤ r.commits ∧ (r.db.workspaces.lookup wid).isSome
  ready : ∀ {t req e v}, r.txs t = .ready req e v →
    e ≤ r.commits ∧ (r.db.workspaces.lookup wid).isSome ∧
      (e = r.commits → r.db.latestConfigVersion wid = some v)
  committed : ∀ {t e jid}, r.txs t = .committed e jid → e < r.commits
  clean : ∀ {t e}, r.txs t ≠ .conflicted e
  /-- Every commit so far was made from the reading it followed. -/
  covered : ∀ e < r.commits, ∃ t jid, r.txs t = .committed e jid

theorem rowCheck_ok {db : Db} {wid : Nat} {req : Request} {u : Unit}
    (h : rowCheck db wid req = .ok u) : (db.workspaces.lookup wid).isSome := by
  obtain ⟨ws, hown, -⟩ := bind_eq_ok.mp h
  rw [(getOwnedWorkspace_ok hown).1]
  rfl

theorem versionCheck_ok {db : Db} {wid v : Nat} {req : Request} (h : versionCheck db wid req = .ok v) :
    db.latestConfigVersion wid = some v := by
  obtain ⟨v', hv, h⟩ := bind_eq_ok.mp h
  have hvv : v' = v := by
    split at h
    · obtain ⟨_, -, h⟩ := bind_eq_ok.mp h
      exact Except.ok.inj h
    · exact Except.ok.inj h
  exact hvv ▸ intentConfigVersion_ok hv

/-- A commit with the latest version goes through, and the row stays. -/
theorem commitIntent_current {db : Db} {wid v : Nat} {req : Request}
    (hws : (db.workspaces.lookup wid).isSome) (hv : db.latestConfigVersion wid = some v) :
    ∃ db', commitIntent db wid req v = .ok db' ∧ (db'.workspaces.lookup wid).isSome := by
  obtain ⟨ws, hws⟩ := Option.isSome_iff_exists.mp hws
  have hfree := lookup_next_version hv
  unfold commitIntent
  simp only [hws]
  cases req.kind with
  | update config =>
      refine ⟨_, if_neg (by simp [hfree]), ?_⟩
      simp [Db.queueJob]
  | _ => exact ⟨_, rfl, by simp [Db.queueJob]⟩

section Moves

variable {wid : Nat} {r : Race}

@[simp] theorem set_txs_self (t : Nat) (tx : Tx) : (r.set t tx).txs t = tx := by simp [Race.set]

theorem set_txs_of_ne {t u : Nat} (h : u ≠ t) (tx : Tx) : (r.set t tx).txs u = r.txs u := by
  simp [Race.set, h]

/-- A transaction that does not end here: only its own entry matters. -/
theorem RaceInv.set {t : Nat} {tx : Tx} (h : RaceInv wid r)
    (hold : ∀ e jid, r.txs t ≠ .committed e jid)
    (hchecked : ∀ {req e}, tx = .checked req e → e ≤ r.commits ∧ (r.db.workspaces.lookup wid).isSome)
    (hready : ∀ {req e v}, tx = .ready req e v → e ≤ r.commits ∧
      (r.db.workspaces.lookup wid).isSome ∧ (e = r.commits → r.db.latestConfigVersion wid = some v))
    (hopen : (∀ e jid, tx ≠ .committed e jid) ∧ ∀ e, tx ≠ .conflicted e) :
    RaceInv wid (r.set t tx) := by
  have hcase : ∀ u, (r.set t tx).txs u = tx ∧ u = t ∨ (r.set t tx).txs u = r.txs u ∧ u ≠ t := by
    intro u
    by_cases hu : u = t
    · exact .inl ⟨by rw [hu, set_txs_self], hu⟩
    · exact .inr ⟨set_txs_of_ne hu tx, hu⟩
  constructor
  · intro u req e hu
    rcases hcase u with ⟨heq, -⟩ | ⟨heq, -⟩ <;> rw [heq] at hu
    · exact hchecked hu
    · exact h.checked hu
  · intro u req e v hu
    rcases hcase u with ⟨heq, -⟩ | ⟨heq, -⟩ <;> rw [heq] at hu
    · exact hready hu
    · exact h.ready hu
  · intro u e jid hu
    rcases hcase u with ⟨heq, -⟩ | ⟨heq, -⟩ <;> rw [heq] at hu
    · exact absurd hu (hopen.1 e jid)
    · exact h.committed hu
  · intro u e hu
    rcases hcase u with ⟨heq, -⟩ | ⟨heq, -⟩ <;> rw [heq] at hu
    · exact hopen.2 e hu
    · exact h.clean hu
  · intro e he
    obtain ⟨u, jid, hu⟩ := h.covered e he
    have hut : u ≠ t := by
      rintro rfl
      exact hold e jid hu
    exact ⟨u, jid, (set_txs_of_ne hut tx).trans hu⟩

/-- A current commit: the new epoch is covered by the transaction itself. -/
theorem RaceInv.commit {t jid : Nat} {req : Request} {v : Nat} {db' : Db} (h : RaceInv wid r)
    (ht : r.txs t = .ready req r.commits v) (hws : (db'.workspaces.lookup wid).isSome) :
    RaceInv wid { r.set t (.committed r.commits jid) with db := db', commits := r.commits + 1 } := by
  have hne : ∀ {u tx}, (r.set t (.committed r.commits jid)).txs u = tx → u ≠ t → r.txs u = tx :=
    fun hu hut => by rwa [set_txs_of_ne hut] at hu
  have hown : ∀ {u tx}, (r.set t (.committed r.commits jid)).txs u = tx → u = t →
      tx = .committed r.commits jid := fun hu hut => by rw [hut, set_txs_self] at hu; exact hu.symm
  constructor
  · intro u q e hu
    by_cases hut : u = t
    · cases hown hu hut
    · exact ⟨Nat.le_succ_of_le (h.checked (hne hu hut)).1, hws⟩
  · intro u q e w hu
    by_cases hut : u = t
    · cases hown hu hut
    · have hle := (h.ready (hne hu hut)).1
      refine ⟨Nat.le_succ_of_le hle, hws, fun he => ?_⟩
      rw [show e = r.commits + 1 from he] at hle
      omega
  · intro u e j hu
    by_cases hut : u = t
    · cases hown hu hut
      exact Nat.lt_succ_self _
    · exact Nat.lt_succ_of_lt (h.committed (hne hu hut))
  · intro u e hu
    by_cases hut : u = t
    · cases hown hu hut
    · exact h.clean (hne hu hut)
  · intro e he
    by_cases hlast : e = r.commits
    · exact ⟨t, jid, by rw [hlast]; exact set_txs_self t _⟩
    · obtain ⟨u, j, hu⟩ := h.covered e (by have : e < r.commits + 1 := he; omega)
      refine ⟨u, j, ?_⟩
      rw [← hu]
      exact set_txs_of_ne (fun hut => by rw [hut, ht] at hu; cases hu) _

theorem move_check {t : Nat} {req : Request} (ht : r.txs t = .idle) :
    r.move wid (.check t req) = r.set t (match rowCheck r.db wid req with
      | .ok () => .checked req r.commits
      | .error e => .refused e) := by
  simp only [Race.move, ht]
  cases rowCheck r.db wid req <;> rfl

theorem move_readVersion {t e : Nat} {req : Request} (ht : r.txs t = .checked req e) :
    r.move wid (.readVersion t) = r.set t (match versionCheck r.db wid req with
      | .ok v => .ready req e v
      | .error err => .refused err) := by
  simp only [Race.move, ht]
  cases versionCheck r.db wid req <;> rfl

theorem move_commit {t e v : Nat} {req : Request} (ht : r.txs t = .ready req e v) :
    r.move wid (.commit t) = match commitIntent r.db wid req v with
      | .ok db => { r.set t (.committed e (Table.freshKey r.db.jobs)) with
          db := db, commits := r.commits + 1 }
      | .error _ => r.set t (.conflicted e) := by
  simp only [Race.move, ht]

/-- A move that meets the condition keeps the invariant. -/
theorem RaceInv.move {m : Move} (h : RaceInv wid r) (hm : CommitsCurrent r m) :
    RaceInv wid (r.move wid m) := by
  cases m with
  | check t req =>
      cases ht : r.txs t with
      | idle =>
          rw [move_check ht]
          have hold : ∀ e jid, r.txs t ≠ .committed e jid := by simp [ht]
          cases hrow : rowCheck r.db wid req with
          | ok u =>
              refine h.set hold ?_ (by simp) (by simp)
              rintro _ _ ⟨⟩
              exact ⟨Nat.le_refl _, rowCheck_ok hrow⟩
          | error e => exact h.set hold (by simp) (by simp) (by simp)
      | _ => simp only [Race.move, ht]; exact h
  | readVersion t =>
      cases ht : r.txs t with
      | checked req e =>
          rw [move_readVersion ht]
          have hold : ∀ e jid, r.txs t ≠ .committed e jid := by simp [ht]
          cases hver : versionCheck r.db wid req with
          | ok v =>
              obtain ⟨hle, hws⟩ := h.checked ht
              refine h.set hold (by simp) ?_ (by simp)
              rintro _ _ _ ⟨⟩
              exact ⟨hle, hws, fun _ => versionCheck_ok hver⟩
          | error err => exact h.set hold (by simp) (by simp) (by simp)
      | _ => simp only [Race.move, ht]; exact h
  | commit t =>
      cases ht : r.txs t with
      | ready req e v =>
          obtain rfl : e = r.commits := hm req e v ht
          obtain ⟨-, hws, hv⟩ := h.ready ht
          obtain ⟨db', hc, hws'⟩ := commitIntent_current hws (hv rfl)
          rw [move_commit ht, hc]
          exact h.commit ht hws'
      | _ => simp only [Race.move, ht]; exact h

/-- A move that ends no transaction loses nothing. -/
theorem NoLostIntent.set {t : Nat} {tx : Tx} (h : NoLostIntent r)
    (hopen : (∀ e jid, tx ≠ .committed e jid) ∧ ∀ e, tx ≠ .conflicted e) :
    NoLostIntent (r.set t tx) := by
  intro u w e jid hne hu
  have hut : u ≠ t := by
    rintro rfl
    rw [set_txs_self] at hu
    exact hopen.1 e jid hu
  rw [set_txs_of_ne hut] at hu
  by_cases hwt : w = t
  · rw [hwt, set_txs_self]
    exact ⟨hopen.1 e, hopen.2 e⟩
  · rw [set_txs_of_ne hwt]
    exact h u w e jid hne hu

/-- **Exactly when** a move loses no intent. -/
theorem move_noLostIntent_iff {m : Move} (hinv : RaceInv wid r) (h : NoLostIntent r) :
    NoLostIntent (r.move wid m) ↔ CommitsCurrent r m := by
  cases m with
  | check t req =>
      refine ⟨fun _ => trivial, fun _ => ?_⟩
      cases ht : r.txs t with
      | idle =>
          rw [move_check ht]
          cases rowCheck r.db wid req <;> exact h.set (by simp)
      | _ => simp only [Race.move, ht]; exact h
  | readVersion t =>
      refine ⟨fun _ => trivial, fun _ => ?_⟩
      cases ht : r.txs t with
      | checked req e =>
          rw [move_readVersion ht]
          cases versionCheck r.db wid req <;> exact h.set (by simp)
      | _ => simp only [Race.move, ht]; exact h
  | commit t =>
      cases ht : r.txs t with
      | ready req e v =>
          have hcur : CommitsCurrent r (.commit t) ↔ e = r.commits := by
            refine ⟨fun hc => hc req e v ht, fun he req' e' v' ht' => ?_⟩
            cases ht.symm.trans ht'
            exact he
          rw [hcur]
          constructor
          · -- an old reading: its epoch already has its job
            intro hnew
            by_contra hne
            have hlt : e < r.commits := Nat.lt_of_le_of_ne (hinv.ready ht).1 hne
            obtain ⟨u, jid, hu⟩ := hinv.covered e hlt
            have hut : u ≠ t := by rintro rfl; rw [ht] at hu; cases hu
            rw [move_commit ht] at hnew
            cases hc : commitIntent r.db wid req v with
            | ok db' =>
                rw [hc] at hnew
                exact (hnew u t e jid hut ((set_txs_of_ne hut _).trans hu)).1 _ (set_txs_self t _)
            | error err =>
                rw [hc] at hnew
                exact (hnew u t e jid hut ((set_txs_of_ne hut _).trans hu)).2 (set_txs_self t _)
          · rintro rfl
            obtain ⟨-, hws, hv⟩ := hinv.ready ht
            obtain ⟨db', hc, -⟩ := commitIntent_current hws (hv rfl)
            rw [move_commit ht, hc]
            intro u w e jid hne hu
            by_cases hut : u = t
            · have he : e = r.commits := by
                rw [hut] at hu
                cases (set_txs_self (r := r) t _).symm.trans hu
                rfl
              have hwt : w ≠ t := fun hwt => hne (hut.trans hwt.symm)
              refine ⟨fun jid' hw => ?_, fun hw => ?_⟩
              · have := hinv.committed ((set_txs_of_ne hwt _).symm.trans hw)
                omega
              · exact hinv.clean ((set_txs_of_ne hwt _).symm.trans hw)
            · have hu' := (set_txs_of_ne hut _).symm.trans hu
              by_cases hwt : w = t
              · subst hwt
                have hlt := hinv.committed hu'
                refine ⟨fun jid' hw => ?_, fun hw => ?_⟩
                · cases (set_txs_self (r := r) w _).symm.trans hw
                  omega
                · cases (set_txs_self (r := r) w _).symm.trans hw
              · obtain ⟨h₁, h₂⟩ := h u w e jid hne hu'
                exact ⟨fun jid' hw => h₁ jid' ((set_txs_of_ne hwt _).symm.trans hw),
                  fun hw => h₂ ((set_txs_of_ne hwt _).symm.trans hw)⟩
      | _ =>
          refine ⟨fun _ req e v ht' => ?_, fun _ => ?_⟩
          · rw [ht] at ht'; cases ht'
          · simp only [Race.move, ht]; exact h

end Moves

/-! ## Schedules -/

/-- **No lost intent under concurrency**, in every state of a schedule, exactly when every
request that commits does so before any other has committed since its read. -/
theorem noLostIntent_always_iff (db : Db) (wid : Nat) (moves : List Move) :
    Always (Race.move wid) NoLostIntent { db := db } moves ↔
      Along (Race.move wid) CommitsCurrent { db := db } moves := by
  refine always_iff_along (I := RaceInv wid) ?_ (fun r m h hm => h.move hm) ?_
    fun r m hinv h => move_noLostIntent_iff hinv h
  · constructor <;> simp
  · intro t u e jid _ ht
    cases ht

/-- A running workspace. -/
def runningDb : Db :=
  run (step {}) sampleDb
    [.createWorkspace { now := 0 } 7 "a" {}, .processNextQueuedJob (sampleWorker 1 sampleOrch) 1]

def stopRequest : Request := { kind := .stop, inp := { now := 2 }, owner := 7, user := 7 }

/-- Both requests read before either commits. -/
def twoStops : List Move :=
  [.check 0 stopRequest, .check 1 stopRequest, .readVersion 0, .readVersion 1, .commit 0, .commit 1]

/-- Both are accepted, and the workspace has two queued `STOP` jobs. -/
theorem two_stops_accepted :
    Table.rowCount (fun j => j.workspaceId = 1 && j.jobType = .stop && j.status = .queued)
        (run (Race.move 1) { db := runningDb } twoStops).db.jobs = 2 ∧
      ¬ ∀ db wid moves, Always (Race.move wid) NoLostIntent { db := db } moves := by
  refine ⟨by decide, fun h => ?_⟩
  have hlast := (h runningDb 1 twoStops).last
  have h₀ : (run (Race.move 1) { db := runningDb } twoStops).txs 0 = .committed 0 2 := by decide
  have h₁ : (run (Race.move 1) { db := runningDb } twoStops).txs 1 = .committed 0 3 := by decide
  exact (hlast 0 1 0 2 (by decide) h₀).1 3 h₁

end Devnest
