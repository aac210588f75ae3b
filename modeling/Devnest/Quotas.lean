import Devnest.AppliedLimits
import Devnest.ReservationLedger

/-!
# Quotas

`quota_service/service.py`: the most specific quota row wins, and each
`check_*` function compares one of its limits with what the tables say. The
checks are the only limits on how many workspaces, running workspaces and
sessions an owner has, and on how much compute they are admitted for.

The intents of the system take the first refusal as an input
(`IntentInput.refusal`). `quotaStep` computes it: the quota checks of the
request come first, in the source's order, then the policy's answer.
-/

namespace Devnest

/-! ## Rows -/

inductive ScopeType where
  | global | user | workspace
  deriving DecidableEq, Repr

/-- A row of `quota`; `none` is no limit. -/
structure Quota where
  scopeType : ScopeType
  scopeId : Option Nat := none
  maxWorkspaces : Option Nat := none
  maxRunningWorkspaces : Option Nat := none
  maxCpu : Option ℚ := none
  maxMemoryMb : Option Int := none
  maxSessions : Option Nat := none
  maxRuntimeHours : Option ℚ := none
  deriving DecidableEq, Repr

/-- `QuotaExceededError`. -/
structure QuotaExceeded where
  quotaField : String
  limit : ℚ
  current : ℚ
  scope : String
  deriving DecidableEq, Repr

/-- The text of the error; the source prints `max_cpu` and the hours as rounded floats. -/
def QuotaExceeded.message (e : QuotaExceeded) : String :=
  "Quota exceeded: " ++ e.quotaField ++ " (limit=" ++ toString e.limit ++ ", current=" ++
    toString e.current ++ ", scope=" ++ e.scope ++ ")"

/-- `_get_effective_quota`: workspace over user over global. -/
def getEffectiveQuota (quotas : List Quota) (owner : Option Nat) (wid : Option Nat) :
    Option Quota :=
  let byScope (scope : ScopeType) (id : Option Nat) : Option Quota :=
    id.bind fun i => quotas.find? fun q => q.scopeType = scope && q.scopeId = some i
  (byScope .workspace wid).or ((byScope .user owner).or
    (quotas.find? fun q => q.scopeType = .global && q.scopeId = none))

/-! ## What counts -/

/-- `_ACTIVE_WS_STATUSES`. -/
def WorkspaceStatus.countsActive : WorkspaceStatus → Bool
  | creating | pending | starting | running | stopping | stopped | restarting | updating
  | error => true
  | deleting | deleted => false

/-- `_RUNNING_WS_STATUSES`. -/
def WorkspaceStatus.countsRunning : WorkspaceStatus → Bool
  | running | pending | starting | restarting => true
  | creating | stopping | stopped | updating | error | deleting | deleted => false

/-- `SELECT count(*)` of the owner's workspaces in a set of statuses, apart from `ignored`. -/
def ownedCount (db : Db) (owner : Nat) (counts : WorkspaceStatus → Bool) (ignored : Option Nat) :
    Nat :=
  db.workspaces.entries.countP fun e =>
    e.2.ownerUserId = owner && counts e.2.status && ignored ≠ some e.1

/-- `SUM(reserved_cpu), SUM(reserved_memory_mb)` over the owner's workspaces, apart from
`ignored`. -/
def reservedByOwner (db : Db) (owner : Nat) (ignored : Option Nat) : ℚ × Int :=
  ((db.runtimes.entries.filter fun e =>
      ((db.workspaces.lookup e.1).any fun ws => ws.ownerUserId = owner) && ignored ≠ some e.1).map
    fun e => (e.2.reservedCpu, e.2.reservedMemoryMb)).sum

/-! ## Checks -/

section Checks

variable (quotas : List Quota) (db : Db) (owner : Nat)

def userScope : String := "user:" ++ toString owner

/-- `check_workspace_quota`. -/
def checkWorkspaceQuota : Except QuotaExceeded Unit :=
  match (getEffectiveQuota quotas (some owner) none).bind (·.maxWorkspaces) with
  | none => .ok ()
  | some m =>
      let current := ownedCount db owner WorkspaceStatus.countsActive none
      if m ≤ current then .error ⟨"max_workspaces", m, current, userScope owner⟩ else .ok ()

/-- `check_running_workspace_quota`. -/
def checkRunningWorkspaceQuota (wid : Option Nat) : Except QuotaExceeded Unit :=
  match (getEffectiveQuota quotas (some owner) none).bind (·.maxRunningWorkspaces) with
  | none => .ok ()
  | some m =>
      let current := ownedCount db owner WorkspaceStatus.countsRunning wid
      if m ≤ current then .error ⟨"max_running_workspaces", m, current, userScope owner⟩ else .ok ()

/-- `check_monthly_runtime_hours_quota`, for the seconds recorded this month. -/
def checkMonthlyRuntimeHoursQuota (totalSecs : Int) : Except QuotaExceeded Unit :=
  match (getEffectiveQuota quotas (some owner) none).bind (·.maxRuntimeHours) with
  | none => .ok ()
  | some limit =>
      let hours : ℚ := totalSecs / 3600
      if limit ≤ hours then .error ⟨"max_runtime_hours", limit, hours, userScope owner⟩ else .ok ()

/-- `check_owner_compute_quota`; the cpu check has a tolerance of `1e-9`. -/
def checkOwnerComputeQuota (proposedCpu : ℚ) (proposedMemoryMb : Int) (ignored : Option Nat) :
    Except QuotaExceeded Unit :=
  match getEffectiveQuota quotas (some owner) none with
  | none => .ok ()
  | some q =>
      let used := reservedByOwner db owner ignored
      let newCpu := used.1 + proposedCpu
      let newMem := used.2 + proposedMemoryMb
      if q.maxCpu.any (fun m => m + 1 / 1000000000 < newCpu) then
        .error ⟨"max_cpu", q.maxCpu.getD 0, newCpu, userScope owner⟩
      else if q.maxMemoryMb.any (fun m => m < newMem) then
        .error ⟨"max_memory_mb", q.maxMemoryMb.getD 0, newMem, userScope owner⟩
      else .ok ()

/-- `check_session_quota`. -/
def checkSessionQuota (wid currentSessionCount : Nat) : Except QuotaExceeded Unit :=
  match (getEffectiveQuota quotas (some owner) (some wid)).bind (·.maxSessions) with
  | none => .ok ()
  | some m =>
      if m ≤ currentSessionCount then
        .error ⟨"max_sessions", m, currentSessionCount, "workspace:" ++ toString wid⟩
      else .ok ()

/-! ## Admission -/

/-- `float(cfg_json.get("cpu_limit_cores") or DEFAULT_WORKSPACE_REQUEST_CPU)`; `none` when `float`
raises. -/
def proposedCpu (config : WorkspaceConfig) : Option ℚ :=
  match config.cpuLimitCores with
  | .number q => some (if q = 0 then 1 else q)
  | .absent | .null => some 1
  | .unparseable => none

/-- `int(cfg_json.get("memory_limit_mib") or DEFAULT_WORKSPACE_REQUEST_MEMORY_MB)`. -/
def proposedMemoryMb (config : WorkspaceConfig) : Option Int :=
  match config.memoryLimitMib with
  | .number q => some (if q = 0 then 512 else truncateRat q)
  | .absent | .null => some 512
  | .unparseable => none

/-- The compute check with the limits of a configuration. -/
def checkConfigCompute (config : WorkspaceConfig) (ignored : Option Nat) : Except String Unit :=
  match proposedCpu config, proposedMemoryMb config with
  | some cpu, some mem =>
      (checkOwnerComputeQuota quotas db owner cpu mem ignored).mapError (·.message)
  | _, _ => .error "could not convert a limit of the configuration"

/-- The first error of a row of checks. -/
def firstRefusal : List (Except String Unit) → Option String
  | [] => none
  | .error m :: _ => some m
  | .ok _ :: rest => firstRefusal rest

/-- The checks of `create_workspace` and of the pinned create, before their policy. -/
def createChecks (monthSecs : Int) (config : WorkspaceConfig) : List (Except String Unit) :=
  [(checkWorkspaceQuota quotas db owner).mapError (·.message),
   (checkRunningWorkspaceQuota quotas db owner none).mapError (·.message),
   (checkMonthlyRuntimeHoursQuota quotas owner monthSecs).mapError (·.message),
   checkConfigCompute quotas db owner config none]

/-- The checks of `_persist_intent` for `START` and `RESTART`, before the policy. -/
def startChecks (monthSecs : Int) (wid : Nat) : List (Except String Unit) :=
  [(checkRunningWorkspaceQuota quotas db owner (some wid)).mapError (·.message),
   (checkMonthlyRuntimeHoursQuota quotas owner monthSecs).mapError (·.message),
   checkConfigCompute quotas db owner ((db.latestConfig wid).getD {}) (some wid)]

end Checks

/-! ## Steps under quotas -/

/-- A step, with the seconds the usage ledger holds this month for the owner who asks. The
refusal in its input is the policy's. -/
structure MeteredStep where
  monthSecs : Int := 0
  step : Step

/-- The requests that ask the quotas. -/
def Step.isChecked : Step → Bool
  | .createWorkspace .. | .createOperatorPinnedTestWorkspace .. | .requestStartWorkspace ..
  | .requestRestartWorkspace .. => true
  | _ => false

/-- The step with the refusal it meets. -/
def MeteredStep.resolve (quotas : List Quota) (db : Db) (m : MeteredStep) : Step :=
  match m.step with
  | .createWorkspace inp owner name config =>
      .createWorkspace { inp with
        refusal := (firstRefusal (createChecks quotas db owner m.monthSecs config)).or inp.refusal }
        owner name config
  | .createOperatorPinnedTestWorkspace inp owner executionNodeId suffix config =>
      .createOperatorPinnedTestWorkspace { inp with
        refusal := (firstRefusal (createChecks quotas db owner m.monthSecs config)).or inp.refusal }
        owner executionNodeId suffix config
  | .requestStartWorkspace inp wid owner user =>
      .requestStartWorkspace { inp with
        refusal := (firstRefusal (startChecks quotas db owner m.monthSecs wid)).or inp.refusal }
        wid owner user
  | .requestRestartWorkspace inp wid owner user =>
      .requestRestartWorkspace { inp with
        refusal := (firstRefusal (startChecks quotas db owner m.monthSecs wid)).or inp.refusal }
        wid owner user
  | st => st

/-- The system under a fixed set of quota rows. -/
def quotaStep (cfg : Settings) (quotas : List Quota) (db : Db) (m : MeteredStep) : Db :=
  step cfg db (m.resolve quotas db)

theorem firstRefusal_eq_none {checks : List (Except String Unit)} :
    firstRefusal checks = none ↔ ∀ c ∈ checks, c = .ok () := by
  induction checks with
  | nil => simp [firstRefusal]
  | cons c rest ih =>
      cases c with
      | error m => simp [firstRefusal]
      | ok u => simpa [firstRefusal] using ih

theorem mapError_eq_ok {e : Except QuotaExceeded Unit} {f : QuotaExceeded → String} :
    e.mapError f = .ok () ↔ e = .ok () := by
  cases e <;> simp [Except.mapError]

/-! ## What a request writes -/

/-- The two requests that make a workspace. -/
inductive Step.Creates : Step → IntentInput → Nat → WorkspaceConfig → Prop
  | scheduled (inp : IntentInput) (owner : Nat) (name : String) (config : WorkspaceConfig) :
      Step.Creates (.createWorkspace inp owner name config) inp owner config
  | pinned (inp : IntentInput) (owner executionNodeId : Nat) (suffix : String)
      (config : WorkspaceConfig) :
      Step.Creates (.createOperatorPinnedTestWorkspace inp owner executionNodeId suffix config) inp
        owner config

/-- The workspace rows after a request; `refusal` is what the request met. -/
inductive IntentWrite (db : Db) (st : Step) : Table Nat Workspace → Prop
  | none : IntentWrite db st db.workspaces
  | created {inp : IntentInput} {owner : Nat} {config : WorkspaceConfig} {ws : Workspace}
      (hst : st.Creates inp owner config) (href : inp.refusal = none)
      (howner : ws.ownerUserId = owner) (hnew : ws.status = .pending ∨ ws.status = .creating) :
      IntentWrite db st (db.workspaces.insert (Table.freshKey db.workspaces) ws)
  | started {inp : IntentInput} {wid owner user : Nat} {ws : Workspace}
      (hst : st = .requestStartWorkspace inp wid owner user) (href : inp.refusal = none)
      (hws : db.workspaces.lookup wid = some ws) (howner : ws.ownerUserId = owner)
      (hold : ws.status = .stopped ∨ ws.status = .error) :
      IntentWrite db st (db.workspaces.insert wid { ws with status := .starting })
  | restarted {inp : IntentInput} {wid owner user : Nat} {ws : Workspace}
      (hst : st = .requestRestartWorkspace inp wid owner user) (href : inp.refusal = none)
      (hws : db.workspaces.lookup wid = some ws) (howner : ws.ownerUserId = owner)
      (hold : ws.status = .running ∨ ws.status = .stopped) :
      IntentWrite db st (db.workspaces.insert wid { ws with status := .restarting })
  | left {wid : Nat} {ws : Workspace} {new : WorkspaceStatus}
      (hws : db.workspaces.lookup wid = some ws) (hidle : ws.status.isBusy = false)
      (hnew : new = .stopping ∧ ws.status = .running ∨ new = .deleting) :
      IntentWrite db st (db.workspaces.insert wid { ws with status := new })
  | updated {inp : IntentInput} {wid owner user : Nat} {config : WorkspaceConfig} {ws : Workspace}
      (hst : st = .requestUpdateWorkspace inp wid owner user config)
      (hws : db.workspaces.lookup wid = some ws) (howner : ws.ownerUserId = owner)
      (hold : ws.status = .running ∨ ws.status = .stopped ∨ ws.status = .error) :
      IntentWrite db st (db.workspaces.insert wid { ws with status := .updating })

section Writes

variable {db db' : Db} {inp : IntentInput} {wid owner user : Nat}

theorem getOwnedWorkspace_owner {includeDeleted : Bool} {ws : Workspace}
    (h : getOwnedWorkspace db wid owner includeDeleted = .ok ws) : ws.ownerUserId = owner := by
  unfold getOwnedWorkspace at h
  split at h
  · cases h
  · split at h
    · cases h
    · rename_i hown
      split at h
      · cases h
      · cases h
        exact not_not.mp hown

theorem requireStatus_ok {ws : Workspace} {allowed : List WorkspaceStatus} {m : String} {u : Unit}
    (h : requireStatus ws allowed m = .ok u) : ws.status ∈ allowed := by
  unfold requireStatus at h
  split at h
  · assumption
  · cases h

theorem ensureNotRefused_ok {u : Unit} (h : ensureNotRefused inp = .ok u) : inp.refusal = none := by
  unfold ensureNotRefused at h
  split at h
  · assumption
  · cases h

/-- `START` and `RESTART` are written only when nothing refused. -/
theorem persistIntent_admitted {ws : Workspace} {st : WorkspaceStatus} {jt : WorkspaceJobType}
    {version : Nat} (hjt : jt = .start ∨ jt = .restart)
    (h : persistIntent db inp wid ws st jt user version = .ok db') :
    inp.refusal = none ∧ db'.workspaces = db.workspaces.insert wid { ws with status := st } := by
  refine ⟨?_, by rw [persistIntent_ok h]; rfl⟩
  unfold persistIntent at h
  rw [if_pos (by rcases hjt with rfl | rfl <;> rfl)] at h
  obtain ⟨_, hok, -⟩ := bind_eq_ok.mp h
  exact ensureNotRefused_ok hok

theorem persistIntent_write {ws : Workspace} {st : WorkspaceStatus} {jt : WorkspaceJobType}
    {version : Nat} (h : persistIntent db inp wid ws st jt user version = .ok db') :
    db'.workspaces = db.workspaces.insert wid { ws with status := st } := by
  rw [persistIntent_ok h]
  rfl

/-- What an accepted create found and wrote. -/
theorem createWorkspace_admitted {name : String} {config : WorkspaceConfig}
    (h : createWorkspace db inp owner name config = .ok db') :
    inp.refusal = none ∧ ∃ ws : Workspace, ws.ownerUserId = owner ∧ ws.status = .pending ∧
      db'.workspaces = db.workspaces.insert (Table.freshKey db.workspaces) ws := by
  obtain ⟨_, hok, h⟩ := bind_eq_ok.mp h
  rw [← Except.ok.inj h]
  exact ⟨ensureNotRefused_ok hok, _, rfl, rfl, rfl⟩

theorem createWorkspace_write {name : String} {config : WorkspaceConfig}
    (h : createWorkspace db inp owner name config = .ok db') :
    IntentWrite db (.createWorkspace inp owner name config) db'.workspaces := by
  obtain ⟨href, ws, howner, hnew, hdb⟩ := createWorkspace_admitted h
  rw [hdb]
  exact .created (.scheduled inp owner name config) href howner (.inl hnew)

/-- What an accepted pinned create found and wrote. -/
theorem createOperatorPinnedTestWorkspace_admitted {cfg : Settings} {executionNodeId : Nat}
    {suffix : String} {config : WorkspaceConfig}
    (h : createOperatorPinnedTestWorkspace cfg db inp owner executionNodeId suffix config =
      .ok db') :
    inp.refusal = none ∧ ∃ ws : Workspace, ws.ownerUserId = owner ∧ ws.status = .creating ∧
      db'.workspaces = db.workspaces.insert (Table.freshKey db.workspaces) ws := by
  obtain ⟨_, -, h⟩ := bind_eq_ok.mp h
  obtain ⟨_, hok, h⟩ := bind_eq_ok.mp h
  rw [← Except.ok.inj h]
  exact ⟨ensureNotRefused_ok hok, _, rfl, rfl, rfl⟩

theorem createOperatorPinnedTestWorkspace_write {cfg : Settings} {executionNodeId : Nat}
    {suffix : String} {config : WorkspaceConfig}
    (h : createOperatorPinnedTestWorkspace cfg db inp owner executionNodeId suffix config =
      .ok db') :
    IntentWrite db (.createOperatorPinnedTestWorkspace inp owner executionNodeId suffix config)
      db'.workspaces := by
  obtain ⟨href, ws, howner, hnew, hdb⟩ := createOperatorPinnedTestWorkspace_admitted h
  rw [hdb]
  exact .created (.pinned inp owner executionNodeId suffix config) href howner (.inr hnew)

/-- What an accepted start found and wrote. -/
theorem requestStartWorkspace_admitted
    (h : requestStartWorkspace db inp wid owner user = .ok db') :
    inp.refusal = none ∧ ∃ ws, db.workspaces.lookup wid = some ws ∧ ws.ownerUserId = owner ∧
      (ws.status = .stopped ∨ ws.status = .error) ∧
      db'.workspaces = db.workspaces.insert wid { ws with status := .starting } := by
  obtain ⟨ws, hown, h⟩ := bind_eq_ok.mp h
  obtain ⟨_, -, h⟩ := bind_eq_ok.mp h
  obtain ⟨_, hst, h⟩ := bind_eq_ok.mp h
  obtain ⟨_, -, h⟩ := bind_eq_ok.mp h
  obtain ⟨_, -, h⟩ := bind_eq_ok.mp h
  obtain ⟨href, hdb⟩ := persistIntent_admitted (.inl rfl) h
  exact ⟨href, ws, (getOwnedWorkspace_ok hown).1, getOwnedWorkspace_owner hown,
    by simpa using requireStatus_ok hst, hdb⟩

theorem requestStartWorkspace_write (h : requestStartWorkspace db inp wid owner user = .ok db') :
    IntentWrite db (.requestStartWorkspace inp wid owner user) db'.workspaces := by
  obtain ⟨href, ws, hws, howner, hold, hdb⟩ := requestStartWorkspace_admitted h
  rw [hdb]
  exact .started rfl href hws howner hold

/-- What an accepted restart found and wrote. -/
theorem requestRestartWorkspace_admitted
    (h : requestRestartWorkspace db inp wid owner user = .ok db') :
    inp.refusal = none ∧ ∃ ws, db.workspaces.lookup wid = some ws ∧ ws.ownerUserId = owner ∧
      (ws.status = .running ∨ ws.status = .stopped) ∧
      db'.workspaces = db.workspaces.insert wid { ws with status := .restarting } := by
  obtain ⟨ws, hown, h⟩ := bind_eq_ok.mp h
  obtain ⟨_, -, h⟩ := bind_eq_ok.mp h
  obtain ⟨_, hst, h⟩ := bind_eq_ok.mp h
  obtain ⟨_, -, h⟩ := bind_eq_ok.mp h
  obtain ⟨_, -, h⟩ := bind_eq_ok.mp h
  obtain ⟨href, hdb⟩ := persistIntent_admitted (.inr rfl) h
  exact ⟨href, ws, (getOwnedWorkspace_ok hown).1, getOwnedWorkspace_owner hown,
    by simpa using requireStatus_ok hst, hdb⟩

theorem requestRestartWorkspace_write
    (h : requestRestartWorkspace db inp wid owner user = .ok db') :
    IntentWrite db (.requestRestartWorkspace inp wid owner user) db'.workspaces := by
  obtain ⟨href, ws, hws, howner, hold, hdb⟩ := requestRestartWorkspace_admitted h
  rw [hdb]
  exact .restarted rfl href hws howner hold

theorem requestStopWorkspace_write {st : Step}
    (h : requestStopWorkspace db inp wid owner user = .ok db') :
    IntentWrite db st db'.workspaces := by
  obtain ⟨ws, hown, h⟩ := bind_eq_ok.mp h
  obtain ⟨_, hb, h⟩ := bind_eq_ok.mp h
  obtain ⟨_, hst, h⟩ := bind_eq_ok.mp h
  obtain ⟨_, -, h⟩ := bind_eq_ok.mp h
  rw [persistIntent_write h]
  exact .left (getOwnedWorkspace_ok hown).1 (requireNotBusy_ok hb)
    (.inl ⟨rfl, by simpa using requireStatus_ok hst⟩)

theorem requestDeleteWorkspace_write {st : Step}
    (h : requestDeleteWorkspace db inp wid owner user = .ok db') :
    IntentWrite db st db'.workspaces := by
  obtain ⟨ws, hown, h⟩ := bind_eq_ok.mp h
  obtain ⟨_, hb, h⟩ := bind_eq_ok.mp h
  obtain ⟨_, -, h⟩ := bind_eq_ok.mp h
  obtain ⟨_, -, h⟩ := bind_eq_ok.mp h
  rw [persistIntent_write h]
  exact .left (getOwnedWorkspace_ok hown).1 (requireNotBusy_ok hb) (.inr rfl)

theorem requestUpdateWorkspace_write {config : WorkspaceConfig}
    (h : requestUpdateWorkspace db inp wid owner user config = .ok db') :
    IntentWrite db (.requestUpdateWorkspace inp wid owner user config) db'.workspaces := by
  obtain ⟨ws, hown, h⟩ := bind_eq_ok.mp h
  obtain ⟨_, -, h⟩ := bind_eq_ok.mp h
  obtain ⟨_, hst, h⟩ := bind_eq_ok.mp h
  obtain ⟨_, -, h⟩ := bind_eq_ok.mp h
  rw [← Except.ok.inj h]
  exact .updated rfl (getOwnedWorkspace_ok hown).1 (getOwnedWorkspace_owner hown)
    (by simpa using requireStatus_ok hst)

theorem accepted_write {st : Step} {r : Except IntentError Db}
    (h : ∀ db', r = .ok db' → IntentWrite db st db'.workspaces) :
    IntentWrite db st (accepted db r).workspaces := by
  cases r with
  | ok db' => exact h db' rfl
  | error e => exact .none

end Writes

/-- The requests that only queue a job leave the workspace rows alone. -/
theorem IntentWrite.of_queued {db : Db} {st : Step} {r : Except IntentError Db}
    (h : Yields (fun db' => db'.workspaces = db.workspaces) r) :
    IntentWrite db st (accepted db r).workspaces :=
  accepted_write fun db' hr => by rw [h db' hr]; exact .none

section Queued

variable (db : Db) (inp : IntentInput) (wid owner : Nat)

theorem enqueueReconcileRuntimeJob_workspaces (cfg : Settings) :
    Yields (fun db' => db'.workspaces = db.workspaces)
      (enqueueReconcileRuntimeJob cfg db inp wid) := by
  unfold enqueueReconcileRuntimeJob
  split
  · intro db' h; cases h
  · exact Yields.bind fun _ => Yields.bind fun _ => Yields.bind fun _ => Yields.bind fun _ =>
      fun db' h => by rw [← Except.ok.inj h]; rfl

theorem createSnapshot_workspaces :
    Yields (fun db' => db'.workspaces = db.workspaces) (createSnapshot db inp wid owner) := by
  refine Yields.bind fun ws => Yields.bind fun _ => ?_
  split
  · exact Yields.bind fun _ => Yields.bind fun _ => fun db' h => by rw [← Except.ok.inj h]; rfl
  · exact Yields.bind fun _ => fun db' h => by rw [← Except.ok.inj h]; rfl

theorem restoreSnapshot_workspaces (sid : Nat) :
    Yields (fun db' => db'.workspaces = db.workspaces) (restoreSnapshot db inp sid owner) := by
  intro db' h
  unfold restoreSnapshot at h
  split at h
  · cases h
  · split at h
    · cases h
    · repeat' split at h
      all_goals first
        | cases h; done
        | rw [← Except.ok.inj h]; rfl

theorem importRepo_workspaces :
    Yields (fun db' => db'.workspaces = db.workspaces) (importRepo db inp wid owner) := by
  refine Yields.bind fun _ => ?_
  split
  · exact Yields.bind fun _ => fun db' h => by rw [← Except.ok.inj h]; rfl
  · exact fun db' h => by rw [← Except.ok.inj h]; rfl

end Queued

/-! ## What a step writes -/

/-- The workspace rows after a step. -/
inductive StepWrite (cfg : Settings) (db : Db) (st : Step) : Table Nat Workspace → Prop
  | intent {t : Table Nat Workspace} (h : IntentWrite db st t) : StepWrite cfg db st t
  | committed {entry : EntryPoint} {inp : WorkerInput} {jid : Nat} {s : Session}
      (hex : st.execution db = some (entry, inp, jid)) (hs : claimJob inp jid db = some s)
      (hc : (executeClaimedJob cfg inp entry s).committed = true) :
      StepWrite cfg db st
        (db.workspaces.insert s.wid (executeClaimedJob cfg inp entry s).session.ws)

theorem runJob_write {cfg : Settings} {db : Db} {st : Step} {entry : EntryPoint} {inp : WorkerInput}
    {jid : Nat} (hex : st.execution db = some (entry, inp, jid)) :
    StepWrite cfg db st (runJob cfg entry inp jid db).workspaces := by
  have h := runJob_effect cfg entry inp jid db
  generalize runJob cfg entry inp jid db = db' at h
  cases h with
  | idle => exact .intent .none
  | orphan => exact .intent .none
  | @committed s hs hc hend =>
      show StepWrite cfg db st (db.workspaces.insert _ _)
      rw [hend.target.1]
      exact .committed hex hs hc
  | rolledBack => exact .intent .none

theorem step_write (cfg : Settings) {db : Db} (hwf : WellFormed db) (st : Step) :
    StepWrite cfg db st (step cfg db st).workspaces := by
  cases st with
  | createWorkspace inp owner name config =>
      exact .intent (accepted_write fun _ => createWorkspace_write)
  | createOperatorPinnedTestWorkspace inp owner executionNodeId suffix config =>
      exact .intent (accepted_write fun _ => createOperatorPinnedTestWorkspace_write)
  | requestStartWorkspace inp wid owner user =>
      exact .intent (accepted_write fun _ => requestStartWorkspace_write)
  | requestStopWorkspace inp wid owner user =>
      exact .intent (accepted_write fun _ => requestStopWorkspace_write)
  | requestRestartWorkspace inp wid owner user =>
      exact .intent (accepted_write fun _ => requestRestartWorkspace_write)
  | requestDeleteWorkspace inp wid owner user =>
      exact .intent (accepted_write fun _ => requestDeleteWorkspace_write)
  | requestUpdateWorkspace inp wid owner user config =>
      exact .intent (accepted_write fun _ => requestUpdateWorkspace_write)
  | enqueueReconcileRuntimeJob inp wid =>
      exact .intent (.of_queued (enqueueReconcileRuntimeJob_workspaces db inp wid cfg))
  | createSnapshot inp wid owner =>
      exact .intent (.of_queued (createSnapshot_workspaces db inp wid owner))
  | restoreSnapshot inp sid owner =>
      exact .intent (.of_queued (restoreSnapshot_workspaces db inp owner sid))
  | importRepo inp wid owner => exact .intent (.of_queued (importRepo_workspaces db inp wid owner))
  | processNextQueuedJob inp jid =>
      simp only [step]
      split
      · rename_i h
        exact runJob_write (by simp only [Step.execution, h, if_true])
      · exact .intent .none
  | runQueuedWorkspaceJobById inp jid => exact runJob_write rfl
  | drainPendingCleanupTasks answers =>
      rw [show (step cfg db (.drainPendingCleanupTasks answers)).workspaces = db.workspaces from
        (drainPendingCleanupTasks_effect db answers).workspaces]
      exact .intent .none
  | reclaimStuckRunningJobs clk =>
      rw [show step cfg db (.reclaimStuckRunningJobs clk) = db from reclaimStuckRunningJobs_eq hwf]
      exact .intent .none

theorem wellFormed_quotaStep (cfg : Settings) (quotas : List Quota) {db : Db} (hwf : WellFormed db)
    (m : MeteredStep) : WellFormed (quotaStep cfg quotas db m) :=
  wellFormed_step cfg hwf _

/-- The quotas change no execution. -/
@[simp] theorem resolve_execution (quotas : List Quota) (db db' : Db) (m : MeteredStep) :
    (m.resolve quotas db).execution db' = m.step.execution db' := by
  unfold MeteredStep.resolve
  cases m.step <;> rfl

/-! ## What was accepted was checked -/

section Accepted

variable {quotas : List Quota} {db : Db} {ms : MeteredStep} {inp : IntentInput}

/-- A create that is accepted has passed its checks. -/
theorem resolve_create {o : Nat} {config : WorkspaceConfig}
    (h : (ms.resolve quotas db).Creates inp o config) (href : inp.refusal = none) :
    (∃ inp', ms.step.Creates inp' o config) ∧
      ∀ c ∈ createChecks quotas db o ms.monthSecs config, c = .ok () := by
  unfold MeteredStep.resolve at h
  split at h
  · rename_i inp' _ name _ hst
    rw [hst]
    cases h with
    | scheduled =>
        exact ⟨⟨inp', .scheduled ..⟩, firstRefusal_eq_none.mp (Option.or_eq_none_iff.mp href).1⟩
  · rename_i inp' _ _ _ _ hst
    rw [hst]
    cases h with
    | pinned =>
        exact ⟨⟨inp', .pinned ..⟩, firstRefusal_eq_none.mp (Option.or_eq_none_iff.mp href).1⟩
  · cases h
  · cases h
  · rename_i hne hne' _ _
    generalize hst : ms.step = st at h
    cases h with
    | scheduled => exact absurd hst (hne _ _ _ _)
    | pinned => exact absurd hst (hne' _ _ _ _ _)

/-- A start that is accepted has passed its checks. -/
theorem resolve_start {wid o user : Nat}
    (h : ms.resolve quotas db = .requestStartWorkspace inp wid o user)
    (href : inp.refusal = none) :
    (∃ inp', ms.step = .requestStartWorkspace inp' wid o user) ∧
      ∀ c ∈ startChecks quotas db o ms.monthSecs wid, c = .ok () := by
  unfold MeteredStep.resolve at h
  split at h
  · cases h
  · cases h
  · rename_i inp' _ _ _ hst
    injection h with hinp hwid ho huser
    subst hwid ho huser
    rw [← hinp] at href
    exact ⟨⟨inp', hst⟩, firstRefusal_eq_none.mp (Option.or_eq_none_iff.mp href).1⟩
  · cases h
  · rename_i _ _ hne _
    exact absurd h (hne inp wid o user)

/-- A restart that is accepted has passed the same checks. -/
theorem resolve_restart {wid o user : Nat}
    (h : ms.resolve quotas db = .requestRestartWorkspace inp wid o user)
    (href : inp.refusal = none) :
    (∃ inp', ms.step = .requestRestartWorkspace inp' wid o user) ∧
      ∀ c ∈ startChecks quotas db o ms.monthSecs wid, c = .ok () := by
  unfold MeteredStep.resolve at h
  split at h
  · cases h
  · cases h
  · cases h
  · rename_i inp' _ _ _ hst
    injection h with hinp hwid ho huser
    subst hwid ho huser
    rw [← hinp] at href
    exact ⟨⟨inp', hst⟩, firstRefusal_eq_none.mp (Option.or_eq_none_iff.mp href).1⟩
  · rename_i _ _ _ hne
    exact absurd h (hne inp wid o user)

/-- The steps that ask no quota are taken as they are. -/
theorem resolve_unchecked {st : Step} (hst : st.isChecked = false)
    (h : ms.resolve quotas db = st) : ms.step = st := by
  subst h
  unfold MeteredStep.resolve at hst ⊢
  split at hst
  · cases hst
  · cases hst
  · cases hst
  · cases hst
  · rfl

end Accepted

end Devnest
