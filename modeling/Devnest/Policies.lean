import Mathlib.Data.List.Sort
import Devnest.BusyJobs
import Devnest.QuotaBounds

/-!
# Policies

`policy_service/service.py`: the active policies that apply to a request, oldest
first, and the `evaluate_*` functions, each of which raises for the first
policy with a rule against the request.

`PolicedStep.resolve` is a request under a fixed set of policies. Only the
requests that ask the policies meet them: `create_workspace`, the starts and
restarts, and `create_snapshot`. `request_update_workspace` asks none, although
its job starts a container.

`start_ban_holds`: a workspace that policies keep from starting stays down as
long as no update of it is accepted.
-/

namespace Devnest

open Runs

/-! ## Rows -/

/-- `rules_json`; `none` is an absent or null rule. -/
structure PolicyRules where
  allowWorkspaceCreation : Option Bool := none
  allowWorkspaceStart : Option Bool := none
  allowSnapshotCreation : Option Bool := none
  allowSessionCreation : Option Bool := none
  allowNodeProvisioning : Option Bool := none
  allowedRuntimeImages : Option (List String) := none
  requirePrivateWorkspaces : Option Bool := none
  deriving DecidableEq, Repr

/-- A row of `policy`. -/
structure Policy where
  name : String
  scopeType : ScopeType := .global
  scopeId : Option Nat := none
  rules : PolicyRules := {}
  isActive : Bool := true
  createdAt : Nat := 0
  deriving DecidableEq, Repr

/-- `PolicyViolationError`. -/
structure PolicyViolation where
  policyName : String
  action : String
  reason : String
  deriving DecidableEq, Repr

def PolicyViolation.message (e : PolicyViolation) : String :=
  "Policy violation [" ++ e.policyName ++ "] blocked '" ++ e.action ++ "': " ++ e.reason

/-- One of the filters of `_load_applicable_policies`. -/
def Policy.appliesTo (p : Policy) (owner wid : Option Nat) : Bool :=
  match p.scopeType with
  | .global => true
  | .user => owner.isSome && p.scopeId = owner
  | .workspace => wid.isSome && p.scopeId = wid

/-- `_load_applicable_policies`. -/
def loadApplicablePolicies (policies : List Policy) (owner wid : Option Nat) : List Policy :=
  (policies.filter fun p => p.isActive && p.appliesTo owner wid).insertionSort
    fun p q => p.createdAt ≤ q.createdAt

/-! ## Evaluation -/

/-- The loop of the `evaluate_*` functions; `denial` is the reason of a blocking rule. -/
def evaluatePolicies (action : String) (denial : PolicyRules → Option String)
    (applicable : List Policy) : Except PolicyViolation Unit :=
  match applicable.findSome? fun p => (denial p.rules).map fun reason => (p.name, reason) with
  | some d => .error ⟨d.1, action, d.2⟩
  | none => .ok ()

theorem evaluatePolicies_eq_ok {action : String} {denial : PolicyRules → Option String}
    {applicable : List Policy} :
    evaluatePolicies action denial applicable = .ok () ↔ ∀ p ∈ applicable, denial p.rules = none := by
  have hfind : (applicable.findSome? fun p => (denial p.rules).map fun r => (p.name, r)) = none ↔
      ∀ p ∈ applicable, denial p.rules = none := by
    rw [List.findSome?_eq_none_iff]
    exact forall₂_congr fun p _ => Option.map_eq_none_iff
  unfold evaluatePolicies
  rw [← hfind]
  split
  · rename_i d hd
    simp [hd]
  · rename_i hnone
    simp [hnone]

/-- A denial comes from an applicable policy, with that policy's reason. -/
theorem evaluatePolicies_error {action : String} {denial : PolicyRules → Option String}
    {applicable : List Policy} {e : PolicyViolation}
    (h : evaluatePolicies action denial applicable = .error e) :
    e.action = action ∧
      ∃ p ∈ applicable, e.policyName = p.name ∧ denial p.rules = some e.reason := by
  unfold evaluatePolicies at h
  split at h
  · rename_i d hd
    obtain ⟨p, hp, hmap⟩ := List.exists_of_findSome?_eq_some hd
    obtain ⟨r, hr, rfl⟩ := Option.map_eq_some_iff.mp hmap
    rw [← Except.error.inj h]
    exact ⟨rfl, p, hp, rfl, hr⟩
  · cases h

/-- `not _rule(rules, key, True)`. -/
def forbids (rule : Option Bool) (reason : String) : Option String :=
  if rule.getD true then none else some reason

theorem forbids_eq_none {rule : Option Bool} {reason : String} :
    forbids rule reason = none ↔ rule ≠ some false := by
  rcases rule with _ | _ | _ <;> simp [forbids]

/-- `image and …`: the image a request names. -/
def namedImage (image : Option String) : Option String := image.filter (· ≠ "")

/-- The three checks of `evaluate_workspace_creation`, in order. -/
def creationDenial (image : Option String) (isPrivate : Bool) (rules : PolicyRules) :
    Option String :=
  if !rules.allowWorkspaceCreation.getD true then some "Workspace creation is disabled by policy"
  else match (namedImage image).filter fun i => rules.allowedRuntimeImages.any fun l => i ∉ l with
    | some i => some ("Runtime image '" ++ i ++ "' is not in the allowed list")
    | none =>
        if !isPrivate && rules.requirePrivateWorkspaces.getD false then
          some "Policy requires all workspaces to be private"
        else none

section Evaluate

variable (policies : List Policy) (owner wid : Nat)

def evaluateWorkspaceCreation (image : Option String) (isPrivate : Bool) :
    Except PolicyViolation Unit :=
  evaluatePolicies "workspace.create" (creationDenial image isPrivate)
    (loadApplicablePolicies policies (some owner) none)

def evaluateWorkspaceStart : Except PolicyViolation Unit :=
  evaluatePolicies "workspace.start"
    (fun r => forbids r.allowWorkspaceStart "Workspace start is disabled by policy")
    (loadApplicablePolicies policies (some owner) (some wid))

def evaluateSnapshotCreation : Except PolicyViolation Unit :=
  evaluatePolicies "workspace.snapshot.create"
    (fun r => forbids r.allowSnapshotCreation "Snapshot creation is disabled by policy")
    (loadApplicablePolicies policies (some owner) (some wid))

def evaluateSessionCreation : Except PolicyViolation Unit :=
  evaluatePolicies "workspace.session.create"
    (fun r => forbids r.allowSessionCreation "Session creation is disabled by policy")
    (loadApplicablePolicies policies (some owner) (some wid))

def evaluateNodeProvisioning : Except PolicyViolation Unit :=
  evaluatePolicies "node.provision"
    (fun r => forbids r.allowNodeProvisioning "Node provisioning is disabled by policy")
    (loadApplicablePolicies policies none none)

end Evaluate

/-- What a request meets; `none` lets it through. -/
def policyRefusal (r : Except PolicyViolation Unit) : Option String :=
  match r with
  | .ok _ => none
  | .error e => some e.message

theorem policyRefusal_eq_none {r : Except PolicyViolation Unit} :
    policyRefusal r = none ↔ r = .ok () := by
  cases r <;> simp [policyRefusal]

/-- What a create that the policies let through named. -/
theorem evaluateWorkspaceCreation_image {policies : List Policy} {owner : Nat}
    {image : Option String} {isPrivate : Bool} {i : String}
    (h : evaluateWorkspaceCreation policies owner image isPrivate = .ok ())
    (hi : namedImage image = some i) {p : Policy} {l : List String}
    (hp : p ∈ loadApplicablePolicies policies (some owner) none)
    (hl : p.rules.allowedRuntimeImages = some l) : i ∈ l := by
  have hnone := evaluatePolicies_eq_ok.mp h p hp
  by_contra hmem
  have hfilter : (namedImage image).filter
      (fun i => p.rules.allowedRuntimeImages.any fun l => i ∉ l) = some i := by
    simp [hi, hl, hmem]
  unfold creationDenial at hnone
  rw [hfilter] at hnone
  split at hnone <;> cases hnone

/-! ## Requests under policies -/

/-- A step, with what its body says of `is_private`. The refusal in its input is the quotas'. -/
structure PolicedStep where
  isPrivate : Bool := true
  step : Step

/-- The step with the refusal it meets. -/
def PolicedStep.resolve (policies : List Policy) (m : PolicedStep) : Step :=
  match m.step with
  | .createWorkspace inp owner name config =>
      .createWorkspace { inp with refusal := inp.refusal.or (policyRefusal
        (evaluateWorkspaceCreation policies owner config.image m.isPrivate)) } owner name config
  | .createOperatorPinnedTestWorkspace inp owner executionNodeId suffix config =>
      -- its body is built with `is_private=True`
      .createOperatorPinnedTestWorkspace { inp with refusal := inp.refusal.or (policyRefusal
        (evaluateWorkspaceCreation policies owner config.image true)) } owner executionNodeId
        suffix config
  | .requestStartWorkspace inp wid owner user =>
      .requestStartWorkspace { inp with refusal := inp.refusal.or (policyRefusal
        (evaluateWorkspaceStart policies owner wid)) } wid owner user
  | .requestRestartWorkspace inp wid owner user =>
      .requestRestartWorkspace { inp with refusal := inp.refusal.or (policyRefusal
        (evaluateWorkspaceStart policies owner wid)) } wid owner user
  | .createSnapshot inp wid owner =>
      .createSnapshot { inp with refusal := inp.refusal.or (policyRefusal
        (evaluateSnapshotCreation policies owner wid)) } wid owner
  | st => st

/-- The system under a fixed set of policies. -/
def policyStep (cfg : Settings) (policies : List Policy) (db : Db) (m : PolicedStep) : Db :=
  step cfg db (m.resolve policies)

/-! ## The start ban -/

/-- A policy that applies to the workspace has `allow_workspace_start` false. -/
def StartBanned (policies : List Policy) (owner w : Nat) : Prop :=
  ∃ p ∈ loadApplicablePolicies policies (some owner) (some w), p.rules.allowWorkspaceStart = some false

instance (policies : List Policy) (owner w : Nat) : Decidable (StartBanned policies owner w) :=
  inferInstanceAs (Decidable (∃ p ∈ _, _))

theorem StartBanned.refuses {policies : List Policy} {owner w : Nat}
    (h : StartBanned policies owner w) (quota : Option String) :
    quota.or (policyRefusal (evaluateWorkspaceStart policies owner w)) ≠ none := by
  intro hnone
  obtain ⟨p, hp, hrule⟩ := h
  have hok := policyRefusal_eq_none.mp (Option.or_eq_none_iff.mp hnone).2
  exact forbids_eq_none.mp (evaluatePolicies_eq_ok.mp hok p hp) hrule

/-- The workspace of an owner is not `RUNNING`, and no open job on it brings a container up. -/
structure Down (owner w : Nat) (db : Db) : Prop where
  row : ∃ ws, db.workspaces.lookup w = some ws ∧ ws.ownerUserId = owner ∧ ws.status ≠ .running
  jobs : ∀ {jid job}, db.jobs.lookup jid = some job → job.workspaceId = w →
    job.status.isOpen = true → job.jobType.bringsUp = false

theorem not_bringsUp_of_aux {jt : WorkspaceJobType} (h : jt.isLifecycle = false) :
    jt.bringsUp = false := by
  cases jt <;> first | rfl | cases h

/-- Down and without open lifecycle jobs. -/
theorem Down.of_idle {db : Db} {w : Nat} {ws : Workspace} (hws : db.workspaces.lookup w = some ws)
    (hst : ws.status ≠ .running) (hidle : openLifecycleJobs db w = 0) :
    Down ws.ownerUserId w db := by
  refine ⟨⟨ws, hws, rfl, hst⟩, fun {jid job} hjob hwid hopen => ?_⟩
  by_contra hup
  have hlife : job.jobType.isLifecycle = true := by
    by_contra hno
    exact hup (not_bringsUp_of_aux (Bool.eq_false_iff.mpr hno))
  have hone : 1 ≤ openLifecycleJobs db w :=
    Table.one_le_rowCount hjob (by simp [isOpenLifecycleOf, hwid, hlife, hopen])
  omega

/-! ### Requests -/

section Requests

variable {db db' : Db} {owner w : Nat}

/-- A request that writes the status of a workspace and queues a job on it. -/
theorem Down.requested (h : Down owner w db) {wid : Nat} {ws : Workspace} {st : WorkspaceStatus}
    {job : WorkspaceJob} {configs : Table (Nat × Nat) WorkspaceConfig}
    (hws : db.workspaces.lookup wid = some ws) (hwid : job.workspaceId = wid)
    (hdown : wid = w → st ≠ .running ∧ job.jobType.bringsUp = false) :
    Down owner w ({ db with
      workspaces := db.workspaces.insert wid { ws with status := st }
      configs := configs }.queueJob job) := by
  obtain ⟨ws', hws', hown, hst⟩ := h.row
  constructor
  · by_cases hw : w = wid
    · subst hw
      obtain rfl : ws' = ws := Option.some.inj (hws'.symm.trans hws)
      exact ⟨{ ws' with status := st }, by simp [Db.queueJob], hown, (hdown rfl).1⟩
    · exact ⟨ws', by simpa [Db.queueJob, hw] using hws', hown, hst⟩
  · intro jid j hj hjw hopen
    simp only [Db.queueJob, Table.lookup_insert_eq] at hj
    split at hj
    · obtain rfl := Option.some.inj hj
      exact (hdown (hwid.symm.trans hjw)).2
    · exact h.jobs hj hjw hopen

/-- A request that leaves the statuses alone queues no lifecycle job. -/
theorem IntentEffect.jobs_of_same (h : IntentEffect db db')
    (hsame : db'.workspaces = db.workspaces) :
    db'.jobs = db.jobs ∨ ∃ job, job.jobType.isLifecycle = false ∧
      db'.jobs = db.jobs.insert (Table.freshKey db.jobs) job := by
  cases h with
  | refused => exact .inl rfl
  | @lifecycle wid ws st _ _ hws hidle hbusy _ _ _ _ =>
      have hlook : (db.workspaces.insert wid { ws with status := st }).lookup wid = some ws := by
        rw [show db.workspaces.insert wid { ws with status := st } = db.workspaces from hsame]
        exact hws
      rw [AList.lookup_insert] at hlook
      have hst : st = ws.status := congrArg Workspace.status (Option.some.inj hlook)
      rw [hst, hidle] at hbusy
      cases hbusy
  | @created ws _ _ _ _ _ _ =>
      have hlook : (db.workspaces.insert (Table.freshKey db.workspaces) ws).lookup
          (Table.freshKey db.workspaces) = none := by
        rw [show db.workspaces.insert (Table.freshKey db.workspaces) ws = db.workspaces from hsame]
        exact Table.lookup_freshKey _
      rw [AList.lookup_insert] at hlook
      cases hlook
  | queued _ hjt _ _ => exact .inr ⟨_, hjt, rfl⟩

theorem Down.queued (h : Down owner w db) (heff : IntentEffect db db')
    (hsame : db'.workspaces = db.workspaces) : Down owner w db' := by
  refine ⟨hsame ▸ h.row, fun {jid job} hjob hwid hopen => ?_⟩
  rcases heff.jobs_of_same hsame with hjobs | ⟨j, hj, hjobs⟩
  · exact h.jobs (hjobs ▸ hjob) hwid hopen
  · rw [hjobs, Table.lookup_insert_eq] at hjob
    split at hjob
    · obtain rfl := Option.some.inj hjob
      exact not_bringsUp_of_aux hj
    · exact h.jobs hjob hwid hopen

theorem Down.accepted {r : Except IntentError Db} (h : Down owner w db)
    (hr : ∀ db', r = .ok db' → Down owner w db') : Down owner w (accepted db r) := by
  cases r with
  | ok db' => exact hr db' rfl
  | error e => exact h

variable {inp : IntentInput} {wid o user : Nat}

/-- A new workspace is another one. -/
theorem Down.added (h : Down owner w db) (inp : IntentInput) (new : Workspace)
    (config : WorkspaceConfig) : Down owner w (db.addWorkspace inp new config) := by
  obtain ⟨ws, hws, hown, hst⟩ := h.row
  have hne : w ≠ Table.freshKey db.workspaces := Table.ne_freshKey hws
  refine ⟨⟨ws, by simpa [Db.addWorkspace, Db.queueJob, hne] using hws, hown, hst⟩,
    fun {jid job} hj hjw hopen => ?_⟩
  simp only [Db.addWorkspace, Db.queueJob, Table.lookup_insert_eq] at hj
  split at hj
  · obtain rfl := Option.some.inj hj
    exact absurd hjw.symm hne
  · exact h.jobs hj hjw hopen

theorem Down.create (h : Down owner w db) {name : String} {config : WorkspaceConfig}
    (hr : createWorkspace db inp o name config = .ok db') : Down owner w db' := by
  obtain ⟨_, -, hr⟩ := bind_eq_ok.mp hr
  rw [← Except.ok.inj hr]
  exact h.added inp _ config

theorem Down.createPinned (h : Down owner w db) {cfg : Settings} {executionNodeId : Nat}
    {suffix : String} {config : WorkspaceConfig}
    (hr : createOperatorPinnedTestWorkspace cfg db inp o executionNodeId suffix config =
      .ok db') :
    Down owner w db' := by
  obtain ⟨_, -, hr⟩ := bind_eq_ok.mp hr
  obtain ⟨_, -, hr⟩ := bind_eq_ok.mp hr
  rw [← Except.ok.inj hr]
  exact h.added inp _ config

/-- A banned start is not accepted. -/
theorem Down.start (h : Down owner w db)
    (hban : wid = w → o = owner → inp.refusal ≠ none)
    (hr : requestStartWorkspace db inp wid o user = .ok db') : Down owner w db' := by
  obtain ⟨href, ws', hws', howner, -⟩ := requestStartWorkspace_admitted hr
  obtain ⟨ws, hown, hr⟩ := bind_eq_ok.mp hr
  obtain ⟨_, -, hr⟩ := bind_eq_ok.mp hr
  obtain ⟨_, -, hr⟩ := bind_eq_ok.mp hr
  obtain ⟨_, -, hr⟩ := bind_eq_ok.mp hr
  obtain ⟨_, -, hr⟩ := bind_eq_ok.mp hr
  rw [persistIntent_ok hr]
  refine h.requested (getOwnedWorkspace_ok hown).1 rfl fun hw => ?_
  obtain ⟨ws'', hws'', hown', -⟩ := h.row
  subst hw
  obtain rfl : ws' = ws'' := Option.some.inj (hws'.symm.trans hws'')
  exact absurd href (hban rfl (howner.symm.trans hown'))

/-- Nor is a banned restart. -/
theorem Down.restart (h : Down owner w db)
    (hban : wid = w → o = owner → inp.refusal ≠ none)
    (hr : requestRestartWorkspace db inp wid o user = .ok db') : Down owner w db' := by
  obtain ⟨href, ws', hws', howner, -⟩ := requestRestartWorkspace_admitted hr
  obtain ⟨ws, hown, hr⟩ := bind_eq_ok.mp hr
  obtain ⟨_, -, hr⟩ := bind_eq_ok.mp hr
  obtain ⟨_, -, hr⟩ := bind_eq_ok.mp hr
  obtain ⟨_, -, hr⟩ := bind_eq_ok.mp hr
  obtain ⟨_, -, hr⟩ := bind_eq_ok.mp hr
  rw [persistIntent_ok hr]
  refine h.requested (getOwnedWorkspace_ok hown).1 rfl fun hw => ?_
  obtain ⟨ws'', hws'', hown', -⟩ := h.row
  subst hw
  obtain rfl : ws' = ws'' := Option.some.inj (hws'.symm.trans hws'')
  exact absurd href (hban rfl (howner.symm.trans hown'))

theorem Down.stop (h : Down owner w db)
    (hr : requestStopWorkspace db inp wid o user = .ok db') : Down owner w db' := by
  obtain ⟨ws, hown, hr⟩ := bind_eq_ok.mp hr
  obtain ⟨_, -, hr⟩ := bind_eq_ok.mp hr
  obtain ⟨_, -, hr⟩ := bind_eq_ok.mp hr
  obtain ⟨_, -, hr⟩ := bind_eq_ok.mp hr
  rw [persistIntent_ok hr]
  exact h.requested (getOwnedWorkspace_ok hown).1 rfl fun _ => ⟨by simp, rfl⟩

theorem Down.delete (h : Down owner w db)
    (hr : requestDeleteWorkspace db inp wid o user = .ok db') : Down owner w db' := by
  obtain ⟨ws, hown, hr⟩ := bind_eq_ok.mp hr
  obtain ⟨_, -, hr⟩ := bind_eq_ok.mp hr
  obtain ⟨_, -, hr⟩ := bind_eq_ok.mp hr
  obtain ⟨_, -, hr⟩ := bind_eq_ok.mp hr
  rw [persistIntent_ok hr]
  exact h.requested (getOwnedWorkspace_ok hown).1 rfl fun _ => ⟨by simp, rfl⟩

end Requests

/-- The step asks for an update of workspace `w` by its owner while it is `STOPPED` or `ERROR`. -/
def updatesDown (w : Nat) (db : Db) (st : Step) : Bool :=
  match st with
  | .requestUpdateWorkspace _ wid o _ _ =>
      wid = w && (db.workspaces.lookup w).any fun ws =>
        ws.ownerUserId = o && (ws.status = .stopped || ws.status = .error)
  | _ => false

/-- An update of a workspace that is not `RUNNING` is accepted in `STOPPED` and `ERROR` only. -/
theorem Down.update {db db' : Db} {owner w wid o user : Nat} {inp : IntentInput}
    {config : WorkspaceConfig} (h : Down owner w db)
    (hno : updatesDown w db (.requestUpdateWorkspace inp wid o user config) = false)
    (hr : requestUpdateWorkspace db inp wid o user config = .ok db') : Down owner w db' := by
  obtain ⟨ws, hown, hr⟩ := bind_eq_ok.mp hr
  obtain ⟨_, -, hr⟩ := bind_eq_ok.mp hr
  obtain ⟨_, hst, hr⟩ := bind_eq_ok.mp hr
  obtain ⟨_, -, hr⟩ := bind_eq_ok.mp hr
  rw [← Except.ok.inj hr]
  have hws := (getOwnedWorkspace_ok hown).1
  refine h.requested hws rfl fun hw => ?_
  subst hw
  obtain ⟨ws', hws', -, hdown⟩ := h.row
  obtain rfl : ws' = ws := Option.some.inj (hws'.symm.trans hws)
  have hold := requireStatus_ok hst
  simp [updatesDown, hws, getOwnedWorkspace_owner hown] at hno
  simp [hdown, hno] at hold

/-! ### Executions -/

theorem Down.executed {cfg : Settings} {entry : EntryPoint} {inp : WorkerInput} {jid : Nat}
    {owner w : Nat} {db db' : Db} (h : Down owner w db)
    (hex : ExecEffect cfg entry inp jid db db') : Down owner w db' := by
  cases hex with
  | idle _ => exact h
  | orphan _ _ _ hj =>
      refine ⟨h.row, fun {k j} hk hjw hopen => ?_⟩
      rw [Table.lookup_insert_eq] at hk
      split at hk
      · obtain rfl := Option.some.inj hk
        rw [hj] at hopen
        cases hopen
      · exact h.jobs hk hjw hopen
  | @committed s hs hc hend =>
      have hcl := claimJob_claimed hs
      obtain ⟨hw', hsame⟩ := hend.target
      obtain ⟨j, hj, hjsame, hqueued⟩ := hcl.job
      obtain ⟨ws, hws, hown, hst⟩ := h.row
      -- a job on the workspace brings nothing up
      have hup : s.wid = w → s.job.jobType.bringsUp = false := by
        intro hw
        rw [hjsame.2]
        refine h.jobs hj ?_ (by rw [hqueued]; rfl)
        rw [← hjsame.1, hcl.target, hw]
      constructor
      · by_cases hw : w = s.wid
        · subst hw
          obtain rfl : s.ws = ws := Option.some.inj (hcl.ws.symm.trans hws)
          refine ⟨_, by rw [commit_workspaces_lookup, hw', if_pos rfl],
            (executeClaimedJob_owner cfg inp entry s).trans hown, ?_⟩
          rcases executeClaimedJob_not_up cfg inp (hup rfl) entry hc with hkeep | hset
          · rw [hkeep]
            exact hst
          · intro hrun
            rw [hrun] at hset
            cases hset
        · exact ⟨ws, by rw [commit_workspaces_lookup, hw', if_neg hw]; exact hws, hown, hst⟩
      · intro k j' hk hjw hopen
        rw [commit_jobs, Table.lookup_insert_eq] at hk
        split at hk
        · obtain rfl := Option.some.inj hk
          rw [hsame.2]
          exact hup (by rw [← hcl.target, ← hsame.1, hjw])
        · exact h.jobs hk hjw hopen
  | rolledBack _ _ _ => exact ⟨h.row, h.jobs⟩

/-! ### Runs -/

/-- **What keeps a banned workspace down**: every step but an update of it. -/
theorem policyStep_down (cfg : Settings) {policies : List Policy} {owner w : Nat} {db : Db}
    (hwf : WellFormed db) (hban : StartBanned policies owner w) (h : Down owner w db)
    {m : PolicedStep} (hno : updatesDown w db m.step = false) :
    Down owner w (policyStep cfg policies db m) := by
  obtain ⟨isPrivate, st⟩ := m
  cases st with
  | createWorkspace inp o name config => exact h.accepted fun _ => h.create
  | createOperatorPinnedTestWorkspace inp o executionNodeId suffix config =>
      exact h.accepted fun _ => h.createPinned
  | requestStartWorkspace inp wid o user =>
      exact h.accepted fun _ => h.start (by rintro rfl rfl; exact hban.refuses inp.refusal)
  | requestStopWorkspace inp wid o user => exact h.accepted fun _ => h.stop
  | requestRestartWorkspace inp wid o user =>
      exact h.accepted fun _ => h.restart (by rintro rfl rfl; exact hban.refuses inp.refusal)
  | requestDeleteWorkspace inp wid o user => exact h.accepted fun _ => h.delete
  | requestUpdateWorkspace inp wid o user config => exact h.accepted fun _ => h.update hno
  | enqueueReconcileRuntimeJob inp wid =>
      exact h.accepted fun _ hr => h.queued (enqueueReconcileRuntimeJob_effect hr)
        (enqueueReconcileRuntimeJob_workspaces db inp wid cfg _ hr)
  | createSnapshot inp wid o =>
      exact h.accepted fun _ hr => h.queued (createSnapshot_effect hr)
        (createSnapshot_workspaces db _ wid o _ hr)
  | restoreSnapshot inp sid o =>
      exact h.accepted fun _ hr => h.queued (restoreSnapshot_effect hr)
        (restoreSnapshot_workspaces db inp o sid _ hr)
  | importRepo inp wid o =>
      exact h.accepted fun _ hr => h.queued (importRepo_effect hr)
        (importRepo_workspaces db inp wid o _ hr)
  | processNextQueuedJob inp jid =>
      simp only [policyStep, PolicedStep.resolve, step]
      split
      · exact h.executed (runJob_effect cfg _ inp jid db)
      · exact h
  | runQueuedWorkspaceJobById inp jid => exact h.executed (runJob_effect cfg _ inp jid db)
  | drainPendingCleanupTasks answers =>
      have heff := drainPendingCleanupTasks_effect db answers
      exact ⟨heff.workspaces ▸ h.row, fun hj => h.jobs (heff.jobs ▸ hj)⟩
  | reclaimStuckRunningJobs clk =>
      show Down owner w (reclaimStuckRunningJobs cfg clk db)
      rw [reclaimStuckRunningJobs_eq hwf]
      exact h

/-- **A start ban holds** from any state the system gets to: a workspace that is not `RUNNING` and
has no open lifecycle job stays so, as long as its owner does not ask for an update of it while it
is `STOPPED` or `ERROR`. -/
theorem start_ban_holds {cfg : Settings} {policies : List Policy}
    {nodes : Table Nat ExecutionNode} {topologies : List Int} {before : List Step}
    {after : List PolicedStep} {w : Nat} {ws : Workspace}
    (hws : (run (step cfg) (initDb nodes topologies) before).workspaces.lookup w = some ws)
    (hban : StartBanned policies ws.ownerUserId w) (hst : ws.status ≠ .running)
    (hidle : openLifecycleJobs (run (step cfg) (initDb nodes topologies) before) w = 0)
    (h : Along (policyStep cfg policies) (fun db m => updatesDown w db m.step = false)
      (run (step cfg) (initDb nodes topologies) before) after) :
    Always (policyStep cfg policies)
      (fun db => ∀ ws', db.workspaces.lookup w = some ws' → ws'.status ≠ .running)
      (run (step cfg) (initDb nodes topologies) before) after := by
  have hwf : WellFormed (run (step cfg) (initDb nodes topologies) before) :=
    Reachable.invariant ⟨before, rfl⟩ (wellFormed_initDb nodes topologies)
      fun _ st h => wellFormed_step cfg h st
  have hall := always_of_along (Q := fun db => WellFormed db ∧ Down ws.ownerUserId w db)
    ⟨hwf, Down.of_idle hws hst hidle⟩
    (fun db m ⟨hwf, hdown⟩ hno =>
      ⟨wellFormed_step cfg hwf _, policyStep_down cfg hwf hban hdown hno⟩) h
  refine hall.mono fun db ⟨_, hdown⟩ ws' hws' => ?_
  obtain ⟨ws'', hws'', -, hst''⟩ := hdown.row
  obtain rfl : ws' = ws'' := Option.some.inj (hws'.symm.trans hws'')
  exact hst''

/-- Nobody starts anything. -/
def noStarts : List Policy := [{ name := "no-starts", rules := { allowWorkspaceStart := some false } }]

/-- An orchestrator whose restarts fail and whose updates succeed. -/
def updatingOrch : OrchestratorService :=
  { sampleOrch with
    restartWorkspaceRuntime := .returned { success := false, issues := ["restart:failed"] }
    updateWorkspaceRuntime := .returned
      { success := true, nodeId := some "node-1", topologyId := some "1", containerId := some "c2" } }

/-- Create, bring up, and a restart that fails twice. -/
def failedRestartRun : List Step :=
  [.createWorkspace { now := 0 } 7 "a" {},
   .processNextQueuedJob (sampleWorker 1 updatingOrch) 1,
   .requestRestartWorkspace { now := 2 } 1 7 7,
   .processNextQueuedJob (sampleWorker 3 updatingOrch) 2,
   .processNextQueuedJob (sampleWorker 60 updatingOrch) 2]

/-- Try to start and to restart the workspace. -/
def startBannedSteps : List PolicedStep :=
  [{ step := .requestStartWorkspace { now := 61 } 1 7 7 },
   { step := .requestRestartWorkspace { now := 62 } 1 7 7 },
   { step := .processNextQueuedJob (sampleWorker 63 updatingOrch) 3 }]

theorem banned_start_stays_down :
    StartBanned noStarts 7 1 ∧
    Always (policyStep {} noStarts)
      (fun db => ∀ ws, db.workspaces.lookup 1 = some ws → ws.status ≠ .running)
      (run (step {}) sampleDb failedRestartRun) startBannedSteps := by
  have hban : StartBanned noStarts 7 1 := by decide
  have hrow : ((run (step {}) sampleDb failedRestartRun).workspaces.lookup 1).map
      (fun ws => (ws.status, ws.ownerUserId)) = some (.error, 7) := by decide +kernel
  obtain ⟨ws, hws, hst⟩ := Option.map_eq_some_iff.mp hrow
  obtain ⟨hst, hown⟩ := Prod.mk.inj hst
  exact ⟨hban, start_ban_holds hws (hown ▸ hban) (by rw [hst]; decide) (by decide +kernel)
    (by decide +kernel)⟩

/-- Update it instead. -/
def updateBannedSteps : List PolicedStep :=
  [{ step := .requestUpdateWorkspace { now := 61 } 1 7 7 {} },
   { step := .processNextQueuedJob (sampleWorker 62 updatingOrch) 3 }]

/-- The update asks no policy, and its job leaves the workspace `RUNNING`. -/
theorem update_ends_start_ban :
    ¬ ∀ (policies : List Policy) (before : List Step) (after : List PolicedStep) (w : Nat)
      (ws : Workspace), (run (step {}) sampleDb before).workspaces.lookup w = some ws →
      StartBanned policies ws.ownerUserId w → ws.status ≠ .running →
      openLifecycleJobs (run (step {}) sampleDb before) w = 0 →
      Always (policyStep {} policies)
        (fun db => ∀ ws', db.workspaces.lookup w = some ws' → ws'.status ≠ .running)
        (run (step {}) sampleDb before) after := by
  intro h
  have hrow : ((run (step {}) sampleDb failedRestartRun).workspaces.lookup 1).map
      (fun ws => (ws.status, ws.ownerUserId)) = some (.error, 7) := by decide +kernel
  obtain ⟨ws, hws, hst⟩ := Option.map_eq_some_iff.mp hrow
  obtain ⟨hst, hown⟩ := Prod.mk.inj hst
  have hall := h noStarts failedRestartRun updateBannedSteps 1 ws hws (by rw [hown]; decide)
    (by rw [hst]; decide) (by decide +kernel)
  have hup : ((run (policyStep {} noStarts) (run (step {}) sampleDb failedRestartRun)
      updateBannedSteps).workspaces.lookup 1).map (·.status) = some .running := by decide +kernel
  obtain ⟨ws', hws', hrun⟩ := Option.map_eq_some_iff.mp hup
  exact hall.last ws' hws' hrun

end Devnest
