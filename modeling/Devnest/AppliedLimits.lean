import Devnest.Runs
import Devnest.Steps
import Devnest.UpdateLabels

/-!
# Recorded and enforced limits

The jobs of a worker on one Docker engine. A `CREATE` or `START` passes the
limits of the latest config on, a `RESTART` or `UPDATE` none, and every bring-up
reports the limits it asked for. The container has them only if it was created
by this bring-up. The engine is behind `DockerRuntimeAdapter`; the jobs of an
`ssm_docker` node, which ask `SsmDockerRuntimeAdapter` for the same containers,
are not among the steps (`AdapterParity` compares the two).

`limits_recorded_are_enforced`: along every run whose jobs ask for the limits of
the version they were queued for and reuse no container with others, the row,
the container and the config agree after every successful job.
-/

namespace Devnest

open PyText Runs

/-! ## The limits of a config -/

/-- `int(q)`. -/
def truncateRat (q : ℚ) : Int := if q < 0 then -((-q).floor) else q.floor

def RawLimit.positive : RawLimit → Option ℚ
  | .number q => if 0 < q then some q else none
  | .absent | .null | .unparseable => none

def RawLimit.positiveInt : RawLimit → Option Int
  | .number q => if 0 < truncateRat q then some (truncateRat q) else none
  | .absent | .null | .unparseable => none

/-- `_workspace_job_runtime_overrides_from_config`. -/
def workspaceJobRuntimeOverridesFromConfig (config : WorkspaceConfig) :
    Except String RuntimeOverrides :=
  match runtimeOverridesError config with
  | some m => .error m
  | none => .ok
      { cpuLimitCores := config.cpuLimitCores.positive
        memoryLimitMib := config.memoryLimitMib.positiveInt
        pidsLimit := config.pidsLimit.positiveInt }

/-- The `WorkspaceConfig` row of a version. -/
def Db.configRow (db : Db) (wid : Nat) (version : Int) : Option WorkspaceConfig :=
  if version < 0 then none else db.configs.lookup (wid, version.toNat)

/-- The limits a config stands for: its own, and the defaults where it sets none. -/
def configLimits (env : OrchestratorEnv) (config : Option WorkspaceConfig) :
    Except String RuntimeLimits :=
  match workspaceJobRuntimeOverridesFromConfig (config.getD {}) with
  | .error m => .error m
  | .ok o => resolveBringupRuntimeLimitsTriplet env o

/-! ## A job on the engine -/

/-- What the orchestrator's calls meet, by job type. -/
structure JobAnswers where
  /-- The config's `env` with the workspace's secrets. -/
  env : Table String String := ∅
  bringUp : BringUpAnswers
  restart : RestartAnswers
  update : UpdateAnswers
  stop : StopAnswers := {}

/-- The bring-up of a job and the answers it meets. -/
def jobBringUp (ans : JobAnswers) (s : Session) : Option (BringUpRequest × BringUpAnswers) :=
  match s.job.jobType with
  | .create | .start =>
      match workspaceJobRuntimeOverridesFromConfig (s.config.getD {}) with
      | .error _ => none
      | .ok o => some
          ({ wid := s.wid
             requestedConfigVersion := some s.job.requestedConfigVersion
             overrides := o
             env := ans.env
             launchMode := some (if s.job.jobType = .create then "new" else "resume") },
            ans.bringUp)
  | .restart => some (restartRequest s.wid (some s.job.requestedConfigVersion) ans.restart,
      ans.restart.bringUp)
  | .update => some (restartRequest s.wid (some s.job.requestedConfigVersion) ans.update.restart,
      ans.update.restart.bringUp)
  | _ => none

/-- The calls of `_execute_job_body` to the orchestrator. Only the types of a workspace's
running life are here; the others find no orchestrator. -/
def orchestratorCalls (env : OrchestratorEnv) (e : DockerEngine) (ans : JobAnswers) (s : Session) :
    DockerEngine × OrchestratorService :=
  let containerId := s.rt.bind (·.containerId)
  match s.job.jobType with
  | .create | .start =>
      match jobBringUp ans s with
      | none => (e, {})
      | some (req, up) =>
          match bringUpOnEngine env e req up with
          | (e', out) => (e', { bringUpWorkspaceRuntime := out })
  | .stop =>
      match stopOnEngine env e ans.stop s.wid containerId false with
      | (e', out) => (e', { stopWorkspaceRuntime := out })
  | .restart =>
      match restartOnEngine env e ans.restart s.wid containerId
          (some s.job.requestedConfigVersion) with
      | (e', out) => (e', { restartWorkspaceRuntime := out })
  | .update =>
      match updateOnEngine env e ans.update s.wid containerId s.job.requestedConfigVersion with
      | (e', out) => (e', { updateWorkspaceRuntime := out })
  | _ => (e, {})

/-- Placement found a node and the orchestrator was built. -/
def orchestratorReached (cfg : Settings) (inp : WorkerInput) (s : Session) : Bool :=
  (match resolveOrchestratorPlacement cfg inp.placement s with
    | .ok _ => true
    | .error _ => false) && inp.binding = .bound

/-- The database, the engine, and the job that ran last. -/
structure EngineWorld where
  db : Db
  engine : DockerEngine
  last : Option Nat := none

inductive EngineStep where
  | runJob (entry : EntryPoint) (inp : WorkerInput) (ans : JobAnswers) (jid : Nat)
  /-- A job row is written, by an intent or a service. -/
  | enqueue (jid : Nat) (job : WorkspaceJob)
  | saveConfig (wid version : Nat) (config : WorkspaceConfig)

/-- One step of the system. -/
def engineStep (cfg : Settings) (env : OrchestratorEnv) (w : EngineWorld) :
    EngineStep → EngineWorld
  | .runJob entry inp ans jid =>
      match claimJob inp jid w.db with
      | none => { w with last := none }
      | some s =>
          if orchestratorReached cfg inp s then
            match orchestratorCalls env w.engine ans s with
            | (e', orch) =>
                { db := runJob cfg entry { inp with orch := orch } jid w.db
                  engine := e'
                  last := some jid }
          else { w with db := runJob cfg entry inp jid w.db, last := some jid }
  | .enqueue jid job => { w with db := { w.db with jobs := w.db.jobs.insert jid job }, last := none }
  | .saveConfig wid version config =>
      { w with
        db := { w.db with configs := w.db.configs.insert (wid, version) config }
        last := none }

/-! ## What a successful job writes -/

/-- The job types that end with a running container. -/
def WorkspaceJobType.bringsUp : WorkspaceJobType → Bool
  | .create | .start | .restart | .update => true
  | _ => false

section Succeeded

variable {cfg : Settings} {inp : WorkerInput} {s s' : Session}

/-- The job succeeded and wrote the runtime row from `f`. -/
def RecordsUp (cfg : Settings) (inp : WorkerInput) (s : Session) (f : RuntimeFacts)
    (s' : Session) : Prop :=
  s'.wid = s.wid ∧ s'.job = markJobSucceeded inp.clk s.job ∧
    ∃ v target, s'.rt = some (applyRuntimeBringupLike cfg s.rt f v target)

theorem finalizeRuntimeRunningSuccess_records {f : RuntimeFacts} {v : Int}
    (h : finalizeRuntimeRunningSuccess cfg inp.clk inp.port s f v = .returned s') :
    RecordsUp cfg inp s f s' := by
  unfold finalizeRuntimeRunningSuccess at h
  split at h
  · cases h
  · rename_i target _
    injection h with h
    subst h
    exact ⟨rfl, rfl, v, target, rfl⟩

/-- An update that ended without a restart. -/
def EndsNoOp (inp : WorkerInput) (s : Session) : Prop :=
  s.job.jobType = .update ∧
    ∃ res, inp.orch.updateWorkspaceRuntime = .returned res ∧ res.noOp = true

/-- A body of one of these types succeeds by recording what the orchestrator said, or as an
update without a restart. -/
theorem executeJobBody_succeeded (hjt : s.job.jobType.bringsUp = true)
    (h : executeJobBody cfg inp s = .returned s') (hst : s'.job.status = .succeeded) :
    (∃ f, SaysUp inp s.job.jobType f ∧ RecordsUp cfg inp s f s') ∨ EndsNoOp inp s := by
  have hfail : ∀ {s₀ : Session} {m : String} {retryable : Bool},
      resolveOrchestratorResultFailure cfg inp.clk s₀ m .container retryable = s' → False :=
    fun hr => (resolveOrchestratorResultFailure_fails cfg inp.clk _ _ .container _).2.not_succeeded
      (hr ▸ hst)
  have hbring : s.job.jobType = .create ∨ s.job.jobType = .start →
      executeBringUpJob cfg inp s = .returned s' →
      ∃ f, SaysUp inp s.job.jobType f ∧ RecordsUp cfg inp s f s' := by
    intro hty hb
    unfold executeBringUpJob at hb
    split at hb
    · injection hb with hb
      subst hb
      cases hst
    · split at hb
      · cases hb
      · cases hb
      · rename_i res hres
        unfold finalizeBringupResult at hb
        split at hb
        · rename_i hs
          refine ⟨res.facts, ?_, finalizeRuntimeRunningSuccess_records hb⟩
          rcases hty with hty | hty
          · exact hty ▸ .create hres hs
          · exact hty ▸ .start hres hs
        · injection hb with hb
          exact (hfail hb).elim
  unfold executeJobBody at h
  cases hty : s.job.jobType with
  | create =>
      simp only [hty] at h
      exact .inl (hty ▸ hbring (.inl hty) h)
  | start =>
      simp only [hty] at h
      exact .inl (hty ▸ hbring (.inr hty) h)
  | restart =>
      simp only [hty] at h
      split at h
      · cases h
      · cases h
      · rename_i res hres
        unfold finalizeRestartResult at h
        split at h
        · rename_i hs
          exact .inl ⟨res.facts, .restart hres hs, finalizeRuntimeRunningSuccess_records h⟩
        · injection h with h
          exact (hfail h).elim
  | update =>
      simp only [hty] at h
      split at h
      · cases h
      · cases h
      · rename_i res hres
        unfold finalizeUpdateResult at h
        dsimp only at h
        split at h
        · rename_i hs
          exact .inl ⟨res.facts, .update hres hs, finalizeRuntimeRunningSuccess_records h⟩
        · split at h
          · rename_i hnoop
            exact .inr ⟨hty, res, hres, (Bool.and_eq_true _ _ ▸ hnoop).1⟩
          · injection h with h
            exact (hfail h).elim
  | _ =>
      rw [hty] at hjt
      cases hjt

theorem RecordsUp.of_begin {f : RuntimeFacts}
    (h : RecordsUp cfg inp (beginCreateBringupAfterPlacement s) f s') :
    RecordsUp cfg inp s f s' := by
  rw [(beginCreate_fields s).1] at h
  exact h

theorem beginCreate_job (s : Session) : (beginCreateBringupAfterPlacement s).job = s.job := by
  rw [(beginCreate_fields s).1]

/-- The same for a claimed job: it got to the orchestrator. -/
theorem executeClaimedJob_succeeded {entry : EntryPoint} (hjt : s.job.jobType.bringsUp = true)
    (hc : (executeClaimedJob cfg inp entry s).committed = true)
    (hst : (executeClaimedJob cfg inp entry s).session.job.status = .succeeded) :
    orchestratorReached cfg inp s = true ∧
      ((∃ f, SaysUp inp s.job.jobType f ∧
          RecordsUp cfg inp s f (executeClaimedJob cfg inp entry s).session) ∨
        EndsNoOp inp s) := by
  have hdelete : s.job.jobType ≠ .delete := by
    intro h
    rw [h] at hjt
    cases hjt
  have hrepo : s.job.jobType ≠ .repoImport := by
    intro h
    rw [h] at hjt
    cases hjt
  have hshort : ¬ (entry = .runPendingJobs && s.job.jobType = .delete && s.rt.isNone) = true := by
    simp [hdelete]
  unfold executeClaimedJob at hc hst ⊢
  rw [if_neg hshort] at hc hst ⊢
  unfold placeAndProcess at hc hst ⊢
  unfold orchestratorReached
  cases hp : resolveOrchestratorPlacement cfg inp.placement s with
  | error e =>
      simp only [hp] at hst
      exact absurd hst (failJobFromPlacement_fails cfg inp s e).2.not_succeeded
  | ok place =>
      obtain ⟨nodeKey, t⟩ := place
      simp only [hp, if_neg hrepo] at hc hst ⊢
      cases hb : inp.binding with
      | crashed =>
          simp only [hb] at hc
          cases hc
      | failed m =>
          simp only [hb] at hst
          exact absurd hst (failJobFromOrchestratorBinding_fails cfg inp s m).2.not_succeeded
      | bound =>
          simp only [hb] at hc hst ⊢
          refine ⟨rfl, ?_⟩
          have hjt' : (beginCreateBringupAfterPlacement s).job.jobType.bringsUp = true := by
            rw [beginCreate_job]
            exact hjt
          unfold processClaimedRunningJob at hc hst ⊢
          cases hbody : executeJobBody cfg inp (beginCreateBringupAfterPlacement s) with
          | crashed s₁ =>
              simp only [hbody] at hc
              cases hc
          | raised e s₁ =>
              exfalso
              simp only [hbody] at hst
              have hlife := executeJobBody_lifecycle cfg inp
                (s := beginCreateBringupAfterPlacement s) (by
                  rw [beginCreate_job]
                  revert hjt
                  cases s.job.jobType <;> simp [WorkspaceJobType.bringsUp,
                    WorkspaceJobType.isLifecycle])
              rw [hbody] at hlife
              obtain ⟨rfl, -⟩ := hlife
              have hsnap : (beginCreateBringupAfterPlacement s).job.jobType.isSnapshot = false := by
                rw [beginCreate_job]
                revert hjt
                cases s.job.jobType <;> simp [WorkspaceJobType.bringsUp,
                  WorkspaceJobType.isSnapshot]
              exact ((handleOrchestratorException_spec cfg inp _ (some nodeKey) e).2.1
                hsnap).not_succeeded hst
          | returned s₁ =>
              simp only [hbody] at hst ⊢
              rcases executeJobBody_succeeded hjt' hbody hst with ⟨f, hup, hrec⟩ | ⟨hty, hnoop⟩
              · rw [beginCreate_job] at hup
                exact .inl ⟨f, hup, hrec.of_begin⟩
              · rw [beginCreate_job] at hty
                exact .inr ⟨hty, hnoop⟩

end Succeeded

/-! ## Recorded limits, enforced limits -/

/-- The row, the container and the config of the job's version agree on the limits. -/
def LimitsAgree (env : OrchestratorEnv) (w : EngineWorld) (job : WorkspaceJob) : Prop :=
  ∃ rt cid c limits, w.db.runtimes.lookup job.workspaceId = some rt ∧ rt.containerId = some cid ∧
    w.engine.containers.lookup cid = some c ∧
    configLimits env (w.db.configRow job.workspaceId job.requestedConfigVersion) = .ok limits ∧
    rt.appliedCpuLimitCores = some limits.cpuLimitCores ∧
    rt.appliedMemoryLimitMb = some limits.memoryLimitMib ∧
    rt.appliedPidsLimit = some limits.pidsLimit ∧ c.quotas = limits.quotas

/-- If the job that just ran brought its workspace up, the limits agree. -/
def LimitsEnforced (env : OrchestratorEnv) (w : EngineWorld) : Prop :=
  ∀ jid job, w.last = some jid → w.db.jobs.lookup jid = some job → job.status = .succeeded →
    job.jobType.bringsUp = true → LimitsAgree env w job

/-- The bring-up asks for the limits of the job's version and reuses no container with
others. -/
def bringUpKeepsLimits (env : OrchestratorEnv) (db : Db) (e : DockerEngine) (s : Session)
    (req : BringUpRequest) (up : BringUpAnswers) : Bool :=
  match resolveBringupRuntimeLimitsTriplet env req.overrides,
      configLimits env (db.configRow s.wid s.job.requestedConfigVersion) with
  | .ok asked, .ok limits =>
      asked = limits && (up.reused e req).all fun old => old.quotas = limits.quotas
  | _, _ => false

/-- A job that gets to the orchestrator brings up with the limits of its version, and is not
an update without a restart. -/
def asksForItsLimits (cfg : Settings) (env : OrchestratorEnv) (w : EngineWorld) :
    EngineStep → Bool
  | .runJob _ inp ans jid =>
      match claimJob inp jid w.db with
      | none => true
      | some s =>
          !orchestratorReached cfg inp s ||
          match jobBringUp ans s with
          | none => true
          | some (req, up) => bringUpKeepsLimits env w.db w.engine s req up &&
              (s.job.jobType ≠ .update || updateRestarts env w.engine ans.update s.wid
                (s.rt.bind (·.containerId)) s.job.requestedConfigVersion)
  | .enqueue _ _ | .saveConfig _ _ _ => true

theorem bringUpKeepsLimits_iff {env : OrchestratorEnv} {db : Db} {e : DockerEngine} {s : Session}
    {req : BringUpRequest} {up : BringUpAnswers} :
    bringUpKeepsLimits env db e s req up = true ↔
      ∃ limits, resolveBringupRuntimeLimitsTriplet env req.overrides = .ok limits ∧
        configLimits env (db.configRow s.wid s.job.requestedConfigVersion) = .ok limits ∧
        ∀ old, up.reused e req = some old → old.quotas = limits.quotas := by
  unfold bringUpKeepsLimits
  cases resolveBringupRuntimeLimitsTriplet env req.overrides with
  | error m => simp
  | ok asked =>
      cases configLimits env (db.configRow s.wid s.job.requestedConfigVersion) with
      | error m => simp
      | ok limits =>
          simp only [Bool.and_eq_true, decide_eq_true_eq, Option.all_eq_true, Except.ok.injEq]
          constructor
          · rintro ⟨rfl, hold⟩
            exact ⟨asked, rfl, rfl, fun old h => by simpa using hold old h⟩
          · rintro ⟨limits', rfl, rfl, hold⟩
            exact ⟨rfl, fun old h => by simpa using hold old h⟩

/-- What the orchestrator reports of a job's bring-up: the limits asked for, on a container
with those of the one reused, if one was. -/
def UpOnEngine (env : OrchestratorEnv) (e e' : DockerEngine) (req : BringUpRequest)
    (up : BringUpAnswers) (f : RuntimeFacts) : Prop :=
  ∃ limits cid c, resolveBringupRuntimeLimitsTriplet env req.overrides = .ok limits ∧
    f.appliedCpuLimitCores = some limits.cpuLimitCores ∧
    f.appliedMemoryLimitMib = some limits.memoryLimitMib ∧
    f.appliedPidsLimit = some limits.pidsLimit ∧ f.nodeId = some env.nodeId ∧
    f.containerId = some cid ∧ e'.containers.lookup cid = some c ∧
    c.quotas = ((up.reused e req).map (·.quotas)).getD limits.quotas

theorem orchestratorCalls_up {env : OrchestratorEnv} {e e' : DockerEngine} {ans : JobAnswers}
    {s : Session} {inp : WorkerInput} {f : RuntimeFacts}
    (h : orchestratorCalls env e ans s = (e', inp.orch)) (hup : SaysUp inp s.job.jobType f)
    (hgo : s.job.jobType = .update → updateRestarts env e ans.update s.wid
      (s.rt.bind (·.containerId)) s.job.requestedConfigVersion = true) :
    ∃ req up, jobBringUp ans s = some (req, up) ∧ UpOnEngine env e e' req up f := by
  have hbring : s.job.jobType = .create ∨ s.job.jobType = .start →
      ∀ {res : WorkspaceBringUpResult}, inp.orch.bringUpWorkspaceRuntime = .returned res →
      res.success = true →
      ∃ req up, jobBringUp ans s = some (req, up) ∧ UpOnEngine env e e' req up res.facts := by
    intro hty res hres hs
    unfold orchestratorCalls at h
    have hcalls : (match jobBringUp ans s with
        | none => (e, ({} : OrchestratorService))
        | some (req, up) =>
            match bringUpOnEngine env e req up with
            | (e', out) => (e', { bringUpWorkspaceRuntime := out })) = (e', inp.orch) := by
      rcases hty with hty | hty <;> simpa only [hty] using h
    cases hjob : jobBringUp ans s with
    | none =>
        rw [hjob] at hcalls
        obtain ⟨-, horch⟩ := Prod.mk.inj hcalls
        rw [← horch] at hres
        cases hres
    | some p =>
        obtain ⟨req, up⟩ := p
        rw [hjob] at hcalls
        dsimp only at hcalls
        generalize hb : bringUpOnEngine env e req up = out at hcalls
        obtain ⟨e₁, out⟩ := out
        obtain ⟨rfl, horch⟩ := Prod.mk.inj hcalls
        rw [← horch] at hres
        dsimp only at hres
        subst hres
        obtain ⟨limits, cid, c, hl, hcpu, hmem, hpids, hnode, hid, hc, -, hq, -⟩ :=
          bringUpOnEngine_success hb hs
        exact ⟨req, up, rfl, limits, cid, c, hl, hcpu, hmem, hpids, hnode, hid, hc, hq⟩
  cases hty : s.job.jobType with
  | create =>
      rw [hty] at hup
      cases hup with
      | create hres hs => exact hbring (.inl hty) hres hs
  | start =>
      rw [hty] at hup
      cases hup with
      | start hres hs => exact hbring (.inr hty) hres hs
  | restart =>
      rw [hty] at hup
      cases hup with
      | restart hres hs =>
          unfold orchestratorCalls at h
          simp only [hty] at h
          generalize hb : restartOnEngine env e ans.restart s.wid (s.rt.bind (·.containerId))
            (some s.job.requestedConfigVersion) = out at h
          obtain ⟨e₁, out⟩ := out
          obtain ⟨rfl, horch⟩ := Prod.mk.inj h
          rw [← horch] at hres
          dsimp only at hres
          subst hres
          unfold restartOnEngine at hb
          generalize hcalls : restartCalls env e ans.restart s.wid (s.rt.bind (·.containerId))
            (some s.job.requestedConfigVersion) = calls at hb
          obtain ⟨e₂, stop, up⟩ := calls
          obtain ⟨rfl, hr⟩ := Prod.mk.inj hb
          obtain ⟨limits, cid, c, hl, hcpu, hmem, hpids, hnode, hid, hc, -, hq⟩ :=
            restart_container hcalls hr hs
          have hjob : jobBringUp ans s = some (restartRequest s.wid
              (some s.job.requestedConfigVersion) ans.restart, ans.restart.bringUp) := by
            simp only [jobBringUp, hty]
          exact ⟨_, _, hjob, limits, cid, c, hl, hcpu, hmem, hpids, hnode, hid, hc, hq⟩
  | update =>
      rw [hty] at hup
      cases hup with
      | update hres hs =>
          unfold orchestratorCalls at h
          simp only [hty] at h
          generalize hb : updateOnEngine env e ans.update s.wid (s.rt.bind (·.containerId))
            s.job.requestedConfigVersion = out at h
          obtain ⟨e₁, out⟩ := out
          obtain ⟨rfl, horch⟩ := Prod.mk.inj h
          rw [← horch] at hres
          dsimp only at hres
          subst hres
          obtain ⟨-, stop, up, res, hcalls, hr, hs', hid', hnode', hcpu', hmem', hpids'⟩ :=
            update_success hb hs (noOp_of_updateRestarts hb (hgo hty))
          obtain ⟨limits, cid, c, hl, hcpu, hmem, hpids, hnode, hid, hc, -, hq⟩ :=
            restart_container hcalls hr hs'
          have hjob : jobBringUp ans s = some (restartRequest s.wid
              (some s.job.requestedConfigVersion) ans.update.restart,
                ans.update.restart.bringUp) := by
            simp only [jobBringUp, hty]
          exact ⟨_, _, hjob, limits, cid, c, hl, hcpu'.trans hcpu, hmem'.trans hmem,
            hpids'.trans hpids, hnode'.trans hnode, hid'.trans hid, hc, hq⟩
  | _ =>
      rw [hty] at hup
      cases hup

/-- The row written for a named node has the facts' container and limits. -/
theorem applyRuntimeBringupLike_applied (cfg : Settings) (rt : Option WorkspaceRuntime)
    {f : RuntimeFacts} {node : String} (hnode : f.nodeId = some node) (hne : strip node ≠ "")
    (v : Int) (target : Option String) :
    (applyRuntimeBringupLike cfg rt f v target).containerId = f.containerId ∧
    (applyRuntimeBringupLike cfg rt f v target).appliedCpuLimitCores = f.appliedCpuLimitCores ∧
    (applyRuntimeBringupLike cfg rt f v target).appliedMemoryLimitMb = f.appliedMemoryLimitMib ∧
    (applyRuntimeBringupLike cfg rt f v target).appliedPidsLimit = f.appliedPidsLimit := by
  have hn : ¬ stripOr f.nodeId = "" := by
    rw [hnode]
    exact hne
  unfold applyRuntimeBringupLike
  dsimp only
  rw [if_neg hn]
  exact ⟨rfl, rfl, rfl, rfl⟩

/-- A claimed job that ends `SUCCEEDED` was executed and committed. -/
theorem runJob_succeeded {cfg : Settings} {entry : EntryPoint} {inp : WorkerInput} {db : Db}
    {jid : Nat} {s : Session} {job : WorkspaceJob} (hs : claimJob inp jid db = some s)
    (hjob : (runJob cfg entry inp jid db).jobs.lookup jid = some job)
    (hst : job.status = .succeeded) :
    (executeClaimedJob cfg inp entry s).committed = true ∧
      job = (executeClaimedJob cfg inp entry s).session.job ∧
      runJob cfg entry inp jid db = (executeClaimedJob cfg inp entry s).session.commit jid db ∧
      SameJob s.job job := by
  have heffect := runJob_effect cfg entry inp jid db
  generalize hdb : runJob cfg entry inp jid db = db' at heffect hjob
  cases heffect with
  | idle hs' =>
      rw [hs] at hs'
      cases hs'
  | orphan hs' =>
      rw [hs] at hs'
      cases hs'
  | committed hs' hc hend =>
      obtain rfl := Option.some.inj (hs.symm.trans hs')
      simp only [Session.commit, Table.lookup_insert_eq, if_true] at hjob
      obtain rfl := Option.some.inj hjob
      exact ⟨hc, rfl, rfl, hend.target.2⟩
  | rolledBack hs' =>
      obtain ⟨⟨job', hjob', -, hq⟩, -⟩ := claimJob_claimed hs
      have hsame : job' = job := Option.some.inj (hjob'.symm.trans hjob)
      rw [← hsame, hq] at hst
      cases hst

/-- A job that got to the orchestrator and ended `SUCCEEDED`. -/
theorem runJob_limits {cfg : Settings} {env : OrchestratorEnv} {entry : EntryPoint}
    {inp : WorkerInput} {ans : JobAnswers} {db : Db} {e e' : DockerEngine} {jid : Nat} {s : Session}
    {job : WorkspaceJob} (hs : claimJob inp jid db = some s)
    (hcalls : orchestratorCalls env e ans s = (e', inp.orch))
    (hask : ∀ req up, jobBringUp ans s = some (req, up) →
      bringUpKeepsLimits env db e s req up = true ∧
      (s.job.jobType = .update → updateRestarts env e ans.update s.wid
        (s.rt.bind (·.containerId)) s.job.requestedConfigVersion = true))
    (hjob : (runJob cfg entry inp jid db).jobs.lookup jid = some job)
    (hsucc : job.status = .succeeded) (hbrings : job.jobType.bringsUp = true) :
    LimitsAgree env { db := runJob cfg entry inp jid db, engine := e', last := some jid } job := by
  obtain ⟨hc, rfl, hcommit, hsame⟩ := runJob_succeeded hs hjob hsucc
  have hwid := (claimJob_claimed hs).target
  rw [hsame.2] at hbrings
  have hgo : s.job.jobType = .update → updateRestarts env e ans.update s.wid
      (s.rt.bind (·.containerId)) s.job.requestedConfigVersion = true := by
    intro hty
    have hbring : jobBringUp ans s = some (restartRequest s.wid
        (some s.job.requestedConfigVersion) ans.update.restart, ans.update.restart.bringUp) := by
      simp only [jobBringUp, hty]
    exact (hask _ _ hbring).2 hty
  rcases (executeClaimedJob_succeeded hbrings hc hsucc).2 with ⟨f, hup, hrec⟩ | ⟨hty, res, hres, hnoop⟩
  · obtain ⟨hwid', hjob', v, target, hrt⟩ := hrec
    obtain ⟨req, up, hbring, limits, cid, ctr, hl, hcpu, hmem, hpids, hnode, hid, hctr, hq⟩ :=
      orchestratorCalls_up hcalls hup hgo
    obtain ⟨limits', hl', hcfg, hreuse⟩ := bringUpKeepsLimits_iff.mp (hask req up hbring).1
    obtain rfl := Except.ok.inj (hl'.symm.trans hl)
    obtain ⟨hrid, hrcpu, hrmem, hrpids⟩ :=
      applyRuntimeBringupLike_applied cfg s.rt hnode env.node_named v target
    have hquotas : ctr.quotas = limits'.quotas := by
      cases hold : up.reused e req with
      | none =>
          rw [hold] at hq
          exact hq
      | some old =>
          rw [hold] at hq
          exact hq.trans (hreuse old hold)
    have hjwid : (executeClaimedJob cfg inp entry s).session.job.workspaceId = s.wid := by
      rw [hjob', ← hwid]
      rfl
    have hversion : (executeClaimedJob cfg inp entry s).session.job.requestedConfigVersion =
        s.job.requestedConfigVersion := by
      rw [hjob']
      rfl
    refine ⟨_, cid, ctr, limits', ?_, hrid.trans hid, hctr, ?_, hrcpu.trans hcpu, hrmem.trans hmem,
      hrpids.trans hpids, hquotas⟩
    · rw [hcommit, hjwid]
      simp only [Session.commit, hrt, hwid', Table.lookup_insert_eq, if_true]
    · rw [hcommit, hjwid, hversion]
      exact hcfg
  · exfalso
    have hcalls' := hcalls
    unfold orchestratorCalls at hcalls'
    simp only [hty] at hcalls'
    generalize hb : updateOnEngine env e ans.update s.wid (s.rt.bind (·.containerId))
      s.job.requestedConfigVersion = out at hcalls'
    obtain ⟨e₁, out⟩ := out
    obtain ⟨-, horch⟩ := Prod.mk.inj hcalls'
    rw [← horch] at hres
    dsimp only at hres
    subst hres
    rw [noOp_of_updateRestarts hb (hgo hty)] at hnoop
    cases hnoop

/-- **One job**: if it asks for its limits, they are the ones recorded and enforced. -/
theorem engineStep_limits {cfg : Settings} {env : OrchestratorEnv} {w : EngineWorld}
    {st : EngineStep} (hst : asksForItsLimits cfg env w st = true) :
    LimitsEnforced env (engineStep cfg env w st) := by
  intro jid job hlast hjob hsucc hbrings
  cases st with
  | enqueue j row => cases hlast
  | saveConfig wid version config => cases hlast
  | runJob entry inp ans j =>
      unfold engineStep at hlast hjob ⊢
      dsimp only at hlast hjob ⊢
      cases hs : claimJob inp j w.db with
      | none =>
          rw [hs] at hlast
          cases hlast
      | some s =>
          rw [hs] at hlast hjob
          dsimp only at hlast hjob ⊢
          cases hreach : orchestratorReached cfg inp s with
          | true =>
              simp only [hreach, if_true] at hlast hjob ⊢
              generalize hcalls : orchestratorCalls env w.engine ans s = calls at hlast hjob ⊢
              obtain ⟨e', orch⟩ := calls
              dsimp only at hlast hjob ⊢
              obtain rfl := Option.some.inj hlast
              refine runJob_limits hs hcalls (fun req up hbring => ?_) hjob hsucc hbrings
              simp only [asksForItsLimits, hs, hreach, hbring, Bool.not_true, Bool.false_or,
                Bool.and_eq_true, Bool.or_eq_true, decide_eq_true_eq] at hst
              exact ⟨hst.1, fun hty => hst.2.resolve_left fun hne => hne hty⟩
          | false =>
              simp only [hreach, if_neg Bool.false_ne_true] at hlast hjob
              obtain rfl := Option.some.inj hlast
              obtain ⟨hc, rfl, -, hsame⟩ := runJob_succeeded hs hjob hsucc
              rw [hsame.2] at hbrings
              rw [(executeClaimedJob_succeeded hbrings hc hsucc).1] at hreach
              cases hreach

/-- **Limits recorded are limits enforced**, after every job of a run whose jobs ask for the
limits of their version and reuse no container with others. -/
theorem limits_recorded_are_enforced {cfg : Settings} {env : OrchestratorEnv} {w : EngineWorld}
    (hw : w.last = none) {steps : List EngineStep}
    (hsteps : Along (engineStep cfg env) (fun w st => asksForItsLimits cfg env w st = true) w
      steps) :
    Always (engineStep cfg env) (LimitsEnforced env) w steps := by
  refine always_of_along ?_ (fun w st _ hst => engineStep_limits hst) hsteps
  intro jid job hlast
  rw [hw] at hlast
  cases hlast

/-! ## Two runs -/

/-- A workspace whose config asks for two cores, and its `CREATE` job. -/
def twoCoreWorld : EngineWorld where
  db := step {} sampleDb (.createWorkspace { now := 0 } 7 "a" { cpuLimitCores := .number 2 })
  engine := .empty

def healthyAnswers : JobAnswers where
  bringUp := healthyBringUp "c0ffee"
  restart := { bringUp := healthyBringUp "beef" }
  update := { restart := { bringUp := healthyBringUp "beef" } }

def createStep : EngineStep := .runJob .runPendingJobs (sampleWorker 1 {}) healthyAnswers 1

/-- A worker of a development setup, which starts without a complete runtime row. -/
def developmentSettings : Settings := { devnestAllowRuntimeEnvFallback := true }

/-- The workspace is created, stopped, and started in the container it has. -/
def createStopStart : List EngineStep :=
  let job (jobType : WorkspaceJobType) (createdAt : Nat) : WorkspaceJob :=
    { workspaceId := 1, jobType, requestedByUserId := 7, requestedConfigVersion := 1, createdAt }
  [createStep,
    .enqueue 2 (job .stop 2), .runJob .runPendingJobs (sampleWorker 3 {}) healthyAnswers 2,
    .enqueue 3 (job .start 4), .runJob .runPendingJobs (sampleWorker 5 {}) healthyAnswers 3]

/-- `CREATE` and `START` record and enforce the two cores. -/
theorem create_and_start_record_enforced_limits :
    Along (engineStep developmentSettings {})
        (fun w st => asksForItsLimits developmentSettings {} w st = true) twoCoreWorld
        createStopStart ∧
      Always (engineStep developmentSettings {}) (LimitsEnforced {}) twoCoreWorld
        createStopStart := by
  have hsteps : Along (engineStep developmentSettings {})
      (fun w st => asksForItsLimits developmentSettings {} w st = true) twoCoreWorld
      createStopStart := by decide +kernel
  exact ⟨hsteps, limits_recorded_are_enforced rfl hsteps⟩

/-- The `START` has taken the container of the `CREATE`. -/
example :
    let w := run (engineStep developmentSettings {}) twoCoreWorld createStopStart
    (w.db.jobs.lookup 3).map (·.status) = some .succeeded ∧ w.engine.containers.keys = ["c0ffee"] ∧
      (w.db.runtimes.lookup 1).map (·.appliedCpuLimitCores) = some (some 2) := by
  decide +kernel

/-- A `RESTART` of the version the workspace was created with. -/
def restartSteps : List EngineStep :=
  [createStep,
    .enqueue 2 { workspaceId := 1, jobType := .restart, requestedByUserId := 7,
                 requestedConfigVersion := 1, createdAt := 2 },
    .runJob .runPendingJobs (sampleWorker 3 {}) healthyAnswers 2]

/-- After the restart the row says one core, the default; the container and the config have
two. -/
theorem restart_records_default_limits :
    ¬ ∀ (cfg : Settings) (env : OrchestratorEnv) (w : EngineWorld), w.last = none →
      ∀ steps, Always (engineStep cfg env) (LimitsEnforced env) w steps := by
  intro h
  have hend := (h {} {} twoCoreWorld rfl restartSteps).last
  generalize hw : run (engineStep {} {}) twoCoreWorld restartSteps = w at hend
  have hfacts : w.last = some 2 ∧
      (w.db.jobs.lookup 2).map (fun j => (j.status, j.jobType, j.workspaceId)) =
        some (.succeeded, .restart, 1) ∧
      (w.db.runtimes.lookup 1).map (fun r => (r.containerId, r.appliedCpuLimitCores)) =
        some (some "c0ffee", some 1) ∧
      (w.engine.containers.lookup "c0ffee").map (·.quotas.nanoCpus) = some (some 2000000000) := by
    rw [← hw]
    decide +kernel
  obtain ⟨hlast, hjob, hrow, hctr⟩ := hfacts
  obtain ⟨job, hjob, hj⟩ := Option.map_eq_some_iff.mp hjob
  simp only [Prod.mk.injEq] at hj
  obtain ⟨hst, hty, hwid⟩ := hj
  obtain ⟨rt, cid, c, limits, hrt, hcid, hc, -, hcpu, -, -, hq⟩ :=
    hend 2 job hlast hjob hst (by rw [hty]; rfl)
  rw [hwid] at hrt
  rw [hrt, Option.map_some, Option.some.injEq, Prod.mk.injEq] at hrow
  obtain rfl := Option.some.inj (hcid.symm.trans hrow.1)
  have hone : limits.cpuLimitCores = 1 := Option.some.inj (hcpu.symm.trans hrow.2)
  rw [hc, Option.map_some, hq, RuntimeLimits.quotas, hone, Option.some.injEq] at hctr
  have hnano : some ((1 : ℚ) * 1000000000).floor = some 2000000000 := hctr
  revert hnano
  decide +kernel

end Devnest
