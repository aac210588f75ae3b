import Devnest.Finalizers

/-!
# Runtime reconcile

`execute_reconcile_runtime_job`: compare the stored status with what the
orchestrator and route-admin report, and repair. The job works off
cleanup tasks first, refuses busy workspaces, and then has one branch
per settled status.

`failReconcile` either requeues the job, fails the job alone (`STOPPED`,
`ERROR`, `DELETED`), or moves the workspace to `ERROR`; the last case is
the one a busy workspace meets.
-/

namespace Devnest

open PyText

/-! ## Route-admin -/

structure RouteRow where
  workspaceId : String
  target : Option String := none
  publicHost : Option String := none
  pathPrefix : Option String := none
  deriving DecidableEq, Repr

/-- What a call to route-admin comes to. -/
inductive GatewayReply (α : Type) where
  | ok (a : α)
  | clientError (message : String)
  | crashed
  deriving DecidableEq, Repr

structure GatewayClient where
  getRegisteredRoutes : GatewayReply (List RouteRow) := .ok []
  registerRoute : GatewayReply Unit := .ok ()
  deregisterRoute : GatewayReply Unit := .ok ()
  deriving DecidableEq, Repr

def normalizeHttpTarget (raw : Option String) : String :=
  let t := stripOr raw
  if t = "" then ""
  else
    let t := if isIn "://" t then t else "http://" ++ t
    if startsWith t "http://" || startsWith t "https://" then rstripChar '/' t else ""

def routeRowForWorkspace (routes : List RouteRow) (wid : Nat) : Option RouteRow :=
  routes.find? fun row => row.workspaceId = toString wid

/-- `gateway_route_needs_repair`. -/
def gatewayRouteNeedsRepair (row : Option RouteRow) (observed : String)
    (expectedPublicHost expectedPathPrefix : Option String) : Bool :=
  if strip observed = "" || normalizeHttpTarget (some (strip observed)) = "" then false
  else match row with
    | none => true
    | some row =>
        let want := lower (stripOr expectedPublicHost)
        normalizeHttpTarget row.target ≠ normalizeHttpTarget (some observed) ||
        (want ≠ "" && lower (stripOr row.publicHost) ≠ want) ||
        rstripChar '/' (stripOr expectedPathPrefix) ≠ rstripChar '/' (stripOr row.pathPrefix)

/-- `traefik_upstream_for_workspace_gateway`. -/
def traefikUpstreamForWorkspaceGateway (ws : Workspace) (rt : WorkspaceRuntime) : String :=
  orText (stripOr rt.gatewayRouteTarget) (orText (stripOr rt.internalEndpoint) (stripOr ws.endpointRef))

/-- `_gateway_default_public_host`. -/
def gatewayDefaultPublicHost (wid : Nat) (baseDomain : String) : String :=
  "ws-" ++ toString wid ++ "." ++ stripChar '.' (strip (orText baseDomain "app.devnest.local"))

/-! ## Failing a reconcile -/

/-- `_fail_reconcile`. -/
def failReconcile (cfg : Settings) (clk : Clock) (s : Session) (message : String) : Session :=
  let stage := (classifyReconcileFailure message).1
  retryElse cfg clk s (classifyReconcileFailure message).2 message stage stage.value
    (if s.ws.status = .stopped || s.ws.status = .error || s.ws.status = .deleted then
      { s with job := markJobFailed clk s.job message (some stage) (some stage.value) }
    else finalizeJobFailedWorkspaceError clk s message stage)

/-- `_repair_runtime_capacity_ledger`. -/
def repairRuntimeCapacityLedger (status : WorkspaceStatus) (rt : Option WorkspaceRuntime) :
    Option WorkspaceRuntime :=
  rt.map fun r =>
    if status = .stopped || status = .error || status = .deleted then
      if 0 < r.reservedCpu || 0 < r.reservedMemoryMb || 0 < r.reservedDiskMb then
        { r with reservedCpu := 0, reservedMemoryMb := 0, reservedDiskMb := 0 }
      else r
    else if status = .running && stripOr r.nodeId ≠ "" && r.reservedCpu ≤ 0 &&
        r.reservedMemoryMb ≤ 0 && r.reservedDiskMb ≤ 0 then
      { r with reservedCpu := 1, reservedMemoryMb := 512, reservedDiskMb := 4096 }
    else r

/-! ## The branches -/

/-- What a reconcile draws from its surroundings. -/
structure ReconcileInput where
  orch : OrchestratorService
  gateway : GatewayClient := {}
  /-- `try_acquire_workspace_reconcile_lock`. -/
  lockAcquired : Bool := true
  port : Option String → Option Nat := fun _ => none

section Branches

variable (cfg : Settings) (clk : Clock) (inp : ReconcileInput)

/-- Remove an orphan route, then succeed: the common end of the `DELETED` and `ERROR`
branches, and of a `STOPPED` workspace with nothing running. -/
def reconcileOrphanRoute (s : Session) : Exit :=
  if !cfg.devnestGatewayEnabled then .returned { s with job := markJobSucceeded clk s.job }
  else match inp.gateway.getRegisteredRoutes with
    | .crashed => .crashed s
    | .clientError e => .returned (failReconcile cfg clk s ("reconcile:gateway_list_failed:" ++ e))
    | .ok routes =>
        match routeRowForWorkspace routes s.wid with
        | none => .returned { s with job := markJobSucceeded clk s.job }
        | some _ =>
            match inp.gateway.deregisterRoute with
            | .crashed => .crashed s
            | .clientError e =>
                .returned (failReconcile cfg clk s ("reconcile:gateway_deregister_failed:" ++ e))
            | .ok () => .returned { s with job := markJobSucceeded clk s.job }

/-- `_reconcile_deleted`. -/
def reconcileDeleted (s : Session) : Exit := reconcileOrphanRoute cfg clk inp s

/-- `_reconcile_error_cleanup`. -/
def reconcileErrorCleanup (s : Session) : Exit :=
  match inp.orch.stopWorkspaceRuntime with
  | .crashed => .crashed s
  | .raised m =>
      .returned (failReconcile cfg clk s ("reconcile:error_cleanup_stop_failed:" ++ m))
  | .returned res =>
      if res.success then
        reconcileOrphanRoute cfg clk inp { s with rt := some (applyRuntimeStop s.rt res) }
      else reconcileOrphanRoute cfg clk inp s

/-- `_best_effort_remove_orphan_gateway_route` swallows route-admin errors; `true` when
anything else escapes from it. -/
def bestEffortRemoveOrphanGatewayRouteCrashes (s : Session) : Bool :=
  cfg.devnestGatewayEnabled &&
  match inp.gateway.getRegisteredRoutes with
  | .crashed => true
  | .clientError _ => false
  | .ok routes =>
      (routeRowForWorkspace routes s.wid).isSome && inp.gateway.deregisterRoute = .crashed

/-- `_reconcile_stopped`: a runtime that still answers is stopped once more. -/
def reconcileStopped (s : Session) : Exit :=
  match inp.orch.checkWorkspaceRuntimeHealth with
  | .crashed => .crashed s
  | .raised e =>
      .returned (failReconcile cfg clk s ("reconcile:health_check_failed:" ++ e.message))
  | .returned health =>
      if health.success then
        match inp.orch.stopWorkspaceRuntime with
        | .crashed => .crashed s
        | .raised m => .returned (failReconcile cfg clk s ("reconcile:stop_failed:" ++ m))
        | .returned res =>
            let s' := finalizeStopResult cfg clk s res
            if s'.job.status = .succeeded && bestEffortRemoveOrphanGatewayRouteCrashes cfg inp s then
              .crashed s'
            else .returned s'
      else reconcileOrphanRoute cfg clk inp s

/-- The route part of `_reconcile_running`, once the runtime row is synced. -/
def reconcileRunningRoute (s : Session) (rt : WorkspaceRuntime) : Exit :=
  let upstream := traefikUpstreamForWorkspaceGateway s.ws rt
  if !cfg.devnestGatewayEnabled || upstream = "" then
    .returned { s with job := markJobSucceeded clk s.job }
  else match inp.gateway.getRegisteredRoutes with
    | .crashed => .crashed s
    | .clientError e => .returned (failReconcile cfg clk s ("reconcile:gateway_list_failed:" ++ e))
    | .ok routes =>
        let host := orText (stripOr s.ws.publicHost)
          (gatewayDefaultPublicHost s.wid cfg.devnestBaseDomain)
        if gatewayRouteNeedsRepair (routeRowForWorkspace routes s.wid) upstream (some host)
            (stripOrNone s.ws.gatewayPathPrefix) then
          match inp.gateway.registerRoute with
          | .crashed => .crashed s
          | .clientError e =>
              .returned (failReconcile cfg clk s ("reconcile:gateway_register_failed:" ++ e))
          | .ok () => .returned { s with job := markJobSucceeded clk s.job }
        else .returned { s with job := markJobSucceeded clk s.job }

/-- `_reconcile_running`: health must hold; the runtime row is rewritten from it. -/
def reconcileRunning (s : Session) : Exit :=
  match inp.orch.checkWorkspaceRuntimeHealth with
  | .crashed => .crashed s
  | .raised e =>
      .returned (failReconcile cfg clk s ("reconcile:health_check_failed:" ++ e.message))
  | .returned health =>
      if !health.success then
        .returned (failReconcile cfg clk s
          (orText (formatIssues health.issues) "reconcile:runtime_not_healthy"))
      else match remoteGatewayRouteTargetForNode inp.port s health.nodeId health.gatewayRouteTarget
          health.internalEndpoint with
        | .error e => .raised (.bringUp e) s
        | .ok target =>
            let rt := applyRuntimeBringupLike cfg s.rt
              { health.facts with
                appliedCpuLimitCores := none, appliedMemoryLimitMib := none
                appliedPidsLimit := none, appliedSecurityOptions := none }
              s.job.requestedConfigVersion target
            let endpoint := (target.filter (· ≠ "")).or (health.internalEndpoint.filter (· ≠ ""))
            reconcileRunningRoute cfg clk inp
              { s with rt := some rt, ws := { s.ws with endpointRef := endpoint.or s.ws.endpointRef } }
              rt

/-- `execute_reconcile_runtime_job`. The topology janitor works on other tables and its
exceptions are swallowed. -/
def executeReconcileRuntimeJob (s : Session) : Exit :=
  if !inp.lockAcquired then
    .returned (failReconcile cfg clk s "reconcile:advisory_lock_contended")
  else
    let c := processDurableCleanupTasksForWorkspace s.wid s.ws.status inp.orch.cleanupStop
      { rt := s.rt, tasks := s.tasks, trace := s.trace }
    let s := { s with
      rt := repairRuntimeCapacityLedger s.ws.status c.rt, tasks := c.tasks, trace := c.trace }
    if s.ws.status.isBusy then
      .returned (failReconcile cfg clk s
        ("reconcile:workspace_busy (status=" ++ s.ws.status.value ++ ")"))
    else match s.ws.status with
      | .deleted => reconcileDeleted cfg clk inp s
      | .error => reconcileErrorCleanup cfg clk inp s
      | .stopped => reconcileStopped cfg clk inp s
      | _ => reconcileRunning cfg clk inp s

end Branches

end Devnest
