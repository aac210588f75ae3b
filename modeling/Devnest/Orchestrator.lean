import Devnest.Rows

/-!
# What the orchestrator answers

The result types of the orchestrator service, its exceptions, and the
answers one job execution meets: one per call site, since no job makes
two calls from one site. An answer is a result, the method's own
exception, or any other exception (`crashed`), which the worker does
not catch. Only `WorkspaceBringUpError` carries more than a text.
-/

namespace Devnest

/-! ## Results -/

structure WorkspaceBringUpResult where
  success : Bool
  nodeId : Option String := none
  topologyId : Option String := none
  containerId : Option String := none
  containerState : Option String := none
  internalEndpoint : Option String := none
  gatewayRouteTarget : Option String := none
  probeHealthy : Option Bool := none
  issues : List String := []
  rollbackAttempted : Bool := false
  rollbackSucceeded : Option Bool := none
  rollbackIssues : List String := []
  appliedCpuLimitCores : Option ℚ := none
  appliedMemoryLimitMib : Option Int := none
  appliedPidsLimit : Option Int := none
  appliedSecurityOptions : Option WorkspaceContainerSecuritySpec := none
  deriving DecidableEq, Repr

structure WorkspaceStopResult where
  success : Bool
  containerId : Option String := none
  containerState : Option String := none
  topologyDetached : Option Bool := none
  issues : List String := []
  deriving DecidableEq, Repr

structure WorkspaceDeleteResult where
  success : Bool
  containerDeleted : Option Bool := none
  topologyDetached : Option Bool := none
  topologyDeleted : Option Bool := none
  containerId : Option String := none
  issues : List String := []
  deriving DecidableEq, Repr

structure WorkspaceRestartResult where
  success : Bool
  stopSuccess : Option Bool := none
  bringupSuccess : Option Bool := none
  nodeId : Option String := none
  topologyId : Option String := none
  containerId : Option String := none
  containerState : Option String := none
  internalEndpoint : Option String := none
  gatewayRouteTarget : Option String := none
  probeHealthy : Option Bool := none
  issues : List String := []
  appliedCpuLimitCores : Option ℚ := none
  appliedMemoryLimitMib : Option Int := none
  appliedPidsLimit : Option Int := none
  appliedSecurityOptions : Option WorkspaceContainerSecuritySpec := none
  deriving DecidableEq, Repr

structure WorkspaceUpdateResult where
  success : Bool
  currentConfigVersion : Int := 0
  requestedConfigVersion : Int := 0
  noOp : Bool := false
  stopSuccess : Option Bool := none
  bringupSuccess : Option Bool := none
  nodeId : Option String := none
  topologyId : Option String := none
  containerId : Option String := none
  containerState : Option String := none
  internalEndpoint : Option String := none
  gatewayRouteTarget : Option String := none
  probeHealthy : Option Bool := none
  issues : List String := []
  appliedCpuLimitCores : Option ℚ := none
  appliedMemoryLimitMib : Option Int := none
  appliedPidsLimit : Option Int := none
  appliedSecurityOptions : Option WorkspaceContainerSecuritySpec := none
  deriving DecidableEq, Repr

structure WorkspaceSnapshotOperationResult where
  success : Bool
  sizeBytes : Option Int := none
  issues : List String := []
  deriving DecidableEq, Repr

/-! ## Exceptions -/

/-- `WorkspaceBringUpError`, with what the compensating rollback did. -/
structure WorkspaceBringUpError where
  message : String
  rollbackAttempted : Bool := false
  rollbackSucceeded : Option Bool := none
  rollbackIssues : List String := []
  rollbackContainerId : Option String := none
  rollbackContainerState : Option String := none
  deriving DecidableEq, Repr

/-- `WorkspaceBringUpError(message)`: no rollback was attempted. -/
def WorkspaceBringUpError.ofMessage (message : String) : WorkspaceBringUpError :=
  { message := message }

/-- `_ORCHESTRATOR_EXCEPTIONS`. -/
inductive OrchestratorException where
  | bringUp (e : WorkspaceBringUpError)
  | stop (message : String)
  | delete (message : String)
  | restart (message : String)
  | update (message : String)
  | snapshot (message : String)
  deriving DecidableEq, Repr

namespace OrchestratorException

/-- `str(e)`. -/
def message : OrchestratorException → String
  | bringUp e => e.message
  | stop m | delete m | restart m | update m | snapshot m => m

/-- `isinstance(e, (WorkspaceStopError, WorkspaceDeleteError))`. -/
def isStopOrDelete : OrchestratorException → Bool
  | stop _ | delete _ => true
  | bringUp _ | restart _ | update _ | snapshot _ => false

end OrchestratorException

/-- What a call to a method with exception `ε` comes to. -/
inductive Outcome (ε α : Type) where
  | returned (a : α)
  | raised (e : ε)
  | crashed
  deriving DecidableEq, Repr

/-- The orchestrator of one job, by call site. The cleanup service calls
`stop_workspace_runtime` once per pending scope. -/
structure OrchestratorService where
  bringUpWorkspaceRuntime : Outcome WorkspaceBringUpError WorkspaceBringUpResult := .crashed
  stopWorkspaceRuntime : Outcome String WorkspaceStopResult := .crashed
  deleteWorkspaceRuntime : Outcome String WorkspaceDeleteResult := .crashed
  restartWorkspaceRuntime : Outcome String WorkspaceRestartResult := .crashed
  updateWorkspaceRuntime : Outcome String WorkspaceUpdateResult := .crashed
  checkWorkspaceRuntimeHealth : Outcome WorkspaceBringUpError WorkspaceBringUpResult := .crashed
  exportWorkspaceFilesystemSnapshot : Outcome String WorkspaceSnapshotOperationResult := .crashed
  importWorkspaceFilesystemSnapshot : Outcome String WorkspaceSnapshotOperationResult := .crashed
  cleanupStop : CleanupScope → Outcome String WorkspaceStopResult := fun _ => .crashed

/-! ## Restart and update, composed of the other operations -/

/-- `_issues_or_none`, with the empty list for `None`. -/
def issuesOrNone (issues : List String) : List String :=
  (issues.map PyText.strip).filter (· ≠ "")

/-- The failed restart both exits of `restart_workspace_runtime` share. -/
def failedRestart (nid : String) (tid : Int) (stopRes : WorkspaceStopResult) (stopSuccess : Bool)
    (issues : List String) : WorkspaceRestartResult where
  success := false
  stopSuccess := some stopSuccess
  bringupSuccess := some false
  containerId := stopRes.containerId
  containerState := stopRes.containerState
  nodeId := some nid
  topologyId := some (toString tid)
  issues := issuesOrNone issues

/-- `restart_workspace_runtime` on node `nid` and topology `tid`: stop, then bring up. A
`WorkspaceBringUpError` becomes an issue, and its rollback fields are not carried on. -/
def restartWorkspaceRuntime (nid : String) (tid : Int) (stop : Outcome String WorkspaceStopResult)
    (bringUp : Outcome WorkspaceBringUpError WorkspaceBringUpResult) :
    Outcome String WorkspaceRestartResult :=
  match stop with
  | .crashed => .crashed
  | .raised m => .raised m
  | .returned stopRes =>
      if !stopRes.success then .returned (failedRestart nid tid stopRes false stopRes.issues)
      else match bringUp with
        | .crashed => .crashed
        | .raised e => .returned (failedRestart nid tid stopRes true
            (stopRes.issues ++ ["bringup:failed:" ++ e.message]))
        | .returned upRes => .returned
            { success := upRes.success
              stopSuccess := some true
              bringupSuccess := some upRes.success
              containerId := upRes.containerId
              containerState := upRes.containerState
              nodeId := (upRes.nodeId.filter (· ≠ "")).or (some nid)
              topologyId := (upRes.topologyId.filter (· ≠ "")).or (some (toString tid))
              internalEndpoint := upRes.internalEndpoint
              gatewayRouteTarget := upRes.gatewayRouteTarget
              probeHealthy := upRes.probeHealthy
              issues := issuesOrNone (stopRes.issues ++ upRes.issues)
              appliedCpuLimitCores := upRes.appliedCpuLimitCores
              appliedMemoryLimitMib := upRes.appliedMemoryLimitMib
              appliedPidsLimit := upRes.appliedPidsLimit
              appliedSecurityOptions := upRes.appliedSecurityOptions }

/-- What `inspect_container` reports, as far as an update reads it. -/
structure ContainerInspection where
  existing : Bool
  containerId : Option String := none
  containerState : Option String := none
  configVersionLabel : Option String := none
  deriving DecidableEq, Repr

/-- `check_workspace_health` with the upstream composed from the inspected ports. -/
structure HealthProbe where
  healthy : Bool
  containerState : Option String := none
  internalEndpoint : Option String := none
  gatewayRouteTarget : Option String := none
  issues : List String := []
  deriving DecidableEq, Repr

/-- `_config_version_from_inspection`. -/
def configVersionFromInspection (ins : ContainerInspection) : Int :=
  if !ins.existing then 0
  else match ins.configVersionLabel with
    | none => 0
    | some raw => max 0 ((PyText.parseInt raw).getD 0)

/-- `_update_workspace_runtime_noop`; `probe` answers an error text or a probe. -/
def updateWorkspaceRuntimeNoop (nid : String) (tid : Int) (ins : ContainerInspection)
    (containerRef : String) (requested current : Int) (probe : Except String HealthProbe) :
    Outcome String WorkspaceUpdateResult :=
  let base : WorkspaceUpdateResult :=
    { success := false, currentConfigVersion := current, requestedConfigVersion := requested
      noOp := true, nodeId := some nid, topologyId := some (toString tid) }
  let state := PyText.lower (PyText.stripOr ins.containerState)
  let cid := PyText.strip ((ins.containerId.filter (· ≠ "")).getD containerRef)
  if !ins.existing then
    .returned { base with issues := ["update:noop:workspace_runtime_not_found"] }
  else if state ≠ "running" then
    .returned { base with
      containerId := if cid = "" then none else some cid
      containerState := ins.containerState
      issues := ["update:noop:container_not_running:" ++ if state = "" then "unknown" else state] }
  else if cid = "" then
    .returned { base with
      containerState := ins.containerState
      issues := ["update:noop:container_id_missing"] }
  else match probe with
    | .error m => .raised ("probe health check failed: " ++ m)
    | .ok h => .returned { base with
        success := h.healthy
        containerId := some cid
        containerState := (h.containerState.filter (· ≠ "")).or ins.containerState
        internalEndpoint := h.internalEndpoint
        gatewayRouteTarget := h.gatewayRouteTarget
        probeHealthy := some h.healthy
        issues := issuesOrNone h.issues }

/-- `update_workspace_runtime`: a matching config label is only probed, any other version
goes through a restart. `strict` is `authoritative_container_ref_required()`. -/
def updateWorkspaceRuntime (strict : Bool) (nid : String) (tid : Int)
    (containerId : Option String) (fallbackRef : String) (requested : Int)
    (inspect : Except String ContainerInspection) (probe : Except String HealthProbe)
    (stop : Outcome String WorkspaceStopResult)
    (bringUp : Outcome WorkspaceBringUpError WorkspaceBringUpResult) :
    Outcome String WorkspaceUpdateResult :=
  if requested < 0 then .raised "requested_config_version must be non-negative"
  else if strict && PyText.stripOr containerId = "" then
    .returned { success := false, requestedConfigVersion := requested
                issues := ["runtime:authoritative_container_id_required"] }
  else
    let containerRef := if PyText.stripOr containerId = "" then fallbackRef
      else PyText.stripOr containerId
    match inspect with
    | .error m => .raised ("inspect_container failed: " ++ m)
    | .ok ins =>
        let current := configVersionFromInspection ins
        if current = requested then
          updateWorkspaceRuntimeNoop nid tid ins containerRef requested current probe
        else match restartWorkspaceRuntime nid tid stop bringUp with
          | .crashed => .crashed
          | .raised m => .raised m
          | .returned r => .returned
              { success := r.success, currentConfigVersion := current
                requestedConfigVersion := requested, noOp := false
                stopSuccess := r.stopSuccess, bringupSuccess := r.bringupSuccess
                containerId := r.containerId, containerState := r.containerState
                nodeId := r.nodeId, topologyId := r.topologyId
                internalEndpoint := r.internalEndpoint, gatewayRouteTarget := r.gatewayRouteTarget
                probeHealthy := r.probeHealthy, issues := issuesOrNone r.issues
                appliedCpuLimitCores := r.appliedCpuLimitCores
                appliedMemoryLimitMib := r.appliedMemoryLimitMib
                appliedPidsLimit := r.appliedPidsLimit
                appliedSecurityOptions := r.appliedSecurityOptions }

end Devnest
