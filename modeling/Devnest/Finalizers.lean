import Devnest.Cleanup

/-!
# Finalizers

How the worker maps an orchestrator result onto the workspace, the job
and the runtime row. A successful bring-up, restart or update writes
the runtime row from the result and ends `RUNNING`; a successful stop
clears what the container held; a delete removes the row whatever the
orchestrator reported; failures are retried or end in `ERROR`.

Everything a finalizer does after it has written these rows (sessions,
gateway registration, audit, usage) is best effort and leaves them alone.
-/

namespace Devnest

open PyText

/-- How a function that works on the session ends: normally, with one of the
orchestrator's exceptions, or with an exception the worker does not catch. -/
inductive Exit where
  | returned (s : Session)
  | raised (e : OrchestratorException) (s : Session)
  | crashed (s : Session)

/-! ## Runtime rows -/

/-- What a result says about a running container. -/
structure RuntimeFacts where
  nodeId : Option String
  topologyId : Option String
  containerId : Option String
  containerState : Option String
  internalEndpoint : Option String
  gatewayRouteTarget : Option String
  probeHealthy : Option Bool
  appliedCpuLimitCores : Option ℚ := none
  appliedMemoryLimitMib : Option Int := none
  appliedPidsLimit : Option Int := none
  appliedSecurityOptions : Option WorkspaceContainerSecuritySpec := none
  deriving DecidableEq, Repr

def WorkspaceBringUpResult.facts (r : WorkspaceBringUpResult) : RuntimeFacts :=
  { nodeId := r.nodeId, topologyId := r.topologyId, containerId := r.containerId
    containerState := r.containerState, internalEndpoint := r.internalEndpoint
    gatewayRouteTarget := r.gatewayRouteTarget, probeHealthy := r.probeHealthy
    appliedCpuLimitCores := r.appliedCpuLimitCores
    appliedMemoryLimitMib := r.appliedMemoryLimitMib, appliedPidsLimit := r.appliedPidsLimit
    appliedSecurityOptions := r.appliedSecurityOptions }

def WorkspaceRestartResult.facts (r : WorkspaceRestartResult) : RuntimeFacts :=
  { nodeId := r.nodeId, topologyId := r.topologyId, containerId := r.containerId
    containerState := r.containerState, internalEndpoint := r.internalEndpoint
    gatewayRouteTarget := r.gatewayRouteTarget, probeHealthy := r.probeHealthy
    appliedCpuLimitCores := r.appliedCpuLimitCores
    appliedMemoryLimitMib := r.appliedMemoryLimitMib, appliedPidsLimit := r.appliedPidsLimit
    appliedSecurityOptions := r.appliedSecurityOptions }

def WorkspaceUpdateResult.facts (r : WorkspaceUpdateResult) : RuntimeFacts :=
  { nodeId := r.nodeId, topologyId := r.topologyId, containerId := r.containerId
    containerState := r.containerState, internalEndpoint := r.internalEndpoint
    gatewayRouteTarget := r.gatewayRouteTarget, probeHealthy := r.probeHealthy
    appliedCpuLimitCores := r.appliedCpuLimitCores
    appliedMemoryLimitMib := r.appliedMemoryLimitMib, appliedPidsLimit := r.appliedPidsLimit
    appliedSecurityOptions := r.appliedSecurityOptions }

/-- `_parse_topology_id`. -/
def parseTopologyId (val : Option String) : Option Int := val.bind parseInt

/-- `_health_from_probe`. -/
def healthFromProbe : Option Bool → WorkspaceRuntimeHealthStatus
  | some true => .healthy
  | some false => .unhealthy
  | none => .unknown

/-- No reservation and no applied limits: the container is gone or stopped. -/
def WorkspaceRuntime.release (r : WorkspaceRuntime) : WorkspaceRuntime :=
  { r with
    reservedCpu := 0, reservedMemoryMb := 0, reservedDiskMb := 0
    appliedCpuLimitCores := none, appliedMemoryLimitMb := none, appliedPidsLimit := none
    appliedSecurityOptions := none }

/-- `_apply_runtime_bringup_like`; no caller overrides the reserved amounts. -/
def applyRuntimeBringupLike (cfg : Settings) (rt : Option WorkspaceRuntime) (f : RuntimeFacts)
    (configVersion : Int) (gatewayRouteTarget : Option String) : WorkspaceRuntime :=
  let r := rt.getD {}
  let r :=
    { r with
      nodeId := f.nodeId, topologyId := parseTopologyId f.topologyId, containerId := f.containerId
      containerState := f.containerState, internalEndpoint := f.internalEndpoint
      gatewayRouteTarget := gatewayRouteTarget, configVersion := some configVersion
      healthStatus := healthFromProbe f.probeHealthy }
  if stripOr f.nodeId = "" then r.release
  else { r with
    reservedCpu := cfg.devnestWorkspaceRequiredCpu
    reservedMemoryMb := cfg.devnestWorkspaceRequiredMemoryMb
    reservedDiskMb := cfg.devnestWorkspaceRequiredDiskMb
    appliedCpuLimitCores := f.appliedCpuLimitCores
    appliedMemoryLimitMb := f.appliedMemoryLimitMib
    appliedPidsLimit := f.appliedPidsLimit
    appliedSecurityOptions := f.appliedSecurityOptions }

/-- `_apply_runtime_stop`: the topology is forgotten unless the stop says it was not
detached. -/
def applyRuntimeStop (rt : Option WorkspaceRuntime) (result : WorkspaceStopResult) :
    WorkspaceRuntime :=
  let r := rt.getD {}
  { r.release with
    containerId := result.containerId.or r.containerId
    containerState := result.containerState.or r.containerState
    topologyId := if result.topologyDetached = some false then r.topologyId else none
    internalEndpoint := none, gatewayRouteTarget := none, healthStatus := .unknown }

/-- The row after a rollback that worked. -/
def syncRolledBack (r : WorkspaceRuntime) (containerId containerState internalEndpoint
    gatewayRouteTarget : Option String) : WorkspaceRuntime :=
  { r.release with
    containerId := containerId.or r.containerId
    containerState := containerState.or r.containerState
    internalEndpoint := internalEndpoint, gatewayRouteTarget := gatewayRouteTarget
    healthStatus := .unknown }

/-- The row and the cleanup debt after a rollback that did not. -/
def syncCleanupRequired (s : Session) (r : WorkspaceRuntime) : Session :=
  ensureDurableCleanupTask { s with rt := some { r with healthStatus := .cleanupRequired } }
    .bringupRollback

/-- `_sync_runtime_after_failed_bringup`: nothing is recorded without a runtime row. -/
def syncRuntimeAfterFailedBringup (s : Session) (result : WorkspaceBringUpResult) : Session :=
  if !result.rollbackAttempted then s
  else match s.rt with
    | none => s
    | some r =>
        if result.rollbackSucceeded = some true then
          { s with rt := some (syncRolledBack r result.containerId result.containerState
              result.internalEndpoint result.gatewayRouteTarget) }
        else syncCleanupRequired s r

/-- `_sync_runtime_after_bringup_exception`. -/
def syncRuntimeAfterBringupException (s : Session) (e : WorkspaceBringUpError) : Session :=
  if !e.rollbackAttempted then s
  else match s.rt with
    | none => s
    | some r =>
        if e.rollbackSucceeded = some true then
          { s with rt := some (syncRolledBack r e.rollbackContainerId e.rollbackContainerState
              none none) }
        else syncCleanupRequired s r

/-! ## Failures of a result -/

/-- `_finalize_job_failed_workspace_error`. -/
def finalizeJobFailedWorkspaceError (clk : Clock) (s : Session) (message : String)
    (stage : FailureStage) : Session :=
  { s with
    job := markJobFailed clk s.job message (some stage) (some stage.value)
    ws := workspaceError s.ws "WORKSPACE_JOB_FAILED" message
    rt := clearRuntimeCapacityReservation s.rt }

/-- `_resolve_orchestrator_result_failure`. -/
def resolveOrchestratorResultFailure (cfg : Settings) (clk : Clock) (s : Session)
    (message : String) (stage : FailureStage) (retryable : Bool) : Session :=
  retryElse cfg clk s retryable message stage stage.value
    (finalizeJobFailedWorkspaceError clk s message stage)

/-! ## Success of a bring-up -/

/-- `_REMOTE_EXECUTION_MODES` and the EC2 provider. -/
def isRemoteNode (node : ExecutionNode) : Bool :=
  strip node.providerType = "ec2" || strip node.executionMode = "ssm_docker" ||
    strip node.executionMode = "ssh_docker"

/-- `_remote_gateway_route_target_for_node`. `port` is `_route_target_port`, the port
`urlsplit` finds in a target. -/
def remoteGatewayRouteTargetForNode (port : Option String → Option Nat) (s : Session)
    (nodeKey gatewayRouteTarget internalEndpoint : Option String) :
    Except WorkspaceBringUpError (Option String) :=
  let byKey := if stripOr nodeKey = "" then none else nodeByKey s.executionNodes (stripOr nodeKey)
  let node := byKey.or (s.ws.executionNodeId.bind fun nid =>
    (s.executionNodes.lookup nid).map fun n => (nid, n))
  match node with
  | none => .ok (stripOrNone gatewayRouteTarget)
  | some (nid, node) =>
      if !isRemoteNode node then .ok (stripOrNone gatewayRouteTarget)
      else if stripOr node.privateIp = "" then
        .error (.ofMessage ("remote EC2 route target requires execution_node.private_ip " ++
          "(node_key=" ++ PyText.repr node.nodeKey ++ ", execution_node_id=" ++ toString nid ++ ")"))
      else match (port gatewayRouteTarget).filter (· ≠ 0) |>.or (port internalEndpoint) with
        | none => .error (.ofMessage ("remote EC2 route target requires a published IDE host port " ++
            "(node_key=" ++ PyText.repr node.nodeKey ++ ", gateway_route_target=" ++
            reprOption gatewayRouteTarget ++ ", internal_endpoint=" ++
            reprOption internalEndpoint ++ ")"))
        | some p => .ok (some (stripOr node.privateIp ++ ":" ++ toString p))

/-- `_sync_workspace_execution_node_id`. -/
def syncWorkspaceExecutionNodeId (s : Session) (ws : Workspace) (nodeId : Option String) :
    Workspace :=
  if stripOr nodeId = "" then ws
  else match nodeByKey s.executionNodes (stripOr nodeId) with
    | none => ws
    | some (nid, _) => { ws with executionNodeId := some nid }

/-- `_finalize_runtime_running_success`. The route target is computed first and may raise. -/
def finalizeRuntimeRunningSuccess (cfg : Settings) (clk : Clock) (port : Option String → Option Nat)
    (s : Session) (f : RuntimeFacts) (configVersion : Int) : Exit :=
  match remoteGatewayRouteTargetForNode port s f.nodeId f.gatewayRouteTarget f.internalEndpoint with
  | .error e => .raised (.bringUp e) s
  | .ok target =>
      let ws := syncWorkspaceExecutionNodeId s s.ws f.nodeId
      .returned
        { s with
          rt := some (applyRuntimeBringupLike cfg s.rt f configVersion target)
          job := markJobSucceeded clk s.job
          ws := { workspaceClearErrors ws with
            status := .running
            endpointRef := (target.filter (· ≠ "")).or
              ((f.internalEndpoint.filter (· ≠ "")).or ws.endpointRef) }
          trace := .bringUpSucceeded s.wid s.job.jobType :: s.trace }

/-! ## One finalizer per operation -/

/-- `_finalize_bringup_result`. -/
def finalizeBringupResult (cfg : Settings) (clk : Clock) (port : Option String → Option Nat)
    (s : Session) (result : WorkspaceBringUpResult) : Exit :=
  if result.success then
    finalizeRuntimeRunningSuccess cfg clk port s result.facts s.job.requestedConfigVersion
  else
    let s := syncRuntimeAfterFailedBringup s result
    let extra := formatIssues result.rollbackIssues
    let base := orText (formatIssues result.issues) "Bring-up completed without success"
    let msg := if result.rollbackSucceeded = some false && extra ≠ "" then
      base ++ "; rollback_failed: " ++ extra else base
    .returned (resolveOrchestratorResultFailure cfg clk s msg .container
      (lifecycleResultFailureRetryable s.job.jobType))

/-- `_finalize_stop_result`. -/
def finalizeStopResult (cfg : Settings) (clk : Clock) (s : Session) (result : WorkspaceStopResult) :
    Session :=
  if result.success then
    { s with
      rt := some (applyRuntimeStop s.rt result)
      job := markJobSucceeded clk s.job
      ws := { workspaceClearErrors s.ws with status := .stopped } }
  else
    resolveOrchestratorResultFailure cfg clk (ensureDurableCleanupTask s .stopIncomplete)
      (orText (formatIssues result.issues) "Stop completed without success") .container false

/-- `_finalize_delete_result`: every result settles the workspace `DELETED`. -/
def finalizeDeleteResult (clk : Clock) (s : Session) (_result : WorkspaceDeleteResult) : Session :=
  { s with
    job := markJobSucceeded clk s.job
    ws := { workspaceClearErrors s.ws with status := .deleted }
    rt := none }

/-- `_finalize_delete_runtime_missing_idempotent`. -/
def finalizeDeleteRuntimeMissingIdempotent (clk : Clock) (s : Session) : Session :=
  { s with
    job := markJobSucceeded clk s.job
    ws := { workspaceClearErrors s.ws with status := .deleted } }

/-- `_finalize_restart_result`. -/
def finalizeRestartResult (cfg : Settings) (clk : Clock) (port : Option String → Option Nat)
    (s : Session) (result : WorkspaceRestartResult) : Exit :=
  if result.success then
    finalizeRuntimeRunningSuccess cfg clk port s result.facts s.job.requestedConfigVersion
  else
    .returned (resolveOrchestratorResultFailure cfg clk s
      (orText (formatIssues result.issues) "Restart completed without success") .container
      (lifecycleResultFailureRetryable s.job.jobType))

/-- `_update_noop_issues_imply_stopped_workspace`. -/
def updateNoopIssuesImplyStoppedWorkspace (issues : List String) : Bool :=
  issues.any fun raw =>
    startsWith (strip raw) "update:noop:workspace_runtime_not_found" ||
    startsWith (strip raw) "update:noop:container_not_running:"

/-- The runtime row of an update that found nothing to restart. -/
def applyUpdateNoopStopped (rt : Option WorkspaceRuntime) (result : WorkspaceUpdateResult)
    (configVersion : Int) : WorkspaceRuntime :=
  { (rt.getD {}).release with
    nodeId := result.nodeId, topologyId := parseTopologyId result.topologyId
    containerId := result.containerId, containerState := result.containerState
    internalEndpoint := result.internalEndpoint, gatewayRouteTarget := result.gatewayRouteTarget
    configVersion := some configVersion, healthStatus := .unknown }

/-- `_finalize_update_result`. -/
def finalizeUpdateResult (cfg : Settings) (clk : Clock) (port : Option String → Option Nat)
    (s : Session) (result : WorkspaceUpdateResult) : Exit :=
  let cfgV := if result.requestedConfigVersion = 0 then s.job.requestedConfigVersion
    else result.requestedConfigVersion
  let msg := orText (formatIssues result.issues) "Update completed without success"
  if result.success then finalizeRuntimeRunningSuccess cfg clk port s result.facts cfgV
  else if result.noOp && updateNoopIssuesImplyStoppedWorkspace result.issues then
    .returned
      { s with
        rt := some (applyUpdateNoopStopped s.rt result cfgV)
        job := markJobSucceeded clk s.job
        ws := { workspaceClearErrors s.ws with
          status := .stopped, statusReason := some (truncate msg 1024) } }
  else
    .returned (resolveOrchestratorResultFailure cfg clk s msg .container
      (lifecycleResultFailureRetryable s.job.jobType))

end Devnest
