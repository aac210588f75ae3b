import Devnest.Worker
import Devnest.ProjectDirs
import Mathlib.Data.List.Sort

/-!
# Execution nodes and who writes them

An EC2 execution node is a row with a status and a `schedulable` flag. The
operators register, drain, undrain and deregister it; in the background
the heartbeat, the EC2 sync, the promotion gate, the resource monitor, the
autoscaler and the worker's retry path write the same two columns, each
under its own guard.

Every writer is a function on one row; the operations find the row and put
it back. The answers of AWS and of the instances are inputs.
-/

namespace Devnest

open PyText

/-! ## Rows -/

/-- `ExecutionNodeStatus`. -/
inductive NodeStatus where
  | provisioning | ready | notReady | draining | terminating | terminated | error
  deriving DecidableEq, Repr

def NodeStatus.value : NodeStatus → String
  | provisioning => "PROVISIONING"
  | ready => "READY"
  | notReady => "NOT_READY"
  | draining => "DRAINING"
  | terminating => "TERMINATING"
  | terminated => "TERMINATED"
  | error => "ERROR"

inductive ProviderType where
  | localHost | ec2
  deriving DecidableEq, Repr

def ProviderType.value : ProviderType → String
  | localHost => "local"
  | ec2 => "ec2"

inductive NodeResourceStatus where
  | ok | lowDisk | lowMemory
  deriving DecidableEq, Repr

def ExecutionMode.value : ExecutionMode → String
  | localDocker => "local_docker"
  | sshDocker => "ssh_docker"
  | ssmDocker => "ssm_docker"

/-- `metadata_json["heartbeat"]`, as far as the readiness gate reads it. -/
structure HeartbeatPayload where
  dockerOk : Bool
  diskFreeMb : Int
  deriving DecidableEq, Repr

/-- A row of `execution_node`, with the keys of `metadata_json` that some writer reads. -/
structure FleetNode where
  nodeKey : String
  providerType : ProviderType := .ec2
  providerInstanceId : Option String := none
  region : Option String := none
  executionMode : ExecutionMode := .ssmDocker
  status : NodeStatus := .ready
  schedulable : Bool := true
  resourceStatus : Option NodeResourceStatus := none
  lastHeartbeatAt : Option Int := none
  heartbeat : Option HeartbeatPayload := none
  /-- `metadata_json["ec2"]["state"]`. -/
  ec2State : Option String := none
  /-- `metadata_json["ec2"]["catalog_only"]`. -/
  catalogOnly : Bool := false
  /-- `"catalog_ec2_stub" in metadata_json`. -/
  catalogEc2Stub : Bool := false
  defaultTopologyId : Option Int := none
  lastErrorCode : Option String := none
  lastErrorMessage : Option String := none
  deriving DecidableEq, Repr

abbrev Fleet := Table Nat FleetNode

structure FleetSettings where
  devnestEc2DefaultExecutionMode : String := "ssm_docker"
  devnestNodeHeartbeatMaxAgeSeconds : Int := 300
  devnestRequireFreshNodeHeartbeat : Bool := false
  devnestNodeResourceMonitorEnabled : Bool := true
  devnestNodeMinFreeDiskMb : Int := 10240
  devnestNodeMinFreeMemoryMb : Int := 1024
  awsRegion : String := ""
  systemDefaultTopologyId : Int := 1

/-- The exceptions of the writers, with their texts. -/
inductive NodeError where
  | executionNodeNotFound (message : String)
  | ec2InvalidInstanceId (message : String)
  | ec2InstanceNotFound (message : String)
  | ec2Provider (message : String)
  | nodeLifecycle (message : String)
  /-- The unique index on `node_key`. -/
  | integrity
  /-- Anything else that leaves the writer. -/
  | other
  deriving DecidableEq, Repr

/-- What a caller names a node by. -/
inductive NodeRef where
  | byId (id : Nat)
  | byKey (key : String)
  deriving DecidableEq, Repr

/-- The row with this `node_key`; the column is unique. -/
def fleetByKey (nodes : Fleet) (key : String) : Option (Nat × FleetNode) :=
  (nodes.entries.find? fun e => e.2.nodeKey = key).map fun e => (e.1, e.2)

/-- A first row with this `provider_instance_id`. -/
def fleetByInstanceId (nodes : Fleet) (iid : String) : Option (Nat × FleetNode) :=
  (nodes.entries.find? fun e => e.2.providerInstanceId = some iid).map fun e => (e.1, e.2)

/-- `get_node`, and the look-up of the heartbeat, which has its own text for a blank key. -/
def getNode (nodes : Fleet) (ref : NodeRef)
    (missing : String := "node_id or node_key is required") :
    Except NodeError (Nat × FleetNode) :=
  match ref with
  | .byId id =>
      match nodes.lookup id with
      | none => .error (.executionNodeNotFound ("execution node id=" ++ toString id ++ " not found"))
      | some r => .ok (id, r)
  | .byKey key =>
      if strip key = "" then .error (.executionNodeNotFound missing)
      else match fleetByKey nodes (strip key) with
        | none => .error (.executionNodeNotFound
            ("execution node key=" ++ PyText.repr (strip key) ++ " not found"))
        | some p => .ok p

/-- `int(devnest_node_heartbeat_max_age_seconds or 300)`. -/
def maxHeartbeatAge (cfg : FleetSettings) : Int :=
  if cfg.devnestNodeHeartbeatMaxAgeSeconds = 0 then 300
  else cfg.devnestNodeHeartbeatMaxAgeSeconds

/-! ## The heartbeat -/

structure HeartbeatInput where
  now : Int
  dockerOk : Bool
  diskFreeMb : Int

/-- The row part of `record_execution_node_heartbeat`. -/
def heartbeatRow (inp : HeartbeatInput) (r : FleetNode) : FleetNode :=
  let r := { r with
    lastHeartbeatAt := some inp.now
    heartbeat := some { dockerOk := inp.dockerOk, diskFreeMb := max 0 inp.diskFreeMb } }
  if inp.dockerOk then
    { r with
      lastErrorCode := none, lastErrorMessage := none
      status := if r.schedulable && r.status = .notReady then .ready else r.status }
  else
    { r with
      lastErrorCode := some "DOCKER_UNREACHABLE"
      lastErrorMessage := some "Heartbeat reported docker_ok=false" }

def recordExecutionNodeHeartbeat (nodes : Fleet) (ref : NodeRef) (inp : HeartbeatInput) :
    Except NodeError Fleet := do
  let (k, r) ← getNode nodes ref "node_key or execution_node_id is required"
  .ok (nodes.insert k (heartbeatRow inp r))

/-! ## Registration -/

/-- `Ec2InstanceDescription`, as far as a row depends on it. -/
structure Ec2InstanceDescription where
  state : String
  region : String := "unknown"
  deriving DecidableEq, Repr

/-- `_INSTANCE_ID_RE`, ignoring case. -/
def isInstanceId (s : String) : Bool :=
  match s.toList with
  | i :: '-' :: hex =>
      (i = 'i' || i = 'I') && 8 ≤ hex.length && hex.length ≤ 32 &&
        hex.all fun c => ('0' ≤ c && c ≤ '9') || ('a' ≤ c && c ≤ 'f') || ('A' ≤ c && c ≤ 'F')
  | _ => false

/-- `_require_instance_id`. -/
def requireInstanceId (instanceId : String) : Except NodeError String :=
  if isInstanceId (strip instanceId) then .ok (strip instanceId)
  else .error (.ec2InvalidInstanceId ("invalid EC2 instance id: " ++ PyText.repr instanceId))

/-- `compute_status_schedulable_after_ec2_sync`; `none` is a new row. -/
def computeStatusSchedulableAfterEc2Sync (existing : Option NodeStatus)
    (desc : Ec2InstanceDescription) : NodeStatus × Bool :=
  let legacy := if desc.state = "running" then (NodeStatus.ready, true) else (.notReady, false)
  match existing with
  | none => legacy
  | some .provisioning =>
      if desc.state ∈ ["terminated", "shutting-down", "stopped", "stopping"] then (.error, false)
      else (.provisioning, false)
  | some .draining => (.draining, false)
  | some .terminating =>
      if desc.state ∈ ["terminated", "shutting-down"] then (.terminated, false)
      else (.terminating, false)
  | some .terminated => (.terminated, false)
  | some .error => (.error, false)
  | some .ready | some .notReady => legacy

structure RegisterInput where
  instanceId : String
  nodeKey : Option String := none
  executionMode : Option String := none
  catalogOnly : Bool := false
  /-- `describe_ec2_instance`. -/
  describe : Except NodeError Ec2InstanceDescription

/-- The mode a registration stores: the one asked for, else the default, else SSM. -/
def registeredMode (cfg : FleetSettings) (executionMode : Option String) : ExecutionMode :=
  let default := lower (strip cfg.devnestEc2DefaultExecutionMode)
  let raw := lower (strip (orText (executionMode.getD "") default))
  if raw = "ssh_docker" then .sshDocker
  else if raw = "ssm_docker" then .ssmDocker
  else if default = "ssh_docker" then .sshDocker
  else .ssmDocker

/-- The new row of `register_ec2_instance`. -/
def newEc2Row (cfg : FleetSettings) (iid key : String) (mode : ExecutionMode) (catalogOnly : Bool)
    (desc : Ec2InstanceDescription) : FleetNode :=
  let (status, schedulable) := computeStatusSchedulableAfterEc2Sync none desc
  { nodeKey := key, providerInstanceId := some iid, region := some desc.region, executionMode := mode
    status := status, schedulable := if catalogOnly then false else schedulable
    ec2State := some desc.state, catalogOnly := catalogOnly
    defaultTopologyId := some cfg.systemDefaultTopologyId }

/-- The update of `register_ec2_instance`. -/
def registerRow (cfg : FleetSettings) (iid key : String) (mode : ExecutionMode) (catalogOnly : Bool)
    (desc : Ec2InstanceDescription) (r : FleetNode) : FleetNode :=
  let (status, schedulable) := computeStatusSchedulableAfterEc2Sync (some r.status) desc
  let left := status = .error && r.status = .provisioning
  { r with
    nodeKey := key, providerType := .ec2, providerInstanceId := some iid
    region := some desc.region, executionMode := mode
    status := status, schedulable := if catalogOnly then false else schedulable
    lastErrorCode := if status = .ready then none
      else if left then some "Ec2NotRunningDuringProvisioning" else r.lastErrorCode
    lastErrorMessage := if status = .ready then none
      else if left then some (take 4096 ("EC2 left provisioning path: instance state is " ++
        PyText.repr desc.state ++ " (expected running for readiness)"))
      else r.lastErrorMessage
    defaultTopologyId := some (r.defaultTopologyId.getD cfg.systemDefaultTopologyId)
    ec2State := some desc.state, catalogOnly := r.catalogOnly || catalogOnly }

/-- The row a registration writes to: that of the instance, else that of the key. -/
def registerTarget (nodes : Fleet) (iid key : String) : Option (Nat × FleetNode) :=
  (fleetByInstanceId nodes iid).or (fleetByKey nodes key)

/-- The key a registration stores. -/
def registeredKey (iid : String) (nodeKey : Option String) : String :=
  orText (stripOr nodeKey) ("ec2-" ++ iid)

/-- The refusals of a row that was found by its key alone. -/
def keyConflict (nodes : Fleet) (iid key : String) : Option NodeError :=
  match fleetByInstanceId nodes iid, fleetByKey nodes key with
  | none, some (_, r) =>
      if r.providerType = .localHost then
        some (.ec2Provider ("node_key " ++ PyText.repr key ++
          " is already used by a local execution node; choose a different --node-key"))
      else
        let other := stripOr r.providerInstanceId
        if other ≠ "" && lower other ≠ lower iid then
          some (.ec2Provider ("node_key " ++ PyText.repr key ++ " is already bound to instance " ++
            PyText.repr other ++ "; choose another --node-key or remove the conflicting row"))
        else none
  | _, _ => none

/-- `register_ec2_instance`. -/
def registerEc2Instance (cfg : FleetSettings) (nodes : Fleet) (inp : RegisterInput) :
    Except NodeError Fleet := do
  let iid ← requireInstanceId inp.instanceId
  let desc ← inp.describe
  let key := registeredKey iid inp.nodeKey
  let mode := registeredMode cfg inp.executionMode
  match keyConflict nodes iid key with
  | some e => .error e
  | none =>
      match registerTarget nodes iid key with
      | none =>
          .ok (nodes.insert (Table.freshKey nodes) (newEc2Row cfg iid key mode inp.catalogOnly desc))
      | some (k, r) =>
          if nodes.entries.any fun e => e.1 ≠ k && e.2.nodeKey = key then .error .integrity
          else .ok (nodes.insert k (registerRow cfg iid key mode inp.catalogOnly desc r))

/-- `sync_ec2_instances` over the instances it was given or found; one failure undoes all. -/
def syncEc2Instances (cfg : FleetSettings) (nodes : Fleet) :
    List (String × Except NodeError Ec2InstanceDescription) → Except NodeError Fleet
  | [] => .ok nodes
  | (iid, describe) :: rest => do
      let nodes ← registerEc2Instance cfg nodes { instanceId := strip iid, describe := describe }
      syncEc2Instances cfg nodes rest

/-! ## Operators -/

structure StubInput where
  nodeKey : String
  providerInstanceId : Option String := none
  region : Option String := none
  executionMode : Option String := none
  status : Option String := none
  alignStatusWithHeartbeat : Bool := false
  now : Int := 0

/-- The status a stub is asked to have, or the refusal. No other letter has an upper case
among those of the two values. -/
def stubStatus (status : Option String) : Except NodeError (Option NodeStatus) :=
  let st := String.ofList ((stripOr status).toList.map Char.toUpper)
  if st = "" then .ok none
  else if st = "READY" then .ok (some .ready)
  else if st = "NOT_READY" then .ok (some .notReady)
  else .error (.nodeLifecycle ("catalog stub status must be READY or NOT_READY (got " ++
    PyText.repr st ++ "); omit status for default NOT_READY"))

/-- `_resolve_status`. -/
def resolveStubStatus (cfg : FleetSettings) (inp : StubInput) (asked : Option NodeStatus)
    (r : Option FleetNode) : NodeStatus :=
  if inp.alignStatusWithHeartbeat then
    match r.bind (·.lastHeartbeatAt) with
    | none => .notReady
    | some hb =>
        let age := inp.now - hb
        if 0 ≤ age && age ≤ maxHeartbeatAge cfg then .ready else .notReady
  else asked.getD ((r.map (·.status)).getD .notReady)

/-- The row of `register_catalog_ec2_stub`, over an existing one or new. -/
def stubRow (cfg : FleetSettings) (inp : StubInput) (key : String) (asked : Option NodeStatus)
    (r : FleetNode) (existing : Option FleetNode) : FleetNode :=
  { r with
    nodeKey := key, providerType := .ec2
    providerInstanceId := some (orText (stripOr inp.providerInstanceId) ("catalog-pending:" ++ key))
    region := some (orText (strip (orText (inp.region.getD "")
      (orText (strip cfg.awsRegion) "us-east-1"))) "us-east-1")
    executionMode := registeredMode cfg inp.executionMode
    schedulable := false, status := resolveStubStatus cfg inp asked existing
    catalogEc2Stub := true }

/-- `register_catalog_ec2_stub`. -/
def registerCatalogEc2Stub (cfg : FleetSettings) (nodes : Fleet) (inp : StubInput) :
    Except NodeError Fleet := do
  let key := strip inp.nodeKey
  if key = "" then .error (.nodeLifecycle "node_key is required")
  if 255 < (orText (stripOr inp.providerInstanceId) ("catalog-pending:" ++ key)).length then
    .error (.nodeLifecycle "provider_instance_id exceeds 255 characters")
  let asked ← stubStatus inp.status
  match fleetByKey nodes key with
  | none => .ok (nodes.insert (Table.freshKey nodes) (stubRow cfg inp key asked { nodeKey := key } none))
  | some (k, r) =>
      if r.providerType = .localHost then
        .error (.nodeLifecycle ("node_key " ++ PyText.repr key ++
          " is already a local execution node; choose another key or remove the row"))
      else .ok (nodes.insert k (stubRow cfg inp key asked r (some r)))

/-- The row part of `mark_node_draining`. -/
def drainRow (r : FleetNode) : FleetNode :=
  if r.status = .terminated then r else { r with status := .draining, schedulable := false }

def markNodeDraining (nodes : Fleet) (ref : NodeRef) : Except NodeError Fleet := do
  let (k, r) ← getNode nodes ref
  .ok (nodes.insert k (drainRow r))

/-- `undrain_node`. -/
def undrainNode (nodes : Fleet) (ref : NodeRef) : Except NodeError Fleet := do
  let (k, r) ← getNode nodes ref
  match r.status with
  | .terminated => .error (.nodeLifecycle ("cannot undrain TERMINATED node (node_key=" ++
      PyText.repr r.nodeKey ++ "); re-register the instance or restore from backup"))
  | .draining | .ready => .ok (nodes.insert k { r with status := .ready, schedulable := true })
  | st => .error (.nodeLifecycle ("undrain supports DRAINING or READY+schedulable=false (node_key=" ++
      PyText.repr r.nodeKey ++ ", status=" ++ PyText.repr st.value ++
      "); for NOT_READY/PROVISIONING use POST /internal/execution-nodes/sync"))

/-- `deregister_node`. -/
def deregisterNode (nodes : Fleet) (ref : NodeRef) : Except NodeError Fleet := do
  let (k, r) ← getNode nodes ref
  .ok (nodes.insert k { r with status := .terminated, schedulable := false })

/-! ## The promotion gate -/

/-- What the SSM command of a gate or a probe came back with. -/
inductive SsmAnswer where
  | output (text : String)
  | executionError (message : String)
  | crashed
  deriving DecidableEq, Repr

/-- A gate's verdict. -/
inductive GateResult where
  | passed
  | failed (reason : String)
  | crashed
  deriving DecidableEq, Repr

/-- `_run_ssm_ready_gate`. -/
def runSsmReadyGate (cfg : FleetSettings) (ssm : SsmAnswer) (r : FleetNode) : GateResult :=
  if stripOr r.providerInstanceId = "" then .failed "missing_provider_instance_id"
  else if strip (orText (r.region.getD "") cfg.awsRegion) = "" then .failed "missing_region"
  else if r.defaultTopologyId.isNone then .failed "missing_default_topology_id"
  else match ssm with
    | .crashed => .crashed
    | .executionError m => .failed ("ssm_ready_gate_failed:" ++ m)
    | .output text =>
        if !isIn "node.ready_gate.image_pull_success" text then
          .failed "image_pull_missing_success_marker"
        else if !isIn "node.ready_gate.passed" text then .failed "ready_gate_missing_pass_marker"
        else .passed

/-- `_ec2_heartbeat_readiness`. -/
def ec2HeartbeatReadiness (cfg : FleetSettings) (now : Int) (ec2State : Option String)
    (r : FleetNode) : GateResult :=
  match r.lastHeartbeatAt with
  | none => .failed "missing_heartbeat"
  | some hb =>
      let age := now - hb
      if age < 0 || maxHeartbeatAge cfg < age then .failed "stale_heartbeat"
      else
        let state := lower (strip (orText (ec2State.getD "") (r.ec2State.getD "")))
        if state ≠ "" && state ≠ "running" then .failed ("ec2_state_" ++ state)
        else match r.heartbeat with
          | none => .failed "docker_not_ready"
          | some payload =>
              if !payload.dockerOk then .failed "docker_not_ready"
              else if payload.diskFreeMb < 4096 then .failed "insufficient_disk_free_mb"
              else .passed

/-- What a promotion draws from its surroundings. -/
structure PromoteInput where
  now : Int
  ec2State : Option String := none
  ssm : SsmAnswer := .crashed

/-- `_EC2_HEARTBEAT_READY_PROMOTION_STATUSES`. -/
def NodeStatus.isPromotable : NodeStatus → Bool
  | provisioning | notReady => true
  | ready | draining | terminating | terminated | error => false

/-- The gate of the row's execution mode. -/
def readyGate (cfg : FleetSettings) (inp : PromoteInput) (r : FleetNode) : GateResult :=
  if r.executionMode = .ssmDocker then runSsmReadyGate cfg inp.ssm r
  else ec2HeartbeatReadiness cfg inp.now inp.ec2State r

/-- `_ready_gate_failure`. -/
def readyGateFailure (reason : String) (r : FleetNode) : FleetNode :=
  { r with
    status := .provisioning, schedulable := false, lastErrorCode := some "ReadyGatePending"
    lastErrorMessage := some (take 4096 reason) }

/-- A promotion that is not refused at once. -/
def isCandidate (r : FleetNode) : Bool :=
  r.providerType = .ec2 && r.status.isPromotable && !r.catalogEc2Stub

/-- `promote_ec2_node_if_heartbeat_ready`: the row afterwards, and whether an exception left. -/
def promoteEc2NodeIfHeartbeatReady (cfg : FleetSettings) (inp : PromoteInput) (r : FleetNode) :
    FleetNode × Bool :=
  if !isCandidate r then (r, false)
  else match readyGate cfg inp r with
    | .passed => ({ r with
        status := .ready, schedulable := true, lastErrorCode := none, lastErrorMessage := none }, false)
    | .failed reason =>
        (if r.executionMode = .ssmDocker then readyGateFailure reason r else r, false)
    | .crashed => (r, true)

/-! ## The EC2 sync of one node -/

structure SyncInput where
  /-- The two calls of `describe_ec2_instance`. -/
  describe : Except NodeError Ec2InstanceDescription
  describeAgain : Except NodeError Ec2InstanceDescription
  promoteProvisioningWhenReady : Bool := true
  now : Int := 0
  ssm : SsmAnswer := .crashed

/-- `sync_node_state` after the registration: `original` is the status before it. -/
def promoteSynced (cfg : FleetSettings) (inp : SyncInput) (original : NodeStatus) (r : FleetNode) :
    FleetNode × Bool :=
  if !inp.promoteProvisioningWhenReady || !original.isPromotable then (r, false)
  else match inp.describeAgain with
    | .error _ => (r, false)
    | .ok desc =>
        if desc.state ≠ "running" then (r, false)
        else
          let r := if r.status = .ready then { r with status := original, schedulable := false }
            else r
          promoteEc2NodeIfHeartbeatReady cfg
            { now := inp.now, ec2State := some desc.state, ssm := inp.ssm } r

/-- `sync_node_state`: the rows the session holds afterwards, and the exception that left. -/
def syncNodeState (cfg : FleetSettings) (nodes : Fleet) (ref : NodeRef) (inp : SyncInput) :
    Fleet × Option NodeError :=
  match getNode nodes ref with
  | .error e => (nodes, some e)
  | .ok (k, r) =>
      if r.providerType ≠ .ec2 then
        (nodes, some (.nodeLifecycle ("sync_node_state requires provider_type=ec2 (node_key=" ++
          PyText.repr r.nodeKey ++ ")")))
      else if stripOr r.providerInstanceId = "" then
        (nodes, some (.nodeLifecycle ("node " ++ PyText.repr r.nodeKey ++
          " has no provider_instance_id")))
      else match registerEc2Instance cfg nodes
          { instanceId := stripOr r.providerInstanceId, nodeKey := some r.nodeKey
            executionMode := some r.executionMode.value, describe := inp.describe } with
        | .error e => (nodes, some e)
        | .ok nodes =>
            match nodes.lookup k with
            | none => (nodes, some .other)
            | some r' =>
                let (row, raised) := promoteSynced cfg inp r.status r'
                (nodes.insert k row, if raised then some .other else none)

/-! ## The background loops -/

/-- `parse_host_resource_ssm_stdout`: the values that came out as integers. -/
structure HostMetrics where
  diskFreeMb : Option Int := none
  memoryFreeMb : Option Int := none

/-- `execution_node_heartbeat_within_max_age`. -/
def heartbeatWithinMaxAge (cfg : FleetSettings) (now : Int) (r : FleetNode) : Bool :=
  r.lastHeartbeatAt.any fun hb => now - maxHeartbeatAge cfg ≤ hb

/-- The row was short of disk or memory when last looked at. -/
def FleetNode.wasLow (r : FleetNode) : Bool :=
  r.resourceStatus = some .lowDisk || r.resourceStatus = some .lowMemory

/-- `_apply_resource_metrics_to_node`. -/
def applyResourceMetricsToNode (cfg : FleetSettings) (now : Int) (m : HostMetrics) (r : FleetNode) :
    FleetNode :=
  let lowDisk := m.diskFreeMb.any (· < cfg.devnestNodeMinFreeDiskMb)
  let lowMem := m.memoryFreeMb.any (· < cfg.devnestNodeMinFreeMemoryMb)
  if lowDisk || lowMem then
    { r with
      resourceStatus := some (if lowDisk then .lowDisk else .lowMemory), schedulable := false }
  else
    { r with
      resourceStatus := some .ok
      schedulable := r.schedulable || (r.status = .ready && r.wasLow &&
        (!cfg.devnestRequireFreshNodeHeartbeat || heartbeatWithinMaxAge cfg now r)) }

/-- The nodes a loop works on, by key. -/
def selectNodes (p : FleetNode → Bool) (nodes : Fleet) : List Nat :=
  ((nodes.entries.filter fun e => p e.2).insertionSort fun a b => a.2.nodeKey ≤ b.2.nodeKey).map
    Sigma.fst

/-- One turn of `run_ec2_node_resource_monitor_tick`; a probe that fails is skipped. -/
def monitorTurn (cfg : FleetSettings) (now : Int) (probe : Nat → Option HostMetrics) (nodes : Fleet)
    (k : Nat) : Fleet :=
  match nodes.lookup k, probe k with
  | some r, some m =>
      if stripOr r.providerInstanceId = "" then nodes
      else nodes.insert k (applyResourceMetricsToNode cfg now m r)
  | _, _ => nodes

/-- `run_ec2_node_resource_monitor_tick`. -/
def runEc2NodeResourceMonitorTick (cfg : FleetSettings) (now : Int)
    (probe : Nat → Option HostMetrics) (nodes : Fleet) : Fleet :=
  if !cfg.devnestNodeResourceMonitorEnabled then nodes
  else (selectNodes (fun r => r.providerType = .ec2 && r.status = .ready &&
    r.executionMode = .ssmDocker) nodes).foldl (monitorTurn cfg now probe) nodes

/-- `_sync_provisioning_ec2_nodes`: whatever leaves the sync of a node is swallowed, and what
the session holds by then stays. -/
def syncProvisioningEc2Nodes (cfg : FleetSettings) (answers : Nat → SyncInput) (nodes : Fleet) :
    Fleet :=
  (selectNodes (fun r => r.providerType = .ec2 && r.status.isPromotable) nodes).foldl
    (fun nodes k => (syncNodeState cfg nodes (.byId k) (answers k)).1) nodes

/-- The row part of `_mark_node_not_ready_for_retry`. -/
def notReadyForRetryRow (reason : String) (r : FleetNode) : FleetNode :=
  { r with
    status := .provisioning, schedulable := false, lastErrorCode := some "ReadyGatePending"
    lastErrorMessage := some (truncate reason 4096) }

/-- `_mark_node_not_ready_for_retry`, on the whole row. -/
def markFleetNodeNotReadyForRetry (nodes : Fleet) (nodeKey : Option String) (reason : String) :
    Fleet :=
  if stripOr nodeKey = "" then nodes
  else match fleetByKey nodes (stripOr nodeKey) with
    | none => nodes
    | some (k, r) =>
        if r.providerType ≠ .ec2 then nodes else nodes.insert k (notReadyForRetryRow reason r)

/-! ## The rows the worker sees -/

/-- The columns of a node that the worker's retry path reads and writes. -/
structure NodeColumns where
  nodeKey : String
  providerType : String
  status : String
  schedulable : Bool
  lastErrorCode : Option String
  lastErrorMessage : Option String

def ExecutionNode.columns (r : ExecutionNode) : NodeColumns :=
  ⟨r.nodeKey, r.providerType, r.status, r.schedulable, r.lastErrorCode, r.lastErrorMessage⟩

def FleetNode.columns (r : FleetNode) : NodeColumns :=
  ⟨r.nodeKey, r.providerType.value, r.status.value, r.schedulable, r.lastErrorCode,
    r.lastErrorMessage⟩

/-- The session of a job shows the rows of the fleet. -/
def ShowsFleet (t : Table Nat ExecutionNode) (nodes : Fleet) : Prop :=
  t.entries.map (fun e => (e.1, e.2.columns)) = nodes.entries.map (fun e => (e.1, e.2.columns))

theorem ShowsFleet.lookup {t : Table Nat ExecutionNode} {nodes : Fleet} (h : ShowsFleet t nodes)
    (k : Nat) : (t.lookup k).map (·.columns) = (nodes.lookup k).map (·.columns) := by
  have hmem : ∀ {ρ : Type} (f : ρ → NodeColumns) (t : Table Nat ρ) (c : NodeColumns),
      (t.lookup k).map f = some c ↔ (k, c) ∈ t.entries.map fun e => (e.1, f e.2) := by
    intro ρ f t c
    rw [Option.map_eq_some_iff, List.mem_map]
    constructor
    · rintro ⟨r, hr, rfl⟩
      exact ⟨⟨k, r⟩, AList.mem_lookup_iff.mp hr, rfl⟩
    · rintro ⟨⟨k', r⟩, he, heq⟩
      obtain ⟨rfl, rfl⟩ := Prod.mk.inj heq
      exact ⟨r, AList.mem_lookup_iff.mpr he, rfl⟩
  refine Option.ext fun c => ?_
  rw [hmem ExecutionNode.columns t c, hmem FleetNode.columns nodes c, h]

/-- Both tables find the row of a key at the same place. -/
theorem ShowsFleet.byKey {t : Table Nat ExecutionNode} {nodes : Fleet} (h : ShowsFleet t nodes)
    (key : String) : (nodeByKey t key).map (fun p => (p.1, p.2.columns)) =
      (fleetByKey nodes key).map fun p => (p.1, p.2.columns) := by
  have hfind := congrArg (List.find? fun p : Nat × NodeColumns => p.2.nodeKey = key) h
  rw [List.find?_map, List.find?_map] at hfind
  simp only [nodeByKey, fleetByKey, Option.map_map, Function.comp_def]
  exact hfind

/-- **The worker's retry path is the fleet's**: on the same rows it leaves the same columns. -/
theorem markNodeNotReadyForRetry_shows {s : Session} {nodes : Fleet}
    (h : ShowsFleet s.executionNodes nodes) (nodeKey : Option String) (reason : String) (k : Nat) :
    ((markNodeNotReadyForRetry s nodeKey reason).executionNodes.lookup k).map (·.columns) =
      ((markFleetNodeNotReadyForRetry nodes nodeKey reason).lookup k).map (·.columns) := by
  unfold markNodeNotReadyForRetry markFleetNodeNotReadyForRetry
  split
  · exact h.lookup k
  · have hkey := h.byKey (stripOr nodeKey)
    cases hf : fleetByKey nodes (stripOr nodeKey) with
    | none =>
        rw [hf, Option.map_none, Option.map_eq_none_iff] at hkey
        rw [hkey]
        exact h.lookup k
    | some p =>
        obtain ⟨j, r⟩ := p
        rw [hf, Option.map_some, Option.map_eq_some_iff] at hkey
        obtain ⟨⟨j', node⟩, hn, heq⟩ := hkey
        obtain ⟨rfl, hcols⟩ := Prod.mk.inj heq
        have hnodeKey : node.nodeKey = r.nodeKey := congrArg NodeColumns.nodeKey hcols
        have hprov : node.providerType = r.providerType.value :=
          congrArg NodeColumns.providerType hcols
        rw [hn]
        dsimp only
        cases hp : r.providerType with
        | localHost =>
            rw [if_pos (by rw [hprov, hp]; decide), if_pos (by simp)]
            exact h.lookup k
        | ec2 =>
            rw [if_neg (by rw [hprov, hp]; decide), if_neg (by simp)]
            simp only [Table.lookup_insert_eq]
            split
            · simp only [Option.map_some, ExecutionNode.columns, FleetNode.columns,
                notReadyForRetryRow, NodeStatus.value]
              rw [hnodeKey, hprov]
            · exact h.lookup k

end Devnest
