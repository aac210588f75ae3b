import Devnest.Rows

/-!
# Placement of a job

`resolve_orchestrator_placement`: which node and which topology the
orchestrator of a job is built for. `CREATE` schedules (or uses the
operator's pinned node), a complete `WorkspaceRuntime` row is
authoritative for every other type, snapshot jobs may infer the
placement from the node catalog, and in strict mode everything else
raises.

The scheduler's answer and the heartbeat age are inputs: the module is
about what the resolver does with them.
-/

namespace Devnest

open PyText

inductive PlacementError where
  | noSchedulableNode (message : String)
  | invalidPlacementParameters (message : String)
  | authoritativePlacement (message : String)
  deriving DecidableEq, Repr

def PlacementError.message : PlacementError → String
  | noSchedulableNode m | invalidPlacementParameters m | authoritativePlacement m => m

/-- `schedule_workspace`: the request is invalid, no node fits, or a node is chosen. -/
inductive SchedulerResult where
  | invalidRequest (message : String)
  | noNode (message : String)
  | chosen (node : ExecutionNode)
  deriving DecidableEq, Repr

/-- What placement asks of the rest of the control plane. -/
structure PlacementInput where
  schedule : SchedulerResult
  /-- `execution_node_heartbeat_within_max_age`: `none` when fresh, else the detail. -/
  staleHeartbeat : Option String := none
  deriving DecidableEq, Repr

/-! ## Runtime policy -/

/-- `runtime_placement_row_complete`. -/
def runtimePlacementRowComplete (rt : Option WorkspaceRuntime) : Bool :=
  match rt with
  | none => false
  | some rt => stripOr rt.nodeId != "" && rt.topologyId.isSome

def runtimeEnvFallbackAllowed (cfg : Settings) : Bool :=
  cfg.devnestEnv == "development" && cfg.devnestAllowRuntimeEnvFallback

def placementStrictEnforced (cfg : Settings) : Bool := !runtimeEnvFallbackAllowed cfg

/-! ## Catalog access -/

def topologyIdFromEnv (cfg : Settings) : Int :=
  (parseInt ((cfg.devnestTopologyId.filter (· ≠ "")).getD "1")).getD 1

def nodeKeyFromEnv (cfg : Settings) : String :=
  let key := strip ((cfg.devnestNodeId.filter (· ≠ "")).getD "node-1")
  if key = "" then "node-1" else key

/-- The catalog row of a node key, with its id. -/
def nodeByKey (nodes : Table Nat ExecutionNode) (key : String) : Option (Nat × ExecutionNode) :=
  (nodes.entries.find? fun e => e.2.nodeKey = key).map fun e => (e.1, e.2)

/-- `_execution_node_by_key`. -/
def executionNodeByKey (nodes : Table Nat ExecutionNode) (key : String) : Option ExecutionNode :=
  if strip key = "" then none else (nodeByKey nodes (strip key)).map Prod.snd

def validateTopologyCatalogExists (s : Session) (tid : Int) : Except PlacementError Unit :=
  if tid ∈ s.topologies then .ok ()
  else .error (.invalidPlacementParameters ("topology id " ++ toString tid ++
    " has no Topology catalog row. " ++
    "Run database migrations and bootstrap (init_db seeds a default topology in development), " ++
    "or insert a topology row for this id. " ++
    "Check ExecutionNode.default_topology_id and DEVNEST_TOPOLOGY_ID match an existing topology."))

/-- The topology of a freshly chosen node: its catalog default, or in development the
environment's. -/
def defaultTopology (cfg : Settings) (node : ExecutionNode) (strictMessage : String) :
    Except PlacementError Int :=
  match node.defaultTopologyId with
  | some tid => .ok tid
  | none =>
      if placementStrictEnforced cfg then .error (.invalidPlacementParameters strictMessage)
      else .ok (topologyIdFromEnv cfg)

def scheduleWorkspacePlacement (cfg : Settings) (inp : PlacementInput) (s : Session) :
    Except PlacementError (String × Int) :=
  match inp.schedule with
  | .invalidRequest m => .error (.invalidPlacementParameters m)
  | .noNode m => .error (.noSchedulableNode m)
  | .chosen node => do
      let tid ← defaultTopology cfg node
        ("Strict production/staging placement requires execution_node.default_topology_id for new " ++
        "workload placement; set it on the selected ExecutionNode (env-based DEVNEST_TOPOLOGY_ID " ++
        "is not permitted for scheduling in this mode).")
      validateTopologyCatalogExists s tid
      return (node.nodeKey, tid)

/-! ## Operator-pinned CREATE -/

def parsePinnedCreateExecutionNodeIds (cfg : Settings) : List Int :=
  (splitChar ',' (stripChars cfg.devnestPinnedCreateExecutionNodeIds.toList)).filterMap fun p =>
    if stripChars p = [] then none else parseInt (String.ofList (stripChars p))

def workspaceUsesOperatorPinnedCreate (cfg : Settings) (ws : Workspace) : Bool :=
  cfg.devnestAllowPinnedCreatePlacement &&
  match ws.executionNodeId with
  | none => false
  | some nid => (nid : Int) ∈ parsePinnedCreateExecutionNodeIds cfg &&
      startsWith (strip ws.name) "devnest-op-pinned-test-"

/-- `staleHeartbeat` is what the age check says of the node. -/
def validateOperatorPinnedCreateNodeGates (cfg : Settings) (staleHeartbeat : Option String) :
    Except PlacementError Unit :=
  if !cfg.devnestEnableMultiNodeScheduling then
    .error (.invalidPlacementParameters
      ("Pinned operator CREATE requires DEVNEST_ENABLE_MULTI_NODE_SCHEDULING=true " ++
      "(Phase 3b Steps 7–8). Single-node mode must not admit pinned exceptions without explicit " ++
      "multi-node enablement."))
  else match staleHeartbeat with
    | none => .ok ()
    | some detail => .error (.invalidPlacementParameters
        ("Pinned operator CREATE requires a fresh execution node heartbeat: " ++ detail ++ ". " ++
        "POST /internal/execution-nodes/heartbeat from the target node or adjust " ++
        "DEVNEST_NODE_HEARTBEAT_MAX_AGE_SECONDS."))

/-- `_pinned_operator_create_placement`, for a workspace that names node `nid`. -/
def pinnedOperatorCreatePlacement (cfg : Settings) (inp : PlacementInput) (s : Session)
    (nid : Nat) : Except PlacementError (String × Int) :=
  match s.executionNodes.lookup nid with
  | none => .error (.invalidPlacementParameters
      ("pinned CREATE: execution_node id=" ++ toString nid ++ " not found"))
  | some node =>
      if strip node.status ≠ "READY" then
        .error (.invalidPlacementParameters ("pinned CREATE: execution_node " ++
          PyText.repr node.nodeKey ++ " is not READY (status=" ++ PyText.repr node.status ++ ")"))
      else if !node.schedulable then
        .error (.invalidPlacementParameters ("pinned CREATE: execution_node " ++
          PyText.repr node.nodeKey ++ " is not schedulable"))
      else do
        validateOperatorPinnedCreateNodeGates cfg inp.staleHeartbeat
        let tid ← defaultTopology cfg node
          ("Strict production/staging placement requires execution_node.default_topology_id for " ++
          "pinned operator CREATE; set it on the target ExecutionNode.")
        validateTopologyCatalogExists s tid
        if strip node.nodeKey = "" then
          .error (.invalidPlacementParameters "pinned CREATE: execution_node has empty node_key")
        else .ok (strip node.nodeKey, tid)

/-! ## Snapshot jobs -/

/-- The topology of a snapshot job: the row's, or the node's default. -/
def snapshotTopology (cfg : Settings) (s : Session) (node : ExecutionNode) (nk : String) :
    Except PlacementError Int :=
  match s.rt.bind (·.topologyId) with
  | some tid => .ok tid
  | none => defaultTopology cfg node ("snapshot placement: node " ++ PyText.repr nk ++
      " has no default_topology_id; cannot infer topology")

/-- The catalog row of the node a snapshot job runs on. -/
def snapshotNode (s : Session) (nodeFromWorkspace : Option ExecutionNode) (nk : String) :
    Option ExecutionNode :=
  match nodeFromWorkspace with
  | some node => if strip node.nodeKey = nk then some node else executionNodeByKey s.executionNodes nk
  | none => executionNodeByKey s.executionNodes nk

/-- `_snapshot_placement_from_runtime_or_workspace`; `none` when nothing names a node. -/
def snapshotPlacementFromRuntimeOrWorkspace (cfg : Settings) (s : Session) :
    Except PlacementError (Option (String × Int)) :=
  let fromRuntime := stripOr (s.rt.bind (·.nodeId))
  let nodeFromWorkspace := s.ws.executionNodeId.bind s.executionNodes.lookup
  let nk := if fromRuntime = "" then strip ((nodeFromWorkspace.map (·.nodeKey)).getD "")
    else fromRuntime
  if nk = "" then .ok none
  else match snapshotNode s nodeFromWorkspace nk with
    | none => .ok none
    | some node => do
        let tid ← snapshotTopology cfg s node nk
        validateTopologyCatalogExists s tid
        return some (nk, tid)

/-! ## The resolver -/

/-- The environment's node and topology, when the catalog has the topology. -/
def envPlacement (cfg : Settings) (s : Session) : Except PlacementError (String × Int) := do
  validateTopologyCatalogExists s (topologyIdFromEnv cfg)
  return (nodeKeyFromEnv cfg, topologyIdFromEnv cfg)

def WorkspaceJobType.value : WorkspaceJobType → String
  | create => "CREATE"
  | start => "START"
  | stop => "STOP"
  | restart => "RESTART"
  | delete => "DELETE"
  | update => "UPDATE"
  | reconcileRuntime => "RECONCILE_RUNTIME"
  | snapshotCreate => "SNAPSHOT_CREATE"
  | snapshotRestore => "SNAPSHOT_RESTORE"
  | repoImport => "REPO_IMPORT"

/-- `resolve_orchestrator_placement`. Every type but `CREATE` is in
`_JOBS_NEED_RUNTIME_PLACEMENT`, so the branch for other types has no case here. -/
def resolveOrchestratorPlacement (cfg : Settings) (inp : PlacementInput) (s : Session) :
    Except PlacementError (String × Int) :=
  if s.job.jobType = .create then
    match s.ws.executionNodeId with
    | some nid =>
        if workspaceUsesOperatorPinnedCreate cfg s.ws then pinnedOperatorCreatePlacement cfg inp s nid
        else scheduleWorkspacePlacement cfg inp s
    | none => scheduleWorkspacePlacement cfg inp s
  else
    match s.rt.filter (runtimePlacementRowComplete ∘ some) with
    | some rt => .ok (stripOr rt.nodeId, rt.topologyId.getD 0)
    | none =>
        if s.job.jobType.isSnapshot then do
          match ← snapshotPlacementFromRuntimeOrWorkspace cfg s with
          | some p => .ok p
          | none => .error (.authoritativePlacement
              ("Snapshot job requires placement: WorkspaceRuntime with node_id and topology_id, " ++
              "and/or workspace.execution_node_id with a matching ExecutionNode row (workspace_id=" ++
              toString s.wid ++ ")."))
        else if s.job.jobType = .start then
          if s.rt.isSome && placementStrictEnforced cfg then
            .error (.authoritativePlacement
              ("START requires complete WorkspaceRuntime (node_id and topology_id) in " ++
              "production/staging, or run cleanup/reconcile to repair a partial row."))
          else scheduleWorkspacePlacement cfg inp s
        else if placementStrictEnforced cfg then
          .error (.authoritativePlacement ("Job " ++ s.job.jobType.value ++
            " requires WorkspaceRuntime with node_id and topology_id; none found for workspace_id=" ++
            toString s.wid ++ "."))
        else envPlacement cfg s

/-! ## What the resolver demands -/

theorem runtimePlacementRowComplete_iff {rt : Option WorkspaceRuntime} :
    runtimePlacementRowComplete rt = true ↔
      ∃ r tid, rt = some r ∧ stripOr r.nodeId ≠ "" ∧ r.topologyId = some tid := by
  cases rt with
  | none => simp [runtimePlacementRowComplete]
  | some r =>
      simp only [runtimePlacementRowComplete, Bool.and_eq_true, bne_iff_ne, ne_eq,
        Option.isSome_iff_exists, Option.some.injEq]
      constructor
      · rintro ⟨hn, tid, ht⟩
        exact ⟨r, tid, rfl, hn, ht⟩
      · rintro ⟨_, tid, rfl, hn, ht⟩
        exact ⟨hn, tid, ht⟩

/-- A complete row is authoritative: every type but `CREATE` gets its node and topology. -/
theorem resolve_of_complete {cfg : Settings} {inp : PlacementInput} {s : Session}
    {r : WorkspaceRuntime} {tid : Int} (hrt : s.rt = some r) (hn : stripOr r.nodeId ≠ "")
    (ht : r.topologyId = some tid) (hjt : s.job.jobType ≠ .create) :
    resolveOrchestratorPlacement cfg inp s = .ok (stripOr r.nodeId, tid) := by
  have hc : runtimePlacementRowComplete (some r) = true :=
    runtimePlacementRowComplete_iff.mpr ⟨r, tid, rfl, hn, ht⟩
  simp only [resolveOrchestratorPlacement, hjt, if_false, hrt, Option.filter, Function.comp, hc,
    if_true, ht, Option.getD_some]

/-- In strict mode an incomplete row stops every type that neither schedules nor infers. -/
theorem resolve_of_incomplete {cfg : Settings} {inp : PlacementInput} {s : Session}
    (hstrict : placementStrictEnforced cfg = true) (hrt : runtimePlacementRowComplete s.rt = false)
    (hsome : s.job.jobType = .start → s.rt.isSome) (hjt : s.job.jobType ≠ .create)
    (hsnap : s.job.jobType.isSnapshot = false) :
    ∃ m, resolveOrchestratorPlacement cfg inp s = .error (.authoritativePlacement m) := by
  have hf : s.rt.filter (runtimePlacementRowComplete ∘ some) = none := by
    cases hr : s.rt with
    | none => rfl
    | some r =>
        rw [hr] at hrt
        simp [Option.filter, hrt]
  simp only [resolveOrchestratorPlacement, hjt, if_false, hf, hsnap, hstrict, if_true]
  by_cases hst : s.job.jobType = .start
  · simp [hst, hsome hst]
  · simp [hst]

/-! ## Who reports missing capacity -/

/-- The computation does not end in `NoSchedulableNodeError`. -/
def NoCapacityError {α : Type} (x : Except PlacementError α) : Prop :=
  ∀ m, x ≠ .error (.noSchedulableNode m)

theorem NoCapacityError.bind {α β : Type} {x : Except PlacementError α}
    {f : α → Except PlacementError β} (hx : NoCapacityError x) (hf : ∀ a, NoCapacityError (f a)) :
    NoCapacityError (x >>= f) := by
  cases x with
  | ok a => exact hf a
  | error e =>
      intro m h
      exact hx m (by simpa [Bind.bind, Except.bind] using h)

theorem noCapacityError_ok {α : Type} (a : α) :
    NoCapacityError (.ok a : Except PlacementError α) := by simp [NoCapacityError]

theorem validateTopologyCatalogExists_noCapacity (s : Session) (tid : Int) :
    NoCapacityError (validateTopologyCatalogExists s tid) := by
  unfold validateTopologyCatalogExists
  split <;> simp [NoCapacityError]

theorem defaultTopology_noCapacity (cfg : Settings) (node : ExecutionNode) (m : String) :
    NoCapacityError (defaultTopology cfg node m) := by
  unfold defaultTopology
  split
  · exact noCapacityError_ok _
  · split <;> simp [NoCapacityError]

theorem snapshotTopology_noCapacity (cfg : Settings) (s : Session) (node : ExecutionNode)
    (nk : String) : NoCapacityError (snapshotTopology cfg s node nk) := by
  unfold snapshotTopology
  split
  · exact noCapacityError_ok _
  · exact defaultTopology_noCapacity cfg node _

theorem snapshotPlacement_noCapacity (cfg : Settings) (s : Session) :
    NoCapacityError (snapshotPlacementFromRuntimeOrWorkspace cfg s) := by
  unfold snapshotPlacementFromRuntimeOrWorkspace
  extract_lets fromRuntime nodeFromWorkspace nk
  split
  · exact noCapacityError_ok _
  · split
    · exact noCapacityError_ok _
    · rename_i node _
      exact .bind (snapshotTopology_noCapacity cfg s node nk) fun tid =>
        .bind (validateTopologyCatalogExists_noCapacity s tid) fun _ => noCapacityError_ok _

/-- Only the scheduler reports missing capacity, and only `CREATE` and `START` ask it. -/
theorem resolve_noCapacity (cfg : Settings) (inp : PlacementInput) {s : Session}
    (hc : s.job.jobType ≠ .create) (hst : s.job.jobType ≠ .start) :
    NoCapacityError (resolveOrchestratorPlacement cfg inp s) := by
  unfold resolveOrchestratorPlacement
  rw [if_neg hc]
  split
  · exact noCapacityError_ok _
  · split
    · refine .bind (snapshotPlacement_noCapacity cfg s) fun p => ?_
      cases p with
      | some p => exact noCapacityError_ok _
      | none => simp [NoCapacityError]
    · split
      · simp [NoCapacityError]
      · exact .bind (validateTopologyCatalogExists_noCapacity s _) fun _ => noCapacityError_ok _

end Devnest
