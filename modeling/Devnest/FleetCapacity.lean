import Devnest.PlacementPolicy
import Devnest.ScaleDown
import Mathlib.Tactic.Linarith

/-!
# The capacity the autoscaler sees

`build_fleet_capacity_snapshot` adds up what the nodes of the placement pool
have free, and `evaluate_fleet_autoscaler_tick` decides on the sums. Beside
them stands `_any_ready_schedulable_node_can_fit_default_workspace`, which
looks at one node after the other, but only takes part in the decision where
the sums are short of one workspace.

So nodes that are each too full for a workspace hide a shortage when their
remainders add up to one: `scaleOut_iff_short` says when a launch is
recommended although, or because, no node has room.
-/

namespace Devnest

open PyText

/-! ## Demand -/

/-- `_PENDING_PLACEMENT_DEMAND_JOB_TYPES`. -/
def WorkspaceJobType.isPlacementDemand : WorkspaceJobType → Bool
  | create | start | restart | update | snapshotRestore | repoImport => true
  | stop | delete | reconcileRuntime | snapshotCreate => false

/-- `_WORKSPACE_PENDING_COMPUTE_STATUSES`. -/
def WorkspaceStatus.isPendingCompute : WorkspaceStatus → Bool
  | creating | pending | starting | restarting | updating => true
  | running | stopping | stopped | error | deleting | deleted => false

section Demand

variable (db : Db)

/-- `_count_queued_jobs`, over the job types that `p` admits. -/
def countQueuedJobs (p : WorkspaceJobType → Bool) : Nat :=
  Table.rowCount (fun j => j.status = .queued && p j.jobType) db.jobs

/-- `_count_active_or_queued_jobs`. -/
def countActiveOrQueuedJobs : Nat :=
  Table.rowCount (fun j => j.status = .queued || j.status = .running) db.jobs

/-- `_count_non_deleted_workspaces`. -/
def countNonDeletedWorkspaces : Nat :=
  Table.rowCount (fun ws => ws.status ≠ .deleted) db.workspaces

/-- `_count_workspaces_pending_placement_compute`. -/
def countWorkspacesPendingPlacementCompute : Nat :=
  Table.rowCount (fun ws => ws.status.isPendingCompute) db.workspaces

/-- `_effective_recent_placement_failure_signals`, for `rawRecent` audit rows in the window. -/
def effectiveRecentPlacementFailureSignals (rawRecent : Nat) : Nat :=
  if countQueuedJobs db (·.isPlacementDemand) = 0 && countActiveOrQueuedJobs db = 0 &&
      countNonDeletedWorkspaces db = 0 then 0
  else rawRecent

end Demand

/-! ## Free resources -/

/-- The capacity columns of a row. -/
def capacityColumns (caps : Table String NodeCapacity) (node : ExecutionNode) : NodeCapacity :=
  (caps.lookup node.nodeKey).getD ⟨0, 0, 0, 0, le_rfl⟩

/-- What a node has free, each resource for itself and none below zero. -/
def freeOnNode (caps : Table String NodeCapacity) (db : Db) (e : Nat × ExecutionNode) : Load :=
  let cap := capacityColumns caps e.2
  let key := strip e.2.nodeKey
  let used := totalReservedOnNodeKey db key
  let slots := max (countActiveWorkloadsOnNodeKey db key) (workspaceSlotClaimCount db e.1)
  (max 0 (cap.maxWorkspaces - slots), max 0 (cap.allocatableCpu - used.1),
    max 0 (cap.allocatableMemoryMb - used.2),
    max 0 (cap.allocatableDiskMb - totalReservedDiskMbOnNodeKey db key))

/-- `round(x, 4)`. -/
def roundFour (q : ℚ) : ℚ := roundHalfEven (q * 10000) / 10000

/-- The accumulators of the loop over the ready nodes. -/
structure PoolTotals where
  activeSlots : Int := 0
  free : Load := 0
  totalCpu : ℚ := 0
  totalMemoryMb : Int := 0
  totalDiskMb : Int := 0

section Pool

variable (pool : PoolSettings) (caps : Table String NodeCapacity) (db : Db)
  (req : WorkspaceComputeRequest)

/-- The rows that `schedulable_placement_predicates` admit. -/
def readyNodes : List (Nat × ExecutionNode) :=
  (db.executionNodes.entries.map fun e => (e.1, e.2)).filter fun e => schedulableBase pool db e.1 e.2

/-- The body of the loop of `build_fleet_capacity_snapshot`. -/
def PoolTotals.addNode (acc : PoolTotals) (e : Nat × ExecutionNode) : PoolTotals :=
  let key := strip e.2.nodeKey
  if key = "" then acc
  else
    let cap := capacityColumns caps e.2
    { activeSlots := acc.activeSlots +
        max (countActiveWorkloadsOnNodeKey db key) (workspaceSlotClaimCount db e.1)
      free := acc.free + freeOnNode caps db e
      totalCpu := acc.totalCpu + cap.allocatableCpu
      totalMemoryMb := acc.totalMemoryMb + cap.allocatableMemoryMb
      totalDiskMb := acc.totalDiskMb + cap.allocatableDiskMb }

def poolTotals : PoolTotals :=
  (readyNodes pool db).foldl (PoolTotals.addNode caps db) {}

/-- `_any_ready_schedulable_node_can_fit_default_workspace`. -/
def anyReadySchedulableNodeCanFitDefaultWorkspace : Bool :=
  (readyNodes pool db).any fun e =>
    strip e.2.nodeKey ≠ "" &&
      let free := freeOnNode caps db e
      req.requestedSlots ≤ free.1 && req.requestedCpu ≤ free.2.1 &&
        req.requestedMemoryMb ≤ free.2.2.1 && req.requestedDiskMb ≤ free.2.2.2

end Pool

/-- How often `need` goes into `free`; a need that is not positive does not count. -/
def timesIn (fs : Int) (free need : ℚ) : Int := if 0 < need then ⌊free / need⌋ else fs

/-- `_workspace_slots_from_free_resources`. -/
def workspaceSlotsFromFreeResources (req : WorkspaceComputeRequest) (free : Load) : Int :=
  let fs := max 0 free.1
  if fs ≤ 0 then 0
  else
    max 0 (min fs (min (timesIn fs free.2.1 req.requestedCpu)
      (min (timesIn fs free.2.2.1 req.requestedMemoryMb)
        (timesIn fs free.2.2.2 req.requestedDiskMb))))

/-- `_estimated_empty_workspace_capacity_on_node`. -/
def estimatedEmptyWorkspaceCapacityOnNode (req : WorkspaceComputeRequest) (cap : NodeCapacity) :
    Int :=
  let maxWs : Int := cap.maxWorkspaces
  max 0 (min maxWs (min (timesIn maxWs cap.allocatableCpu req.requestedCpu)
    (min (timesIn maxWs cap.allocatableMemoryMb req.requestedMemoryMb)
      (timesIn maxWs cap.allocatableDiskMb req.requestedDiskMb))))

/-! ## The snapshot -/

/-- An EC2 row in `PROVISIONING`. -/
def ExecutionNode.isProvisioningEc2 (node : ExecutionNode) : Bool :=
  node.providerType = "ec2" && node.status = "PROVISIONING"

/-- `count_ec2_provisioning_nodes`. -/
def countEc2ProvisioningNodes (db : Db) : Nat :=
  Table.rowCount ExecutionNode.isProvisioningEc2 db.executionNodes

/-- `FleetCapacitySnapshot`. -/
structure FleetCapacitySnapshot where
  totalNodes : Nat
  ec2NodesActive : Nat
  readySchedulableNodes : Nat
  readySchedulableEc2Nodes : Nat
  provisioningNodes : Nat
  drainingNodes : Nat
  activeSlots : Int
  freeSlots : Int
  pendingWorkspaceJobs : Nat
  pendingPlacementJobs : Nat
  recentPlacementFailures : Nat
  filteredPlacementFailureSignals : Nat
  pendingDemandWorkspaceUnits : Nat
  readyWorkspaceCapacity : Int
  provisioningWorkspaceCapacity : Int
  totalAvailableWorkspaceCapacity : Int
  totalAllocatableCpu : ℚ
  freeCpu : ℚ
  totalAllocatableMemoryMb : Int
  freeMemoryMb : Int
  totalAllocatableDiskMb : Int
  freeDiskMb : Int
  idleEc2NodeCount : Nat

/-- `_workload_counts_by_node_keys`, at one key. -/
def workloadCountByNodeKey (db : Db) (nodeKey : String) : Nat :=
  Table.entryCount (fun w rt => strip nodeKey ≠ "" && rt.nodeId = some (strip nodeKey) &&
    (db.workspaces.lookup w).any fun ws => ws.status ≠ .deleted) db.runtimes

section Snapshot

variable (pool : PoolSettings) (caps : Table String NodeCapacity) (req : WorkspaceComputeRequest)
  (db : Db)

/-- `_count_idle_ec2_nodes`. -/
def countIdleEc2Nodes : Nat :=
  (readyNodes pool db).countP fun e =>
    e.2.providerType = "ec2" && workloadCountByNodeKey db e.2.nodeKey = 0

/-- `build_fleet_capacity_snapshot`, for `rawRecent` placement failures in the window. -/
def buildFleetCapacitySnapshot (rawRecent : Nat) : FleetCapacitySnapshot :=
  let ready := readyNodes pool db
  let totals := poolTotals pool caps db
  let queued := countQueuedJobs db (·.isPlacementDemand)
  let recent := effectiveRecentPlacementFailureSignals db rawRecent
  let filtered := if 1 < recent then recent else 0
  let readyCapacity := workspaceSlotsFromFreeResources req totals.free
  let provisioning := (((Table.rows db.executionNodes).filter ExecutionNode.isProvisioningEc2).map
    fun node => estimatedEmptyWorkspaceCapacityOnNode req (capacityColumns caps node)).sum
  { totalNodes := db.executionNodes.entries.length
    ec2NodesActive := activeEc2NodesCount db
    readySchedulableNodes := ready.length
    readySchedulableEc2Nodes := ready.countP fun e => e.2.providerType = "ec2"
    provisioningNodes := countEc2ProvisioningNodes db
    drainingNodes := Table.rowCount
      (fun node => node.providerType = "ec2" && node.status = "DRAINING") db.executionNodes
    activeSlots := totals.activeSlots
    freeSlots := totals.free.1
    pendingWorkspaceJobs := countQueuedJobs db fun _ => true
    pendingPlacementJobs := queued
    recentPlacementFailures := recent
    filteredPlacementFailureSignals := filtered
    pendingDemandWorkspaceUnits := queued + filtered
    readyWorkspaceCapacity := readyCapacity
    provisioningWorkspaceCapacity := provisioning
    totalAvailableWorkspaceCapacity := readyCapacity + provisioning
    totalAllocatableCpu := roundFour totals.totalCpu
    freeCpu := roundFour totals.free.2.1
    totalAllocatableMemoryMb := totals.totalMemoryMb
    freeMemoryMb := totals.free.2.2.1
    totalAllocatableDiskMb := totals.totalDiskMb
    freeDiskMb := totals.free.2.2.2
    idleEc2NodeCount := countIdleEc2Nodes pool db }

/-- The resources `_capacity_insufficient_for_one_workspace` has a reason for. -/
inductive ShortResource where
  | slots | cpu | memory | disk
  deriving DecidableEq, Repr

/-- `_capacity_insufficient_for_one_workspace`. -/
def capacityInsufficientForOneWorkspace (cap : FleetCapacitySnapshot) : List ShortResource :=
  (if cap.freeSlots < req.requestedSlots then [.slots] else []) ++
  (if cap.freeCpu < req.requestedCpu then [.cpu] else []) ++
  (if cap.freeMemoryMb < req.requestedMemoryMb then [.memory] else []) ++
  (if cap.freeDiskMb < req.requestedDiskMb then [.disk] else [])

/-- `_effective_pending_demand_workspace_units`. -/
def effectivePendingDemandWorkspaceUnits (cap : FleetCapacitySnapshot) : Nat :=
  if 0 < cap.filteredPlacementFailureSignals && cap.pendingPlacementJobs = 0 &&
      countWorkspacesPendingPlacementCompute db = 0 then 0
  else cap.pendingPlacementJobs + cap.filteredPlacementFailureSignals

end Snapshot

/-! ## The evaluation on the rows -/

def nodeStatusOf (status : String) : NodeStatus :=
  if status = "PROVISIONING" then .provisioning
  else if status = "READY" then .ready
  else if status = "NOT_READY" then .notReady
  else if status = "DRAINING" then .draining
  else if status = "TERMINATING" then .terminating
  else if status = "ERROR" then .error
  else .terminated

/-- A catalog row as the evaluation reads it. -/
def ExecutionNode.fleetNode (node : ExecutionNode) : FleetNode where
  nodeKey := node.nodeKey
  providerType := if node.providerType = "ec2" then .ec2 else .localHost
  status := nodeStatusOf node.status
  schedulable := node.schedulable

def Db.fleet (db : Db) : Fleet where
  entries := db.executionNodes.entries.map fun e => ⟨e.1, e.2.fleetNode⟩
  nodupKeys := by
    have hkeys : (db.executionNodes.entries.map
        fun e => (⟨e.1, e.2.fleetNode⟩ : Sigma fun _ : Nat => FleetNode)).keys =
          db.executionNodes.entries.keys := by
      rw [List.keys, List.map_map]
      rfl
    unfold List.NodupKeys
    rw [hkeys]
    exact db.executionNodes.nodupKeys

section Reading

variable (pool : PoolSettings) (caps : Table String NodeCapacity) (req : WorkspaceComputeRequest)
  (db : Db)

/-- What `evaluate_fleet_autoscaler_tick` reads before it decides; the times and the node to give
back are those of `rest`. -/
def fleetReading (rawRecent : Nat) (rest : FleetReading) : FleetReading :=
  let cap := buildFleetCapacitySnapshot pool caps req db rawRecent
  { rest with
    effectivePending := effectivePendingDemandWorkspaceUnits db cap
    pendingWorkspaceJobs := cap.pendingWorkspaceJobs
    freeSlots := cap.freeSlots
    readySchedulableNodes := cap.readySchedulableNodes
    readySchedulableEc2Nodes := cap.readySchedulableEc2Nodes
    provisioningWorkspaceCapacity := cap.provisioningWorkspaceCapacity
    totalAvailableWorkspaceCapacity := cap.totalAvailableWorkspaceCapacity
    capacityInsufficient := capacityInsufficientForOneWorkspace req cap ≠ []
    existingNodeCanFit := anyReadySchedulableNodeCanFitDefaultWorkspace pool caps db req }

end Reading

theorem fleetNode_isActiveEc2 (node : ExecutionNode) :
    node.fleetNode.isActiveEc2 = node.isActiveEc2 := by
  unfold FleetNode.isActiveEc2 ExecutionNode.isActiveEc2 ExecutionNode.fleetNode
  have htype : decide ((if node.providerType = "ec2" then ProviderType.ec2 else .localHost) = .ec2) =
      decide (node.providerType = "ec2") := by
    by_cases h : node.providerType = "ec2"
    · rw [if_pos h, decide_eq_true h]
      rfl
    · rw [if_neg h, decide_eq_false h]
      rfl
  have hstatus : (nodeStatusOf node.status).isActive = decide (node.status ∈
      ["PROVISIONING", "READY", "NOT_READY", "DRAINING", "TERMINATING", "ERROR"]) := by
    unfold nodeStatusOf
    split_ifs <;> simp_all [NodeStatus.isActive]
  rw [htype, hstatus]

/-- The two counts of active EC2 nodes are one. -/
theorem ec2NodesActive_fleet (db : Db) : ec2NodesActive db.fleet = activeEc2NodesCount db := by
  unfold ec2NodesActive activeEc2NodesCount Table.rowCount Table.rows Db.fleet
  rw [List.countP_map, List.countP_map, List.countP_map]
  exact List.countP_congr fun e _ => by
    rw [Function.comp_apply, Function.comp_apply, Function.comp_apply, fleetNode_isActiveEc2]

/-! ## What the sums come to -/

/-- The free resources of the pool, added up. -/
def poolFree (pool : PoolSettings) (caps : Table String NodeCapacity) (db : Db) : Load :=
  (((readyNodes pool db).filter fun e => strip e.2.nodeKey ≠ "").map (freeOnNode caps db)).sum

section Sums

variable {pool : PoolSettings} {caps : Table String NodeCapacity} {db : Db}

theorem foldl_addNode_free (l : List (Nat × ExecutionNode)) (acc : PoolTotals) :
    (l.foldl (PoolTotals.addNode caps db) acc).free =
      acc.free + ((l.filter fun e => strip e.2.nodeKey ≠ "").map (freeOnNode caps db)).sum := by
  induction l generalizing acc with
  | nil => rw [List.foldl_nil, List.filter_nil, List.map_nil, List.sum_nil, add_zero]
  | cons e l ih =>
      rw [List.foldl_cons, ih]
      by_cases hkey : strip e.2.nodeKey = ""
      · rw [List.filter_cons_of_neg (by simpa using hkey)]
        unfold PoolTotals.addNode
        rw [if_pos hkey]
      · rw [List.filter_cons_of_pos (by simpa using hkey), List.map_cons, List.sum_cons, ← add_assoc]
        unfold PoolTotals.addNode
        rw [if_neg hkey]

theorem poolTotals_free : (poolTotals pool caps db).free = poolFree pool caps db :=
  (foldl_addNode_free _ _).trans (zero_add _)

variable (caps db) in
theorem freeOnNode_nonneg (e : Nat × ExecutionNode) : 0 ≤ freeOnNode caps db e :=
  ⟨le_max_left _ _, le_max_left _ _, le_max_left _ _, le_max_left _ _⟩

variable (pool caps db) in
theorem poolFree_nonneg : 0 ≤ poolFree pool caps db := by
  refine List.sum_nonneg fun free hfree => ?_
  obtain ⟨e, -, rfl⟩ := List.mem_map.mp hfree
  exact freeOnNode_nonneg caps db e

end Sums

/-- The free resources are short of `n` workspaces, whatever node they lie on. -/
def ShortOf (req : WorkspaceComputeRequest) (free : Load) (n : Int) : Prop :=
  free.1 < n ∨ (0 < req.requestedCpu ∧ free.2.1 < n * req.requestedCpu) ∨
    (0 < req.requestedMemoryMb ∧ free.2.2.1 < n * req.requestedMemoryMb) ∨
    (0 < req.requestedDiskMb ∧ free.2.2.2 < n * req.requestedDiskMb)

theorem timesIn_lt_iff {fs n : Int} {free need : ℚ} :
    timesIn fs free need < n ↔ (0 < need ∧ free < n * need) ∨ (need ≤ 0 ∧ fs < n) := by
  unfold timesIn
  by_cases hneed : 0 < need
  · rw [if_pos hneed, Int.floor_lt, div_lt_iff₀ hneed]
    constructor
    · exact fun h => .inl ⟨hneed, h⟩
    · rintro (⟨-, h⟩ | ⟨h, -⟩)
      · exact h
      · exact absurd hneed (not_lt.mpr h)
  · rw [if_neg hneed]
    constructor
    · exact fun h => .inr ⟨not_lt.mp hneed, h⟩
    · rintro (⟨h, -⟩ | ⟨-, h⟩)
      · exact absurd h hneed
      · exact h

theorem timesIn_cast_lt_iff {fs n free need : Int} :
    timesIn fs free need < n ↔ (0 < need ∧ free < n * need) ∨ (need ≤ 0 ∧ fs < n) := by
  rw [timesIn_lt_iff]
  norm_cast

/-- **Reading the capacity**: fewer than `n` workspaces go into the sums exactly if some sum is
short of `n` workspaces. -/
theorem workspaceSlots_lt_iff {req : WorkspaceComputeRequest} {free : Load} {n : Int} (hn : 0 < n) :
    workspaceSlotsFromFreeResources req free < n ↔ ShortOf req free n := by
  unfold workspaceSlotsFromFreeResources ShortOf
  dsimp only
  by_cases hslots : max 0 free.1 ≤ 0
  · rw [if_pos hslots]
    have hfree : free.1 < n := by omega
    exact iff_of_true hn (.inl hfree)
  · rw [if_neg hslots]
    have hfs : max 0 free.1 = free.1 := by omega
    rw [hfs, max_lt_iff, min_lt_iff, min_lt_iff, min_lt_iff, timesIn_lt_iff, timesIn_cast_lt_iff,
      timesIn_cast_lt_iff]
    constructor
    · rintro ⟨-, h | h | h | h⟩
      · exact .inl h
      · exact h.elim (fun h => .inr (.inl h)) fun h => .inl h.2
      · exact h.elim (fun h => .inr (.inr (.inl h))) fun h => .inl h.2
      · exact h.elim (fun h => .inr (.inr (.inr h))) fun h => .inl h.2
    · rintro (h | h | h | h)
      · exact ⟨hn, .inl h⟩
      · exact ⟨hn, .inr (.inl (.inl h))⟩
      · exact ⟨hn, .inr (.inr (.inl (.inl h)))⟩
      · exact ⟨hn, .inr (.inr (.inr (.inl h)))⟩

/-! ## The decision -/

section Decision

variable (pool : PoolSettings) (auto : AutoscalerSettings) (caps : Table String NodeCapacity)
  (req : WorkspaceComputeRequest) (db : Db)

/-- The ready nodes together are short: of what is pending, of the idle slots that are to stay
beside it, or of one workspace. -/
def FleetShort (pending : Int) : Prop :=
  let free := poolFree pool caps db
  ShortOf req free pending ∨ free.1 < pending + auto.minIdleSlots ∨
    free.1 < req.requestedSlots ∨ roundFour free.2.1 < req.requestedCpu

variable {pool auto caps req db}

/-- A resource that is short of one workspace is short of `n` of them. -/
theorem short_of_one {need free n : Int} (hfree : 0 ≤ free) (hn : 0 < n) (h : free < need) :
    0 < need ∧ free < n * need := by
  have hneed : 0 < need := hfree.trans_lt h
  exact ⟨hneed, h.trans_le (le_mul_of_one_le_left hneed.le hn)⟩

theorem capacityInsufficient_iff {cap : FleetCapacitySnapshot} :
    capacityInsufficientForOneWorkspace req cap ≠ [] ↔
      cap.freeSlots < req.requestedSlots ∨ cap.freeCpu < req.requestedCpu ∨
        cap.freeMemoryMb < req.requestedMemoryMb ∨ cap.freeDiskMb < req.requestedDiskMb := by
  unfold capacityInsufficientForOneWorkspace
  by_cases hslots : cap.freeSlots < req.requestedSlots
  · simp [hslots]
  by_cases hcpu : cap.freeCpu < req.requestedCpu
  · simp [hcpu]
  by_cases hmem : cap.freeMemoryMb < req.requestedMemoryMb
  · simp [hmem]
  simp [hslots, hcpu, hmem]

variable (pool caps req db) in
/-- The snapshot's free resources are the sums. -/
theorem snapshot_free (rawRecent : Nat) :
    (buildFleetCapacitySnapshot pool caps req db rawRecent).freeSlots = (poolFree pool caps db).1 ∧
    (buildFleetCapacitySnapshot pool caps req db rawRecent).freeCpu =
      roundFour (poolFree pool caps db).2.1 ∧
    (buildFleetCapacitySnapshot pool caps req db rawRecent).freeMemoryMb =
      (poolFree pool caps db).2.2.1 ∧
    (buildFleetCapacitySnapshot pool caps req db rawRecent).freeDiskMb =
      (poolFree pool caps db).2.2.2 := by
  rw [← poolTotals_free]
  exact ⟨rfl, rfl, rfl, rfl⟩

/-- Where memory or disk is missing for one workspace, the sums are short of whatever is
pending. -/
theorem short_of_insufficient {rawRecent : Nat} {n : Int} (hn : 0 < n)
    (h : capacityInsufficientForOneWorkspace req
      (buildFleetCapacitySnapshot pool caps req db rawRecent) ≠ []) :
    ShortOf req (poolFree pool caps db) n ∨ (poolFree pool caps db).1 < req.requestedSlots ∨
      roundFour (poolFree pool caps db).2.1 < req.requestedCpu := by
  obtain ⟨-, -, hmem0, hdisk0⟩ := poolFree_nonneg pool caps db
  obtain ⟨hslots, hcpu, hmem, hdisk⟩ := snapshot_free pool caps req db rawRecent
  rw [capacityInsufficient_iff, hslots, hcpu, hmem, hdisk] at h
  rcases h with h | h | h | h
  · exact .inr (.inl h)
  · exact .inr (.inr h)
  · exact .inl (.inr (.inr (.inl (short_of_one hmem0 hn h))))
  · exact .inl (.inr (.inr (.inr (short_of_one hdisk0 hn h))))

theorem poolFree_of_no_nodes (h : readyNodes pool db = []) : poolFree pool caps db = 0 := by
  unfold poolFree
  rw [h]
  rfl

variable (pool caps req) in
/-- Without a node on its way the capacity there is, is that of the ready nodes. -/
theorem snapshot_of_no_provisioning (rawRecent : Nat) (h : countEc2ProvisioningNodes db = 0) :
    (buildFleetCapacitySnapshot pool caps req db rawRecent).provisioningWorkspaceCapacity = 0 ∧
    (buildFleetCapacitySnapshot pool caps req db rawRecent).totalAvailableWorkspaceCapacity =
      workspaceSlotsFromFreeResources req (poolFree pool caps db) := by
  have hnone : (Table.rows db.executionNodes).filter ExecutionNode.isProvisioningEc2 = [] := by
    rw [List.filter_eq_nil_iff]
    exact List.countP_eq_zero.mp h
  unfold buildFleetCapacitySnapshot
  dsimp only
  rw [hnone, poolTotals_free]
  exact ⟨rfl, add_zero _⟩

/-- With nothing on its way, demand drives a launch where the capacity is short of it or it takes
the idle slots. -/
theorem demandDriven_iff {inp : FleetReading} (hpending : 0 < inp.effectivePending)
    (hprov : inp.provisioningWorkspaceCapacity = 0) :
    demandDrivenScaleOut auto inp = true ↔
      inp.totalAvailableWorkspaceCapacity < inp.effectivePending ∨
        inp.freeSlots < inp.effectivePending + auto.minIdleSlots := by
  simp only [demandDrivenScaleOut, liveDemand, Bool.and_eq_true, Bool.or_eq_true, decide_eq_true_eq]
  constructor
  · rintro ⟨-, (h | ⟨h, -⟩) | ⟨⟨-, h⟩, -⟩⟩
    · exact .inl h
    · exact .inl (h ▸ hpending)
    · exact .inr (by omega)
  · rintro (h | h)
    · exact ⟨.inl hpending, .inl (.inl h)⟩
    · exact ⟨.inl hpending, .inr ⟨⟨hpending, by omega⟩, hprov⟩⟩

/-- **When a launch is recommended for a fleet without room**: with demand pending, no ready node
that takes a default workspace and no EC2 node on its way, exactly if the ready nodes together
are short. -/
theorem scaleOut_iff_short (rawRecent : Nat) (rest : FleetReading)
    (hpending : 0 < effectivePendingDemandWorkspaceUnits db
      (buildFleetCapacitySnapshot pool caps req db rawRecent))
    (hfit : anyReadySchedulableNodeCanFitDefaultWorkspace pool caps db req = false)
    (hprov : countEc2ProvisioningNodes db = 0) :
    scaleOutRecommended auto db.fleet (fleetReading pool caps req db rawRecent rest) = true ↔
      FleetShort pool auto caps req db (effectivePendingDemandWorkspaceUnits db
        (buildFleetCapacitySnapshot pool caps req db rawRecent)) := by
  generalize hinp : fleetReading pool caps req db rawRecent rest = inp
  obtain ⟨hprovided, htotal⟩ := snapshot_of_no_provisioning pool caps req rawRecent hprov
  obtain ⟨hfree, hcpu, -, -⟩ := snapshot_free pool caps req db rawRecent
  have hpos : 0 < inp.effectivePending := by
    rw [← hinp]
    exact Int.ofNat_lt.mpr hpending
  have hpend : inp.effectivePending = (effectivePendingDemandWorkspaceUnits db
      (buildFleetCapacitySnapshot pool caps req db rawRecent) : Int) := by rw [← hinp]; rfl
  have hslots : inp.freeSlots = (poolFree pool caps db).1 := by
    rw [← hinp]
    exact hfree
  have htotal : inp.totalAvailableWorkspaceCapacity =
      workspaceSlotsFromFreeResources req (poolFree pool caps db) := by
    rw [← hinp]
    exact htotal
  have hnofit : inp.existingNodeCanFit = false := by
    rw [← hinp]
    exact hfit
  have hreasons : inp.capacityInsufficient = true ↔ capacityInsufficientForOneWorkspace req
      (buildFleetCapacitySnapshot pool caps req db rawRecent) ≠ [] := by
    rw [← hinp]
    exact decide_eq_true_iff
  have hready : inp.readySchedulableNodes = ((readyNodes pool db).length : Int) := by
    rw [← hinp]
    rfl
  have hprovided : inp.provisioningWorkspaceCapacity = 0 := by
    rw [← hinp]
    exact hprovided
  have hlive : liveDemand inp = true := by simp [liveDemand, hpos]
  unfold scaleOutRecommended FleetShort
  rw [← hpend, hlive, hnofit, Bool.true_and, Bool.or_eq_true, demandDriven_iff hpos hprovided, htotal,
    workspaceSlots_lt_iff hpos, hslots, Bool.not_false, Bool.true_and]
  unfold schedulablePoolExhaustedOrMissing
  rw [Bool.and_eq_true, hreasons, Bool.or_eq_true]
  constructor
  · rintro ((h | h) | ⟨h, -⟩)
    · exact .inl h
    · exact .inr (.inl h)
    · rcases short_of_insufficient hpos h with h | h | h
      · exact .inl h
      · exact .inr (.inr (.inl h))
      · exact .inr (.inr (.inr h))
  · rintro (h | h | h)
    · exact .inl (.inl h)
    · exact .inl (.inr h)
    · by_cases hnodes : readyNodes pool db = []
      · refine .inl (.inl (.inl ?_))
        rw [poolFree_of_no_nodes hnodes]
        exact hpos
      · refine .inr ⟨?_, .inl (decide_eq_true ?_)⟩
        · rw [capacityInsufficient_iff, hfree, hcpu]
          exact h.elim .inl fun h => .inr (.inl h)
        · rw [hready]
          exact Int.ofNat_lt.mpr (List.length_pos_of_ne_nil hnodes)

/-- A queued job of a type that asks for a place is pending demand. -/
theorem pending_of_queued (rawRecent : Nat) (h : 0 < countQueuedJobs db (·.isPlacementDemand)) :
    0 < effectivePendingDemandWorkspaceUnits db
      (buildFleetCapacitySnapshot pool caps req db rawRecent) := by
  have hjobs : (buildFleetCapacitySnapshot pool caps req db rawRecent).pendingPlacementJobs =
      countQueuedJobs db (·.isPlacementDemand) := rfl
  unfold effectivePendingDemandWorkspaceUnits
  rw [hjobs, decide_eq_false h.ne', Bool.and_false, Bool.false_and, if_neg Bool.false_ne_true]
  omega

/-- Without multi-node scheduling the pool is one node at most. -/
theorem readyNodes_of_single (h : pool.devnestEnableMultiNodeScheduling = false)
    {e e' : Nat × ExecutionNode} (he : e ∈ readyNodes pool db) (he' : e' ∈ readyNodes pool db) :
    e.1 = e'.1 := by
  have hle : ∀ {a b : Nat × ExecutionNode}, a ∈ readyNodes pool db → b ∈ readyNodes pool db →
      a.1 ≤ b.1 := by
    intro a b ha hb
    obtain ⟨-, ha⟩ := List.mem_filter.mp ha
    obtain ⟨hb, hbase⟩ := List.mem_filter.mp hb
    obtain ⟨x, hx, rfl⟩ := List.mem_map.mp hb
    simp only [schedulableBase, singleNodePrimaryIdClause, h, Bool.false_or, Bool.and_eq_true,
      List.all_eq_true] at ha hbase
    have := ha.1.2 x hx
    rw [hbase.1.1] at this
    simpa using this
  exact le_antisymm (hle he he') (hle he' he)

theorem readyNodes_single (h : pool.devnestEnableMultiNodeScheduling = false) :
    readyNodes pool db = [] ∨ ∃ e, readyNodes pool db = [e] := by
  have hids : ((readyNodes pool db).map Prod.fst).Nodup := by
    have hkeys : ((db.executionNodes.entries.map fun e => (e.1, e.2)).map Prod.fst).Nodup := by
      rw [List.map_map]
      exact db.executionNodes.nodupKeys
    exact hkeys.sublist (List.filter_sublist.map Prod.fst)
  cases hl : readyNodes pool db with
  | nil => exact .inl rfl
  | cons a l =>
      cases l with
      | nil => exact .inr ⟨a, rfl⟩
      | cons b l =>
          have hsame : a.1 = b.1 := readyNodes_of_single h
            (by rw [hl]; exact List.mem_cons_self)
            (by rw [hl]; exact List.mem_cons_of_mem a List.mem_cons_self)
          rw [hl, List.map_cons, List.map_cons, hsame] at hids
          exact absurd List.mem_cons_self (List.nodup_cons.mp hids).1

/-- In a pool of one node nothing is hidden: where that node has no room the sums are short. -/
theorem fleetShort_of_single (h : pool.devnestEnableMultiNodeScheduling = false) {n : Int}
    (hn : 0 < n) (hfit : anyReadySchedulableNodeCanFitDefaultWorkspace pool caps db req = false) :
    FleetShort pool auto caps req db n := by
  unfold FleetShort
  dsimp only
  have hnone : poolFree pool caps db = 0 → ShortOf req (poolFree pool caps db) n := by
    intro hzero
    rw [hzero]
    exact .inl hn
  rcases readyNodes_single h with hnil | ⟨e, hone⟩
  · exact .inl (hnone (poolFree_of_no_nodes hnil))
  unfold anyReadySchedulableNodeCanFitDefaultWorkspace at hfit
  rw [hone, List.any_cons, List.any_nil, Bool.or_false] at hfit
  by_cases hkey : strip e.2.nodeKey = ""
  · refine .inl (hnone ?_)
    unfold poolFree
    rw [hone, List.filter_cons_of_neg (by simpa using hkey)]
    rfl
  have hfree : poolFree pool caps db = freeOnNode caps db e := by
    unfold poolFree
    rw [hone, List.filter_cons_of_pos (by simpa using hkey), List.filter_nil, List.map_cons,
      List.map_nil, List.sum_cons, List.sum_nil, add_zero]
  rw [hfree]
  rw [decide_eq_true hkey, Bool.true_and] at hfit
  obtain ⟨-, hcpu0, hmem0, hdisk0⟩ := freeOnNode_nonneg caps db e
  by_cases hslots : (freeOnNode caps db e).1 < req.requestedSlots
  · exact .inr (.inr (.inl hslots))
  by_cases hmem : (freeOnNode caps db e).2.2.1 < req.requestedMemoryMb
  · exact .inl (.inr (.inr (.inl (short_of_one hmem0 hn hmem))))
  by_cases hdisk : (freeOnNode caps db e).2.2.2 < req.requestedDiskMb
  · exact .inl (.inr (.inr (.inr (short_of_one hdisk0 hn hdisk))))
  by_cases hcpu : (freeOnNode caps db e).2.1 < req.requestedCpu
  · have hneed : 0 < req.requestedCpu := hcpu0.trans_lt hcpu
    have hone : (1 : ℚ) ≤ n := by exact_mod_cast hn
    exact .inl (.inr (.inl ⟨hneed, hcpu.trans_le (le_mul_of_one_le_left hneed.le hone)⟩))
  simp [not_lt.mp hslots, not_lt.mp hmem, not_lt.mp hdisk, not_lt.mp hcpu] at hfit

end Decision

/-! ## Two half nodes -/

/-- Two ready nodes, and a workspace that waits for its first container. -/
def halfNodesDb : Db where
  workspaces := (∅ : Table Nat Workspace).insert 1 { ownerUserId := 1, status := .creating }
  jobs := (∅ : Table Nat WorkspaceJob).insert 1
    { workspaceId := 1, jobType := .create, requestedByUserId := 1, requestedConfigVersion := 1
      createdAt := 0 }
  executionNodes := ((∅ : Table Nat ExecutionNode).insert 1
    { nodeKey := "node-1", providerType := "ec2" }).insert 2
      { nodeKey := "node-2", providerType := "ec2" }

theorem halfCore_nonneg : (0 : ℚ) ≤ 1 / 2 := by norm_num

/-- Half a core is left on each. -/
def halfNodeCaps : Table String NodeCapacity :=
  ((∅ : Table String NodeCapacity).insert "node-1" ⟨1, 1 / 2, 1024, 8192, halfCore_nonneg⟩).insert
    "node-2" ⟨1, 1 / 2, 1024, 8192, halfCore_nonneg⟩

def everyNode : PoolSettings where
  devnestEnableMultiNodeScheduling := true

def cores (cpu : ℚ) : WorkspaceComputeRequest where
  requestedCpu := cpu
  requestedMemoryMb := 512
  requestedDiskMb := 4096

/-- Two half cores add up to the one that is asked for: the queued job has no node, and no launch
is recommended. -/
theorem half_nodes_hide_shortage :
    0 < countQueuedJobs halfNodesDb (·.isPlacementDemand) ∧
      0 < effectivePendingDemandWorkspaceUnits halfNodesDb
        (buildFleetCapacitySnapshot everyNode halfNodeCaps (cores 1) halfNodesDb 0) ∧
      anyReadySchedulableNodeCanFitDefaultWorkspace everyNode halfNodeCaps halfNodesDb (cores 1) =
        false ∧
      countEc2ProvisioningNodes halfNodesDb = 0 ∧
      scaleOutRecommended {} halfNodesDb.fleet
        (fleetReading everyNode halfNodeCaps (cores 1) halfNodesDb 0 {}) = false := by
  decide +kernel

/-- Of two cores the halves are short, and the launch is recommended. -/
theorem half_nodes_short_of_two_cores :
    scaleOutRecommended {} halfNodesDb.fleet
      (fleetReading everyNode halfNodeCaps (cores 2) halfNodesDb 0 {}) = true := by
  refine (scaleOut_iff_short 0 {} (by decide +kernel) (by decide +kernel)
    (by decide +kernel)).mpr (.inl (.inr (.inl ⟨?_, ?_⟩)))
  · exact two_pos
  · show (poolFree everyNode halfNodeCaps halfNodesDb).2.1 < _
    decide +kernel

end Devnest
