import Devnest.FleetNodes
import Devnest.Steps

/-!
# The autoscaler

One evaluation of the fleet ends in an action: to launch one node, to give
one back, to hold still, or to hold back what was recommended. The rollup of
free and pending capacity and the ages of the rows are inputs; the two counts
the caps are about come from the rows.
-/

namespace Devnest

open PyText

/-! ## Counting nodes -/

/-- `_ACTIVE_EC2_NODE_STATUSES`. -/
def NodeStatus.isActive : NodeStatus → Bool
  | provisioning | ready | notReady | draining | terminating | error => true
  | terminated => false

def FleetNode.isActiveEc2 (r : FleetNode) : Bool :=
  r.providerType = .ec2 && r.status.isActive

def FleetNode.isProvisioningEc2 (r : FleetNode) : Bool :=
  r.providerType = .ec2 && r.status = .provisioning

/-- `ec2_nodes_active` of the rollup, and `_active_ec2_nodes_count`. -/
def ec2NodesActive (nodes : Fleet) : Nat := Table.rowCount FleetNode.isActiveEc2 nodes

/-- `provisioning_nodes` of the rollup. -/
def provisioningNodes (nodes : Fleet) : Nat := Table.rowCount FleetNode.isProvisioningEc2 nodes

/-! ## The evaluation -/

structure AutoscalerSettings where
  enabled : Bool := true
  evaluateOnly : Bool := false
  minNodes : Int := 1
  maxNodes : Int := 10
  minIdleSlots : Int := 1
  maxConcurrentProvisioning : Int := 3
  scaleOutCooldownSeconds : Int := 300
  scaleInCooldownSeconds : Int := 900
  suppressScaleOutRecentProvisionSeconds : Int := 60
  provisionOnNoCapacity : Bool := false
  devnestNodeProvider : String := "all"

/-- What an evaluation draws from the other rows and from the clock. Ages are in
microseconds. -/
structure FleetReading where
  effectivePending : Int := 0
  pendingWorkspaceJobs : Int := 0
  freeSlots : Int := 0
  readySchedulableNodes : Int := 0
  readySchedulableEc2Nodes : Int := 0
  provisioningWorkspaceCapacity : Int := 0
  totalAvailableWorkspaceCapacity : Int := 0
  /-- `_capacity_insufficient_for_one_workspace` has reasons. -/
  capacityInsufficient : Bool := false
  existingNodeCanFit : Bool := false
  /-- `ec2_autoscaler_provisioning_config_errors` has entries. -/
  hasConfigErrors : Bool := false
  /-- `evaluate_scale_down(session).node_key`. -/
  scaleDownNodeKey : Option String := none
  youngestActiveEc2Age : Option Int := none
  latestEc2CreatedAge : Option Int := none
  latestEc2ScaleInAge : Option Int := none

inductive AutoscalerAction where
  | suppressedByConfig | suppressedByCap | suppressedByRecentProvisioning | suppressedByCooldown
  | scaleOutRecommended | scaleInRecommended | noAction
  deriving DecidableEq, Repr

/-- What holds a recommendation back. -/
structure Suppression where
  byConfig : Bool := false
  byCap : Bool := false
  byRecentProvisioning : Bool := false
  byCooldown : Bool := false
  deriving DecidableEq, Repr

/-- `FleetAutoscalerDecision`, as far as a caller acts on it. -/
structure FleetAutoscalerDecision where
  action : AutoscalerAction
  scaleDownNodeKey : Option String
  deriving DecidableEq, Repr

section Evaluation

variable (auto : AutoscalerSettings) (nodes : Fleet) (inp : FleetReading)

def liveDemand : Bool := 0 < inp.effectivePending || 0 < inp.pendingWorkspaceJobs

def schedulablePoolExhaustedOrMissing : Bool :=
  inp.capacityInsufficient &&
    (0 < inp.readySchedulableNodes ||
      (0 < ec2NodesActive nodes && inp.readySchedulableEc2Nodes = 0 && provisioningNodes nodes = 0))

def demandDrivenScaleOut : Bool :=
  let idleBufferViolation := 0 < inp.effectivePending &&
    inp.freeSlots - inp.effectivePending < auto.minIdleSlots && inp.provisioningWorkspaceCapacity = 0
  liveDemand inp &&
    (inp.totalAvailableWorkspaceCapacity < inp.effectivePending ||
      (inp.totalAvailableWorkspaceCapacity = 0 && 0 < inp.effectivePending) || idleBufferViolation)

def scaleOutRecommended : Bool :=
  liveDemand inp &&
    (demandDrivenScaleOut auto inp ||
      (!inp.existingNodeCanFit && schedulablePoolExhaustedOrMissing nodes inp))

/-- `bool(scale_down.node_key)`. -/
def scaleInRecommended : Bool := inp.scaleDownNodeKey.any (· ≠ "")

/-- A time that lies less than `seconds` back. -/
def youngerThan (age : Option Int) (seconds : Int) : Bool :=
  age.any fun a => 0 ≤ a && a < 1000000 * seconds

def ec2Allowed : Bool :=
  lower (strip (orText auto.devnestNodeProvider "all")) ∈ ["all", "ec2"]

def scaleOutSuppression : Suppression where
  byConfig := !auto.enabled || auto.evaluateOnly || !ec2Allowed auto || inp.hasConfigErrors
  byCap := auto.maxNodes ≤ ec2NodesActive nodes ||
    auto.maxConcurrentProvisioning ≤ provisioningNodes nodes
  byRecentProvisioning := 0 < auto.suppressScaleOutRecentProvisionSeconds &&
    inp.youngestActiveEc2Age.any fun age =>
      age < 1000000 * auto.suppressScaleOutRecentProvisionSeconds
  byCooldown := youngerThan inp.latestEc2CreatedAge auto.scaleOutCooldownSeconds

def scaleInSuppression : Suppression where
  byConfig := !auto.enabled || auto.evaluateOnly
  byCap := ec2NodesActive nodes ≤ auto.minNodes
  byCooldown := youngerThan inp.latestEc2ScaleInAge auto.scaleInCooldownSeconds

def suppression : Suppression :=
  if scaleOutRecommended auto nodes inp then scaleOutSuppression auto nodes inp
  else if scaleInRecommended inp then scaleInSuppression auto nodes inp
  else {}

/-- `evaluate_fleet_autoscaler_tick`. -/
def evaluateFleetAutoscalerTick : FleetAutoscalerDecision :=
  let held := suppression auto nodes inp
  { action :=
      if held.byConfig then .suppressedByConfig
      else if held.byCap then .suppressedByCap
      else if held.byRecentProvisioning then .suppressedByRecentProvisioning
      else if held.byCooldown then .suppressedByCooldown
      else if scaleOutRecommended auto nodes inp then .scaleOutRecommended
      else if scaleInRecommended inp then .scaleInRecommended
      else .noAction
    scaleDownNodeKey := inp.scaleDownNodeKey }

end Evaluation

/-- **The caps of one evaluation**: a launch is recommended only below both of them. -/
theorem scaleOut_below_caps {auto : AutoscalerSettings} {nodes : Fleet} {inp : FleetReading}
    (h : (evaluateFleetAutoscalerTick auto nodes inp).action = .scaleOutRecommended) :
    (ec2NodesActive nodes : Int) < auto.maxNodes ∧
      (provisioningNodes nodes : Int) < auto.maxConcurrentProvisioning := by
  unfold evaluateFleetAutoscalerTick at h
  dsimp only at h
  split at h
  · cases h
  split at h
  · cases h
  rename_i hcap
  split at h
  · cases h
  split at h
  · cases h
  split at h
  · rename_i hout
    simp only [suppression, hout, if_true, scaleOutSuppression, Bool.or_eq_true, decide_eq_true_eq,
      not_or, not_le] at hcap
    exact hcap
  split at h <;> cases h

/-! ## A launch -/

/-- What a launch comes back with: the key it was given, and the instance's id and region. -/
structure LaunchInput where
  /-- `_autoscaler_node_key`. -/
  nodeKey : String
  executionMode : Option String := none
  /-- `RunInstances`, the wait until the instance runs, and what may fail around them. -/
  launched : Except NodeError (String × String)

/-- `_require_free_node_key`. -/
def requireFreeNodeKey (nodes : Fleet) (nodeKey : String) : Except NodeError Unit :=
  match fleetByKey nodes nodeKey with
  | some _ => .error (.nodeLifecycle ("node_key " ++ PyText.repr nodeKey ++ " already exists"))
  | none => .ok ()

/-- The row of `provision_ec2_node`. -/
def provisionedRow (cfg : FleetSettings) (key : String) (executionMode : Option String)
    (iid region : String) : FleetNode where
  nodeKey := key
  providerInstanceId := some iid
  region := some region
  executionMode := registeredMode cfg executionMode
  status := .provisioning
  schedulable := false
  defaultTopologyId := some cfg.systemDefaultTopologyId

/-- `provision_ec2_node` for a request that names its key. -/
def provisionEc2Node (cfg : FleetSettings) (nodes : Fleet) (inp : LaunchInput) :
    Except NodeError FleetNode := do
  let key := strip inp.nodeKey
  requireFreeNodeKey nodes key
  let (iid, region) ← inp.launched
  return provisionedRow cfg key inp.executionMode iid region

theorem provisionEc2Node_ok {cfg : FleetSettings} {nodes : Fleet} {inp : LaunchInput}
    {row : FleetNode} (h : provisionEc2Node cfg nodes inp = .ok row) :
    row.isActiveEc2 = true ∧ row.isProvisioningEc2 = true := by
  unfold provisionEc2Node at h
  obtain ⟨-, -, h⟩ := bind_eq_ok.mp h
  obtain ⟨⟨iid, region⟩, -, h⟩ := bind_eq_ok.mp h
  rw [← Except.ok.inj h]
  exact ⟨rfl, rfl⟩

end Devnest
