import Devnest.Autoscaler
import Devnest.Runs
import Mathlib.Tactic.NormNum

/-!
# The cap on the fleet

Scale-out transactions side by side. A tick reconciles the nodes that are
not ready yet and then evaluates; a worker whose job found no node evaluates
at once. Either may launch one node, and what it has written, the new row
included, is seen by the others only when it commits, after the instance
runs.

`node_cap_holds` needs of every launch that the caps have room for the
launches already under way, and of every tick that the nodes it sends back
to `PROVISIONING` have room too.
-/

namespace Devnest

open PyText Runs

/-! ## What a session writes -/

/-- A row that a session has changed or added: as it was loaded, and as it is now. -/
structure RowWrite where
  key : Nat
  loaded : Option FleetNode
  row : FleetNode

/-- The rows of a session that differ from those it loaded. -/
def rowWrites (loaded session : Fleet) : List RowWrite :=
  session.entries.filterMap fun e =>
    if loaded.lookup e.1 = some e.2 then none else some ⟨e.1, loaded.lookup e.1, e.2⟩

/-- A column after an `UPDATE` that names it only when it was changed. -/
def writeColumn {α : Type} [DecidableEq α] (loaded new current : α) : α :=
  if new = loaded then current else new

/-- The `UPDATE` of one row; `metadata_json` is one column. -/
def updateRow (loaded new current : FleetNode) : FleetNode :=
  let metadata := writeColumn (loaded.heartbeat, loaded.ec2State, loaded.catalogOnly,
    loaded.catalogEc2Stub) (new.heartbeat, new.ec2State, new.catalogOnly, new.catalogEc2Stub)
    (current.heartbeat, current.ec2State, current.catalogOnly, current.catalogEc2Stub)
  { nodeKey := writeColumn loaded.nodeKey new.nodeKey current.nodeKey
    providerType := writeColumn loaded.providerType new.providerType current.providerType
    providerInstanceId := writeColumn loaded.providerInstanceId new.providerInstanceId
      current.providerInstanceId
    region := writeColumn loaded.region new.region current.region
    executionMode := writeColumn loaded.executionMode new.executionMode current.executionMode
    status := writeColumn loaded.status new.status current.status
    schedulable := writeColumn loaded.schedulable new.schedulable current.schedulable
    resourceStatus := writeColumn loaded.resourceStatus new.resourceStatus current.resourceStatus
    lastHeartbeatAt := writeColumn loaded.lastHeartbeatAt new.lastHeartbeatAt
      current.lastHeartbeatAt
    heartbeat := metadata.1
    ec2State := metadata.2.1
    catalogOnly := metadata.2.2.1
    catalogEc2Stub := metadata.2.2.2
    defaultTopologyId := writeColumn loaded.defaultTopologyId new.defaultTopologyId
      current.defaultTopologyId
    lastErrorCode := writeColumn loaded.lastErrorCode new.lastErrorCode current.lastErrorCode
    lastErrorMessage := writeColumn loaded.lastErrorMessage new.lastErrorMessage
      current.lastErrorMessage }

def RowWrite.flush (nodes : Fleet) (w : RowWrite) : Fleet :=
  match w.loaded with
  | none => nodes.insert (Table.freshKey nodes) w.row
  | some loaded =>
      match nodes.lookup w.key with
      | none => nodes
      | some current => nodes.insert w.key (updateRow loaded w.row current)

/-! ## Transactions -/

inductive ScaleOutPhase where
  | evaluating | launching | closing
  deriving DecidableEq, Repr

structure ScaleOutTx where
  /-- Opened by `maybe_provision_on_no_schedulable_capacity`, which swallows a failed launch. -/
  fromJob : Bool
  writes : List RowWrite := []
  phase : ScaleOutPhase := .evaluating

/-- The rows the transaction sees: the committed ones under its own writes. -/
def ScaleOutTx.view (tx : ScaleOutTx) (nodes : Fleet) : Fleet := tx.writes.foldl RowWrite.flush nodes

structure ScaleOutState where
  committed : Fleet
  opened : Table Nat ScaleOutTx := ∅

inductive ScaleOutStep where
  /-- `run_scale_out_tick` up to its evaluation. -/
  | tick (t : Nat) (answers : Nat → SyncInput)
  /-- `maybe_provision_on_no_schedulable_capacity` up to its evaluation. -/
  | noCapacity (t : Nat)
  | evaluate (t : Nat) (inp : FleetReading)
  /-- The launch ends, if there is one, and the caller commits. -/
  | finish (t : Nat) (inp : LaunchInput)
  | rollback (t : Nat)

section Steps

variable (cfg : FleetSettings) (auto : AutoscalerSettings)

def ScaleOutTx.evaluated (tx : ScaleOutTx) (nodes : Fleet) (inp : FleetReading) : ScaleOutTx :=
  if (evaluateFleetAutoscalerTick auto (tx.view nodes) inp).action = .scaleOutRecommended then
    { tx with phase := .launching }
  else { tx with phase := .closing }

/-- The rows after the transaction: a tick is undone by a launch that fails. -/
def ScaleOutTx.result (tx : ScaleOutTx) (nodes : Fleet) (inp : LaunchInput) : Fleet :=
  let view := tx.view nodes
  if tx.phase = .launching then
    match provisionEc2Node cfg view inp with
    | .ok row => view.insert (Table.freshKey view) row
    | .error _ => if tx.fromJob then view else nodes
  else view

def scaleOutStep (st : ScaleOutState) : ScaleOutStep → ScaleOutState
  | .tick t answers =>
      if (st.opened.lookup t).isSome then st
      else
        let writes := rowWrites st.committed (syncProvisioningEc2Nodes cfg answers st.committed)
        { st with opened := st.opened.insert t { fromJob := false, writes := writes } }
  | .noCapacity t =>
      if (st.opened.lookup t).isSome || !auto.enabled || !auto.provisionOnNoCapacity then st
      else { st with opened := st.opened.insert t { fromJob := true } }
  | .evaluate t inp =>
      match st.opened.lookup t with
      | none => st
      | some tx =>
          if tx.phase ≠ .evaluating then st
          else { st with opened := st.opened.insert t (tx.evaluated auto st.committed inp) }
  | .finish t inp =>
      match st.opened.lookup t with
      | none => st
      | some tx =>
          if tx.phase = .evaluating then st
          else { committed := tx.result cfg st.committed inp, opened := st.opened.erase t }
  | .rollback t => { st with opened := st.opened.erase t }

end Steps

/-! ## The law and its condition -/

/-- The write makes a node `PROVISIONING` that was not. -/
def RowWrite.sendsBack (w : RowWrite) : Bool :=
  w.row.isProvisioningEc2 && !w.loaded.any FleetNode.isProvisioningEc2

def ScaleOutTx.sentBack (tx : ScaleOutTx) : Nat := tx.writes.countP RowWrite.sendsBack

def ScaleOutTx.launches (tx : ScaleOutTx) : Nat := if tx.phase = .launching then 1 else 0

/-- Launches under way. -/
def ScaleOutState.launches (st : ScaleOutState) : Nat :=
  Table.total (fun _ tx => tx.launches) st.opened

/-- Nodes that open transactions have sent back to `PROVISIONING`. -/
def ScaleOutState.sentBack (st : ScaleOutState) : Nat :=
  Table.total (fun _ tx => tx.sentBack) st.opened

/-- Every row has a trimmed key and an instance of its own. -/
def tidy (nodes : Fleet) : Bool :=
  nodes.entries.all fun e =>
    strip e.2.nodeKey = e.2.nodeKey && e.2.nodeKey ≠ "" &&
      nodes.entries.all fun e' => e'.1 = e.1 ||
        (e'.2.nodeKey ≠ e.2.nodeKey &&
          (stripOr e.2.providerInstanceId = "" ||
            stripOr e'.2.providerInstanceId ≠ stripOr e.2.providerInstanceId))

def GateResult.isFailure : GateResult → Bool
  | failed _ => true
  | passed | crashed => false

section Condition

variable (cfg : FleetSettings) (auto : AutoscalerSettings)

/-- The sync of this node will find it running, and its promotion gate will fail. -/
def sendsBack (inp : SyncInput) (r : FleetNode) : Bool :=
  r.providerType = .ec2 && r.status = .notReady && !r.catalogEc2Stub &&
    inp.promoteProvisioningWhenReady && isInstanceId (stripOr r.providerInstanceId) &&
    match inp.describe, inp.describeAgain with
    | .ok found, .ok again =>
        let seen := registerRow cfg (stripOr r.providerInstanceId) (strip r.nodeKey)
          (registeredMode cfg (some r.executionMode.value)) false found r
        again.state = "running" && seen.executionMode = .ssmDocker &&
          (runSsmReadyGate cfg inp.ssm seen).isFailure
    | _, _ => false

/-- One more launch stays below the caps, whatever the open transactions still commit: either
nothing else is under way, or there is room for that as well. -/
def launchFits (st : ScaleOutState) (tx : ScaleOutTx) : Bool :=
  (st.launches = 0 || ec2NodesActive st.committed + st.launches < auto.maxNodes) &&
    ((st.launches = 0 && st.sentBack = tx.sentBack) ||
      provisioningNodes st.committed + st.sentBack + st.launches < auto.maxConcurrentProvisioning)

/-- The nodes a tick sends back stay below the cap beside what is under way. -/
def sendingBackFits (st : ScaleOutState) (answers : Nat → SyncInput) : Bool :=
  let back := Table.entryCount (fun k r => sendsBack cfg (answers k) r) st.committed
  back = 0 || provisioningNodes st.committed + st.sentBack + st.launches + back ≤
    auto.maxConcurrentProvisioning

def leavesRoom (st : ScaleOutState) : ScaleOutStep → Bool
  | .tick t answers => (st.opened.lookup t).isSome ||
      (tidy st.committed && sendingBackFits cfg auto st answers)
  | .evaluate t inp => (st.opened.lookup t).all fun tx =>
      tx.phase ≠ .evaluating ||
        (evaluateFleetAutoscalerTick auto (tx.view st.committed) inp).action ≠
          .scaleOutRecommended || launchFits auto st tx
  | .noCapacity _ | .finish _ _ | .rollback _ => true

/-- Neither count is above its cap, unless it was from the beginning. -/
def WithinCaps (initial : Fleet) (st : ScaleOutState) : Prop :=
  (ec2NodesActive st.committed : Int) ≤ max auto.maxNodes (ec2NodesActive initial) ∧
    (provisioningNodes st.committed : Int) ≤
      max auto.maxConcurrentProvisioning (provisioningNodes initial)

end Condition

/-! ## The reconciliation of a tick -/

section Sync

variable {cfg : FleetSettings} {nodes : Fleet} {k : Nat} {r : FleetNode}

theorem tidy_iff : tidy nodes = true ↔ ∀ k r, nodes.lookup k = some r →
    (strip r.nodeKey = r.nodeKey ∧ r.nodeKey ≠ "") ∧
      ∀ k' r', nodes.lookup k' = some r' → k' ≠ k → r'.nodeKey ≠ r.nodeKey ∧
        (stripOr r.providerInstanceId ≠ "" →
          stripOr r'.providerInstanceId ≠ stripOr r.providerInstanceId) := by
  simp only [tidy, List.all_eq_true, Bool.and_eq_true, Bool.or_eq_true, decide_eq_true_eq]
  constructor
  · intro h k r hr
    obtain ⟨hkey, hothers⟩ := h ⟨k, r⟩ (AList.mem_lookup_iff.mp hr)
    refine ⟨hkey, fun k' r' hr' hne => ?_⟩
    rcases hothers ⟨k', r'⟩ (AList.mem_lookup_iff.mp hr') with heq | ⟨hk, hid⟩
    · exact absurd heq hne
    · exact ⟨hk, fun hid' => hid.resolve_left hid'⟩
  · intro h e he
    obtain ⟨hkey, hothers⟩ := h e.1 e.2 (AList.mem_lookup_iff.mpr he)
    refine ⟨hkey, fun e' he' => ?_⟩
    by_cases heq : e'.1 = e.1
    · exact .inl heq
    · obtain ⟨hk, hid⟩ := hothers e'.1 e'.2 (AList.mem_lookup_iff.mpr he') heq
      exact .inr ⟨hk, by tauto⟩

/-- The row a key finds is the row that has it. -/
theorem fleetByKey_self (ht : tidy nodes = true) (hr : nodes.lookup k = some r) :
    fleetByKey nodes r.nodeKey = some (k, r) := by
  unfold fleetByKey
  cases hfind : nodes.entries.find? fun e => decide (e.2.nodeKey = r.nodeKey) with
  | none =>
      have hnot := List.find?_eq_none.mp hfind ⟨k, r⟩ (AList.mem_lookup_iff.mp hr)
      exact absurd (decide_eq_true rfl) hnot
  | some e =>
      have hkey : e.2.nodeKey = r.nodeKey := by simpa using List.find?_some hfind
      have hmem := AList.mem_lookup_iff.mpr (List.mem_of_find?_eq_some hfind)
      by_cases heq : e.1 = k
      · obtain rfl : e.2 = r := Option.some.inj (hmem.symm.trans (heq ▸ hr))
        rw [Option.map_some, heq]
      · exact absurd hkey ((tidy_iff.mp ht k r hr).2 e.1 e.2 hmem heq).1

/-- No other row has the instance. -/
theorem fleetByInstanceId_self (ht : tidy nodes = true) (hr : nodes.lookup k = some r)
    (hid : stripOr r.providerInstanceId ≠ "") :
    fleetByInstanceId nodes (stripOr r.providerInstanceId) = none ∨
      fleetByInstanceId nodes (stripOr r.providerInstanceId) = some (k, r) := by
  unfold fleetByInstanceId
  cases hfind : nodes.entries.find? fun e =>
      decide (e.2.providerInstanceId = some (stripOr r.providerInstanceId)) with
  | none => exact .inl rfl
  | some e =>
      refine .inr ?_
      have hpid : e.2.providerInstanceId = some (stripOr r.providerInstanceId) := by
        simpa using List.find?_some hfind
      have hmem := AList.mem_lookup_iff.mpr (List.mem_of_find?_eq_some hfind)
      by_cases heq : e.1 = k
      · obtain rfl : e.2 = r := Option.some.inj (hmem.symm.trans (heq ▸ hr))
        rw [Option.map_some, heq]
      · have hne := ((tidy_iff.mp ht k r hr).2 e.1 e.2 hmem heq).2 hid
        have hsame : stripOr e.2.providerInstanceId = stripOr r.providerInstanceId := by
          rw [hpid]
          exact strip_strip _
        exact absurd hsame hne

/-- The registration that a sync makes writes the synced row. -/
theorem registerEc2Instance_self {inp : SyncInput} {nodes' : Fleet} (ht : tidy nodes = true)
    (hr : nodes.lookup k = some r) (hec2 : r.providerType = .ec2)
    (hid : stripOr r.providerInstanceId ≠ "")
    (h : registerEc2Instance cfg nodes
      { instanceId := stripOr r.providerInstanceId, nodeKey := some r.nodeKey
        executionMode := some r.executionMode.value, describe := inp.describe } = .ok nodes') :
    isInstanceId (stripOr r.providerInstanceId) = true ∧ ∃ found, inp.describe = .ok found ∧
      nodes' = nodes.insert k (registerRow cfg (stripOr r.providerInstanceId) (strip r.nodeKey)
        (registeredMode cfg (some r.executionMode.value)) false found r) := by
  obtain ⟨⟨hkey, hkeyne⟩, hothers⟩ := tidy_iff.mp ht k r hr
  have hstrip : strip (stripOr r.providerInstanceId) = stripOr r.providerInstanceId :=
    strip_strip _
  unfold registerEc2Instance at h
  obtain ⟨iid, hiid, h⟩ := bind_eq_ok.mp h
  obtain ⟨found, hfound, h⟩ := bind_eq_ok.mp h
  unfold requireInstanceId at hiid
  dsimp only at hiid hfound
  rw [hstrip] at hiid
  split at hiid
  · rename_i hvalid
    obtain rfl := Except.ok.inj hiid
    have hreg : registeredKey (stripOr r.providerInstanceId) (some r.nodeKey) = r.nodeKey := by
      simp only [registeredKey, stripOr, Option.getD_some, hkey, orText, if_neg hkeyne]
    have htarget : registerTarget nodes (stripOr r.providerInstanceId) r.nodeKey = some (k, r) := by
      unfold registerTarget
      rcases fleetByInstanceId_self ht hr hid with hnone | hsome
      · rw [hnone, Option.none_or]
        exact fleetByKey_self ht hr
      · rw [hsome, Option.some_or]
    have hconflict : keyConflict nodes (stripOr r.providerInstanceId) r.nodeKey = none := by
      unfold keyConflict
      rcases fleetByInstanceId_self ht hr hid with hnone | hsome
      · rw [hnone, fleetByKey_self ht hr]
        simp [hec2]
      · rw [hsome]
    have hfree : (nodes.entries.any fun e => decide (e.1 ≠ k) &&
        decide (e.2.nodeKey = r.nodeKey)) = false := by
      rw [List.any_eq_false]
      intro e he
      simp only [Bool.and_eq_true, decide_eq_true_eq, not_and]
      exact fun hne => (hothers e.1 e.2 (AList.mem_lookup_iff.mpr he) hne).1
    dsimp only at h
    rw [hreg, hconflict, htarget] at h
    dsimp only at h
    rw [hfree, if_neg Bool.false_ne_true] at h
    exact ⟨hvalid, found, hfound, by rw [hkey]; exact (Except.ok.inj h).symm⟩
  · cases hiid

/-- What a sync may do to its row. -/
structure SyncedRow (cfg : FleetSettings) (inp : SyncInput) (r row : FleetNode) : Prop where
  nodeKey : row.nodeKey = r.nodeKey
  sameInstance : stripOr row.providerInstanceId = stripOr r.providerInstanceId
  active : row.isActiveEc2 = true
  back : row.isProvisioningEc2 = true → r.isProvisioningEc2 = true ∨ sendsBack cfg inp r = true

/-- A promotion leaves the key and the instance, and makes a row `PROVISIONING` only when the
SSM gate fails. -/
theorem promoteEc2NodeIfHeartbeatReady_row (cfg : FleetSettings) (inp : PromoteInput)
    (r : FleetNode) :
    let row := (promoteEc2NodeIfHeartbeatReady cfg inp r).1
    row.nodeKey = r.nodeKey ∧ row.providerInstanceId = r.providerInstanceId ∧
      row.providerType = r.providerType ∧
      (row.status = r.status ∨ row.status = .ready ∨
        row.status = .provisioning ∧ r.catalogEc2Stub = false ∧ r.executionMode = .ssmDocker ∧
          (runSsmReadyGate cfg inp.ssm r).isFailure = true) := by
  unfold promoteEc2NodeIfHeartbeatReady
  split
  · exact ⟨rfl, rfl, rfl, .inl rfl⟩
  · rename_i hcand
    split
    · exact ⟨rfl, rfl, rfl, .inr (.inl rfl)⟩
    · rename_i reason hgate
      dsimp only
      split
      · rename_i hmode
        rw [readyGate, if_pos hmode] at hgate
        refine ⟨rfl, rfl, rfl, .inr (.inr ⟨rfl, ?_, hmode, by rw [hgate]; rfl⟩)⟩
        simp only [isCandidate, Bool.not_eq_true, Bool.not_eq_false', Bool.and_eq_true] at hcand
        simpa using hcand.2
      · exact ⟨rfl, rfl, rfl, .inl rfl⟩
    · exact ⟨rfl, rfl, rfl, .inl rfl⟩

theorem promoteSynced_row (cfg : FleetSettings) (inp : SyncInput) (original : NodeStatus)
    (r : FleetNode) :
    let row := (promoteSynced cfg inp original r).1
    row.nodeKey = r.nodeKey ∧ row.providerInstanceId = r.providerInstanceId ∧
      row.providerType = r.providerType ∧
      (row.status = r.status ∨ row.status = original ∨ row.status = .ready ∨
        row.status = .provisioning ∧ inp.promoteProvisioningWhenReady = true ∧
          (∃ again, inp.describeAgain = .ok again ∧ again.state = "running") ∧
          r.catalogEc2Stub = false ∧ r.executionMode = .ssmDocker ∧
          (runSsmReadyGate cfg inp.ssm r).isFailure = true) := by
  unfold promoteSynced
  split
  · exact ⟨rfl, rfl, rfl, .inl rfl⟩
  · rename_i hwanted
    simp only [Bool.or_eq_true, Bool.not_eq_true', not_or, Bool.not_eq_false] at hwanted
    split
    · exact ⟨rfl, rfl, rfl, .inl rfl⟩
    · rename_i again hagain
      split
      · exact ⟨rfl, rfl, rfl, .inl rfl⟩
      · rename_i hstate
        have hstate : again.state = "running" := by simpa using hstate
        dsimp only
        split
        · -- the registration said `READY`: the gate starts from the status before it
          obtain ⟨hkey, hpid, hprov, hst⟩ := promoteEc2NodeIfHeartbeatReady_row cfg
            { now := inp.now, ec2State := some again.state, ssm := inp.ssm }
            { r with status := original, schedulable := false }
          refine ⟨hkey, hpid, hprov, ?_⟩
          rcases hst with hst | hst | ⟨hst, hstub, hmode, hgate⟩
          · exact .inr (.inl hst)
          · exact .inr (.inr (.inl hst))
          · exact .inr (.inr (.inr ⟨hst, hwanted.1, ⟨again, hagain, hstate⟩, hstub, hmode, hgate⟩))
        · obtain ⟨hkey, hpid, hprov, hst⟩ := promoteEc2NodeIfHeartbeatReady_row cfg
            { now := inp.now, ec2State := some again.state, ssm := inp.ssm } r
          refine ⟨hkey, hpid, hprov, ?_⟩
          rcases hst with hst | hst | ⟨hst, hstub, hmode, hgate⟩
          · exact .inl hst
          · exact .inr (.inr (.inl hst))
          · exact .inr (.inr (.inr ⟨hst, hwanted.1, ⟨again, hagain, hstate⟩, hstub, hmode, hgate⟩))

/-- What a registration makes of the status of a node that is not ready yet. -/
theorem registered_status {st : NodeStatus} (h : st.isPromotable = true)
    (found : Ec2InstanceDescription) :
    (computeStatusSchedulableAfterEc2Sync (some st) found).1.isActive = true ∧
      ((computeStatusSchedulableAfterEc2Sync (some st) found).1 = .provisioning →
        st = .provisioning) := by
  cases st with
  | provisioning =>
      unfold computeStatusSchedulableAfterEc2Sync
      dsimp only
      split <;> exact ⟨rfl, fun _ => rfl⟩
  | notReady =>
      unfold computeStatusSchedulableAfterEc2Sync
      dsimp only
      split
      · exact ⟨rfl, fun h => by cases h⟩
      · exact ⟨rfl, fun h => by cases h⟩
  | ready | draining | terminating | terminated | error => cases h

/-- **One turn of the reconciliation** touches the node's own row alone. -/
theorem syncNodeState_row {inp : SyncInput} (ht : tidy nodes = true)
    (hr : nodes.lookup k = some r) (hec2 : r.providerType = .ec2)
    (hprom : r.status.isPromotable = true) :
    (syncNodeState cfg nodes (.byId k) inp).1 = nodes ∨
      ∃ row, (syncNodeState cfg nodes (.byId k) inp).1 = nodes.insert k row ∧
        SyncedRow cfg inp r row := by
  have hget : getNode nodes (.byId k) = .ok (k, r) := by
    simp only [getNode, hr]
  unfold syncNodeState
  rw [hget]
  dsimp only
  rw [if_neg (not_not.mpr hec2)]
  split
  · exact .inl rfl
  · rename_i hid
    split
    · exact .inl rfl
    · rename_i nodes' hreg
      obtain ⟨hvalid, found, hfound, rfl⟩ := registerEc2Instance_self ht hr hec2 hid hreg
      rw [AList.lookup_insert]
      dsimp only
      refine .inr ⟨_, AList.insert_insert .., ?_⟩
      set seen := registerRow cfg (stripOr r.providerInstanceId) (strip r.nodeKey)
        (registeredMode cfg (some r.executionMode.value)) false found r with hseen
      obtain ⟨hkey, hpid, hprov, hst⟩ := promoteSynced_row cfg inp r.status seen
      obtain ⟨hactive, hback⟩ := registered_status hprom found
      have hseenSt : seen.status =
        (computeStatusSchedulableAfterEc2Sync (some r.status) found).1 := rfl
      constructor
      · rw [hkey]
        exact (tidy_iff.mp ht k r hr).1.1
      · rw [hpid]
        exact strip_strip _
      · have hact : (promoteSynced cfg inp r.status seen).1.status.isActive = true := by
          rcases hst with hst | hst | hst | ⟨hst, -⟩
          · rw [hst, hseenSt]
            exact hactive
          · rw [hst]
            cases hrs : r.status <;> rw [hrs] at hprom <;> first | rfl | cases hprom
          · rw [hst]
            rfl
          · rw [hst]
            rfl
        simp only [FleetNode.isActiveEc2, hprov, hact, Bool.and_true, decide_eq_true_eq]
        rfl
      · intro hp
        simp only [FleetNode.isProvisioningEc2, Bool.and_eq_true, decide_eq_true_eq] at hp
        have hout : r.status = .provisioning ∨ sendsBack cfg inp r = true := by
          rcases hst with hst | hst | hst | ⟨-, hwanted, ⟨again, hagain, hstate⟩, hstub, hmode, hgate⟩
          · exact .inl (hback (by rw [← hseenSt, ← hst]; exact hp.2))
          · exact .inl (by rw [← hst]; exact hp.2)
          · rw [hst] at hp
            cases hp.2
          · cases hrs : r.status with
            | provisioning => exact .inl rfl
            | notReady =>
                refine .inr ?_
                have hstub' : r.catalogEc2Stub = false := hstub
                simp only [sendsBack, hec2, hrs, hstub', hwanted, hvalid, hfound, hagain, hstate,
                  ← hseen, hmode, hgate, decide_true, Bool.not_false, Bool.and_self]
            | ready | draining | terminating | terminated | error =>
                rw [hrs] at hprom
                cases hprom
        simpa only [FleetNode.isProvisioningEc2, hec2, decide_true, Bool.true_and,
          decide_eq_true_eq] using hout

theorem SyncedRow.tidy {inp : SyncInput} {row : FleetNode} (h : SyncedRow cfg inp r row)
    (ht : tidy nodes = true) (hr : nodes.lookup k = some r) : tidy (nodes.insert k row) = true := by
  -- row by row, keys and instances are those of before
  have hsame : ∀ j x, (AList.insert k row nodes).lookup j = some x → ∃ y, nodes.lookup j = some y ∧
      x.nodeKey = y.nodeKey ∧ stripOr x.providerInstanceId = stripOr y.providerInstanceId := by
    intro j x hx
    rw [Table.lookup_insert_eq] at hx
    split at hx
    · rename_i hj
      obtain rfl := Option.some.inj hx
      exact ⟨r, hj ▸ hr, h.nodeKey, h.sameInstance⟩
    · exact ⟨x, hx, rfl, rfl⟩
  refine tidy_iff.mpr fun j x hx => ?_
  obtain ⟨y, hy, hkey, hid⟩ := hsame j x hx
  obtain ⟨hstrip, hothers⟩ := tidy_iff.mp ht j y hy
  rw [hkey, hid]
  refine ⟨hstrip, fun j' x' hx' hne => ?_⟩
  obtain ⟨y', hy', hkey', hid'⟩ := hsame j' x' hx'
  rw [hkey', hid']
  exact hothers j' y' hy' hne

theorem selectNodes_nodup (p : FleetNode → Bool) (nodes : Fleet) : (selectNodes p nodes).Nodup := by
  have hperm := (List.perm_insertionSort (fun a b : Sigma fun _ : Nat => FleetNode =>
    a.2.nodeKey ≤ b.2.nodeKey) (nodes.entries.filter fun e => p e.2)).map Sigma.fst
  exact hperm.nodup_iff.mpr (nodes.nodupKeys.sublist List.filter_sublist)

theorem of_mem_selectNodes {p : FleetNode → Bool} (h : k ∈ selectNodes p nodes) :
    ∃ r, nodes.lookup k = some r ∧ p r = true := by
  obtain ⟨⟨k, r⟩, he, rfl⟩ := List.mem_map.mp h
  obtain ⟨hmem, hp⟩ := List.mem_filter.mp ((List.mem_insertionSort _).mp he)
  exact ⟨r, AList.mem_lookup_iff.mpr hmem, hp⟩

/-- Every row is the loaded one, or what its own sync made of it. -/
def Synced (cfg : FleetSettings) (answers : Nat → SyncInput) (loaded session : Fleet) : Prop :=
  ∀ k, session.lookup k = loaded.lookup k ∨ ∃ r row, loaded.lookup k = some r ∧
    r.isActiveEc2 = true ∧ session.lookup k = some row ∧ SyncedRow cfg (answers k) r row

theorem syncTurns_synced {answers : Nat → SyncInput} {loaded : Fleet} {ks : List Nat}
    (hnodup : ks.Nodup) (hks : ∀ k ∈ ks, ∃ r, loaded.lookup k = some r ∧ r.providerType = .ec2 ∧
      r.status.isPromotable = true) {session : Fleet} (ht : tidy session = true)
    (hfresh : ∀ k ∈ ks, session.lookup k = loaded.lookup k)
    (h : Synced cfg answers loaded session) :
    Synced cfg answers loaded
      (ks.foldl (fun nodes k => (syncNodeState cfg nodes (.byId k) (answers k)).1) session) := by
  induction ks generalizing session with
  | nil => exact h
  | cons k ks ih =>
      obtain ⟨hk, hnodup⟩ := List.nodup_cons.mp hnodup
      obtain ⟨r, hr, hec2, hprom⟩ := hks k List.mem_cons_self
      have hr' : session.lookup k = some r := (hfresh k List.mem_cons_self).trans hr
      have hks' := fun j hj => hks j (List.mem_cons_of_mem k hj)
      have hfresh' := fun j hj => hfresh j (List.mem_cons_of_mem k hj)
      rw [List.foldl_cons]
      have hturn := @syncNodeState_row cfg session k r (answers k) ht hr' hec2 hprom
      rcases hturn with heq | ⟨row, heq, hrow⟩
      · rw [heq]
        exact ih hnodup hks' ht hfresh' h
      · rw [heq]
        refine ih hnodup hks' (hrow.tidy ht hr') (fun j hj => ?_) fun j => ?_
        · rw [Table.lookup_insert_eq, if_neg (by rintro rfl; exact hk hj)]
          exact hfresh' j hj
        · rw [Table.lookup_insert_eq]
          split
          · rename_i hj
            subst hj
            refine .inr ⟨r, row, hr, ?_, rfl, hrow⟩
            cases hst : r.status <;> rw [hst] at hprom <;>
              first | (simp only [FleetNode.isActiveEc2, hec2, hst]; rfl) | cases hprom
          · exact h j

theorem syncProvisioningEc2Nodes_synced {answers : Nat → SyncInput} (ht : tidy nodes = true) :
    Synced cfg answers nodes (syncProvisioningEc2Nodes cfg answers nodes) := by
  refine syncTurns_synced (selectNodes_nodup _ nodes) (fun k hk => ?_) ht (fun _ _ => rfl)
    fun k => .inl rfl
  obtain ⟨r, hr, hp⟩ := of_mem_selectNodes hk
  simp only [Bool.and_eq_true, decide_eq_true_eq] at hp
  exact ⟨r, hr, hp⟩

end Sync

/-! ## What a commit does to the counts -/

section Writes

variable {nodes nodes' : Fleet} {w : RowWrite} {tx : ScaleOutTx}

/-- The write is an update of an active EC2 row to another status of such a row. -/
def RowWrite.Pending (nodes : Fleet) (w : RowWrite) : Prop :=
  ∃ loaded current, w.loaded = some loaded ∧ nodes.lookup w.key = some current ∧
    loaded.isActiveEc2 = true ∧ w.row.isActiveEc2 = true ∧ current.isActiveEc2 = true

/-- No active EC2 row is lost. -/
def KeepsActive (nodes nodes' : Fleet) : Prop :=
  ∀ k r, nodes.lookup k = some r → r.isActiveEc2 = true →
    ∃ r', nodes'.lookup k = some r' ∧ r'.isActiveEc2 = true

theorem KeepsActive.refl (nodes : Fleet) : KeepsActive nodes nodes := fun _ r h ha => ⟨r, h, ha⟩

theorem KeepsActive.trans {nodes'' : Fleet} (h : KeepsActive nodes nodes')
    (h' : KeepsActive nodes' nodes'') : KeepsActive nodes nodes'' := by
  intro k r hr ha
  obtain ⟨r', hr', ha'⟩ := h k r hr ha
  exact h' k r' hr' ha'

theorem RowWrite.Pending.mono (h : w.Pending nodes) (hk : KeepsActive nodes nodes') :
    w.Pending nodes' := by
  obtain ⟨loaded, current, hl, hc, hal, har, hac⟩ := h
  obtain ⟨current', hc', hac'⟩ := hk w.key current hc hac
  exact ⟨loaded, current', hl, hc', hal, har, hac'⟩

theorem isActiveEc2_iff {r : FleetNode} :
    r.isActiveEc2 = true ↔ r.providerType = .ec2 ∧ r.status.isActive = true := by
  simp only [FleetNode.isActiveEc2, Bool.and_eq_true, decide_eq_true_eq]

theorem isProvisioningEc2_iff {r : FleetNode} :
    r.isProvisioningEc2 = true ↔ r.providerType = .ec2 ∧ r.status = .provisioning := by
  simp only [FleetNode.isProvisioningEc2, Bool.and_eq_true, decide_eq_true_eq]

/-- An update of active EC2 rows leaves one. -/
theorem updateRow_active {loaded new current : FleetNode} (hl : loaded.isActiveEc2 = true)
    (hn : new.isActiveEc2 = true) (hc : current.isActiveEc2 = true) :
    (updateRow loaded new current).isActiveEc2 = true := by
  obtain ⟨hlp, -⟩ := isActiveEc2_iff.mp hl
  obtain ⟨hnp, hns⟩ := isActiveEc2_iff.mp hn
  obtain ⟨hcp, hcs⟩ := isActiveEc2_iff.mp hc
  refine isActiveEc2_iff.mpr ⟨?_, ?_⟩
  · simp only [updateRow, writeColumn, hlp, hnp, hcp, if_true]
  · simp only [updateRow, writeColumn]
    split
    · exact hcs
    · exact hns

/-- It is `PROVISIONING` if the row was and the status is not written, or if that status is. -/
theorem updateRow_provisioning {loaded new current : FleetNode} (hl : loaded.isActiveEc2 = true)
    (hn : new.isActiveEc2 = true) (hc : current.isActiveEc2 = true) :
    (updateRow loaded new current).isProvisioningEc2 = true ↔
      if new.status = loaded.status then current.isProvisioningEc2 = true
      else new.isProvisioningEc2 = true := by
  obtain ⟨hlp, -⟩ := isActiveEc2_iff.mp hl
  obtain ⟨hnp, -⟩ := isActiveEc2_iff.mp hn
  obtain ⟨hcp, -⟩ := isActiveEc2_iff.mp hc
  simp only [isProvisioningEc2_iff, updateRow, writeColumn, hlp, hnp, hcp, if_true, true_and]
  split <;> exact Iff.rfl

theorem RowWrite.Pending.flush_eq (h : w.Pending nodes) : ∃ loaded current,
    w.loaded = some loaded ∧ nodes.lookup w.key = some current ∧
    loaded.isActiveEc2 = true ∧ w.row.isActiveEc2 = true ∧ current.isActiveEc2 = true ∧
    w.flush nodes = nodes.insert w.key (updateRow loaded w.row current) := by
  obtain ⟨loaded, current, hl, hc, hal, har, hac⟩ := h
  refine ⟨loaded, current, hl, hc, hal, har, hac, ?_⟩
  simp only [RowWrite.flush, hl, hc]

theorem RowWrite.Pending.keepsActive (h : w.Pending nodes) : KeepsActive nodes (w.flush nodes) := by
  obtain ⟨loaded, current, -, hc, hal, har, hac, heq⟩ := h.flush_eq
  intro k r hr ha
  rw [heq, Table.lookup_insert_eq]
  split
  · exact ⟨_, rfl, updateRow_active hal har hac⟩
  · exact ⟨r, hr, ha⟩

theorem RowWrite.Pending.active_eq (h : w.Pending nodes) :
    ec2NodesActive (w.flush nodes) = ec2NodesActive nodes := by
  obtain ⟨loaded, current, -, hc, hal, har, hac, heq⟩ := h.flush_eq
  have hcount := Table.rowCount_insert_of_lookup FleetNode.isActiveEc2 hc
    (updateRow loaded w.row current)
  simp only [Table.tally, hac, updateRow_active hal har hac, if_true] at hcount
  rw [ec2NodesActive, heq, ec2NodesActive]
  omega

theorem RowWrite.Pending.provisioning_le (h : w.Pending nodes) :
    provisioningNodes (w.flush nodes) ≤
      provisioningNodes nodes + if w.sendsBack = true then 1 else 0 := by
  obtain ⟨loaded, current, hl, hc, hal, har, hac, heq⟩ := h.flush_eq
  have hcount := Table.rowCount_insert_of_lookup FleetNode.isProvisioningEc2 hc
    (updateRow loaded w.row current)
  have hrow := updateRow_provisioning hal har hac
  have hle : Table.tally FleetNode.isProvisioningEc2 (updateRow loaded w.row current) ≤
      Table.tally FleetNode.isProvisioningEc2 current + if w.sendsBack = true then 1 else 0 := by
    simp only [Table.tally, hrow, RowWrite.sendsBack, hl, Option.any_some, Bool.and_eq_true,
      Bool.not_eq_true']
    by_cases hst : w.row.status = loaded.status
    · simp only [hst, if_true]
      exact Nat.le_add_right _ _
    · simp only [hst, if_false]
      split
      · rename_i hp
        have hnot : loaded.isProvisioningEc2 = false := by
          rw [Bool.eq_false_iff]
          intro hlp
          exact hst ((isProvisioningEc2_iff.mp hp).2.trans (isProvisioningEc2_iff.mp hlp).2.symm)
        simp only [hp, hnot, and_self, if_true]
        exact Nat.le_add_left _ _
      · exact Nat.zero_le _
  rw [provisioningNodes, heq, provisioningNodes]
  omega

/-- The rows a transaction with pending writes sees. -/
theorem view_counts (h : ∀ w ∈ tx.writes, w.Pending nodes) :
    KeepsActive nodes (tx.view nodes) ∧ ec2NodesActive (tx.view nodes) = ec2NodesActive nodes ∧
      provisioningNodes (tx.view nodes) ≤ provisioningNodes nodes + tx.sentBack := by
  simp only [ScaleOutTx.view, ScaleOutTx.sentBack]
  generalize tx.writes = ws at h
  induction ws generalizing nodes with
  | nil => exact ⟨.refl nodes, rfl, le_rfl⟩
  | cons w ws ih =>
      have hw := h w List.mem_cons_self
      obtain ⟨hkeeps, hactive, hprov⟩ := ih fun w' hw' =>
        (h w' (List.mem_cons_of_mem w hw')).mono hw.keepsActive
      have hle := hw.provisioning_le
      refine ⟨hw.keepsActive.trans hkeeps, hactive.trans hw.active_eq, ?_⟩
      rw [List.foldl_cons, List.countP_cons]
      omega

/-- Every `PROVISIONING` EC2 row is one on the right as well. -/
def FewerProvisioning (nodes' nodes : Fleet) : Prop :=
  ∀ k r', nodes'.lookup k = some r' → r'.isProvisioningEc2 = true →
    ∃ r, nodes.lookup k = some r ∧ r.isProvisioningEc2 = true

theorem FewerProvisioning.le (h : FewerProvisioning nodes' nodes) :
    provisioningNodes nodes' ≤ provisioningNodes nodes := Table.rowCount_le h

theorem RowWrite.Pending.fewer (h : w.Pending nodes) (hback : w.sendsBack = false) :
    FewerProvisioning (w.flush nodes) nodes := by
  obtain ⟨loaded, current, hl, hc, hal, har, hac, heq⟩ := h.flush_eq
  intro k r' hr' hp
  rw [heq, Table.lookup_insert_eq] at hr'
  split at hr'
  · rename_i hk
    subst hk
    obtain rfl := Option.some.inj hr'
    refine ⟨current, hc, ?_⟩
    have hrow := (updateRow_provisioning hal har hac).mp hp
    split at hrow
    · exact hrow
    · rename_i hne
      simp only [RowWrite.sendsBack, hl, hrow, Option.any_some, Bool.true_and,
        Bool.not_eq_false'] at hback
      exact absurd ((isProvisioningEc2_iff.mp hrow).2.trans (isProvisioningEc2_iff.mp hback).2.symm)
        hne
  · exact ⟨r', hr', hp⟩

/-- One write keeps the order of two tables. -/
theorem RowWrite.Pending.flush_fewer (h : w.Pending nodes) (h' : w.Pending nodes')
    (hle : FewerProvisioning nodes' nodes) : FewerProvisioning (w.flush nodes') (w.flush nodes) := by
  obtain ⟨loaded, current, hl, hc, hal, har, hac, heq⟩ := h.flush_eq
  obtain ⟨loaded', current', hl', hc', -, -, hac', heq'⟩ := h'.flush_eq
  obtain rfl : loaded' = loaded := Option.some.inj (hl'.symm.trans hl)
  intro k r' hr' hp
  rw [heq', Table.lookup_insert_eq] at hr'
  rw [heq, Table.lookup_insert_eq]
  split at hr'
  · rename_i hk
    obtain rfl := Option.some.inj hr'
    refine ⟨_, if_pos hk, (updateRow_provisioning hal har hac).mpr ?_⟩
    have hrow := (updateRow_provisioning hal har hac').mp hp
    split at hrow
    · rename_i hst
      obtain ⟨r, hr, hpr⟩ := hle w.key current' hc' hrow
      rw [if_pos hst, Option.some.inj (hc.symm.trans hr)]
      exact hpr
    · rename_i hst
      rw [if_neg hst]
      exact hrow
  · rename_i hk
    rw [if_neg hk]
    exact hle k r' hr' hp

theorem view_fewer (h : ∀ w ∈ tx.writes, w.Pending nodes) (hback : tx.sentBack = 0) :
    FewerProvisioning (tx.view nodes) nodes := by
  simp only [ScaleOutTx.view]
  simp only [ScaleOutTx.sentBack] at hback
  generalize tx.writes = ws at h hback
  induction ws generalizing nodes with
  | nil => exact fun k r hr hp => ⟨r, hr, hp⟩
  | cons w ws ih =>
      have hw := h w List.mem_cons_self
      have hnone := List.countP_eq_zero.mp hback
      have hlater := ih (fun w' hw' => (h w' (List.mem_cons_of_mem w hw')).mono hw.keepsActive)
        (List.countP_eq_zero.mpr fun w' hw' => hnone w' (List.mem_cons_of_mem w hw'))
      intro k r hr hp
      obtain ⟨r', hr', hp'⟩ := hlater k r hr hp
      exact hw.fewer (by simpa using hnone w List.mem_cons_self) k r' hr' hp'

theorem view_mono (h : ∀ w ∈ tx.writes, w.Pending nodes) (hk : KeepsActive nodes nodes')
    (hle : FewerProvisioning nodes' nodes) : FewerProvisioning (tx.view nodes') (tx.view nodes) := by
  simp only [ScaleOutTx.view]
  have h' : ∀ w ∈ tx.writes, w.Pending nodes' := fun w hw => (h w hw).mono hk
  clear hk
  generalize tx.writes = ws at h h'
  induction ws generalizing nodes nodes' with
  | nil => exact hle
  | cons w ws ih =>
      have hw := h w List.mem_cons_self
      have hw' := h' w List.mem_cons_self
      exact ih (hw.flush_fewer hw' hle)
        (fun v hv => (h v (List.mem_cons_of_mem w hv)).mono hw.keepsActive)
        fun v hv => (h' v (List.mem_cons_of_mem w hv)).mono hw'.keepsActive

/-- What a tick leaves to its commit: pending updates, with no more nodes sent back than the
gates refuse. -/
theorem tick_writes {cfg : FleetSettings} {answers : Nat → SyncInput} (ht : tidy nodes = true) :
    let writes := rowWrites nodes (syncProvisioningEc2Nodes cfg answers nodes)
    (∀ w ∈ writes, w.Pending nodes) ∧ writes.countP RowWrite.sendsBack ≤
      Table.entryCount (fun k r => sendsBack cfg (answers k) r) nodes := by
  have hsync : Synced cfg answers nodes (syncProvisioningEc2Nodes cfg answers nodes) :=
    syncProvisioningEc2Nodes_synced ht
  generalize syncProvisioningEc2Nodes cfg answers nodes = session at hsync
  refine ⟨fun w hw => ?_, ?_⟩
  · obtain ⟨⟨k, row⟩, he, hwe⟩ := List.mem_filterMap.mp hw
    dsimp only at hwe
    split at hwe
    · cases hwe
    · rename_i hne
      have hrow := AList.mem_lookup_iff.mpr he
      obtain rfl := Option.some.inj hwe
      rcases hsync k with heq | ⟨r, row', hr, hact, hrow', hs⟩
      · exact absurd (heq.symm.trans hrow) hne
      · obtain rfl : row' = row := Option.some.inj (hrow'.symm.trans hrow)
        exact ⟨r, r, hr, hr, hact, hs.active, hact⟩
  · have hcount : (rowWrites nodes session).countP RowWrite.sendsBack ≤
        Table.entryCount (fun k row => row.isProvisioningEc2 &&
          !(nodes.lookup k).any FleetNode.isProvisioningEc2) session := by
      rw [rowWrites, List.countP_filterMap]
      refine List.countP_mono_left fun e _ he => ?_
      split at he
      · cases he
      · exact he
    refine hcount.trans (Table.entryCount_le fun k row hrow hp => ?_)
    rw [Bool.and_eq_true, Bool.not_eq_true'] at hp
    rcases hsync k with heq | ⟨r, row', hr, -, hrow', hs⟩
    · rw [heq] at hrow
      rw [hrow, Option.any_some, hp.1] at hp
      cases hp.2
    · obtain rfl : row' = row := Option.some.inj (hrow'.symm.trans hrow)
      rw [hr, Option.any_some] at hp
      refine ⟨r, hr, (hs.back hp.1).resolve_left ?_⟩
      rw [hp.2]
      exact Bool.false_ne_true

end Writes

/-! ## Runs -/

section Runs

variable {cfg : FleetSettings} {auto : AutoscalerSettings} {initial : Fleet} {st : ScaleOutState}
  {t : Nat} {tx : ScaleOutTx}

/-- How the `PROVISIONING` cap stays out of reach: nothing is under way, there is room for all of
it, or one launch is under way whose own rows are below the cap. -/
inductive ProvisioningRoom (auto : AutoscalerSettings) (st : ScaleOutState) : Prop
  | idle (hb : st.sentBack = 0) (hl : st.launches = 0)
  | room (h : (provisioningNodes st.committed + st.sentBack + st.launches : Int) ≤
      auto.maxConcurrentProvisioning)
  | lone (t : Nat) (tx : ScaleOutTx) (htx : st.opened.lookup t = some tx)
      (hphase : tx.phase = .launching) (hl : st.launches = 1) (hb : st.sentBack = tx.sentBack)
      (h : (provisioningNodes (tx.view st.committed) : Int) < auto.maxConcurrentProvisioning)

structure CapInv (auto : AutoscalerSettings) (initial : Fleet) (st : ScaleOutState) : Prop where
  within : WithinCaps auto initial st
  activeRoom : st.launches = 0 ∨
    (ec2NodesActive st.committed + st.launches : Int) ≤ auto.maxNodes
  provisioningRoom : ProvisioningRoom auto st
  pending : ∀ t tx, st.opened.lookup t = some tx → ∀ w ∈ tx.writes, w.Pending st.committed

theorem capInv_init (auto : AutoscalerSettings) (initial : Fleet) :
    CapInv auto initial { committed := initial } := by
  refine ⟨⟨le_max_right _ _, le_max_right _ _⟩, .inl rfl, .idle rfl rfl, ?_⟩
  intro t tx htx
  cases htx

/-- A transaction that opens brings what it has sent back. -/
theorem opened_counts (htx : st.opened.lookup t = none) (tx : ScaleOutTx) :
    let st' : ScaleOutState := { st with opened := st.opened.insert t tx }
    st'.launches = st.launches + tx.launches ∧ st'.sentBack = st.sentBack + tx.sentBack := by
  dsimp only
  simp only [ScaleOutState.launches, ScaleOutState.sentBack, Table.total_insert,
    Table.total_of_none _ htx]
  omega

/-- What is left when a transaction ends. -/
theorem closed_counts (htx : st.opened.lookup t = some tx) (committed : Fleet) :
    let st' : ScaleOutState := { committed := committed, opened := st.opened.erase t }
    st'.launches + tx.launches = st.launches ∧ st'.sentBack + tx.sentBack = st.sentBack := by
  dsimp only
  simp only [ScaleOutState.launches, ScaleOutState.sentBack, Table.total_of_lookup _ htx]
  omega

theorem phase_counts (htx : st.opened.lookup t = some tx) (hphase : tx.phase ≠ .launching)
    (tx' : ScaleOutTx) (hw : tx'.writes = tx.writes) :
    let st' : ScaleOutState := { st with opened := st.opened.insert t tx' }
    st'.launches = st.launches + tx'.launches ∧ st'.sentBack = st.sentBack := by
  have hnone : tx.launches = 0 := if_neg hphase
  have hback : tx'.sentBack = tx.sentBack := by rw [ScaleOutTx.sentBack, hw, ScaleOutTx.sentBack]
  dsimp only
  simp only [ScaleOutState.launches, ScaleOutState.sentBack, Table.total_insert,
    Table.total_of_lookup _ htx, hback, and_true]
  omega

/-- A transaction opens whose writes are pending, and what it sent back has room. -/
theorem CapInv.opening (h : CapInv auto initial st) (htx : st.opened.lookup t = none)
    (hw : ∀ w ∈ tx.writes, w.Pending st.committed) (hphase : tx.phase = .evaluating)
    (hroom : tx.sentBack = 0 ∨ (provisioningNodes st.committed + st.sentBack + st.launches +
      tx.sentBack : Int) ≤ auto.maxConcurrentProvisioning) :
    CapInv auto initial { st with opened := st.opened.insert t tx } := by
  obtain ⟨hl, hb⟩ := opened_counts htx tx
  have hnone : tx.launches = 0 := if_neg (by rw [hphase]; decide)
  rw [hnone, Nat.add_zero] at hl
  refine ⟨h.within, ?_, ?_, ?_⟩
  · rw [hl]
    exact h.activeRoom
  · rcases hroom with hzero | hroom
    · rw [hzero, Nat.add_zero] at hb
      rcases h.provisioningRoom with ⟨hb', hl'⟩ | hle | ⟨t', tx', htx', hphase', hl', hb', hlt⟩
      · exact .idle (hb.trans hb') (hl.trans hl')
      · refine .room ?_
        rw [hl, hb]
        exact hle
      · refine .lone t' tx' ?_ hphase' (hl.trans hl') (hb.trans hb') hlt
        rw [Table.lookup_insert_eq, if_neg ?_]
        · exact htx'
        · rintro rfl
          rw [htx] at htx'
          cases htx'
    · refine .room ?_
      rw [hl, hb]
      push_cast
      omega
  · intro t' tx' htx' w hw'
    rw [Table.lookup_insert_eq] at htx'
    split at htx'
    · obtain rfl := Option.some.inj htx'
      exact hw w hw'
    · exact h.pending t' tx' htx' w hw'

/-- An evaluation recommends a launch that fits, or closes. -/
theorem CapInv.evaluate (h : CapInv auto initial st) (htx : st.opened.lookup t = some tx)
    (hphase : tx.phase = .evaluating) (inp : FleetReading)
    (hfits : (evaluateFleetAutoscalerTick auto (tx.view st.committed) inp).action =
      .scaleOutRecommended → launchFits auto st tx = true) :
    CapInv auto initial
      { st with opened := st.opened.insert t (tx.evaluated auto st.committed inp) } := by
  have hne : tx.phase ≠ .launching := by rw [hphase]; decide
  have hw : (tx.evaluated auto st.committed inp).writes = tx.writes := by
    unfold ScaleOutTx.evaluated
    split <;> rfl
  obtain ⟨hl, hb⟩ := phase_counts htx hne _ hw
  have hpend : ∀ t' tx', (st.opened.insert t (tx.evaluated auto st.committed inp)).lookup t' =
      some tx' → ∀ w ∈ tx'.writes, w.Pending st.committed := by
    intro t' tx' htx' w hw'
    rw [Table.lookup_insert_eq] at htx'
    split at htx'
    · obtain rfl := Option.some.inj htx'
      rw [hw] at hw'
      exact h.pending t tx htx w hw'
    · exact h.pending t' tx' htx' w hw'
  by_cases hout : (evaluateFleetAutoscalerTick auto (tx.view st.committed) inp).action =
      .scaleOutRecommended
  · obtain ⟨hactive, hprov⟩ := scaleOut_below_caps hout
    obtain ⟨-, hview, -⟩ := view_counts (h.pending t tx htx)
    rw [hview] at hactive
    have hev : tx.evaluated auto st.committed inp = { tx with phase := .launching } := if_pos hout
    have hone : (tx.evaluated auto st.committed inp).launches = 1 := by rw [hev]; rfl
    rw [hone] at hl
    have hroom := hfits hout
    simp only [launchFits, Bool.and_eq_true, Bool.or_eq_true, decide_eq_true_eq] at hroom
    refine ⟨h.within, .inr ?_, ?_, hpend⟩
    · rw [hl]
      push_cast
      rcases hroom.1 with hzero | hlt
      · rw [hzero]
        push_cast
        omega
      · omega
    · rcases hroom.2 with ⟨hzero, hmine⟩ | hlt
      · refine .lone t (tx.evaluated auto st.committed inp) ?_ ?_ ?_ ?_ ?_
        · rw [Table.lookup_insert_eq, if_pos rfl]
        · rw [hev]
        · rw [hl, hzero]
        · rw [hb, hmine, hev]
          rfl
        · rw [hev]
          exact hprov
      · refine .room ?_
        rw [hl, hb]
        push_cast
        omega
  · have hev : tx.evaluated auto st.committed inp = { tx with phase := .closing } := if_neg hout
    have hzero : (tx.evaluated auto st.committed inp).launches = 0 := by rw [hev]; rfl
    rw [hzero, Nat.add_zero] at hl
    refine ⟨h.within, by rw [hl]; exact h.activeRoom, ?_, hpend⟩
    rcases h.provisioningRoom with ⟨hb', hl'⟩ | hle | ⟨t', tx', htx', hphase', hl', hb', hlt⟩
    · exact .idle (hb.trans hb') (hl.trans hl')
    · refine .room ?_
      rw [hl, hb]
      exact hle
    · refine .lone t' tx' ?_ hphase' (hl.trans hl') (hb.trans hb') hlt
      rw [Table.lookup_insert_eq, if_neg ?_]
      · exact htx'
      · rintro rfl
        rw [htx] at htx'
        obtain rfl := Option.some.inj htx'
        exact hne hphase'

/-- A transaction ends and leaves rows that hold no more than it had claimed. -/
theorem CapInv.close {committed : Fleet} (h : CapInv auto initial st)
    (htx : st.opened.lookup t = some tx) (hkeeps : KeepsActive st.committed committed)
    (hactive : ec2NodesActive committed ≤ ec2NodesActive st.committed + tx.launches)
    (hprov : provisioningNodes committed ≤
      provisioningNodes st.committed + tx.sentBack + tx.launches)
    (hview : provisioningNodes committed ≤ provisioningNodes st.committed ∨
      provisioningNodes committed ≤ provisioningNodes (tx.view st.committed) + tx.launches)
    (hfewer : tx.sentBack = 0 → tx.launches = 0 → FewerProvisioning committed st.committed) :
    CapInv auto initial { committed := committed, opened := st.opened.erase t } := by
  obtain ⟨hl, hb⟩ := closed_counts htx committed
  have hpend : ∀ t' tx', (st.opened.erase t).lookup t' = some tx' →
      ∀ w ∈ tx'.writes, w.Pending committed := by
    intro t' tx' htx' w hw
    by_cases heq : t' = t
    · rw [heq, AList.lookup_erase] at htx'
      cases htx'
    · rw [AList.lookup_erase_ne heq] at htx'
      exact (h.pending t' tx' htx' w hw).mono hkeeps
  generalize hst' : ({ committed := committed, opened := st.opened.erase t } : ScaleOutState) = st'
    at hl hb
  have hcom : st'.committed = committed := by rw [← hst']
  have hopen : st'.opened = st.opened.erase t := by rw [← hst']
  obtain ⟨hwa, hwp⟩ := h.within
  have hact : st'.launches = 0 ∨ (ec2NodesActive st'.committed + st'.launches : Int) ≤
      auto.maxNodes := by
    rw [hcom]
    rcases h.activeRoom with hzero | hle
    · exact .inl (by omega)
    · exact .inr (by omega)
  have hactWithin : (ec2NodesActive st'.committed : Int) ≤
      max auto.maxNodes (ec2NodesActive initial) := by
    rw [hcom]
    rcases h.activeRoom with hzero | hle
    · have : tx.launches = 0 := by omega
      omega
    · have := le_max_left auto.maxNodes (ec2NodesActive initial : Int)
      omega
  have hmax := le_max_left auto.maxConcurrentProvisioning (provisioningNodes initial : Int)
  have hroom : ProvisioningRoom auto st' ∧ (provisioningNodes st'.committed : Int) ≤
      max auto.maxConcurrentProvisioning (provisioningNodes initial) := by
    rw [hcom]
    rcases h.provisioningRoom with ⟨hb', hl'⟩ | hle | ⟨t', tx', htx', hphase', hl', hb', hlt⟩
    · refine ⟨.idle (by omega) (by omega), ?_⟩
      omega
    · refine ⟨.room ?_, by omega⟩
      rw [hcom]
      omega
    · have hone : tx'.launches = 1 := if_pos hphase'
      by_cases heq : t' = t
      · subst heq
        obtain rfl : tx' = tx := Option.some.inj (htx'.symm.trans htx)
        refine ⟨.idle (by omega) (by omega), ?_⟩
        rcases hview with hview | hview <;> omega
      · -- the launch goes on, and what closes beside it sends nothing back
        have htx'' : (st.opened.erase t).lookup t' = some tx' := by
          rw [AList.lookup_erase_ne heq]
          exact htx'
        obtain ⟨hl'', hb''⟩ := @closed_counts st' t' tx' (by rw [hopen]; exact htx'') committed
        have hsent : tx.sentBack = 0 := by omega
        have hnone : tx.launches = 0 := by omega
        have hf := hfewer hsent hnone
        have hle := hf.le
        have hmono := (view_mono (h.pending t' tx' htx') hkeeps hf).le
        refine ⟨.lone t' tx' (by rw [hopen]; exact htx'') hphase' (by omega) (by omega) ?_, ?_⟩
        · rw [hcom]
          omega
        · omega
  exact ⟨⟨hactWithin, hroom.2⟩, hact, hroom.1, by rw [hcom, hopen]; exact hpend⟩

/-- A row under a fresh key adds itself. -/
theorem insert_fresh_counts {nodes : Fleet} {row : FleetNode} (ha : row.isActiveEc2 = true)
    (hp : row.isProvisioningEc2 = true) :
    let nodes' := nodes.insert (Table.freshKey nodes) row
    KeepsActive nodes nodes' ∧ ec2NodesActive nodes' = ec2NodesActive nodes + 1 ∧
      provisioningNodes nodes' = provisioningNodes nodes + 1 := by
  have hfresh := Table.lookup_freshKey nodes
  refine ⟨fun k r hr har => ⟨r, ?_, har⟩, ?_, ?_⟩
  · rw [Table.lookup_insert_eq, if_neg (Table.ne_freshKey hr)]
    exact hr
  · rw [ec2NodesActive, Table.rowCount_insert_of_none _ hfresh, Table.tally, if_pos ha]
    rfl
  · rw [provisioningNodes, Table.rowCount_insert_of_none _ hfresh, Table.tally, if_pos hp]
    rfl

theorem CapInv.finish (h : CapInv auto initial st) (htx : st.opened.lookup t = some tx)
    (inp : LaunchInput) :
    CapInv auto initial
      { committed := tx.result cfg st.committed inp, opened := st.opened.erase t } := by
  have hpend := h.pending t tx htx
  obtain ⟨hkeeps, hactive, hprov⟩ := view_counts hpend
  -- the transaction commits its writes and no node
  have hview : CapInv auto initial
      { committed := tx.view st.committed, opened := st.opened.erase t } :=
    h.close htx hkeeps (by omega) (by omega) (.inr (by omega)) fun hback _ => view_fewer hpend hback
  unfold ScaleOutTx.result
  dsimp only
  split
  · rename_i hphase
    have hone : tx.launches = 1 := if_pos hphase
    split
    · rename_i row hrow
      obtain ⟨ha, hp⟩ := provisionEc2Node_ok hrow
      obtain ⟨hkeeps', hactive', hprov'⟩ := @insert_fresh_counts (tx.view st.committed) row ha hp
      exact h.close htx (hkeeps.trans hkeeps') (by omega) (by omega) (.inr (by omega))
        fun _ hnone => by omega
    · split
      · exact hview
      · exact h.close htx (.refl _) (by omega) (by omega) (.inl le_rfl)
          fun _ _ k r hr hp => ⟨r, hr, hp⟩
  · exact hview

theorem CapInv.rollback (h : CapInv auto initial st) (t : Nat) :
    CapInv auto initial { st with opened := st.opened.erase t } := by
  cases htx : st.opened.lookup t with
  | none =>
      have herase : st.opened.erase t = st.opened := by
        refine AList.ext ?_
        exact List.kerase_of_notMem_keys (AList.lookup_eq_none.mp htx)
      rw [herase]
      exact h
  | some tx =>
      exact h.close htx (.refl _) (by omega) (by omega) (.inl le_rfl)
        fun _ _ k r hr hp => ⟨r, hr, hp⟩

theorem capInv_step (h : CapInv auto initial st) {i : ScaleOutStep}
    (hroom : leavesRoom cfg auto st i = true) : CapInv auto initial (scaleOutStep cfg auto st i) := by
  cases i with
  | tick t answers =>
      dsimp only [scaleOutStep]
      split
      · exact h
      · rename_i hopen
        have htx : st.opened.lookup t = none := by simpa using hopen
        simp only [leavesRoom, htx, Option.isSome_none, Bool.false_or, Bool.and_eq_true] at hroom
        obtain ⟨htidy, hfits⟩ := hroom
        obtain ⟨hpend, hback⟩ := @tick_writes st.committed cfg answers htidy
        simp only [sendingBackFits, Bool.or_eq_true, decide_eq_true_eq] at hfits
        have hfits' : (rowWrites st.committed (syncProvisioningEc2Nodes cfg answers
              st.committed)).countP RowWrite.sendsBack = 0 ∨
            (provisioningNodes st.committed + st.sentBack + st.launches +
              (rowWrites st.committed (syncProvisioningEc2Nodes cfg answers
                st.committed)).countP RowWrite.sendsBack : Int) ≤
              auto.maxConcurrentProvisioning := by omega
        exact h.opening htx hpend rfl hfits'
  | noCapacity t =>
      dsimp only [scaleOutStep]
      split
      · exact h
      · rename_i hopen
        have htx : st.opened.lookup t = none := by
          simp only [Bool.or_eq_true, not_or] at hopen
          simpa using hopen.1.1
        exact h.opening htx (fun w hw => nomatch hw) rfl (.inl rfl)
  | evaluate t inp =>
      dsimp only [scaleOutStep]
      split
      · exact h
      · rename_i tx htx
        split
        · exact h
        · rename_i hphase
          have hphase : tx.phase = .evaluating := by simpa using hphase
          refine h.evaluate htx hphase inp fun hout => ?_
          simpa [leavesRoom, htx, hphase, hout] using hroom
  | finish t inp =>
      dsimp only [scaleOutStep]
      split
      · exact h
      · rename_i tx htx
        split
        · exact h
        · exact h.finish htx inp
  | rollback t => exact h.rollback t

end Runs

/-! ## Two fleets -/

def startingNode : FleetNode where
  nodeKey := "ec2-a"
  providerInstanceId := some "i-0123456789abcdef0"
  region := some "us-east-1"
  status := .provisioning
  schedulable := false
  defaultTopologyId := some 1

/-- The instance runs and passes its gate. -/
def readyAnswer : SyncInput where
  describe := .ok { state := "running", region := "us-east-1" }
  describeAgain := .ok { state := "running", region := "us-east-1" }
  ssm := .output "node.ready_gate.image_pull_success node.ready_gate.passed"

/-- One workspace waits, and the last launch was ten minutes ago. -/
def waitingWorkspace : FleetReading where
  effectivePending := 1
  youngestActiveEc2Age := some 600000000
  latestEc2CreatedAge := some 600000000

def launchAs (key iid : String) : LaunchInput where
  nodeKey := key
  launched := .ok (iid, "us-east-1")

/-- One tick promotes the node that starts and launches another; a second one is held back. -/
def promoteAndLaunch : List ScaleOutStep :=
  [.tick 0 fun _ => readyAnswer, .evaluate 0 waitingWorkspace,
   .finish 0 (launchAs "ec2-b" "i-0123456789abcdef1"),
   .tick 1 fun _ => readyAnswer, .evaluate 1 waitingWorkspace,
   .finish 1 (launchAs "ec2-c" "i-0123456789abcdef2")]

def twoNodes : AutoscalerSettings := { maxNodes := 2, maxConcurrentProvisioning := 1 }

/-- Two ticks evaluate before either has committed its launch. -/
def launchedTogether : List ScaleOutStep :=
  [.tick 0 fun _ => readyAnswer, .evaluate 0 { effectivePending := 1 },
   .tick 1 fun _ => readyAnswer, .evaluate 1 { effectivePending := 1 },
   .finish 0 (launchAs "ec2-a" "i-0123456789abcdef0"),
   .finish 1 (launchAs "ec2-b" "i-0123456789abcdef1")]

end Devnest
