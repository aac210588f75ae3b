import Devnest.FleetNodes
import Devnest.Runs

/-!
# Keeping nodes out of service

Two promises about rows that should not be scheduled. A node that is
`DRAINING`, `TERMINATING` or `TERMINATED` comes back only through
`undrain_node`; a node that was registered for the catalog only comes back
only through an operator. The writers keep neither promise: the worker's
retry path takes any EC2 node to `PROVISIONING`, from where it is promoted,
and the EC2 sync, the promotion gate and the resource monitor do not look
at how a node was registered.

The steps are proved row by row: `RowAt` says that a row is there and has a
property, and each writer has one lemma about the row it touches.
-/

namespace Devnest

open Runs

/-! ## Steps -/

inductive FleetStep where
  | heartbeat (ref : NodeRef) (inp : HeartbeatInput)
  | registerEc2Instance (inp : RegisterInput)
  | registerCatalogEc2Stub (inp : StubInput)
  | syncNodeState (ref : NodeRef) (inp : SyncInput)
  | syncEc2Instances (instances : List (String × Except NodeError Ec2InstanceDescription))
  | promote (ref : NodeRef) (inp : PromoteInput)
  | resourceMonitorTick (now : Int) (probe : Nat → Option HostMetrics)
  | autoscalerTick (answers : Nat → SyncInput)
  | workerFailure (nodeKey : Option String) (reason : String)
  | markNodeDraining (ref : NodeRef)
  | undrainNode (ref : NodeRef)
  | deregisterNode (ref : NodeRef)

/-- A transaction that raised is rolled back. -/
def committedOr (nodes : Fleet) : Except NodeError Fleet → Fleet
  | .ok nodes' => nodes'
  | .error _ => nodes

/-- `promote_ec2_node_if_heartbeat_ready` for a stored row. -/
def promoteNode (cfg : FleetSettings) (nodes : Fleet) (ref : NodeRef) (inp : PromoteInput) :
    Except NodeError Fleet := do
  let (k, r) ← getNode nodes ref
  let (row, raised) := promoteEc2NodeIfHeartbeatReady cfg inp r
  if raised then .error .other else .ok (nodes.insert k row)

def fleetStep (cfg : FleetSettings) (nodes : Fleet) : FleetStep → Fleet
  | .heartbeat ref inp => committedOr nodes (recordExecutionNodeHeartbeat nodes ref inp)
  | .registerEc2Instance inp => committedOr nodes (registerEc2Instance cfg nodes inp)
  | .registerCatalogEc2Stub inp => committedOr nodes (registerCatalogEc2Stub cfg nodes inp)
  | .syncNodeState ref inp =>
      match syncNodeState cfg nodes ref inp with
      | (nodes', none) => nodes'
      | (_, some _) => nodes
  | .syncEc2Instances instances => committedOr nodes (syncEc2Instances cfg nodes instances)
  | .promote ref inp => committedOr nodes (promoteNode cfg nodes ref inp)
  | .resourceMonitorTick now probe => runEc2NodeResourceMonitorTick cfg now probe nodes
  | .autoscalerTick answers => syncProvisioningEc2Nodes cfg answers nodes
  | .workerFailure nodeKey reason => markFleetNodeNotReadyForRetry nodes nodeKey reason
  | .markNodeDraining ref => committedOr nodes (markNodeDraining nodes ref)
  | .undrainNode ref => committedOr nodes (undrainNode nodes ref)
  | .deregisterNode ref => committedOr nodes (deregisterNode nodes ref)

/-! ## Finding rows -/

section Lookup

variable {nodes : Fleet} {k : Nat} {r : FleetNode}

theorem lookup_of_find {p : FleetNode → Bool}
    (h : ((nodes.entries.find? fun e => p e.2).map fun e => (e.1, e.2)) = some (k, r)) :
    nodes.lookup k = some r ∧ p r = true := by
  obtain ⟨e, he, heq⟩ := Option.map_eq_some_iff.mp h
  obtain ⟨rfl, rfl⟩ := Prod.mk.inj heq
  have hp := @List.find?_some _ (fun e : (_ : Nat) × FleetNode => p e.2) _ _ he
  exact ⟨AList.mem_lookup_iff.mpr (List.mem_of_find?_eq_some he), hp⟩

theorem fleetByKey_lookup {key : String} (h : fleetByKey nodes key = some (k, r)) :
    nodes.lookup k = some r ∧ r.nodeKey = key := by
  obtain ⟨hl, hp⟩ := lookup_of_find (p := fun r => decide (r.nodeKey = key)) h
  exact ⟨hl, of_decide_eq_true hp⟩

theorem fleetByInstanceId_lookup {iid : String} (h : fleetByInstanceId nodes iid = some (k, r)) :
    nodes.lookup k = some r :=
  (lookup_of_find (p := fun r => decide (r.providerInstanceId = some iid)) h).1

theorem registerTarget_lookup {iid key : String} (h : registerTarget nodes iid key = some (k, r)) :
    nodes.lookup k = some r := by
  unfold registerTarget at h
  cases hi : fleetByInstanceId nodes iid with
  | none =>
      rw [hi, Option.none_or] at h
      exact (fleetByKey_lookup h).1
  | some p =>
      rw [hi, Option.some_or] at h
      obtain rfl := Option.some.inj h
      exact fleetByInstanceId_lookup hi

theorem getNode_lookup {ref : NodeRef} {missing : String}
    (h : getNode nodes ref missing = .ok (k, r)) : nodes.lookup k = some r := by
  cases ref with
  | byId id =>
      simp only [getNode] at h
      split at h
      · cases h
      · rename_i hl
        obtain ⟨rfl, rfl⟩ := Prod.mk.inj (Except.ok.inj h)
        exact hl
  | byKey key =>
      simp only [getNode] at h
      split at h
      · cases h
      · split at h
        · cases h
        · rename_i hl
          obtain rfl := Except.ok.inj h
          exact (fleetByKey_lookup hl).1

end Lookup

/-! ## Rows that keep a property -/

/-- Row `k` is there and has the property. -/
def RowAt (I : FleetNode → Prop) (k : Nat) (nodes : Fleet) : Prop :=
  ∃ r, nodes.lookup k = some r ∧ I r

section RowAt

variable {cfg : FleetSettings} {I : FleetNode → Prop} {nodes nodes' : Fleet} {k j : Nat}

/-- Writing a row: another one, or one that keeps the property. -/
theorem RowAt.insert {r' : FleetNode} (h : RowAt I k nodes) (hr : j = k → I r') :
    RowAt I k (nodes.insert j r') := by
  obtain ⟨r, hl, hI⟩ := h
  by_cases hj : j = k
  · subst hj
    exact ⟨r', by simp, hr rfl⟩
  · exact ⟨r, by simp [Ne.symm hj, hl], hI⟩

/-- An update of a row that was looked up. -/
theorem RowAt.update {r : FleetNode} {f : FleetNode → FleetNode} (h : RowAt I k nodes)
    (hl : nodes.lookup j = some r) (hf : j = k → I r → I (f r)) :
    RowAt I k (nodes.insert j (f r)) := by
  refine h.insert fun hj => hf hj ?_
  subst hj
  obtain ⟨r₀, hl₀, hI⟩ := h
  rw [hl] at hl₀
  obtain rfl := Option.some.inj hl₀
  exact hI

theorem RowAt.committedOr {x : Except NodeError Fleet} (h : RowAt I k nodes)
    (hx : ∀ nodes', x = .ok nodes' → RowAt I k nodes') : RowAt I k (committedOr nodes x) := by
  cases x with
  | ok nodes' => exact hx nodes' rfl
  | error e => exact h

theorem getNode_bind {f : Nat × FleetNode → Except NodeError Fleet} {ref : NodeRef}
    {missing : String} (h : (getNode nodes ref missing >>= f) = .ok nodes') :
    ∃ j r, getNode nodes ref missing = .ok (j, r) ∧ nodes.lookup j = some r ∧
      f (j, r) = .ok nodes' := by
  cases hg : getNode nodes ref missing with
  | error e => rw [hg] at h; cases h
  | ok p =>
      obtain ⟨j, r⟩ := p
      rw [hg] at h
      exact ⟨j, r, rfl, getNode_lookup hg, h⟩

/-- What a registration does: a new row, or an update of its target. -/
theorem registerEc2Instance_ok {inp : RegisterInput} (h : registerEc2Instance cfg nodes inp = .ok nodes') :
    ∃ iid desc, requireInstanceId inp.instanceId = .ok iid ∧ inp.describe = .ok desc ∧
      ((nodes' = nodes.insert (Table.freshKey nodes) (newEc2Row cfg iid (registeredKey iid inp.nodeKey)
          (registeredMode cfg inp.executionMode) inp.catalogOnly desc)) ∨
      ∃ j r, registerTarget nodes iid (registeredKey iid inp.nodeKey) = some (j, r) ∧
        (∀ e ∈ nodes.entries, e.1 ≠ j → e.2.nodeKey ≠ registeredKey iid inp.nodeKey) ∧
        nodes' = nodes.insert j (registerRow cfg iid (registeredKey iid inp.nodeKey)
          (registeredMode cfg inp.executionMode) inp.catalogOnly desc r)) := by
  unfold registerEc2Instance at h
  cases hi : requireInstanceId inp.instanceId with
  | error e => rw [hi] at h; cases h
  | ok iid =>
      cases hd : inp.describe with
      | error e => rw [hi, hd] at h; cases h
      | ok desc =>
          rw [hi, hd] at h
          refine ⟨iid, desc, rfl, rfl, ?_⟩
          simp only [bind, Except.bind] at h
          split at h
          · cases h
          · split at h
            · exact .inl (Except.ok.inj h).symm
            · rename_i j r ht
              split at h
              · cases h
              · rename_i hany
                refine .inr ⟨j, r, ht, fun e he hej hkey => hany ?_, (Except.ok.inj h).symm⟩
                exact List.any_eq_true.mpr ⟨e, he, by simp [hej, hkey]⟩

theorem registerCatalogEc2Stub_ok {inp : StubInput}
    (h : registerCatalogEc2Stub cfg nodes inp = .ok nodes') :
    ∃ asked, nodes' = nodes.insert (Table.freshKey nodes) (stubRow cfg inp (PyText.strip inp.nodeKey)
        asked { nodeKey := PyText.strip inp.nodeKey } none) ∨
      ∃ j r, fleetByKey nodes (PyText.strip inp.nodeKey) = some (j, r) ∧
        nodes' = nodes.insert j (stubRow cfg inp (PyText.strip inp.nodeKey) asked r (some r)) := by
  unfold registerCatalogEc2Stub at h
  simp only [bind, Except.bind] at h
  split at h
  · cases h
  · split at h
    · cases h
    · split at h
      · cases h
      · rename_i asked _
        refine ⟨asked, ?_⟩
        split at h
        · exact .inl (Except.ok.inj h).symm
        · rename_i j r hkey
          split at h
          · cases h
          · exact .inr ⟨j, r, hkey, (Except.ok.inj h).symm⟩

/-- A new row is another row. -/
theorem RowAt.fresh (h : RowAt I k nodes) (r' : FleetNode) :
    RowAt I k (nodes.insert (Table.freshKey nodes) r') := by
  refine h.insert fun hj => ?_
  obtain ⟨r, hl, -⟩ := h
  rw [← hj, Table.lookup_freshKey] at hl
  cases hl

theorem RowAt.register {inp : RegisterInput} (h : RowAt I k nodes)
    (hr : registerEc2Instance cfg nodes inp = .ok nodes')
    (hrow : ∀ iid desc r, requireInstanceId inp.instanceId = .ok iid → inp.describe = .ok desc →
      registerTarget nodes iid (registeredKey iid inp.nodeKey) = some (k, r) → I r →
      I (registerRow cfg iid (registeredKey iid inp.nodeKey) (registeredMode cfg inp.executionMode)
        inp.catalogOnly desc r)) : RowAt I k nodes' := by
  obtain ⟨iid, desc, hi, hd, rfl | ⟨j, r, ht, -, rfl⟩⟩ := registerEc2Instance_ok hr
  · exact h.fresh _
  · refine h.update (registerTarget_lookup ht) fun hj hI => ?_
    subst hj
    exact hrow iid desc r hi hd ht hI

/-- The registration that `sync_node_state` makes for a row. -/
def syncRegistration (inp : SyncInput) (r : FleetNode) : RegisterInput :=
  { instanceId := PyText.stripOr r.providerInstanceId, nodeKey := some r.nodeKey
    executionMode := some r.executionMode.value, describe := inp.describe }

/-- What the sync of a node leaves in the session. -/
theorem syncNodeState_cases (cfg : FleetSettings) (nodes : Fleet) (ref : NodeRef) (inp : SyncInput) :
    (syncNodeState cfg nodes ref inp).1 = nodes ∨
    ∃ j r nodes₁ r₁, getNode nodes ref = .ok (j, r) ∧ nodes.lookup j = some r ∧
      registerEc2Instance cfg nodes (syncRegistration inp r) = .ok nodes₁ ∧
      nodes₁.lookup j = some r₁ ∧
      (syncNodeState cfg nodes ref inp).1 =
        nodes₁.insert j (promoteSynced cfg inp r.status r₁).1 := by
  unfold syncNodeState
  cases hg : getNode nodes ref with
  | error e => exact .inl rfl
  | ok p =>
      obtain ⟨j, r⟩ := p
      dsimp only
      split
      · exact .inl rfl
      · split
        · exact .inl rfl
        · split
          · exact .inl rfl
          · rename_i nodes₁ hr
            have hl := getNode_lookup hg
            obtain ⟨r₁, hl₁, -⟩ := RowAt.register (I := fun _ => True) ⟨r, hl, trivial⟩ hr
              fun _ _ _ _ _ _ _ => trivial
            rw [hl₁]
            exact .inr ⟨j, r, nodes₁, r₁, rfl, hl, hr, hl₁, rfl⟩

theorem RowAt.sync {ref : NodeRef} {inp : SyncInput} (h : RowAt I k nodes)
    (hreg : ∀ j r nodes₁, getNode nodes ref = .ok (j, r) →
      registerEc2Instance cfg nodes (syncRegistration inp r) = .ok nodes₁ → j ≠ k →
      RowAt I k nodes₁)
    (hself : ∀ r nodes₁ r₁, getNode nodes ref = .ok (k, r) → I r →
      registerEc2Instance cfg nodes (syncRegistration inp r) = .ok nodes₁ →
      nodes₁.lookup k = some r₁ → I (promoteSynced cfg inp r.status r₁).1) :
    RowAt I k (syncNodeState cfg nodes ref inp).1 := by
  rcases syncNodeState_cases cfg nodes ref inp with heq | ⟨j, r, nodes₁, r₁, hg, hl, hr, hl₁, heq⟩
  · rw [heq]
    exact h
  · rw [heq]
    by_cases hj : j = k
    · subst hj
      obtain ⟨r₀, hl₀, hI⟩ := h
      rw [hl] at hl₀
      obtain rfl := Option.some.inj hl₀
      exact ⟨_, by simp, hself r nodes₁ r₁ hg hI hr hl₁⟩
    · exact (hreg j r nodes₁ hg hr hj).insert fun hjk => absurd hjk hj

end RowAt

/-! ## Nodes that are going away -/

/-- `DRAINING`, `TERMINATING` or `TERMINATED`. -/
def NodeStatus.isRetiring : NodeStatus → Bool
  | draining | terminating | terminated => true
  | provisioning | ready | notReady | error => false

theorem not_isPromotable_of_isRetiring {st : NodeStatus} (h : st.isRetiring = true) :
    st.isPromotable = false := by
  cases st <;> first | rfl | cases h

/-- The node is going away, and is schedulable only if it already was. -/
def Retiring (b : Bool) (r : FleetNode) : Prop :=
  r.status.isRetiring = true ∧ (r.schedulable = true → b = true)

section Retiring

variable {cfg : FleetSettings} {b : Bool} {r : FleetNode}

theorem heartbeatRow_retiring (inp : HeartbeatInput) (h : Retiring b r) :
    Retiring b (heartbeatRow inp r) := by
  obtain ⟨hst, hs⟩ := h
  have hne : r.status ≠ .notReady := by rintro h; rw [h] at hst; cases hst
  unfold heartbeatRow
  dsimp only
  split
  · exact ⟨by simpa [hne] using hst, hs⟩
  · exact ⟨hst, hs⟩

theorem registerRow_retiring (iid key : String) (mode : ExecutionMode) (catalogOnly : Bool)
    (desc : Ec2InstanceDescription) (h : Retiring b r) :
    Retiring b (registerRow cfg iid key mode catalogOnly desc r) := by
  have hsync : (computeStatusSchedulableAfterEc2Sync (some r.status) desc).1.isRetiring = true ∧
      (computeStatusSchedulableAfterEc2Sync (some r.status) desc).2 = false := by
    cases hst : r.status with
    | draining => exact ⟨rfl, rfl⟩
    | terminating =>
        simp only [computeStatusSchedulableAfterEc2Sync]
        split <;> exact ⟨rfl, rfl⟩
    | terminated => exact ⟨rfl, rfl⟩
    | _ => rw [Retiring, hst] at h; cases h.1
  refine ⟨hsync.1, fun hs => ?_⟩
  simp only [registerRow, hsync.2, ite_self] at hs
  cases hs

theorem promoteSynced_retiring (inp : SyncInput) {original : NodeStatus}
    (hor : original.isRetiring = true) : (promoteSynced cfg inp original r).1 = r := by
  unfold promoteSynced
  rw [not_isPromotable_of_isRetiring hor]
  simp

theorem promote_retiring (inp : PromoteInput) (h : Retiring b r) :
    (promoteEc2NodeIfHeartbeatReady cfg inp r).1 = r := by
  unfold promoteEc2NodeIfHeartbeatReady
  rw [if_pos (by simp [isCandidate, not_isPromotable_of_isRetiring h.1])]

theorem applyResourceMetrics_retiring (now : Int) (m : HostMetrics) (h : Retiring b r) :
    Retiring b (applyResourceMetricsToNode cfg now m r) := by
  obtain ⟨hst, hs⟩ := h
  have hne : r.status ≠ .ready := by rintro h; rw [h] at hst; cases hst
  unfold applyResourceMetricsToNode
  dsimp only
  split
  · exact ⟨hst, fun h => by cases h⟩
  · exact ⟨hst, by simpa [hne] using hs⟩

theorem drainRow_retiring (h : Retiring b r) : Retiring b (drainRow r) := by
  unfold drainRow
  split
  · exact h
  · exact ⟨rfl, fun h => by cases h⟩

end Retiring

/-! ## Steps on a node that is going away -/

/-- The step is `undrain_node`, or an operator's stub registration, for node `k`. -/
def OperatorReadmits (nodes : Fleet) (k : Nat) : FleetStep → Prop
  | .undrainNode ref => ∃ r, getNode nodes ref = .ok (k, r)
  | .registerCatalogEc2Stub inp => ∃ r, fleetByKey nodes (PyText.strip inp.nodeKey) = some (k, r)
  | _ => False

/-- A failed job's message names node `k`, which the retry path then takes to `PROVISIONING`. -/
def WorkerNames (nodes : Fleet) (k : Nat) : FleetStep → Prop
  | .workerFailure nodeKey _ => ∃ r, fleetByKey nodes (PyText.stripOr nodeKey) = some (k, r)
  | _ => False

section RetiringSteps

variable {cfg : FleetSettings} {b : Bool} {nodes nodes' : Fleet} {k : Nat}

theorem RowAt.register_retiring {inp : RegisterInput} (h : RowAt (Retiring b) k nodes)
    (hr : registerEc2Instance cfg nodes inp = .ok nodes') : RowAt (Retiring b) k nodes' :=
  h.register hr fun _ _ _ _ _ _ hI => registerRow_retiring _ _ _ _ _ hI

theorem RowAt.sync_retiring (ref : NodeRef) (inp : SyncInput) (h : RowAt (Retiring b) k nodes) :
    RowAt (Retiring b) k (syncNodeState cfg nodes ref inp).1 := by
  refine h.sync (fun _ _ _ _ hr _ => h.register_retiring hr) fun r nodes₁ r₁ _ hI hr hl₁ => ?_
  rw [promoteSynced_retiring inp hI.1]
  obtain ⟨r₂, hl₂, hI₂⟩ := h.register_retiring hr
  rw [hl₁] at hl₂
  obtain rfl := Option.some.inj hl₂
  exact hI₂

theorem RowAt.syncEc2_retiring {l : List (String × Except NodeError Ec2InstanceDescription)}
    (h : RowAt (Retiring b) k nodes) (hs : syncEc2Instances cfg nodes l = .ok nodes') :
    RowAt (Retiring b) k nodes' := by
  induction l generalizing nodes with
  | nil =>
      obtain rfl := Except.ok.inj hs
      exact h
  | cons e l ih =>
      obtain ⟨iid, describe⟩ := e
      simp only [syncEc2Instances] at hs
      cases hr : registerEc2Instance cfg nodes { instanceId := PyText.strip iid, describe := describe } with
      | error e => rw [hr] at hs; cases hs
      | ok nodes₁ =>
          rw [hr] at hs
          exact ih (h.register_retiring hr) hs

theorem RowAt.monitor_retiring (now : Int) (probe : Nat → Option HostMetrics)
    (h : RowAt (Retiring b) k nodes) :
    RowAt (Retiring b) k (runEc2NodeResourceMonitorTick cfg now probe nodes) := by
  unfold runEc2NodeResourceMonitorTick
  split
  · exact h
  · generalize selectNodes _ nodes = l
    induction l generalizing nodes with
    | nil => exact h
    | cons j l ih =>
        refine ih ?_
        unfold monitorTurn
        split
        · rename_i hl _
          split
          · exact h
          · exact h.update hl fun _ => applyResourceMetrics_retiring now _
        · exact h

theorem RowAt.autoscaler_retiring (answers : Nat → SyncInput) (h : RowAt (Retiring b) k nodes) :
    RowAt (Retiring b) k (syncProvisioningEc2Nodes cfg answers nodes) := by
  unfold syncProvisioningEc2Nodes
  generalize selectNodes _ nodes = l
  induction l generalizing nodes with
  | nil => exact h
  | cons j l ih => exact ih (h.sync_retiring (.byId j) (answers j))

/-- **One step**: a node that is going away stays so. -/
theorem fleetStep_retiring {st : FleetStep} (h : RowAt (Retiring b) k nodes)
    (hop : ¬ OperatorReadmits nodes k st) (hworker : ¬ WorkerNames nodes k st) :
    RowAt (Retiring b) k (fleetStep cfg nodes st) := by
  cases st with
  | heartbeat ref inp =>
      refine h.committedOr fun nodes' hn => ?_
      obtain ⟨j, r, -, hl, hf⟩ := getNode_bind hn
      obtain rfl := Except.ok.inj hf
      exact h.update hl fun _ => heartbeatRow_retiring inp
  | registerEc2Instance inp => exact h.committedOr fun _ hn => h.register_retiring hn
  | registerCatalogEc2Stub inp =>
      refine h.committedOr fun nodes' hn => ?_
      obtain ⟨asked, rfl | ⟨j, r, hkey, rfl⟩⟩ := registerCatalogEc2Stub_ok hn
      · exact h.fresh _
      · refine h.insert fun hj => ?_
        subst hj
        exact absurd ⟨r, hkey⟩ hop
  | syncNodeState ref inp =>
      have hs : RowAt (Retiring b) k (syncNodeState cfg nodes ref inp).1 :=
        h.sync_retiring ref inp
      simp only [fleetStep]
      split
      · rename_i heq
        rw [heq] at hs
        exact hs
      · exact h
  | syncEc2Instances instances => exact h.committedOr fun _ hn => h.syncEc2_retiring hn
  | promote ref inp =>
      refine h.committedOr fun nodes' hn => ?_
      obtain ⟨j, r, -, hl, hf⟩ := getNode_bind hn
      dsimp only at hf
      split at hf
      · cases hf
      · obtain rfl := Except.ok.inj hf
        refine h.update (f := fun r => (promoteEc2NodeIfHeartbeatReady cfg inp r).1) hl fun _ hI => ?_
        rw [promote_retiring inp hI]
        exact hI
  | resourceMonitorTick now probe => exact h.monitor_retiring now probe
  | autoscalerTick answers => exact h.autoscaler_retiring answers
  | workerFailure nodeKey reason =>
      simp only [fleetStep, markFleetNodeNotReadyForRetry]
      split
      · exact h
      · split
        · exact h
        · rename_i j r hkey
          split
          · exact h
          · refine h.insert fun hj => ?_
            subst hj
            exact absurd ⟨r, hkey⟩ hworker
  | markNodeDraining ref =>
      refine h.committedOr fun nodes' hn => ?_
      obtain ⟨j, r, -, hl, hf⟩ := getNode_bind hn
      obtain rfl := Except.ok.inj hf
      exact h.update hl fun _ => drainRow_retiring
  | undrainNode ref =>
      refine h.committedOr fun nodes' hn => ?_
      obtain ⟨j, r, hg, hl, hf⟩ := getNode_bind hn
      have hj : j ≠ k := by
        rintro rfl
        exact hop ⟨r, hg⟩
      dsimp only at hf
      split at hf
      · cases hf
      · obtain rfl := Except.ok.inj hf
        exact h.insert fun hjk => absurd hjk hj
      · obtain rfl := Except.ok.inj hf
        exact h.insert fun hjk => absurd hjk hj
      · cases hf
  | deregisterNode ref =>
      refine h.committedOr fun nodes' hn => ?_
      obtain ⟨j, r, -, hl, hf⟩ := getNode_bind hn
      obtain rfl := Except.ok.inj hf
      exact h.insert fun _ => ⟨rfl, fun h => by cases h⟩

end RetiringSteps

/-- **Nodes that are going away stay away**: in every run in which no operator readmits the node
and no failed job names it, a node that was `DRAINING`, `TERMINATING` or `TERMINATED` is not
`READY` and not schedulable in any state, unless it was schedulable at the start. -/
theorem retiring_node_stays_out {cfg : FleetSettings} {nodes : Fleet} {k : Nat} {r : FleetNode}
    (hl : nodes.lookup k = some r) (hst : r.status.isRetiring = true) {steps : List FleetStep}
    (hsteps : Along (fleetStep cfg)
      (fun s st => ¬ OperatorReadmits s k st ∧ ¬ WorkerNames s k st) nodes steps) :
    Always (fleetStep cfg) (RowAt (fun r' => r'.status ≠ .ready ∧
      (r'.schedulable = true → r.schedulable = true)) k) nodes steps := by
  have h0 : RowAt (Retiring r.schedulable) k nodes := ⟨r, hl, hst, id⟩
  have hinv : Always (fleetStep cfg) (RowAt (Retiring r.schedulable) k) nodes steps :=
    always_of_along h0 (fun s st h hc => fleetStep_retiring h hc.1 hc.2) hsteps
  refine hinv.mono fun s ⟨r', hl', hst', hs⟩ => ⟨r', hl', ?_, hs⟩
  rintro h
  rw [h] at hst'
  cases hst'

/-- One EC2 node behind SSM. -/
def sampleFleet (r : FleetNode) : Fleet := AList.insert 1 r ∅

/-- A draining node with a running instance. -/
def drainingNode : FleetNode :=
  { nodeKey := "ec2-i-0123456789", providerInstanceId := some "i-0123456789"
    region := some "eu-west-1", status := .draining, schedulable := false
    defaultTopologyId := some 1 }

def runningInstance : Except NodeError Ec2InstanceDescription :=
  .ok { state := "running", region := "eu-west-1" }

/-- The gate's script ran through. -/
def gatePassed : SsmAnswer := .output "node.ready_gate.image_pull_success node.ready_gate.passed"

/-- An autoscaler that finds every instance running and every gate passed. -/
def admittingTick : FleetStep :=
  .autoscalerTick fun _ =>
    { describe := runningInstance, describeAgain := runningInstance, ssm := gatePassed }

theorem draining_node_survives_the_autoscaler :
    Always (fleetStep {}) (RowAt (fun r' => r'.status ≠ .ready ∧
        (r'.schedulable = true → drainingNode.schedulable = true)) 1) (sampleFleet drainingNode)
      [.heartbeat (.byId 1) { now := 10, dockerOk := true, diskFreeMb := 9000 }, admittingTick] :=
  retiring_node_stays_out rfl rfl ⟨⟨id, id⟩, ⟨id, id⟩, trivial⟩

/-- A job fails on the draining node, and the autoscaler makes it `READY` again. -/
theorem failed_job_readmits_draining_node :
    ¬ ∀ (cfg : FleetSettings) (nodes : Fleet) (k : Nat) (r : FleetNode),
      nodes.lookup k = some r → r.status.isRetiring = true → ∀ steps : List FleetStep,
      Along (fleetStep cfg) (fun s st => ¬ OperatorReadmits s k st) nodes steps →
      Always (fleetStep cfg) (RowAt (fun r' => r'.status ≠ .ready ∧
        (r'.schedulable = true → r.schedulable = true)) k) nodes steps := by
  intro h
  have hrun := h {} (sampleFleet drainingNode) 1 drainingNode rfl rfl
    [.workerFailure (some "ec2-i-0123456789") "ssm connectivity check failed", admittingTick]
    ⟨id, id, trivial⟩
  obtain ⟨r', hl', hne, -⟩ := hrun.last
  have hready : ((run (fleetStep {}) (sampleFleet drainingNode)
      [.workerFailure (some "ec2-i-0123456789") "ssm connectivity check failed",
        admittingTick]).lookup 1).map (·.status) = some .ready := by decide +kernel
  rw [hl'] at hready
  exact hne (Option.some.inj hready)

/-! ## Nodes kept out of scheduling -/

/-- The registration makes row `k` schedulable: it is not for the catalog, its instance runs,
and the row is `READY` or `NOT_READY`. -/
def RegisterReadmits (nodes : Fleet) (k : Nat) (inp : RegisterInput) : Prop :=
  inp.catalogOnly = false ∧ ∃ iid desc r, requireInstanceId inp.instanceId = .ok iid ∧
    inp.describe = .ok desc ∧ registerTarget nodes iid (registeredKey iid inp.nodeKey) = some (k, r) ∧
    desc.state = "running" ∧ (r.status = .ready ∨ r.status = .notReady)

/-- The sync goes on to the promotion gate. -/
def SyncInput.reachesGate (inp : SyncInput) (original : NodeStatus) : Bool :=
  inp.promoteProvisioningWhenReady && original.isPromotable &&
    match inp.describeAgain with
    | .ok desc => desc.state = "running"
    | .error _ => false

/-- The row the gate of a sync sees: a promotion by the registration is taken back. -/
def resetRow (original : NodeStatus) (r : FleetNode) : FleetNode :=
  if r.status = .ready then { r with status := original, schedulable := false } else r

/-- The row is no stub, and passes the gate of its mode. -/
def passesGate (cfg : FleetSettings) (inp : PromoteInput) (r : FleetNode) : Bool :=
  isCandidate r && readyGate cfg inp r = .passed

/-- The gate's input in a sync. -/
def SyncInput.gate (inp : SyncInput) : PromoteInput :=
  { now := inp.now, ec2State := some "running", ssm := inp.ssm }

/-- The sync makes row `k` schedulable: by its gate, or by a registration that nothing takes
back. -/
def SyncReadmits (cfg : FleetSettings) (nodes : Fleet) (k : Nat) (ref : NodeRef) (inp : SyncInput) :
    Prop :=
  ∃ j r, getNode nodes ref = .ok (j, r) ∧
    if j = k ∧ inp.reachesGate r.status = true then
      ∃ nodes₁ r₁, registerEc2Instance cfg nodes (syncRegistration inp r) = .ok nodes₁ ∧
        nodes₁.lookup k = some r₁ ∧ passesGate cfg inp.gate (resetRow r.status r₁) = true
    else RegisterReadmits nodes k (syncRegistration inp r)

/-- Some registration of the list makes row `k` schedulable. -/
def SyncEc2Readmits (cfg : FleetSettings) (k : Nat) :
    Fleet → List (String × Except NodeError Ec2InstanceDescription) → Prop
  | _, [] => False
  | nodes, (iid, describe) :: rest =>
      let inp : RegisterInput := { instanceId := PyText.strip iid, describe := describe }
      RegisterReadmits nodes k inp ∨
        ∃ nodes', registerEc2Instance cfg nodes inp = .ok nodes' ∧ SyncEc2Readmits cfg k nodes' rest

/-- Some turn of the autoscaler makes row `k` schedulable. -/
def TurnReadmits (cfg : FleetSettings) (k : Nat) (answers : Nat → SyncInput) :
    Fleet → List Nat → Prop
  | _, [] => False
  | nodes, j :: rest => SyncReadmits cfg nodes k (.byId j) (answers j) ∨
      TurnReadmits cfg k answers (syncNodeState cfg nodes (.byId j) (answers j)).1 rest

/-- The monitor sees a `READY` node recover from a low reading. -/
def monitorRecovers (cfg : FleetSettings) (now : Int) (probe : Option HostMetrics) (r : FleetNode) :
    Bool :=
  match probe with
  | none => false
  | some m => !(m.diskFreeMb.any (· < cfg.devnestNodeMinFreeDiskMb)) &&
      !(m.memoryFreeMb.any (· < cfg.devnestNodeMinFreeMemoryMb)) && r.status = .ready && r.wasLow &&
      (!cfg.devnestRequireFreshNodeHeartbeat || heartbeatWithinMaxAge cfg now r)

/-- A background writer makes row `k` schedulable. -/
def BackgroundReadmits (cfg : FleetSettings) (nodes : Fleet) (k : Nat) : FleetStep → Prop
  | .syncNodeState ref inp => SyncReadmits cfg nodes k ref inp
  | .syncEc2Instances instances => SyncEc2Readmits cfg k nodes instances
  | .promote ref inp => ∃ r, getNode nodes ref = .ok (k, r) ∧ passesGate cfg inp r = true
  | .resourceMonitorTick now probe =>
      ∃ r, nodes.lookup k = some r ∧ monitorRecovers cfg now (probe k) r = true
  | .autoscalerTick answers => TurnReadmits cfg k answers nodes
      (selectNodes (fun r => r.providerType = .ec2 && r.status.isPromotable) nodes)
  | _ => False

/-- An operator undrains node `k`, or registers it for more than the catalog. -/
def OperatorEnables (nodes : Fleet) (k : Nat) : FleetStep → Prop
  | .undrainNode ref => ∃ r, getNode nodes ref = .ok (k, r)
  | .registerEc2Instance inp => inp.catalogOnly = false ∧ ∃ iid r,
      requireInstanceId inp.instanceId = .ok iid ∧
      registerTarget nodes iid (registeredKey iid inp.nodeKey) = some (k, r)
  | _ => False

/-- The scheduler does not see the node. -/
def Unscheduled (r : FleetNode) : Prop := r.schedulable = false

section Unscheduled

variable {cfg : FleetSettings} {nodes nodes' : Fleet} {k : Nat} {r : FleetNode}

/-- Only a `READY` result of the EC2 state is schedulable. -/
theorem computeStatus_schedulable {st : NodeStatus} {desc : Ec2InstanceDescription}
    (h : (computeStatusSchedulableAfterEc2Sync (some st) desc).2 = true) :
    desc.state = "running" ∧ (st = .ready ∨ st = .notReady) ∧
      (computeStatusSchedulableAfterEc2Sync (some st) desc).1 = .ready := by
  cases st with
  | ready =>
      simp only [computeStatusSchedulableAfterEc2Sync] at h
      split at h
      · rename_i hrun
        exact ⟨hrun, .inl rfl, by simp [computeStatusSchedulableAfterEc2Sync, hrun]⟩
      · cases h
  | notReady =>
      simp only [computeStatusSchedulableAfterEc2Sync] at h
      split at h
      · rename_i hrun
        exact ⟨hrun, .inr rfl, by simp [computeStatusSchedulableAfterEc2Sync, hrun]⟩
      · cases h
  | provisioning =>
      simp only [computeStatusSchedulableAfterEc2Sync] at h
      split at h <;> cases h
  | terminating =>
      simp only [computeStatusSchedulableAfterEc2Sync] at h
      split at h <;> cases h
  | draining => cases h
  | terminated => cases h
  | error => cases h

theorem RowAt.register_unscheduled {inp : RegisterInput} (h : RowAt Unscheduled k nodes)
    (hr : registerEc2Instance cfg nodes inp = .ok nodes') (hno : ¬ RegisterReadmits nodes k inp) :
    RowAt Unscheduled k nodes' := by
  refine h.register hr fun iid desc r hi hd ht _ => ?_
  show (if inp.catalogOnly then false else _) = false
  cases hc : inp.catalogOnly with
  | true => rfl
  | false =>
      rw [if_neg (by simp)]
      by_contra hs
      obtain ⟨hrun, hst, -⟩ := computeStatus_schedulable (Bool.not_eq_false _ ▸ hs)
      exact hno ⟨hc, iid, desc, r, hi, hd, ht, hrun, hst⟩

/-- After a registration, a row is schedulable only when it is `READY`. -/
theorem RowAt.register_ready {inp : RegisterInput} (h : RowAt Unscheduled k nodes)
    (hr : registerEc2Instance cfg nodes inp = .ok nodes') :
    RowAt (fun r => r.schedulable = true → r.status = .ready) k nodes' := by
  have h' : RowAt (fun r => r.schedulable = true → r.status = .ready) k nodes := by
    obtain ⟨r, hl, hs⟩ := h
    exact ⟨r, hl, fun hs' => by rw [hs] at hs'; cases hs'⟩
  refine h'.register hr fun iid desc r hi hd ht _ => fun hs => ?_
  have hs' : (if inp.catalogOnly then false
      else (computeStatusSchedulableAfterEc2Sync (some r.status) desc).2) = true := hs
  split at hs'
  · cases hs'
  · exact (computeStatus_schedulable hs').2.2

theorem promote_unscheduled {inp : PromoteInput} (h : Unscheduled r)
    (hno : passesGate cfg inp r = false) :
    Unscheduled (promoteEc2NodeIfHeartbeatReady cfg inp r).1 := by
  unfold promoteEc2NodeIfHeartbeatReady
  split
  · exact h
  · rename_i hcand
    have hcand' : isCandidate r = true := by simpa using hcand
    cases hg : readyGate cfg inp r with
    | passed => simp [passesGate, hcand', hg] at hno
    | failed reason =>
        dsimp only
        split
        · rfl
        · exact h
    | crashed => exact h

theorem RowAt.sync_unscheduled {ref : NodeRef} {inp : SyncInput} (h : RowAt Unscheduled k nodes)
    (hno : ¬ SyncReadmits cfg nodes k ref inp) :
    RowAt Unscheduled k (syncNodeState cfg nodes ref inp).1 := by
  refine h.sync (fun j r nodes₁ hg hr hj => ?_) fun r nodes₁ r₁ hg hI hr hl₁ => ?_
  · refine h.register_unscheduled hr fun hre => hno ⟨j, r, hg, ?_⟩
    rw [if_neg fun h => hj h.1]
    exact hre
  · cases hgate : inp.reachesGate r.status with
    | false =>
        have hun : RowAt Unscheduled k nodes₁ := by
          refine h.register_unscheduled hr fun hre => hno ⟨k, r, hg, ?_⟩
          rw [if_neg (by simp [hgate])]
          exact hre
        obtain ⟨r₂, hl₂, hs⟩ := hun
        rw [hl₁] at hl₂
        obtain rfl := Option.some.inj hl₂
        unfold promoteSynced
        split
        · exact hs
        · rename_i hflag
          split
          · exact hs
          · rename_i desc hdesc
            split
            · exact hs
            · rename_i hrun
              simp only [Bool.or_eq_true, Bool.not_eq_true', not_or, Bool.not_eq_false] at hflag
              simp [SyncInput.reachesGate, hflag.1, hflag.2, hdesc, not_not.mp hrun] at hgate
    | true =>
        have hpass : passesGate cfg inp.gate (resetRow r.status r₁) = false := by
          by_contra hp
          refine hno ⟨k, r, hg, ?_⟩
          rw [if_pos ⟨rfl, hgate⟩]
          exact ⟨nodes₁, r₁, hr, hl₁, by simpa using hp⟩
        obtain ⟨r₂, hl₂, hs⟩ := h.register_ready hr
        rw [hl₁] at hl₂
        obtain rfl := Option.some.inj hl₂
        have hreset : Unscheduled (resetRow r.status r₁) := by
          unfold resetRow
          split
          · rfl
          · rename_i hne
            exact Bool.eq_false_iff.mpr fun hs' => hne (hs hs')
        simp only [SyncInput.reachesGate, Bool.and_eq_true] at hgate
        unfold promoteSynced
        rw [if_neg (by simp [hgate.1.1, hgate.1.2])]
        split
        · rename_i hdesc; rw [hdesc] at hgate; exact absurd hgate.2 (by simp)
        · rename_i desc hdesc
          rw [hdesc] at hgate
          have hrun : desc.state = "running" := by simpa using hgate.2
          rw [if_neg (by simp [hrun]), hrun]
          exact promote_unscheduled hreset hpass

theorem RowAt.syncEc2_unscheduled {l : List (String × Except NodeError Ec2InstanceDescription)}
    (h : RowAt Unscheduled k nodes) (hno : ¬ SyncEc2Readmits cfg k nodes l)
    (hs : syncEc2Instances cfg nodes l = .ok nodes') : RowAt Unscheduled k nodes' := by
  induction l generalizing nodes with
  | nil =>
      obtain rfl := Except.ok.inj hs
      exact h
  | cons e l ih =>
      obtain ⟨iid, describe⟩ := e
      simp only [syncEc2Instances] at hs
      simp only [SyncEc2Readmits, not_or] at hno
      cases hr : registerEc2Instance cfg nodes { instanceId := PyText.strip iid, describe := describe } with
      | error e => rw [hr] at hs; cases hs
      | ok nodes₁ =>
          rw [hr] at hs
          exact ih (h.register_unscheduled hr hno.1) (fun hre => hno.2 ⟨nodes₁, hr, hre⟩) hs

/-- A reading that does not recover the node leaves it unscheduled, and so does the next one. -/
theorem applyResourceMetrics_unscheduled {now : Int} {m : HostMetrics} (h : Unscheduled r)
    (hno : monitorRecovers cfg now (some m) r = false) :
    Unscheduled (applyResourceMetricsToNode cfg now m r) ∧
      monitorRecovers cfg now (some m) (applyResourceMetricsToNode cfg now m r) = false := by
  unfold Unscheduled at h
  unfold monitorRecovers at hno
  dsimp only at hno
  unfold applyResourceMetricsToNode
  dsimp only
  split
  · rename_i hlow
    refine ⟨rfl, ?_⟩
    simp only [monitorRecovers]
    rcases Bool.or_eq_true _ _ |>.mp hlow with hd | hm
    · simp [hd]
    · simp [hm]
  · rename_i hlow
    simp only [Bool.or_eq_true, not_or, Bool.not_eq_true] at hlow
    simp only [hlow.1, hlow.2, Bool.not_false, Bool.true_and] at hno
    refine ⟨?_, ?_⟩
    · show (r.schedulable || _) = false
      rw [h, Bool.false_or]
      exact hno
    · simp [monitorRecovers, FleetNode.wasLow]

theorem RowAt.monitor_unscheduled {now : Int} {probe : Nat → Option HostMetrics}
    (h : RowAt Unscheduled k nodes)
    (hno : ¬ ∃ r, nodes.lookup k = some r ∧ monitorRecovers cfg now (probe k) r = true) :
    RowAt Unscheduled k (runEc2NodeResourceMonitorTick cfg now probe nodes) := by
  unfold runEc2NodeResourceMonitorTick
  split
  · exact h
  · -- a turn leaves the row such that a second one would not recover it either
    have hstart : RowAt (fun r => Unscheduled r ∧ monitorRecovers cfg now (probe k) r = false) k
        nodes := by
      obtain ⟨r, hl, hs⟩ := h
      exact ⟨r, hl, hs, Bool.eq_false_iff.mpr fun hre => hno ⟨r, hl, hre⟩⟩
    have hfold : ∀ (l : List Nat) (nodes : Fleet),
        RowAt (fun r => Unscheduled r ∧ monitorRecovers cfg now (probe k) r = false) k nodes →
        RowAt (fun r => Unscheduled r ∧ monitorRecovers cfg now (probe k) r = false) k
          (l.foldl (monitorTurn cfg now probe) nodes) := by
      intro l
      induction l with
      | nil => exact fun _ h => h
      | cons j l ih =>
          intro nodes h
          refine ih _ ?_
          unfold monitorTurn
          split
          · rename_i hl hprobe
            split
            · exact h
            · refine h.update hl fun hj ⟨hs, hrec⟩ => ?_
              subst hj
              rw [hprobe] at hrec ⊢
              exact applyResourceMetrics_unscheduled hs hrec
          · exact h
    obtain ⟨r, hl, hs, -⟩ := hfold _ nodes hstart
    exact ⟨r, hl, hs⟩

theorem RowAt.autoscaler_unscheduled {answers : Nat → SyncInput} {l : List Nat}
    (h : RowAt Unscheduled k nodes) (hno : ¬ TurnReadmits cfg k answers nodes l) :
    RowAt Unscheduled k
      (l.foldl (fun nodes j => (syncNodeState cfg nodes (.byId j) (answers j)).1) nodes) := by
  induction l generalizing nodes with
  | nil => exact h
  | cons j l ih =>
      simp only [TurnReadmits, not_or] at hno
      exact ih (h.sync_unscheduled hno.1) hno.2

/-- **One step**: a node the scheduler does not see stays unseen. -/
theorem fleetStep_unscheduled {st : FleetStep} (h : RowAt Unscheduled k nodes)
    (hop : ¬ OperatorEnables nodes k st) (hbg : ¬ BackgroundReadmits cfg nodes k st) :
    RowAt Unscheduled k (fleetStep cfg nodes st) := by
  cases st with
  | heartbeat ref inp =>
      refine h.committedOr fun nodes' hn => ?_
      obtain ⟨j, r, -, hl, hf⟩ := getNode_bind hn
      obtain rfl := Except.ok.inj hf
      refine h.update hl fun _ hI => ?_
      unfold heartbeatRow
      dsimp only
      split
      · exact hI
      · exact hI
  | registerEc2Instance inp =>
      refine h.committedOr fun nodes' hn => h.register_unscheduled hn fun hre => ?_
      obtain ⟨hc, iid, desc, r, hi, -, ht, -⟩ := hre
      exact hop ⟨hc, iid, r, hi, ht⟩
  | registerCatalogEc2Stub inp =>
      refine h.committedOr fun nodes' hn => ?_
      obtain ⟨asked, rfl | ⟨j, r, -, rfl⟩⟩ := registerCatalogEc2Stub_ok hn
      · exact h.fresh _
      · exact h.insert fun _ => rfl
  | syncNodeState ref inp =>
      have hs := h.sync_unscheduled hbg
      simp only [fleetStep]
      split
      · rename_i heq
        rw [heq] at hs
        exact hs
      · exact h
  | syncEc2Instances instances => exact h.committedOr fun _ hn => h.syncEc2_unscheduled hbg hn
  | promote ref inp =>
      refine h.committedOr fun nodes' hn => ?_
      obtain ⟨j, r, hg, hl, hf⟩ := getNode_bind hn
      dsimp only at hf
      split at hf
      · cases hf
      · obtain rfl := Except.ok.inj hf
        refine h.update (f := fun r => (promoteEc2NodeIfHeartbeatReady cfg inp r).1) hl
          fun hj hI => promote_unscheduled hI ?_
        subst hj
        exact Bool.eq_false_iff.mpr fun hp => hbg ⟨r, hg, hp⟩
  | resourceMonitorTick now probe => exact h.monitor_unscheduled hbg
  | autoscalerTick answers => exact h.autoscaler_unscheduled hbg
  | workerFailure nodeKey reason =>
      simp only [fleetStep, markFleetNodeNotReadyForRetry]
      split
      · exact h
      · split
        · exact h
        · split
          · exact h
          · exact h.insert fun _ => rfl
  | markNodeDraining ref =>
      refine h.committedOr fun nodes' hn => ?_
      obtain ⟨j, r, -, hl, hf⟩ := getNode_bind hn
      obtain rfl := Except.ok.inj hf
      refine h.update hl fun _ hI => ?_
      unfold drainRow
      split
      · exact hI
      · rfl
  | undrainNode ref =>
      refine h.committedOr fun nodes' hn => ?_
      obtain ⟨j, r, hg, hl, hf⟩ := getNode_bind hn
      have hj : j ≠ k := by
        rintro rfl
        exact hop ⟨r, hg⟩
      dsimp only at hf
      split at hf
      · cases hf
      · obtain rfl := Except.ok.inj hf
        exact h.insert fun hjk => absurd hjk hj
      · obtain rfl := Except.ok.inj hf
        exact h.insert fun hjk => absurd hjk hj
      · cases hf
  | deregisterNode ref =>
      refine h.committedOr fun nodes' hn => ?_
      obtain ⟨j, r, -, hl, hf⟩ := getNode_bind hn
      obtain rfl := Except.ok.inj hf
      exact h.insert fun _ => rfl

end Unscheduled

/-- **Catalog nodes stay out of scheduling**: once a registration for the catalog, or anything
else, has left a node unschedulable, it is so in every state of every run in which no operator
enables the node and no background writer takes one of its readmitting branches. -/
theorem unscheduled_node_stays_out {cfg : FleetSettings} {nodes : Fleet} {k : Nat} {r : FleetNode}
    (hl : nodes.lookup k = some r) (hs : r.schedulable = false) {steps : List FleetStep}
    (hsteps : Along (fleetStep cfg)
      (fun s st => ¬ OperatorEnables s k st ∧ ¬ BackgroundReadmits cfg s k st) nodes steps) :
    Always (fleetStep cfg) (RowAt Unscheduled k) nodes steps :=
  always_of_along ⟨r, hl, hs⟩ (fun _ _ h hc => fleetStep_unscheduled h hc.1 hc.2) hsteps

/-- A registration for the catalog, hydrated from AWS or not. -/
def isCatalogRegistration : FleetStep → Bool
  | .registerEc2Instance inp => inp.catalogOnly
  | .registerCatalogEc2Stub _ => true
  | _ => false

/-- A running instance, registered for the catalog. -/
def catalogRegistration : FleetStep :=
  .registerEc2Instance
    { instanceId := "i-0123456789", catalogOnly := true, describe := runningInstance }

theorem catalog_node_survives_heartbeats :
    Always (fleetStep {}) (RowAt Unscheduled 1) (fleetStep {} ∅ catalogRegistration)
      [.heartbeat (.byId 1) { now := 10, dockerOk := true, diskFreeMb := 9000 },
       .resourceMonitorTick 20 fun _ => some { diskFreeMb := some 20480, memoryFreeMb := some 2048 }] := by
  refine unscheduled_node_stays_out rfl rfl ⟨⟨id, id⟩, ⟨id, ?_⟩, trivial⟩
  rintro ⟨r, hl, hrec⟩
  obtain rfl := Option.some.inj hl
  revert hrec
  decide +kernel

/-- The next EC2 sync makes the catalog node schedulable. -/
theorem sync_readmits_catalog_node :
    ¬ ∀ (cfg : FleetSettings) (nodes : Fleet) (reg : FleetStep) (k : Nat) (r : FleetNode),
      isCatalogRegistration reg = true → (fleetStep cfg nodes reg).lookup k = some r →
      r.schedulable = false → ∀ steps : List FleetStep,
      Along (fleetStep cfg) (fun s st => ¬ OperatorEnables s k st) (fleetStep cfg nodes reg) steps →
      Always (fleetStep cfg) (RowAt Unscheduled k) (fleetStep cfg nodes reg) steps := by
  intro h
  have hrun := h {} ∅ catalogRegistration 1 _ rfl rfl rfl
    [.syncEc2Instances [("i-0123456789", runningInstance)]] ⟨id, trivial⟩
  obtain ⟨r', hl', hs⟩ := hrun.last
  have hsched : ((run (fleetStep {}) (fleetStep {} ∅ catalogRegistration)
      [.syncEc2Instances [("i-0123456789", runningInstance)]]).lookup 1).map (·.schedulable) =
        some true := by decide +kernel
  rw [hl'] at hsched
  rw [Option.map_some, hs] at hsched
  cases hsched

end Devnest
