import Devnest.Autoscaler
import Devnest.Whereabouts

/-!
# Scale-down beside the workers

`execute_scale_down` picks an idle EC2 node, drains it and commits, counts
its workspaces again and terminates the instance. A worker's placement holds
the node's row until its first commit, which on such a node is the job's last.
So a drain that waits for the row counts what the worker has written. But a
drain holds only until somebody undoes it: a second scale-down that finds a
workspace on the node makes it READY again, and the first one, which has
counted when the workspace was gone, terminates it under the next job.

`scale_down_spares_used_nodes` needs of every drain that the executions on
the node which no longer hold its row have their workspace there already, and
of every undrain that no other scale-down counts on the drain it undoes.
-/

namespace Devnest

open PyText Runs

/-! ## Counting -/

/-- `_ACTIVE_EC2_NODE_STATUSES`, on a catalog row. -/
def ExecutionNode.isActiveEc2 (node : ExecutionNode) : Bool :=
  node.providerType = "ec2" && node.status ∈
    ["PROVISIONING", "READY", "NOT_READY", "DRAINING", "TERMINATING", "ERROR"]

/-- `_active_ec2_nodes_count`. -/
def activeEc2NodesCount (db : Db) : Nat := Table.rowCount ExecutionNode.isActiveEc2 db.executionNodes

/-- The workspace or its runtime row names the node. -/
def namesNode (nid : Nat) (nodeKey : String) (ws : Workspace) (rt : Option WorkspaceRuntime) : Bool :=
  ws.executionNodeId = some nid ||
    (strip nodeKey ≠ "" && rt.any fun r => r.nodeId = some (strip nodeKey))

/-- Whether `_active_workspace_count_for_scale_down` counts the workspace. -/
def Db.isAssociated (db : Db) (nid : Nat) (nodeKey : String) (w : Nat) (ws : Workspace) : Bool :=
  ws.status ≠ .deleted && namesNode nid nodeKey ws (db.runtimes.lookup w)

def activeWorkspaceCountForScaleDown (db : Db) (nid : Nat) (nodeKey : String) : Nat :=
  Table.entryCount (db.isAssociated nid nodeKey) db.workspaces

/-! ## The parts of a scale-down -/

structure ScaleDownInput where
  decision : FleetAutoscalerDecision
  latestEc2ScaleInAge : Option Int := none
  /-- `provider_instance_id` of the node. -/
  instanceId : String

/-- `execute_scale_down` up to the drain: the node it goes on with. -/
def scaleDownTarget (auto : AutoscalerSettings) (db : Db) (inp : ScaleDownInput) :
    Option (Nat × String) :=
  let nk := stripOr inp.decision.scaleDownNodeKey
  if inp.decision.action ≠ .scaleInRecommended || !auto.enabled then none
  else if activeEc2NodesCount db ≤ auto.minNodes then none
  else if youngerThan inp.latestEc2ScaleInAge auto.scaleInCooldownSeconds then none
  else if nk = "" then none
  else match nodeByKey db.executionNodes nk with
    | none => none
    | some (nid, node) =>
        if strip node.providerType ≠ "ec2" || strip node.status ≠ "READY" || !node.schedulable then
          none
        else if activeWorkspaceCountForScaleDown db nid node.nodeKey ≠ 0 then none
        else if strip inp.instanceId = "" then none
        else some (nid, nk)

/-- What `mark_node_draining` writes to a row that was loaded as `READY`. -/
def drainNode (node : ExecutionNode) : ExecutionNode :=
  { node with status := "DRAINING", schedulable := false }

/-- What `undrain_node` writes; other statuses raise. -/
def undrainNodeRow (node : ExecutionNode) : ExecutionNode :=
  if node.status = "DRAINING" || node.status = "READY" then
    { node with status := "READY", schedulable := true }
  else node

/-- The status `terminate_ec2_node` ends with: `none` when AWS refuses, else the state it reports. -/
def terminateStatus : Option String → String
  | none => "ERROR"
  | some state => if state ∈ ["terminated", "shutting-down"] then "TERMINATED" else "TERMINATING"

/-- What `terminate_ec2_node` writes: of the row as the session has `loaded` it, the columns that
it changes. -/
def terminateNodeRow (state : Option String) (loaded node : ExecutionNode) : ExecutionNode :=
  if loaded.providerType ≠ "ec2" || loaded.status = "TERMINATED" then node
  else
    { node with
      schedulable := node.schedulable && !loaded.schedulable
      status :=
        if terminateStatus state = loaded.status then node.status else terminateStatus state }

def Db.setNode (db : Db) (nid : Nat) (node : ExecutionNode) : Db :=
  { db with executionNodes := db.executionNodes.insert nid node }

/-! ## Interleavings -/

inductive ScaleDownPhase where
  /-- Past its checks; the `UPDATE` of the drain may wait for the row. -/
  | checked
  | drained
  /-- The second count was zero. -/
  | counted
  deriving DecidableEq, Repr

structure ScaleDown where
  nid : Nat
  nodeKey : String
  phase : ScaleDownPhase := .checked
  /-- The row as the second count found it; the session does not read it again. -/
  loaded : Option ExecutionNode := none
  deriving DecidableEq, Repr

structure ScaleDownState where
  books : BookState
  scaling : Table Nat ScaleDown := ∅

/-- The scheduler may still place on the node. -/
def Db.admitsNode (db : Db) (key : String) : Bool :=
  (nodeByKey db.executionNodes key).any fun p => p.2.schedulable && p.2.status = "READY"

/-- A worker holds the node's row. -/
def BookState.rowLocked (st : BookState) (key : String) : Bool :=
  st.live.entries.any fun e => e.2.lock = .held && e.2.picked.any fun p => p.1 = key

inductive ScaleDownStep where
  | request (q : LifecycleRequest)
  | claim (entry : EntryPoint) (clk : Clock) (query : SchedulerInput)
      (staleHeartbeat : Option String) (jid : Nat)
  /-- The lock an execution waits for is given to it, and the row is checked again. -/
  | lockNode (c : Nat) (query : SchedulerInput)
  | adapterCommit (c : Nat)
  | finish (c : Nat) (inp : WorkerInput)
  /-- A process enters `execute_scale_down`. -/
  | check (p : Nat) (inp : ScaleDownInput)
  | drain (p : Nat)
  | recount (p : Nat)
  | terminate (p : Nat) (state : Option String)

section Steps

variable (cfg : Settings) (caps : Table String NodeCapacity) (auto : AutoscalerSettings)

/-- The node an execution's orchestrator is built for. -/
def PlacedJob.placedOn (e : PlacedJob) : Option String :=
  match e.placement with
  | .ok (nodeKey, _) => some (orchestratorNodeKey cfg nodeKey)
  | .error _ => none

/-- `defer_topology_attach` of the node's bundle: its topology adapter never commits. -/
def ExecutionNode.defersTopologyAttach (node : ExecutionNode) : Bool :=
  lower (strip node.executionMode) ∈ ["ssm_docker", "ssh_docker"]

/-- The execution works on a node of that kind. -/
def PlacedJob.defersAttach (db : Db) (e : PlacedJob) : Bool :=
  (e.placedOn cfg).any fun key =>
    (nodeByKey db.executionNodes key).any fun p => p.2.defersTopologyAttach

/-- A row that is no longer `READY` drops out of the query, which goes on without it. -/
def relock (st : BookState) (c : Nat) (e : PlacedJob) (s : Session) (query : SchedulerInput) :
    PlacedJob :=
  if e.picked.all fun p => st.db.admitsNode p.1 then { e with lock := .held }
  else
    let schedule := selectNodeForWorkspace cfg caps query st.db
    let placement := scheduleWorkspacePlacement cfg { schedule := schedule } s
    match schedule with
    | .chosen node =>
        { e with
          placement := placement, picked := some (node.nodeKey, st.db.load node.nodeKey)
          lock := if st.lockedBy c node.nodeKey then .waiting else .held }
    | .invalidRequest _ | .noNode _ =>
        { e with placement := placement, picked := none, lock := .none }

def relockStep (st : BookState) (c : Nat) (e : PlacedJob) (s : Session) (query : SchedulerInput) :
    BookState :=
  if e.lock = .waiting && !e.picked.any fun p => st.lockedBy c p.1 then
    { st with live := st.live.insert c (relock cfg caps st c e s query) }
  else st

def workerStep (st : BookState) : ScaleDownStep → BookState
  | .request q => { st with db := accepted st.db (q.answer st.db) }
  | .claim entry clk query staleHeartbeat jid =>
      claimStep cfg caps st entry clk query staleHeartbeat jid
  | .lockNode c query =>
      match st.live.lookup c with
      | none => st
      | some e =>
          match e.session st.db with
          | none => st
          | some s => relockStep cfg caps st c e s query
  | .adapterCommit c =>
      match st.live.lookup c with
      | none => st
      | some e =>
          match e.session st.db with
          | none => st
          | some s => if e.defersAttach cfg st.db then st else adapterCommitStep st c e s
  | .finish c inp =>
      match st.live.lookup c with
      | none => st
      | some e =>
          match e.session st.db with
          | none => st
          | some s => finishStep cfg inp st c e s
  | .check _ _ | .drain _ | .recount _ | .terminate _ _ => st

def drainStep (st : ScaleDownState) (p : Nat) (d : ScaleDown) : ScaleDownState :=
  if d.phase ≠ .checked || st.books.rowLocked d.nodeKey then st
  else match st.books.db.executionNodes.lookup d.nid with
    | none => { st with scaling := st.scaling.erase p }
    | some node =>
        { books := { st.books with db := st.books.db.setNode d.nid (drainNode node) }
          scaling := st.scaling.insert p { d with phase := .drained } }

def recountStep (st : ScaleDownState) (p : Nat) (d : ScaleDown) : ScaleDownState :=
  if d.phase ≠ .drained then st
  else match nodeByKey st.books.db.executionNodes d.nodeKey with
    | none => { st with scaling := st.scaling.erase p }
    | some (nid, node) =>
        if activeWorkspaceCountForScaleDown st.books.db nid node.nodeKey = 0 then
          { st with scaling := st.scaling.insert p { d with phase := .counted, loaded := some node } }
        else if st.books.rowLocked d.nodeKey then st
        else
          { books := { st.books with db := st.books.db.setNode nid (undrainNodeRow node) }
            scaling := st.scaling.erase p }

def terminateStep (state : Option String) (st : ScaleDownState) (p : Nat) (d : ScaleDown) :
    ScaleDownState :=
  -- the first `UPDATE`, which comes before the call to AWS, waits for the row
  if d.phase ≠ .counted || st.books.rowLocked d.nodeKey then st
  else match nodeByKey st.books.db.executionNodes d.nodeKey with
    | none => { st with scaling := st.scaling.erase p }
    | some (nid, node) =>
        { books := { st.books with
            db := st.books.db.setNode nid (terminateNodeRow state (d.loaded.getD node) node) }
          scaling := st.scaling.erase p }

def scaleDownStep (st : ScaleDownState) (i : ScaleDownStep) : ScaleDownState :=
  match i with
  | .check p inp =>
      if (st.scaling.lookup p).isSome then st
      else match scaleDownTarget auto st.books.db inp with
        | none => st
        | some (nid, nk) => { st with scaling := st.scaling.insert p { nid := nid, nodeKey := nk } }
  | .drain p =>
      match st.scaling.lookup p with
      | none => st
      | some d => drainStep st p d
  | .recount p =>
      match st.scaling.lookup p with
      | none => st
      | some d => recountStep st p d
  | .terminate p state =>
      match st.scaling.lookup p with
      | none => st
      | some d => terminateStep state st p d
  | .request _ | .claim _ _ _ _ _ | .lockNode _ _ | .adapterCommit _ | .finish _ _ =>
      { st with books := workerStep cfg caps st.books i }

end Steps

/-! ## The law and its condition -/

/-- The rows of the catalog have trimmed keys, and no two the same. -/
structure CleanKeys (nodes : Table Nat ExecutionNode) : Prop where
  stripped : ∀ {nid node}, nodes.lookup nid = some node →
    strip node.nodeKey = node.nodeKey ∧ node.nodeKey ≠ ""
  unique : ∀ {nid nid' node node'}, nodes.lookup nid = some node →
    nodes.lookup nid' = some node' → node.nodeKey = node'.nodeKey → nid = nid'

section Law

variable (cfg : Settings) (caps : Table String NodeCapacity)

/-- No execution has selected the node, and no workspace that is not `DELETED` names it. -/
def Unused (st : BookState) (d : ScaleDown) : Prop :=
  (∀ c e, st.live.lookup c = some e → e.lock ≠ .waiting → e.placedOn cfg ≠ some d.nodeKey) ∧
    ∀ w ws, st.db.workspaces.lookup w = some ws → st.db.isAssociated d.nid d.nodeKey w ws = false

/-- If the step calls `terminate_ec2_node`, the node is unused. -/
def TerminatesUnused (st : ScaleDownState) : ScaleDownStep → Prop
  | .terminate p _ => ∀ d, st.scaling.lookup p = some d → d.phase = .counted →
      Unused cfg st.books d
  | _ => True

/-- The workspace of an execution on the node is counted there. -/
def settledOn (db : Db) (d : ScaleDown) (e : PlacedJob) : Bool :=
  e.placedOn cfg ≠ some d.nodeKey ||
    (db.workspaces.lookup e.row.workspaceId).any fun ws =>
      db.isAssociated d.nid d.nodeKey e.row.workspaceId ws

/-- Every execution that selected the node and does not hold its row is counted there. -/
def drainSpares (st : BookState) (d : ScaleDown) : Bool :=
  st.live.entries.all fun e => e.2.lock = .waiting || settledOn cfg st.db d e.2

/-- A job that does not ask the scheduler is counted on its node, if that is being drained. -/
def claimSpares (st : ScaleDownState) (entry : EntryPoint) (clk : Clock) (query : SchedulerInput)
    (staleHeartbeat : Option String) (jid : Nat) : Bool :=
  (st.books.db.jobs.lookup jid).all fun job =>
    (st.books.db.workspaces.lookup job.workspaceId).all fun ws =>
      let e := placeJob cfg caps query staleHeartbeat entry jid st.books.db
        (Session.load st.books.db (markJobRunning clk job) ws)
      e.picked.isSome ||
        st.scaling.entries.all fun d => d.2.phase = .checked || settledOn cfg st.books.db d.2 e

/-- A workspace that was `DELETED` is not opened again on a node found empty. -/
def requestSpares (st : ScaleDownState) (q : LifecycleRequest) : Bool :=
  q.target.all fun w => (st.books.db.workspaces.lookup w).all fun ws =>
    ws.status ≠ .deleted || st.scaling.entries.all fun d =>
      d.2.phase ≠ .counted || !namesNode d.2.nid d.2.nodeKey ws (st.books.db.runtimes.lookup w)

/-- A node is undrained only if no other scale-down has drained it. -/
def undrainSpares (st : ScaleDownState) (p : Nat) (d : ScaleDown) : Bool :=
  activeWorkspaceCountForScaleDown st.books.db d.nid d.nodeKey = 0 ||
    st.books.rowLocked d.nodeKey || st.scaling.entries.all fun d' => d'.1 = p || d'.2.phase = .checked || d'.2.nid ≠ d.nid

def sparesUsed (st : ScaleDownState) : ScaleDownStep → Bool
  | .request q => requestSpares st q
  | .claim entry clk query staleHeartbeat jid =>
      claimSpares cfg caps st entry clk query staleHeartbeat jid
  | .drain p => (st.scaling.lookup p).all fun d =>
      d.phase ≠ .checked || st.books.rowLocked d.nodeKey || drainSpares cfg st.books d
  | .recount p => (st.scaling.lookup p).all fun d => d.phase ≠ .drained || undrainSpares st p d
  | .lockNode _ _ | .adapterCommit _ | .finish _ _ | .check _ _ | .terminate _ _ => true

end Law

/-! ## Keys and rows of the catalog -/

section Keys

variable {t t' : Table Nat ExecutionNode}

/-- The same keys under the same ids. -/
def SameKeys (t t' : Table Nat ExecutionNode) : Prop :=
  ∀ nid, (t'.lookup nid).map (·.nodeKey) = (t.lookup nid).map (·.nodeKey)

theorem SameKeys.lookup (h : SameKeys t t') {nid : Nat} {node' : ExecutionNode}
    (hn : t'.lookup nid = some node') :
    ∃ node, t.lookup nid = some node ∧ node.nodeKey = node'.nodeKey := by
  have hkey := h nid
  rw [hn, Option.map_some] at hkey
  exact Option.map_eq_some_iff.mp hkey.symm

theorem SameKeys.symm (h : SameKeys t t') : SameKeys t' t := fun nid => (h nid).symm

theorem CleanKeys.congr (h : CleanKeys t) (hkeys : SameKeys t t') : CleanKeys t' := by
  constructor
  · intro nid node' hn
    obtain ⟨node, hnode, hkey⟩ := hkeys.lookup hn
    rw [← hkey]
    exact h.stripped hnode
  · intro nid nid' node node' hn hn' heq
    obtain ⟨x, hx, hxkey⟩ := hkeys.lookup hn
    obtain ⟨x', hx', hxkey'⟩ := hkeys.lookup hn'
    exact h.unique hx hx' (hxkey.trans (heq.trans hxkey'.symm))

theorem Withdrawn.sameKeys (h : Withdrawn t t') : SameKeys t t' := by
  intro nid
  cases hn : t.lookup nid with
  | some node =>
      obtain ⟨node', hn', hkey, -⟩ := h.kept nid node hn
      rw [hn', Option.map_some, Option.map_some, hkey]
  | none =>
      cases hn' : t'.lookup nid with
      | none => rfl
      | some node' =>
          obtain ⟨node, hnode⟩ := h.old nid node' hn'
          rw [hn] at hnode
          cases hnode

theorem sameKeys_insert {nid : Nat} {node node' : ExecutionNode} (h : t.lookup nid = some node)
    (hkey : node'.nodeKey = node.nodeKey) : SameKeys t (t.insert nid node') := by
  intro k
  rw [Table.lookup_insert_eq]
  split
  · rename_i hk
    rw [hk, h, Option.map_some, Option.map_some, hkey]
  · rfl

theorem CleanKeys.orchestratorNodeKey_eq (h : CleanKeys t) (cfg : Settings) {nid : Nat}
    {node : ExecutionNode} (hn : t.lookup nid = some node) :
    orchestratorNodeKey cfg node.nodeKey = node.nodeKey := by
  obtain ⟨hstrip, hne⟩ := h.stripped hn
  rw [orchestratorNodeKey, hstrip, if_neg hne]

/-- The scheduler chooses among the rows that admit work. -/
theorem selectNodeForWorkspace_admits {cfg : Settings} {caps : Table String NodeCapacity}
    {inp : SchedulerInput} {db : Db} {node : ExecutionNode}
    (h : selectNodeForWorkspace cfg caps inp db = .chosen node) :
    ∃ nid, db.executionNodes.lookup nid = some node ∧ node.schedulable = true ∧
      node.status = "READY" := by
  unfold selectNodeForWorkspace at h
  split at h
  · cases h
  · split at h
    · cases h
    · rename_i c hc
      obtain rfl : c.node = node := by injection h
      obtain ⟨⟨nid, row⟩, hmem, hcand⟩ := List.mem_filterMap.mp (firstCandidate_mem hc)
      unfold candidate? at hcand
      split at hcand
      · cases hcand
      · dsimp only at hcand
        split at hcand
        · rename_i hadmit
          simp only [Bool.and_eq_true, decide_eq_true_eq] at hadmit
          obtain rfl := Option.some.inj hcand
          refine ⟨nid, AList.mem_lookup_iff.mpr hmem, ?_⟩
          tauto
        · cases hcand

end Keys

/-! ## The invariant -/

section Invariant

variable (cfg : Settings)

/-- An execution and the node it picked. -/
structure PickOk (db : Db) (e : PlacedJob) : Prop where
  waits : e.lock = .waiting → e.picked ≠ none
  picks : ∀ p ∈ e.picked, (∃ nid node, db.executionNodes.lookup nid = some node ∧
    node.nodeKey = p.1) ∧ ∀ k tid, e.placement = .ok (k, tid) → k = p.1

/-- What a scale-down relies on: after its drain the row admits no work and every execution on the
node is counted there, and after its second count nothing is. -/
structure Guarded (st : BookState) (d : ScaleDown) : Prop where
  row : ∃ node, st.db.executionNodes.lookup d.nid = some node ∧ node.nodeKey = d.nodeKey ∧
    (d.phase ≠ .checked → node.schedulable = true → node.status ≠ "READY")
  placed : d.phase ≠ .checked → ∀ c e, st.live.lookup c = some e → e.lock ≠ .waiting →
    settledOn cfg st.db d e = true
  counted : d.phase = .counted → ∀ w ws, st.db.workspaces.lookup w = some ws →
    st.db.isAssociated d.nid d.nodeKey w ws = false

structure ScaleInv (st : ScaleDownState) : Prop where
  jobs : OpenJobs st.books
  rows : ∀ w, (st.books.db.runtimes.lookup w).isSome → (st.books.db.workspaces.lookup w).isSome
  keys : CleanKeys st.books.db.executionNodes
  picks : ∀ c e, st.books.live.lookup c = some e → PickOk st.books.db e
  guarded : ∀ p d, st.scaling.lookup p = some d → Guarded cfg st.books d

end Invariant

variable {cfg : Settings} {caps : Table String NodeCapacity} {auto : AutoscalerSettings}

/-- A node found empty is unused. -/
theorem Guarded.unused {st : BookState} {d : ScaleDown} (h : Guarded cfg st d)
    (hd : d.phase = .counted) : Unused cfg st d := by
  refine ⟨fun c e he hlock hon => ?_, h.counted hd⟩
  have hset := h.placed (by rw [hd]; decide) c e he hlock
  rw [settledOn, hon] at hset
  simp only [ne_eq, not_true_eq_false, decide_false, Bool.false_or] at hset
  cases hws : st.db.workspaces.lookup e.row.workspaceId with
  | none =>
      rw [hws] at hset
      cases hset
  | some ws =>
      rw [hws, Option.any_some, h.counted hd _ ws hws] at hset
      cases hset

/-! ## Naming a node -/

/-- Writing a busy workspace that names no new node. -/
theorem isAssociated_of_namesNode {db : Db} {nid w : Nat} {key : String} {ws : Workspace}
    (hst : ws.status ≠ .deleted) :
    db.isAssociated nid key w ws = namesNode nid key ws (db.runtimes.lookup w) := by
  rw [Db.isAssociated, decide_eq_true hst, Bool.true_and]

theorem ne_deleted_of_isBusy {st : WorkspaceStatus} (h : st.isBusy = true) : st ≠ .deleted := by
  rintro rfl
  cases h

theorem namesNode_iff {nid : Nat} {key : String} {ws : Workspace} {rt : Option WorkspaceRuntime} :
    namesNode nid key ws rt = true ↔ ws.executionNodeId = some nid ∨
      (strip key ≠ "" ∧ ∃ r ∈ rt, r.nodeId = some (strip key)) := by
  simp [namesNode, Option.any_eq_true]

theorem settledOn_of_ne {db : Db} {d : ScaleDown} {e : PlacedJob}
    (h : e.placedOn cfg ≠ some d.nodeKey) : settledOn cfg db d e = true := by
  rw [settledOn, decide_eq_true h, Bool.true_or]

/-- An execution stays counted where its workspace does. -/
theorem settledOn_mono {db db' : Db} {d d' : ScaleDown} {e e' : PlacedJob}
    (hplace : e'.placement = e.placement) (hrow : e'.row = e.row)
    (hkey : d'.nodeKey = d.nodeKey)
    (hws : ∀ ws, db.workspaces.lookup e.row.workspaceId = some ws →
      db.isAssociated d.nid d.nodeKey e.row.workspaceId ws = true →
      ∃ ws', db'.workspaces.lookup e.row.workspaceId = some ws' ∧
        db'.isAssociated d'.nid d'.nodeKey e.row.workspaceId ws' = true)
    (h : settledOn cfg db d e = true) : settledOn cfg db' d' e' = true := by
  have hon : e'.placedOn cfg = e.placedOn cfg := by rw [PlacedJob.placedOn, hplace]; rfl
  unfold settledOn at h ⊢
  rw [hon, hkey, hrow]
  rcases Bool.or_eq_true_iff.mp h with hne | hany
  · rw [hne, Bool.true_or]
  · obtain ⟨ws, hlook, hassoc⟩ := (Option.any_eq_true _ _).mp hany
    obtain ⟨ws', hlook', hassoc'⟩ := hws ws hlook hassoc
    rw [hkey] at hassoc'
    rw [hlook', Option.any_some, hassoc', Bool.or_true]

/-! ## Requests -/

/-- The request opened workspace `w` where it was, or nowhere if it is new. -/
def OpensInPlace (q : LifecycleRequest) (db : Db) (w : Nat) (ws' : Workspace) : Prop :=
  (q.target = some w ∧ ∃ ws, db.workspaces.lookup w = some ws ∧
      ws'.executionNodeId = ws.executionNodeId) ∨
    (db.workspaces.lookup w = none ∧ ws'.executionNodeId = none)

structure AnswerOpens (q : LifecycleRequest) (db db' : Db) (w : Nat) (ws' : Workspace) : Prop where
  workspaces : db'.workspaces = db.workspaces.insert w ws'
  runtimes : db'.runtimes = db.runtimes
  executionNodes : db'.executionNodes = db.executionNodes
  busy : ws'.status.isBusy = true
  place : OpensInPlace q db w ws'

theorem persistIntent_opens {q : LifecycleRequest} {db db' : Db} {inp : IntentInput}
    {wid owner user version : Nat} {ws : Workspace} {st : WorkspaceStatus} {jt : WorkspaceJobType}
    {includeDeleted : Bool} (htarget : q.target = some wid)
    (hown : getOwnedWorkspace db wid owner includeDeleted = .ok ws) (hst : st.isBusy = true)
    (h : persistIntent db inp wid ws st jt user version = .ok db') :
    ∃ w ws', AnswerOpens q db db' w ws' := by
  rw [persistIntent_ok h]
  exact ⟨wid, _, rfl, rfl, rfl, hst, .inl ⟨htarget, ws, (getOwnedWorkspace_ok hown).1, rfl⟩⟩

theorem LifecycleRequest.answer_opens {db db' : Db} {q : LifecycleRequest}
    (h : q.answer db = .ok db') : ∃ w ws', AnswerOpens q db db' w ws' := by
  cases q with
  | create inp owner name config =>
      obtain ⟨_, -, h⟩ := bind_eq_ok.mp h
      rw [← Except.ok.inj h]
      exact ⟨_, _, rfl, rfl, rfl, rfl, .inr ⟨Table.lookup_freshKey _, rfl⟩⟩
  | start inp wid owner user =>
      obtain ⟨ws, hown, h⟩ := bind_eq_ok.mp h
      obtain ⟨_, -, h⟩ := bind_eq_ok.mp h
      obtain ⟨_, -, h⟩ := bind_eq_ok.mp h
      obtain ⟨_, -, h⟩ := bind_eq_ok.mp h
      obtain ⟨_, -, h⟩ := bind_eq_ok.mp h
      exact persistIntent_opens rfl hown rfl h
  | stop inp wid owner user =>
      obtain ⟨ws, hown, h⟩ := bind_eq_ok.mp h
      obtain ⟨_, -, h⟩ := bind_eq_ok.mp h
      obtain ⟨_, -, h⟩ := bind_eq_ok.mp h
      obtain ⟨_, -, h⟩ := bind_eq_ok.mp h
      exact persistIntent_opens rfl hown rfl h
  | restart inp wid owner user =>
      obtain ⟨ws, hown, h⟩ := bind_eq_ok.mp h
      obtain ⟨_, -, h⟩ := bind_eq_ok.mp h
      obtain ⟨_, -, h⟩ := bind_eq_ok.mp h
      obtain ⟨_, -, h⟩ := bind_eq_ok.mp h
      obtain ⟨_, -, h⟩ := bind_eq_ok.mp h
      exact persistIntent_opens rfl hown rfl h
  | delete inp wid owner user =>
      obtain ⟨ws, hown, h⟩ := bind_eq_ok.mp h
      obtain ⟨_, -, h⟩ := bind_eq_ok.mp h
      obtain ⟨_, -, h⟩ := bind_eq_ok.mp h
      obtain ⟨_, -, h⟩ := bind_eq_ok.mp h
      exact persistIntent_opens rfl hown rfl h
  | update inp wid owner user config =>
      obtain ⟨ws, hown, h⟩ := bind_eq_ok.mp h
      obtain ⟨_, -, h⟩ := bind_eq_ok.mp h
      obtain ⟨_, -, h⟩ := bind_eq_ok.mp h
      obtain ⟨_, -, h⟩ := bind_eq_ok.mp h
      rw [← Except.ok.inj h]
      exact ⟨wid, _, rfl, rfl, rfl, rfl, .inl ⟨rfl, ws, (getOwnedWorkspace_ok hown).1, rfl⟩⟩

/-- What was counted on a node before a request still is. -/
theorem AnswerOpens.isAssociated {q : LifecycleRequest} {db db' : Db} {w : Nat} {ws' : Workspace}
    (h : AnswerOpens q db db' w ws') {nid v : Nat} {key : String} {ws : Workspace}
    (hws : db.workspaces.lookup v = some ws) (hassoc : db.isAssociated nid key v ws = true) :
    ∃ x, db'.workspaces.lookup v = some x ∧ db'.isAssociated nid key v x = true := by
  rw [h.workspaces, Table.lookup_insert_eq]
  split
  · rename_i hv
    subst hv
    refine ⟨ws', rfl, ?_⟩
    rw [isAssociated_of_namesNode (ne_deleted_of_isBusy h.busy), h.runtimes]
    rcases h.place with ⟨-, x, hx, hexec⟩ | ⟨hnone, -⟩
    · obtain rfl : x = ws := Option.some.inj (hx.symm.trans hws)
      have hnames := (Bool.and_eq_true_iff.mp hassoc).2
      rw [namesNode] at hnames ⊢
      rw [hexec]
      exact hnames
    · rw [hnone] at hws
      cases hws
  · refine ⟨ws, hws, ?_⟩
    rw [Db.isAssociated, h.runtimes]
    exact hassoc

/-- A node found empty stays so. -/
theorem AnswerOpens.counted {q : LifecycleRequest} {db db' : Db} {w : Nat} {ws' : Workspace}
    (h : AnswerOpens q db db' w ws')
    (hrows : ∀ w, (db.runtimes.lookup w).isSome → (db.workspaces.lookup w).isSome)
    {nid : Nat} {key : String}
    (hcounted : ∀ v ws, db.workspaces.lookup v = some ws → db.isAssociated nid key v ws = false)
    (hspares : ∀ ws, q.target = some w → db.workspaces.lookup w = some ws → ws.status = .deleted →
      namesNode nid key ws (db.runtimes.lookup w) = false) :
    ∀ v ws, db'.workspaces.lookup v = some ws → db'.isAssociated nid key v ws = false := by
  intro v ws hws
  rw [h.workspaces, Table.lookup_insert_eq] at hws
  rw [Db.isAssociated, h.runtimes]
  split at hws
  · rename_i hv
    subst hv
    obtain rfl := Option.some.inj hws
    rcases h.place with ⟨htarget, ws, hold, hexec⟩ | ⟨hnone, hexec⟩
    · have hnames : namesNode nid key ws (db.runtimes.lookup v) = false := by
        by_cases hdel : ws.status = .deleted
        · exact hspares ws htarget hold hdel
        · rw [← isAssociated_of_namesNode hdel]
          exact hcounted v ws hold
      rw [namesNode] at hnames ⊢
      rw [hexec, hnames, Bool.and_false]
    · have hrt : db.runtimes.lookup v = none := by
        cases hrt : db.runtimes.lookup v with
        | none => rfl
        | some r =>
            have hsome := hrows v (by rw [hrt]; rfl)
            rw [hnone] at hsome
            cases hsome
      simp [namesNode, hexec, hrt]
  · exact hcounted v ws hws

theorem scaleInv_request {st : ScaleDownState} {q : LifecycleRequest} (hinv : ScaleInv cfg st)
    (hq : requestSpares st q = true) :
    ScaleInv cfg { st with books := { st.books with
      db := accepted st.books.db (q.answer st.books.db) } } := by
  cases hans : q.answer st.books.db with
  | error err => exact hinv
  | ok db' =>
      obtain ⟨w, ws', hopens⟩ := LifecycleRequest.answer_opens hans
      have heffect := (LifecycleRequest.answer_effect hans).1
      refine ⟨hinv.jobs.request heffect, fun v hv => ?_, ?_, fun c e he => ?_, fun p d hd => ?_⟩
      · rw [accepted, hopens.runtimes] at hv
        rw [accepted, hopens.workspaces]
        exact isSome_lookup_insert (hinv.rows v hv)
      · rw [accepted, hopens.executionNodes]
        exact hinv.keys
      · obtain ⟨hwaits, hpicks⟩ := hinv.picks c e he
        refine ⟨hwaits, fun p hp => ?_⟩
        rw [accepted, hopens.executionNodes]
        exact hpicks p hp
      · obtain ⟨hrow, hplaced, hcounted⟩ := hinv.guarded p d hd
        refine ⟨?_, fun hphase c e he hlock => ?_, fun hphase => ?_⟩
        · rw [accepted, hopens.executionNodes]
          exact hrow
        · exact settledOn_mono rfl rfl rfl (fun ws hws hassoc => hopens.isAssociated hws hassoc)
            (hplaced hphase c e he hlock)
        · refine hopens.counted hinv.rows (hcounted hphase) fun ws htarget hws hdel => ?_
          simp only [requestSpares, htarget, Option.all_some, hws, hdel, ne_eq, not_true_eq_false,
            decide_false, Bool.false_or] at hq
          have hd' := List.all_eq_true.mp hq ⟨p, d⟩ (AList.mem_lookup_iff.mp hd)
          simpa [hphase] using hd'

/-! ## Claims and locks -/

/-- An execution works on the node it picked. -/
theorem CleanKeys.placedOn_eq {nodes : Table Nat ExecutionNode} (hkeys : CleanKeys nodes)
    {nid : Nat} {node : ExecutionNode} (hnode : nodes.lookup nid = some node) {e : PlacedJob}
    (hpick : ∀ k tid, e.placement = .ok (k, tid) → k = node.nodeKey) {key : String}
    (hon : e.placedOn cfg = some key) : key = node.nodeKey := by
  unfold PlacedJob.placedOn at hon
  split at hon
  · rename_i k tid hplace
    rw [← Option.some.inj hon, hpick k tid hplace]
    exact hkeys.orchestratorNodeKey_eq cfg hnode
  · cases hon

/-- A node that admits work is not the one that was drained. -/
theorem Guarded.settledOn_of_admits {st : BookState} {d : ScaleDown} (h : Guarded cfg st d)
    (hkeys : CleanKeys st.db.executionNodes) (hd : d.phase ≠ .checked) {nid : Nat}
    {node : ExecutionNode} (hnode : st.db.executionNodes.lookup nid = some node)
    (hs : node.schedulable = true) (hready : node.status = "READY") {e : PlacedJob}
    (hpick : ∀ k tid, e.placement = .ok (k, tid) → k = node.nodeKey) :
    settledOn cfg st.db d e = true := by
  refine settledOn_of_ne fun hon => ?_
  obtain ⟨row, hrow, hkey, hnot⟩ := h.row
  obtain rfl := hkeys.unique hrow hnode (hkey.trans (hkeys.placedOn_eq hnode hpick hon))
  obtain rfl : row = node := Option.some.inj (hrow.symm.trans hnode)
  exact hnot hd hs hready

/-- Entering or replacing an execution. -/
theorem ScaleInv.insert_live {st : ScaleDownState} {books : BookState} {c : Nat} {e : PlacedJob}
    (hinv : ScaleInv cfg st) (hjobs : OpenJobs books) (hdb : books.db = st.books.db)
    (hlive : books.live = st.books.live.insert c e) (hpick : PickOk st.books.db e)
    (hsettled : e.lock ≠ .waiting → ∀ p d, st.scaling.lookup p = some d → d.phase ≠ .checked →
      settledOn cfg st.books.db d e = true) : ScaleInv cfg { st with books := books } := by
  refine ⟨hjobs, ?_, ?_, fun k x hx => ?_, fun p d hd => ?_⟩
  · rw [hdb]
    exact hinv.rows
  · rw [hdb]
    exact hinv.keys
  · rw [hlive, Table.lookup_insert_eq] at hx
    rw [hdb]
    split at hx
    · rw [← Option.some.inj hx]
      exact hpick
    · exact hinv.picks k x hx
  · obtain ⟨hrow, hplaced, hcounted⟩ := hinv.guarded p d hd
    refine ⟨?_, fun hphase k x hx hlock => ?_, ?_⟩
    · rw [hdb]
      exact hrow
    · rw [hlive, Table.lookup_insert_eq] at hx
      rw [hdb]
      split at hx
      · obtain rfl := Option.some.inj hx
        exact hsettled hlock p d hd hphase
      · exact hplaced hphase k x hx hlock
    · rw [hdb]
      exact hcounted

/-- The scheduler's placement is on the node it chose. -/
theorem scheduleWorkspacePlacement_chosen {inp : PlacementInput} {s : Session}
    {node : ExecutionNode} (hnode : inp.schedule = .chosen node) {k : String} {tid : Int}
    (h : scheduleWorkspacePlacement cfg inp s = .ok (k, tid)) : k = node.nodeKey := by
  unfold scheduleWorkspacePlacement at h
  rw [hnode] at h
  obtain ⟨_, -, h⟩ := bind_eq_ok.mp h
  obtain ⟨_, -, h⟩ := bind_eq_ok.mp h
  exact (Prod.mk.inj (Except.ok.inj h)).1.symm

theorem resolveOrchestratorPlacement_asks {inp : PlacementInput} {s : Session}
    (h : asksScheduler cfg s = true) :
    resolveOrchestratorPlacement cfg inp s = scheduleWorkspacePlacement cfg inp s := by
  unfold asksScheduler at h
  unfold resolveOrchestratorPlacement
  cases hjt : s.job.jobType with
  | create =>
      rw [hjt] at h
      have hpin : workspaceUsesOperatorPinnedCreate cfg s.ws = false := by simpa using h
      rw [if_pos rfl]
      cases s.ws.executionNodeId with
      | none => rfl
      | some nid => rw [hpin]; rfl
  | start =>
      rw [hjt] at h
      simp only [Bool.and_eq_true, Bool.not_eq_true'] at h
      obtain ⟨hrow, hstrict⟩ := h
      have hnone : s.rt.filter (runtimePlacementRowComplete ∘ some) = none := by
        cases hrt : s.rt with
        | none => rfl
        | some r =>
            rw [hrt] at hrow
            simp [Option.filter, hrow]
      rw [if_neg (by decide), hnone]
      simp only [WorkspaceJobType.isSnapshot]
      rw [hstrict]
      rfl
  | stop | restart | delete | update | reconcileRuntime | snapshotCreate | snapshotRestore
  | repoImport =>
      rw [hjt] at h
      cases h

theorem placeJob_pick {query : SchedulerInput} {staleHeartbeat : Option String}
    {entry : EntryPoint} {jid : Nat} {db : Db} {s : Session} {p : String × Load}
    (hp : p ∈ (placeJob cfg caps query staleHeartbeat entry jid db s).picked) :
    ∃ nid node, db.executionNodes.lookup nid = some node ∧ node.nodeKey = p.1 ∧
      node.schedulable = true ∧ node.status = "READY" ∧
      ∀ k tid, (placeJob cfg caps query staleHeartbeat entry jid db s).placement = .ok (k, tid) →
        k = node.nodeKey := by
  simp only [placeJob] at hp ⊢
  split at hp
  · rename_i node hnode
    split at hp
    · rename_i hasks
      obtain rfl := Option.some.inj hp
      obtain ⟨nid, hlook, hs, hready⟩ := selectNodeForWorkspace_admits hnode
      refine ⟨nid, node, hlook, rfl, hs, hready, fun k tid hplace => ?_⟩
      rw [resolveOrchestratorPlacement_asks hasks] at hplace
      exact scheduleWorkspacePlacement_chosen hnode hplace
    · cases hp
  · cases hp
  · cases hp

theorem scaleInv_claim {st : ScaleDownState} (hinv : ScaleInv cfg st) {entry : EntryPoint}
    {clk : Clock} {query : SchedulerInput} {staleHeartbeat : Option String} {jid : Nat}
    (hspares : claimSpares cfg caps st entry clk query staleHeartbeat jid = true) :
    ScaleInv cfg { st with
      books := claimStep cfg caps st.books entry clk query staleHeartbeat jid } := by
  have hopen := @OpenJobs.claim cfg caps st.books hinv.jobs entry clk query staleHeartbeat jid
  rcases @claimStep_cases cfg caps st.books entry clk query staleHeartbeat jid with
    heq | ⟨job, ws, lock, hjob, -, -, hws, -, hlock, heq⟩
  · rw [heq]
    exact hinv
  · rw [heq] at hopen ⊢
    simp only [claimSpares, hjob, Option.all_some, hws] at hspares
    have hpicks := fun p => @placeJob_pick cfg caps query staleHeartbeat entry jid st.books.db
      (Session.load st.books.db (markJobRunning clk job) ws) p
    generalize placeJob cfg caps query staleHeartbeat entry jid st.books.db
      (Session.load st.books.db (markJobRunning clk job) ws) = e at hopen hlock hspares hpicks ⊢
    refine hinv.insert_live hopen rfl rfl ⟨fun hwaits hnone => ?_, fun p hp => ?_⟩ ?_
    · have hfree := hlock hnone
      rw [hfree] at hwaits
      cases hwaits
    · obtain ⟨nid, node, hlook, hkey, -, -, hpick⟩ := hpicks p hp
      exact ⟨⟨nid, node, hlook, hkey⟩, fun k tid hplace => (hpick k tid hplace).trans hkey⟩
    · intro _ p d hd hphase
      rcases Bool.or_eq_true_iff.mp hspares with hpicked | hall
      · obtain ⟨p', hp'⟩ := Option.isSome_iff_exists.mp hpicked
        obtain ⟨nid, node, hlook, -, hs, hready, hpick⟩ := hpicks p' hp'
        exact (hinv.guarded p d hd).settledOn_of_admits hinv.keys hphase hlook hs hready hpick
      · have hd' := List.all_eq_true.mp hall ⟨p, d⟩ (AList.mem_lookup_iff.mp hd)
        exact (Bool.or_eq_true_iff.mp hd').resolve_left fun h => hphase (of_decide_eq_true h)

theorem admitsNode_row {db : Db} {key : String} (h : db.admitsNode key = true) :
    ∃ nid node, db.executionNodes.lookup nid = some node ∧ node.nodeKey = key ∧
      node.schedulable = true ∧ node.status = "READY" := by
  obtain ⟨⟨nid, node⟩, hfound, hadmits⟩ := (Option.any_eq_true _ _).mp h
  obtain ⟨hs, hready⟩ := Bool.and_eq_true_iff.mp hadmits
  obtain ⟨hlook, hkey⟩ := nodeByKey_some hfound
  exact ⟨nid, node, hlook, hkey, hs, of_decide_eq_true hready⟩

/-- A lock that is given is the lock of a row that admits work. -/
theorem relock_ok {st : ScaleDownState} (hinv : ScaleInv cfg st) {c : Nat} {e : PlacedJob}
    (he : st.books.live.lookup c = some e) (hwaits : e.lock = .waiting) (s : Session)
    (query : SchedulerInput) :
    PickOk st.books.db (relock cfg caps st.books c e s query) ∧
      ∀ p d, st.scaling.lookup p = some d → d.phase ≠ .checked →
        settledOn cfg st.books.db d (relock cfg caps st.books c e s query) = true := by
  obtain ⟨hpicked, hpicks⟩ := hinv.picks c e he
  unfold relock
  split
  · rename_i hall
    obtain ⟨p', hp'⟩ := Option.ne_none_iff_exists'.mp (hpicked hwaits)
    rw [hp', Option.all_some] at hall
    obtain ⟨nid, node, hlook, hkey, hs, hready⟩ := admitsNode_row hall
    refine ⟨⟨fun h => (by cases h), hpicks⟩, fun p d hd hphase => ?_⟩
    refine (hinv.guarded p d hd).settledOn_of_admits hinv.keys hphase hlook hs hready ?_
    intro k tid hplace
    exact ((hpicks p' hp').2 k tid hplace).trans hkey.symm
  · dsimp only
    split
    · rename_i node hnode
      obtain ⟨nid, hlook, hs, hready⟩ := selectNodeForWorkspace_admits hnode
      have hpick : ∀ k tid, scheduleWorkspacePlacement cfg { schedule := .chosen node } s =
          .ok (k, tid) → k = node.nodeKey :=
        fun k tid hplace => scheduleWorkspacePlacement_chosen rfl hplace
      refine ⟨⟨fun _ h => (by cases h), ?_⟩, fun p d hd hphase => ?_⟩
      · rintro p ⟨⟩
        exact ⟨⟨nid, node, hlook, rfl⟩, fun k tid hplace => hpick k tid (hnode ▸ hplace)⟩
      · exact (hinv.guarded p d hd).settledOn_of_admits hinv.keys hphase hlook hs hready
          fun k tid hplace => hpick k tid (hnode ▸ hplace)
    · rename_i m hm
      rw [hm]
      exact ⟨⟨fun h => (by cases h), fun p hp => (by cases hp)⟩,
        fun p d _ _ => settledOn_of_ne (by exact nofun)⟩
    · rename_i m hm
      rw [hm]
      exact ⟨⟨fun h => (by cases h), fun p hp => (by cases hp)⟩,
        fun p d _ _ => settledOn_of_ne (by exact nofun)⟩

theorem relock_job (st : BookState) (c : Nat) (e : PlacedJob) (s : Session)
    (query : SchedulerInput) : (relock cfg caps st c e s query).jid = e.jid ∧
      (relock cfg caps st c e s query).row = e.row := by
  unfold relock
  split
  · exact ⟨rfl, rfl⟩
  · dsimp only
    split <;> exact ⟨rfl, rfl⟩

theorem scaleInv_lock {st : ScaleDownState} (hinv : ScaleInv cfg st) {c : Nat} {e : PlacedJob}
    (he : st.books.live.lookup c = some e) (s : Session) (query : SchedulerInput) :
    ScaleInv cfg { st with books := relockStep cfg caps st.books c e s query } := by
  unfold relockStep
  split
  · rename_i hguard
    have hwaits : e.lock = .waiting := of_decide_eq_true (Bool.and_eq_true_iff.mp hguard).1
    obtain ⟨hjid, hrow⟩ := @relock_job cfg caps st.books c e s query
    obtain ⟨hpick, hsettled⟩ := @relock_ok cfg caps st hinv c e he hwaits s query
    exact hinv.insert_live (hinv.jobs.replace he hjid hrow) rfl rfl hpick fun _ => hsettled
  · exact hinv

/-! ## Commits -/

theorem PickOk.congr {db db' : Db} {e : PlacedJob} (h : PickOk db e)
    (hkeys : SameKeys db.executionNodes db'.executionNodes) : PickOk db' e := by
  refine ⟨h.waits, fun p hp => ⟨?_, (h.picks p hp).2⟩⟩
  obtain ⟨nid, node, hlook, hkey⟩ := (h.picks p hp).1
  obtain ⟨node', hlook', hkey'⟩ := hkeys.symm.lookup hlook
  exact ⟨nid, node', hlook', hkey'.trans hkey⟩

/-- A drained row that is withdrawn still admits no work. -/
theorem Guarded.row_withdrawn {st : BookState} {d : ScaleDown} (h : Guarded cfg st d)
    {nodes : Table Nat ExecutionNode} (hw : Withdrawn st.db.executionNodes nodes) :
    ∃ node, nodes.lookup d.nid = some node ∧ node.nodeKey = d.nodeKey ∧
      (d.phase ≠ .checked → node.schedulable = true → node.status ≠ "READY") := by
  obtain ⟨node, hlook, hkey, hnot⟩ := h.row
  obtain ⟨node', hlook', hkey', hsame⟩ := hw.kept d.nid node hlook
  refine ⟨node', hlook', hkey'.trans hkey, fun hphase hs => ?_⟩
  have heq := hsame hs
  rw [heq] at hs ⊢
  exact hnot hphase hs

/-- The executions under way are for different workspaces. -/
theorem OpenJobs.workspace_ne {st : BookState} (h : OpenJobs st) {c c' : Nat} {e e' : PlacedJob}
    (he : st.live.lookup c = some e) (he' : st.live.lookup c' = some e') (hne : c' ≠ c) :
    e'.row.workspaceId ≠ e.row.workspaceId := by
  intro hsame
  have hopen : ∀ {k x}, st.live.lookup k = some x → ∃ j, st.db.jobs.lookup x.jid = some j ∧
      isOpenLifecycleOf x.row.workspaceId j = true := by
    intro k x hx
    obtain ⟨⟨j, hj, ⟨hwid, hjt⟩, hst⟩, hlife, -⟩ := h.live k x hx
    rw [hjt] at hlife
    exact ⟨j, hj, by rw [isOpenLifecycleOf, hwid, hlife, hst, decide_eq_true rfl]; rfl⟩
  obtain ⟨j, hj, hp⟩ := hopen he
  obtain ⟨j', hj', hp'⟩ := hopen he'
  obtain ⟨ws, hws⟩ := Option.isSome_iff_exists.mp (h.jobs e.jid j hj)
  have hwid : j.workspaceId = e.row.workspaceId := by
    simp only [isOpenLifecycleOf, Bool.and_eq_true, decide_eq_true_eq] at hp
    exact hp.1.1
  rw [hwid] at hws
  rw [hsame] at hp'
  have hjid := Table.key_eq_of_rowCount_le_one (h.busy _ ws hws).2 hj hp hj' hp'
  exact hne (h.single c' c e' e he' he hjid)

theorem isAssociated_commit_of_ne {db : Db} {jid nid v : Nat} {key : String} {s' : Session}
    (hv : v ≠ s'.wid) (ws : Workspace) :
    (s'.commit jid db).isAssociated nid key v ws = db.isAssociated nid key v ws := by
  rw [Db.isAssociated, commit_runtimes_lookup, if_neg hv]
  rfl

/-- The adapter's commit moves no workspace. -/
theorem isAssociated_begin {db : Db} {e : PlacedJob} {s : Session} (hses : LiveSession db e s)
    (hb : s.ws.status.isBusy = true) (jid nid : Nat) (key : String) :
    ((beginCreateBringupAfterPlacement s).commit jid db).isAssociated nid key s.wid
      (beginCreateBringupAfterPlacement s).ws = db.isAssociated nid key s.wid s.ws := by
  obtain ⟨hfields, hst⟩ := beginCreate_fields s
  have hrt : (beginCreateBringupAfterPlacement s).rt = s.rt := by rw [hfields]
  have hwid : (beginCreateBringupAfterPlacement s).wid = s.wid := by rw [hfields]
  have hlive : (beginCreateBringupAfterPlacement s).ws.status ≠ .deleted := by
    rcases hst with hst | ⟨-, -, hst⟩
    · rw [hst]
      exact ne_deleted_of_isBusy hb
    · rw [hst]
      decide
  rw [isAssociated_of_namesNode hlive, isAssociated_of_namesNode (ne_deleted_of_isBusy hb),
    commit_runtimes_lookup, hwid, if_pos rfl, hrt, hses.rt, namesNode, namesNode,
    (beginCreate_staysPut s).1.exec]

theorem scaleInv_adapterCommit {st : ScaleDownState} (hinv : ScaleInv cfg st) {c : Nat}
    {e : PlacedJob} {s : Session} (he : st.books.live.lookup c = some e)
    (hs : e.session st.books.db = some s) :
    ScaleInv cfg { st with books := adapterCommitStep st.books c e s } := by
  unfold adapterCommitStep
  split
  · exact hinv
  · rename_i hguard
    have hlock : e.lock ≠ .waiting := by
      intro h
      rw [h] at hguard
      exact hguard rfl
    have hses := (hinv.jobs.live c e he).session hs
    have hb := hinv.jobs.isBusy he hs
    have hwid : (beginCreateBringupAfterPlacement s).wid = s.wid := by rw [(beginCreate_fields s).1]
    have hnodes : ((beginCreateBringupAfterPlacement s).commit e.jid st.books.db).executionNodes =
        st.books.db.executionNodes := by
      obtain ⟨ws, -, rfl⟩ := Option.map_eq_some_iff.mp hs
      exact (beginCreate_staysPut _).2
    refine ⟨hinv.jobs.adapterCommit he hs, rows_commit hinv.rows _ _, ?_, fun k x hx => ?_,
      fun p d hd => ?_⟩
    · rw [hnodes]
      exact hinv.keys
    · have hkeys : SameKeys st.books.db.executionNodes
          ((beginCreateBringupAfterPlacement s).commit e.jid st.books.db).executionNodes := by
        rw [hnodes]
        exact fun _ => rfl
      rw [Table.lookup_insert_eq] at hx
      split at hx
      · rw [← Option.some.inj hx]
        refine PickOk.congr ⟨fun h => ?_, (hinv.picks c e he).picks⟩ hkeys
        cases h
      · exact (hinv.picks k x hx).congr hkeys
    · have hguarded := hinv.guarded p d hd
      have hkeep : ∀ v ws, st.books.db.workspaces.lookup v = some ws →
          st.books.db.isAssociated d.nid d.nodeKey v ws = true → ∃ ws',
            ((beginCreateBringupAfterPlacement s).commit e.jid st.books.db).workspaces.lookup v =
              some ws' ∧ ((beginCreateBringupAfterPlacement s).commit e.jid
                st.books.db).isAssociated d.nid d.nodeKey v ws' = true := by
        intro v ws hws hassoc
        rw [commit_workspaces_lookup, hwid]
        split
        · rename_i hv
          subst hv
          obtain rfl : s.ws = ws := Option.some.inj (hses.executing.ws.symm.trans hws)
          exact ⟨_, rfl, (isAssociated_begin hses hb _ _ _).trans hassoc⟩
        · rename_i hv
          exact ⟨ws, hws, (isAssociated_commit_of_ne (hwid ▸ hv) ws).trans hassoc⟩
      refine ⟨?_, fun hphase k x hx hlock' => ?_, fun hphase v ws hws => ?_⟩
      · rw [hnodes]
        exact hguarded.row
      · rw [Table.lookup_insert_eq] at hx
        split at hx
        · rw [← Option.some.inj hx]
          exact settledOn_mono rfl rfl rfl (hkeep _) (hguarded.placed hphase c e he hlock)
        · exact settledOn_mono rfl rfl rfl (hkeep _) (hguarded.placed hphase k x hx hlock')
      · rw [commit_workspaces_lookup, hwid] at hws
        split at hws
        · rename_i hv
          subst hv
          rw [← Option.some.inj hws, isAssociated_begin hses hb]
          exact hguarded.counted hphase _ _ hses.executing.ws
        · rename_i hv
          rw [isAssociated_commit_of_ne (hwid ▸ hv)]
          exact hguarded.counted hphase v ws hws

theorem StaysPut.namesNode {s s' : Session} (h : StaysPut s s') {nid : Nat} {key : String}
    (hnames : namesNode nid key s'.ws s'.rt = true) :
    Devnest.namesNode nid key s.ws s.rt = true := by
  rw [namesNode_iff] at hnames ⊢
  rcases hnames with hexec | ⟨hne, r', hr', hr'node⟩
  · exact .inl (h.exec.symm.trans hexec)
  · rcases h.node r' hr' with hnone | ⟨r, hr, hsame⟩
    · rw [hnone] at hr'node
      cases hr'node
    · exact .inr ⟨hne, r, hr, hsame.symm.trans hr'node⟩

/-- What an execution's end may name: a node it named before, or the one it was placed on. -/
theorem EndsOn.namesNode {key : String} {s s' : Session} (h : EndsOn key s s') {nid : Nat}
    {node : ExecutionNode} (hkeys : CleanKeys s.executionNodes)
    (hnode : s.executionNodes.lookup nid = some node) (hkey : strip key = key)
    (hnames : namesNode nid node.nodeKey s'.ws s'.rt = true) :
    key = node.nodeKey ∨ Devnest.namesNode nid node.nodeKey s.ws s.rt = true := by
  cases h with
  | stays hput => exact .inr (hput.namesNode hnames)
  | up exec nodeId nodes =>
      rw [namesNode_iff, (hkeys.stripped hnode).1] at hnames
      rcases hnames with hexec | ⟨-, r', hr', hr'node⟩
      · rcases exec with hsame | ⟨nid', node', hfound, hset⟩
        · exact .inr (namesNode_iff.mpr (.inl (hsame.symm.trans hexec)))
        · obtain ⟨hlook, hkey'⟩ := nodeByKey_some hfound
          obtain rfl : nid' = nid := Option.some.inj (hset.symm.trans hexec)
          obtain rfl : node' = node := Option.some.inj (hlook.symm.trans hnode)
          exact .inl (hkey.symm.trans hkey'.symm)
      · exact .inl (Option.some.inj ((nodeId r' hr').symm.trans hr'node))

theorem EndsOn.withdrawn {key : String} {s s' : Session} (h : EndsOn key s s') :
    Withdrawn s.executionNodes s'.executionNodes := by
  cases h with
  | stays hput => exact hput.nodes
  | up exec node nodes =>
      rw [nodes]
      exact .refl _

theorem strip_orchestratorNodeKey_eq (cfg : Settings) (key : String) :
    strip (orchestratorNodeKey cfg key) = orchestratorNodeKey cfg key := by
  unfold orchestratorNodeKey
  split
  · unfold nodeKeyFromEnv
    dsimp only
    split
    · decide
    · exact strip_strip _
  · exact strip_strip _

/-- A node found empty has no execution that could name it at its end. -/
theorem Guarded.counted_end {st : BookState} {d : ScaleDown} (h : Guarded cfg st d)
    (hd : d.phase = .counted) (hkeys : CleanKeys st.db.executionNodes) {c : Nat} {e : PlacedJob}
    {s s' : Session} (he : st.live.lookup c = some e) (hlock : e.lock ≠ .waiting)
    (hses : LiveSession st.db e s) (hb : s.ws.status.isBusy = true)
    (hnodes : s.executionNodes = st.db.executionNodes)
    (hwhere : StaysPut s s' ∨ ∃ nodeKey tid, e.placement = .ok (nodeKey, tid) ∧
      EndsOn (orchestratorNodeKey cfg nodeKey) s s') :
    (s'.commit e.jid st.db).isAssociated d.nid d.nodeKey s'.wid s'.ws = false := by
  refine Bool.eq_false_iff.mpr fun hassoc => ?_
  have hnames : namesNode d.nid d.nodeKey s'.ws s'.rt = true := by
    have hboth := (Bool.and_eq_true_iff.mp hassoc).2
    rwa [commit_runtimes_lookup, if_pos rfl] at hboth
  have hold : namesNode d.nid d.nodeKey s.ws s.rt = false := by
    rw [hses.rt, ← isAssociated_of_namesNode (ne_deleted_of_isBusy hb)]
    exact h.counted hd s.wid s.ws hses.executing.ws
  rcases hwhere with hput | ⟨nodeKey, tid, hplace, hend⟩
  · rw [hput.namesNode hnames] at hold
    cases hold
  · obtain ⟨node, hlook, hkey, -⟩ := h.row
    rw [← hnodes] at hkeys hlook
    rw [← hkey] at hnames hold
    rcases hend.namesNode hkeys hlook (strip_orchestratorNodeKey_eq cfg nodeKey) hnames with
      hon | hnamed
    · refine (h.unused hd).1 c e he hlock ?_
      rw [PlacedJob.placedOn, hplace, ← hkey, ← hon]
    · rw [hnamed] at hold
      cases hold

theorem scaleInv_finish {st : ScaleDownState} (hinv : ScaleInv cfg st) {c : Nat} {e : PlacedJob}
    {s : Session} {inp : WorkerInput} (he : st.books.live.lookup c = some e)
    (hs : e.session st.books.db = some s) :
    ScaleInv cfg { st with books := finishStep cfg inp st.books c e s } := by
  have hopen := @OpenJobs.finish cfg st.books c e s inp hinv.jobs he hs
  unfold finishStep at hopen ⊢
  split
  · exact hinv
  · rename_i hlock
    rw [if_neg hlock] at hopen
    dsimp only at hopen ⊢
    have hses := (hinv.jobs.live c e he).session hs
    have hjt : s.job.jobType.isLifecycle = true := by
      rw [hses.job]
      exact (hinv.jobs.live c e he).lifecycle
    have hnodes : s.executionNodes = st.books.db.executionNodes := by
      obtain ⟨ws, -, rfl⟩ := Option.map_eq_some_iff.mp hs
      rfl
    cases hc : (processPlacedJob cfg inp e s).committed with
    | false =>
        rw [hc] at hopen
        refine ⟨hopen, hinv.rows, hinv.keys, fun k x hx => ?_, fun p d hd => ?_⟩
        · exact (hinv.picks k x (lookup_erase_live hx).2).congr fun _ => rfl
        obtain ⟨hrow, hplaced, hcounted⟩ := hinv.guarded p d hd
        exact ⟨hrow, fun hphase k x hx => hplaced hphase k x (lookup_erase_live hx).2, hcounted⟩
    | true =>
        rw [hc] at hopen
        have hwid : (processPlacedJob cfg inp e s).session.wid = s.wid := by
          obtain ⟨⟨inp', hend⟩, -⟩ := processPlacedJob_end hjt hc
          exact hend.target.1
        have hwhere := processPlacedJob_whereabouts cfg inp hjt hc
        generalize (processPlacedJob cfg inp e s).session = s' at hopen hwid hwhere ⊢
        rw [if_pos rfl] at hopen ⊢
        have hw : Withdrawn st.books.db.executionNodes s'.executionNodes := by
          rw [← hnodes]
          rcases hwhere with hput | ⟨nodeKey, tid, -, hend⟩
          · exact hput.nodes
          · exact hend.withdrawn
        refine ⟨hopen, rows_commit hinv.rows _ _, hinv.keys.congr hw.sameKeys, fun k x hx => ?_,
          fun p d hd => ?_⟩
        · exact (hinv.picks k x (lookup_erase_live hx).2).congr hw.sameKeys
        · have hguarded := hinv.guarded p d hd
          refine ⟨hguarded.row_withdrawn hw, fun hphase k x hx hlock' => ?_,
            fun hphase v ws hws => ?_⟩
          · obtain ⟨hk, hx⟩ := lookup_erase_live hx
            -- another execution is for another workspace, which this one does not write
            have hne : x.row.workspaceId ≠ s'.wid := by
              rw [hwid, hses.wid]
              exact hinv.jobs.workspace_ne he hx hk
            refine settledOn_mono rfl rfl rfl (fun ws hws hassoc => ⟨ws, ?_, ?_⟩)
              (hguarded.placed hphase k x hx hlock')
            · rw [commit_workspaces_lookup, if_neg hne]
              exact hws
            · exact (isAssociated_commit_of_ne hne ws).trans hassoc
          · rw [commit_workspaces_lookup] at hws
            split at hws
            · rename_i hv
              rw [← Option.some.inj hws, hv]
              exact hguarded.counted_end hphase hinv.keys he hlock hses (hinv.jobs.isBusy he hs)
                hnodes hwhere
            · rename_i hv
              rw [isAssociated_commit_of_ne hv]
              exact hguarded.counted hphase v ws hws

/-! ## Scale-downs -/

/-- A scale-down that passes its checks has found the node's row. -/
theorem scaleDownTarget_row {db : Db} {inp : ScaleDownInput} {nid : Nat} {nk : String}
    (h : scaleDownTarget auto db inp = some (nid, nk)) :
    ∃ node, db.executionNodes.lookup nid = some node ∧ node.nodeKey = nk := by
  unfold scaleDownTarget at h
  dsimp only at h
  split at h
  · cases h
  · split at h
    · cases h
    · split at h
      · cases h
      · split at h
        · cases h
        · split at h
          · cases h
          · rename_i nid' node hfound
            split at h
            · cases h
            · split at h
              · cases h
              · split at h
                · cases h
                · obtain ⟨rfl, rfl⟩ := Prod.mk.inj (Option.some.inj h)
                  exact ⟨node, nodeByKey_some hfound⟩

/-- What the other scale-downs rely on, once a row is written. -/
theorem ScaleInv.setNode {st : ScaleDownState} (hinv : ScaleInv cfg st) {nid : Nat}
    {node node' : ExecutionNode} (hnode : st.books.db.executionNodes.lookup nid = some node)
    (hkey : node'.nodeKey = node.nodeKey) {scaling : Table Nat ScaleDown}
    (hscaling : ∀ p d, scaling.lookup p = some d →
      Guarded cfg { st.books with db := st.books.db.setNode nid node' } d) :
    ScaleInv cfg { books := { st.books with db := st.books.db.setNode nid node' }
                   scaling := scaling } := by
  have hkeys : SameKeys st.books.db.executionNodes (st.books.db.setNode nid node').executionNodes :=
    sameKeys_insert hnode hkey
  refine ⟨⟨hinv.jobs.jobs, hinv.jobs.busy, fun c e he => ?_, hinv.jobs.single⟩, hinv.rows,
    hinv.keys.congr hkeys, fun c e he => (hinv.picks c e he).congr hkeys, hscaling⟩
  exact (hinv.jobs.live c e he).of_jobs fun _ hj => hj

/-- A scale-down of another node, or one that has not drained yet, does not mind the write; nor
does any if the row admits no work or is not changed. -/
theorem Guarded.setNode {st : BookState} {d : ScaleDown} (h : Guarded cfg st d) {nid : Nat}
    {node node' : ExecutionNode} (hnode : st.db.executionNodes.lookup nid = some node)
    (hkey : node'.nodeKey = node.nodeKey)
    (hsafe : d.nid = nid → d.phase ≠ .checked → node'.schedulable = true →
      node'.status = "READY" → node' = node) :
    Guarded cfg { st with db := st.db.setNode nid node' } d := by
  refine ⟨?_, h.placed, h.counted⟩
  obtain ⟨row, hrow, hrowkey, hnot⟩ := h.row
  rw [Db.setNode, Table.lookup_insert_eq]
  split
  · rename_i hnid
    obtain rfl : row = node := Option.some.inj (hrow.symm.trans (hnid ▸ hnode))
    refine ⟨node', rfl, hkey.trans hrowkey, fun hphase hs hready => ?_⟩
    have heq := hsafe hnid hphase hs hready
    rw [heq] at hs hready
    exact hnot hphase hs hready
  · exact ⟨row, hrow, hrowkey, hnot⟩

theorem scaleInv_check {st : ScaleDownState} (hinv : ScaleInv cfg st) (p : Nat)
    (inp : ScaleDownInput) : ScaleInv cfg (scaleDownStep cfg caps auto st (.check p inp)) := by
  unfold scaleDownStep
  dsimp only
  split
  · exact hinv
  · split
    · exact hinv
    · rename_i nid nk htarget
      refine ⟨hinv.jobs, hinv.rows, hinv.keys, hinv.picks, fun k d hd => ?_⟩
      rw [Table.lookup_insert_eq] at hd
      split at hd
      · obtain rfl := Option.some.inj hd
        obtain ⟨node, hlook, hkey⟩ := scaleDownTarget_row htarget
        exact ⟨⟨node, hlook, hkey, fun h => absurd rfl h⟩, fun h => absurd rfl h, nofun⟩
      · exact hinv.guarded k d hd

/-- A scale-down that gives up. -/
theorem ScaleInv.erase {st : ScaleDownState} (hinv : ScaleInv cfg st) (p : Nat) :
    ScaleInv cfg { st with scaling := st.scaling.erase p } := by
  refine ⟨hinv.jobs, hinv.rows, hinv.keys, hinv.picks, fun k d hd => ?_⟩
  by_cases hk : k = p
  · rw [hk, AList.lookup_erase] at hd
    cases hd
  · rw [AList.lookup_erase_ne hk] at hd
    exact hinv.guarded k d hd

theorem scaleInv_drain {st : ScaleDownState} (hinv : ScaleInv cfg st) {p : Nat} {d : ScaleDown}
    (hd : st.scaling.lookup p = some d)
    (hspares : d.phase ≠ .checked || st.books.rowLocked d.nodeKey || drainSpares cfg st.books d) :
    ScaleInv cfg (drainStep st p d) := by
  unfold drainStep
  split
  · exact hinv
  · rename_i hguard
    split
    · exact hinv.erase p
    · rename_i node hnode
      have hdrained : drainSpares cfg st.books d = true :=
        (Bool.or_eq_true_iff.mp hspares).resolve_left hguard
      have hown := hinv.guarded p d hd
      have hkey : (drainNode node).nodeKey = node.nodeKey := rfl
      refine hinv.setNode hnode hkey fun k x hx => ?_
      rw [Table.lookup_insert_eq] at hx
      split at hx
      · obtain rfl := Option.some.inj hx
        refine ⟨?_, fun _ c e he hlock => ?_, nofun⟩
        · obtain ⟨row, hrow, hrowkey, -⟩ := hown.row
          obtain rfl : row = node := Option.some.inj (hrow.symm.trans hnode)
          rw [Db.setNode, Table.lookup_insert_eq, if_pos rfl]
          exact ⟨_, rfl, hrowkey, fun _ h => (by cases h)⟩
        · have hall := List.all_eq_true.mp hdrained ⟨c, e⟩ (AList.mem_lookup_iff.mp he)
          refine settledOn_mono rfl rfl rfl (fun ws hws hassoc => ⟨ws, hws, hassoc⟩)
            ((Bool.or_eq_true_iff.mp hall).resolve_left fun h => hlock (of_decide_eq_true h))
      · exact (hinv.guarded k x hx).setNode hnode hkey fun _ _ h _ => (by cases h)

/-- The node's row, as a scale-down finds it again by its key. -/
theorem Guarded.found {st : BookState} {d : ScaleDown} (h : Guarded cfg st d)
    (hkeys : CleanKeys st.db.executionNodes) {nid : Nat} {node : ExecutionNode}
    (hfound : nodeByKey st.db.executionNodes d.nodeKey = some (nid, node)) :
    nid = d.nid ∧ st.db.executionNodes.lookup nid = some node ∧ node.nodeKey = d.nodeKey := by
  obtain ⟨row, hrow, hkey, -⟩ := h.row
  obtain ⟨hlook, hkey'⟩ := nodeByKey_some hfound
  exact ⟨(hkeys.unique hrow hlook (hkey.trans hkey'.symm)).symm, hlook, hkey'⟩

/-- Nothing is counted where the count is zero. -/
theorem isAssociated_of_count_zero {db : Db} {nid : Nat} {key : String}
    (h : activeWorkspaceCountForScaleDown db nid key = 0) {w : Nat} {ws : Workspace}
    (hws : db.workspaces.lookup w = some ws) : db.isAssociated nid key w ws = false := by
  have hnone := List.countP_eq_zero.mp h ⟨w, ws⟩ (AList.mem_lookup_iff.mp hws)
  simpa using hnone

theorem scaleInv_recount {st : ScaleDownState} (hinv : ScaleInv cfg st) {p : Nat} {d : ScaleDown}
    (hd : st.scaling.lookup p = some d)
    (hspares : d.phase ≠ .drained || undrainSpares st p d) :
    ScaleInv cfg (recountStep st p d) := by
  unfold recountStep
  split
  · exact hinv
  · rename_i hguard
    have hphase : d.phase = .drained := not_not.mp hguard
    have hown := hinv.guarded p d hd
    split
    · exact hinv.erase p
    · rename_i nid node hfound
      obtain ⟨rfl, hnode, hkey⟩ := hown.found hinv.keys hfound
      rw [hkey]
      split
      · rename_i hzero
        refine ⟨hinv.jobs, hinv.rows, hinv.keys, hinv.picks, fun k x hx => ?_⟩
        rw [Table.lookup_insert_eq] at hx
        split at hx
        · obtain rfl := Option.some.inj hx
          obtain ⟨row, hrow, hrowkey, hnot⟩ := hown.row
          have hdrained : d.phase ≠ .checked := by rw [hphase]; decide
          refine ⟨⟨row, hrow, hrowkey, fun _ => hnot hdrained⟩, fun _ c e he hlock => ?_,
            fun _ w ws hws => isAssociated_of_count_zero hzero hws⟩
          exact settledOn_mono rfl rfl rfl (fun ws hws hassoc => ⟨ws, hws, hassoc⟩)
            (hown.placed hdrained c e he hlock)
        · exact hinv.guarded k x hx
      · rename_i hcount
        split
        · exact hinv
        · rename_i hfree
          simp only [hphase, undrainSpares, hcount, hfree, decide_false, Bool.false_or, ne_eq,
            not_true_eq_false] at hspares
          have hrowkey : (undrainNodeRow node).nodeKey = node.nodeKey := by
            unfold undrainNodeRow
            split <;> rfl
          refine hinv.setNode hnode hrowkey fun k x hx => ?_
          by_cases hk : k = p
          · rw [hk, AList.lookup_erase] at hx
            cases hx
          · rw [AList.lookup_erase_ne hk] at hx
            refine (hinv.guarded k x hx).setNode hnode hrowkey fun hnid hchecked _ _ => ?_
            have hothers := List.all_eq_true.mp hspares ⟨k, x⟩ (AList.mem_lookup_iff.mp hx)
            simp [hk, hchecked, hnid] at hothers

theorem terminateNodeRow_nodeKey (state : Option String) (loaded node : ExecutionNode) :
    (terminateNodeRow state loaded node).nodeKey = node.nodeKey := by
  unfold terminateNodeRow
  split <;> rfl

/-- A row that still admits work has not been written. -/
theorem terminateNodeRow_ready {state : Option String} {loaded node : ExecutionNode}
    (hs : (terminateNodeRow state loaded node).schedulable = true)
    (hready : (terminateNodeRow state loaded node).status = "READY") :
    terminateNodeRow state loaded node = node := by
  unfold terminateNodeRow at hs hready ⊢
  split
  · rfl
  · rename_i hec2
    rw [if_neg hec2] at hs hready
    dsimp only at hs hready ⊢
    split at hready
    · rename_i hsame
      rw [if_pos hsame, hs, (Bool.and_eq_true_iff.mp hs).1.symm]
    · refine absurd hready ?_
      unfold terminateStatus
      split
      · decide
      · split <;> decide

theorem scaleInv_terminate {st : ScaleDownState} (hinv : ScaleInv cfg st) {p : Nat}
    {d : ScaleDown} (hd : st.scaling.lookup p = some d) (state : Option String) :
    ScaleInv cfg (terminateStep state st p d) := by
  unfold terminateStep
  split
  · exact hinv
  · split
    · exact hinv.erase p
    · rename_i nid node hfound
      obtain ⟨rfl, hnode, -⟩ := (hinv.guarded p d hd).found hinv.keys hfound
      have hkey := terminateNodeRow_nodeKey state (d.loaded.getD node) node
      refine hinv.setNode hnode hkey fun k x hx => ?_
      by_cases hk : k = p
      · rw [hk, AList.lookup_erase] at hx
        cases hx
      · rw [AList.lookup_erase_ne hk] at hx
        exact (hinv.guarded k x hx).setNode hnode hkey fun _ _ => terminateNodeRow_ready

/-! ## Runs -/

/-- Every step that meets the condition keeps the invariant. -/
theorem scaleInv_step {st : ScaleDownState} {i : ScaleDownStep} (hinv : ScaleInv cfg st)
    (hi : sparesUsed cfg caps st i = true) : ScaleInv cfg (scaleDownStep cfg caps auto st i) := by
  cases i with
  | request q => exact scaleInv_request hinv hi
  | claim entry clk query staleHeartbeat jid => exact scaleInv_claim hinv hi
  | lockNode c query =>
      unfold scaleDownStep workerStep
      dsimp only
      split
      · exact hinv
      · rename_i e he
        split
        · exact hinv
        · rename_i s hs
          exact scaleInv_lock hinv he s query
  | adapterCommit c =>
      unfold scaleDownStep workerStep
      dsimp only
      split
      · exact hinv
      · rename_i e he
        split
        · exact hinv
        · rename_i s hs
          split
          · exact hinv
          · exact scaleInv_adapterCommit hinv he hs
  | finish c inp =>
      unfold scaleDownStep workerStep
      dsimp only
      split
      · exact hinv
      · rename_i e he
        split
        · exact hinv
        · rename_i s hs
          exact scaleInv_finish hinv he hs
  | check p inp => exact scaleInv_check hinv p inp
  | drain p =>
      unfold scaleDownStep
      dsimp only
      split
      · exact hinv
      · rename_i d hd
        rw [sparesUsed, hd, Option.all_some] at hi
        exact scaleInv_drain hinv hd hi
  | recount p =>
      unfold scaleDownStep
      dsimp only
      split
      · exact hinv
      · rename_i d hd
        rw [sparesUsed, hd, Option.all_some] at hi
        exact scaleInv_recount hinv hd hi
  | terminate p state =>
      unfold scaleDownStep
      dsimp only
      split
      · exact hinv
      · rename_i d hd
        exact scaleInv_terminate hinv hd state

theorem scaleInv_init (cfg : Settings) {nodes : Table Nat ExecutionNode} (hkeys : CleanKeys nodes)
    (topologies : List Int) : ScaleInv cfg { books := initBooks nodes topologies } := by
  refine ⟨⟨?_, ?_, ?_, ?_⟩, ?_, hkeys, ?_, ?_⟩
  · intro jid job h
    simp [initBooks, initDb] at h
  · intro w ws h
    simp [initBooks, initDb] at h
  · intro c e h
    simp [initBooks] at h
  · intro c c' e e' h
    simp [initBooks] at h
  · intro w h
    simp [initBooks, initDb] at h
  · intro c e h
    simp [initBooks] at h
  · intro p d h
    simp at h

/-- **Scale-down spares the nodes in use**: in every run whose steps meet `sparesUsed`, no
`terminate_ec2_node` is called for a node that an execution has selected or that a workspace
names. -/
theorem scale_down_spares_used_nodes (cfg : Settings) (caps : Table String NodeCapacity)
    (auto : AutoscalerSettings) {nodes : Table Nat ExecutionNode} (hkeys : CleanKeys nodes)
    (topologies : List Int) {steps : List ScaleDownStep}
    (hsteps : Along (scaleDownStep cfg caps auto) (fun st i => sparesUsed cfg caps st i = true)
      { books := initBooks nodes topologies } steps) :
    Along (scaleDownStep cfg caps auto) (TerminatesUnused cfg)
      { books := initBooks nodes topologies } steps := by
  refine along_of_along (scaleInv_init cfg hkeys topologies)
    (fun _ _ hinv hi => scaleInv_step hinv hi) (fun st i hinv _ => ?_) hsteps
  cases i with
  | terminate p state => exact fun d hd hphase => (hinv.guarded p d hd).unused hphase
  | request _ | claim _ _ _ _ _ | lockNode _ _ | adapterCommit _ | finish _ _ | check _ _
  | drain _ | recount _ => trivial

/-! ## Two nodes -/

/-- An EC2 node, as it is registered. -/
def ec2Node (key address : String) : ExecutionNode :=
  { sampleNode with
    nodeKey := key, providerType := "ec2", executionMode := "ssm_docker", privateIp := some address }

def twoEc2Nodes : Table Nat ExecutionNode :=
  AList.insert 2 (ec2Node "node-2" "10.0.0.2") (AList.insert 1 (ec2Node "node-1" "10.0.0.1") ∅)

def twoNodeCaps : Table String NodeCapacity := AList.insert "node-2" (slotsFor 1) (oneNodeFor 1)

def scaleIn (nodeKey : String) : ScaleDownInput where
  decision := { action := .scaleInRecommended, scaleDownNodeKey := some nodeKey }
  instanceId := "i-0abc"

theorem twoEc2Nodes_cleanKeys : CleanKeys twoEc2Nodes := by
  have hrows : ∀ {nid node}, twoEc2Nodes.lookup nid = some node →
      (nid = 2 ∧ node.nodeKey = "node-2") ∨ (nid = 1 ∧ node.nodeKey = "node-1") := by
    intro nid node h
    rw [twoEc2Nodes, Table.lookup_insert_eq, Table.lookup_insert_eq] at h
    split at h
    · rename_i hnid
      rw [← Option.some.inj h]
      exact .inl ⟨hnid, rfl⟩
    · split at h
      · rename_i hnid
        rw [← Option.some.inj h]
        exact .inr ⟨hnid, rfl⟩
      · simp at h
  constructor
  · intro nid node h
    rcases hrows h with ⟨-, hkey⟩ | ⟨-, hkey⟩ <;> rw [hkey] <;> decide
  · intro nid nid' node node' h h' heq
    rcases hrows h with ⟨rfl, hkey⟩ | ⟨rfl, hkey⟩ <;>
      rcases hrows h' with ⟨rfl, hkey'⟩ | ⟨rfl, hkey'⟩ <;> simp_all

/-- A worker on an EC2 node: bring-ups publish the IDE port, and deletes succeed. -/
def ec2Worker (now : Nat) (cid : String) : WorkerInput :=
  { sampleWorker now
      { bringUpWorkspaceRuntime := .returned
          { sampleUp with containerId := some cid, gatewayRouteTarget := some "10.0.0.1:32769" }
        deleteWorkspaceRuntime := .returned { success := true } } with
    port := fun target => if target = some "10.0.0.1:32769" then some 32769 else none }

/-- A workspace is placed, and the other node is terminated before it is up. -/
def idleNodeTerminated : List ScaleDownStep :=
  [.request (.create { now := 0 } 7 "a" {}),
   .claim .runPendingJobs { now := 1 } {} none 1,
   .check 0 (scaleIn "node-2"),
   .drain 0,
   .recount 0,
   .terminate 0 (some "shutting-down"),
   .finish 0 (ec2Worker 4 "c1")]

theorem idle_node_terminated :
    Along (scaleDownStep {} twoNodeCaps {}) (fun st i => sparesUsed {} twoNodeCaps st i = true)
        { books := initBooks twoEc2Nodes [1] } idleNodeTerminated ∧
      (((run (scaleDownStep {} twoNodeCaps {}) { books := initBooks twoEc2Nodes [1] }
        idleNodeTerminated).books.db.executionNodes.lookup 2).map (·.status) = some "TERMINATED") ∧
      Along (scaleDownStep {} twoNodeCaps {}) (TerminatesUnused {})
        { books := initBooks twoEc2Nodes [1] } idleNodeTerminated := by
  have hsteps : Along (scaleDownStep {} twoNodeCaps {})
      (fun st i => sparesUsed {} twoNodeCaps st i = true)
      { books := initBooks twoEc2Nodes [1] } idleNodeTerminated := by decide +kernel
  exact ⟨hsteps, by decide +kernel,
    scale_down_spares_used_nodes {} twoNodeCaps {} twoEc2Nodes_cleanKeys [1] hsteps⟩

/-- Two scale-downs drain one node. The second counts a workspace and makes the node `READY`; when
it is deleted the first counts none, while the next workspace is placed there. -/
def undrainedNodeCounted : List ScaleDownStep :=
  [.request (.create { now := 0 } 7 "a" {}),
   .check 0 (scaleIn "node-1"),
   .check 1 (scaleIn "node-1"),
   .claim .runPendingJobs { now := 1 } {} none 1,
   .finish 0 (ec2Worker 2 "c1"),
   .drain 0,
   .drain 1,
   .recount 1,
   .request (.delete { now := 3 } 1 7 7),
   .claim .runPendingJobs { now := 4 } {} none 2,
   .finish 1 (ec2Worker 5 "c1"),
   .request (.create { now := 6 } 7 "b" {}),
   .claim .runPendingJobs { now := 7 } {} none 3,
   .recount 0,
   .finish 2 (ec2Worker 8 "c2")]

/-- The first scale-down terminates the node under the workspace that is up. -/
theorem used_node_terminated :
    ¬ ∀ (cfg : Settings) (caps : Table String NodeCapacity) (auto : AutoscalerSettings)
      (nodes : Table Nat ExecutionNode) (topologies : List Int) (steps : List ScaleDownStep),
      CleanKeys nodes → Along (scaleDownStep cfg caps auto) (TerminatesUnused cfg)
        { books := initBooks nodes topologies } steps := by
  intro h
  have hlast := (h {} twoNodeCaps {} twoEc2Nodes [1]
    (undrainedNodeCounted ++ [.terminate 0 (some "shutting-down")]) twoEc2Nodes_cleanKeys).at
  have hcounted : ((run (scaleDownStep {} twoNodeCaps {}) { books := initBooks twoEc2Nodes [1] }
      undrainedNodeCounted).scaling.lookup 0).any (fun d => d.phase = .counted && d.nid = 1) = true := by decide +kernel
  have hup : ((run (scaleDownStep {} twoNodeCaps {}) { books := initBooks twoEc2Nodes [1] }
      undrainedNodeCounted).books.db.workspaces.lookup 2).any (fun ws => ws.status = .running &&
        ws.executionNodeId = some 1) = true := by decide +kernel
  obtain ⟨d, hd, hd'⟩ := (Option.any_eq_true _ _).mp hcounted
  obtain ⟨ws, hws, hws'⟩ := (Option.any_eq_true _ _).mp hup
  simp only [Bool.and_eq_true, decide_eq_true_eq] at hd' hws'
  have hunused := (hlast d hd hd'.1).2 2 ws hws
  simp [Db.isAssociated, namesNode, hws', hd'.2] at hunused

end Devnest
