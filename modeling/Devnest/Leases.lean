import Devnest.RuntimeRaces

/-!
# Leases and the subnet of their node

The operations of the adapter one after the other, each run to its end. A
lease row survives the deletion of its node's runtime row, and
`allocate_workspace_ip` returns an active lease as it is, so a node whose row
is made again with another subnet has leases outside of it.

`leases_follow_cidr_iff` says when that does not happen: exactly when every
row that is made while its node has active leases gets a subnet that holds
them.
-/

namespace Devnest

open Ipv4 Runs

/-! ## Addresses for workspaces -/

def v1InfraReservedUsableHosts : Nat := 10

/-- The hosts of the subnet without the gateway and the reserved first ones; a subnet too small
for the reservation is used without it. -/
def iterCandidateWorkspaceHosts (net : Network) (gatewayIp : Nat) :
    Except TopologyError (List Nat) :=
  if gatewayIp ∈ net then
    let hosts := net.hosts
    let out := (hosts.drop v1InfraReservedUsableHosts).filter (· ≠ gatewayIp)
    .ok (if out.isEmpty && decide (0 < hosts.length) &&
        decide (hosts.length ≤ v1InfraReservedUsableHosts)
      then hosts.filter (· ≠ gatewayIp) else out)
  else
    .error (.ipAllocation
      ("gateway " ++ addressText gatewayIp ++ " not in runtime CIDR " ++ net.text))

def pickFirstFreeHost (candidates usedIps : List Nat) (scanOffset : Nat) : Option Nat :=
  (candidates.rotate scanOffset).find? fun h => decide (h ∉ usedIps)

/-- The active addresses of a node. -/
def activeIps (db : TopologyDb) (key : TopologyNode) : List Nat :=
  db.allocations.entries.filterMap fun e =>
    if e.1.node = key ∧ e.2.released = false then some e.2.ip else none

def allocateScanOffset (slot : WorkspaceSlot) (retryIndex n : Nat) : Nat :=
  if 0 < retryIndex then
    (retryIndex * 10007 + slot.workspaceId * 31 + sumOrd slot.node.nodeId) % n
  else 0

/-- The runtime row of a node that can take workspaces: ready, with subnet and gateway. -/
def readyRuntime (db : TopologyDb) (key : TopologyNode) : Except TopologyError (Network × Nat) :=
  match db.runtimes.lookup key with
  | none => .error .runtimeNotFound
  | some row =>
      if row.status ≠ .ready then
        .error (.ipAllocation
          "topology runtime is not READY; cannot allocate workspace IP until bridge/sync is healthy")
      else
        match row.cidr, row.gatewayIp with
        | some net, some g => .ok (net, g)
        | _, _ => .error (.ipAllocation "topology runtime missing cidr or gateway_ip")

/-- Another workspace of the node holds the address (`uq_ip_allocation_active_topology_node_ip`). -/
def ipTaken (db : TopologyDb) (slot : WorkspaceSlot) (ip : Nat) : Bool :=
  db.allocations.entries.any fun e =>
    e.1.node == slot.node && e.1 != slot && !e.2.released && e.2.ip == ip

def TopologyDb.setLease (db : TopologyDb) (slot : WorkspaceSlot) (lease : IpAllocation) :
    TopologyDb :=
  { db with allocations := db.allocations.insert slot lease }

/-- The commit of a lease: a new row, or an update of the row that was read as released. An
unchanged address is not part of the update. -/
def commitLease (db : TopologyDb) (slot : WorkspaceSlot) (row : Option IpAllocation) (ip : Nat) :
    CommitResult :=
  match row, db.allocations.lookup slot with
  | none, some _ => .integrityError
  | none, none =>
      if ipTaken db slot ip then .integrityError
      else .committed (db.setLease slot { ip := ip, released := false })
  | some _, none => .failed
  | some old, some cur =>
      let ip' := if ip = old.ip then cur.ip else ip
      if ipTaken db slot ip' then .integrityError
      else .committed (db.setLease slot { ip := ip', released := false })

structure AllocateWorkspaceIPResult where
  workspaceIp : Nat
  leasedExisting : Bool
  deriving DecidableEq, Repr

/-- What the reads of an attempt lead to. -/
inductive LeasePlan where
  | existing (ip : Nat)
  | lease (row : Option IpAllocation) (ip : Nat)

/-- The reads of `_allocate_workspace_ip_attempt`. -/
def planLease (db : TopologyDb) (slot : WorkspaceSlot) (retryIndex : Nat) :
    Except TopologyError LeasePlan :=
  match readyRuntime db slot.node with
  | .error e => .error e
  | .ok (net, g) =>
      match (db.allocations.lookup slot).filter fun r => !r.released with
      | some row => .ok (.existing row.ip)
      | none =>
          match iterCandidateWorkspaceHosts net g with
          | .error e => .error e
          | .ok candidates =>
              let offset := allocateScanOffset slot retryIndex candidates.length
              match pickFirstFreeHost candidates (activeIps db slot.node) offset with
              | none => .error (.ipAllocation "no free IPv4 addresses in topology CIDR")
              | some ip => .ok (.lease (db.allocations.lookup slot) ip)

def allocateIpMaxAttempts : Nat := 24

/-- The attempts of `allocate_workspace_ip`, `left` of them still to come. -/
def allocateAttempts (commitOk : Bool) (db : TopologyDb) (slot : WorkspaceSlot) :
    (left retryIndex : Nat) → TopologyDb × Except TopologyError AllocateWorkspaceIPResult
  | 0, _ =>
      (db, .error (.ipAllocation
        "internal error: IP allocation loop exited without result or handled exception"))
  | left + 1, i =>
      match planLease db slot i with
      | .error e => (db, .error e)
      | .ok (.existing ip) => (db, .ok ⟨ip, true⟩)
      | .ok (.lease row ip) =>
          match commitLease db slot row ip with
          | .committed db' =>
              if commitOk then (db', .ok ⟨ip, false⟩)
              else (db, .error (.ipAllocation "failed to persist IP allocation"))
          | .failed => (db, .error (.ipAllocation "failed to persist IP allocation"))
          | .integrityError =>
              match readyRuntime db slot.node with
              | .error e => (db, .error e)
              | .ok _ =>
                  if left = 0 then
                    (db, .error (.ipAllocation ("IP allocation hit repeated database conflicts " ++
                      "(likely concurrent requests); giving up after 24 attempts")))
                  else allocateAttempts commitOk db slot left (i + 1)

def allocateWorkspaceIp (commitOk : Bool) (db : TopologyDb) (slot : WorkspaceSlot) :
    TopologyDb × Except TopologyError AllocateWorkspaceIPResult :=
  match readyRuntime db slot.node with
  | .error e => (db, .error e)
  | .ok _ => allocateAttempts commitOk db slot allocateIpMaxAttempts 0

/-! ## The other operations -/

structure EnsureAnswer where
  commitOk : Bool := true
  bridgeOk : Bool := true
  syncOk : Bool := true

section Ops

variable (cfg : AdapterConfig) (specs : Int → Option TopologySpec)

/-- The attempts of `ensure_node_topology`, `left` of them still to come. -/
def ensureAttempts (commitOk : Bool) (spec : TopologySpec) (bridge : String) (db : TopologyDb)
    (key : TopologyNode) : (left i : Nat) → TopologyDb × Except TopologyError Unit
  | 0, _ => (db, .ok ())
  | left + 1, i =>
      match (db.runtimes.lookup key).filter runtimeRowComplete with
      | some _ => (db, .ok ())
      | none =>
          match chooseRuntimeCidrAndGateway (listUsedRuntimeNetworks db key) spec key
              (db.runtimes.lookup key) i with
          | .error e => (db, .error e)
          | .ok (cidr, gatewayIp) =>
              match commitRuntime db key (db.runtimes.lookup key) bridge cidr gatewayIp with
              | .committed db' =>
                  if commitOk then (db', .ok ())
                  else (db, .error (.runtimeCreate "failed to persist topology runtime"))
              | .failed => (db, .error (.runtimeCreate "failed to persist topology runtime"))
              | .integrityError =>
                  if left = 0 then
                    (db, .error (.runtimeCreate
                      "failed to allocate a unique runtime CIDR after repeated DB conflicts"))
                  else ensureAttempts commitOk spec bridge db key left (i + 1)

/-- The last read and the bridge sync of `ensure_node_topology`. -/
def ensureSync (ans : EnsureAnswer) (db : TopologyDb) (key : TopologyNode) :
    TopologyDb × Except TopologyError TopologyRuntime :=
  match db.runtimes.lookup key with
  | none => (db, .error (.runtimeCreate "failed to ensure topology runtime row"))
  | some row =>
      match syncLinuxNodeBridge cfg ans.bridgeOk db key row with
      | .committed db' =>
          if ans.syncOk then (db', .ok { row with status := syncedStatus cfg ans.bridgeOk row })
          else
            (db, .error (.runtimeCreate "failed to persist topology runtime after bridge sync"))
      | _ => (db, .error (.runtimeCreate "failed to persist topology runtime after bridge sync"))

def nodeOf (topologyId : Int) (nodeId : String) : TopologyNode := ⟨topologyId, cleanNodeId nodeId⟩

/-- `ensure_node_topology` with a node id that is not blank. -/
def ensureNode (ans : EnsureAnswer) (db : TopologyDb) (key : TopologyNode) :
    TopologyDb × Except TopologyError TopologyRuntime :=
  match specs key.topologyId with
  | none =>
      (db, .error (.runtimeCreate ("topology id " ++ toString key.topologyId ++ " not found")))
  | some spec =>
      match nodeBridgePlan cfg spec key with
      | .error e => (db, .error e)
      | .ok bridge =>
          -- a complete row ends the attempts at once, so the fast path is the same run
          match ensureAttempts ans.commitOk spec bridge db key ensureNodeCidrMaxAttempts 0 with
          | (db', .error e) => (db', .error e)
          | (db', .ok ()) => ensureSync cfg ans db' key

def ensureNodeTopology (ans : EnsureAnswer) (db : TopologyDb) (topologyId : Int)
    (nodeId : String) : TopologyDb × Except TopologyError TopologyRuntime :=
  if PyText.strip nodeId = "" then (db, .error (.runtimeCreate "node_id is required"))
  else ensureNode cfg specs ans db (nodeOf topologyId nodeId)

structure AttachAnswer where
  ensure : EnsureAnswer := {}
  /-- The netns reference and the host's configuration pass their checks. -/
  netnsOk : Bool := true
  plumbingVerified : Bool := true
  attachingOk : Bool := true
  linuxOk : Bool := true
  attachedOk : Bool := true
  postVerifyOk : Bool := true
  failedOk : Bool := true
  releaseOk : Bool := true
  now : Nat := 0

structure AttachRequest where
  slot : WorkspaceSlot
  containerId : String
  workspaceIp : Nat

def activeLease (db : TopologyDb) (slot : WorkspaceSlot) : Option IpAllocation :=
  (db.allocations.lookup slot).filter fun r => !r.released

/-- The checks of `attach_workspace` after its `ensure_node_topology`. -/
def checkAttach (db : TopologyDb) (req : AttachRequest) : Except TopologyError Unit :=
  match db.runtimes.lookup req.slot.node with
  | none => .error .runtimeNotFound
  | some row =>
      if row.status ≠ .ready then
        .error (.attachment "topology runtime is not READY; cannot attach workspace")
      else if isBlank row.bridgeName then
        .error (.attachment "topology runtime missing bridge_name")
      else
        match row.cidr, row.gatewayIp with
        | some net, some _ =>
            if (activeLease db req.slot).map IpAllocation.ip ≠ some req.workspaceIp then
              .error (.attachment
                "workspace_ip must match an active allocation; call allocate_workspace_ip first")
            else if req.workspaceIp ∈ net then .ok ()
            else
              .error (.attachment ("workspace_ip " ++ PyText.repr (addressText req.workspaceIp) ++
                " is not within runtime CIDR " ++ PyText.repr net.text))
        | _, _ => .error (.attachment "topology runtime missing cidr or gateway_ip")

def TopologyDb.setAttachment (db : TopologyDb) (slot : WorkspaceSlot) (att : TopologyAttachment) :
    TopologyDb :=
  { db with attachments := db.attachments.insert slot att }

/-- The row already says what the call asks for. -/
def earlyEligible (att : TopologyAttachment) (req : AttachRequest) : Bool :=
  att.status == .attached && att.containerId.getD "" == req.containerId &&
    att.workspaceIp == some req.workspaceIp

def attachingRow (now : Nat) (req : AttachRequest) (id : Nat) : TopologyAttachment where
  attachmentId := id
  containerId := some req.containerId
  status := .attaching
  workspaceIp := some req.workspaceIp
  updatedAt := now

def commitAttaching (now : Nat) (db : TopologyDb) (req : AttachRequest) : TopologyDb :=
  match db.attachments.lookup req.slot with
  | some att => db.setAttachment req.slot (attachingRow now req att.attachmentId)
  | none =>
      { db.setAttachment req.slot (attachingRow now req db.nextAttachmentId) with
        nextAttachmentId := db.nextAttachmentId + 1 }

def setAttachmentStatus (now : Nat) (db : TopologyDb) (slot : WorkspaceSlot)
    (status : TopologyAttachmentStatus) : TopologyDb :=
  match db.attachments.lookup slot with
  | none => db
  | some att => db.setAttachment slot { att with status := status, updatedAt := now }

def releaseLease (db : TopologyDb) (slot : WorkspaceSlot) : TopologyDb :=
  match activeLease db slot with
  | none => db
  | some lease => db.setLease slot { lease with released := true }

/-- The attachment is marked, and the lease given back if this call made the attachment row. -/
def attachFailureBestEffort (ans : AttachAnswer) (db : TopologyDb) (req : AttachRequest)
    (releaseIp : Bool) : TopologyDb :=
  let db := if ans.failedOk then setAttachmentStatus ans.now db req.slot .failed else db
  if releaseIp && ans.releaseOk &&
      (activeLease db req.slot).map IpAllocation.ip == some req.workspaceIp
  then releaseLease db req.slot else db

/-- The part of `attach_workspace` after its checks. -/
def attachChecked (ans : AttachAnswer) (db : TopologyDb) (req : AttachRequest) :
    TopologyDb × Except TopologyError Unit :=
  let wasNew := (db.attachments.lookup req.slot).isNone
  if (db.attachments.lookup req.slot).any (earlyEligible · req) &&
      (!cfg.applyLinuxAttachment || ans.plumbingVerified) then (db, .ok ())
  else if !ans.attachingOk then
    (db, .error (.attachment "failed to persist topology attachment"))
  else
    let attaching := commitAttaching ans.now db req
    if cfg.applyLinuxAttachment && !ans.linuxOk then
      (attachFailureBestEffort ans attaching req wasNew, .error (.attachment "linux attach failed"))
    else if !ans.attachedOk then
      (attachFailureBestEffort ans attaching req wasNew,
        .error (.attachment "failed to persist topology attachment"))
    else
      let attached := setAttachmentStatus ans.now attaching req.slot .attached
      if cfg.applyLinuxAttachment && !ans.postVerifyOk then
        (attachFailureBestEffort ans attached req wasNew,
          .error (.attachment ("topology attach reported success and persisted ATTACHED, but " ++
            "Linux plumbing did not match DB state (repair attempted — re-run attach)")))
      else (attached, .ok ())

def attachWorkspace (ans : AttachAnswer) (db : TopologyDb) (req : AttachRequest) :
    TopologyDb × Except TopologyError Unit :=
  if PyText.strip req.containerId = "" then
    (db, .error (.attachment "container_id is required"))
  else
    let req := { req with containerId := PyText.take 128 (PyText.strip req.containerId) }
    match ensureNodeTopology cfg specs ans.ensure db req.slot.node.topologyId
        req.slot.node.nodeId with
    | (db', .error e) => (db', .error e)
    | (db', .ok _) =>
        match checkAttach db' req with
        | .error e => (db', .error e)
        | .ok () =>
            if !ans.netnsOk then (db', .error (.attachment "netns_ref is required"))
            else attachChecked cfg ans db' req

/-- `detach_workspace`; the address stays on the row and the lease stays active. -/
def detachWorkspace (linuxOk commitOk : Bool) (now : Nat) (db : TopologyDb)
    (slot : WorkspaceSlot) : TopologyDb × Except TopologyError Bool :=
  match db.attachments.lookup slot with
  | none => (db, .ok false)
  | some att =>
      if att.status = .detached then (db, .ok false)
      else if cfg.applyLinuxAttachment && !linuxOk then
        (db, .error (.detach "linux detach failed"))
      else if !commitOk then (db, .error (.detach "failed to persist workspace detach"))
      else
        (db.setAttachment slot
          { att with status := .detached, containerId := none, updatedAt := now }, .ok true)

def releaseWorkspaceIpLease (commitOk : Bool) (db : TopologyDb) (slot : WorkspaceSlot) :
    TopologyDb × Except TopologyError Bool :=
  match activeLease db slot with
  | none => (db, .ok false)
  | some _ =>
      if commitOk then (releaseLease db slot, .ok true)
      else (db, .error (.ipAllocation "failed to release workspace IP lease"))

def deleteNode (commitOk bridgeOk : Bool) (db : TopologyDb) (key : TopologyNode) :
    TopologyDb × Except TopologyError Unit :=
  if hasBlockingAttachment db key then
    (db, .error (.delete ("cannot delete topology runtime: non-DETACHED attachments remain " ++
      "(detach workspaces first)")))
  else
    match db.runtimes.lookup key with
    | none => (if commitOk then commitDelete db key none else db, .ok ())
    | some row =>
        if !commitOk then (db, .error (.delete "failed to persist topology deletion"))
        else
          let db' := commitDelete db key (some row.topologyRuntimeId)
          if cfg.applyLinuxBridge && !isBlank row.bridgeName && !bridgeOk then
            (db', .error (.delete "linux bridge removal failed"))
          else (db', .ok ())

def deleteTopology (commitOk bridgeOk : Bool) (db : TopologyDb) (topologyId : Int)
    (nodeId : String) : TopologyDb × Except TopologyError Unit :=
  if PyText.strip nodeId = "" then (db, .error (.delete "node_id is required"))
  else deleteNode cfg commitOk bridgeOk db (nodeOf topologyId nodeId)

/-! ## Runs -/

inductive LeaseOp where
  | ensureNodeTopology (topologyId : Int) (nodeId : String) (ans : EnsureAnswer)
  | allocateWorkspaceIp (topologyId : Int) (nodeId : String) (workspaceId : Nat) (commitOk : Bool)
  | attachWorkspace (topologyId : Int) (nodeId : String) (workspaceId : Nat)
      (containerId : String) (workspaceIp : Nat) (ans : AttachAnswer)
  | detachWorkspace (topologyId : Int) (nodeId : String) (workspaceId : Nat)
      (linuxOk commitOk : Bool) (now : Nat)
  | releaseWorkspaceIpLease (topologyId : Int) (nodeId : String) (workspaceId : Nat)
      (commitOk : Bool)
  | deleteTopology (topologyId : Int) (nodeId : String) (commitOk bridgeOk : Bool)

/-- The database after an operation. -/
def leaseStep (db : TopologyDb) : LeaseOp → TopologyDb
  | .ensureNodeTopology t n ans => (ensureNodeTopology cfg specs ans db t n).1
  | .allocateWorkspaceIp t n w ok => (allocateWorkspaceIp ok db ⟨nodeOf t n, w⟩).1
  | .attachWorkspace t n w c ip ans =>
      (attachWorkspace cfg specs ans db ⟨⟨nodeOf t n, w⟩, c, ip⟩).1
  | .detachWorkspace t n w linuxOk ok now =>
      (detachWorkspace cfg linuxOk ok now db ⟨nodeOf t n, w⟩).1
  | .releaseWorkspaceIpLease t n w ok => (releaseWorkspaceIpLease ok db ⟨nodeOf t n, w⟩).1
  | .deleteTopology t n ok bridgeOk => (deleteTopology cfg ok bridgeOk db t n).1

/-- The runtime row a call of `ensure_node_topology` makes: the choice of its first attempt, if
the node has none. -/
def newRuntime (ans : EnsureAnswer) (db : TopologyDb) (t : Int) (n : String) :
    Option (TopologyNode × Network × Nat) :=
  if PyText.strip n = "" then none
  else
    match specs t, db.runtimes.lookup (nodeOf t n) with
    | some spec, none =>
        match nodeBridgePlan cfg spec (nodeOf t n),
          chooseRuntimeCidrAndGateway (listUsedRuntimeNetworks db (nodeOf t n)) spec (nodeOf t n)
            none 0 with
        | .ok _, .ok (net, g) => if ans.commitOk then some (nodeOf t n, net, g) else none
        | _, _ => none
    | _, _ => none

def madeRuntime (db : TopologyDb) : LeaseOp → Option (TopologyNode × Network × Nat)
  | .ensureNodeTopology t n ans => newRuntime cfg specs ans db t n
  | .attachWorkspace t n _ c _ ans =>
      if PyText.strip c = "" then none else newRuntime cfg specs ans.ensure db t (cleanNodeId n)
  | _ => none

/-- A runtime row that the operation makes holds the active leases of its node. -/
def HoldsLeases (db : TopologyDb) (op : LeaseOp) : Prop :=
  ((madeRuntime cfg specs db op).all fun m =>
    (activeIps db m.1).all fun ip => decide (ip ∈ m.2.1)) = true

instance (db : TopologyDb) (op : LeaseOp) : Decidable (HoldsLeases cfg specs db op) :=
  inferInstanceAs (Decidable (_ = true))

end Ops

/-- The address is a candidate of the subnet and gateway that the node has. -/
def HandsOut (db : TopologyDb) (key : TopologyNode) (ip : Nat) : Prop :=
  ∃ row net g hosts, db.runtimes.lookup key = some row ∧ row.cidr = some net ∧
    row.gatewayIp = some g ∧ iterCandidateWorkspaceHosts net g = .ok hosts ∧ ip ∈ hosts

/-- Active leases lie in the subnet of their node and are not its gateway, and an address that
`allocate_workspace_ip` returns is a candidate of the subnet the node has. -/
structure LeasesFollow (db : TopologyDb) : Prop where
  inside : ∀ slot lease row, db.allocations.lookup slot = some lease → lease.released = false →
    db.runtimes.lookup slot.node = some row →
    (∀ net, row.cidr = some net → lease.ip ∈ net) ∧ row.gatewayIp ≠ some lease.ip
  returned : ∀ slot ok r, (allocateWorkspaceIp ok db slot).2 = .ok r →
    HandsOut db slot.node r.workspaceIp

/-! ## Candidates -/

variable {cfg : AdapterConfig} {specs : Int → Option TopologySpec}

theorem candidate_inside {net : Network} {g ip : Nat} {hosts : List Nat}
    (h : iterCandidateWorkspaceHosts net g = .ok hosts) (hip : ip ∈ hosts) : ip ∈ net ∧ ip ≠ g := by
  have hsub : ∀ l : List Nat, ip ∈ l.filter (fun h => decide (h ≠ g)) → ip ∈ l ∧ ip ≠ g := by
    intro l hl
    obtain ⟨hmem, hne⟩ := List.mem_filter.mp hl
    exact ⟨hmem, of_decide_eq_true hne⟩
  unfold iterCandidateWorkspaceHosts at h
  split at h
  next =>
    cases h
    split at hip
    · obtain ⟨hmem, hne⟩ := hsub _ hip
      exact ⟨Network.mem_of_mem_hosts hmem, hne⟩
    · obtain ⟨hmem, hne⟩ := hsub _ hip
      exact ⟨Network.mem_of_mem_hosts (List.mem_of_mem_drop hmem), hne⟩
  next => cases h

theorem mem_activeIps {db : TopologyDb} {key : TopologyNode} {ip : Nat} :
    ip ∈ activeIps db key ↔ ∃ slot lease, slot.node = key ∧
      db.allocations.lookup slot = some lease ∧ lease.released = false ∧ lease.ip = ip := by
  simp only [activeIps, List.mem_filterMap, Option.ite_none_right_eq_some, Option.some.injEq]
  constructor
  · rintro ⟨⟨slot, lease⟩, hmem, ⟨hnode, hact⟩, hip⟩
    exact ⟨slot, lease, hnode, AList.mem_lookup_iff.mpr hmem, hact, hip⟩
  · rintro ⟨slot, lease, hnode, hlook, hact, hip⟩
    exact ⟨⟨slot, lease⟩, AList.mem_lookup_iff.mp hlook, ⟨hnode, hact⟩, hip⟩

/-- An address that a subnet of the topology could hand out. -/
def IsCandidate (specs : Int → Option TopologySpec) (t : Int) (ip : Nat) : Prop :=
  ∃ spec net g hosts, specs t = some spec ∧ FitsSpec spec net g ∧
    iterCandidateWorkspaceHosts net g = .ok hosts ∧ ip ∈ hosts

/-- What every run keeps: rows that fit their spec, and leases that some subnet of the topology
could hand out. -/
structure LeasesOk (specs : Int → Option TopologySpec) (db : TopologyDb) : Prop where
  rows : RuntimesOk specs db
  leases : ∀ slot lease, db.allocations.lookup slot = some lease → lease.released = false →
    IsCandidate specs slot.node.topologyId lease.ip

/-- A candidate that lies in the subnet of a row is one of that row's candidates. -/
theorem candidate_of_row {db : TopologyDb} (hok : RuntimesOk specs db) {key : TopologyNode}
    {row : TopologyRuntime} {net : Network} {ip : Nat} (hrow : db.runtimes.lookup key = some row)
    (hnet : row.cidr = some net) (hcand : IsCandidate specs key.topologyId ip) (hip : ip ∈ net) :
    ∃ g hosts, row.gatewayIp = some g ∧ iterCandidateWorkspaceHosts net g = .ok hosts ∧
      ip ∈ hosts := by
  obtain ⟨spec, net', g', hosts, hspec, hfits', hhosts, hmem⟩ := hcand
  obtain ⟨spec₁, net₁, g, hspec₁, hnet₁, hg, hfits⟩ := (hok.fits key row hrow).fits
  obtain rfl : spec = spec₁ := Option.some.inj (hspec.symm.trans hspec₁)
  obtain rfl : net = net₁ := Option.some.inj (hnet.symm.trans hnet₁)
  obtain ⟨rfl, rfl⟩ := hfits'.eq_of_common hfits (candidate_inside hhosts hmem).1 hip
  exact ⟨g', hosts, hg, hhosts, hmem⟩

/-! ## What an operation does to rows and leases -/

/-- The effect of an operation that makes the runtime row `made`, if any. -/
structure OpEffect (specs : Int → Option TopologySpec)
    (made : Option (TopologyNode × Network × Nat)) (db db' : TopologyDb) : Prop where
  rowsOk : RuntimesOk specs db'
  row : ∀ key row', db'.runtimes.lookup key = some row' →
    (∃ row, db.runtimes.lookup key = some row ∧ row'.cidr = row.cidr ∧
      row'.gatewayIp = row.gatewayIp) ∨
    ∃ net g, made = some (key, net, g) ∧ row'.cidr = some net
  newRow : ∀ key net g, made = some (key, net, g) →
    ∃ row', db'.runtimes.lookup key = some row' ∧ row'.cidr = some net
  lease : ∀ slot lease', db'.allocations.lookup slot = some lease' → lease'.released = false →
    db.allocations.lookup slot = some lease' ∨ HandsOut db' slot.node lease'.ip
  kept : ∀ slot lease key net g, made = some (key, net, g) → slot.node = key →
    db.allocations.lookup slot = some lease → lease.released = false →
    db'.allocations.lookup slot = some lease ∨ lease.ip ∈ net

/-- An operation that makes no row: it may drop rows, change a status, or release leases. -/
theorem OpEffect.of_none {db db' : TopologyDb} (hok : RuntimesOk specs db)
    (hchange : RuntimeChange specs db db')
    (hrow : ∀ key row', db'.runtimes.lookup key = some row' →
      ∃ row, db.runtimes.lookup key = some row ∧ row'.cidr = row.cidr ∧
        row'.gatewayIp = row.gatewayIp)
    (hlease : ∀ slot lease', db'.allocations.lookup slot = some lease' →
      lease'.released = false → db.allocations.lookup slot = some lease' ∨
      HandsOut db' slot.node lease'.ip) : OpEffect specs none db db' where
  rowsOk := hok.change hchange
  row key row' h := .inl (hrow key row' h)
  newRow key net g h := by cases h
  lease := hlease
  kept slot lease key net g h := by cases h

theorem OpEffect.leasesOk {made : Option (TopologyNode × Network × Nat)} {db db' : TopologyDb}
    (h : OpEffect specs made db db') (hok : LeasesOk specs db) : LeasesOk specs db' where
  rows := h.rowsOk
  leases slot lease hlease hact := by
    rcases h.lease slot lease hlease hact with hold | ⟨row, net, g, hosts, hrow, hnet, hg, hh, hmem⟩
    · exact hok.leases slot lease hold hact
    · obtain ⟨spec, net', g', hspec, hnet', hg', hfits⟩ := (h.rowsOk.fits _ row hrow).fits
      obtain rfl : net = net' := Option.some.inj (hnet.symm.trans hnet')
      obtain rfl : g = g' := Option.some.inj (hg.symm.trans hg')
      exact ⟨spec, net, g, hosts, hspec, hfits, hh, hmem⟩

/-! ## The runtime row of a node -/

theorem overlaps_self (net : Network) : net.overlaps net = true :=
  Network.overlaps_iff.mpr ⟨net.base, net.base_mem, net.base_mem⟩

/-- A subnet clear of those read a moment ago is not taken. -/
theorem cidrTaken_of_clear {db : TopologyDb} {key : TopologyNode} {net : Network}
    (h : netOverlapsAny net (listUsedRuntimeNetworks db key) = false) :
    cidrTaken db key (some net) = false := by
  rw [cidrTaken, List.any_eq_false]
  rintro ⟨key', row⟩ hmem htaken
  simp only [Bool.and_eq_true, beq_iff_eq, bne_iff_ne, ne_eq] at htaken
  obtain ⟨⟨⟨ht, hne⟩, hcidr⟩, -⟩ := htaken
  have hnode : key'.nodeId ≠ key.nodeId := by
    intro hnode
    apply hne
    cases key'
    cases key
    cases ht
    cases hnode
    rfl
  have hused : net ∈ listUsedRuntimeNetworks db key := by
    refine List.mem_filterMap.mpr ⟨⟨key', row⟩, hmem, ?_⟩
    rw [if_pos ⟨ht, hnode⟩]
    exact hcidr
  have := List.any_eq_false.mp h net hused
  exact this (overlaps_self net)

theorem insertRuntime_clear {db : TopologyDb} {key : TopologyNode} {net : Network} {g : Nat}
    (bridge : String) (hnone : db.runtimes.lookup key = none)
    (h : netOverlapsAny net (listUsedRuntimeNetworks db key) = false) :
    ∃ row, row.cidr = some net ∧ insertRuntime db key bridge net g =
      .committed { db.setRuntime key row with nextRuntimeId := db.nextRuntimeId + 1 } := by
  rw [insertRuntime, hnone]
  simp only [cidrTaken_of_clear h]
  exact ⟨_, rfl, rfl⟩

theorem ensureSync_cases (cfg : AdapterConfig) (ans : EnsureAnswer) (db : TopologyDb) (key : TopologyNode) :
    (ensureSync cfg ans db key).1 = db ∨ ∃ row st, db.runtimes.lookup key = some row ∧
      (ensureSync cfg ans db key).1 = db.setRuntime key { row with status := st } := by
  unfold ensureSync
  split
  next => exact .inl rfl
  next row hrow =>
    split
    next db' hdb' =>
      split
      next =>
        refine .inr ⟨row, syncedStatus cfg ans.bridgeOk row, hrow, ?_⟩
        simp only [syncLinuxNodeBridge, hrow, ne_eq, not_true_eq_false, if_false] at hdb'
        cases hdb'
        rfl
      next => exact .inl rfl
    next => exact .inl rfl

/-- The sync leaves subnets, gateways and leases as they are. -/
theorem ensureSync_effect (cfg : AdapterConfig) (specs : Int → Option TopologySpec)
    (ans : EnsureAnswer) (db : TopologyDb) (key : TopologyNode) :
    RuntimeChange specs db (ensureSync cfg ans db key).1 ∧
      (ensureSync cfg ans db key).1.allocations = db.allocations ∧
      ∀ key', ((ensureSync cfg ans db key).1.runtimes.lookup key').map
          (fun r => (r.cidr, r.gatewayIp)) =
        (db.runtimes.lookup key').map fun r => (r.cidr, r.gatewayIp) := by
  rcases ensureSync_cases cfg ans db key with heq | ⟨row, st, hrow, heq⟩
  · rw [heq]
    exact ⟨.same rfl rfl, rfl, fun _ => rfl⟩
  · rw [heq]
    refine ⟨.status key row st hrow rfl rfl, rfl, fun key' => ?_⟩
    simp only [TopologyDb.setRuntime, Table.lookup_insert_eq]
    split
    next h =>
      subst h
      rw [hrow]
      rfl
    next => rfl

/-- An ensure that keeps all rows makes none. -/
theorem OpEffect.of_kept {db db' : TopologyDb} (hok : RuntimesOk specs db)
    (hchange : RuntimeChange specs db db') (halloc : db'.allocations = db.allocations)
    (hrows : ∀ key, (db'.runtimes.lookup key).map (fun r => (r.cidr, r.gatewayIp)) =
      (db.runtimes.lookup key).map fun r => (r.cidr, r.gatewayIp)) :
    OpEffect specs none db db' := by
  refine OpEffect.of_none hok hchange (fun key row' hrow' => ?_) fun slot lease hlease _ => ?_
  · have h := hrows key
    rw [hrow'] at h
    obtain ⟨row, hrow, heq⟩ := Option.map_eq_some_iff.mp h.symm
    obtain ⟨hcidr, hg⟩ := Prod.mk.inj heq
    exact ⟨row, hrow, hcidr.symm, hg.symm⟩
  · rw [halloc] at hlease
    exact .inl hlease

theorem OpEffect.refl {db : TopologyDb} (hok : RuntimesOk specs db) : OpEffect specs none db db :=
  .of_kept hok (.same rfl rfl) rfl fun _ => rfl

theorem ensureAttempts_some {db : TopologyDb} {key : TopologyNode} (hok : RuntimesOk specs db)
    {row : TopologyRuntime} (hrow : db.runtimes.lookup key = some row) (ok : Bool)
    (spec : TopologySpec) (bridge : String) (left i : Nat) :
    ensureAttempts ok spec bridge db key (left + 1) i = (db, .ok ()) := by
  rw [ensureAttempts, filter_complete_eq hok, hrow]

theorem ensureAttempts_error {db : TopologyDb} {key : TopologyNode}
    (hnone : db.runtimes.lookup key = none) {spec : TopologySpec} {i : Nat} {e : TopologyError}
    (hchoose : chooseRuntimeCidrAndGateway (listUsedRuntimeNetworks db key) spec key none i =
      .error e) (ok : Bool) (bridge : String) (left : Nat) :
    ensureAttempts ok spec bridge db key (left + 1) i = (db, .error e) := by
  rw [ensureAttempts, hnone]
  simp only [Option.filter_none, hchoose]

/-- Alone, the first attempt commits. -/
theorem ensureAttempts_ok {db : TopologyDb} {key : TopologyNode}
    (hnone : db.runtimes.lookup key = none) {spec : TopologySpec} {i g : Nat} {net : Network}
    (hchoose : chooseRuntimeCidrAndGateway (listUsedRuntimeNetworks db key) spec key none i =
      .ok (net, g)) (ok : Bool) (bridge : String) (left : Nat) :
    ∃ row, row.cidr = some net ∧ insertRuntime db key bridge net g =
        .committed { db.setRuntime key row with nextRuntimeId := db.nextRuntimeId + 1 } ∧
      ensureAttempts ok spec bridge db key (left + 1) i =
        if ok then
          ({ db.setRuntime key row with nextRuntimeId := db.nextRuntimeId + 1 }, .ok ())
        else (db, .error (.runtimeCreate "failed to persist topology runtime")) := by
  obtain ⟨row, hcidr, hins⟩ := insertRuntime_clear (g := g) bridge hnone
    (chooseRuntimeCidrAndGateway_ok hchoose).2
  refine ⟨row, hcidr, hins, ?_⟩
  rw [ensureAttempts, hnone]
  simp only [Option.filter_none, hchoose, commitRuntime, hins]

theorem ensureNode_some (cfg : AdapterConfig) {db : TopologyDb} {key : TopologyNode} {row : TopologyRuntime}
    (hok : RuntimesOk specs db) (ans : EnsureAnswer) (hrow : db.runtimes.lookup key = some row) :
    OpEffect specs none db (ensureNode cfg specs ans db key).1 := by
  unfold ensureNode
  split
  next => exact .refl hok
  next spec hspec =>
    split
    next => exact .refl hok
    next bridge hbridge =>
      rw [ensureNodeCidrMaxAttempts, ensureAttempts_some hok hrow]
      obtain ⟨hchange, halloc, hrows⟩ := ensureSync_effect cfg specs ans db key
      exact .of_kept hok hchange halloc hrows

theorem ensureNode_made {db : TopologyDb} {key : TopologyNode} {spec : TopologySpec}
    {bridge : String} {net : Network} {g : Nat} (hok : RuntimesOk specs db) (ans : EnsureAnswer)
    (hnone : db.runtimes.lookup key = none) (hspec : specs key.topologyId = some spec)
    (hbridge : nodeBridgePlan cfg spec key = .ok bridge)
    (hchoose : chooseRuntimeCidrAndGateway (listUsedRuntimeNetworks db key) spec key none 0 =
      .ok (net, g)) (hans : ans.commitOk = true) :
    OpEffect specs (some (key, net, g)) db (ensureNode cfg specs ans db key).1 := by
  obtain ⟨row, hcidr, hins, hatt⟩ := ensureAttempts_ok hnone hchoose true bridge 15
  obtain ⟨hchange, halloc, hrows⟩ := ensureSync_effect cfg specs ans
    { db.setRuntime key row with nextRuntimeId := db.nextRuntimeId + 1 } key
  have heq : (ensureNode cfg specs ans db key).1 = (ensureSync cfg ans
      { db.setRuntime key row with nextRuntimeId := db.nextRuntimeId + 1 } key).1 := by
    simp only [ensureNode, hspec, hbridge, hans, ensureNodeCidrMaxAttempts, hatt, if_true]
  have hlook : ∀ key', (db.setRuntime key row).runtimes.lookup key' =
      if key' = key then some row else db.runtimes.lookup key' := fun key' =>
    Table.lookup_insert_eq _ _ _ _
  have hfits := (chooseRuntimeCidrAndGateway_ok hchoose).1
  have hfirst := hok.change (insertRuntime_committed hins (nodeBridgePlan_ok hbridge) hspec hfits)
  rw [heq]
  constructor
  · exact hfirst.change hchange
  · intro key' row' hrow'
    have hmid := hrows key'
    rw [hrow'] at hmid
    obtain ⟨row₁, hrow₁, hcols⟩ := Option.map_eq_some_iff.mp hmid.symm
    obtain ⟨hcidr₁, hg₁⟩ := Prod.mk.inj hcols
    rw [hlook] at hrow₁
    split at hrow₁
    next hkey =>
      cases hrow₁
      exact .inr ⟨net, g, by rw [hkey], hcidr₁.symm.trans hcidr⟩
    next => exact .inl ⟨row₁, hrow₁, hcidr₁.symm, hg₁.symm⟩
  · intro key' net' g' hmade
    cases hmade
    have hmid := hrows key
    rw [hlook, if_pos rfl] at hmid
    obtain ⟨row', hrow', hcols⟩ := Option.map_eq_some_iff.mp hmid
    exact ⟨row', hrow', (Prod.mk.inj hcols).1.trans hcidr⟩
  · intro slot lease hlease _
    rw [halloc] at hlease
    exact .inl hlease
  · intro slot lease key' net' g' _ _ hlease _
    rw [halloc]
    exact .inl hlease

theorem ensureNodeTopology_effect (cfg : AdapterConfig) {db : TopologyDb} (hok : RuntimesOk specs db)
    (ans : EnsureAnswer) (t : Int) (n : String) :
    OpEffect specs (newRuntime cfg specs ans db t n) db
      (ensureNodeTopology cfg specs ans db t n).1 := by
  unfold ensureNodeTopology newRuntime
  split
  next => exact .refl hok
  next =>
    cases hrow : db.runtimes.lookup (nodeOf t n) with
    | some row =>
        have h := ensureNode_some cfg hok ans hrow
        cases hspec : specs t with
        | none => exact h
        | some spec => exact h
    | none =>
        cases hspec : specs t with
        | none =>
            have heq : (ensureNode cfg specs ans db (nodeOf t n)).1 = db := by
              simp only [ensureNode, nodeOf, hspec]
            rw [heq]
            exact .refl hok
        | some spec =>
            have hspec' : specs (nodeOf t n).topologyId = some spec := hspec
            cases hbridge : nodeBridgePlan cfg spec (nodeOf t n) with
            | error e =>
                have heq : (ensureNode cfg specs ans db (nodeOf t n)).1 = db := by
                  simp only [ensureNode, hspec', hbridge]
                simp only [heq, hbridge]
                exact .refl hok
            | ok bridge =>
                cases hchoose : chooseRuntimeCidrAndGateway
                    (listUsedRuntimeNetworks db (nodeOf t n)) spec (nodeOf t n) none 0 with
                | error e =>
                    have heq : (ensureNode cfg specs ans db (nodeOf t n)).1 = db := by
                      simp only [ensureNode, hspec', hbridge, ensureNodeCidrMaxAttempts,
                        ensureAttempts_error hrow hchoose]
                    simp only [heq, hbridge, hchoose]
                    exact .refl hok
                | ok choice =>
                    obtain ⟨net, g⟩ := choice
                    cases hans : ans.commitOk with
                    | true =>
                        simp only [hbridge, hchoose]
                        exact ensureNode_made hok ans hrow hspec' hbridge hchoose hans
                    | false =>
                        obtain ⟨row, -, -, hatt⟩ := ensureAttempts_ok hrow hchoose false bridge 15
                        have heq : (ensureNode cfg specs ans db (nodeOf t n)).1 = db := by
                          simp only [ensureNode, hspec', hbridge, hans, ensureNodeCidrMaxAttempts,
                            hatt, Bool.false_eq_true, if_false]
                        simp only [heq, hbridge, hchoose]
                        exact .refl hok

/-! ## Leases -/

theorem readyRuntime_ok {db : TopologyDb} {key : TopologyNode} {net : Network} {g : Nat}
    (h : readyRuntime db key = .ok (net, g)) :
    ∃ row, db.runtimes.lookup key = some row ∧ row.cidr = some net ∧ row.gatewayIp = some g := by
  unfold readyRuntime at h
  split at h
  next => cases h
  next row hrow =>
    split at h
    next => cases h
    next =>
      split at h
      next net' g' hnet hg =>
        cases h
        exact ⟨row, hrow, hnet, hg⟩
      next => cases h

theorem planLease_ok {db : TopologyDb} {slot : WorkspaceSlot} {i : Nat} {plan : LeasePlan}
    (h : planLease db slot i = .ok plan) :
    (∃ lease net g, plan = .existing lease.ip ∧ activeLease db slot = some lease ∧
      readyRuntime db slot.node = .ok (net, g)) ∨
    ∃ ip, plan = .lease (db.allocations.lookup slot) ip ∧ HandsOut db slot.node ip := by
  unfold planLease at h
  split at h
  next => cases h
  next net g hready =>
    split at h
    next lease hlease =>
      cases h
      exact .inl ⟨lease, net, g, rfl, hlease, hready⟩
    next =>
      split at h
      next => cases h
      next hosts hhosts =>
        dsimp only at h
        split at h
        next => cases h
        next ip hip =>
          cases h
          obtain ⟨row, hrow, hnet, hg⟩ := readyRuntime_ok hready
          have hmem := List.mem_rotate.mp (List.mem_of_find?_eq_some hip)
          exact .inr ⟨ip, rfl, row, net, g, hosts, hrow, hnet, hg, hhosts, hmem⟩

/-- With nothing in between, the commit writes the address that was picked. -/
theorem commitLease_read {db db' : TopologyDb} {slot : WorkspaceSlot} {ip : Nat}
    (h : commitLease db slot (db.allocations.lookup slot) ip = .committed db') :
    db' = db.setLease slot { ip := ip, released := false } := by
  cases hrow : db.allocations.lookup slot with
  | none =>
      simp only [commitLease, hrow] at h
      split at h
      next => cases h
      next => cases h; rfl
  | some old =>
      have hip : (if ip = old.ip then old.ip else ip) = ip := by split <;> simp_all
      simp only [commitLease, hrow, hip] at h
      split at h
      next => cases h
      next => cases h; rfl

/-- What the attempts do to the database, and what they return. -/
theorem allocateAttempts_spec (ok : Bool) (db : TopologyDb) (slot : WorkspaceSlot) (left i : Nat) :
    ((allocateAttempts ok db slot left i).1 = db ∨ ∃ ip, HandsOut db slot.node ip ∧
      (allocateAttempts ok db slot left i).1 = db.setLease slot { ip := ip, released := false }) ∧
    ∀ r, (allocateAttempts ok db slot left i).2 = .ok r →
      HandsOut db slot.node r.workspaceIp ∨
      ∃ lease net g, activeLease db slot = some lease ∧ lease.ip = r.workspaceIp ∧
        readyRuntime db slot.node = .ok (net, g) := by
  induction left generalizing i with
  | zero => exact ⟨.inl rfl, fun r hr => by cases hr⟩
  | succ left ih =>
      unfold allocateAttempts
      split
      next => exact ⟨.inl rfl, fun r hr => by cases hr⟩
      next ip hplan =>
        refine ⟨.inl rfl, fun r hr => ?_⟩
        cases hr
        rcases planLease_ok hplan with ⟨lease, net, g, heq, hlease, hready⟩ | ⟨_, heq, _⟩
        · cases heq
          exact .inr ⟨lease, net, g, hlease, rfl, hready⟩
        · cases heq
      next row ip hplan =>
        rcases planLease_ok hplan with ⟨_, _, _, heq, _⟩ | ⟨ip', heq, hout⟩
        · cases heq
        · cases heq
          split
          next db' hdb' =>
            split
            next =>
              refine ⟨.inr ⟨ip, hout, commitLease_read hdb'⟩, fun r hr => ?_⟩
              cases hr
              exact .inl hout
            next => exact ⟨.inl rfl, fun r hr => by cases hr⟩
          next => exact ⟨.inl rfl, fun r hr => by cases hr⟩
          next =>
            split
            next => exact ⟨.inl rfl, fun r hr => by cases hr⟩
            next =>
              split
              next => exact ⟨.inl rfl, fun r hr => by cases hr⟩
              next => exact ih (i + 1)

theorem allocateWorkspaceIp_spec (ok : Bool) (db : TopologyDb) (slot : WorkspaceSlot) :
    ((allocateWorkspaceIp ok db slot).1 = db ∨ ∃ ip, HandsOut db slot.node ip ∧
      (allocateWorkspaceIp ok db slot).1 = db.setLease slot { ip := ip, released := false }) ∧
    ∀ r, (allocateWorkspaceIp ok db slot).2 = .ok r →
      HandsOut db slot.node r.workspaceIp ∨
      ∃ lease net g, activeLease db slot = some lease ∧ lease.ip = r.workspaceIp ∧
        readyRuntime db slot.node = .ok (net, g) := by
  unfold allocateWorkspaceIp
  split
  next => exact ⟨.inl rfl, fun r hr => by cases hr⟩
  next => exact allocateAttempts_spec ok db slot _ 0

theorem activeLease_some {db : TopologyDb} {slot : WorkspaceSlot} {lease : IpAllocation}
    (h : activeLease db slot = some lease) :
    db.allocations.lookup slot = some lease ∧ lease.released = false := by
  obtain ⟨hlook, hact⟩ := Option.filter_eq_some_iff.mp h
  exact ⟨hlook, by simpa using hact⟩

theorem allocateWorkspaceIp_effect {db : TopologyDb} (hok : RuntimesOk specs db) (ok : Bool)
    (slot : WorkspaceSlot) : OpEffect specs none db (allocateWorkspaceIp ok db slot).1 := by
  rcases (allocateWorkspaceIp_spec ok db slot).1 with heq | ⟨ip, hout, heq⟩
  · rw [heq]
    exact .refl hok
  · rw [heq]
    refine .of_none hok (.same rfl rfl) (fun key row' hrow' => ⟨row', hrow', rfl, rfl⟩) ?_
    intro slot' lease' hlease' _
    simp only [TopologyDb.setLease, Table.lookup_insert_eq] at hlease'
    split at hlease'
    next hslot =>
      cases hlease'
      subst hslot
      exact .inr hout
    next => exact .inl hlease'

/-- What follows an ensure may release leases that lie in their node's subnet. -/
theorem OpEffect.then_release {made : Option (TopologyNode × Network × Nat)}
    {db mid db' : TopologyDb} (h : OpEffect specs made db mid)
    (hrt : db'.runtimes = mid.runtimes) (hid : db'.nextRuntimeId = mid.nextRuntimeId)
    (hback : ∀ slot lease, db'.allocations.lookup slot = some lease → lease.released = false →
      mid.allocations.lookup slot = some lease)
    (hkept : ∀ slot lease, mid.allocations.lookup slot = some lease → lease.released = false →
      db'.allocations.lookup slot = some lease ∨
      ∃ row net, mid.runtimes.lookup slot.node = some row ∧ row.cidr = some net ∧ lease.ip ∈ net) :
    OpEffect specs made db db' where
  rowsOk := h.rowsOk.change (.same hrt hid)
  row key row' hrow' := h.row key row' (hrt ▸ hrow')
  newRow key net g hmade := by
    rw [hrt]
    exact h.newRow key net g hmade
  lease slot lease hlease hact := by
    rw [HandsOut, hrt]
    exact h.lease slot lease (hback slot lease hlease hact) hact
  kept slot lease key net g hmade hnode hlease hact := by
    rcases h.kept slot lease key net g hmade hnode hlease hact with hmid | hin
    · rcases hkept slot lease hmid hact with hend | ⟨row, net', hrow, hnet', hin⟩
      · exact .inl hend
      · obtain ⟨row', hrow', hnet⟩ := h.newRow key net g hmade
        rw [hnode, hrow'] at hrow
        cases hrow
        rw [hnet] at hnet'
        cases hnet'
        exact .inr hin
    · exact .inr hin

/-- The runtime table and the leases are those of `db`, up to a release of the slot's lease if
it holds `ip`. -/
structure MayRelease (slot : WorkspaceSlot) (ip : Nat) (db db' : TopologyDb) : Prop where
  runtimes : db'.runtimes = db.runtimes
  nextId : db'.nextRuntimeId = db.nextRuntimeId
  leases : db'.allocations = db.allocations ∨ ∃ lease, activeLease db slot = some lease ∧
    lease.ip = ip ∧ db'.allocations = db.allocations.insert slot { lease with released := true }

theorem releaseLease_frame {db : TopologyDb} {slot : WorkspaceSlot} {lease : IpAllocation}
    (h : activeLease db slot = some lease) : MayRelease slot lease.ip db (releaseLease db slot) := by
  have heq : releaseLease db slot = db.setLease slot { lease with released := true } := by
    rw [releaseLease, h]
  rw [heq]
  exact ⟨rfl, rfl, .inr ⟨lease, h, rfl, rfl⟩⟩

/-- A change of the attachment rows alone. -/
structure SameElse (db db' : TopologyDb) : Prop where
  runtimes : db'.runtimes = db.runtimes
  nextId : db'.nextRuntimeId = db.nextRuntimeId
  allocations : db'.allocations = db.allocations

theorem setAttachmentStatus_same (now : Nat) (db : TopologyDb) (slot : WorkspaceSlot)
    (st : TopologyAttachmentStatus) : SameElse db (setAttachmentStatus now db slot st) := by
  unfold setAttachmentStatus
  split <;> exact ⟨rfl, rfl, rfl⟩

theorem commitAttaching_same (now : Nat) (db : TopologyDb) (req : AttachRequest) :
    SameElse db (commitAttaching now db req) := by
  unfold commitAttaching
  split <;> exact ⟨rfl, rfl, rfl⟩

theorem SameElse.trans {a b c : TopologyDb} (h : SameElse a b) (h' : SameElse b c) :
    SameElse a c :=
  ⟨h'.runtimes.trans h.runtimes, h'.nextId.trans h.nextId, h'.allocations.trans h.allocations⟩

theorem SameElse.mayRelease {a b c : TopologyDb} {slot : WorkspaceSlot} {ip : Nat}
    (h : SameElse a b) (h' : MayRelease slot ip b c) : MayRelease slot ip a c := by
  refine ⟨h'.runtimes.trans h.runtimes, h'.nextId.trans h.nextId, ?_⟩
  have hl := h'.leases
  rw [activeLease, h.allocations] at hl
  exact hl

theorem SameElse.none {a b : TopologyDb} (h : SameElse a b) (slot : WorkspaceSlot) (ip : Nat) :
    MayRelease slot ip a b := ⟨h.runtimes, h.nextId, .inl h.allocations⟩

theorem attachFailureBestEffort_frame (ans : AttachAnswer) (db : TopologyDb) (req : AttachRequest)
    (releaseIp : Bool) :
    MayRelease req.slot req.workspaceIp db (attachFailureBestEffort ans db req releaseIp) := by
  have hmark : SameElse db
      (if ans.failedOk then setAttachmentStatus ans.now db req.slot .failed else db) := by
    split
    · exact setAttachmentStatus_same ans.now db req.slot .failed
    · exact ⟨rfl, rfl, rfl⟩
  simp only [attachFailureBestEffort]
  generalize (if ans.failedOk then setAttachmentStatus ans.now db req.slot .failed else db) = marked
    at hmark ⊢
  split
  next h =>
    simp only [Bool.and_eq_true, beq_iff_eq] at h
    obtain ⟨lease, hlease, hip⟩ := Option.map_eq_some_iff.mp h.2
    refine hmark.mayRelease ?_
    rw [← hip]
    exact releaseLease_frame hlease
  next => exact hmark.none _ _

theorem attachChecked_frame (ans : AttachAnswer) (db : TopologyDb) (req : AttachRequest) :
    MayRelease req.slot req.workspaceIp db (attachChecked cfg ans db req).1 := by
  have hself : SameElse db db := ⟨rfl, rfl, rfl⟩
  have hing := commitAttaching_same ans.now db req
  have hed := hing.trans (setAttachmentStatus_same ans.now (commitAttaching ans.now db req) req.slot
    .attached)
  simp only [attachChecked]
  split
  · exact hself.none _ _
  · split
    · exact hself.none _ _
    · split
      · exact hing.mayRelease (attachFailureBestEffort_frame ans _ req _)
      · split
        · exact hing.mayRelease (attachFailureBestEffort_frame ans _ req _)
        · split
          · exact hed.mayRelease (attachFailureBestEffort_frame ans _ req _)
          · exact hed.none _ _

theorem checkAttach_ok {db : TopologyDb} {req : AttachRequest} (h : checkAttach db req = .ok ()) :
    ∃ row net, db.runtimes.lookup req.slot.node = some row ∧ row.cidr = some net ∧
      req.workspaceIp ∈ net := by
  unfold checkAttach at h
  split at h
  next => cases h
  next row hrow =>
    split at h
    next => cases h
    next =>
      split at h
      next => cases h
      next =>
        split at h
        next net g hnet hg =>
          split at h
          next => cases h
          next =>
            split at h
            next hin => exact ⟨row, net, hrow, hnet, hin⟩
            next => cases h
        next => cases h

/-- A lease released inside its node's subnet is no loss to the effect. -/
theorem OpEffect.then_mayRelease {made : Option (TopologyNode × Network × Nat)}
    {db mid db' : TopologyDb} {slot : WorkspaceSlot} {ip : Nat} (h : OpEffect specs made db mid)
    (hrel : MayRelease slot ip mid db')
    (hin : ∃ row net, mid.runtimes.lookup slot.node = some row ∧ row.cidr = some net ∧ ip ∈ net) :
    OpEffect specs made db db' := by
  rcases hrel.leases with heq | ⟨lease₀, hlease₀, hip, heq⟩
  · refine h.then_release hrel.runtimes hrel.nextId (fun s l hl _ => heq ▸ hl) fun s l hl _ => ?_
    exact .inl (heq ▸ hl)
  · refine h.then_release hrel.runtimes hrel.nextId (fun s l hl hact => ?_) fun s l hl hact => ?_
    · rw [heq, Table.lookup_insert_eq] at hl
      split at hl
      next =>
        cases hl
        cases hact
      next => exact hl
    · rw [heq, Table.lookup_insert_eq]
      split
      next hs =>
        subst hs
        obtain rfl : lease₀ = l := Option.some.inj ((activeLease_some hlease₀).1.symm.trans hl)
        obtain ⟨row, net, hrow, hnet, hmem⟩ := hin
        exact .inr ⟨row, net, hrow, hnet, hip ▸ hmem⟩
      next => exact .inl hl

theorem attachWorkspace_effect {db : TopologyDb} (hok : RuntimesOk specs db) (t : Int) (n : String)
    (w : Nat) (c : String) (ip : Nat) (ans : AttachAnswer) :
    OpEffect specs (madeRuntime cfg specs db (.attachWorkspace t n w c ip ans)) db
      (attachWorkspace cfg specs ans db ⟨⟨nodeOf t n, w⟩, c, ip⟩).1 := by
  have hens := ensureNodeTopology_effect cfg hok ans.ensure t (cleanNodeId n)
  simp only [madeRuntime, attachWorkspace]
  split
  next => exact .refl hok
  next =>
    have hout : ∀ out, ensureNodeTopology cfg specs ans.ensure db t (cleanNodeId n) = out →
        OpEffect specs (newRuntime cfg specs ans.ensure db t (cleanNodeId n)) db out.1 := by
      rintro out rfl
      exact hens
    split
    next db' e heq => exact hout _ heq
    next db' row heq =>
      have heff := hout _ heq
      split
      next => exact heff
      next hcheck =>
        split
        next => exact heff
        next => exact heff.then_mayRelease (attachChecked_frame ans db' _) (checkAttach_ok hcheck)

theorem detachWorkspace_same (cfg : AdapterConfig) (linuxOk ok : Bool) (now : Nat) (db : TopologyDb)
    (slot : WorkspaceSlot) : SameElse db (detachWorkspace cfg linuxOk ok now db slot).1 := by
  unfold detachWorkspace
  split
  · exact ⟨rfl, rfl, rfl⟩
  · split
    · exact ⟨rfl, rfl, rfl⟩
    · split
      · exact ⟨rfl, rfl, rfl⟩
      · split <;> exact ⟨rfl, rfl, rfl⟩

/-- Rows stay and no lease becomes active. -/
theorem OpEffect.of_release {db db' : TopologyDb} (hok : RuntimesOk specs db)
    (hrt : db'.runtimes = db.runtimes) (hid : db'.nextRuntimeId = db.nextRuntimeId)
    (hback : ∀ slot lease, db'.allocations.lookup slot = some lease → lease.released = false →
      db.allocations.lookup slot = some lease) : OpEffect specs none db db' := by
  refine .of_none hok (.same hrt hid) (fun key row hrow => ⟨row, hrt ▸ hrow, rfl, rfl⟩) ?_
  exact fun slot lease hlease hact => .inl (hback slot lease hlease hact)

theorem releaseWorkspaceIpLease_effect {db : TopologyDb} (hok : RuntimesOk specs db) (ok : Bool)
    (slot : WorkspaceSlot) : OpEffect specs none db (releaseWorkspaceIpLease ok db slot).1 := by
  unfold releaseWorkspaceIpLease
  split
  next => exact .refl hok
  next lease hlease =>
    split
    next =>
      have hframe := releaseLease_frame hlease
      refine .of_release hok hframe.runtimes hframe.nextId fun s l hl hact => ?_
      rcases hframe.leases with heq | ⟨lease₀, -, -, heq⟩
      · exact heq ▸ hl
      · rw [heq, Table.lookup_insert_eq] at hl
        split at hl
        next =>
          cases hl
          cases hact
        next => exact hl
    next => exact .refl hok

theorem commitDelete_effect {db : TopologyDb} (hok : RuntimesOk specs db) (key : TopologyNode)
    (runtimeId : Option Nat) : OpEffect specs none db (commitDelete db key runtimeId) := by
  have halloc : (commitDelete db key runtimeId).allocations = db.allocations := by
    simp only [commitDelete]
    split <;> rfl
  refine .of_none hok (commitDelete_change db key runtimeId) (fun key' row' hrow' => ?_) ?_
  · simp only [commitDelete] at hrow'
    split at hrow'
    next =>
      by_cases hkey : key' = key
      · subst hkey
        rw [AList.lookup_erase] at hrow'
        cases hrow'
      · rw [AList.lookup_erase_ne hkey] at hrow'
        exact ⟨row', hrow', rfl, rfl⟩
    next => exact ⟨row', hrow', rfl, rfl⟩
  · intro slot lease hlease _
    exact .inl (halloc ▸ hlease)

theorem deleteTopology_effect {db : TopologyDb} (hok : RuntimesOk specs db) (ok bridgeOk : Bool)
    (t : Int) (n : String) : OpEffect specs none db (deleteTopology cfg ok bridgeOk db t n).1 := by
  unfold deleteTopology deleteNode
  split
  · exact .refl hok
  · split
    · exact .refl hok
    · split
      · dsimp only
        split
        · exact commitDelete_effect hok _ _
        · exact .refl hok
      · split
        · exact .refl hok
        · dsimp only
          split <;> exact commitDelete_effect hok _ _

theorem leaseStep_effect (cfg : AdapterConfig) {db : TopologyDb} (hok : RuntimesOk specs db) (op : LeaseOp) :
    OpEffect specs (madeRuntime cfg specs db op) db (leaseStep cfg specs db op) := by
  cases op with
  | ensureNodeTopology t n ans => exact ensureNodeTopology_effect cfg hok ans t n
  | allocateWorkspaceIp t n w ok => exact allocateWorkspaceIp_effect hok ok _
  | attachWorkspace t n w c ip ans => exact attachWorkspace_effect hok t n w c ip ans
  | detachWorkspace t n w linuxOk ok now =>
      have hsame := detachWorkspace_same cfg linuxOk ok now db ⟨nodeOf t n, w⟩
      exact .of_release hok hsame.runtimes hsame.nextId fun s l hl _ => hsame.allocations ▸ hl
  | releaseWorkspaceIpLease t n w ok => exact releaseWorkspaceIpLease_effect hok ok _
  | deleteTopology t n ok bridgeOk => exact deleteTopology_effect hok ok bridgeOk t n

/-! ## The law -/

theorem HandsOut.inside {db : TopologyDb} {key : TopologyNode} {ip : Nat} (h : HandsOut db key ip)
    {row : TopologyRuntime} (hrow : db.runtimes.lookup key = some row) :
    (∀ net, row.cidr = some net → ip ∈ net) ∧ row.gatewayIp ≠ some ip := by
  obtain ⟨row', net, g, hosts, hrow', hnet, hg, hhosts, hmem⟩ := h
  obtain rfl : row' = row := Option.some.inj (hrow'.symm.trans hrow)
  obtain ⟨hin, hne⟩ := candidate_inside hhosts hmem
  refine ⟨fun net' hnet' => ?_, fun hg' => ?_⟩
  · obtain rfl : net = net' := Option.some.inj (hnet.symm.trans hnet')
    exact hin
  · exact hne (Option.some.inj (hg'.symm.trans hg))

/-- Inside the row's subnet, a lease of the run is one the node hands out. -/
theorem LeasesOk.handsOut {db : TopologyDb} (hok : LeasesOk specs db) {slot : WorkspaceSlot}
    {lease : IpAllocation} {row : TopologyRuntime} {net : Network}
    (hlease : db.allocations.lookup slot = some lease) (hact : lease.released = false)
    (hrow : db.runtimes.lookup slot.node = some row) (hnet : row.cidr = some net)
    (hin : lease.ip ∈ net) : HandsOut db slot.node lease.ip := by
  obtain ⟨g, hosts, hg, hhosts, hmem⟩ := candidate_of_row hok.rows hrow hnet
    (hok.leases slot lease hlease hact) hin
  exact ⟨row, net, g, hosts, hrow, hnet, hg, hhosts, hmem⟩

/-- Returned addresses are candidates as soon as leases lie inside their subnets. -/
theorem LeasesFollow.of_inside {db : TopologyDb} (hok : LeasesOk specs db)
    (hin : ∀ slot lease row, db.allocations.lookup slot = some lease → lease.released = false →
      db.runtimes.lookup slot.node = some row →
      (∀ net, row.cidr = some net → lease.ip ∈ net) ∧ row.gatewayIp ≠ some lease.ip) :
    LeasesFollow db where
  inside := hin
  returned slot ok r hr := by
    rcases (allocateWorkspaceIp_spec ok db slot).2 r hr with hout | ⟨lease, net, g, hact, hip, hready⟩
    · exact hout
    · obtain ⟨row, hrow, hnet, -⟩ := readyRuntime_ok hready
      obtain ⟨hlease, hrel⟩ := activeLease_some hact
      rw [← hip]
      exact hok.handsOut hlease hrel hrow hnet ((hin slot lease row hlease hrel hrow).1 net hnet)

theorem holdsLeases_iff {db : TopologyDb} {op : LeaseOp} :
    HoldsLeases cfg specs db op ↔ ∀ key net g, madeRuntime cfg specs db op = some (key, net, g) →
      ∀ slot lease, slot.node = key → db.allocations.lookup slot = some lease →
      lease.released = false → lease.ip ∈ net := by
  unfold HoldsLeases
  cases hmade : madeRuntime cfg specs db op with
  | none => simp
  | some m =>
      obtain ⟨key, net, g⟩ := m
      simp only [Option.all_some, List.all_eq_true, decide_eq_true_eq, mem_activeIps]
      constructor
      · rintro h key' net' g' heq slot lease hnode hlease hact
        cases heq
        exact h lease.ip ⟨slot, lease, hnode, hlease, hact, rfl⟩
      · rintro h ip ⟨slot, lease, hnode, hlease, hact, rfl⟩
        exact h key net g rfl slot lease hnode hlease hact

/-- One operation keeps leases inside exactly when the row it makes holds them. -/
theorem leaseStep_follow_iff {db : TopologyDb} (hok : LeasesOk specs db) (hq : LeasesFollow db)
    (op : LeaseOp) :
    LeasesFollow (leaseStep cfg specs db op) ↔ HoldsLeases cfg specs db op := by
  have heff := leaseStep_effect cfg hok.rows op
  have hok' := heff.leasesOk hok
  rw [holdsLeases_iff]
  constructor
  · intro hq' key net g hmade slot lease hnode hlease hact
    rcases heff.kept slot lease key net g hmade hnode hlease hact with hend | hin
    · obtain ⟨row', hrow', hnet⟩ := heff.newRow key net g hmade
      exact (hq'.inside slot lease row' hend hact (hnode ▸ hrow')).1 net hnet
    · exact hin
  · intro hp
    refine .of_inside hok' fun slot lease row' hlease hact hrow' => ?_
    rcases heff.lease slot lease hlease hact with hold | hout
    · rcases heff.row slot.node row' hrow' with ⟨row, hrow, hcidr, hg⟩ | ⟨net, g, hmade, hnet⟩
      · rw [hcidr, hg]
        exact hq.inside slot lease row hold hact hrow
      · have hin := hp slot.node net g hmade slot lease rfl hold hact
        exact (hok'.handsOut hlease hact hrow' hnet hin).inside hrow'
    · exact hout.inside hrow'

/-- Rows and leases of a database before any operation. -/
def TopologyDb.Unused (db : TopologyDb) : Prop := db.runtimes = ∅ ∧ db.allocations = ∅

theorem LeasesOk.of_unused {db : TopologyDb} (h : db.Unused) : LeasesOk specs db where
  rows := (RaceOk.of_fresh (s := ⟨db, []⟩) ⟨h.1, rfl⟩).rows
  leases slot lease hlease := by
    rw [h.2] at hlease
    cases hlease

/-- In a run of operations that starts without rows, leases follow the subnet of their node in
every state exactly when each runtime row is made with a subnet that holds the active leases of
its node. -/
theorem leases_follow_cidr_iff (cfg : AdapterConfig) (specs : Int → Option TopologySpec)
    (db : TopologyDb) (hdb : db.Unused) (ops : List LeaseOp) :
    Always (leaseStep cfg specs) LeasesFollow db ops ↔
      Along (leaseStep cfg specs) (HoldsLeases cfg specs) db ops := by
  have hok : LeasesOk specs db := .of_unused hdb
  refine always_iff_along hok (fun db op hok _ => (leaseStep_effect cfg hok.rows op).leasesOk hok) ?_
    fun db op hok hq => leaseStep_follow_iff hok hq op
  refine .of_inside hok fun slot lease row hlease => ?_
  rw [hdb.2] at hlease
  cases hlease

/-- Deleting a runtime row and making it again with nothing in between. -/
def sameSubnetAgain : List LeaseOp :=
  [.ensureNodeTopology 1 "node-1" {}, .allocateWorkspaceIp 1 "node-1" 7 true,
    .deleteTopology 1 "node-1" true true, .ensureNodeTopology 1 "node-1" {}]

theorem same_subnet_keeps_leases :
    Along (leaseStep dbOnlyAdapter fun _ => some {}) (HoldsLeases dbOnlyAdapter fun _ => some {})
        emptyTopologyDb sameSubnetAgain ∧
      Always (leaseStep dbOnlyAdapter fun _ => some {}) LeasesFollow emptyTopologyDb
        sameSubnetAgain := by
  have halong : Along (leaseStep dbOnlyAdapter fun _ => some {})
      (HoldsLeases dbOnlyAdapter fun _ => some {}) emptyTopologyDb sameSubnetAgain := by
    decide +kernel
  exact ⟨halong, (leases_follow_cidr_iff dbOnlyAdapter (fun _ => some {}) emptyTopologyDb
    ⟨rfl, rfl⟩ sameSubnetAgain).mpr halong⟩

/-- `10.128.0.11`, the first address for workspaces of the first subnet. -/
def firstIp : Nat := 176160779

/-- While the node has no runtime row, another node takes its subnet. -/
def otherSubnetAgain : List LeaseOp :=
  [.ensureNodeTopology 1 "node-1" {}, .allocateWorkspaceIp 1 "node-1" 7 true,
    .deleteTopology 1 "node-1" true true, .ensureNodeTopology 1 "node-2" {},
    .ensureNodeTopology 1 "node-1" {}]

theorem lease_outlives_subnet :
    ¬ Always (leaseStep dbOnlyAdapter fun _ => some {}) LeasesFollow emptyTopologyDb
      otherSubnetAgain := by
  intro h
  have hout : ∃ lease row net, (run (leaseStep dbOnlyAdapter fun _ => some {}) emptyTopologyDb
        otherSubnetAgain).allocations.lookup ⟨⟨1, "node-1"⟩, 7⟩ = some lease ∧
      lease.released = false ∧ (run (leaseStep dbOnlyAdapter fun _ => some {}) emptyTopologyDb
        otherSubnetAgain).runtimes.lookup ⟨1, "node-1"⟩ = some row ∧ row.cidr = some net ∧
      lease.ip ∉ net := by
    refine ⟨⟨firstIp, false⟩, _, _, by decide +kernel, rfl, Option.eq_some_of_isSome ?_,
      Option.eq_some_of_isSome ?_, ?_⟩
    · decide +kernel
    · decide +kernel
    · decide +kernel
  obtain ⟨lease, row, net, hlease, hact, hrow, hnet, hnot⟩ := hout
  exact hnot ((h.last.inside _ lease row hlease hact hrow).1 net hnet)

end Devnest
