import Mathlib
import Devnest.Ipv4
import Devnest.PyText
import Devnest.Table

/-!
# The topology database

`DbTopologyAdapter` keeps three tables: one runtime row for each node of a
topology (bridge, subnet, gateway), one lease row and one attachment row for
each workspace on a node. The rows are kept under the columns of their unique
constraints, so a second row for one node, or for one workspace on a node,
cannot be built; the other two constraints (one subnet per topology, one
active address per node) are checked by the commit that would break them.

Subnets and addresses are held as values: a column that the adapter writes
holds the canonical text of one.
-/

namespace Devnest

open Ipv4

inductive TopologyRuntimeStatus where
  | ready | degraded | failed | deleting
  deriving DecidableEq, Repr

inductive TopologyAttachmentStatus where
  | attaching | attached | detaching | detached | failed
  deriving DecidableEq, Repr

/-- The columns of `uq_topology_runtime_topology_node`. -/
structure TopologyNode where
  topologyId : Int
  nodeId : String
  deriving DecidableEq, Repr

/-- The columns that a lease and an attachment row are unique in. -/
structure WorkspaceSlot where
  node : TopologyNode
  workspaceId : Nat
  deriving DecidableEq, Repr

structure TopologyRuntime where
  topologyRuntimeId : Nat
  status : TopologyRuntimeStatus
  bridgeName : Option String
  cidr : Option Network
  gatewayIp : Option Nat
  deriving DecidableEq, Repr

structure IpAllocation where
  ip : Nat
  /-- `released_at` is set. -/
  released : Bool
  deriving DecidableEq, Repr

structure TopologyAttachment where
  attachmentId : Nat
  containerId : Option String
  status : TopologyAttachmentStatus
  workspaceIp : Option Nat
  updatedAt : Nat
  deriving DecidableEq, Repr

structure TopologyDb where
  runtimes : Table TopologyNode TopologyRuntime
  allocations : Table WorkspaceSlot IpAllocation
  attachments : Table WorkspaceSlot TopologyAttachment
  nextRuntimeId : Nat
  nextAttachmentId : Nat

/-- A text of `spec_json` as `ipaddress` reads it. -/
inductive SpecText (α : Type) where
  | absent
  | invalid (text : String)
  | value (a : α)
  deriving DecidableEq, Repr

structure TopologySpec where
  mode : Option String := none
  cidr : SpecText Network := .absent
  gatewayIp : SpecText Nat := .absent
  bridgeName : Option String := none

/-- How the adapter was built, and the digest its interface names are cut from. -/
structure AdapterConfig where
  applyLinuxBridge : Bool
  applyLinuxAttachment : Bool
  hexDigest : String → String

inductive TopologyError where
  | runtimeCreate (message : String)
  | runtimeNotFound
  | ipAllocation (message : String)
  | attachment (message : String)
  | detach (message : String)
  | delete (message : String)
  deriving DecidableEq, Repr

/-- What a commit does: it goes through, breaks a unique constraint, or fails otherwise. -/
inductive CommitResult where
  | committed (db : TopologyDb)
  | integrityError
  | failed

/-! ## Names -/

def v1Mode : String := "node_bridge"

/-- `node_id.strip()[:128]`. -/
def cleanNodeId (nodeId : String) : String := PyText.take 128 (PyText.strip nodeId)

def isBlank (s : Option String) : Bool := PyText.stripOr s == ""

def bridgeNameFor (cfg : AdapterConfig) (key : TopologyNode) : String :=
  PyText.take 15 ("dn" ++ toString key.topologyId ++ PyText.take 4 (cfg.hexDigest key.nodeId))

def specMode (spec : TopologySpec) : String :=
  match spec.mode with
  | none => v1Mode
  | some m =>
      String.ofList ((PyText.lower (PyText.strip m)).toList.map fun c => if c = '-' then '_' else c)

/-- The bridge name of the plan; the subnet and the gateway are read from the spec as they are. -/
def nodeBridgePlan (cfg : AdapterConfig) (spec : TopologySpec) (key : TopologyNode) :
    Except TopologyError String :=
  if specMode spec ≠ v1Mode then
    .error (.runtimeCreate ("topology V1 supports mode " ++ PyText.repr v1Mode ++ " only; got " ++
      PyText.repr (specMode spec)))
  else if isBlank spec.bridgeName then .ok (bridgeNameFor cfg key)
  else .ok (PyText.take 15 (PyText.stripOr spec.bridgeName))

theorem isBlank_take_of_head {c : Char} {l : List Char} {k : Nat} (hc : PyText.isSpace c = false)
    (hk : 0 < k) : isBlank (some (PyText.take k (String.ofList (c :: l)))) = false := by
  obtain ⟨k, rfl⟩ := Nat.exists_eq_succ_of_ne_zero (Nat.ne_of_gt hk)
  have hne : PyText.stripChars (c :: l.take k) ≠ [] :=
    PyText.stripChars_ne_nil (List.mem_cons_self ..) hc
  simp only [isBlank, PyText.stripOr, Option.getD_some, PyText.strip, PyText.take,
    String.toList_ofList, List.take_succ_cons, beq_eq_false_iff_ne, ne_eq]
  intro h
  exact hne (by simpa using congrArg String.toList h)

/-- The plan never names a blank bridge. -/
theorem nodeBridgePlan_ok {cfg : AdapterConfig} {spec : TopologySpec} {key : TopologyNode}
    {bridge : String} (h : nodeBridgePlan cfg spec key = .ok bridge) :
    isBlank (some bridge) = false := by
  simp only [nodeBridgePlan] at h
  split at h
  next => cases h
  next =>
    split at h
    next =>
      cases h
      have hdn : ∀ t : String, "dn" ++ t = String.ofList ('d' :: 'n' :: t.toList) := by
        intro t
        apply String.toList_injective
        simp
      have hd : PyText.isSpace 'd' = false := by decide
      have h := isBlank_take_of_head (l := 'n' :: (toString key.topologyId ++
        PyText.take 4 (cfg.hexDigest key.nodeId)).toList) hd (Nat.succ_pos 14)
      simp only [← hdn, ← String.append_assoc] at h
      unfold bridgeNameFor
      exact h
    next hne =>
      rw [← Except.ok.inj h]
      cases hs : PyText.stripChars (spec.bridgeName.getD "").toList with
      | nil => simp [isBlank, PyText.stripOr, PyText.strip, hs] at hne
      | cons c t =>
          rw [PyText.stripOr, PyText.strip, hs]
          exact isBlank_take_of_head (PyText.isSpace_head_stripChars hs) (by decide)

/-- `sum(map(ord, node_id))`. -/
def sumOrd (s : String) : Nat := (s.toList.map Char.toNat).sum

/-! ## Subnets -/

/-- `10.128.0.0/9`. -/
def v1ParentPool : Network where
  base := 10 * 2 ^ 24 + 128 * 2 ^ 16
  prefixlen := 9
  prefixlen_le := by decide
  base_lt := by decide
  aligned := by decide

def v1ChildPrefixlen : Nat := 20

def iterPoolChildSubnets : List Network :=
  v1ParentPool.subnets v1ChildPrefixlen (by decide) (by decide)

/-- `net.hosts()` is never empty, so the first one is there. -/
def firstUsableHost (net : Network) : Nat := net.hosts.head net.hosts_ne_nil

def listUsedRuntimeNetworks (db : TopologyDb) (key : TopologyNode) : List Network :=
  db.runtimes.entries.filterMap fun e =>
    if e.1.topologyId = key.topologyId ∧ e.1.nodeId ≠ key.nodeId then e.2.cidr else none

def netOverlapsAny (net : Network) (used : List Network) : Bool := used.any net.overlaps

/-- The first subnet clear of those in use, from an offset on, around the end. -/
def firstFreeSubnet (children used : List Network) (start : Nat) : Option Network :=
  (children.rotate start).find? fun c => !netOverlapsAny c used

/-- The scan starts at the first child, and on a retry at an offset. -/
def childScanStart (key : TopologyNode) (retryIndex n : Nat) : Nat :=
  if 0 < retryIndex then
    ((retryIndex * 7919 + key.topologyId * 17 + sumOrd key.nodeId : Int) % n).toNat
  else 0

def allocateFrom (children used : List Network) (key : TopologyNode) (retryIndex : Nat) :
    Except TopologyError Network :=
  match firstFreeSubnet children used (childScanStart key retryIndex children.length) with
  | some c => .ok c
  | none =>
      .error (.runtimeCreate ("no free /" ++ toString v1ChildPrefixlen ++
        " subnets remaining in parent pool " ++ PyText.repr v1ParentPool.text))

def allocateChildSubnet (used : List Network) (key : TopologyNode) (retryIndex : Nat) :
    Except TopologyError Network :=
  allocateFrom iterPoolChildSubnets used key retryIndex

/-- The gateway of a chosen subnet: the spec's, which has to lie in it, or the first host. -/
def gatewayIn (place : String) (net : Network) : SpecText Nat → Except TopologyError (Network × Nat)
  | .absent => .ok (net, firstUsableHost net)
  | .invalid text => .error (.runtimeCreate ("invalid gateway_ip in spec: " ++ PyText.repr text))
  | .value g =>
      if g ∈ net then .ok (net, g)
      else
        .error (.runtimeCreate
          ("gateway_ip " ++ addressText g ++ " not in " ++ place ++ " " ++ net.text))

/-- The subnet and gateway of a node: those its row has, else the spec's subnet if no
other node's overlaps it, else a free child of the pool. -/
def chooseRuntimeCidrAndGateway (used : List Network) (spec : TopologySpec) (key : TopologyNode)
    (existing : Option TopologyRuntime) (poolRetryIndex : Nat) :
    Except TopologyError (Network × Nat) :=
  match existing.bind TopologyRuntime.cidr with
  | some net =>
      match existing.bind TopologyRuntime.gatewayIp with
      | some g =>
          if g ∈ net then .ok (net, g)
          else
            .error (.runtimeCreate ("existing gateway_ip " ++ PyText.repr (addressText g) ++
              " not in runtime CIDR " ++ PyText.repr net.text))
      | none => .ok (net, firstUsableHost net)
  | none =>
      match spec.cidr with
      | .invalid text =>
          .error (.runtimeCreate ("invalid cidr in topology spec: " ++ PyText.repr text))
      | .value net =>
          if netOverlapsAny net used then
            .error (.runtimeCreate ("spec cidr " ++ PyText.repr net.text ++
              " conflicts with an existing topology runtime CIDR"))
          else gatewayIn "network" net spec.gatewayIp
      | .absent =>
          match allocateChildSubnet used key poolRetryIndex with
          | .error e => .error e
          | .ok net => gatewayIn "allocated subnet" net spec.gatewayIp

/-- The subnets and gateways that a new row of a topology with this spec can get. -/
structure FitsSpec (spec : TopologySpec) (net : Network) (g : Nat) : Prop where
  cidr : spec.cidr = .absent ∧ net ∈ iterPoolChildSubnets ∨ spec.cidr = .value net
  gateway : spec.gatewayIp = .absent ∧ g = firstUsableHost net ∨ spec.gatewayIp = .value g ∧ g ∈ net

theorem firstUsableHost_mem (net : Network) : firstUsableHost net ∈ net :=
  Network.mem_of_mem_hosts (List.head_mem _)

theorem FitsSpec.gateway_mem {spec : TopologySpec} {net : Network} {g : Nat}
    (h : FitsSpec spec net g) : g ∈ net := by
  rcases h.gateway with ⟨-, rfl⟩ | ⟨-, hg⟩
  · exact firstUsableHost_mem net
  · exact hg

/-- Two choices for one spec with a common address are the same choice. -/
theorem FitsSpec.eq_of_common {spec : TopologySpec} {net net' : Network} {g g' a : Nat}
    (h : FitsSpec spec net g) (h' : FitsSpec spec net' g') (ha : a ∈ net) (ha' : a ∈ net') :
    net = net' ∧ g = g' := by
  have hnet : net = net' := by
    rcases h.cidr with ⟨habs, hc⟩ | hval <;> rcases h'.cidr with ⟨habs', hc'⟩ | hval'
    · refine Network.eq_of_common ?_ ha ha'
      rw [Network.prefixlen_of_mem_subnets hc, Network.prefixlen_of_mem_subnets hc']
    · rw [habs] at hval'
      cases hval'
    · rw [habs'] at hval
      cases hval
    · exact SpecText.value.inj (hval.symm.trans hval')
  subst hnet
  refine ⟨rfl, ?_⟩
  rcases h.gateway with ⟨habs, hg⟩ | ⟨hval, -⟩ <;> rcases h'.gateway with ⟨habs', hg'⟩ | ⟨hval', -⟩
  · rw [hg, hg']
  · rw [habs] at hval'
    cases hval'
  · rw [habs'] at hval
    cases hval
  · exact SpecText.value.inj (hval.symm.trans hval')

theorem gatewayIn_ok {place : String} {net net' : Network} {text : SpecText Nat} {g : Nat}
    (h : gatewayIn place net text = .ok (net', g)) :
    net' = net ∧ (text = .absent ∧ g = firstUsableHost net ∨ text = .value g ∧ g ∈ net) := by
  cases text with
  | absent =>
      cases h
      exact ⟨rfl, .inl ⟨rfl, rfl⟩⟩
  | invalid t => cases h
  | value a =>
      simp only [gatewayIn] at h
      split at h
      next ha =>
        cases h
        exact ⟨rfl, .inr ⟨rfl, ha⟩⟩
      next => cases h

theorem firstFreeSubnet_some {children used : List Network} {start : Nat} {net : Network}
    (h : firstFreeSubnet children used start = some net) :
    net ∈ children ∧ netOverlapsAny net used = false := by
  have hmem := List.mem_of_find?_eq_some h
  have hfree := List.find?_some h
  rw [List.mem_rotate] at hmem
  rw [Bool.not_eq_true'] at hfree
  exact ⟨hmem, hfree⟩

theorem allocateFrom_ok {children used : List Network} {key : TopologyNode} {i : Nat}
    {net : Network} (h : allocateFrom children used key i = .ok net) :
    net ∈ children ∧ netOverlapsAny net used = false := by
  unfold allocateFrom at h
  split at h
  next c hc =>
    cases h
    exact firstFreeSubnet_some hc
  next => cases h

/-- What a node without a subnet gets: a choice that fits the spec, clear of the subnets read. -/
theorem chooseRuntimeCidrAndGateway_ok {used : List Network} {spec : TopologySpec}
    {key : TopologyNode} {i : Nat} {net : Network} {g : Nat}
    (h : chooseRuntimeCidrAndGateway used spec key none i = .ok (net, g)) :
    FitsSpec spec net g ∧ netOverlapsAny net used = false := by
  simp only [chooseRuntimeCidrAndGateway, Option.bind_none] at h
  split at h
  next => cases h
  next c hc =>
    split at h
    next => cases h
    next hfree =>
      obtain ⟨rfl, hg⟩ := gatewayIn_ok h
      exact ⟨⟨.inr hc, hg⟩, Bool.eq_false_iff.mpr hfree⟩
  next hc =>
    split at h
    next => cases h
    next c halloc =>
      obtain ⟨rfl, hg⟩ := gatewayIn_ok h
      obtain ⟨hmem, hfree⟩ := allocateFrom_ok halloc
      exact ⟨⟨.inl ⟨hc, hmem⟩, hg⟩, hfree⟩

def runtimeRowComplete (row : TopologyRuntime) : Bool :=
  !isBlank row.bridgeName && row.cidr.isSome && row.gatewayIp.isSome

/-! ## Runtime rows -/

/-- Another row of the topology has the subnet (`uq_topology_runtime_topology_cidr`). -/
def cidrTaken (db : TopologyDb) (key : TopologyNode) (cidr : Option Network) : Bool :=
  db.runtimes.entries.any fun e =>
    e.1.topologyId == key.topologyId && e.1 != key && e.2.cidr == cidr && cidr.isSome

def TopologyDb.setRuntime (db : TopologyDb) (key : TopologyNode) (row : TopologyRuntime) :
    TopologyDb :=
  { db with runtimes := db.runtimes.insert key row }

/-- The insert of a new runtime row. -/
def insertRuntime (db : TopologyDb) (key : TopologyNode) (bridgeName : String) (cidr : Network)
    (gatewayIp : Nat) : CommitResult :=
  match db.runtimes.lookup key with
  | some _ => .integrityError
  | none =>
      if cidrTaken db key (some cidr) then .integrityError
      else
        let row : TopologyRuntime :=
          { topologyRuntimeId := db.nextRuntimeId, status := .ready, bridgeName := some bridgeName,
            cidr := some cidr, gatewayIp := some gatewayIp }
        .committed { db.setRuntime key row with nextRuntimeId := db.nextRuntimeId + 1 }

/-- The update that fills what the row was read without. -/
def fillRuntime (db : TopologyDb) (key : TopologyNode) (existing : TopologyRuntime)
    (bridgeName : String) (cidr : Network) (gatewayIp : Nat) : CommitResult :=
  match db.runtimes.lookup key with
  | none => .failed
  | some cur =>
      if cur.topologyRuntimeId ≠ existing.topologyRuntimeId then .failed
      else
        let row : TopologyRuntime :=
          { cur with
            bridgeName := if isBlank existing.bridgeName then some bridgeName else cur.bridgeName
            cidr := if existing.cidr.isNone then some cidr else cur.cidr
            gatewayIp := if existing.gatewayIp.isNone then some gatewayIp else cur.gatewayIp }
        if cidrTaken db key row.cidr then .integrityError
        else .committed (db.setRuntime key row)

/-- What one attempt of `ensure_node_topology` commits. -/
def commitRuntime (db : TopologyDb) (key : TopologyNode) (existing : Option TopologyRuntime)
    (bridgeName : String) (cidr : Network) (gatewayIp : Nat) : CommitResult :=
  match existing with
  | none => insertRuntime db key bridgeName cidr gatewayIp
  | some row => fillRuntime db key row bridgeName cidr gatewayIp

/-- The status `_sync_linux_node_bridge` gives the row; `bridgeOk` is how the `ip` commands ended. -/
def syncedStatus (cfg : AdapterConfig) (bridgeOk : Bool) (row : TopologyRuntime) :
    TopologyRuntimeStatus :=
  if !cfg.applyLinuxBridge then .ready
  else if !runtimeRowComplete row then .degraded
  else if bridgeOk then .ready
  else .degraded

/-- The commit of `_sync_linux_node_bridge`: the status of the row that was read, by its id. -/
def syncLinuxNodeBridge (cfg : AdapterConfig) (bridgeOk : Bool) (db : TopologyDb)
    (key : TopologyNode) (row : TopologyRuntime) : CommitResult :=
  match db.runtimes.lookup key with
  | none => .failed
  | some cur =>
      if cur.topologyRuntimeId ≠ row.topologyRuntimeId then .failed
      else .committed (db.setRuntime key { cur with status := syncedStatus cfg bridgeOk row })

def ensureNodeCidrMaxAttempts : Nat := 16

/-- No non-`DETACHED` attachment is left on the node. -/
def hasBlockingAttachment (db : TopologyDb) (key : TopologyNode) : Bool :=
  db.attachments.entries.any fun e => e.1.node == key && e.2.status != .detached

/-- The attachment rows of the node, deleted. -/
def TopologyDb.dropAttachments (db : TopologyDb) (key : TopologyNode) : TopologyDb :=
  { db with
    attachments := (db.attachments.entries.filter fun e => e.1.node == key).foldr
      (fun e t => t.erase e.1) db.attachments }

/-- The commit of `delete_topology`: the attachment rows of the node, and the runtime row by its
id. A row that is gone by then is only warned about. -/
def commitDelete (db : TopologyDb) (key : TopologyNode) (runtimeId : Option Nat) : TopologyDb :=
  let db := db.dropAttachments key
  if (db.runtimes.lookup key).map TopologyRuntime.topologyRuntimeId = runtimeId then
    { db with runtimes := db.runtimes.erase key }
  else db

end Devnest
