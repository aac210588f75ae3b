import Devnest.AttachmentRaces
import Devnest.AttachmentOps

/-!
# What is left of an attach that fails

`attach_workspace` with its shell commands: the call up to the commit of the
`ATTACHING` row, and from there the wiring, the commit of `ATTACHED` and the
verification after it. Each exit that the code foresees goes through
`_attach_failure_best_effort`. An exception that is neither `RuntimeError` nor
`ValueError` passes the first handler, and there is none around the
verification.

`attachAfterCommit_eq` connects the calls with `attachChecked`, which knows of
the commands only how they ended.
-/

namespace Devnest

open Calls Calls.Program PyText

/-! ## The call -/

structure LinuxRequest extends AttachRequest where
  netnsRef : String
  /-- The interface columns of the attachment row, when there is one. -/
  interfaceHost : Option String := none
  interfaceContainer : Option String := none

inductive AttachRaise where
  | topology (e : TopologyError)
  | passedOn (e : PyError)

/-- `_veth_pair_names`. -/
def vethPairNames (cfg : AdapterConfig) (slot : WorkspaceSlot) : String × String :=
  let h := take 6 (cfg.hexDigest (toString slot.node.topologyId ++ ":" ++ slot.node.nodeId ++ ":" ++
    toString slot.workspaceId))
  ("vh" ++ h, "vc" ++ h)

/-- The wiring of the request over the runtime row of its node. -/
def linuxPlan (cfg : AdapterConfig) (db : TopologyDb) (req : LinuxRequest) (netns : String) :
    Option LinuxPlan :=
  (db.runtimes.lookup req.slot.node).bind fun row => row.cidr.map fun cidr =>
    { hostIf := (vethPairNames cfg req.slot).1
      containerIf := (vethPairNames cfg req.slot).2
      bridgeName := stripOr row.bridgeName
      cidr := cidr
      workspaceIp := req.workspaceIp
      netnsRef := netns }

/-- The plan with the names of an `ATTACHED` row. -/
def LinuxPlan.ofRow (plan : LinuxPlan) (req : LinuxRequest) : LinuxPlan :=
  { plan with
    hostIf := if isBlank req.interfaceHost then plan.hostIf else stripOr req.interfaceHost
    containerIf :=
      if isBlank req.interfaceContainer then plan.containerIf else stripOr req.interfaceContainer }

/-- What a call that commits `ATTACHING` has at hand: whether it makes the row, and with Linux
attachment its plan and the commands so far. -/
structure AttachCommit where
  db : TopologyDb
  wasNew : Bool
  wiring : Option (LinuxPlan × List Answer)

inductive AttachStart where
  | ended (db : TopologyDb) (result : Except AttachRaise Unit)
  | committed (c : AttachCommit)

def refused (db : TopologyDb) (message : String) : AttachStart :=
  .ended db (.error (.topology (.attachment message)))

section Attach

variable (host : CommandHost)

/-- The fast path checks the wiring, and once more for the log when it fails. -/
def fastPathVerified (plan : LinuxPlan) : Program Bool := do
  let failures ← topologyAttachPlumbingFailures host plan
  if failures = [] then pure true
  else do
    let _ ← topologyAttachPlumbingFailures host plan
    pure false

/-- The old host leg goes before a new one is made. -/
def removeOldVeth (interfaceHost : Option String) : Program Unit :=
  if interfaceHost.getD "" = "" then pure ()
  else orElse (removeVethIfExists host (stripOr interfaceHost)) ()

/-- The commands before the commit; `true` is a finished call. -/
def prepareWiring (plan : LinuxPlan) (req : LinuxRequest) (early hasRow : Bool) :
    Program Bool := do
  let verified ← if early then fastPathVerified host (plan.ofRow req) else pure false
  if verified then pure true
  else do
    if hasRow then removeOldVeth host req.interfaceHost else pure ()
    pure false

def commitStart (ans : AttachAnswer) (db : TopologyDb) (req : LinuxRequest)
    (wiring : Option (LinuxPlan × List Answer)) : AttachStart :=
  if ans.attachingOk then
    .committed
      { db := commitAttaching ans.now db req.toAttachRequest
        wasNew := (db.attachments.lookup req.slot).isNone
        wiring := wiring }
  else refused db "failed to persist topology attachment"

/-- `attach_workspace` after its database checks, up to the commit of `ATTACHING`. -/
def startChecked (cfg : AdapterConfig) (ans : AttachAnswer) (db : TopologyDb)
    (req : LinuxRequest) : AttachStart :=
  let row := db.attachments.lookup req.slot
  let early := row.any (earlyEligible · req.toAttachRequest)
  if !cfg.applyLinuxAttachment then
    if strip req.netnsRef = "" then refused db "netns_ref is required"
    else if early then .ended db (.ok ())
    else commitStart ans db req none
  else
    match validateNetnsRef req.netnsRef with
    | .error e => refused db e.text
    | .ok netns =>
        match assertHostTopologyIpViaNsenterConfigOrRaise host [], linuxPlan cfg db req netns with
        | (.error e, _), _ => refused db e.text
        | (.ok (), _), none => .ended db (.error (.topology .runtimeNotFound))
        | (.ok (), log), some plan =>
            match prepareWiring host plan req early row.isSome log with
            | (.error e, _) => .ended db (.error (.passedOn e))
            | (.ok true, _) => .ended db (.ok ())
            | (.ok false, log) => commitStart ans db req (some (plan, log))

/-- `attach_workspace` up to the commit of `ATTACHING`. -/
def startAttach (cfg : AdapterConfig) (specs : Int → Option TopologySpec) (ans : AttachAnswer)
    (db : TopologyDb) (req : LinuxRequest) : AttachStart :=
  if strip req.containerId = "" then refused db "container_id is required"
  else
    match ensureNodeTopology cfg specs ans.ensure db req.slot.node.topologyId
        req.slot.node.nodeId with
    | (db', .error e) => .ended db' (.error (.topology e))
    | (db', .ok _) =>
        match checkAttach db' req.toAttachRequest with
        | .error e => .ended db' (.error (.topology e))
        | .ok () =>
            startChecked host cfg ans db'
              { req with containerId := take 128 (strip req.containerId) }

/-- What the error text adds for an operator. -/
def netnsHint (text : String) : String :=
  if isIn "invalid" (lower text) && isIn "netns" (lower text) then
    " (If the workspace is still healthy, this is often ``ip`` running in the wrong network " ++
      "namespace vs the Docker host: set DEVNEST_TOPOLOGY_IP_VIA_HOST_NSENTER=1 for local " ++
      "docker.sock workers — see docker-compose.integration.yml. Also verify `pid: host` on " ++
      "the worker and that /proc/<pid> exists in the process that runs ``ip``.)"
  else ""

/-- A foreseen failure: the row and the lease are settled, and the call raises. The host leg is
removed by commands whose failure nobody sees. -/
def failAttach (ans : AttachAnswer) (c : AttachCommit) (db : TopologyDb) (req : AttachRequest)
    (message : String) : TopologyDb × Except AttachRaise Unit :=
  (attachFailureBestEffort ans db req c.wasNew, .error (.topology (.attachment message)))

/-- The verification of an `ATTACHED` row. -/
def verifyAttached (ans : AttachAnswer) (c : AttachCommit) (req : AttachRequest)
    (plan : LinuxPlan) (log : List Answer) : TopologyDb × Except AttachRaise Unit :=
  let attached := setAttachmentStatus ans.now c.db req.slot .attached
  match topologyAttachPlumbingFailures host plan log with
  | (.error e, _) => (attached, .error (.passedOn e))
  | (.ok failures, _) =>
      if failures = [] then (attached, .ok ())
      else failAttach ans c attached req
        ("topology attach reported success and persisted ATTACHED, but Linux plumbing did not " ++
          "match DB state (repair attempted — re-run attach): " ++ join "; " failures)

/-- `attach_workspace` from the commit of `ATTACHING` on. -/
def attachAfterCommit (ans : AttachAnswer) (c : AttachCommit) (req : AttachRequest) :
    TopologyDb × Except AttachRaise Unit :=
  match c.wiring with
  | none =>
      if ans.attachedOk then (setAttachmentStatus ans.now c.db req.slot .attached, .ok ())
      else failAttach ans c c.db req "failed to persist topology attachment"
  | some (plan, log) =>
      match runLinuxAttach host plan log with
      | (.error e, _) =>
          if catchesFailure e then
            failAttach ans c c.db req ("linux attach failed: " ++ e.text ++ netnsHint e.text)
          else (c.db, .error (.passedOn e))
      | (.ok (), log) =>
          if ans.attachedOk then verifyAttached host ans c req plan log
          else failAttach ans c c.db req "failed to persist topology attachment"

/-- `attach_workspace`. -/
def attachOnHost (cfg : AdapterConfig) (specs : Int → Option TopologySpec) (ans : AttachAnswer)
    (db : TopologyDb) (req : LinuxRequest) : TopologyDb × Except AttachRaise Unit :=
  match startAttach host cfg specs ans db req with
  | .ended db' result => (db', result)
  | .committed c => attachAfterCommit host ans c req.toAttachRequest

/-! ## What a failure has to leave -/

/-- After the commit of `ATTACHING`: the wiring fails, or the commit of `ATTACHED`, or the
verification after it. A `RuntimeError` that a probe takes for "not there" is none of these. -/
inductive MeetsException (attachedOk : Bool) : Option (LinuxPlan × List Answer) → Prop
  | wiring {plan : LinuxPlan} {log log' : List Answer} {e : PyError}
      (h : runLinuxAttach host plan log = (.error e, log')) :
      MeetsException attachedOk (some (plan, log))
  | commit {wiring : Option (LinuxPlan × List Answer)} (h : attachedOk = false) :
      MeetsException attachedOk wiring
  | verification {plan : LinuxPlan} {log log' : List Answer}
      (hwired : runLinuxAttach host plan log = (.ok (), log'))
      (h : (topologyAttachPlumbingFailures host plan log').1 ≠ .ok []) :
      MeetsException attachedOk (some (plan, log))

/-- The call raises, its row is `FAILED`, and the lease is released exactly if the row is new. -/
structure Settled (out : TopologyDb × Except AttachRaise Unit) (slot : WorkspaceSlot)
    (wasNew : Bool) : Prop where
  raises : ∃ e, out.2 = .error e
  failed : (out.1.attachments.lookup slot).map (·.status) = some .failed
  lease : activeLease out.1 slot = none ↔ wasNew = true

/-- The commands of the wiring raise only `RuntimeError` and `ValueError`, those of the
verification only `RuntimeError`. -/
structure ExceptionsHandled (attachedOk : Bool) (plan : LinuxPlan) (log : List Answer) : Prop where
  wiring : ∀ e, .error e ∈ (runLinuxAttach host plan).answers log → ¬ Foreign e
  verification : ∀ log', runLinuxAttach host plan log = (.ok (), log') → attachedOk = true →
    ∀ e, .error e ∈ (topologyAttachPlumbingFailures host plan).answers log' → e.isRuntime = true

end Attach

/-! ## Database lemmas -/

theorem commitRuntime_attachments {db db' : TopologyDb} {key : TopologyNode}
    {row : Option TopologyRuntime} {bridge : String} {net : Ipv4.Network} {g : Nat}
    (h : commitRuntime db key row bridge net g = .committed db') :
    db'.attachments = db.attachments := by
  unfold commitRuntime at h
  split at h
  · unfold insertRuntime at h
    split at h
    · cases h
    · split at h
      · cases h
      · cases h
        rfl
  · unfold fillRuntime at h
    split at h
    · cases h
    · split at h
      · cases h
      · refine (ite_eq_iff.mp h).elim (fun h => ?_) fun h => ?_
        · cases h.2
        · cases h.2
          rfl

theorem ensureAttempts_attachments (ok : Bool) (spec : TopologySpec) (bridge : String)
    (db : TopologyDb) (key : TopologyNode) (left i : Nat) :
    (ensureAttempts ok spec bridge db key left i).1.attachments = db.attachments := by
  induction left generalizing i with
  | zero => rfl
  | succ left ih =>
      unfold ensureAttempts
      split
      · rfl
      · split
        · rfl
        · split
          next db' hcommit =>
            split
            · exact commitRuntime_attachments hcommit
            · rfl
          · rfl
          · split
            · rfl
            · exact ih (i + 1)

/-- `ensure_node_topology` leaves the attachment rows alone. -/
theorem ensureNodeTopology_attachments (cfg : AdapterConfig) (specs : Int → Option TopologySpec)
    (ans : EnsureAnswer) (db : TopologyDb) (t : Int) (n : String) :
    (ensureNodeTopology cfg specs ans db t n).1.attachments = db.attachments := by
  unfold ensureNodeTopology ensureNode
  split
  · rfl
  · split
    · rfl
    · split
      · rfl
      · have hattempts := ensureAttempts_attachments ans.commitOk
        split
        next db' e hdb' =>
          rw [← hattempts _ _ db _ _ _, hdb']
        next db' hdb' =>
          rw [← hattempts _ _ db _ _ _, hdb']
          rcases ensureSync_cases cfg ans db' (nodeOf t n) with h | ⟨row, st, -, h⟩
          · rw [h]
          · rw [h]
            rfl

theorem setAttachmentStatus_lookup {now : Nat} {db : TopologyDb} {slot : WorkspaceSlot}
    {att : TopologyAttachment} (h : db.attachments.lookup slot = some att)
    (st : TopologyAttachmentStatus) :
    ((setAttachmentStatus now db slot st).attachments.lookup slot).map (·.status) = some st := by
  unfold setAttachmentStatus TopologyDb.setAttachment
  rw [h]
  dsimp only
  rw [Table.lookup_insert_eq, if_pos rfl]
  rfl

theorem commitAttaching_lookup (now : Nat) (db : TopologyDb) (req : AttachRequest) :
    ((commitAttaching now db req).attachments.lookup req.slot).map (·.status) =
      some .attaching := by
  unfold commitAttaching
  split
  · unfold TopologyDb.setAttachment
    rw [Table.lookup_insert_eq, if_pos rfl]
    rfl
  · unfold TopologyDb.setAttachment
    dsimp only
    rw [Table.lookup_insert_eq, if_pos rfl]
    rfl

theorem activeLease_of_same {db db' : TopologyDb} (h : SameElse db db') (slot : WorkspaceSlot) :
    activeLease db' slot = activeLease db slot := by
  unfold activeLease
  rw [h.allocations]

theorem activeLease_releaseLease (db : TopologyDb) (slot : WorkspaceSlot) :
    activeLease (releaseLease db slot) slot = none := by
  unfold releaseLease
  cases h : activeLease db slot with
  | none => exact h
  | some lease =>
      dsimp only
      unfold activeLease TopologyDb.setLease
      dsimp only
      rw [Table.lookup_insert_eq, if_pos rfl]
      rfl

/-- **The failure path** marks the row, and releases the lease if the row is new. -/
theorem attachFailureBestEffort_settles {ans : AttachAnswer} (hfailed : ans.failedOk = true)
    (hrelease : ans.releaseOk = true) {db : TopologyDb} {req : AttachRequest}
    {att : TopologyAttachment} {lease : IpAllocation} (hatt : db.attachments.lookup req.slot = some att)
    (hlease : activeLease db req.slot = some lease) (hip : lease.ip = req.workspaceIp)
    (wasNew : Bool) :
    ((attachFailureBestEffort ans db req wasNew).attachments.lookup req.slot).map (·.status) =
        some .failed ∧
      (activeLease (attachFailureBestEffort ans db req wasNew) req.slot = none ↔
        wasNew = true) := by
  have hmarked := @setAttachmentStatus_lookup ans.now _ _ _ hatt .failed
  have hkept : activeLease (setAttachmentStatus ans.now db req.slot .failed) req.slot =
      some lease := by
    rw [activeLease_of_same (setAttachmentStatus_same ..), hlease]
  unfold attachFailureBestEffort
  rw [if_pos hfailed]
  dsimp only
  rw [hrelease, Bool.and_true, hkept, Option.map_some, hip]
  cases wasNew with
  | false =>
      rw [if_neg (by simp)]
      refine ⟨hmarked, ?_⟩
      rw [hkept]
      simp
  | true =>
      rw [if_pos (by simp)]
      refine ⟨?_, iff_of_true (activeLease_releaseLease _ _) rfl⟩
      unfold releaseLease
      rw [hkept]
      exact hmarked

/-! ## The call after its commit -/

/-- What the checks of the call guarantee of the rows it commits. -/
structure AttachCommit.Ready (c : AttachCommit) (req : AttachRequest) : Prop where
  row : (c.db.attachments.lookup req.slot).map (·.status) = some .attaching
  lease : ∃ lease, activeLease c.db req.slot = some lease ∧ lease.ip = req.workspaceIp

section Settling

variable {host : CommandHost} {cfg : AdapterConfig} {specs : Int → Option TopologySpec}

theorem commitStart_committed {ans : AttachAnswer} {db : TopologyDb} {req : LinuxRequest}
    {wiring : Option (LinuxPlan × List Answer)} {c : AttachCommit}
    (h : commitStart ans db req wiring = .committed c) :
    ans.attachingOk = true ∧ c = ⟨commitAttaching ans.now db req.toAttachRequest,
      (db.attachments.lookup req.slot).isNone, wiring⟩ := by
  unfold commitStart at h
  split at h
  next hok => exact ⟨hok, (AttachStart.committed.inj h).symm⟩
  next => cases h

/-- What a call that commits has found: with Linux attachment a plan, else a row to change. -/
theorem startChecked_committed {ans : AttachAnswer} {db : TopologyDb} {req : LinuxRequest}
    {c : AttachCommit} (h : startChecked host cfg ans db req = .committed c) :
    ans.attachingOk = true ∧ ∃ wiring, c = ⟨commitAttaching ans.now db req.toAttachRequest,
        (db.attachments.lookup req.slot).isNone, wiring⟩ ∧
      (if cfg.applyLinuxAttachment then wiring.isSome = true
        else wiring = none ∧
          (db.attachments.lookup req.slot).any (earlyEligible · req.toAttachRequest) = false) := by
  unfold startChecked at h
  dsimp only at h
  cases hlinux : cfg.applyLinuxAttachment with
  | false =>
      rw [hlinux, if_pos (by simp)] at h
      split at h
      · cases h
      · split at h
        · cases h
        next hearly =>
          obtain ⟨hok, hc⟩ := commitStart_committed h
          exact ⟨hok, none, hc, rfl, Bool.eq_false_iff.mpr hearly⟩
  | true =>
      rw [hlinux, if_neg (by simp)] at h
      split at h
      · cases h
      · split at h
        · cases h
        · cases h
        · split at h
          · cases h
          · cases h
          · obtain ⟨hok, hc⟩ := commitStart_committed h
            exact ⟨hok, _, hc, rfl⟩

theorem startChecked_ready {ans : AttachAnswer} {db : TopologyDb} {req req' : LinuxRequest}
    {c : AttachCommit} (hslot : req'.slot = req.slot) (hcheck : checkAttach db req.toAttachRequest = .ok ())
    (h : startChecked host cfg ans db req' = .committed c) :
    c.Ready req.toAttachRequest ∧ c.wasNew = (db.attachments.lookup req.slot).isNone := by
  obtain ⟨-, wiring, rfl, -⟩ := startChecked_committed h
  obtain ⟨lease, hlook, hact, hip⟩ := checkAttach_lease hcheck
  refine ⟨⟨?_, lease, ?_, hip⟩, ?_⟩
  · rw [← hslot]
    exact commitAttaching_lookup ans.now db req'.toAttachRequest
  · rw [activeLease_of_same (commitAttaching_same ..)]
    simp [activeLease, hlook, hact]
  · rw [hslot]

theorem startAttach_committed {ans : AttachAnswer} {db : TopologyDb} {req : LinuxRequest}
    {c : AttachCommit} (h : startAttach host cfg specs ans db req = .committed c) :
    c.Ready req.toAttachRequest ∧ c.wasNew = (db.attachments.lookup req.slot).isNone := by
  unfold startAttach at h
  by_cases hblank : strip req.containerId = ""
  · rw [if_pos hblank] at h
    cases h
  · rw [if_neg hblank] at h
    have hatts := ensureNodeTopology_attachments cfg specs ans.ensure db
      req.slot.node.topologyId req.slot.node.nodeId
    generalize ensureNodeTopology cfg specs ans.ensure db req.slot.node.topologyId
      req.slot.node.nodeId = ensured at h hatts
    obtain ⟨db', res⟩ := ensured
    cases res with
    | error e => cases h
    | ok row =>
        dsimp only at h hatts
        split at h
        · cases h
        next hcheck =>
          rw [← hatts]
          generalize hreq : ({ req with containerId := take 128 (strip req.containerId) } :
            LinuxRequest) = req' at h
          have hslot : req'.slot = req.slot := by rw [← hreq]
          exact startChecked_ready hslot hcheck h

/-- How the commands of a call ended, as far as `attachChecked` knows of them. -/
def AttachAnswer.ofCommands (ans : AttachAnswer) (host : CommandHost)
    (wiring : Option (LinuxPlan × List Answer)) : AttachAnswer :=
  { ans with
    plumbingVerified := false
    linuxOk := wiring.all fun w => (runLinuxAttach host w.1 w.2).1.isOk
    postVerifyOk := wiring.all fun w => decide ((topologyAttachPlumbingFailures host w.1
      (runLinuxAttach host w.1 w.2).2).1.toOption = some []) }

/-- A call that passes no exception on does to the tables what `attachChecked` does. -/
theorem attachAfterCommit_eq {ans : AttachAnswer} {db : TopologyDb} {req : LinuxRequest}
    {c : AttachCommit} (hstart : startChecked host cfg ans db req = .committed c)
    (hpass : ∀ e, (attachAfterCommit host ans c req.toAttachRequest).2 ≠ .error (.passedOn e)) :
    (attachAfterCommit host ans c req.toAttachRequest).1 =
      (attachChecked cfg (ans.ofCommands host c.wiring) db req.toAttachRequest).1 := by
  obtain ⟨hattaching, wiring, rfl, hwiring⟩ := startChecked_committed hstart
  unfold attachAfterCommit at hpass ⊢
  unfold attachChecked
  cases hlinux : cfg.applyLinuxAttachment with
  | false =>
      rw [hlinux] at hwiring
      obtain ⟨rfl, hearly⟩ := hwiring
      simp only [AttachAnswer.ofCommands, hearly, hattaching]
      cases hok : ans.attachedOk with
      | true => rfl
      | false => rfl
  | true =>
      rw [hlinux] at hwiring
      obtain ⟨⟨plan, log⟩, rfl⟩ := Option.isSome_iff_exists.mp hwiring
      simp only [AttachAnswer.ofCommands, hattaching]
      dsimp only at hpass ⊢
      cases hrun : runLinuxAttach host plan log with
      | mk res log' =>
          rw [hrun] at hpass
          cases res with
          | error e =>
              dsimp only at hpass ⊢
              cases hcatch : catchesFailure e with
              | false =>
                  rw [hcatch] at hpass
                  exact absurd rfl (hpass e)
              | true => simp [hrun, Except.isOk, Except.toBool, failAttach, attachFailureBestEffort]
          | ok _ =>
              dsimp only at hpass ⊢
              cases hok : ans.attachedOk with
              | false => simp [hrun, Except.isOk, Except.toBool, failAttach, attachFailureBestEffort]
              | true =>
                  rw [hok, if_pos rfl] at hpass
                  unfold verifyAttached at hpass ⊢
                  dsimp only at hpass ⊢
                  cases hres : topologyAttachPlumbingFailures host plan log' with
                  | mk res' log₁ =>
                      rw [hres] at hpass
                      cases res' with
                      | error e => exact absurd rfl (hpass e)
                      | ok failures =>
                          by_cases hnone : failures = []
                          · simp [hrun, hres, hnone, Except.isOk, Except.toBool, Except.toOption]
                          · simp [hrun, hres, hnone, Except.isOk, Except.toBool, Except.toOption,
                              failAttach, attachFailureBestEffort]

variable {ans : AttachAnswer} {c : AttachCommit} {req : AttachRequest}

/-- **A foreseen failure** settles the attach, whether the row is `ATTACHING` or `ATTACHED`. -/
theorem failAttach_settled (hfailed : ans.failedOk = true) (hrelease : ans.releaseOk = true)
    (hready : c.Ready req) {db : TopologyDb} {st : TopologyAttachmentStatus}
    (hrow : (db.attachments.lookup req.slot).map (·.status) = some st) (hsame : SameElse c.db db)
    (message : String) : Settled (failAttach ans c db req message) req.slot c.wasNew := by
  obtain ⟨att, hatt, -⟩ := Option.map_eq_some_iff.mp hrow
  obtain ⟨lease, hlease, hip⟩ := hready.lease
  rw [← activeLease_of_same hsame] at hlease
  obtain ⟨hstatus, hfree⟩ :=
    attachFailureBestEffort_settles hfailed hrelease hatt hlease hip c.wasNew
  exact ⟨⟨_, rfl⟩, hstatus, hfree⟩

theorem not_settled_of_row {db : TopologyDb} {result : Except AttachRaise Unit}
    {st : TopologyAttachmentStatus}
    (hrow : (db.attachments.lookup req.slot).map (·.status) = some st) (hst : st ≠ .failed) :
    ¬ Settled (db, result) req.slot c.wasNew := fun h =>
  hst (Option.some.inj (hrow.symm.trans h.failed))

theorem attached_row (hready : c.Ready req) :
    ((setAttachmentStatus ans.now c.db req.slot .attached).attachments.lookup req.slot).map
      (·.status) = some .attached := by
  obtain ⟨att, hatt, -⟩ := Option.map_eq_some_iff.mp hready.row
  exact setAttachmentStatus_lookup hatt .attached

/-- Names in order say nothing of the kind. -/
theorem surfaces_verification {plan : LinuxPlan} {log log' : List Answer}
    (h : runLinuxAttach host plan log = (.ok (), log')) :
    Surfaces NotRuntime (topologyAttachPlumbingFailures host plan) := by
  obtain ⟨⟨_, hbr⟩, ⟨_, hh⟩, ⟨_, hc⟩, _, href⟩ := valid_of_wired h
  refine surfaces_plumbingFailures (fun t ht => ?_) (quiet_of_ok hbr) (quiet_of_ok hh)
    (quiet_of_ok hc) (quiet_of_ok href)
  cases ht

/-- The verification of an `ATTACHED` row settles its failures exactly if its commands raise
nothing but `RuntimeError`. -/
theorem verifyAttached_settled_iff (hfailed : ans.failedOk = true)
    (hrelease : ans.releaseOk = true) (hready : c.Ready req) {plan : LinuxPlan}
    {log log' : List Answer} (hwired : runLinuxAttach host plan log = (.ok (), log')) :
    ((topologyAttachPlumbingFailures host plan log').1 ≠ .ok [] →
        Settled (verifyAttached host ans c req plan log') req.slot c.wasNew) ↔
      ∀ e, .error e ∈ (topologyAttachPlumbingFailures host plan).answers log' →
        e.isRuntime = true := by
  have hanswered := (surfaces_verification hwired).answered log'
  have hrow := @attached_row ans _ _ hready
  unfold verifyAttached
  dsimp only
  cases hres : topologyAttachPlumbingFailures host plan log' with
  | mk res log₁ =>
      rw [hres] at hanswered
      cases res with
      | error e =>
          have he : NotRuntime e := raisesOnly_plumbingFailures plan log' e (congrArg Prod.fst hres)
          obtain ⟨e', hmem, he'⟩ := hanswered.mp ⟨e, rfl, he⟩
          refine iff_of_false (fun h => ?_) fun h => ?_
          · exact not_settled_of_row hrow (by decide) (h (by simp))
          · rw [NotRuntime, h e' hmem] at he'
            cases he'
      | ok failures =>
          refine iff_of_true (fun hne => ?_) fun e hmem => ?_
          · have hne' : failures ≠ [] := fun h => hne (congrArg Except.ok h)
            dsimp only
            rw [if_neg hne']
            exact failAttach_settled hfailed hrelease hready hrow (setAttachmentStatus_same ..) _
          · by_contra hnot
            obtain ⟨e', he', -⟩ := hanswered.mpr ⟨e, hmem, Bool.eq_false_iff.mpr hnot⟩
            cases he'

/-- **From the commit of `ATTACHING` on**, failures are settled exactly if no command raises what
the handlers do not name. -/
theorem attachAfterCommit_settled_iff (hfailed : ans.failedOk = true)
    (hrelease : ans.releaseOk = true) (hready : c.Ready req) :
    (MeetsException host ans.attachedOk c.wiring →
        Settled (attachAfterCommit host ans c req) req.slot c.wasNew) ↔
      ∀ plan log, c.wiring = some (plan, log) →
        ExceptionsHandled host ans.attachedOk plan log := by
  have hself : SameElse c.db c.db := ⟨rfl, rfl, rfl⟩
  have hfail := failAttach_settled hfailed hrelease hready hready.row hself
  unfold attachAfterCommit
  cases hwiring : c.wiring with
  | none =>
      refine iff_of_true (fun hmeets => ?_) fun _ _ h => by cases h
      cases hmeets with
      | commit h =>
          dsimp only
          rw [h, if_neg (by simp)]
          exact hfail _
  | some w =>
      obtain ⟨plan, log⟩ := w
      have hsurface := (@surfaces_runLinuxAttach host plan).answered log
      dsimp only
      cases hrun : runLinuxAttach host plan log with
      | mk res log' =>
          rw [hrun] at hsurface
          cases res with
          | error e =>
              dsimp only
              cases hcatch : catchesFailure e with
              | true =>
                  refine iff_of_true (fun _ => hfail _) fun plan' log₁ heq => ?_
                  cases heq
                  refine ⟨fun e' hmem hf => ?_, fun log₂ hok => ?_⟩
                  · obtain ⟨e'', he'', hf'⟩ := hsurface.mpr ⟨e', hmem, hf⟩
                    rw [← Except.error.inj he'', Foreign] at hf'
                    rw [catchesFailure, hf'] at hcatch
                    cases hcatch
                  · rw [hrun] at hok
                    cases hok
              | false =>
                  have hf : Foreign e := by
                    rw [catchesFailure, Bool.not_eq_false'] at hcatch
                    exact hcatch
                  refine iff_of_false (fun h => ?_) fun h => ?_
                  · exact not_settled_of_row hready.row (by decide) (h (.wiring hrun))
                  · obtain ⟨e', hmem, hf'⟩ := hsurface.mp ⟨e, rfl, hf⟩
                    exact (h plan log rfl).wiring e' hmem hf'
          | ok _ =>
              have hquiet : ∀ e, .error e ∈ (runLinuxAttach host plan).answers log →
                  ¬ Foreign e := fun e hmem hf => by
                obtain ⟨e', he', -⟩ := hsurface.mpr ⟨e, hmem, hf⟩
                cases he'
              dsimp only
              cases hcommit : ans.attachedOk with
              | false =>
                  refine iff_of_true (fun _ => hfail _) fun plan' log₁ heq => ?_
                  cases heq
                  exact ⟨hquiet, fun _ _ h => by cases h⟩
              | true =>
                  rw [if_pos rfl]
                  have hverify := verifyAttached_settled_iff hfailed hrelease hready hrun
                  constructor
                  · intro h plan' log₁ heq
                    cases heq
                    refine ⟨hquiet, fun log₂ hok _ => ?_⟩
                    rw [hrun] at hok
                    rw [← (Prod.mk.inj hok).2]
                    exact hverify.mp fun hne => h (.verification hrun hne)
                  · intro h hmeets
                    refine hverify.mpr ((h plan log rfl).verification log' hrun rfl) ?_
                    cases hmeets with
                    | wiring he =>
                        rw [hrun] at he
                        cases he
                    | commit h => cases h
                    | verification hok hne =>
                        rw [hrun] at hok
                        rw [(Prod.mk.inj hok).2]
                        exact hne

end Settling

/-- **When attach failures are settled**: a call that has committed its row as `ATTACHING` and then
meets an exception raises, leaves the row `FAILED` and releases the lease if and only if it made
the row, exactly when the commands of the wiring raise only `RuntimeError` and `ValueError`, and
those of the verification after the commit of `ATTACHED` only `RuntimeError`. -/
theorem attach_failure_settled_iff (host : CommandHost) (cfg : AdapterConfig)
    (specs : Int → Option TopologySpec) (ans : AttachAnswer) (db : TopologyDb)
    (req : LinuxRequest) (c : AttachCommit)
    (hstart : startAttach host cfg specs ans db req = .committed c)
    (hfailed : ans.failedOk = true) (hrelease : ans.releaseOk = true) :
    (MeetsException host ans.attachedOk c.wiring →
        Settled (attachOnHost host cfg specs ans db req) req.slot
          (db.attachments.lookup req.slot).isNone) ↔
      ∀ plan log, c.wiring = some (plan, log) →
        ExceptionsHandled host ans.attachedOk plan log := by
  obtain ⟨hready, hnew⟩ := startAttach_committed hstart
  have hcall : attachOnHost host cfg specs ans db req =
      attachAfterCommit host ans c req.toAttachRequest := by
    unfold attachOnHost
    rw [hstart]
  rw [hcall, ← hnew]
  exact attachAfterCommit_settled_iff hfailed hrelease hready

/-! ## Two hosts -/

/-- The adapter of a worker on the node, which wires containers. -/
def wiringAdapter : AdapterConfig := { dbOnlyAdapter with applyLinuxAttachment := true }

/-- Node 1 with its runtime row and a lease of workspace 7. -/
def leasedNode : TopologyDb :=
  (allocateWorkspaceIp true oneNode.db (slotOf 7)).1

def attachSeven : LinuxRequest where
  slot := slotOf 7
  containerId := "c-7"
  workspaceIp := firstIp
  netnsRef := "/proc/4242/ns/net"

/-- Every command ends with exit status 2. -/
def refusingHost : CommandHost where
  answer := fun _ _ => .calledProcessError 2 none (some "RTNETLINK answers: Operation not permitted")

/-- `ip` works; `nsenter` is not installed. -/
def hostWithoutNsenter : CommandHost where
  answer := fun _ cmd =>
    if cmd.head? = some "nsenter" then
      .raised (.other "[Errno 2] No such file or directory: 'nsenter'")
    else .completed (some "")

def AttachStart.commit? : AttachStart → Option AttachCommit
  | .ended _ _ => none
  | .committed c => some c

theorem AttachStart.eq_committed {s : AttachStart} (h : s.commit?.isSome = true) :
    ∃ c, s = .committed c := by
  cases s with
  | ended db r => cases h
  | committed c => exact ⟨c, rfl⟩

theorem refused_commands_are_settled :
    ∃ c, startAttach refusingHost wiringAdapter (fun _ => some {}) {} leasedNode attachSeven =
        .committed c ∧
      Settled (attachOnHost refusingHost wiringAdapter (fun _ => some {}) {} leasedNode attachSeven)
        (slotOf 7) true ∧
      ∀ plan log, c.wiring = some (plan, log) → ExceptionsHandled refusingHost true plan log := by
  obtain ⟨c, hc⟩ := AttachStart.eq_committed (s := startAttach refusingHost wiringAdapter
    (fun _ => some {}) {} leasedNode attachSeven) (by decide +kernel)
  have hnew : (leasedNode.attachments.lookup (slotOf 7)).isNone = true := by decide +kernel
  have hsettled : Settled (attachOnHost refusingHost wiringAdapter (fun _ => some {}) {} leasedNode
      attachSeven) (slotOf 7) true := by
    refine ⟨?_, by decide +kernel, by decide +kernel⟩
    have hraised : (attachOnHost refusingHost wiringAdapter (fun _ => some {}) {} leasedNode
      attachSeven).2.isOk = false := by decide +kernel
    cases hres : (attachOnHost refusingHost wiringAdapter (fun _ => some {}) {} leasedNode
      attachSeven).2 with
    | error e => exact ⟨e, rfl⟩
    | ok a =>
        rw [hres] at hraised
        cases hraised
  refine ⟨c, hc, hsettled, (attach_failure_settled_iff refusingHost wiringAdapter (fun _ => some {})
    {} leasedNode attachSeven c hc rfl rfl).mp fun _ => ?_⟩
  rw [show attachSeven.slot = slotOf 7 from rfl, hnew]
  exact hsettled

/-- `FileNotFoundError` from `nsenter` passes the handlers: the row stays `ATTACHING`, with its
lease. -/
theorem missing_nsenter_leaves_attaching :
    ¬ ∀ (host : CommandHost) (cfg : AdapterConfig) (specs : Int → Option TopologySpec)
        (ans : AttachAnswer) (db : TopologyDb) (req : LinuxRequest) (c : AttachCommit),
      startAttach host cfg specs ans db req = .committed c → ans.failedOk = true →
        ans.releaseOk = true → MeetsException host ans.attachedOk c.wiring →
          Settled (attachOnHost host cfg specs ans db req) req.slot
            (db.attachments.lookup req.slot).isNone := by
  intro h
  obtain ⟨c, hc⟩ := AttachStart.eq_committed (s := startAttach hostWithoutNsenter wiringAdapter
    (fun _ => some {}) {} leasedNode attachSeven) (by decide +kernel)
  have hrow : ((attachOnHost hostWithoutNsenter wiringAdapter (fun _ => some {}) {} leasedNode
      attachSeven).1.attachments.lookup (slotOf 7)).map (·.status) = some .attaching := by
    decide +kernel
  have hwired : ((startAttach hostWithoutNsenter wiringAdapter (fun _ => some {}) {} leasedNode
      attachSeven).commit?.bind (·.wiring)).any fun w =>
        !(runLinuxAttach hostWithoutNsenter w.1 w.2).1.isOk := by
    decide +kernel
  rw [hc] at hwired
  change c.wiring.any _ = true at hwired
  have hmeets : MeetsException hostWithoutNsenter true c.wiring := by
    cases hwiring : c.wiring with
    | none =>
        rw [hwiring] at hwired
        cases hwired
    | some w =>
        obtain ⟨plan, log⟩ := w
        rw [hwiring] at hwired
        cases hrun : runLinuxAttach hostWithoutNsenter plan log with
        | mk res log' =>
            cases res with
            | error e => exact .wiring hrun
            | ok a =>
                rw [Option.any_some, hrun] at hwired
                cases hwired
  have hbad := (h hostWithoutNsenter wiringAdapter (fun _ => some {}) {} leasedNode attachSeven c
    hc rfl rfl hmeets).failed
  rw [show attachSeven.slot = slotOf 7 from rfl, hrow] at hbad
  cases hbad

end Devnest
