import Devnest.Leases

/-!
# Attachments under concurrent calls

`allocate_workspace_ip`, `attach_workspace`, `detach_workspace` (with the
lease release that may follow it) and `run_topology_janitor` run side by
side, cut at every read and every commit. A call's step is what it writes and
where it stands next (`advanceNet`); all effects on the tables go through
`TopologyWrite`.

An attached workspace should hold an active lease for its address. The lease
is checked at the start of an attach, long before `ATTACHED` is committed, and
the janitor's orphan pass releases the lease of any workspace that is not
`ATTACHED` yet. `attached_holds_lease` says what the interleaving has to
respect: nobody writes a lease row while its workspace is attached or on the
way there.
-/

namespace Devnest

open Ipv4 Runs

/-- What one commit changes. -/
inductive TopologyWrite where
  | nothing
  | runtimes (rows : Table TopologyNode TopologyRuntime) (nextId : Nat)
  | lease (slot : WorkspaceSlot) (row : IpAllocation)
  | attachment (slot : WorkspaceSlot) (row : TopologyAttachment) (nextId : Nat)

def TopologyDb.apply (db : TopologyDb) : TopologyWrite → TopologyDb
  | .nothing => db
  | .runtimes rows nextId => { db with runtimes := rows, nextRuntimeId := nextId }
  | .lease slot row => db.setLease slot row
  | .attachment slot row nextId => { db.setAttachment slot row with nextAttachmentId := nextId }

/-- The update of a row: the columns whose value differs from the one that was read. -/
def flushAttachment (loaded new cur : TopologyAttachment) : TopologyAttachment :=
  { cur with
    containerId := if new.containerId = loaded.containerId then cur.containerId else new.containerId
    status := if new.status = loaded.status then cur.status else new.status
    workspaceIp := if new.workspaceIp = loaded.workspaceIp then cur.workspaceIp else new.workspaceIp
    updatedAt := new.updatedAt }

inductive AllocatePhase where
  | start
  | plan (i : Nat)
  | commit (i : Nat) (row : Option IpAllocation) (ip : Nat)
  | done

/-- `detach_workspace`, then `release_workspace_ip_lease` if the caller goes on to it. -/
inductive CleanPhase where
  | detach
  | detaching (loaded : TopologyAttachment)
  | lease
  | releasing
  | done

inductive AttachPhase where
  | start
  | lease
  | attachment
  | attaching (loaded : Option TopologyAttachment)
  | refresh (wasNew : Bool)
  | wiring (wasNew : Bool) (loaded : TopologyAttachment)
  | reread (wasNew : Bool)
  | verify (wasNew : Bool) (loaded : TopologyAttachment)
  | failing (wasNew : Bool)
  | failed (wasNew : Bool) (loaded : TopologyAttachment)
  | releaseRead
  | releasing
  | done

/-- The three passes; the list holds the workspaces a pass still has to look at. -/
inductive JanitorPhase where
  | stuckRead
  | stuck (slot : WorkspaceSlot) (phase : CleanPhase) (rest : List WorkspaceSlot)
  | orphanRead
  | orphan (rest : List WorkspaceSlot)
  | orphanLease (slot : WorkspaceSlot) (rest : List WorkspaceSlot)
  | orphanRelease (slot : WorkspaceSlot) (rest : List WorkspaceSlot)
  | driftRead
  | drift (slot : WorkspaceSlot) (phase : CleanPhase) (rest : List WorkspaceSlot)
  | done

inductive NetCall where
  | allocate (slot : WorkspaceSlot) (phase : AllocatePhase)
  | attach (req : AttachRequest) (phase : AttachPhase)
  | detach (slot : WorkspaceSlot) (thenRelease : Bool) (phase : CleanPhase)
  | janitor (key : TopologyNode) (phase : JanitorPhase)

/-- What the outside decides at a step. -/
structure NetAnswer where
  ensure : EnsureAnswer := {}
  netnsOk : Bool := true
  /-- The `ip` commands and the plumbing checks of the step end well. -/
  linuxOk : Bool := true
  commitOk : Bool := true
  now : Nat := 0
  /-- `now` minus the janitor's staleness limit. -/
  cutoff : Nat := 0
  /-- The order in which a query of the janitor gives its rows. -/
  order : List WorkspaceSlot := []
  /-- Workspaces whose row says stopped, error or deleted. -/
  terminal : List Nat := []

section Machine

variable (cfg : AdapterConfig) (specs : Int → Option TopologySpec)

def advanceAllocate (ans : NetAnswer) (db : TopologyDb) (slot : WorkspaceSlot) :
    AllocatePhase → TopologyWrite × AllocatePhase
  | .start =>
      match readyRuntime db slot.node with
      | .error _ => (.nothing, .done)
      | .ok _ => (.nothing, .plan 0)
  | .plan i =>
      match planLease db slot i with
      | .error _ => (.nothing, .done)
      | .ok (.existing _) => (.nothing, .done)
      | .ok (.lease row ip) => (.nothing, .commit i row ip)
  | .commit i row ip =>
      match commitLease db slot row ip with
      | .committed db' =>
          match db'.allocations.lookup slot with
          | some lease => if ans.commitOk then (.lease slot lease, .done) else (.nothing, .done)
          | none => (.nothing, .done)
      | .failed => (.nothing, .done)
      | .integrityError =>
          match readyRuntime db slot.node with
          | .error _ => (.nothing, .done)
          | .ok _ =>
              if allocateIpMaxAttempts ≤ i + 1 then (.nothing, .done)
              else (.nothing, .plan (i + 1))
  | .done => (.nothing, .done)

/-- The release commit sets `released_at` on whatever the row holds by then. -/
def releaseWrite (ans : NetAnswer) (db : TopologyDb) (slot : WorkspaceSlot) : TopologyWrite :=
  match db.allocations.lookup slot with
  | some lease => if ans.commitOk then .lease slot { lease with released := true } else .nothing
  | none => .nothing

/-- The commit of a changed attachment row that was read as `loaded`. -/
def updateWrite (ans : NetAnswer) (db : TopologyDb) (slot : WorkspaceSlot)
    (loaded new : TopologyAttachment) : TopologyWrite :=
  match db.attachments.lookup slot with
  | some cur =>
      if ans.commitOk then
        .attachment slot (flushAttachment loaded { new with updatedAt := ans.now } cur)
          db.nextAttachmentId
      else .nothing
  | none => .nothing

def advanceClean (ans : NetAnswer) (db : TopologyDb) (slot : WorkspaceSlot) (thenRelease : Bool) :
    CleanPhase → TopologyWrite × CleanPhase
  | .detach =>
      match db.attachments.lookup slot with
      | none => (.nothing, if thenRelease then .lease else .done)
      | some att =>
          if att.status = .detached then (.nothing, if thenRelease then .lease else .done)
          else if cfg.applyLinuxAttachment && !ans.linuxOk then (.nothing, .done)
          else (.nothing, .detaching att)
  | .detaching loaded =>
      (updateWrite ans db slot loaded { loaded with status := .detached, containerId := none },
        if ans.commitOk && thenRelease then .lease else .done)
  | .lease =>
      match activeLease db slot with
      | none => (.nothing, .done)
      | some _ => (.nothing, .releasing)
  | .releasing => (releaseWrite ans db slot, .done)
  | .done => (.nothing, .done)

def advanceAttach (ans : NetAnswer) (db : TopologyDb) (req : AttachRequest) :
    AttachPhase → TopologyWrite × AttachPhase
  | .start =>
      match ensureNodeTopology cfg specs ans.ensure db req.slot.node.topologyId
          req.slot.node.nodeId with
      | (db', .error _) => (.runtimes db'.runtimes db'.nextRuntimeId, .done)
      | (db', .ok _) => (.runtimes db'.runtimes db'.nextRuntimeId, .lease)
  | .lease =>
      match checkAttach db req with
      | .error _ => (.nothing, .done)
      | .ok () => (.nothing, .attachment)
  | .attachment =>
      if !ans.netnsOk then (.nothing, .done)
      else if (db.attachments.lookup req.slot).any (earlyEligible · req) &&
          (!cfg.applyLinuxAttachment || ans.linuxOk) then (.nothing, .done)
      else (.nothing, .attaching (db.attachments.lookup req.slot))
  | .attaching none =>
      match db.attachments.lookup req.slot with
      | some _ => (.nothing, .done)
      | none =>
          if ans.commitOk then
            (.attachment req.slot (attachingRow ans.now req db.nextAttachmentId)
              (db.nextAttachmentId + 1), .refresh true)
          else (.nothing, .done)
  | .attaching (some loaded) =>
      (updateWrite ans db req.slot loaded (attachingRow ans.now req loaded.attachmentId),
        if ans.commitOk then .refresh false else .done)
  | .refresh wasNew =>
      match db.attachments.lookup req.slot with
      | none => (.nothing, .done)
      | some att => (.nothing, .wiring wasNew att)
  | .wiring wasNew loaded =>
      if cfg.applyLinuxAttachment && !ans.linuxOk then (.nothing, .failing wasNew)
      else if !ans.commitOk then (.nothing, .failing wasNew)
      else
        (updateWrite ans db req.slot loaded { loaded with status := .attached },
          if cfg.applyLinuxAttachment then .reread wasNew else .done)
  | .reread wasNew =>
      match db.attachments.lookup req.slot with
      | none => (.nothing, .done)
      | some att => (.nothing, .verify wasNew att)
  -- no rollback before this failure, so the row is marked as it was read
  | .verify wasNew loaded => (.nothing, if ans.linuxOk then .done else .failed wasNew loaded)
  | .failing wasNew =>
      match db.attachments.lookup req.slot with
      | none => (.nothing, if wasNew then .releaseRead else .done)
      | some att => (.nothing, .failed wasNew att)
  | .failed wasNew loaded =>
      (updateWrite ans db req.slot loaded { loaded with status := .failed },
        if wasNew then .releaseRead else .done)
  | .releaseRead =>
      if (activeLease db req.slot).map IpAllocation.ip = some req.workspaceIp then
        (.nothing, .releasing)
      else (.nothing, .done)
  | .releasing => (releaseWrite ans db req.slot, .done)
  | .done => (.nothing, .done)

def isStuck (cutoff : Nat) (key : TopologyNode) (db : TopologyDb) (slot : WorkspaceSlot) : Bool :=
  slot.node == key && (db.attachments.lookup slot).any fun att =>
    (att.status == .attaching || att.status == .failed) && decide (att.updatedAt < cutoff)

def isDrifted (terminal : List Nat) (key : TopologyNode) (db : TopologyDb)
    (slot : WorkspaceSlot) : Bool :=
  slot.node == key && (db.attachments.lookup slot).any (fun att => att.status == .attached) &&
    terminal.contains slot.workspaceId

/-- The next workspace of the first or the last pass, or what follows the pass. -/
def nextStuck : List WorkspaceSlot → JanitorPhase
  | [] => .orphanRead
  | slot :: rest => .stuck slot .detach rest

def nextDrift : List WorkspaceSlot → JanitorPhase
  | [] => .done
  | slot :: rest => .drift slot .detach rest

def advanceJanitor (ans : NetAnswer) (db : TopologyDb) (key : TopologyNode) :
    JanitorPhase → TopologyWrite × JanitorPhase
  | .stuckRead => (.nothing, nextStuck (ans.order.filter (isStuck ans.cutoff key db)))
  | .stuck slot phase rest =>
      match advanceClean cfg ans db slot true phase with
      | (w, .done) => (w, nextStuck rest)
      | (w, phase') => (w, .stuck slot phase' rest)
  | .orphanRead =>
      (.nothing, .orphan (ans.order.filter fun slot =>
        slot.node == key && (activeLease db slot).isSome))
  | .orphan [] => (.nothing, .driftRead)
  | .orphan (slot :: rest) =>
      -- any workspace that is not ATTACHED counts as an orphan, however fresh its lease is
      if (db.attachments.lookup slot).any fun att => att.status == .attached then
        (.nothing, .orphan rest)
      else (.nothing, .orphanLease slot rest)
  | .orphanLease slot rest =>
      match activeLease db slot with
      | none => (.nothing, .orphan rest)
      | some _ => (.nothing, .orphanRelease slot rest)
  | .orphanRelease slot rest => (releaseWrite ans db slot, .orphan rest)
  | .driftRead => (.nothing, nextDrift (ans.order.filter (isDrifted ans.terminal key db)))
  | .drift slot phase rest =>
      match advanceClean cfg ans db slot true phase with
      | (w, .done) => (w, nextDrift rest)
      | (w, phase') => (w, .drift slot phase' rest)
  | .done => (.nothing, .done)

def advanceNet (ans : NetAnswer) (db : TopologyDb) : NetCall → TopologyWrite × NetCall
  | .allocate slot phase =>
      ((advanceAllocate ans db slot phase).1, .allocate slot (advanceAllocate ans db slot phase).2)
  | .attach req phase =>
      ((advanceAttach cfg specs ans db req phase).1,
        .attach req (advanceAttach cfg specs ans db req phase).2)
  | .detach slot thenRelease phase =>
      ((advanceClean cfg ans db slot thenRelease phase).1,
        .detach slot thenRelease (advanceClean cfg ans db slot thenRelease phase).2)
  | .janitor key phase =>
      ((advanceJanitor cfg ans db key phase).1, .janitor key (advanceJanitor cfg ans db key phase).2)

structure NetState where
  db : TopologyDb
  calls : List NetCall

inductive NetStep where
  | allocateWorkspaceIp (topologyId : Int) (nodeId : String) (workspaceId : Nat)
  | attachWorkspace (topologyId : Int) (nodeId : String) (workspaceId : Nat)
      (containerId : String) (workspaceIp : Nat)
  | detachWorkspace (topologyId : Int) (nodeId : String) (workspaceId : Nat) (thenRelease : Bool)
  | runTopologyJanitor (topologyId : Int) (nodeId : String)
  | advance (i : Nat) (ans : NetAnswer)

def startedAttach (t : Int) (n : String) (w : Nat) (c : String) (ip : Nat) : NetCall :=
  .attach ⟨⟨nodeOf t n, w⟩, PyText.take 128 (PyText.strip c), ip⟩
    (if PyText.strip c = "" then .done else .start)

/-- What the step writes. -/
def netWrite (s : NetState) : NetStep → TopologyWrite
  | .advance i ans =>
      match s.calls[i]? with
      | none => .nothing
      | some call => (advanceNet cfg specs ans s.db call).1
  | _ => .nothing

def netStep (s : NetState) : NetStep → NetState
  | .allocateWorkspaceIp t n w =>
      { s with calls := s.calls ++ [.allocate ⟨nodeOf t n, w⟩ .start] }
  | .attachWorkspace t n w c ip => { s with calls := s.calls ++ [startedAttach t n w c ip] }
  | .detachWorkspace t n w r => { s with calls := s.calls ++ [.detach ⟨nodeOf t n, w⟩ r .detach] }
  | .runTopologyJanitor t n => { s with calls := s.calls ++ [.janitor (nodeOf t n) .stuckRead] }
  | .advance i ans =>
      match s.calls[i]? with
      | none => s
      | some call =>
          let next := advanceNet cfg specs ans s.db call
          { db := s.db.apply next.1, calls := s.calls.set i next.2 }

end Machine

/-! ## The law and its condition -/

/-- An attached workspace holds an active lease for its address, and no two attached workspaces
of a node have one address. -/
structure AttachedHoldsLease (db : TopologyDb) : Prop where
  lease : ∀ slot att, db.attachments.lookup slot = some att → att.status = .attached →
    ∃ row, db.allocations.lookup slot = some row ∧ row.released = false ∧
      att.workspaceIp = some row.ip
  distinct : ∀ slot slot' att att', db.attachments.lookup slot = some att →
    db.attachments.lookup slot' = some att' → att.status = .attached → att'.status = .attached →
    slot.node = slot'.node → att.workspaceIp = att'.workspaceIp → slot = slot'

/-- The call is an attach of the slot between its lease check and its `ATTACHED` commit. -/
def NetCall.isAttaching (slot : WorkspaceSlot) : NetCall → Bool
  | .attach req .attachment => req.slot == slot
  | .attach req (.attaching _) => req.slot == slot
  | .attach req (.refresh _) => req.slot == slot
  | .attach req (.wiring _ _) => req.slot == slot
  | _ => false

/-- Neither attached nor on the way there. -/
def NetState.leaseIsFree (s : NetState) (slot : WorkspaceSlot) : Bool :=
  ((s.db.attachments.lookup slot).all fun att => att.status != .attached) &&
    s.calls.all fun call => !call.isAttaching slot

/-- The step writes a lease row only while its workspace is neither attached nor attaching. -/
def WritesFreeLease (cfg : AdapterConfig) (specs : Int → Option TopologySpec) (s : NetState)
    (a : NetStep) : Prop :=
  (match netWrite cfg specs s a with
    | .lease slot _ => s.leaseIsFree slot
    | _ => true) = true

instance (cfg : AdapterConfig) (specs : Int → Option TopologySpec) (s : NetState) (a : NetStep) :
    Decidable (WritesFreeLease cfg specs s a) :=
  inferInstanceAs (Decidable (_ = true))

/-! ## What a call may write -/

variable {cfg : AdapterConfig} {specs : Int → Option TopologySpec} {db : TopologyDb}

/-- The workspace of the request holds an active lease for the requested address. -/
def HoldsLease (db : TopologyDb) (req : AttachRequest) : Prop :=
  ∃ row, db.allocations.lookup req.slot = some row ∧ row.released = false ∧
    row.ip = req.workspaceIp

/-- Its attachment row has the requested address. -/
def HasAddress (db : TopologyDb) (req : AttachRequest) : Prop :=
  ∃ att, db.attachments.lookup req.slot = some att ∧ att.workspaceIp = some req.workspaceIp

/-- What a call relies on between its reads and its commits. -/
def NetCallOk (db : TopologyDb) : NetCall → Prop
  | .attach req .attachment => HoldsLease db req
  | .attach req (.attaching none) => HoldsLease db req
  | .attach req (.attaching (some loaded)) => HoldsLease db req ∧
      ∃ cur, db.attachments.lookup req.slot = some cur ∧
        (loaded.workspaceIp = some req.workspaceIp → cur.workspaceIp = some req.workspaceIp)
  | .attach req (.refresh _) => HoldsLease db req ∧ HasAddress db req
  | .attach req (.wiring _ _) => HoldsLease db req ∧ HasAddress db req
  | _ => True

/-- A new attachment row either keeps address and attachment of the row before it, or has the
address of the active lease; a new active lease has an address nobody holds. -/
def WriteOk (db : TopologyDb) : TopologyWrite → Prop
  | .attachment slot row _ =>
      (∃ cur, db.attachments.lookup slot = some cur ∧ row.workspaceIp = cur.workspaceIp ∧
        (row.status = .attached → cur.status = .attached)) ∨
      ∃ lease, db.allocations.lookup slot = some lease ∧ lease.released = false ∧
        row.workspaceIp = some lease.ip
  | .lease slot row => row.released = false → ipTaken db slot row.ip = false
  | _ => True

theorem commitLease_write {db' : TopologyDb} {slot : WorkspaceSlot} {row : Option IpAllocation}
    {ip : Nat} {lease : IpAllocation} (h : commitLease db slot row ip = .committed db')
    (hlease : db'.allocations.lookup slot = some lease) : ipTaken db slot lease.ip = false := by
  have hset : ∀ ip', ¬ ipTaken db slot ip' = true →
      db' = db.setLease slot { ip := ip', released := false } → ipTaken db slot lease.ip = false := by
    rintro ip' hfree rfl
    simp only [TopologyDb.setLease, Table.lookup_insert_eq, if_true, Option.some.injEq] at hlease
    subst hlease
    exact Bool.eq_false_iff.mpr hfree
  unfold commitLease at h
  split at h
  next => cases h
  next =>
    split at h
    next => cases h
    next hfree =>
      cases h
      exact hset ip hfree rfl
  next => cases h
  next old cur _ =>
    dsimp only at h
    generalize (if ip = old.ip then cur.ip else ip) = ip' at h
    split at h
    next => cases h
    next hfree =>
      cases h
      exact hset _ hfree rfl

theorem advanceAllocate_ok (ans : NetAnswer) (slot : WorkspaceSlot) (phase : AllocatePhase) :
    WriteOk db (advanceAllocate ans db slot phase).1 := by
  cases phase with
  | start =>
      simp only [advanceAllocate]
      split <;> trivial
  | plan i =>
      simp only [advanceAllocate]
      split <;> trivial
  | commit i row ip =>
      simp only [advanceAllocate]
      split
      next db' hdb' =>
        split
        next lease hlease =>
          split
          · exact fun _ => commitLease_write hdb' hlease
          · trivial
        next => trivial
      next => trivial
      next =>
        split
        next => trivial
        next => split <;> trivial
  | done => trivial

theorem releaseWrite_ok (ans : NetAnswer) (slot : WorkspaceSlot) :
    WriteOk db (releaseWrite ans db slot) := by
  unfold releaseWrite
  split
  next lease _ =>
    split
    · intro hact
      cases hact
    · trivial
  next => trivial

/-- An update that leaves the address alone and does not attach. -/
theorem updateWrite_keeps (ans : NetAnswer) (slot : WorkspaceSlot)
    {loaded new : TopologyAttachment} (hip : new.workspaceIp = loaded.workspaceIp)
    (hst : new.status ≠ .attached) : WriteOk db (updateWrite ans db slot loaded new) := by
  unfold updateWrite
  split
  next cur hcur =>
    split
    · refine .inl ⟨cur, hcur, ?_, ?_⟩
      · simp only [flushAttachment, hip, if_true]
      · simp only [flushAttachment]
        split
        · exact id
        · exact fun h => absurd h hst
    · trivial
  next => trivial

theorem advanceClean_ok (cfg : AdapterConfig) (ans : NetAnswer) (slot : WorkspaceSlot) (r : Bool)
    (phase : CleanPhase) : WriteOk db (advanceClean cfg ans db slot r phase).1 := by
  cases phase with
  | detach =>
      simp only [advanceClean]
      split
      · trivial
      · split
        · trivial
        · split <;> trivial
  | detaching loaded => exact updateWrite_keeps ans slot rfl (by simp)
  | lease =>
      simp only [advanceClean]
      split <;> trivial
  | releasing => exact releaseWrite_ok ans slot
  | done => trivial

theorem advanceJanitor_ok (cfg : AdapterConfig) (ans : NetAnswer) (key : TopologyNode)
    (phase : JanitorPhase) : WriteOk db (advanceJanitor cfg ans db key phase).1 := by
  have hclean : ∀ slot phase out, advanceClean cfg ans db slot true phase = out →
      WriteOk db out.1 := by
    rintro slot phase out rfl
    exact advanceClean_ok cfg ans slot true phase
  cases phase with
  | stuck slot phase rest =>
      simp only [advanceJanitor]
      split
      next w heq => exact hclean slot phase _ heq
      next w phase' _ heq => exact hclean slot phase _ heq
  | drift slot phase rest =>
      simp only [advanceJanitor]
      split
      next w heq => exact hclean slot phase _ heq
      next w phase' _ heq => exact hclean slot phase _ heq
  | orphan rest =>
      cases rest with
      | nil => trivial
      | cons slot rest =>
          simp only [advanceJanitor]
          split <;> trivial
  | orphanLease slot rest =>
      simp only [advanceJanitor]
      split <;> trivial
  | orphanRelease slot rest => exact releaseWrite_ok ans slot
  | stuckRead => trivial
  | orphanRead => trivial
  | driftRead => trivial
  | done => trivial

/-! ## The steps of an attach -/

theorem checkAttach_lease {req : AttachRequest} (h : checkAttach db req = .ok ()) :
    HoldsLease db req := by
  unfold checkAttach at h
  split at h
  next => cases h
  next row hrow =>
    split at h
    next => cases h
    next =>
      split at h
      next => cases h
      next =>
        split at h
        next =>
          split at h
          next => cases h
          next hip =>
            obtain ⟨lease, hlease, heq⟩ := Option.map_eq_some_iff.mp (not_not.mp hip)
            obtain ⟨hlook, hact⟩ := activeLease_some hlease
            exact ⟨lease, hlook, hact, heq⟩
        next => cases h

@[simp] theorem apply_attachment_lookup (slot slot' : WorkspaceSlot) (row : TopologyAttachment)
    (n : Nat) : (db.apply (.attachment slot row n)).attachments.lookup slot' =
      if slot' = slot then some row else db.attachments.lookup slot' :=
  Table.lookup_insert_eq _ _ _ _

theorem HoldsLease.writeOk {req : AttachRequest} (h : HoldsLease db req)
    {row : TopologyAttachment} (hip : row.workspaceIp = some req.workspaceIp) (n : Nat) :
    WriteOk db (.attachment req.slot row n) := by
  obtain ⟨lease, hlease, hact, heq⟩ := h
  exact .inr ⟨lease, hlease, hact, by rw [hip, heq]⟩

theorem HasAddress.written {req : AttachRequest} {row : TopologyAttachment}
    (hip : row.workspaceIp = some req.workspaceIp) (n : Nat) :
    HasAddress (db.apply (.attachment req.slot row n)) req :=
  ⟨row, by rw [apply_attachment_lookup, if_pos rfl], hip⟩

/-- The address is left out of the update only if the row was read with it. -/
theorem flushAttachment_address {loaded new cur : TopologyAttachment} {ip : Nat}
    (hnew : new.workspaceIp = some ip)
    (h : loaded.workspaceIp = some ip → cur.workspaceIp = some ip) :
    (flushAttachment loaded new cur).workspaceIp = some ip := by
  show (if new.workspaceIp = loaded.workspaceIp then cur.workspaceIp else new.workspaceIp) = some ip
  split
  next heq => exact h (heq.symm.trans hnew)
  next => exact hnew

/-- The two commits of an attach that put its address on the row. -/
theorem updateWrite_address {ans : NetAnswer} {req : AttachRequest}
    {loaded new cur : TopologyAttachment} (hholds : HoldsLease db req)
    (hcur : db.attachments.lookup req.slot = some cur) (hans : ans.commitOk = true)
    (hip : (flushAttachment loaded { new with updatedAt := ans.now } cur).workspaceIp =
      some req.workspaceIp) :
    WriteOk db (updateWrite ans db req.slot loaded new) ∧
      HoldsLease (db.apply (updateWrite ans db req.slot loaded new)) req ∧
      HasAddress (db.apply (updateWrite ans db req.slot loaded new)) req := by
  have heq : updateWrite ans db req.slot loaded new = .attachment req.slot
      (flushAttachment loaded { new with updatedAt := ans.now } cur) db.nextAttachmentId := by
    simp only [updateWrite, hcur, hans, if_true]
  rw [heq]
  exact ⟨hholds.writeOk hip _, hholds, HasAddress.written hip _⟩

theorem advanceAttach_ok (ans : NetAnswer) (req : AttachRequest) (phase : AttachPhase)
    (hcall : NetCallOk db (.attach req phase)) :
    WriteOk db (advanceAttach cfg specs ans db req phase).1 ∧
      NetCallOk (db.apply (advanceAttach cfg specs ans db req phase).1)
        (.attach req (advanceAttach cfg specs ans db req phase).2) := by
  cases phase with
  | start =>
      simp only [advanceAttach]
      split <;> exact ⟨trivial, trivial⟩
  | lease =>
      simp only [advanceAttach]
      split
      next => exact ⟨trivial, trivial⟩
      next hcheck => exact ⟨trivial, checkAttach_lease hcheck⟩
  | attachment =>
      simp only [advanceAttach]
      split
      · exact ⟨trivial, trivial⟩
      · split
        · exact ⟨trivial, trivial⟩
        · refine ⟨trivial, ?_⟩
          cases hrow : db.attachments.lookup req.slot with
          | none => exact hcall
          | some att => exact ⟨hcall, att, hrow, id⟩
  | attaching loaded =>
      cases loaded with
      | none =>
          simp only [advanceAttach]
          split
          next => exact ⟨trivial, trivial⟩
          next =>
            split
            · have hholds : HoldsLease db req := hcall
              exact ⟨hholds.writeOk rfl _, hholds, HasAddress.written rfl _⟩
            · exact ⟨trivial, trivial⟩
      | some loaded =>
          obtain ⟨hholds, cur, hcur, himp⟩ := hcall
          simp only [advanceAttach]
          cases hans : ans.commitOk with
          | true =>
              exact updateWrite_address hholds hcur hans (flushAttachment_address rfl himp)
          | false =>
              refine ⟨?_, trivial⟩
              simp only [updateWrite, hcur, hans]
              trivial
  | refresh wasNew =>
      simp only [advanceAttach]
      split
      · exact ⟨trivial, trivial⟩
      · exact ⟨trivial, hcall⟩
  | wiring wasNew loaded =>
      obtain ⟨hholds, cur, hcur, hcurIp⟩ := hcall
      simp only [advanceAttach]
      split
      · exact ⟨trivial, trivial⟩
      · split
        · exact ⟨trivial, trivial⟩
        next hans =>
          have hip : (flushAttachment loaded { { loaded with status := .attached } with
              updatedAt := ans.now } cur).workspaceIp = some req.workspaceIp := by
            simp only [flushAttachment, if_true]
            exact hcurIp
          have hw := updateWrite_address hholds hcur (by simpa using hans) hip
          refine ⟨hw.1, ?_⟩
          split <;> trivial
  | reread wasNew =>
      simp only [advanceAttach]
      split <;> exact ⟨trivial, trivial⟩
  | verify wasNew loaded =>
      simp only [advanceAttach]
      split <;> exact ⟨trivial, trivial⟩
  | failing wasNew =>
      simp only [advanceAttach]
      split
      · split <;> exact ⟨trivial, trivial⟩
      · exact ⟨trivial, trivial⟩
  | failed wasNew loaded =>
      refine ⟨updateWrite_keeps ans req.slot rfl (by simp), ?_⟩
      simp only [advanceAttach]
      split <;> trivial
  | releaseRead =>
      simp only [advanceAttach]
      split <;> exact ⟨trivial, trivial⟩
  | releasing => exact ⟨releaseWrite_ok ans req.slot, trivial⟩
  | done => exact ⟨trivial, trivial⟩

theorem advanceNet_ok (cfg : AdapterConfig) (specs : Int → Option TopologySpec) (ans : NetAnswer)
    (call : NetCall) (hcall : NetCallOk db call) :
    WriteOk db (advanceNet cfg specs ans db call).1 ∧
      NetCallOk (db.apply (advanceNet cfg specs ans db call).1)
        (advanceNet cfg specs ans db call).2 := by
  cases call with
  | allocate slot phase => exact ⟨advanceAllocate_ok ans slot phase, trivial⟩
  | attach req phase => exact advanceAttach_ok ans req phase hcall
  | detach slot r phase => exact ⟨advanceClean_ok cfg ans slot r phase, trivial⟩
  | janitor key phase => exact ⟨advanceJanitor_ok cfg ans key phase, trivial⟩

/-! ## What a write leaves to the others -/

/-- An attach under way keeps what it relies on if its lease row stays and its attachment row
keeps its address or gets the lease's. -/
theorem NetCallOk.frame {db' : TopologyDb} {call : NetCall} (h : NetCallOk db call)
    (hleases : ∀ slot, call.isAttaching slot = true →
      db'.allocations.lookup slot = db.allocations.lookup slot)
    (hrows : ∀ slot, call.isAttaching slot = true →
      ∀ cur, db.attachments.lookup slot = some cur →
      ∃ cur', db'.attachments.lookup slot = some cur' ∧ (cur'.workspaceIp = cur.workspaceIp ∨
        ∃ lease, db.allocations.lookup slot = some lease ∧ cur'.workspaceIp = some lease.ip)) :
    NetCallOk db' call := by
  have hlease : ∀ req : AttachRequest, call.isAttaching req.slot = true →
      HoldsLease db req → HoldsLease db' req := by
    rintro req hatt ⟨row, hrow, hact, hip⟩
    exact ⟨row, (hleases req.slot hatt).trans hrow, hact, hip⟩
  have hrow : ∀ req : AttachRequest, call.isAttaching req.slot = true → HoldsLease db req →
      ∀ cur, db.attachments.lookup req.slot = some cur →
      ∃ cur', db'.attachments.lookup req.slot = some cur' ∧
        (cur.workspaceIp = some req.workspaceIp → cur'.workspaceIp = some req.workspaceIp) := by
    rintro req hatt ⟨row, hrow, -, hip⟩ cur hcur
    obtain ⟨cur', hcur', hsame | ⟨lease, hlease, heq⟩⟩ := hrows req.slot hatt cur hcur
    · exact ⟨cur', hcur', fun h => hsame.trans h⟩
    · obtain rfl : row = lease := Option.some.inj (hrow.symm.trans hlease)
      exact ⟨cur', hcur', fun _ => by rw [heq, hip]⟩
  have haddr : ∀ req : AttachRequest, call.isAttaching req.slot = true →
      HoldsLease db req ∧ HasAddress db req → HoldsLease db' req ∧ HasAddress db' req := by
    rintro req hatt ⟨hholds, cur, hcur, hip⟩
    obtain ⟨cur', hcur', himp⟩ := hrow req hatt hholds cur hcur
    exact ⟨hlease req hatt hholds, cur', hcur', himp hip⟩
  cases call with
  | attach req phase =>
      cases phase with
      | attachment => exact hlease req (by simp [NetCall.isAttaching]) h
      | attaching loaded =>
          cases loaded with
          | none => exact hlease req (by simp [NetCall.isAttaching]) h
          | some loaded =>
              obtain ⟨hholds, cur, hcur, himp⟩ := h
              obtain ⟨cur', hcur', hkeep⟩ := hrow req (by simp [NetCall.isAttaching]) hholds cur hcur
              exact ⟨hlease req (by simp [NetCall.isAttaching]) hholds, cur', hcur',
                fun hl => hkeep (himp hl)⟩
      | refresh wasNew => exact haddr req (by simp [NetCall.isAttaching]) h
      | wiring wasNew loaded => exact haddr req (by simp [NetCall.isAttaching]) h
      | _ => trivial
  | _ => trivial

theorem leaseIsFree_iff {s : NetState} {slot : WorkspaceSlot} : s.leaseIsFree slot = true ↔
    (∀ att, s.db.attachments.lookup slot = some att → att.status ≠ .attached) ∧
      ∀ call ∈ s.calls, call.isAttaching slot = false := by
  simp only [NetState.leaseIsFree, Bool.and_eq_true, List.all_eq_true, Bool.not_eq_true']
  cases s.db.attachments.lookup slot with
  | none => simp
  | some att => simp

/-- The tables and the calls of a run whose steps write free leases only. -/
structure NetOk (s : NetState) : Prop where
  attached : ∀ slot att, s.db.attachments.lookup slot = some att → att.status = .attached →
    ∃ row, s.db.allocations.lookup slot = some row ∧ row.released = false ∧
      att.workspaceIp = some row.ip
  unique : ∀ slot slot' row row', s.db.allocations.lookup slot = some row →
    s.db.allocations.lookup slot' = some row' → row.released = false → row'.released = false →
    slot.node = slot'.node → row.ip = row'.ip → slot = slot'
  calls : ∀ call ∈ s.calls, NetCallOk s.db call

theorem ipTaken_false {slot slot' : WorkspaceSlot} {ip : Nat} {row : IpAllocation}
    (h : ipTaken db slot ip = false) (hrow : db.allocations.lookup slot' = some row)
    (hact : row.released = false) (hnode : slot'.node = slot.node) (hip : row.ip = ip) :
    slot' = slot := by
  by_contra hne
  have hmem : (⟨slot', row⟩ : Sigma fun _ : WorkspaceSlot => IpAllocation) ∈
      db.allocations.entries := AList.mem_lookup_iff.mp hrow
  have := List.any_eq_false.mp h _ hmem
  simp [hnode, hne, hact, hip] at this

/-- One write, with the calls as they are. -/
theorem NetOk.write {s : NetState} (hok : NetOk s) {w : TopologyWrite} (hw : WriteOk s.db w)
    (hfree : ∀ slot row, w = .lease slot row → s.leaseIsFree slot = true) :
    NetOk { s with db := s.db.apply w } := by
  cases w with
  | nothing => exact hok
  | runtimes rows n =>
      refine ⟨hok.attached, hok.unique, fun call hcall => (hok.calls call hcall).frame ?_ ?_⟩
      · exact fun _ _ => rfl
      · exact fun _ _ cur hcur => ⟨cur, hcur, .inl rfl⟩
  | lease slot row =>
      obtain ⟨hnot, hcalls⟩ := leaseIsFree_iff.mp (hfree slot row rfl)
      have hlook : ∀ slot', (s.db.apply (.lease slot row)).allocations.lookup slot' =
          if slot' = slot then some row else s.db.allocations.lookup slot' := fun slot' =>
        Table.lookup_insert_eq _ _ _ _
      constructor
      · intro slot' att hatt hst
        have hne : slot' ≠ slot := by
          rintro rfl
          exact hnot att hatt hst
        rw [hlook, if_neg hne]
        exact hok.attached slot' att hatt hst
      · intro slot₁ slot₂ row₁ row₂ h₁ h₂ hact₁ hact₂ hnode hip
        rw [hlook] at h₁ h₂
        split at h₁ <;> split at h₂
        next heq₁ heq₂ => rw [heq₁, heq₂]
        next heq₁ _ =>
          cases h₁
          subst heq₁
          exact (ipTaken_false (hw hact₁) h₂ hact₂ hnode.symm hip.symm).symm
        next _ heq₂ =>
          cases h₂
          subst heq₂
          exact ipTaken_false (hw hact₂) h₁ hact₁ hnode hip
        next => exact hok.unique slot₁ slot₂ row₁ row₂ h₁ h₂ hact₁ hact₂ hnode hip
      · intro call hcall
        refine (hok.calls call hcall).frame (fun slot' hatt => ?_) ?_
        · have hne : slot' ≠ slot := by
            rintro rfl
            rw [hcalls call hcall] at hatt
            cases hatt
          exact (hlook slot').trans (if_neg hne)
        · exact fun _ _ cur hcur => ⟨cur, hcur, .inl rfl⟩
  | attachment slot row n =>
      constructor
      · intro slot' att hatt hst
        rw [apply_attachment_lookup] at hatt
        split at hatt
        next heq =>
          cases hatt
          subst heq
          rcases hw with ⟨cur, hcur, hip, himp⟩ | ⟨lease, hlease, hact, hip⟩
          · obtain ⟨lease, hlease, hact, hcurIp⟩ := hok.attached slot' cur hcur (himp hst)
            exact ⟨lease, hlease, hact, hip.trans hcurIp⟩
          · exact ⟨lease, hlease, hact, hip⟩
        next => exact hok.attached slot' att hatt hst
      · exact hok.unique
      · intro call hcall
        refine (hok.calls call hcall).frame (fun _ _ => rfl) fun slot' _ cur hcur => ?_
        rw [apply_attachment_lookup]
        split
        next heq =>
          subst heq
          refine ⟨row, rfl, ?_⟩
          rcases hw with ⟨cur', hcur', hip, -⟩ | ⟨lease, hlease, -, hip⟩
          · obtain rfl : cur = cur' := Option.some.inj (hcur.symm.trans hcur')
            exact .inl hip
          · exact .inr ⟨lease, hlease, hip⟩
        next => exact ⟨cur, hcur, .inl rfl⟩

theorem NetOk.start {s : NetState} (hok : NetOk s) {call : NetCall} (h : NetCallOk s.db call) :
    NetOk { s with calls := s.calls ++ [call] } := by
  refine ⟨hok.attached, hok.unique, fun c hc => ?_⟩
  rcases List.mem_append.mp hc with hc | hc
  · exact hok.calls c hc
  · rw [List.mem_singleton.mp hc]
    exact h

theorem NetOk.step {s : NetState} (hok : NetOk s) {a : NetStep}
    (hp : WritesFreeLease cfg specs s a) : NetOk (netStep cfg specs s a) := by
  cases a with
  | allocateWorkspaceIp t n w => exact hok.start trivial
  | attachWorkspace t n w c ip =>
      refine hok.start ?_
      unfold startedAttach
      split <;> trivial
  | detachWorkspace t n w r => exact hok.start trivial
  | runTopologyJanitor t n => exact hok.start trivial
  | advance i ans =>
      simp only [netStep]
      split
      next => exact hok
      next call hcall =>
        have hmem := List.mem_of_getElem? hcall
        obtain ⟨hw, hnext⟩ := advanceNet_ok cfg specs ans call (hok.calls call hmem)
        have hfree : ∀ slot row, (advanceNet cfg specs ans s.db call).1 = .lease slot row →
            s.leaseIsFree slot = true := by
          intro slot row heq
          simpa only [WritesFreeLease, netWrite, hcall, heq] using hp
        have hok' := hok.write hw hfree
        refine ⟨hok'.attached, hok'.unique, fun c hc => ?_⟩
        rcases List.mem_or_eq_of_mem_set hc with hc | rfl
        · exact hok'.calls c hc
        · exact hnext

theorem NetOk.holds {s : NetState} (hok : NetOk s) : AttachedHoldsLease s.db where
  lease := hok.attached
  distinct slot slot' att att' hatt hatt' hst hst' hnode hip := by
    obtain ⟨row, hrow, hact, hrowIp⟩ := hok.attached slot att hatt hst
    obtain ⟨row', hrow', hact', hrowIp'⟩ := hok.attached slot' att' hatt' hst'
    have heq : row.ip = row'.ip := by
      rw [hrowIp, hrowIp'] at hip
      exact Option.some.inj hip
    exact hok.unique slot slot' row row' hrow hrow' hact hact' hnode heq

/-- Before any call: no lease and no attachment row. -/
def NetState.Unused (s : NetState) : Prop :=
  s.db.allocations = ∅ ∧ s.db.attachments = ∅ ∧ s.calls = []

theorem NetOk.of_unused {s : NetState} (h : s.Unused) : NetOk s := by
  obtain ⟨hleases, hatts, hcalls⟩ := h
  constructor
  · intro slot att hatt
    rw [hatts] at hatt
    cases hatt
  · intro slot slot' row row' hrow
    rw [hleases] at hrow
    cases hrow
  · rw [hcalls]
    intro call hcall
    cases hcall

/-- In every interleaving whose steps write a lease row only while its workspace is neither
attached nor between the lease check and the `ATTACHED` commit of an attach, every attached
workspace holds an active lease for its address, and attached workspaces of a node have different
addresses. -/
theorem attached_holds_lease (cfg : AdapterConfig) (specs : Int → Option TopologySpec)
    (s : NetState) (hs : s.Unused) (as : List NetStep)
    (h : Along (netStep cfg specs) (WritesFreeLease cfg specs) s as) :
    Always (netStep cfg specs) (fun s => AttachedHoldsLease s.db) s as := by
  have hok : NetOk s := .of_unused hs
  have halways : Always (netStep cfg specs) NetOk s as :=
    always_of_along hok (fun _ _ hok hfree => hok.step hfree) h
  exact halways.mono fun _ hok => hok.holds

/-- One node with its runtime row. -/
def oneNode : NetState :=
  ⟨(ensureNodeTopology dbOnlyAdapter (fun _ => some {}) {} emptyTopologyDb 1 "node-1").1, []⟩

def slotOf (w : Nat) : WorkspaceSlot := ⟨⟨1, "node-1"⟩, w⟩

/-- The steps of the calls with the given numbers, in order. -/
def steps (order : List WorkspaceSlot) (calls : List Nat) : List NetStep :=
  calls.map fun i => .advance i { order := order, now := 1 }

/-- What workspace 8 is given. -/
def secondIp : Nat := firstIp + 2603

/-- Two workspaces choose one address at the same time, and workspace 8 tries again. They attach side
by side. The janitor makes its list of leases meanwhile, and asks for the attachments after both are
`ATTACHED`. -/
def janitorBesideAttaches : List NetStep :=
  [.allocateWorkspaceIp 1 "node-1" 7, .allocateWorkspaceIp 1 "node-1" 8] ++
    steps [slotOf 7, slotOf 8] [0, 1, 0, 1, 0, 1, 1, 1] ++
    [.attachWorkspace 1 "node-1" 7 "c-7" firstIp, .attachWorkspace 1 "node-1" 8 "c-8" secondIp,
      .runTopologyJanitor 1 "node-1"] ++
    steps [slotOf 7, slotOf 8] [2, 3, 2, 2, 3, 4, 3, 2, 4, 3, 2, 3, 2, 3, 4, 4, 4, 4]

theorem janitor_spares_attached :
    Along (netStep dbOnlyAdapter fun _ => some {}) (WritesFreeLease dbOnlyAdapter fun _ => some {})
        oneNode janitorBesideAttaches ∧
      Always (netStep dbOnlyAdapter fun _ => some {}) (fun s => AttachedHoldsLease s.db) oneNode
        janitorBesideAttaches := by
  have halong : Along (netStep dbOnlyAdapter fun _ => some {})
      (WritesFreeLease dbOnlyAdapter fun _ => some {}) oneNode janitorBesideAttaches := by
    decide +kernel
  have hleases : oneNode.db.allocations.entries.isEmpty = true := by decide +kernel
  have hatts : oneNode.db.attachments.entries.isEmpty = true := by decide +kernel
  have hunused : oneNode.Unused :=
    ⟨AList.ext (List.isEmpty_iff.mp hleases), AList.ext (List.isEmpty_iff.mp hatts), rfl⟩
  exact ⟨halong, attached_holds_lease dbOnlyAdapter (fun _ => some {}) oneNode hunused
    janitorBesideAttaches halong⟩

/-- Both end attached, each with its lease. -/
example :
    let db := (run (netStep dbOnlyAdapter fun _ => some {}) oneNode janitorBesideAttaches).db
    [7, 8].map (fun w => ((db.attachments.lookup (slotOf w)).map (·.status),
        db.allocations.lookup (slotOf w))) =
      [(some .attached, some ⟨firstIp, false⟩), (some .attached, some ⟨secondIp, false⟩)] := by
  decide +kernel

/-- The janitor's orphan pass runs between the `ATTACHING` and the `ATTACHED` commit of workspace
7; then workspace 8 gets the address and attaches too. -/
def janitorDuringAttach : List NetStep :=
  [.allocateWorkspaceIp 1 "node-1" 7, .attachWorkspace 1 "node-1" 7 "c-7" firstIp,
      .runTopologyJanitor 1 "node-1", .allocateWorkspaceIp 1 "node-1" 8,
      .attachWorkspace 1 "node-1" 8 "c-8" firstIp] ++
    steps [slotOf 7] [0, 0, 0, 1, 1, 1, 1, 1, 2, 2, 2, 2, 2, 1] ++
    steps [] [3, 3, 3, 4, 4, 4, 4, 4, 4]

theorem janitor_releases_attaching_lease :
    ¬ Always (netStep dbOnlyAdapter fun _ => some {}) (fun s => AttachedHoldsLease s.db) oneNode
      janitorDuringAttach := by
  intro h
  have hboth : ∀ w ∈ [7, 8], ((run (netStep dbOnlyAdapter fun _ => some {}) oneNode
      janitorDuringAttach).db.attachments.lookup (slotOf w)).map
        (fun att => (att.status, att.workspaceIp)) = some (.attached, some firstIp) := by
    decide +kernel
  obtain ⟨att, hatt, heq⟩ := Option.map_eq_some_iff.mp (hboth 7 (by simp))
  obtain ⟨att', hatt', heq'⟩ := Option.map_eq_some_iff.mp (hboth 8 (by simp))
  obtain ⟨hst, hip⟩ := Prod.mk.inj heq
  obtain ⟨hst', hip'⟩ := Prod.mk.inj heq'
  have hsame := h.last.distinct _ _ att att' hatt hatt' hst hst' rfl (hip.trans hip'.symm)
  exact absurd hsame (by decide)

end Devnest
