import Devnest.AttachFailures

/-!
# Interface names over whole histories

The interface columns of the attachment rows, over any sequence of
`allocate_workspace_ip`, `attach_workspace` and `detach_workspace`, each run to
its end. The names are those of `_veth_pair_names`: six hex digits of a hash of
the workspace. No constraint and no check compares them.

`HasNames` is the invariant: a row that is not `DETACHED` has the names of its
workspace. So two workspaces share an interface exactly when their digits agree.
-/

namespace Devnest

open Runs

/-! ## The calls -/

/-- The database, with `interface_host` and `interface_container` of the attachment rows that have
them. -/
structure WiredDb where
  db : TopologyDb
  interfaces : Table WorkspaceSlot (String × String) := ∅

inductive WireStep where
  | allocateWorkspaceIp (topologyId : Int) (nodeId : String) (workspaceId : Nat) (commitOk : Bool)
  | attachWorkspace (topologyId : Int) (nodeId : String) (workspaceId : Nat)
      (containerId netnsRef : String) (workspaceIp : Nat) (ans : AttachAnswer)
      (host : CommandHost)
  | detachWorkspace (topologyId : Int) (nodeId : String) (workspaceId : Nat)
      (linuxOk commitOk : Bool) (now : Nat)

section Wire

variable (cfg : AdapterConfig) (specs : Int → Option TopologySpec) (s : WiredDb)

/-- The request, with the columns of the row that is there. -/
def WiredDb.request (slot : WorkspaceSlot) (containerId netnsRef : String) (workspaceIp : Nat) :
    LinuxRequest where
  slot := slot
  containerId := containerId
  workspaceIp := workspaceIp
  netnsRef := netnsRef
  interfaceHost := (s.interfaces.lookup slot).map Prod.fst
  interfaceContainer := (s.interfaces.lookup slot).map Prod.snd

/-- The `ATTACHING` commit writes the names, and no later commit of the call changes them. -/
def WiredDb.attach (host : CommandHost) (ans : AttachAnswer) (req : LinuxRequest) : WiredDb :=
  match startAttach host cfg specs ans s.db req with
  | .ended db _ => { s with db }
  | .committed c =>
      { db := (attachAfterCommit host ans c req.toAttachRequest).1
        interfaces := s.interfaces.insert req.slot (vethPairNames cfg req.slot) }

/-- A `DETACHED` row has no interfaces. -/
def WiredDb.detach (linuxOk commitOk : Bool) (now : Nat) (slot : WorkspaceSlot) : WiredDb :=
  match detachWorkspace cfg linuxOk commitOk now s.db slot with
  | (db, .ok true) => { db, interfaces := s.interfaces.erase slot }
  | (db, _) => { s with db }

def wireStep : WireStep → WiredDb
  | .allocateWorkspaceIp t n w ok =>
      { s with db := (allocateWorkspaceIp ok s.db ⟨nodeOf t n, w⟩).1 }
  | .attachWorkspace t n w c netns ip ans host =>
      s.attach cfg specs host ans (s.request ⟨nodeOf t n, w⟩ c netns ip)
  | .detachWorkspace t n w linuxOk ok now => s.detach cfg linuxOk ok now ⟨nodeOf t n, w⟩

/-- The row is there with this status. -/
def WiredDb.HasStatus (slot : WorkspaceSlot) (st : TopologyAttachmentStatus) : Prop :=
  (s.db.attachments.lookup slot).map (·.status) = some st

def WiredDb.interfaceHost (slot : WorkspaceSlot) : Option String :=
  (s.interfaces.lookup slot).map Prod.fst

/-- Attached workspaces of a node have different host interfaces. -/
def OwnInterfaces : Prop :=
  ∀ slot slot', slot ≠ slot' → slot.node = slot'.node → s.HasStatus slot .attached →
    s.HasStatus slot' .attached → s.interfaceHost slot ≠ s.interfaceHost slot'

/-- An attach that comes to `ATTACHED` is not for a workspace whose name is that of another one
attached on the node. -/
def InterfaceNamesApart : WireStep → Prop
  | .attachWorkspace t n w c netns ip ans host =>
      (wireStep cfg specs s (.attachWorkspace t n w c netns ip ans host)).HasStatus
          ⟨nodeOf t n, w⟩ .attached →
        ∀ slot, slot ≠ ⟨nodeOf t n, w⟩ → slot.node = nodeOf t n → s.HasStatus slot .attached →
          (vethPairNames cfg slot).1 ≠ (vethPairNames cfg ⟨nodeOf t n, w⟩).1
  | _ => True

/-- A row that is not `DETACHED` has the names of its workspace. -/
def HasNames : Prop :=
  ∀ slot st, s.HasStatus slot st → st ≠ .detached →
    s.interfaces.lookup slot = some (vethPairNames cfg slot)

end Wire

/-! ## The rows of other workspaces -/

/-- The attachment rows of other workspaces are as they were. -/
def OthersKept (slot : WorkspaceSlot) (db db' : TopologyDb) : Prop :=
  ∀ slot', slot' ≠ slot → db'.attachments.lookup slot' = db.attachments.lookup slot'

variable {cfg : AdapterConfig} {specs : Int → Option TopologySpec} {host : CommandHost}
  {ans : AttachAnswer} {slot : WorkspaceSlot} {db db' db'' : TopologyDb} {s : WiredDb}

theorem OthersKept.refl (slot : WorkspaceSlot) (db : TopologyDb) : OthersKept slot db db :=
  fun _ _ => rfl

theorem OthersKept.trans (h : OthersKept slot db db') (h' : OthersKept slot db' db'') :
    OthersKept slot db db'' := fun slot' hne => (h' slot' hne).trans (h slot' hne)

theorem othersKept_of_eq (h : db'.attachments = db.attachments) : OthersKept slot db db' :=
  fun slot' _ => by rw [h]

theorem othersKept_setAttachment (slot : WorkspaceSlot) (db : TopologyDb)
    (att : TopologyAttachment) : OthersKept slot db (db.setAttachment slot att) :=
  fun _ hne => AList.lookup_insert_ne hne

theorem othersKept_commitAttaching (now : Nat) (db : TopologyDb) (req : AttachRequest) :
    OthersKept req.slot db (commitAttaching now db req) := by
  unfold commitAttaching
  split
  · exact othersKept_setAttachment _ _ _
  · exact othersKept_setAttachment _ _ _

theorem othersKept_setAttachmentStatus (now : Nat) (db : TopologyDb) (slot : WorkspaceSlot)
    (st : TopologyAttachmentStatus) : OthersKept slot db (setAttachmentStatus now db slot st) := by
  unfold setAttachmentStatus
  split
  · exact .refl slot db
  · exact othersKept_setAttachment _ _ _

theorem releaseLease_attachments (db : TopologyDb) (slot : WorkspaceSlot) :
    (releaseLease db slot).attachments = db.attachments := by
  unfold releaseLease
  split
  · rfl
  · rfl

theorem othersKept_failure (ans : AttachAnswer) (db : TopologyDb) (req : AttachRequest)
    (wasNew : Bool) : OthersKept req.slot db (attachFailureBestEffort ans db req wasNew) := by
  have hfailed : OthersKept req.slot db
      (if ans.failedOk then setAttachmentStatus ans.now db req.slot .failed else db) := by
    split
    · exact othersKept_setAttachmentStatus _ _ _ _
    · exact .refl _ _
  unfold attachFailureBestEffort
  dsimp only
  generalize (if ans.failedOk then setAttachmentStatus ans.now db req.slot .failed else db) = db₁
    at hfailed ⊢
  split
  · exact hfailed.trans (othersKept_of_eq (releaseLease_attachments _ _))
  · exact hfailed

theorem othersKept_attachAfterCommit (c : AttachCommit) (req : AttachRequest) :
    OthersKept req.slot c.db (attachAfterCommit host ans c req).1 := by
  have hattached := othersKept_setAttachmentStatus ans.now c.db req.slot .attached
  unfold attachAfterCommit
  split
  · split
    · exact hattached
    · exact othersKept_failure _ _ _ _
  · split
    · split
      · exact othersKept_failure _ _ _ _
      · exact .refl _ _
    · split
      · unfold verifyAttached
        dsimp only
        split
        · exact hattached
        · split
          · exact hattached
          · exact hattached.trans (othersKept_failure _ _ _ _)
      · exact othersKept_failure _ _ _ _

/-- A call that ends before its commit has changed no attachment row. -/
theorem startChecked_ended {req : LinuxRequest} {r : Except AttachRaise Unit}
    (h : startChecked host cfg ans db req = .ended db' r) : db' = db := by
  have hrefused : ∀ {m : String}, refused db m = .ended db' r → db' = db := fun h => by
    cases h
    rfl
  have hcommit : ∀ {wiring}, commitStart ans db req wiring = .ended db' r → db' = db := by
    intro wiring h
    unfold commitStart at h
    split at h
    · cases h
    · exact hrefused h
  unfold startChecked at h
  dsimp only at h
  split at h
  · split at h
    · exact hrefused h
    · split at h
      · cases h
        rfl
      · exact hcommit h
  · split at h
    · exact hrefused h
    · split at h
      · exact hrefused h
      · cases h
        rfl
      · split at h
        · cases h
          rfl
        · cases h
          rfl
        · exact hcommit h

theorem startAttach_ended {req : LinuxRequest} {r : Except AttachRaise Unit}
    (h : startAttach host cfg specs ans db req = .ended db' r) :
    db'.attachments = db.attachments := by
  have hensure := ensureNodeTopology_attachments cfg specs ans.ensure db
    req.slot.node.topologyId req.slot.node.nodeId
  unfold startAttach at h
  by_cases hblank : PyText.strip req.containerId = ""
  · rw [if_pos hblank] at h
    cases h
    rfl
  · rw [if_neg hblank] at h
    split at h
    next db₁ e hens =>
      cases h
      rw [hens] at hensure
      exact hensure
    next db₁ _ hens =>
      rw [hens] at hensure
      split at h
      · cases h
        exact hensure
      · rw [startChecked_ended h]
        exact hensure

theorem othersKept_startAttach {req : LinuxRequest} {c : AttachCommit}
    (h : startAttach host cfg specs ans db req = .committed c) : OthersKept req.slot db c.db := by
  have hensure := ensureNodeTopology_attachments cfg specs ans.ensure db
    req.slot.node.topologyId req.slot.node.nodeId
  unfold startAttach at h
  by_cases hblank : PyText.strip req.containerId = ""
  · rw [if_pos hblank] at h
    cases h
  · rw [if_neg hblank] at h
    split at h
    · cases h
    next db₁ _ hens =>
      rw [hens] at hensure
      split at h
      · cases h
      next hcheck =>
        generalize hreq : ({ req with
          containerId := PyText.take 128 (PyText.strip req.containerId) } : LinuxRequest) = req'
            at h
        have hslot : req'.slot = req.slot := by rw [← hreq]
        obtain ⟨-, wiring, rfl, -⟩ := startChecked_committed h
        rw [← hslot]
        exact (othersKept_of_eq hensure).trans (othersKept_commitAttaching _ _ _)

theorem allocateWorkspaceIp_attachments (ok : Bool) (db : TopologyDb) (slot : WorkspaceSlot) :
    (allocateWorkspaceIp ok db slot).1.attachments = db.attachments := by
  rcases (allocateWorkspaceIp_spec ok db slot).1 with heq | ⟨ip, -, heq⟩
  · rw [heq]
  · rw [heq]
    rfl

/-! ## Names follow rows -/

theorem HasNames.of_attachments (h : HasNames cfg s) (hdb : db.attachments = s.db.attachments) :
    HasNames cfg { s with db } := by
  intro slot st hst
  unfold WiredDb.HasStatus at hst
  rw [hdb] at hst
  exact h slot st hst

/-- One row changes with its names. -/
theorem HasNames.of_others (h : HasNames cfg s) (hothers : OthersKept slot s.db db)
    {interfaces : Table WorkspaceSlot (String × String)}
    (hsame : ∀ slot', slot' ≠ slot → interfaces.lookup slot' = s.interfaces.lookup slot')
    (hslot : ∀ st, WiredDb.HasStatus { db, interfaces } slot st → st ≠ .detached →
      interfaces.lookup slot = some (vethPairNames cfg slot)) :
    HasNames cfg { db, interfaces } := by
  intro slot' st hst hdet
  by_cases hs : slot' = slot
  · rw [hs] at hst ⊢
    exact hslot st hst hdet
  · unfold WiredDb.HasStatus at hst
    rw [hothers slot' hs] at hst
    exact (hsame slot' hs).trans (h slot' st hst hdet)

theorem HasNames.attach (h : HasNames cfg s) (req : LinuxRequest) :
    HasNames cfg (s.attach cfg specs host ans req) := by
  unfold WiredDb.attach
  split
  next hend => exact h.of_attachments (startAttach_ended hend)
  next c hstart =>
    refine h.of_others
      ((othersKept_startAttach hstart).trans (othersKept_attachAfterCommit c _))
      (fun slot' hne => AList.lookup_insert_ne hne) fun _ _ _ => AList.lookup_insert _

/-- A detach commits, or it changes nothing. -/
theorem detachWorkspace_cases (cfg : AdapterConfig) (linuxOk commitOk : Bool) (now : Nat)
    (db : TopologyDb) (slot : WorkspaceSlot) :
    (∃ att : TopologyAttachment, att.status = .detached ∧
      detachWorkspace cfg linuxOk commitOk now db slot =
        (db.setAttachment slot att, .ok true)) ∨
    ∃ r, r ≠ .ok true ∧ detachWorkspace cfg linuxOk commitOk now db slot = (db, r) := by
  unfold detachWorkspace
  split
  · exact .inr ⟨.ok false, nofun, rfl⟩
  next att _ =>
    split
    · exact .inr ⟨.ok false, nofun, rfl⟩
    split
    · exact .inr ⟨.error _, nofun, rfl⟩
    split
    · exact .inr ⟨.error _, nofun, rfl⟩
    · exact .inl ⟨_, rfl, rfl⟩

theorem HasNames.detach (h : HasNames cfg s) (linuxOk commitOk : Bool) (now : Nat)
    (slot : WorkspaceSlot) : HasNames cfg (s.detach cfg linuxOk commitOk now slot) := by
  unfold WiredDb.detach
  rcases detachWorkspace_cases cfg linuxOk commitOk now s.db slot with
    ⟨att, hatt, hcall⟩ | ⟨r, hr, hcall⟩
  · rw [hcall]
    refine h.of_others (othersKept_setAttachment _ _ _)
      (fun slot' hne => AList.lookup_erase_ne hne) fun st hst hdet => ?_
    unfold WiredDb.HasStatus TopologyDb.setAttachment at hst
    rw [Table.lookup_insert_eq, if_pos rfl] at hst
    exact absurd (hatt.symm.trans (Option.some.inj hst)).symm hdet
  · rw [hcall]
    split
    next heq => exact absurd (congrArg Prod.snd heq) hr
    next heq =>
      cases heq
      exact h.of_attachments rfl

theorem HasNames.step (h : HasNames cfg s) (st : WireStep) :
    HasNames cfg (wireStep cfg specs s st) := by
  cases st with
  | allocateWorkspaceIp t n w ok =>
      exact h.of_attachments (allocateWorkspaceIp_attachments ok s.db _)
  | attachWorkspace t n w c netns ip ans host => exact h.attach _
  | detachWorkspace t n w linuxOk ok now => exact h.detach linuxOk ok now _

/-- Attached workspaces share an interface exactly when their names agree. -/
theorem HasNames.ownInterfaces_iff (h : HasNames cfg s) :
    OwnInterfaces s ↔ ∀ slot slot', slot ≠ slot' → slot.node = slot'.node →
      s.HasStatus slot .attached → s.HasStatus slot' .attached →
        (vethPairNames cfg slot).1 ≠ (vethPairNames cfg slot').1 := by
  have hhost : ∀ slot, s.HasStatus slot .attached →
      s.interfaceHost slot = some (vethPairNames cfg slot).1 := by
    intro slot hst
    unfold WiredDb.interfaceHost
    rw [h slot .attached hst TopologyAttachmentStatus.noConfusion]
    rfl
  refine forall_congr' fun slot => forall_congr' fun slot' => ?_
  refine imp_congr_right fun _ => imp_congr_right fun _ => ?_
  refine imp_congr_right fun hst => imp_congr_right fun hst' => ?_
  rw [hhost slot hst, hhost slot' hst', Ne, Option.some.injEq]

/-- Only an attach makes a row `ATTACHED`, and only its own. -/
theorem attached_of_step (st : WireStep) {slot : WorkspaceSlot}
    (hst : (wireStep cfg specs s st).HasStatus slot .attached) :
    s.HasStatus slot .attached ∨
      ∃ t n w c netns ip ans host, st = .attachWorkspace t n w c netns ip ans host ∧
        slot = ⟨nodeOf t n, w⟩ := by
  cases st with
  | allocateWorkspaceIp t n w ok =>
      left
      unfold WiredDb.HasStatus wireStep at hst
      rwa [allocateWorkspaceIp_attachments] at hst
  | attachWorkspace t n w c netns ip ans host =>
      by_cases hs : slot = ⟨nodeOf t n, w⟩
      · exact .inr ⟨t, n, w, c, netns, ip, ans, host, rfl, hs⟩
      · left
        unfold WiredDb.HasStatus wireStep WiredDb.attach at hst
        dsimp only at hst
        split at hst
        next hend => rwa [startAttach_ended hend] at hst
        next c' hstart =>
          have hothers : OthersKept _ s.db (attachAfterCommit host ans c' _).1 :=
            (othersKept_startAttach hstart).trans (othersKept_attachAfterCommit c' _)
          dsimp only at hst
          rwa [hothers slot hs] at hst
  | detachWorkspace t n w linuxOk ok now =>
      left
      unfold WiredDb.HasStatus wireStep WiredDb.detach at hst
      dsimp only at hst
      rcases detachWorkspace_cases cfg linuxOk ok now s.db ⟨nodeOf t n, w⟩ with
        ⟨att, hatt, hcall⟩ | ⟨r, hr, hcall⟩
      · rw [hcall] at hst
        dsimp only [TopologyDb.setAttachment] at hst
        rw [Table.lookup_insert_eq] at hst
        split at hst
        · have hdet := hatt.symm.trans (Option.some.inj hst)
          cases hdet
        · exact hst
      · rw [hcall] at hst
        split at hst
        next heq =>
          cases heq
          exact hst
        next heq =>
          cases heq
          exact hst

/-- A step keeps the interfaces apart exactly when it keeps the names apart. -/
theorem ownInterfaces_step (h : HasNames cfg s) (hown : OwnInterfaces s) (st : WireStep) :
    OwnInterfaces (wireStep cfg specs s st) ↔ InterfaceNamesApart cfg specs s st := by
  rw [(h.step st).ownInterfaces_iff]
  rw [h.ownInterfaces_iff] at hown
  constructor
  · intro hafter
    cases st with
    | allocateWorkspaceIp t n w ok => trivial
    | detachWorkspace t n w linuxOk ok now => trivial
    | attachWorkspace t n w c netns ip ans host =>
        intro hst slot hne hnode hslot
        refine hafter slot ⟨nodeOf t n, w⟩ hne hnode ?_ hst
        unfold WiredDb.HasStatus wireStep WiredDb.attach
        dsimp only
        split
        next hend =>
          rw [startAttach_ended hend]
          exact hslot
        next c' hstart =>
          have hothers : OthersKept _ s.db (attachAfterCommit host ans c' _).1 :=
            (othersKept_startAttach hstart).trans (othersKept_attachAfterCommit c' _)
          dsimp only
          rw [hothers slot hne]
          exact hslot
  · intro hapart slot slot' hne hnode hst hst'
    rcases attached_of_step st hst with hold | ⟨t, n, w, c, netns, ip, ans, host, rfl, rfl⟩
    · rcases attached_of_step st hst' with hold' | ⟨t, n, w, c, netns, ip, ans, host, rfl, rfl⟩
      · exact hown slot slot' hne hnode hold hold'
      · exact hapart hst' slot hne hnode hold
    · rcases attached_of_step _ hst' with hold' | ⟨_, _, _, _, _, _, _, _, heq, rfl⟩
      · exact fun hname => hapart hst slot' hne.symm hnode.symm hold' hname.symm
      · cases heq
        exact absurd rfl hne

/-- Over any sequence of calls, attached workspaces of a node have interfaces of their own exactly
when no attach comes to `ATTACHED` beside a workspace with the same name. -/
theorem interfaces_apart_iff (cfg : AdapterConfig) (specs : Int → Option TopologySpec)
    (db : TopologyDb) (hnone : db.attachments = ∅) (steps : List WireStep) :
    Always (wireStep cfg specs) OwnInterfaces { db } steps ↔
      Along (wireStep cfg specs) (InterfaceNamesApart cfg specs) { db } steps := by
  have hstart : ∀ slot st, ¬ WiredDb.HasStatus { db } slot st := by
    intro slot st hst
    unfold WiredDb.HasStatus at hst
    rw [hnone] at hst
    cases hst
  refine always_iff_along (I := HasNames cfg) (fun slot st hst => absurd hst (hstart slot st))
    (fun _ st h _ => h.step st) (fun slot _ _ _ hst => absurd hst (hstart slot _))
    fun s st h hown => ?_
  exact ownInterfaces_step h hown st

/-! ## Six digits -/

/-- SHA-256 on three workspaces of a node, two of them with the same first six digits. -/
def sixDigitAdapter : AdapterConfig :=
  { dbOnlyAdapter with
    hexDigest := fun n =>
      if n = "1:node-1:240" then "31545aaa161f9b4275ce9b5389eb21812cd1d3d0e57ce34f6773d306dd68c917"
      else if n = "1:node-1:241" then
        "b3d09438d2ca2c75792d3c9afda00d0608b6a86e5eb5efd349e4a67b933751c5"
      else if n = "1:node-1:5021" then
        "31545ab9f7a7c8e9bb1293c02b38e8fa066a393ec8cb06124110593e0c9055b7"
      else dbOnlyAdapter.hexDigest n }

/-- Workspace 240 and another one get an address and attach, one after the other. -/
def attachBeside240 (w : Nat) : List WireStep :=
  [.allocateWorkspaceIp 1 "node-1" 240 true,
    .attachWorkspace 1 "node-1" 240 "c-240" "/proc/7/ns/net" firstIp {} refusingHost,
    .allocateWorkspaceIp 1 "node-1" w true,
    .attachWorkspace 1 "node-1" w "c-2" "/proc/8/ns/net" (firstIp + 1) {} refusingHost]

theorem oneNode_attachments : oneNode.db.attachments = ∅ :=
  AList.ext (List.isEmpty_iff.mp (by decide +kernel))

/-- The rows that can be `ATTACHED` are those of the table. -/
theorem WiredDb.HasStatus.mem_keys {s : WiredDb} {slot : WorkspaceSlot}
    {st : TopologyAttachmentStatus} (h : s.HasStatus slot st) : slot ∈ s.db.attachments.keys := by
  unfold WiredDb.HasStatus at h
  rw [Option.map_eq_some_iff] at h
  obtain ⟨att, hatt, -⟩ := h
  rw [← AList.mem_keys, ← AList.lookup_isSome, hatt]
  rfl

theorem two_names_apart :
    Along (wireStep sixDigitAdapter fun _ => some {})
        (InterfaceNamesApart sixDigitAdapter fun _ => some {}) { db := oneNode.db }
        (attachBeside240 241) ∧
      Always (wireStep sixDigitAdapter fun _ => some {}) OwnInterfaces { db := oneNode.db }
        (attachBeside240 241) := by
  have halong : Along (wireStep sixDigitAdapter fun _ => some {})
      (InterfaceNamesApart sixDigitAdapter fun _ => some {}) { db := oneNode.db }
      (attachBeside240 241) := by
    refine ⟨trivial, fun _ slot hne _ hst => ?_, trivial, fun _ slot hne _ hst => ?_, trivial⟩
    · have hkeys : (wireStep sixDigitAdapter (fun _ => some {}) { db := oneNode.db }
          (.allocateWorkspaceIp 1 "node-1" 240 true)).db.attachments.keys = [] := by
        decide +kernel
      have hmem := hst.mem_keys
      rw [hkeys] at hmem
      cases hmem
    · have hkeys : (run (wireStep sixDigitAdapter fun _ => some {}) { db := oneNode.db }
          ((attachBeside240 241).take 3)).db.attachments.keys = [slotOf 240] := by decide +kernel
      have hmem := hst.mem_keys
      rw [show slot = slotOf 240 from List.mem_singleton.mp (hkeys ▸ hmem)]
      decide +kernel
  exact ⟨halong, (interfaces_apart_iff sixDigitAdapter (fun _ => some {}) oneNode.db
    oneNode_attachments (attachBeside240 241)).mpr halong⟩

/-- Workspaces 240 and 5021 are both attached with interface `vh31545a`. -/
theorem same_digits_share_interface :
    ¬ ∀ (cfg : AdapterConfig) (specs : Int → Option TopologySpec) (db : TopologyDb),
      db.attachments = ∅ → ∀ steps, Always (wireStep cfg specs) OwnInterfaces { db } steps := by
  intro h
  have hown := (h sixDigitAdapter (fun _ => some {}) oneNode.db oneNode_attachments
    (attachBeside240 5021)).last
  have hboth : ∀ w ∈ [240, 5021], (run (wireStep sixDigitAdapter fun _ => some {})
      { db := oneNode.db } (attachBeside240 5021)).HasStatus (slotOf w) .attached ∧
      (run (wireStep sixDigitAdapter fun _ => some {}) { db := oneNode.db }
        (attachBeside240 5021)).interfaceHost (slotOf w) = some "vh31545a" := by
    unfold WiredDb.HasStatus
    decide +kernel
  obtain ⟨hst, hhost⟩ := hboth 240 (by decide)
  obtain ⟨hst', hhost'⟩ := hboth 5021 (by decide)
  exact hown (slotOf 240) (slotOf 5021) (by decide) rfl hst hst' (hhost.trans hhost'.symm)

end Devnest
