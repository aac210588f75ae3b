import Devnest.Steps
import Devnest.Leases
import Devnest.SsmDocker

/-!
# What a deleted workspace leaves in the topology tables

The worker's tables and the topology tables side by side. A step is a step of
the worker's system or an operation of the topology adapter (the bring-ups
and stops of other jobs are made of those); when the step executes a `DELETE`
job that reaches the orchestrator, the orchestrator's delete acts on the
topology tables and its answer goes back to the job.

The delete detaches one attachment and releases no lease, and the job ends
with the workspace `DELETED` whatever the orchestrator reports.
`delete_releases_network_iff` says when nothing stays behind all the same.
-/

namespace Devnest

open Runs

structure Plant where
  db : Db
  net : TopologyDb

/-- How the engine answers `delete_container`. -/
inductive ContainerDeletion where
  | answered (success : Bool) (message : Option String)
  | containerNotFound
  | adapterError (text : String)
  | otherError (text : String)

/-- What the orchestrator's delete meets outside the database. -/
structure DeleteAnswer where
  inspect : Except String (Option String) := .ok none
  detachLinuxOk : Bool := true
  detachCommitOk : Bool := true
  deleteContainer : ContainerDeletion := .answered true none
  topologyCommitOk : Bool := true
  topologyBridgeOk : Bool := true
  now : Nat := 0

def TopologyError.message : TopologyError → String
  | .runtimeCreate m | .ipAllocation m | .attachment m | .detach m | .delete m => m
  | .runtimeNotFound => "no topology runtime"

def detachOutcome : Except TopologyError Bool → DetachOutcome
  | .ok detached => .done detached
  | .error e => .topologyError e.message

def deleteTopologyOutcome : Except TopologyError Unit → DeleteTopologyOutcome
  | .ok () => .done
  | .error e => .deleteError e.message

/-- `_delete_container_best_effort`, on the engine's answer. -/
def containerBestEffort (ans : ContainerDeletion) (containerId : Option String)
    (issues : List String) : Except String (Bool × List String) :=
  match containerId with
  | none => .ok (false, issues ++ ["runtime:container_id_missing"])
  | some _ =>
      match ans with
      | .answered true _ => .ok (true, issues)
      | .answered false message => .ok (false, issues ++ ["runtime:delete_failed:" ++
          message.getD "delete_container returned success=False"])
      | .containerNotFound => .ok (true, issues)
      | .adapterError e => .ok (false, issues ++ ["runtime:delete_failed:" ++ e])
      | .otherError e => .error ("unexpected delete failure: " ++ e)

section System

variable (cfg : Settings) (acfg : AdapterConfig) (specs : Int → Option TopologySpec)

/-- `delete_workspace_runtime` of the orchestrator for topology `t` and node `n`, with its effect
on the topology tables. -/
def deleteOnNode (ans : DeleteAnswer) (net : TopologyDb) (t : Int) (n : String) (wid : Nat)
    (containerId : Option String) : TopologyDb × Outcome String WorkspaceDeleteResult :=
  if placementStrictEnforced cfg && PyText.stripOr containerId = "" then
    (net, .returned { success := false, containerDeleted := some false
                      issues := ["runtime:authoritative_container_id_required"] })
  else
    match ans.inspect with
    | .error e => (net, .raised ("inspect_container failed: " ++ e))
    | .ok inspected =>
        let containerRef := deleteContainerRef (toString wid) containerId
        let engineId := PyText.stripOrNone (some (inspected.getD containerRef))
        let det := detachWorkspace acfg ans.detachLinuxOk ans.detachCommitOk ans.now net
          ⟨nodeOf t n, wid⟩
        match deleteDetachTopologyBestEffort (detachOutcome det.2) [] with
        | .error e => (det.1, .raised e)
        | .ok (detached, issues) =>
            match containerBestEffort ans.deleteContainer engineId issues with
            | .error e => (det.1, .raised e)
            | .ok (deleted, issues) =>
                let del := deleteTopology acfg ans.topologyCommitOk ans.topologyBridgeOk det.1 t n
                match deleteTopologyRuntimeBestEffort (deleteTopologyOutcome del.2) issues with
                | .error e => (del.1, .raised e)
                | .ok (topologyDeleted, issues) =>
                    (del.1, .returned
                      { success := deleted && detached
                        containerDeleted := some deleted
                        topologyDetached := some detached
                        topologyDeleted := some topologyDeleted
                        containerId := engineId
                        issues := issuesOrNone issues })

/-- The topology and node of the orchestrator that a `DELETE` job calls, if it gets that far. -/
def deleteTarget (entry : EntryPoint) (inp : WorkerInput) (s : Session) : Option (Int × String) :=
  if s.job.jobType ≠ .delete || entry = .runPendingJobs && s.rt.isNone then none
  else
    match resolveOrchestratorPlacement cfg inp.placement s, inp.binding with
    | .ok (nodeKey, t), .bound => some (t, nodeKey)
    | _, _ => none

def WorkerInput.withDelete (inp : WorkerInput) (out : Outcome String WorkspaceDeleteResult) :
    WorkerInput :=
  { inp with orch := { inp.orch with deleteWorkspaceRuntime := out } }

def Step.withDelete (out : Outcome String WorkspaceDeleteResult) : Step → Step
  | .processNextQueuedJob inp jid => .processNextQueuedJob (inp.withDelete out) jid
  | .runQueuedWorkspaceJobById inp jid => .runQueuedWorkspaceJobById (inp.withDelete out) jid
  | st => st

/-- The claimed `DELETE` job of a step and the topology and node of its orchestrator. -/
def Step.deleteCall (db : Db) (st : Step) : Option (Session × Int × String) :=
  (st.execution db).bind fun x => (claimJob x.2.1 x.2.2 db).bind fun s =>
    (deleteTarget cfg x.1 x.2.1 s).map fun target => (s, target)

inductive PlantStep where
  | work (st : Step) (ans : DeleteAnswer)
  | net (op : LeaseOp)

def plantStep (p : Plant) : PlantStep → Plant
  | .net op => { p with net := leaseStep acfg specs p.net op }
  | .work st ans =>
      match st.deleteCall cfg p.db with
      | none => { p with db := step cfg p.db st }
      | some (s, t, n) =>
          let out := deleteOnNode cfg acfg ans p.net t n s.wid (s.rt.bind (·.containerId))
          { db := step cfg p.db (st.withDelete out.2), net := out.1 }

end System

/-! ## The law and its condition -/

/-- No lease of the workspace is active and each of its attachments is detached. -/
def NetReleased (net : TopologyDb) (wid : Nat) : Prop :=
  ∀ slot, slot.workspaceId = wid →
    (∀ lease, net.allocations.lookup slot = some lease → lease.released = true) ∧
    ∀ att, net.attachments.lookup slot = some att → att.status = .detached

/-- Nothing is left, or a cleanup task says so. -/
def NothingLeft (p : Plant) (wid : Nat) : Prop :=
  NetReleased p.net wid ∨ (p.db.tasksOf wid).anyPending = true

/-- The orchestrator's delete gets to its detach of the slot and the detach goes through. -/
def Detaches (cfg : Settings) (acfg : AdapterConfig) (ans : DeleteAnswer) (s : Session)
    (target : Option (Int × String)) (slot : WorkspaceSlot) : Prop :=
  (∃ t n, target = some (t, n) ∧ slot.node = nodeOf t n) ∧
    (placementStrictEnforced cfg = true → PyText.stripOr (s.rt.bind (·.containerId)) ≠ "") ∧
    (acfg.applyLinuxAttachment = true → ans.detachLinuxOk = true) ∧ ans.detachCommitOk = true

/-- Before the job: no lease of the workspace is active, and each attachment that is not detached
is the one that this job detaches; or a cleanup task is pending. -/
def LeavesNothing (cfg : Settings) (acfg : AdapterConfig) (ans : DeleteAnswer) (p : Plant)
    (s : Session) (target : Option (Int × String)) : Prop :=
  (∀ slot, slot.workspaceId = s.wid →
    (∀ lease, p.net.allocations.lookup slot = some lease → lease.released = true) ∧
    ∀ att, p.net.attachments.lookup slot = some att →
      att.status = .detached ∨ Detaches cfg acfg ans s target slot) ∨
  (p.db.tasksOf s.wid).anyPending = true

/-! ## The topology tables -/

theorem lookup_foldr_erase {κ ρ : Type} [DecidableEq κ] (l : List (Sigma fun _ : κ => ρ))
    (t : Table κ ρ) (k : κ) :
    (l.foldr (fun e t => t.erase e.1) t).lookup k =
      if k ∈ l.map Sigma.fst then none else t.lookup k := by
  induction l with
  | nil => simp
  | cons e l ih =>
      rw [List.foldr_cons]
      by_cases hk : k = e.1
      · rw [hk, AList.lookup_erase, if_pos (by simp)]
      · have hmem : k ∈ (e :: l).map Sigma.fst ↔ k ∈ l.map Sigma.fst := by
          rw [List.map_cons, List.mem_cons, or_iff_right hk]
        rw [AList.lookup_erase_ne hk, ih]
        simp only [hmem]

theorem dropAttachments_lookup (net : TopologyDb) (key : TopologyNode) (slot : WorkspaceSlot) :
    (net.dropAttachments key).attachments.lookup slot =
      if slot.node = key then none else net.attachments.lookup slot := by
  rw [TopologyDb.dropAttachments, lookup_foldr_erase]
  by_cases hnode : slot.node = key
  · rw [if_pos hnode]
    split
    next => rfl
    next hmem =>
      by_contra hsome
      obtain ⟨att, hatt⟩ := Option.ne_none_iff_exists'.mp hsome
      apply hmem
      refine List.mem_map.mpr ⟨⟨slot, att⟩, List.mem_filter.mpr ⟨?_, by simpa using hnode⟩, rfl⟩
      exact AList.mem_lookup_iff.mp hatt
  · rw [if_neg hnode, if_neg]
    intro hmem
    obtain ⟨e, he, rfl⟩ := List.mem_map.mp hmem
    exact hnode (by simpa using (List.mem_filter.mp he).2)

/-- Every attachment of the slot is detached. -/
def DetachedAt (net : TopologyDb) (slot : WorkspaceSlot) : Prop :=
  ∀ att, net.attachments.lookup slot = some att → att.status = .detached

theorem detachWorkspace_detachedAt (acfg : AdapterConfig) (linuxOk ok : Bool) (now : Nat)
    (net : TopologyDb) (slot₀ slot : WorkspaceSlot) :
    DetachedAt (detachWorkspace acfg linuxOk ok now net slot₀).1 slot ↔
      ∀ att, net.attachments.lookup slot = some att → att.status = .detached ∨
        slot = slot₀ ∧ (acfg.applyLinuxAttachment = true → linuxOk = true) ∧ ok = true := by
  have hsame : (¬ (slot = slot₀ ∧ (acfg.applyLinuxAttachment = true → linuxOk = true) ∧
      ok = true)) → (DetachedAt net slot ↔ ∀ att, net.attachments.lookup slot = some att →
      att.status = .detached ∨
        slot = slot₀ ∧ (acfg.applyLinuxAttachment = true → linuxOk = true) ∧ ok = true) := by
    intro hno
    simp only [DetachedAt, hno, or_false]
  unfold detachWorkspace
  split
  next hnone =>
    refine ⟨fun h att hatt => .inl (h att hatt), fun h att hatt => ?_⟩
    rcases h att hatt with hd | ⟨rfl, -⟩
    · exact hd
    · rw [hnone] at hatt
      cases hatt
  next att₀ hatt₀ =>
    split
    next hd₀ =>
      refine ⟨fun h att hatt => .inl (h att hatt), fun h att hatt => ?_⟩
      rcases h att hatt with hd | ⟨rfl, -⟩
      · exact hd
      · obtain rfl : att₀ = att := Option.some.inj (hatt₀.symm.trans hatt)
        exact hd₀
    next =>
      split
      next hlinux =>
        refine hsame fun ⟨_, himp, _⟩ => ?_
        simp only [Bool.and_eq_true, Bool.not_eq_true'] at hlinux
        rw [himp hlinux.1] at hlinux
        cases hlinux.2
      next hlinux =>
        split
        next hok =>
          refine hsame fun ⟨_, _, hok'⟩ => ?_
          rw [hok'] at hok
          cases hok
        next hok =>
          have hgoes : (acfg.applyLinuxAttachment = true → linuxOk = true) ∧ ok = true := by
            refine ⟨fun hl => ?_, by simpa using hok⟩
            simpa [hl] using hlinux
          by_cases hslot : slot = slot₀
          · subst hslot
            refine ⟨fun _ att _ => .inr ⟨rfl, hgoes⟩, fun _ att hatt => ?_⟩
            simp only [TopologyDb.setAttachment, Table.lookup_insert_eq, if_true,
              Option.some.injEq] at hatt
            rw [← hatt]
          · have hlook : ∀ att, (net.setAttachment slot₀ att).attachments.lookup slot =
                net.attachments.lookup slot := by
              intro att
              simp only [TopologyDb.setAttachment, Table.lookup_insert_eq, if_neg hslot]
            simp only [DetachedAt, hlook, hslot, false_and, or_false]

/-- Only detached attachments are dropped with a runtime row. -/
theorem deleteTopology_detachedAt (acfg : AdapterConfig) (ok bridgeOk : Bool) (net : TopologyDb)
    (t : Int) (n : String) (slot : WorkspaceSlot) :
    DetachedAt (deleteTopology acfg ok bridgeOk net t n).1 slot ↔ DetachedAt net slot := by
  have hcommit : ∀ id, hasBlockingAttachment net (nodeOf t n) = false →
      (DetachedAt (commitDelete net (nodeOf t n) id) slot ↔ DetachedAt net slot) := by
    intro id hfree
    have hlook : (commitDelete net (nodeOf t n) id).attachments.lookup slot =
        if slot.node = nodeOf t n then none else net.attachments.lookup slot := by
      rw [← dropAttachments_lookup]
      simp only [commitDelete]
      split <;> rfl
    rw [DetachedAt, hlook]
    split
    next hnode =>
      refine iff_of_true (fun att hatt => by cases hatt) fun att hatt => ?_
      have hno := List.any_eq_false.mp hfree ⟨slot, att⟩ (AList.mem_lookup_iff.mp hatt)
      simpa [hnode] using hno
    next => rfl
  unfold deleteTopology deleteNode
  split
  next => rfl
  next =>
    split
    next => rfl
    next hfree =>
      have hfree' := Bool.eq_false_iff.mpr hfree
      split
      next =>
        dsimp only
        split
        · exact hcommit none hfree'
        · rfl
      next row hrow =>
        split
        next => rfl
        next =>
          dsimp only
          split <;> exact hcommit _ hfree'

theorem deleteTopology_allocations (acfg : AdapterConfig) (ok bridgeOk : Bool) (net : TopologyDb)
    (t : Int) (n : String) :
    (deleteTopology acfg ok bridgeOk net t n).1.allocations = net.allocations := by
  have hcommit : ∀ id, (commitDelete net (nodeOf t n) id).allocations = net.allocations := by
    intro id
    simp only [commitDelete]
    split <;> rfl
  unfold deleteTopology deleteNode
  split
  · rfl
  · split
    · rfl
    · split
      · dsimp only
        split
        · exact hcommit none
        · rfl
      · split
        · rfl
        · dsimp only
          split <;> exact hcommit _

/-- A delete that returns stopped at the missing container id, or went on to its end. -/
theorem deleteOnNode_returned {cfg : Settings} {acfg : AdapterConfig} {ans : DeleteAnswer}
    {net : TopologyDb} {t : Int} {n : String} {wid : Nat} {cid : Option String}
    {res : WorkspaceDeleteResult}
    (h : (deleteOnNode cfg acfg ans net t n wid cid).2 = .returned res) :
    (placementStrictEnforced cfg = true ∧ PyText.stripOr cid = "") ∧
        (deleteOnNode cfg acfg ans net t n wid cid).1 = net ∨
      (placementStrictEnforced cfg = true → PyText.stripOr cid ≠ "") ∧
        (deleteOnNode cfg acfg ans net t n wid cid).1 =
          (deleteTopology acfg ans.topologyCommitOk ans.topologyBridgeOk
            (detachWorkspace acfg ans.detachLinuxOk ans.detachCommitOk ans.now net
              ⟨nodeOf t n, wid⟩).1 t n).1 := by
  generalize hout : deleteOnNode cfg acfg ans net t n wid cid = out at h ⊢
  unfold deleteOnNode at hout
  split at hout
  next hearly =>
    subst hout
    exact .inl ⟨by simpa using hearly, rfl⟩
  next hearly =>
    have hcid : placementStrictEnforced cfg = true → PyText.stripOr cid ≠ "" := by
      intro hstrict hblank
      exact hearly (by simp [hstrict, hblank])
    split at hout
    next =>
      subst hout
      cases h
    next =>
      dsimp only at hout
      split at hout
      next =>
        subst hout
        cases h
      next =>
        split at hout
        next =>
          subst hout
          cases h
        next =>
          split at hout
          next =>
            subst hout
            cases h
          next =>
            subst hout
            exact .inr ⟨hcid, rfl⟩

/-- What a returned delete leaves of the workspace. -/
theorem deleteOnNode_released_iff {cfg : Settings} {acfg : AdapterConfig} {ans : DeleteAnswer}
    {net : TopologyDb} {t : Int} {n : String} {s : Session} {res : WorkspaceDeleteResult}
    (h : (deleteOnNode cfg acfg ans net t n s.wid (s.rt.bind (·.containerId))).2 = .returned res) :
    NetReleased (deleteOnNode cfg acfg ans net t n s.wid (s.rt.bind (·.containerId))).1 s.wid ↔
      ∀ slot, slot.workspaceId = s.wid →
        (∀ lease, net.allocations.lookup slot = some lease → lease.released = true) ∧
        ∀ att, net.attachments.lookup slot = some att →
          att.status = .detached ∨ Detaches cfg acfg ans s (some (t, n)) slot := by
  have hslot : ∀ slot : WorkspaceSlot, slot.workspaceId = s.wid →
      (slot = ⟨nodeOf t n, s.wid⟩ ↔ slot.node = nodeOf t n) := by
    rintro ⟨node, w⟩ hw
    cases hw
    simp
  rcases deleteOnNode_returned h with ⟨⟨hstrict, hblank⟩, heq⟩ | ⟨hcid, heq⟩
  · have hno : ∀ slot, ¬ Detaches cfg acfg ans s (some (t, n)) slot := by
      rintro slot ⟨-, hcid, -⟩
      exact hcid hstrict hblank
    rw [heq]
    simp only [hno, or_false]
    rfl
  · rw [heq]
    unfold NetReleased
    refine forall_congr' fun slot => forall_congr' fun hw => and_congr ?_ ?_
    · rw [deleteTopology_allocations, (detachWorkspace_same acfg _ _ _ net _).allocations]
    · refine (deleteTopology_detachedAt acfg _ _ _ t n slot).trans ?_
      refine (detachWorkspace_detachedAt acfg _ _ _ net _ slot).trans ?_
      refine forall_congr' fun att => forall_congr' fun _ => or_congr_right ?_
      rw [hslot slot hw]
      constructor
      · rintro ⟨hnode, hgoes⟩
        exact ⟨⟨t, n, rfl, hnode⟩, hcid, hgoes⟩
      · rintro ⟨⟨t', n', heq, hnode⟩, -, hgoes⟩
        cases heq
        exact ⟨hnode, hgoes⟩

/-! ## The job -/

theorem step_of_execution {cfg : Settings} {db : Db} {st : Step} {entry : EntryPoint}
    {inp : WorkerInput} {jid : Nat} (h : st.execution db = some (entry, inp, jid)) :
    step cfg db st = runJob cfg entry inp jid db := by
  cases st with
  | processNextQueuedJob inp' jid' =>
      simp only [Step.execution] at h
      split at h
      next hold =>
        cases h
        simp only [step, if_pos hold]
      next => cases h
  | runQueuedWorkspaceJobById inp' jid' =>
      cases h
      rfl
  | _ => cases h

theorem execution_withDelete {db : Db} {st : Step} {entry : EntryPoint} {inp : WorkerInput}
    {jid : Nat} (h : st.execution db = some (entry, inp, jid))
    (out : Outcome String WorkspaceDeleteResult) :
    (st.withDelete out).execution db = some (entry, inp.withDelete out, jid) := by
  cases st with
  | processNextQueuedJob inp' jid' =>
      simp only [Step.execution] at h
      split at h
      next hold =>
        cases h
        have hold' : isOldestQueued (inp.withDelete out).clk db jid = true := hold
        simp only [Step.withDelete, Step.execution, if_pos hold']
      next => cases h
  | runQueuedWorkspaceJobById inp' jid' =>
      cases h
      rfl
  | _ => cases h

/-- A `DELETE` job that succeeds took the shortcut or got a result from the orchestrator, and
left the cleanup tasks alone. -/
theorem delete_succeeded {cfg : Settings} {entry : EntryPoint} {inp : WorkerInput} {s : Session}
    (hjt : s.job.jobType = .delete) (hc : (executeClaimedJob cfg inp entry s).committed = true)
    (hst : (executeClaimedJob cfg inp entry s).session.job.status = .succeeded) :
    (executeClaimedJob cfg inp entry s).session.wid = s.wid ∧
    (executeClaimedJob cfg inp entry s).session.tasks = s.tasks ∧
    (deleteTarget cfg entry inp s = none ∨
      ∃ target res, deleteTarget cfg entry inp s = some target ∧
        inp.orch.deleteWorkspaceRuntime = .returned res) := by
  have hfails : ∀ {s'}, Fails s s' → s'.job.status ≠ .succeeded := by
    rintro s' (⟨hq, -⟩ | ⟨hf, -⟩) hst
    · rw [hq] at hst
      cases hst
    · rw [hf] at hst
      cases hst
  have hbegin : beginCreateBringupAfterPlacement s = s := by
    simp [beginCreateBringupAfterPlacement, hjt]
  have hrepo : s.job.jobType ≠ .repoImport := by
    rw [hjt]
    decide
  unfold executeClaimedJob at hc hst ⊢
  by_cases hshort : (entry = .runPendingJobs && s.job.jobType = .delete && s.rt.isNone) = true
  · rw [if_pos hshort]
    refine ⟨rfl, rfl, .inl ?_⟩
    simp only [Bool.and_eq_true, decide_eq_true_eq] at hshort
    simp [deleteTarget, hshort.1.1, hshort.2]
  · rw [if_neg hshort] at hc hst ⊢
    unfold placeAndProcess at hc hst ⊢
    cases hp : resolveOrchestratorPlacement cfg inp.placement s with
    | error e =>
        simp only [hp] at hst
        exact absurd hst (hfails (failJobFromPlacement_fails cfg inp s e).2)
    | ok place =>
        obtain ⟨nodeKey, t⟩ := place
        simp only [hp, if_neg hrepo] at hc hst ⊢
        cases hb : inp.binding with
        | crashed =>
            simp only [hb] at hc
            cases hc
        | failed m =>
            simp only [hb] at hst
            exact absurd hst (hfails (failJobFromOrchestratorBinding_fails cfg inp s m).2)
        | bound =>
            simp only [hb, hbegin] at hc hst ⊢
            have htarget : deleteTarget cfg entry inp s = some (t, nodeKey) := by
              have hno : ¬ (s.job.jobType ≠ .delete || entry = .runPendingJobs && s.rt.isNone) =
                  true := by simpa [hjt] using hshort
              rw [deleteTarget, if_neg hno]
              simp only [hp, hb]
            unfold processClaimedRunningJob executeJobBody at hc hst ⊢
            simp only [hjt] at hc hst ⊢
            cases hout : inp.orch.deleteWorkspaceRuntime with
            | crashed =>
                simp only [hout] at hc
                cases hc
            | raised e =>
                simp only [hout] at hst
                have hsnap : s.job.jobType.isSnapshot = false := by
                  rw [hjt]
                  rfl
                have hspec := handleOrchestratorException_spec cfg inp s (some nodeKey) (.delete e)
                exact absurd hst (hfails (hspec.2.1 hsnap))
            | returned res => exact ⟨rfl, rfl, .inr ⟨(t, nodeKey), res, htarget, rfl⟩⟩

/-- The job row says succeeded and the workspace row deleted. -/
def EndsDeleted (p : Plant) (jid wid : Nat) : Prop :=
  ∃ job ws, p.db.jobs.lookup jid = some job ∧ job.status = .succeeded ∧
    p.db.workspaces.lookup wid = some ws ∧ ws.status = .deleted

/-- A job that ends succeeded was committed, with the cleanup tasks it had. -/
theorem runJob_delete_succeeded {cfg : Settings} {entry : EntryPoint} {inp : WorkerInput}
    {jid : Nat} {db : Db} {s : Session} (hs : claimJob inp jid db = some s)
    (hjt : s.job.jobType = .delete) {job : WorkspaceJob}
    (hjob : (runJob cfg entry inp jid db).jobs.lookup jid = some job)
    (hst : job.status = .succeeded) :
    (runJob cfg entry inp jid db).tasksOf s.wid = db.tasksOf s.wid ∧
    (deleteTarget cfg entry inp s = none ∨
      ∃ target res, deleteTarget cfg entry inp s = some target ∧
        inp.orch.deleteWorkspaceRuntime = .returned res) := by
  have hclaimed := claimJob_claimed hs
  rw [runJob_of_claim hs] at hjob ⊢
  cases hc : (executeClaimedJob cfg inp entry s).committed with
  | false =>
      simp only [hc, Bool.false_eq_true, if_false] at hjob
      obtain ⟨j, hj, -, hq⟩ := hclaimed.job
      have hjob' : db.jobs.lookup jid = some job := hjob
      rw [hj] at hjob'
      cases hjob'
      rw [hq] at hst
      cases hst
  | true =>
      simp only [hc, if_true, commit_jobs, Table.lookup_insert_eq, Option.some.injEq] at hjob ⊢
      rw [← hjob] at hst
      obtain ⟨hwid, htasks, hway⟩ := delete_succeeded hjt hc hst
      refine ⟨?_, hway⟩
      rw [commit_tasksOf, hwid, if_pos rfl, htasks, hclaimed.tasks]

/-- **Exactly when a deleted workspace leaves nothing**: no lease of it was active, and each of
its attachments was detached already or is the one that the orchestrator's delete detaches; or a
cleanup task was pending before. -/
theorem delete_releases_network_iff (cfg : Settings) (acfg : AdapterConfig)
    (specs : Int → Option TopologySpec) (p : Plant) (st : Step) (ans : DeleteAnswer)
    {entry : EntryPoint} {inp : WorkerInput} {jid : Nat} {s : Session}
    (hex : st.execution p.db = some (entry, inp, jid)) (hs : claimJob inp jid p.db = some s)
    (hjt : s.job.jobType = .delete)
    (hend : EndsDeleted (plantStep cfg acfg specs p (.work st ans)) jid s.wid) :
    NothingLeft (plantStep cfg acfg specs p (.work st ans)) s.wid ↔
      LeavesNothing cfg acfg ans p s (deleteTarget cfg entry inp s) := by
  obtain ⟨job, ws, hjob, hst, -⟩ := hend
  have hcall : st.deleteCall cfg p.db = (deleteTarget cfg entry inp s).map fun x => (s, x) := by
    simp only [Step.deleteCall, hex, hs, Option.bind_some]
  simp only [plantStep, hcall] at hjob ⊢
  cases htarget : deleteTarget cfg entry inp s with
  | none =>
      simp only [htarget, Option.map_none] at hjob ⊢
      rw [step_of_execution hex] at hjob
      have htasks := (runJob_delete_succeeded hs hjt hjob hst).1
      have hno : ∀ slot, ¬ Detaches cfg acfg ans s none slot := by
        rintro slot ⟨⟨t, n, heq, -⟩, -⟩
        cases heq
      simp only [NothingLeft, LeavesNothing, NetReleased, hno, or_false, step_of_execution hex,
        htasks]
  | some target =>
      obtain ⟨t, n⟩ := target
      simp only [htarget, Option.map_some] at hjob ⊢
      have hex' := execution_withDelete hex
        (deleteOnNode cfg acfg ans p.net t n s.wid (s.rt.bind (·.containerId))).2
      rw [step_of_execution hex'] at hjob
      have hs' : claimJob (inp.withDelete
          (deleteOnNode cfg acfg ans p.net t n s.wid (s.rt.bind (·.containerId))).2) jid p.db =
          some s := hs
      obtain ⟨htasks, hnone | ⟨_, res, -, hres⟩⟩ := runJob_delete_succeeded hs' hjt hjob hst
      · have hnone' : deleteTarget cfg entry inp s = none := hnone
        rw [htarget] at hnone'
        cases hnone'
      · simp only [NothingLeft, LeavesNothing, step_of_execution hex', htasks]
        exact or_congr_left (deleteOnNode_released_iff hres)

/-- One workspace, created and brought up on its node, with the topology calls of the bring-up. -/
def broughtUp : List PlantStep :=
  [.work (.createWorkspace { now := 0 } 7 "a" {}) {},
   .net (.ensureNodeTopology 1 "node-1" {}), .net (.allocateWorkspaceIp 1 "node-1" 1 true),
   .net (.attachWorkspace 1 "node-1" 1 "c1" firstIp {}),
   .work (.processNextQueuedJob (sampleWorker 1 sampleOrch) 1) {}]

/-- A stop that gives the address back, as a rollback or a reconcile does. -/
def givenBack : List PlantStep :=
  [.net (.detachWorkspace 1 "node-1" 1 true true 2),
   .net (.releaseWorkspaceIpLease 1 "node-1" 1 true)]

def deleteAsked : PlantStep := .work (.requestDeleteWorkspace { now := 3 } 1 7 7) {}

def deleteJobStep : Step := .processNextQueuedJob (sampleWorker 4 sampleOrch) 2

def plantAfter (steps : List PlantStep) : Plant :=
  run (plantStep {} dbOnlyAdapter fun _ => some {}) ⟨sampleDb, emptyTopologyDb⟩ steps

theorem endsDeleted_of_rows {p : Plant} {jid wid : Nat}
    (hjob : (p.db.jobs.lookup jid).map WorkspaceJob.status = some .succeeded)
    (hws : (p.db.workspaces.lookup wid).map Workspace.status = some .deleted) :
    EndsDeleted p jid wid := by
  obtain ⟨job, hjob, hst⟩ := Option.map_eq_some_iff.mp hjob
  obtain ⟨ws, hws, hgone⟩ := Option.map_eq_some_iff.mp hws
  exact ⟨job, ws, hjob, hst, hws, hgone⟩

theorem released_workspace_leaves_nothing :
    EndsDeleted (plantAfter (broughtUp ++ givenBack ++ [deleteAsked, .work deleteJobStep {}])) 2 1 ∧
      NothingLeft (plantAfter (broughtUp ++ givenBack ++ [deleteAsked, .work deleteJobStep {}]))
        1 := by
  have hlast : plantAfter (broughtUp ++ givenBack ++ [deleteAsked, .work deleteJobStep {}]) =
      plantStep {} dbOnlyAdapter (fun _ => some {})
        (plantAfter (broughtUp ++ givenBack ++ [deleteAsked])) (.work deleteJobStep {}) := by
    simp only [plantAfter, run_append, run_cons, run_nil]
  have hend : EndsDeleted
      (plantAfter (broughtUp ++ givenBack ++ [deleteAsked, .work deleteJobStep {}])) 2 1 :=
    endsDeleted_of_rows (by decide +kernel) (by decide +kernel)
  refine ⟨hend, ?_⟩
  rw [hlast] at hend ⊢
  have hold : isOldestQueued (sampleWorker 4 sampleOrch).clk
      (plantAfter (broughtUp ++ givenBack ++ [deleteAsked])).db 2 = true := by decide +kernel
  have hex : deleteJobStep.execution (plantAfter (broughtUp ++ givenBack ++ [deleteAsked])).db =
      some (.runPendingJobs, sampleWorker 4 sampleOrch, 2) := by
    simp only [deleteJobStep, Step.execution, if_pos hold]
  have hclaim : (claimJob (sampleWorker 4 sampleOrch) 2
      (plantAfter (broughtUp ++ givenBack ++ [deleteAsked])).db).map
        (fun s => (s.job.jobType, s.wid)) = some (.delete, 1) := by decide +kernel
  obtain ⟨s, hs, hfields⟩ := Option.map_eq_some_iff.mp hclaim
  obtain ⟨hjt, hwid⟩ := Prod.mk.inj hfields
  have hleases : ((plantAfter (broughtUp ++ givenBack ++ [deleteAsked])).net.allocations.entries.all
      fun e => e.2.released) = true := by decide +kernel
  have hatts : ((plantAfter (broughtUp ++ givenBack ++ [deleteAsked])).net.attachments.entries.all
      fun e => e.2.status == .detached) = true := by decide +kernel
  rw [← hwid] at hend ⊢
  refine (delete_releases_network_iff {} dbOnlyAdapter (fun _ => some {}) _ deleteJobStep {} hex hs
    hjt hend).mpr (.inl fun slot _ => ⟨fun lease hlease => ?_, fun att hatt => .inl ?_⟩)
  · exact List.all_eq_true.mp hleases ⟨slot, lease⟩ (AList.mem_lookup_iff.mp hlease)
  · simpa using List.all_eq_true.mp hatts ⟨slot, att⟩ (AList.mem_lookup_iff.mp hatt)

/-- A plain delete: the engine and the topology do all they are asked to. -/
theorem deleted_workspace_keeps_lease :
    EndsDeleted (plantAfter (broughtUp ++ [deleteAsked, .work deleteJobStep {}])) 2 1 ∧
      ¬ NothingLeft (plantAfter (broughtUp ++ [deleteAsked, .work deleteJobStep {}])) 1 := by
  refine ⟨endsDeleted_of_rows (by decide +kernel) (by decide +kernel), ?_⟩
  have hlease : (plantAfter (broughtUp ++ [deleteAsked, .work deleteJobStep {}])).net.allocations.lookup
      ⟨⟨1, "node-1"⟩, 1⟩ = some ⟨firstIp, false⟩ := by decide +kernel
  have htasks : ((plantAfter (broughtUp ++
      [deleteAsked, .work deleteJobStep {}])).db.tasksOf 1).anyPending = false := by decide +kernel
  rintro (h | h)
  · exact absurd ((h _ rfl).1 _ hlease) (by decide)
  · rw [htasks] at h
    cases h

end Devnest
