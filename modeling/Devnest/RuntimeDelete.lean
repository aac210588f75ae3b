import Devnest.ContainerEngine
import Devnest.DeletedNetwork

/-!
# When a delete calls itself a success

`delete_workspace_runtime` on the engine and the topology tables of a node,
where the calls to both come back. The container is a success when it is not
there any more; the topology only when `detach_workspace` has just detached a
row. A stop reads the same flag the other way: no row to detach is fine.
-/

namespace Devnest

open PyText

/-! ## The delete on a node -/

structure NodeWorld where
  engine : DockerEngine
  net : TopologyDb

/-- What one delete meets. -/
structure RuntimeDeleteAnswers where
  inspectError : Option String := none
  detachLinuxOk : Bool := true
  detachCommitOk : Bool := true
  /-- Somebody else removes the container between the inspection and the removal. -/
  removedMeanwhile : Bool := false
  /-- `APIError` of the stop and of the removal. -/
  stopError : Option String := none
  removeError : Option String := none
  topologyCommitOk : Bool := true
  topologyBridgeOk : Bool := true
  now : Nat := 0

/-- `DockerRuntimeAdapter.delete_container`: whether the container is gone afterwards. -/
def DockerRuntimeAdapter.removeContainer (e : DockerEngine) (ans : RuntimeDeleteAnswers)
    (ref : String) : DockerEngine × Except String Bool :=
  match e.get ref with
  | none => (e, .ok true)
  | some (i, c) =>
      if ans.removedMeanwhile then (e.remove i, .ok true)
      else
        match (if containerStateNeedsEngineStop c.state then ans.stopError else none) with
        | some m => (e, .error m)
        | none =>
            let stopped := if containerStateNeedsEngineStop c.state then e.setState i .exited else e
            match ans.removeError with
            | some m => (stopped, .error m)
            | none => (stopped.remove i, .ok ((stopped.remove i).get ref).isNone)

def removalAnswer : Except String Bool → ContainerDeletion
  | .ok true => .answered true none
  | .ok false => .answered false (some "container still exists after delete")
  | .error m => .adapterError m

/-- The container of a delete: the engine's id, or the reference if it knows none. -/
def deletedContainer (e : DockerEngine) (wid : Nat) (containerId : Option String) : String :=
  let ref := deleteContainerRef (toString wid) containerId
  strip (((e.get ref).map (·.1)).getD ref)

section Delete

variable (cfg : Settings) (acfg : AdapterConfig)

/-- `delete_workspace_runtime` of the orchestrator for topology `t` and node `n`. -/
def deleteWorkspaceOn (ans : RuntimeDeleteAnswers) (w : NodeWorld) (t : Int) (n : String)
    (wid : Nat) (containerId : Option String) : NodeWorld × Outcome String WorkspaceDeleteResult :=
  let found := w.engine.get (deleteContainerRef (toString wid) containerId)
  let removal := DockerRuntimeAdapter.removeContainer w.engine ans
    (deletedContainer w.engine wid containerId)
  let out := deleteOnNode cfg acfg
    { inspect := match ans.inspectError with
        | some m => .error m
        | none => .ok (found.map (·.1))
      detachLinuxOk := ans.detachLinuxOk
      detachCommitOk := ans.detachCommitOk
      deleteContainer := removalAnswer removal.2
      topologyCommitOk := ans.topologyCommitOk
      topologyBridgeOk := ans.topologyBridgeOk
      now := ans.now } w.net t n wid containerId
  let reached := !(placementStrictEnforced cfg && stripOr containerId = "") &&
    ans.inspectError.isNone
  ({ engine := if reached then removal.1 else w.engine, net := out.1 }, out.2)

/-- The inspection, the detach and the removal of the container come back. -/
structure CallsReturn (ans : RuntimeDeleteAnswers) (w : NodeWorld) (t : Int) (n : String)
    (wid : Nat) (containerId : Option String) : Prop where
  inspect : ans.inspectError = none
  detach : ∃ detached, (detachWorkspace acfg ans.detachLinuxOk ans.detachCommitOk ans.now w.net
    ⟨nodeOf t n, wid⟩).2 = .ok detached
  remove : ∃ gone, (DockerRuntimeAdapter.removeContainer w.engine ans
    (deletedContainer w.engine wid containerId)).2 = .ok gone

end Delete

/-- The workspace has no attachment row in a status other than `DETACHED`. -/
def AllDetached (net : TopologyDb) (wid : Nat) : Prop :=
  ∀ slot, slot.workspaceId = wid → DetachedAt net slot

/-- The container is gone and the workspace is detached everywhere. -/
def RuntimeGone (w : NodeWorld) (container : String) (wid : Nat) : Prop :=
  w.engine.get container = none ∧ AllDetached w.net wid

/-- Another container bears the id of this one as its name, so the engine goes on finding one. -/
def IdIsTaken (e : DockerEngine) (container : String) : Prop :=
  (e.containers.lookup container).isSome ∧
    ∃ j d, e.containers.lookup j = some d ∧ j ≠ container ∧ d.name = container

/-! ## The container -/

theorem get_eq_none_iff {e : DockerEngine} {ref : String} :
    e.get ref = none ↔ e.containers.lookup ref = none ∧
      ∀ j d, e.containers.lookup j = some d → d.name ≠ ref := by
  constructor
  · intro h
    have hlook : e.containers.lookup ref = none := by
      by_contra hne
      obtain ⟨c, hc⟩ := Option.ne_none_iff_exists'.mp hne
      rw [DockerEngine.get_of_lookup hc] at h
      cases h
    refine ⟨hlook, fun j d hd hname => ?_⟩
    rw [DockerEngine.get_eq_some_iff.mpr ⟨hd, .inr ⟨hlook, hname⟩⟩] at h
    cases h
  · rintro ⟨hlook, hname⟩
    by_contra hne
    obtain ⟨⟨i, c⟩, hi⟩ := Option.ne_none_iff_exists'.mp hne
    obtain ⟨hc, rfl | ⟨-, hn⟩⟩ := DockerEngine.get_eq_some_iff.mp hi
    · rw [hlook] at hc
      cases hc
    · exact hname i c hc hn

/-- Without the container, its id finds nothing unless it is taken. -/
theorem get_removed_iff {e e' : DockerEngine} {i : String} {c : WorkspaceContainer}
    (hc : e.containers.lookup i = some c)
    (hlook : ∀ j, e'.containers.lookup j = if j = i then none else e.containers.lookup j) :
    e'.get i = none ↔ ¬ IdIsTaken e i := by
  rw [get_eq_none_iff, hlook, if_pos rfl]
  constructor
  · rintro ⟨-, hname⟩ ⟨-, j, d, hd, hji, hj⟩
    exact hname j d ((hlook j).trans ((if_neg hji).trans hd)) hj
  · intro hfree
    refine ⟨rfl, fun j d hd hname => ?_⟩
    rw [hlook] at hd
    split at hd
    · cases hd
    next hji => exact hfree ⟨by rw [hc]; rfl, j, d, hd, hji, hname⟩

theorem lookup_remove (e : DockerEngine) (i j : String) :
    (e.remove i).containers.lookup j = if j = i then none else e.containers.lookup j := by
  by_cases hj : j = i
  · rw [if_pos hj, hj]
    exact AList.lookup_erase i e.containers
  · rw [if_neg hj]
    exact AList.lookup_erase_ne hj

theorem lookup_setState_ne (e : DockerEngine) {i j : String} (st : EngineState) (hj : j ≠ i) :
    (e.setState i st).containers.lookup j = e.containers.lookup j := by
  unfold DockerEngine.setState
  dsimp only
  split
  · rw [Table.lookup_insert_eq, if_neg hj]
  · rfl

theorem not_taken_of_get_none {e : DockerEngine} {ref : String} (h : e.get ref = none) :
    ¬ IdIsTaken e ref := by
  rintro ⟨hsome, -⟩
  rw [(get_eq_none_iff.mp h).1] at hsome
  cases hsome

/-- **The removal** that comes back leaves nothing under the id unless it is taken, and reports
nothing else. -/
theorem removeContainer_ok {e : DockerEngine} {ans : RuntimeDeleteAnswers} {ref : String}
    {gone : Bool} (hid : ∀ i c, e.get ref = some (i, c) → i = ref)
    (h : (DockerRuntimeAdapter.removeContainer e ans ref).2 = .ok gone) :
    ((DockerRuntimeAdapter.removeContainer e ans ref).1.get ref = none ↔ ¬ IdIsTaken e ref) ∧
      (¬ IdIsTaken e ref → gone = true) := by
  unfold DockerRuntimeAdapter.removeContainer at h ⊢
  cases hget : e.get ref with
  | none =>
      rw [hget] at h
      exact ⟨iff_of_true hget (not_taken_of_get_none hget), fun _ => (Except.ok.inj h).symm⟩
  | some x =>
      obtain ⟨i, c⟩ := x
      obtain rfl := hid i c hget
      have hc := DockerEngine.lookup_of_get hget
      rw [hget] at h
      dsimp only at h ⊢
      cases hmean : ans.removedMeanwhile with
      | true =>
          rw [hmean, if_pos rfl] at h
          exact ⟨get_removed_iff hc (lookup_remove e i), fun _ => (Except.ok.inj h).symm⟩
      | false =>
          rw [hmean, if_neg (by simp)] at h
          rw [if_neg (by simp)]
          generalize (if containerStateNeedsEngineStop c.state then ans.stopError else none) =
            stopError at h ⊢
          cases stopError with
          | some m => cases h
          | none =>
              dsimp only at h ⊢
              have hstopped : ∀ j, (((if containerStateNeedsEngineStop c.state then
                  e.setState i .exited else e).remove i).containers.lookup j) =
                    if j = i then none else e.containers.lookup j := by
                intro j
                rw [lookup_remove]
                by_cases hj : j = i
                · rw [if_pos hj, if_pos hj]
                · rw [if_neg hj, if_neg hj]
                  split
                  · exact lookup_setState_ne e _ hj
                  · rfl
              have hgone := get_removed_iff hc hstopped
              cases hremove : ans.removeError with
              | some m =>
                  rw [hremove] at h
                  cases h
              | none =>
                  rw [hremove] at h
                  refine ⟨hgone, fun hfree => ?_⟩
                  rw [← Except.ok.inj h, hgone.mpr hfree]
                  rfl

/-- The id of a delete: not blank, trimmed, and that of the container it finds. -/
theorem deletedContainer_spec (e : DockerEngine) (wid : Nat) (containerId : Option String) :
    stripOrNone (some (((e.get (deleteContainerRef (toString wid) containerId)).map (·.1)).getD
        (deleteContainerRef (toString wid) containerId))) =
          some (deletedContainer e wid containerId) ∧
      ∀ i c, e.get (deletedContainer e wid containerId) = some (i, c) →
        i = deletedContainer e wid containerId := by
  obtain ⟨hne, hstrip⟩ := deleteContainerRef_trimmed (toString wid) containerId
  unfold deletedContainer stripOrNone stripOr
  dsimp only
  cases hget : e.get (deleteContainerRef (toString wid) containerId) with
  | none =>
      rw [Option.map_none, Option.getD_none, Option.getD_some, hstrip, if_neg hne]
      refine ⟨rfl, fun i c h => ?_⟩
      rw [hget] at h
      cases h
  | some x =>
      obtain ⟨j, d⟩ := x
      obtain ⟨hj, htrim⟩ := e.id_trimmed (DockerEngine.lookup_of_get hget)
      rw [Option.map_some, Option.getD_some, Option.getD_some, htrim, if_neg hj]
      refine ⟨rfl, fun i c h => ?_⟩
      rw [DockerEngine.get_of_lookup (DockerEngine.lookup_of_get hget)] at h
      exact (Prod.mk.inj (Option.some.inj h)).1.symm

/-! ## The delete -/

section Delete

variable {cfg : Settings} {acfg : AdapterConfig} {ans : RuntimeDeleteAnswers} {w : NodeWorld}
  {t : Int} {n : String} {wid : Nat} {containerId : Option String}

theorem containerBestEffort_removal (gone : Bool) (id : String) :
    ∃ issues, containerBestEffort (removalAnswer (.ok gone)) (some id) [] =
      .ok (gone, issues) := by
  cases gone with
  | true => exact ⟨_, rfl⟩
  | false => exact ⟨_, rfl⟩

theorem deleteTopologyRuntime_returns (r : Except TopologyError Unit) (issues : List String) :
    ∃ x, deleteTopologyRuntimeBestEffort (deleteTopologyOutcome r) issues = .ok x := by
  cases r with
  | ok u => exact ⟨_, rfl⟩
  | error e => exact ⟨_, rfl⟩

/-- Where the calls come back, so does the delete, and its success is that of both. -/
theorem deleteWorkspaceOn_returns
    (hcid : placementStrictEnforced cfg = true → stripOr containerId ≠ "")
    {detached gone : Bool} (hinspect : ans.inspectError = none)
    (hdetach : (detachWorkspace acfg ans.detachLinuxOk ans.detachCommitOk ans.now w.net
      ⟨nodeOf t n, wid⟩).2 = .ok detached)
    (hremove : (DockerRuntimeAdapter.removeContainer w.engine ans
      (deletedContainer w.engine wid containerId)).2 = .ok gone) :
    (deleteWorkspaceOn cfg acfg ans w t n wid containerId).1.engine =
        (DockerRuntimeAdapter.removeContainer w.engine ans
          (deletedContainer w.engine wid containerId)).1 ∧
      (deleteWorkspaceOn cfg acfg ans w t n wid containerId).1.net =
        (deleteTopology acfg ans.topologyCommitOk ans.topologyBridgeOk
          (detachWorkspace acfg ans.detachLinuxOk ans.detachCommitOk ans.now w.net
            ⟨nodeOf t n, wid⟩).1 t n).1 ∧
      ∃ res, (deleteWorkspaceOn cfg acfg ans w t n wid containerId).2 = .returned res ∧
        res.success = (gone && detached) := by
  have hearly : (placementStrictEnforced cfg && stripOr containerId = "") = false := by
    cases hstrict : placementStrictEnforced cfg with
    | false => rfl
    | true => simpa using hcid hstrict
  obtain ⟨issues, hissues⟩ :=
    containerBestEffort_removal gone (deletedContainer w.engine wid containerId)
  obtain ⟨x, hx⟩ := deleteTopologyRuntime_returns (deleteTopology acfg ans.topologyCommitOk
    ans.topologyBridgeOk (detachWorkspace acfg ans.detachLinuxOk ans.detachCommitOk ans.now w.net
      ⟨nodeOf t n, wid⟩).1 t n).2 issues
  unfold deleteWorkspaceOn
  dsimp only
  rw [hearly, hinspect]
  refine ⟨rfl, ?_⟩
  unfold deleteOnNode
  rw [hearly, if_neg (by simp)]
  dsimp only
  rw [(deletedContainer_spec w.engine wid containerId).1, hdetach, hremove]
  dsimp only [detachOutcome, deleteDetachTopologyBestEffort]
  rw [hissues]
  dsimp only
  rw [hx]
  exact ⟨rfl, _, rfl, rfl⟩

/-- **The detach** that comes back says whether the row was in another status, and leaves it
detached. -/
theorem detachWorkspace_ok {linuxOk commitOk : Bool} {now : Nat} {net : TopologyDb}
    {slot : WorkspaceSlot} {detached : Bool}
    (h : (detachWorkspace acfg linuxOk commitOk now net slot).2 = .ok detached) :
    (detached = true ↔ ¬ DetachedAt net slot) ∧
      ∀ slot', DetachedAt (detachWorkspace acfg linuxOk commitOk now net slot).1 slot' ↔
        slot' = slot ∨ DetachedAt net slot' := by
  have hkept : ∀ net' : TopologyDb, DetachedAt net' slot →
      ∀ slot', DetachedAt net' slot' ↔ slot' = slot ∨ DetachedAt net' slot' := by
    intro net' hd slot'
    refine ⟨.inr, ?_⟩
    rintro (rfl | h)
    · exact hd
    · exact h
  unfold detachWorkspace at h ⊢
  cases hrow : net.attachments.lookup slot with
  | none =>
      rw [hrow] at h
      have hd : DetachedAt net slot := fun att hatt => by
        rw [hrow] at hatt
        cases hatt
      rw [← Except.ok.inj h]
      exact ⟨iff_of_false (by simp) (not_not.mpr hd), hkept net hd⟩
  | some att =>
      rw [hrow] at h
      dsimp only at h ⊢
      by_cases hst : att.status = .detached
      · rw [if_pos hst] at h
        rw [if_pos hst]
        have hd : DetachedAt net slot := fun att' hatt => by
          rw [← Option.some.inj (hrow.symm.trans hatt)]
          exact hst
        rw [← Except.ok.inj h]
        exact ⟨iff_of_false (by simp) (not_not.mpr hd), hkept net hd⟩
      · rw [if_neg hst] at h
        rw [if_neg hst]
        split at h
        · cases h
        next hlinux =>
          rw [if_neg hlinux]
          split at h
          · cases h
          next hcommit =>
            rw [if_neg hcommit, ← Except.ok.inj h]
            refine ⟨iff_of_true rfl fun hd => hst (hd att hrow), fun slot' => ?_⟩
            unfold DetachedAt TopologyDb.setAttachment
            dsimp only
            by_cases hslot : slot' = slot
            · refine iff_of_true (fun att' hatt => ?_) (.inl hslot)
              rw [Table.lookup_insert_eq, if_pos hslot] at hatt
              rw [← Option.some.inj hatt]
            · rw [or_iff_right hslot]
              simp only [Table.lookup_insert_eq, if_neg hslot]

/-- **When a delete reports success**: given a container id or no need of one, and calls that come
back, the container being gone and the workspace detached everywhere makes a success exactly if
the workspace had an attachment row in another status before, or the engine still finds a
container under the id. -/
theorem delete_reports_success_iff (cfg : Settings) (acfg : AdapterConfig)
    (ans : RuntimeDeleteAnswers) (w : NodeWorld) (t : Int) (n : String) (wid : Nat)
    (containerId : Option String)
    (hcid : placementStrictEnforced cfg = true → stripOr containerId ≠ "")
    (hcalls : CallsReturn acfg ans w t n wid containerId) :
    (∃ res, (deleteWorkspaceOn cfg acfg ans w t n wid containerId).2 = .returned res ∧
        (RuntimeGone (deleteWorkspaceOn cfg acfg ans w t n wid containerId).1
          (deletedContainer w.engine wid containerId) wid → res.success = true)) ↔
      ¬ AllDetached w.net wid ∨ IdIsTaken w.engine (deletedContainer w.engine wid containerId) := by
  obtain ⟨hinspect, ⟨detached, hdetach⟩, gone, hremove⟩ := hcalls
  obtain ⟨hengine, hnet, res, hres, hsuccess⟩ :=
    deleteWorkspaceOn_returns hcid hinspect hdetach hremove
  obtain ⟨hfound, hgone⟩ :=
    removeContainer_ok (deletedContainer_spec w.engine wid containerId).2 hremove
  obtain ⟨hflag, hafter⟩ := detachWorkspace_ok hdetach
  have hall : AllDetached (deleteWorkspaceOn cfg acfg ans w t n wid containerId).1.net wid ↔
      ∀ slot, slot.workspaceId = wid → slot = ⟨nodeOf t n, wid⟩ ∨ DetachedAt w.net slot := by
    rw [hnet]
    exact forall_congr' fun slot => forall_congr' fun _ =>
      (deleteTopology_detachedAt acfg _ _ _ t n slot).trans (hafter slot)
  constructor
  · rintro ⟨res', hres', himp⟩
    obtain rfl : res = res' := Outcome.returned.inj (hres.symm.trans hres')
    by_contra hno
    obtain ⟨hbefore, hfree⟩ := not_or.mp hno
    have hbefore := not_not.mp hbefore
    have hok : res.success = true := himp ⟨by rw [hengine]; exact hfound.mpr hfree,
      hall.mpr fun slot hslot => .inr (hbefore slot hslot)⟩
    rw [hsuccess, Bool.and_eq_true] at hok
    exact hflag.mp hok.2 (hbefore _ rfl)
  · intro hcond
    refine ⟨res, hres, fun hrg => ?_⟩
    obtain ⟨hget, hdet⟩ := hrg
    rw [hengine] at hget
    have hfree := hfound.mp hget
    have hbefore := hcond.resolve_right hfree
    rw [hsuccess, Bool.and_eq_true]
    refine ⟨hgone hfree, hflag.mpr fun hrow => hbefore fun slot hslot => ?_⟩
    rcases hall.mp hdet slot hslot with rfl | hd
    · exact hrow
    · exact hd

end Delete

/-! ## The stop reads the flag the other way -/

theorem containerRef_trimmed (wid : Nat) (containerId : Option String) :
    containerRef wid containerId ≠ "" ∧
      strip (containerRef wid containerId) = containerRef wid containerId := by
  unfold containerRef
  split
  · exact sanitizeContainerName_trimmed _
  next hne => exact ⟨hne, strip_strip _⟩

/-- A stop that finds no container is a success with nothing to detach. -/
theorem stop_reports_success {env : OrchestratorEnv} {e : DockerEngine} {ans : StopAnswers}
    {wid : Nat} {containerId : Option String}
    (hcid : placementStrictEnforced env.cfg = true → stripOr containerId ≠ "")
    (hinspect : ans.inspectError = none) (hdetach : ans.detach = .done false)
    (hgone : e.get (containerRef wid containerId) = none) :
    ∃ res, (stopOnEngine env e ans wid containerId false).2 = .returned res ∧
      res.success = true := by
  have hearly : (placementStrictEnforced env.cfg && stripOr containerId = "") = false := by
    cases hstrict : placementStrictEnforced env.cfg with
    | false => rfl
    | true => simpa using hcid hstrict
  obtain ⟨hne, hstrip⟩ := containerRef_trimmed wid containerId
  have hstop : stopContainerBestEffort e ans (containerRef wid containerId) [] =
      (e, .ok (true, some "missing", [])) := by
    unfold stopContainerBestEffort DockerRuntimeAdapter.stopContainer
    rw [if_neg hne, hgone]
  unfold stopOnEngine
  rw [hearly, if_neg (by simp), hinspect, hdetach]
  dsimp only [deleteDetachTopologyBestEffort]
  rw [hgone, Option.map_none, Option.getD_none, hstrip, hstop]
  exact ⟨_, rfl, rfl⟩

/-! ## A workspace with and one without a row -/

def attachedRow (status : TopologyAttachmentStatus) : TopologyAttachment where
  attachmentId := 1
  containerId := some "c-7"
  status := status
  workspaceIp := none
  updatedAt := 0

/-- The containers of workspaces 7 and 8. -/
def twoContainers (state : EngineState) : DockerEngine :=
  let created := (DockerEngine.empty.create "c-7" { name := "devnest-ws-7", state }).bind
    (·.create "c-8" { name := "devnest-ws-8", state := .running })
  created.toOption.getD .empty

/-- A node with these containers and the row of workspace 7. -/
def nodeWithRow (state : EngineState) (status : TopologyAttachmentStatus) : NodeWorld :=
  ⟨twoContainers state,
    emptyTopologyDb.setAttachment ⟨nodeOf 1 "node-1", 7⟩ (attachedRow status)⟩

def attachedNode : NodeWorld := nodeWithRow .running .attached

/-- As a stop leaves it. -/
def stoppedNode : NodeWorld := nodeWithRow .exited .detached

theorem callsReturn_attached :
    CallsReturn dbOnlyAdapter {} attachedNode 1 "node-1" 7 (some "c-7") :=
  ⟨rfl, ⟨true, rfl⟩, true, rfl⟩

theorem callsReturn_stopped :
    CallsReturn dbOnlyAdapter {} stoppedNode 1 "node-1" 7 (some "c-7") :=
  ⟨rfl, ⟨false, rfl⟩, true, rfl⟩

theorem attached_workspace_is_deleted :
    ∃ res, (deleteWorkspaceOn {} dbOnlyAdapter {} attachedNode 1 "node-1" 7
        (some "c-7")).2 = .returned res ∧
      (RuntimeGone (deleteWorkspaceOn {} dbOnlyAdapter {} attachedNode 1 "node-1" 7
        (some "c-7")).1 (deletedContainer attachedNode.engine 7 (some "c-7")) 7 →
          res.success = true) := by
  have hrow : attachedNode.net.attachments.lookup ⟨nodeOf 1 "node-1", 7⟩ =
      some (attachedRow .attached) := by decide +kernel
  refine (delete_reports_success_iff {} dbOnlyAdapter {} attachedNode 1 "node-1" 7
    (some "c-7") (fun _ => by decide) callsReturn_attached).mpr (.inl fun hall => ?_)
  exact absurd (hall _ rfl _ hrow) (by decide)

/-- The container of workspace 7 is removed, that of workspace 8 stays. -/
example :
    let e := (deleteWorkspaceOn {} dbOnlyAdapter {} attachedNode 1 "node-1" 7 (some "c-7")).1.engine
    (e.get "c-7").isNone = true ∧ (e.get "c-8").isSome = true := by
  decide +kernel

/-- After a stop the row is `DETACHED`; the container and the row are gone after the delete, which
reports a failure. -/
theorem stopped_workspace_is_not_deleted :
    ¬ ∀ (cfg : Settings) (acfg : AdapterConfig) (ans : RuntimeDeleteAnswers) (w : NodeWorld)
        (t : Int) (n : String) (wid : Nat) (containerId : Option String),
      (placementStrictEnforced cfg = true → stripOr containerId ≠ "") →
        CallsReturn acfg ans w t n wid containerId →
          ∃ res, (deleteWorkspaceOn cfg acfg ans w t n wid containerId).2 = .returned res ∧
            (RuntimeGone (deleteWorkspaceOn cfg acfg ans w t n wid containerId).1
              (deletedContainer w.engine wid containerId) wid → res.success = true) := by
  intro h
  obtain ⟨res, hres, himp⟩ := h {} dbOnlyAdapter {} stoppedNode 1 "node-1" 7
    (some "c-7") (fun _ => by decide) callsReturn_stopped
  have hfailed : (deleteWorkspaceOn {} dbOnlyAdapter {} stoppedNode 1 "node-1" 7
      (some "c-7")).2.result?.map (·.success) = some false := by decide +kernel
  have hcontainer : ((deleteWorkspaceOn {} dbOnlyAdapter {} stoppedNode 1 "node-1" 7
      (some "c-7")).1.engine.get (deletedContainer stoppedNode.engine 7 (some "c-7"))).isNone =
        true := by decide +kernel
  have hnet : (deleteWorkspaceOn {} dbOnlyAdapter {} stoppedNode 1 "node-1" 7
      (some "c-7")).1.net.attachments.entries.isEmpty = true := by decide +kernel
  have hgone : RuntimeGone (deleteWorkspaceOn {} dbOnlyAdapter {} stoppedNode 1
      "node-1" 7 (some "c-7")).1 (deletedContainer stoppedNode.engine 7 (some "c-7")) 7 := by
    refine ⟨Option.isNone_iff_eq_none.mp hcontainer, fun slot _ att hatt => ?_⟩
    have hmem := AList.mem_lookup_iff.mp hatt
    rw [List.isEmpty_iff.mp hnet] at hmem
    cases hmem
  rw [hres] at hfailed
  have hno : res.success = false := Option.some.inj hfailed
  rw [himp hgone] at hno
  cases hno

end Devnest
