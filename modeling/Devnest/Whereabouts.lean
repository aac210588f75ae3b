import Devnest.Overbooking

/-!
# Where an execution leaves its workspace

A workspace names its node twice: in `execution_node_id` and in the `node_id`
of its runtime row. An execution that brings a container up writes both for
the node its orchestrator was built for, and no other end writes either. The
catalog rows of the nodes may lose their admission, and nothing else of them
changes.
-/

namespace Devnest

open PyText

/-! ## Catalog rows -/

/-- The same nodes under the same keys; a row that is still schedulable is unchanged. -/
structure Withdrawn (t t' : Table Nat ExecutionNode) : Prop where
  kept : ∀ nid node, t.lookup nid = some node → ∃ node', t'.lookup nid = some node' ∧
    node'.nodeKey = node.nodeKey ∧ (node'.schedulable = true → node' = node)
  old : ∀ nid node', t'.lookup nid = some node' → ∃ node, t.lookup nid = some node

theorem Withdrawn.refl (t : Table Nat ExecutionNode) : Withdrawn t t :=
  ⟨fun _ node h => ⟨node, h, rfl, fun _ => rfl⟩, fun _ node h => ⟨node, h⟩⟩

theorem Withdrawn.trans {t t' t'' : Table Nat ExecutionNode} (h : Withdrawn t t')
    (h' : Withdrawn t' t'') : Withdrawn t t'' := by
  refine ⟨fun nid node hn => ?_, fun nid node hn => ?_⟩
  · obtain ⟨node', hn', hkey, hsame⟩ := h.kept nid node hn
    obtain ⟨node'', hn'', hkey', hsame'⟩ := h'.kept nid node' hn'
    refine ⟨node'', hn'', hkey'.trans hkey, fun hs => ?_⟩
    have heq := hsame' hs
    rw [heq] at hs ⊢
    exact hsame hs
  · obtain ⟨node', hn'⟩ := h'.old nid node hn
    exact h.old nid node' hn'

/-- A row that is written over, out of the scheduler's sight. -/
theorem Withdrawn.insert {t : Table Nat ExecutionNode} {nid : Nat} {node node' : ExecutionNode}
    (h : t.lookup nid = some node) (hkey : node'.nodeKey = node.nodeKey)
    (hs : node'.schedulable = false) : Withdrawn t (t.insert nid node') := by
  refine ⟨fun k x hx => ?_, fun k x hx => ?_⟩
  · rw [Table.lookup_insert_eq]
    split
    · rename_i hk
      obtain rfl : x = node := Option.some.inj (hx.symm.trans (hk ▸ h))
      exact ⟨node', rfl, hkey, fun h' => by rw [hs] at h'; cases h'⟩
    · exact ⟨x, hx, rfl, fun _ => rfl⟩
  · rw [Table.lookup_insert_eq] at hx
    split at hx
    · rename_i hk
      exact ⟨node, hk ▸ h⟩
    · exact ⟨x, hx⟩

theorem nodeByKey_some {t : Table Nat ExecutionNode} {key : String} {nid : Nat}
    {node : ExecutionNode} (h : nodeByKey t key = some (nid, node)) :
    t.lookup nid = some node ∧ node.nodeKey = key := by
  obtain ⟨e, he, heq⟩ := Option.map_eq_some_iff.mp h
  obtain ⟨rfl, rfl⟩ := Prod.mk.inj heq
  exact ⟨AList.mem_lookup_iff.mpr (List.mem_of_find?_eq_some he),
    by simpa using List.find?_some he⟩

/-! ## Ends that name no node -/

structure StaysPut (s s' : Session) : Prop where
  exec : s'.ws.executionNodeId = s.ws.executionNodeId
  node : ∀ r' ∈ s'.rt, r'.nodeId = none ∨ ∃ r ∈ s.rt, r'.nodeId = r.nodeId
  nodes : Withdrawn s.executionNodes s'.executionNodes

theorem StaysPut.of_fields {s s' : Session}
    (hexec : s'.ws.executionNodeId = s.ws.executionNodeId) (hrt : s'.rt = s.rt)
    (hnodes : s'.executionNodes = s.executionNodes) : StaysPut s s' := by
  refine ⟨hexec, fun r hr => .inr ⟨r, hrt ▸ hr, rfl⟩, ?_⟩
  rw [hnodes]
  exact .refl _

theorem StaysPut.refl (s : Session) : StaysPut s s := .of_fields rfl rfl rfl

theorem StaysPut.trans {s s' s'' : Session} (h : StaysPut s s') (h' : StaysPut s' s'') :
    StaysPut s s'' := by
  refine ⟨h'.exec.trans h.exec, fun r hr => ?_, h.nodes.trans h'.nodes⟩
  rcases h'.node r hr with hnone | ⟨r', hr', heq⟩
  · exact .inl hnone
  · rcases h.node r' hr' with hnone | ⟨r'', hr'', heq'⟩
    · exact .inl (heq.trans hnone)
    · exact .inr ⟨r'', hr'', heq.trans heq'⟩

section Ends

variable (cfg : Settings) (inp : WorkerInput) {s : Session}

theorem clearReservation_nodeId {rt : Option WorkspaceRuntime} :
    ∀ r' ∈ clearRuntimeCapacityReservation rt, r'.nodeId = none ∨ ∃ r ∈ rt, r'.nodeId = r.nodeId := by
  intro r' hr'
  obtain ⟨r, hr, rfl⟩ := Option.map_eq_some_iff.mp hr'
  refine .inr ⟨r, hr, ?_⟩
  split <;> rfl

/-- A failure for good clears the reservation and leaves the node. -/
theorem StaysPut.of_cleared {s' : Session} (hexec : s'.ws.executionNodeId = s.ws.executionNodeId)
    (hrt : s'.rt = clearRuntimeCapacityReservation s.rt)
    (hnodes : s'.executionNodes = s.executionNodes) : StaysPut s s' := by
  refine ⟨hexec, ?_, by rw [hnodes]; exact .refl _⟩
  rw [hrt]
  exact clearReservation_nodeId

theorem retryElse_staysPut {s₀ terminal : Session} {retryable : Bool} {m : String}
    {stage : FailureStage} {code : String} (h : StaysPut s s₀) (ht : StaysPut s₀ terminal) :
    StaysPut s (retryElse cfg inp.clk s₀ retryable m stage code terminal) :=
  retryElse_elim (P := StaysPut s) cfg inp.clk
    (fun _ _ _ => h.trans (.of_fields rfl rfl rfl)) (h.trans ht)

theorem waitElse_staysPut {s₀ terminal : Session} {m code reason : String} (h : StaysPut s s₀)
    (ht : StaysPut s₀ terminal) :
    StaysPut s (waitElse cfg inp.clk s₀ m code reason terminal) :=
  waitElse_elim (P := StaysPut s) cfg inp.clk
    (fun _ _ _ => h.trans (.of_fields rfl rfl rfl)) (h.trans ht)

theorem failJobTerminal_staysPut (m : String) (stage : FailureStage) (fc ec : String) :
    StaysPut s (failJobTerminal inp s m stage fc ec) := .of_cleared rfl rfl rfl

theorem failJobFromPlacement_staysPut (e : PlacementError) :
    StaysPut s (failJobFromPlacement cfg inp s e) := by
  cases e with
  | noSchedulableNode m => exact waitElse_staysPut cfg inp (.refl s) (failJobTerminal_staysPut ..)
  | invalidPlacementParameters m | authoritativePlacement m =>
      exact retryElse_staysPut cfg inp (.refl s) (failJobTerminal_staysPut ..)

theorem markNodeNotReadyForRetry_staysPut (nodeKey : Option String) (reason : String) :
    StaysPut s (markNodeNotReadyForRetry s nodeKey reason) := by
  unfold markNodeNotReadyForRetry
  split
  · exact .refl s
  · split
    · exact .refl s
    · rename_i nid node hnode
      split
      · exact .refl s
      · exact ⟨rfl, fun r hr => .inr ⟨r, hr, rfl⟩, .insert (nodeByKey_some hnode).1 rfl rfl⟩

theorem waitForNodeReadiness_staysPut {s₀ : Session} (h : StaysPut s s₀) (nodeKey : Option String)
    (reason code : String) : StaysPut s (waitForNodeReadiness cfg inp s₀ nodeKey reason code) :=
  waitElse_staysPut cfg inp (h.trans (markNodeNotReadyForRetry_staysPut nodeKey reason))
    (failJobTerminal_staysPut ..)

theorem failJobFromOrchestratorBinding_staysPut (m : String) :
    StaysPut s (failJobFromOrchestratorBinding cfg inp s m) := by
  unfold failJobFromOrchestratorBinding
  split
  · exact waitForNodeReadiness_staysPut cfg inp (.refl s) _ _ _
  · exact retryElse_staysPut cfg inp (.refl s) (failJobTerminal_staysPut ..)

theorem ensureDurableCleanupTask_staysPut (sc : CleanupScope) :
    StaysPut s (ensureDurableCleanupTask s sc) := by
  unfold ensureDurableCleanupTask
  split
  · exact .of_fields rfl rfl rfl
  · split <;> exact .of_fields rfl rfl rfl

/-- Both ways a rollback ends. -/
theorem syncRolledBack_staysPut {r : WorkspaceRuntime} (hr : s.rt = some r)
    (a b c d : Option String) : StaysPut s { s with rt := some (syncRolledBack r a b c d) } := by
  refine ⟨rfl, ?_, .refl _⟩
  rintro r' ⟨⟩
  exact .inr ⟨r, hr, rfl⟩

theorem syncCleanupRequired_staysPut {r : WorkspaceRuntime} (hr : s.rt = some r) :
    StaysPut s (syncCleanupRequired s r) := by
  have hrow : StaysPut s { s with rt := some { r with healthStatus := .cleanupRequired } } := by
    refine ⟨rfl, ?_, .refl _⟩
    rintro r' ⟨⟩
    exact .inr ⟨r, hr, rfl⟩
  exact hrow.trans (ensureDurableCleanupTask_staysPut .bringupRollback)

theorem syncRuntimeAfterFailedBringup_staysPut (res : WorkspaceBringUpResult) :
    StaysPut s (syncRuntimeAfterFailedBringup s res) := by
  unfold syncRuntimeAfterFailedBringup
  split
  · exact .refl s
  · split
    · exact .refl s
    · rename_i r hr
      split
      · exact syncRolledBack_staysPut hr _ _ _ _
      · exact syncCleanupRequired_staysPut hr

theorem syncAfterException_staysPut (e : OrchestratorException) :
    StaysPut s (syncAfterException s e) := by
  cases e with
  | bringUp be =>
      simp only [syncAfterException, syncRuntimeAfterBringupException]
      split
      · exact .refl s
      · split
        · exact .refl s
        · rename_i r hr
          split
          · exact syncRolledBack_staysPut hr _ _ _ _
          · exact syncCleanupRequired_staysPut hr
  | stop m | delete m | restart m | update m | snapshot m => exact .refl s

theorem handleOrchestratorException_staysPut (hsnap : s.job.jobType.isSnapshot = false)
    (nodeKey : Option String) (e : OrchestratorException) :
    StaysPut s (handleOrchestratorException cfg inp s nodeKey e) := by
  have hsync := syncAfterException_staysPut (s := s) e
  have hjob := (syncAfterException_syncs s e).job
  unfold handleOrchestratorException
  dsimp only
  split
  · exact waitForNodeReadiness_staysPut cfg inp hsync _ _ _
  · rw [hjob, hsnap]
    exact retryElse_staysPut cfg inp hsync (failJobTerminal_staysPut ..)

theorem resolveOrchestratorResultFailure_staysPut {s₀ : Session} (h : StaysPut s s₀)
    (m : String) (stage : FailureStage) (retryable : Bool) :
    StaysPut s (resolveOrchestratorResultFailure cfg inp.clk s₀ m stage retryable) :=
  retryElse_staysPut cfg inp h (.of_cleared rfl rfl rfl)

/-! ## The end of an execution -/

/-- The workspace stays where it is, or comes up on the node `key`. -/
inductive EndsOn (key : String) (s s' : Session) : Prop
  | stays (h : StaysPut s s')
  | up (exec : s'.ws.executionNodeId = s.ws.executionNodeId ∨
        ∃ nid node, nodeByKey s.executionNodes (strip key) = some (nid, node) ∧
          s'.ws.executionNodeId = some nid)
      (node : ∀ r ∈ s'.rt, r.nodeId = some key) (nodes : s'.executionNodes = s.executionNodes)

/-- The same for a body that may also raise, from the session as it was. -/
def ExitsOn (key : String) (s : Session) : Exit → Prop
  | .returned s' => EndsOn key s s'
  | .raised _ s' => s' = s
  | .crashed _ => True

theorem applyRuntimeBringupLike_nodeId (rt : Option WorkspaceRuntime) (f : RuntimeFacts) (v : Int)
    (target : Option String) : (applyRuntimeBringupLike cfg rt f v target).nodeId = f.nodeId := by
  unfold applyRuntimeBringupLike
  dsimp only
  split <;> rfl

theorem finalizeRuntimeRunningSuccess_exitsOn {f : RuntimeFacts} {key : String}
    (hnode : f.nodeId = some key) (v : Int) :
    ExitsOn key s (finalizeRuntimeRunningSuccess cfg inp.clk inp.port s f v) := by
  unfold finalizeRuntimeRunningSuccess
  split
  · rfl
  · refine .up ?_ ?_ rfl
    · simp only [syncWorkspaceExecutionNodeId, workspaceClearErrors]
      rw [hnode]
      split
      · exact .inl rfl
      · split
        · exact .inl rfl
        · rename_i nid node hfound
          exact .inr ⟨nid, node, hfound, rfl⟩
    · rintro r ⟨⟩
      rw [applyRuntimeBringupLike_nodeId, hnode]

variable {inp} in
/-- An orchestrator for `key` brings up on it. -/
theorem SaysUp.nodeId {key : String} {jt : WorkspaceJobType} {f : RuntimeFacts}
    (h : SaysUp (inp.onNode key) jt f) : f.nodeId = some key := h.on_node.1

theorem executeJobBody_exitsOn (hjt : s.job.jobType.isLifecycle = true) (key : String) :
    ExitsOn key s (executeJobBody cfg (inp.onNode key) s) := by
  have hfailed : ∀ {s₀ : Session} {m : String} {stage : FailureStage} {retryable : Bool},
      StaysPut s s₀ → EndsOn key s
        (resolveOrchestratorResultFailure cfg (inp.onNode key).clk s₀ m stage retryable) :=
    fun h => .stays (resolveOrchestratorResultFailure_staysPut cfg (inp.onNode key) h _ _ _)
  have hbring : s.job.jobType = .create ∨ s.job.jobType = .start →
      ExitsOn key s (executeBringUpJob cfg (inp.onNode key) s) := by
    intro hty
    unfold executeBringUpJob
    split
    · exact .stays (.of_fields rfl rfl rfl)
    · split
      · trivial
      · rfl
      · rename_i res hres
        unfold finalizeBringupResult
        split
        · rename_i hs
          refine finalizeRuntimeRunningSuccess_exitsOn cfg (inp.onNode key) ?_ _
          exact (SaysUp.create hres hs).nodeId
        · exact hfailed (syncRuntimeAfterFailedBringup_staysPut res)
  unfold executeJobBody
  cases hty : s.job.jobType with
  | create => exact hbring (.inl hty)
  | start => exact hbring (.inr hty)
  | stop =>
      dsimp only
      split
      · trivial
      · rfl
      · unfold finalizeStopResult
        split
        · refine .stays ⟨rfl, ?_, .refl _⟩
          rintro r ⟨⟩
          cases hrt : s.rt with
          | none => exact .inl rfl
          | some r => exact .inr ⟨r, rfl, rfl⟩
        · exact hfailed (ensureDurableCleanupTask_staysPut _)
  | delete =>
      dsimp only
      split
      · trivial
      · rfl
      · refine .stays ⟨rfl, ?_, .refl _⟩
        rintro r ⟨⟩
  | restart =>
      dsimp only
      split
      · trivial
      · rfl
      · rename_i res hres
        unfold finalizeRestartResult
        split
        · rename_i hs
          exact finalizeRuntimeRunningSuccess_exitsOn cfg (inp.onNode key)
            (SaysUp.restart hres hs).nodeId _
        · exact hfailed (.refl s)
  | update =>
      dsimp only
      split
      · trivial
      · rfl
      · rename_i res hres
        unfold finalizeUpdateResult
        dsimp only
        split
        · rename_i hs
          exact finalizeRuntimeRunningSuccess_exitsOn cfg (inp.onNode key)
            (SaysUp.update hres hs).nodeId _
        · split
          · -- an update of a stopped container names the orchestrator's node as well
            refine .up (.inl rfl) ?_ rfl
            rintro r ⟨⟩
            simp only [WorkerInput.onNode, OrchestratorService.onNode] at hres
            split at hres
            · rw [← Outcome.returned.inj hres]
              rfl
            · cases hres
            · cases hres
          · exact hfailed (.refl s)
  | reconcileRuntime | snapshotCreate | snapshotRestore | repoImport =>
      rw [hty] at hjt
      cases hjt

theorem beginCreate_staysPut (s : Session) : StaysPut s (beginCreateBringupAfterPlacement s) ∧
    (beginCreateBringupAfterPlacement s).executionNodes = s.executionNodes := by
  unfold beginCreateBringupAfterPlacement
  split
  · exact ⟨.of_fields rfl rfl rfl, rfl⟩
  · exact ⟨.refl s, rfl⟩

theorem processClaimedRunningJob_endsOn (hjt : s.job.jobType.isLifecycle = true) (key : String)
    (nodeKey : Option String) :
    EndsOn key s (processClaimedRunningJob cfg (inp.onNode key) s nodeKey).session ∨
      (processClaimedRunningJob cfg (inp.onNode key) s nodeKey).committed = false := by
  have hbody := executeJobBody_exitsOn cfg inp hjt key
  have hsnap : s.job.jobType.isSnapshot = false := by
    revert hjt
    cases s.job.jobType <;> simp [WorkspaceJobType.isLifecycle, WorkspaceJobType.isSnapshot]
  unfold processClaimedRunningJob
  cases hex : executeJobBody cfg (inp.onNode key) s with
  | returned s' =>
      rw [hex] at hbody
      exact .inl hbody
  | raised e s' =>
      rw [hex] at hbody
      obtain rfl : s' = s := hbody
      exact .inl (.stays (handleOrchestratorException_staysPut cfg (inp.onNode key) hsnap nodeKey e))
  | crashed s' => exact .inr rfl

/-- **The end of an execution**: it comes up on the node it was placed on, or stays put. -/
theorem processPlacedJob_whereabouts {e : PlacedJob} (hjt : s.job.jobType.isLifecycle = true)
    (hc : (processPlacedJob cfg inp e s).committed = true) :
    StaysPut s (processPlacedJob cfg inp e s).session ∨ ∃ nodeKey tid,
      e.placement = .ok (nodeKey, tid) ∧
        EndsOn (orchestratorNodeKey cfg nodeKey) s (processPlacedJob cfg inp e s).session := by
  unfold processPlacedJob at hc ⊢
  split
  · exact .inl (.of_fields rfl rfl rfl)
  · rename_i h
    rw [if_neg h] at hc
    cases hp : e.placement with
    | error err => exact .inl (failJobFromPlacement_staysPut cfg inp err)
    | ok place =>
        obtain ⟨nodeKey, tid⟩ := place
        rw [hp] at hc
        dsimp only at hc ⊢
        cases hb : inp.binding with
        | crashed =>
            rw [hb] at hc
            cases hc
        | failed m => exact .inl (failJobFromOrchestratorBinding_staysPut cfg inp m)
        | bound =>
            rw [hb] at hc
            dsimp only at hc ⊢
            have hjt' : (beginCreateBringupAfterPlacement s).job.jobType.isLifecycle = true := by
              rw [beginCreate_job]
              exact hjt
            have hbegin := beginCreate_staysPut s
            rcases processClaimedRunningJob_endsOn cfg inp hjt' (orchestratorNodeKey cfg nodeKey)
              (some nodeKey) with hend | hnot
            · refine .inr ⟨nodeKey, tid, rfl, ?_⟩
              cases hend with
              | stays hput => exact .stays (hbegin.1.trans hput)
              | up exec node nodes =>
                  rw [hbegin.1.exec, hbegin.2] at exec
                  rw [hbegin.2] at nodes
                  exact .up exec node nodes
            · rw [hnot] at hc
              cases hc

end Ends

end Devnest
