import Devnest.FailureHandling

/-!
# Durable cleanup tasks

`cleanup_service/service.py`: a failed compensating rollback or an
incomplete stop leaves a `PENDING` row, and later ticks stop the
workspace's runtime for every such row until the orchestrator reports
success. A row that once `SUCCEEDED` is left as it is.

The rows the service works on are gathered in `CleanupState`; the job
session and the drain both go through it.
-/

namespace Devnest

open PyText

/-! ## Recording the debt -/

/-- `ensure_durable_cleanup_task`. -/
def ensureDurableCleanupTask (s : Session) (scope : CleanupScope) : Session :=
  match s.tasks.get scope with
  | none =>
      { s with
        tasks := s.tasks.set scope { status := .pending, attempts := 0 }
        trace := .taskPending s.wid scope :: s.trace }
  | some task =>
      if task.status = .succeeded then s
      else { s with
        tasks := s.tasks.set scope { task with status := .pending }
        trace := .taskPending s.wid scope :: s.trace }

/-! ## Working it off -/

/-- What `process_durable_cleanup_tasks_for_workspace` reads and writes. -/
structure CleanupState where
  rt : Option WorkspaceRuntime
  tasks : CleanupTasks
  trace : List Event

/-- One turn of the loop over the pending tasks: count the attempt, stop the runtime, and
settle the row when the stop reports success. Any exception leaves it `PENDING`. -/
def cleanupTaskTurn (wid : Nat) (status : WorkspaceStatus)
    (answer : CleanupScope → Outcome String WorkspaceStopResult) (c : CleanupState)
    (scope : CleanupScope) : CleanupState :=
  match c.tasks.get scope with
  | none => c
  | some task =>
      let called : CleanupState :=
        { c with
          tasks := c.tasks.set scope { task with attempts := task.attempts + 1 }
          trace := .cleanupStop wid scope status :: c.trace }
      match answer scope with
      | .returned res =>
          if res.success then
            { called with
              tasks := c.tasks.set scope { status := .succeeded, attempts := task.attempts + 1 }
              rt := c.rt.map fun r =>
                if r.healthStatus = .cleanupRequired then { r with healthStatus := .unknown } else r }
          else called
      | .raised _ => called
      | .crashed => called

/-- The pending scopes of a workspace. The query has no order; the turns of two scopes do
not depend on each other. -/
def CleanupTasks.pendingScopes (t : CleanupTasks) : List CleanupScope :=
  [CleanupScope.bringupRollback, CleanupScope.stopIncomplete].filter t.isPending

/-- `process_durable_cleanup_tasks_for_workspace`. The workspace's status is not read. -/
def processDurableCleanupTasksForWorkspace (wid : Nat) (status : WorkspaceStatus)
    (answer : CleanupScope → Outcome String WorkspaceStopResult) (c : CleanupState) : CleanupState :=
  if runtimePlacementRowComplete c.rt then
    c.tasks.pendingScopes.foldl (cleanupTaskTurn wid status answer) c
  else c

/-! ## What the service does to a workspace -/

/-- The effect of the service from `c` to `c'`: placement stays, no row becomes `PENDING`,
and each call is for a scope that was pending, at the status given. -/
structure CleanupEffect (wid : Nat) (status : WorkspaceStatus) (c c' : CleanupState) : Prop where
  placement : c'.rt.map (·.placement) = c.rt.map (·.placement)
  pending : ∀ sc, c'.tasks.isPending sc = true → c.tasks.isPending sc = true
  calls : ∃ new, c'.trace = new ++ c.trace ∧
    ∀ e ∈ new, ∃ sc, e = .cleanupStop wid sc status ∧ c.tasks.isPending sc = true

theorem CleanupEffect.refl (wid : Nat) (status : WorkspaceStatus) (c : CleanupState) :
    CleanupEffect wid status c c :=
  ⟨rfl, fun _ h => h, [], rfl, by simp⟩

theorem isPending_set {t : CleanupTasks} {sc sc' : CleanupScope} {task : WorkspaceCleanupTask} :
    (t.set sc task).isPending sc' =
      if sc' = sc then task.status == .pending else t.isPending sc' := by
  by_cases h : sc' = sc <;> simp [CleanupTasks.isPending, h]

theorem cleanupTaskTurn_effect {wid : Nat} {status : WorkspaceStatus} {c₀ c : CleanupState}
    {sc : CleanupScope} (answer : CleanupScope → Outcome String WorkspaceStopResult)
    (h : CleanupEffect wid status c₀ c) (hsc : c₀.tasks.isPending sc = true) :
    CleanupEffect wid status c₀ (cleanupTaskTurn wid status answer c sc) := by
  obtain ⟨new, htrace, hnew⟩ := h.calls
  cases hget : c.tasks.get sc with
  | none => rw [show cleanupTaskTurn wid status answer c sc = c by simp [cleanupTaskTurn, hget]]; exact h
  | some task =>
      have hcalls : ∀ e ∈ Event.cleanupStop wid sc status :: new,
          ∃ sc', e = .cleanupStop wid sc' status ∧ c₀.tasks.isPending sc' = true := by
        intro e he
        rcases List.mem_cons.mp he with rfl | he
        · exact ⟨sc, rfl, hsc⟩
        · exact hnew e he
      have hset : ∀ (task' : WorkspaceCleanupTask) sc',
          (c.tasks.set sc task').isPending sc' = true → c₀.tasks.isPending sc' = true := by
        intro task' sc' hp
        by_cases hs : sc' = sc
        · exact hs ▸ hsc
        · rw [isPending_set, if_neg hs] at hp
          exact h.pending sc' hp
      -- every branch ends in the recorded call and at most a rewritten row
      have hleft : ∀ c', c' = ({ c with
            tasks := c.tasks.set sc { task with attempts := task.attempts + 1 }
            trace := .cleanupStop wid sc status :: c.trace } : CleanupState) →
          CleanupEffect wid status c₀ c' := by
        rintro _ rfl
        exact ⟨h.placement, hset _, _, by simp [htrace], hcalls⟩
      simp only [cleanupTaskTurn, hget]
      split
      · split
        · refine ⟨?_, hset _, _, by simp [htrace], hcalls⟩
          rw [← h.placement]
          cases c.rt with
          | none => rfl
          | some r => simp only [Option.map_some, Option.some.injEq]; split <;> rfl
        · exact hleft _ rfl
      · exact hleft _ rfl
      · exact hleft _ rfl

theorem processDurableCleanupTasksForWorkspace_effect (wid : Nat) (status : WorkspaceStatus)
    (answer : CleanupScope → Outcome String WorkspaceStopResult) (c : CleanupState) :
    CleanupEffect wid status c (processDurableCleanupTasksForWorkspace wid status answer c) := by
  unfold processDurableCleanupTasksForWorkspace
  split
  · have hfold : ∀ (l : List CleanupScope) (c' : CleanupState),
        (∀ sc ∈ l, c.tasks.isPending sc = true) → CleanupEffect wid status c c' →
        CleanupEffect wid status c (l.foldl (cleanupTaskTurn wid status answer) c') := by
      intro l
      induction l with
      | nil => exact fun _ _ h => h
      | cons sc l ih =>
          intro c' hl h
          exact ih _ (fun sc' hsc' => hl sc' (.tail _ hsc'))
            (cleanupTaskTurn_effect answer h (hl sc (.head _)))
    refine hfold _ c (fun sc hsc => ?_) (.refl wid status c)
    exact (List.mem_filter.mp hsc).2
  · exact .refl wid status c

end Devnest
