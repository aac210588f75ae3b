import Devnest.Steps

/-!
# Cleanup and live workspaces

The cleanup service stops the runtime of a workspace for every `PENDING`
row and does not look at the workspace. The history records when a row
was set `PENDING`, when a bring-up succeeded, and every call with the
status it met, so what a call may not do is a property of the history
alone (`CleanupSafe`).

A row that stays `PENDING` while a later bring-up succeeds is all that
can go wrong, and `NoLiveDebt` is the invariant that rules it out.
-/

namespace Devnest

open Runs

/-! ## Histories -/

/-- Some bring-up of `w` succeeded after the row of scope `sc` was last set `PENDING`. The
newest event comes first. -/
def liveSince (w : Nat) (sc : CleanupScope) : List Event → Bool
  | [] => false
  | .taskPending w' sc' :: older => if w' = w ∧ sc' = sc then false else liveSince w sc older
  | .bringUpSucceeded w' _ :: older => if w' = w then true else liveSince w sc older
  | .cleanupStop _ _ _ :: older => liveSince w sc older

/-- A call of the cleanup service, made with the history `older`, spares live workspaces. -/
def Event.spares (older : List Event) : Event → Prop
  | .cleanupStop w sc st => st ≠ .running ∧ liveSince w sc older = false
  | .taskPending _ _ | .bringUpSucceeded _ _ => True

/-- No call of the history stopped a live workspace. -/
def CleanupSafe : List Event → Prop
  | [] => True
  | e :: older => e.spares older ∧ CleanupSafe older

theorem liveSince_append_calls {w : Nat} {sc : CleanupScope} {new older : List Event}
    (h : ∀ e ∈ new, e.isCall = true) : liveSince w sc (new ++ older) = liveSince w sc older := by
  induction new with
  | nil => rfl
  | cons e new ih =>
      have hnew := ih fun e' he' => h e' (.tail _ he')
      cases e with
      | cleanupStop w' sc' st => exact hnew
      | taskPending w' sc' => cases h _ (.head _)
      | bringUpSucceeded w' jt => cases h _ (.head _)

/-- Calls that spare the history before them spare it together. -/
theorem CleanupSafe.append_calls {new older : List Event} (hcall : ∀ e ∈ new, e.isCall = true)
    (hnew : ∀ e ∈ new, e.spares older) (hold : CleanupSafe older) : CleanupSafe (new ++ older) := by
  induction new with
  | nil => exact hold
  | cons e new ih =>
      have hcall' : ∀ e' ∈ new, e'.isCall = true := fun e' he' => hcall e' (.tail _ he')
      refine ⟨?_, ih hcall' fun e' he' => hnew e' (.tail _ he')⟩
      have he := hnew e (.head _)
      cases e with
      | cleanupStop w sc st => exact ⟨he.1, (liveSince_append_calls hcall').trans he.2⟩
      | taskPending w sc => exact trivial
      | bringUpSucceeded w jt => exact trivial

/-! ## The invariant -/

/-- A pending row of `w` means: not `RUNNING`, and no bring-up since the row was set. -/
def OwesNothingLive (w : Nat) (st : WorkspaceStatus) (tasks : CleanupTasks) (trace : List Event) :
    Prop :=
  ∀ sc, tasks.isPending sc = true → st ≠ .running ∧ liveSince w sc trace = false

structure NoLiveDebt (db : Db) : Prop where
  safe : CleanupSafe db.trace
  debt : ∀ w ws, db.workspaces.lookup w = some ws →
    OwesNothingLive w ws.status (db.tasksOf w) db.trace
  /-- A workspace that does not exist owes nothing. -/
  fresh : ∀ w, db.workspaces.lookup w = none → ∀ sc, (db.tasksOf w).isPending sc = false

/-! ## Executions -/

/-- The new events are about workspace `w`: what happened to others is as before. -/
def OnlyAbout (w : Nat) (new : List Event) : Prop :=
  ∀ w' sc older, w' ≠ w → liveSince w' sc (new ++ older) = liveSince w' sc older

theorem OnlyAbout.cons {w : Nat} {e : Event} {new : List Event} (h : OnlyAbout w new)
    (he : OnlyAbout w [e]) : OnlyAbout w (e :: new) := fun w' sc older hw =>
  (he w' sc (new ++ older) hw).trans (h w' sc older hw)

/-- The invariant at the workspace of a session whose events come on top of `trace`. -/
structure SparesAt (s : Session) (trace : List Event) : Prop where
  safe : CleanupSafe (s.trace ++ trace)
  debt : OwesNothingLive s.wid s.ws.status s.tasks (s.trace ++ trace)
  about : OnlyAbout s.wid s.trace

/-- No bring-up succeeds while a row is pending, and none begins while the workspace runs. -/
def SparesLive (_ : EntryPoint) (inp : WorkerInput) (s : Session) : Prop :=
  (s.tasks.anyPending = true → ∀ f, ¬ SaysUp inp s.job.jobType f) ∧
    (s.ws.status = .running → s.job.jobType ≠ .create ∧ s.job.jobType ≠ .start)

section Executions

variable {inp : WorkerInput} {s s' : Session} {trace : List Event}

/-- Nothing about cleanup happened, and the status did not become `RUNNING`. -/
theorem SparesAt.of_same (h : SparesAt s trace) (hw : s'.wid = s.wid) (hd : SameDebt s s')
    (hst : s'.ws.status = .running → s.ws.status = .running) : SparesAt s' trace := by
  obtain ⟨ht, htr⟩ := hd
  refine ⟨htr ▸ h.safe, ?_, by rw [hw, htr]; exact h.about⟩
  rw [hw, ht, htr]
  exact fun sc hp => ⟨fun hr => (h.debt sc hp).1 (hst hr), (h.debt sc hp).2⟩

/-- A row was set `PENDING`, and the workspace is not `RUNNING`. -/
theorem SparesAt.of_ensures {sc : CleanupScope} (h : SparesAt s trace) (hw : s'.wid = s.wid)
    (he : Ensures sc s s') (hst : s'.ws.status ≠ .running) : SparesAt s' trace := by
  rcases he with ⟨hd, -⟩ | ⟨-, ⟨task, hset, -⟩, htr⟩
  · exact h.of_same hw hd fun hr => absurd hr hst
  · refine ⟨by rw [htr]; exact ⟨trivial, h.safe⟩, fun sc' hp => ⟨hst, ?_⟩, ?_⟩
    · rw [hw, htr]
      by_cases hsc : sc' = sc
      · simp [liveSince, hsc]
      · rw [hset, isPending_set, if_neg hsc] at hp
        simpa [liveSince, Ne.symm hsc] using (h.debt sc' hp).2
    · rw [hw, htr]
      exact h.about.cons fun w' sc' older hne => by simp [liveSince, Ne.symm hne]

/-- A bring-up succeeded with no row pending. -/
theorem SparesAt.of_up {f : RuntimeFacts} (h : SparesAt s trace) (hup : ComesUp s f s')
    (hnone : s.tasks.anyPending = false) : SparesAt s' trace := by
  refine ⟨by rw [hup.trace]; exact ⟨trivial, h.safe⟩, fun sc hp => ?_, ?_⟩
  · rw [hup.tasks] at hp
    cases sc <;> simp [CleanupTasks.anyPending, hp] at hnone
  · rw [hup.wid, hup.trace]
    exact h.about.cons fun w' sc older hne => by simp [liveSince, Ne.symm hne]

theorem running_of_fails (h : Fails s s') (hrun : s'.ws.status = .running) :
    s.ws.status = .running := by
  rcases h with ⟨-, hst | hst | hst⟩ | ⟨-, hst⟩ <;> rw [hst] at hrun <;>
    first | exact hrun | cases hrun

theorem LifecycleEnd.sparesAt (hend : LifecycleEnd inp s s') (h : SparesAt s trace)
    {entry : EntryPoint} (hcond : SparesLive entry inp s) : SparesAt s' trace := by
  cases hend with
  | failed hs hf hcreate =>
      rcases hcreate with hsame | hjt
      · exact h.of_same hs.wid hsame (running_of_fails hf)
      · rcases hs.debt with hsame | he
        · exact h.of_same hs.wid hsame (running_of_fails hf)
        · refine h.of_ensures hs.wid he fun hrun => ?_
          have hcs := hcond.2 (running_of_fails hf hrun)
          exact hjt.elim hcs.1 hcs.2
  | stopFailed _ _ _ hw _ hs _ he => exact h.of_ensures hw he (by simp [hs.2])
  | up hup hs =>
      refine h.of_up hs ?_
      by_contra hp
      exact hcond.1 (by simpa using hp) _ hup
  | stopped _ _ _ hw _ _ hs _ hd => exact h.of_same hw hd (by simp [hs])
  | updateStopped _ _ _ hw _ _ hs _ hd => exact h.of_same hw hd (by simp [hs])
  | deleted _ hw _ _ hs _ hd => exact h.of_same hw hd (by simp [hs])

/-- The cleanup pass of a fresh session: each call was for a pending row. -/
theorem Cleaned.sparesAt {t : Session} (hc : Cleaned s t) (h0 : s.trace = [])
    (h : SparesAt s trace) : (∀ e ∈ t.trace, e.isCall = true) ∧ SparesAt t trace := by
  obtain ⟨-, hpend, new, htr, hnew⟩ := hc.effect
  obtain rfl : t.trace = new := by simpa [h0] using htr
  have hold : CleanupSafe trace ∧ OwesNothingLive s.wid s.ws.status s.tasks trace := by
    simpa [h0] using And.intro h.safe h.debt
  have hcall : ∀ e ∈ t.trace, e.isCall = true := fun e he => by
    obtain ⟨sc, rfl, -⟩ := hnew e he
    rfl
  refine ⟨hcall, ?_, fun sc hp => ?_, fun _ _ _ _ => liveSince_append_calls hcall⟩
  · refine hold.1.append_calls hcall fun e he => ?_
    obtain ⟨sc, rfl, hp⟩ := hnew e he
    exact hold.2 sc hp
  · rw [liveSince_append_calls hcall, hc.ws, hc.wid]
    exact hold.2 sc (hpend sc hp)

theorem running_of_keeps (hst : Keeps s s' ∨ Strays s') (hrun : s'.ws.status = .running) :
    s.ws.status = .running := by
  rcases hst with hk | hs
  · rw [← hk.2]; exact hrun
  · rw [hs.2] at hrun; cases hrun

theorem AuxEnd.sparesAt (hend : AuxEnd inp s s') (h0 : s.trace = []) (h : SparesAt s trace) :
    SparesAt s' trace := by
  cases hend with
  | neutral hn hst => exact h.of_same hn.wid hn.sameDebt (running_of_keeps hst)
  | reconciled _ hc hb =>
      obtain ⟨-, ht⟩ := hc.sparesAt h0 h
      rcases hb.debt with hd | ⟨hs, he⟩
      · exact ht.of_same hb.wid hd (running_of_keeps hb.status)
      · exact ht.of_ensures hb.wid he (by simp [hs.2])

end Executions

/-! ## Steps -/

theorem IntentEffect.noLiveDebt {db db' : Db} (h : IntentEffect db db') (hinv : NoLiveDebt db) :
    NoLiveDebt db' := by
  cases h with
  | refused => exact hinv
  | @lifecycle wid ws st job configs hws _ hst _ _ _ _ =>
      refine ⟨hinv.safe, fun w ws' hw => ?_, fun w hw => ?_⟩
      · simp only [Db.queueJob, Table.lookup_insert_eq] at hw
        split at hw
        · rename_i hww
          subst hww
          obtain rfl := Option.some.inj hw
          refine fun sc hp => ⟨fun hrun => ?_, (hinv.debt w ws hws sc hp).2⟩
          rw [show st = .running from hrun] at hst
          cases hst
        · exact hinv.debt w ws' hw
      · simp only [Db.queueJob, Table.lookup_insert_eq] at hw
        split at hw
        · cases hw
        · exact hinv.fresh w hw
  | @created ws job configs hst _ _ _ =>
      refine ⟨hinv.safe, fun w ws' hw => ?_, fun w hw => ?_⟩
      · simp only [Db.queueJob, Table.lookup_insert_eq] at hw
        split at hw
        · rename_i hww
          intro sc hp
          have hnone := hinv.fresh w (by rw [hww]; exact Table.lookup_freshKey _) sc
          exact absurd hp (by simpa [Db.tasksOf, Db.queueJob] using hnone)
        · exact hinv.debt w ws' hw
      · simp only [Db.queueJob, Table.lookup_insert_eq] at hw
        split at hw
        · cases hw
        · exact hinv.fresh w hw
  | queued _ _ _ => exact ⟨hinv.safe, hinv.debt, hinv.fresh⟩

/-- A commit that spares live workspaces at its own workspace. -/
theorem NoLiveDebt.commit {db : Db} {s' : Session} (hinv : NoLiveDebt db) (jid : Nat)
    (h : SparesAt s' db.trace) : NoLiveDebt (s'.commit jid db) := by
  refine ⟨h.safe, fun w ws hws => ?_, fun w hws => ?_⟩
  · rw [commit_workspaces_lookup] at hws
    rw [commit_tasksOf, commit_trace]
    split at hws
    · rename_i hww
      obtain rfl := Option.some.inj hws
      rw [if_pos hww, hww]
      exact h.debt
    · rename_i hww
      rw [if_neg hww]
      exact fun sc hp => ⟨(hinv.debt w ws hws sc hp).1,
        (h.about w sc db.trace hww).trans (hinv.debt w ws hws sc hp).2⟩
  · rw [commit_workspaces_lookup] at hws
    rw [commit_tasksOf]
    split at hws
    · cases hws
    · rename_i hww
      rw [if_neg hww]
      exact hinv.fresh w hws

theorem Claimed.sparesAt {db : Db} {jid : Nat} {s : Session} (hcl : Claimed db jid s)
    (hinv : NoLiveDebt db) : SparesAt s db.trace := by
  refine ⟨by rw [hcl.trace]; exact hinv.safe, ?_, by rw [hcl.trace]; exact fun _ _ _ _ => rfl⟩
  rw [hcl.trace, hcl.tasks]
  exact hinv.debt s.wid s.ws hcl.ws

/-- Calls that no table remembers, each for a pending row of its workspace. -/
theorem NoLiveDebt.append_calls {db db' : Db} {new : List Event} (hinv : NoLiveDebt db)
    (hws : db'.workspaces = db.workspaces)
    (hpend : ∀ w sc, (db'.tasksOf w).isPending sc = true → (db.tasksOf w).isPending sc = true)
    (htr : db'.trace = new ++ db.trace) (hcall : ∀ e ∈ new, e.isCall = true)
    (hnew : ∀ e ∈ new, e.spares db.trace) : NoLiveDebt db' := by
  refine ⟨htr ▸ hinv.safe.append_calls hcall hnew, fun w ws hw sc hp => ?_, fun w hw sc => ?_⟩
  · rw [htr, liveSince_append_calls hcall]
    exact hinv.debt w ws (hws ▸ hw) sc (hpend w sc hp)
  · have hnone := hinv.fresh w (hws ▸ hw) sc
    by_contra hp
    exact absurd (hpend w sc (by simpa using hp)) (by simp [hnone])

theorem step_noLiveDebt (cfg : Settings) {db : Db} (hwf : WellFormed db) (hinv : NoLiveDebt db)
    {st : Step} (hst : OnExecution SparesLive db st) : NoLiveDebt (step cfg db st) := by
  have h := step_effect cfg hwf st
  generalize step cfg db st = db' at h
  cases h with
  | intent h _ => exact h.noLiveDebt hinv
  | @executed entry inp jid hex h =>
      cases h with
      | idle _ => exact hinv
      | orphan _ _ _ _ => exact ⟨hinv.safe, hinv.debt, hinv.fresh⟩
      | @committed s hs _ hend =>
          have hcl := claimJob_claimed hs
          refine hinv.commit jid ?_
          cases hend with
          | lifecycle _ h => exact h.sparesAt (hcl.sparesAt hinv) (hst _ hex s hs)
          | aux _ h => exact h.sparesAt hcl.trace (hcl.sparesAt hinv)
      | @rolledBack s t hs _ ht =>
          have hcl := claimJob_claimed hs
          obtain ⟨hcall, hsp⟩ := ht.sparesAt hcl.trace (hcl.sparesAt hinv)
          rw [List.filter_eq_self.mpr hcall]
          exact ⟨hsp.safe, fun w ws hw sc hp => by
            rw [liveSince_append_calls hcall]; exact hinv.debt w ws hw sc hp, hinv.fresh⟩
  | drained h _ =>
      obtain ⟨new, htr, hnew⟩ := h.calls
      refine hinv.append_calls h.workspaces h.pending htr (fun e he => ?_) fun e he => ?_
      · obtain ⟨w, sc, ws, rfl, -⟩ := hnew e he
        rfl
      · obtain ⟨w, sc, ws, rfl, hws, hp⟩ := hnew e he
        exact hinv.debt w ws hws sc hp

/-! ## Runs -/

theorem noLiveDebt_initDb (nodes : Table Nat ExecutionNode) (topologies : List Int) :
    NoLiveDebt (initDb nodes topologies) := by
  refine ⟨trivial, fun w ws h => by simp [initDb] at h, fun w _ sc => ?_⟩
  cases sc <;> rfl

/-- **Durable cleanup never tears down a live workspace** in a run where no bring-up
succeeds while a row of its workspace is pending and none begins on a running workspace. -/
theorem cleanup_spares_live {cfg : Settings} {nodes : Table Nat ExecutionNode}
    {topologies : List Int} {steps : List Step}
    (h : Along (step cfg) (OnExecution SparesLive) (initDb nodes topologies) steps) :
    CleanupSafe (run (step cfg) (initDb nodes topologies) steps).trace := by
  have hinv := run_of_along (Q := fun db => WellFormed db ∧ NoLiveDebt db)
    ⟨wellFormed_initDb nodes topologies, noLiveDebt_initDb nodes topologies⟩
    (fun db st ⟨hwf, hd⟩ hst => ⟨wellFormed_step cfg hwf st, step_noLiveDebt cfg hwf hd hst⟩) h
  exact hinv.2.safe

/-! ## A rollback that failed, and the retry that worked -/

def stoppedOrch : OrchestratorService :=
  { sampleOrch with
    stopWorkspaceRuntime := .returned { success := true, topologyDetached := some false } }

/-- The drain finds the orchestrator willing. -/
def drainOne : Step :=
  .drainPendingCleanupTasks
    [{ wid := 1, stop := fun _ => .returned { success := true, containerId := some "c1" } }]

/-- A stopped workspace is started; the first attempt fails and its rollback too. -/
def failedStartRun : List Step :=
  [.createWorkspace { now := 0 } 7 "a" {},
   .processNextQueuedJob (sampleWorker 1 stoppedOrch) 1,
   .requestStopWorkspace { now := 2 } 1 7 7,
   .processNextQueuedJob (sampleWorker 3 stoppedOrch) 2,
   .requestStartWorkspace { now := 4 } 1 7 7,
   .processNextQueuedJob (sampleWorker 5 failedRollbackOrch) 3]

/-- The second attempt. -/
def retryStart : Step := .processNextQueuedJob (sampleWorker 60 stoppedOrch) 3

/-- Drained before the retry, the debt is gone when the container comes up. -/
theorem drain_then_retry_safe :
    Along (step {}) (OnExecution SparesLive) sampleDb
        (failedStartRun ++ [drainOne, retryStart, drainOne]) ∧
      CleanupSafe (run (step {}) sampleDb (failedStartRun ++ [drainOne, retryStart, drainOne])).trace := by
  have hcheck : Along (step {}) (fun db st => st.claimPasses
        (fun _ s => !s.tasks.anyPending && s.ws.status != .running) db = true) sampleDb
      (failedStartRun ++ [drainOne, retryStart, drainOne]) := by decide +kernel
  have halong : Along (step {}) (OnExecution SparesLive) sampleDb
      (failedStartRun ++ [drainOne, retryStart, drainOne]) := by
    refine hcheck.mono (OnExecution.of_claimPasses fun entry inp s h => ?_)
    simp only [Bool.and_eq_true, Bool.not_eq_true', bne_iff_ne, ne_eq] at h
    exact ⟨fun hp => absurd hp (by simp [h.1]), fun hr => absurd hr h.2⟩
  have hsafe := @cleanup_spares_live {} (AList.insert 1 sampleNode ∅) [1] _ halong
  exact ⟨halong, hsafe⟩

/-- Retried before the drain, the container comes up while the row is still pending, and
the drain stops it. -/
theorem drain_stops_live_workspace :
    ¬ ∀ db, Reachable (step {}) sampleDb db → CleanupSafe db.trace := by
  intro h
  have hsafe := h _ ⟨failedStartRun ++ [retryStart, drainOne], rfl⟩
  have htrace : (run (step {}) sampleDb (failedStartRun ++ [retryStart, drainOne])).trace =
      [.cleanupStop 1 .bringupRollback .running, .bringUpSucceeded 1 .start,
       .taskPending 1 .bringupRollback, .bringUpSucceeded 1 .create] := by decide
  rw [htrace] at hsafe
  exact hsafe.1.1 rfl

end Devnest
