import Devnest.Steps

/-!
# A stopped workspace can be placed again

The resolver takes a runtime row at its word only when the row is
complete, and in strict mode refuses the job otherwise. Bring-ups write
complete rows; a successful stop forgets the topology unless its result
says that the topology was not detached. So a row that still names its
node is complete in every state of a run exactly as long as the stops
of the run leave the topology in place.
-/

namespace Devnest

open PyText Runs

/-! ## Complete rows -/

/-- A row that names a node also names a topology. -/
def Placed (p : Option (Option String × Option Int)) : Prop :=
  ∀ q, p = some q → stripOr q.1 ≠ "" → q.2.isSome

def RowsPlaced (db : Db) : Prop :=
  ∀ w, Placed ((db.runtimes.lookup w).map (·.placement))

/-- The node of a result comes with a topology id that parses. -/
def FactsPlaced (nodeId topologyId : Option String) : Prop :=
  Placed (some (nodeId, parseTopologyId topologyId))

/-- Every result that reports a container on a node also reports its topology. -/
structure WellFormedResults (inp : WorkerInput) : Prop where
  bringUp : ∀ res, inp.orch.bringUpWorkspaceRuntime = .returned res → res.success = true →
    FactsPlaced res.nodeId res.topologyId
  restart : ∀ res, inp.orch.restartWorkspaceRuntime = .returned res → res.success = true →
    FactsPlaced res.nodeId res.topologyId
  update : ∀ res, inp.orch.updateWorkspaceRuntime = .returned res →
    res.success = true ∨ res.noOp = true → FactsPlaced res.nodeId res.topologyId
  health : ∀ res, inp.orch.checkWorkspaceRuntimeHealth = .returned res → res.success = true →
    FactsPlaced res.nodeId res.topologyId

/-- The execution asks for a stop and takes over its result: a `STOP`, or a reconcile of a
`STOPPED` or `ERROR` workspace. -/
def AppliesStop (s : Session) : Prop :=
  s.job.jobType = .stop ∨
    (s.job.jobType = .reconcileRuntime ∧ (s.ws.status = .stopped ∨ s.ws.status = .error))

/-- A successful stop of a workspace that has a node says that its topology stays. -/
def StopKeepsTopology (inp : WorkerInput) (s : Session) : Prop :=
  AppliesStop s → stripOr (s.rt.bind (·.nodeId)) ≠ "" →
    ∀ res, inp.orch.stopWorkspaceRuntime = .returned res → res.success = true →
      res.topologyDetached = some false

/-! ## Executions -/

section Executions

variable {inp : WorkerInput} {s s' : Session}

theorem stopPlacement_placed {p : Option (Option String × Option Int)} {res : WorkspaceStopResult}
    (hp : Placed p) (hdet : stripOr (p.bind Prod.fst) ≠ "" → res.topologyDetached = some false) :
    Placed (some (stopPlacement p res)) := by
  rintro _ ⟨⟩ hn
  have hkeep := hdet hn
  cases p with
  | none => exact absurd rfl hn
  | some q => simpa [stopPlacement, hkeep] using hp q rfl hn

theorem rt_bind_nodeId (rt : Option WorkspaceRuntime) :
    (rt.map (·.placement)).bind Prod.fst = rt.bind (·.nodeId) := by
  cases rt <;> rfl

theorem SaysUp.placed {jt : WorkspaceJobType} {f : RuntimeFacts} (h : SaysUp inp jt f)
    (hwf : WellFormedResults inp) : FactsPlaced f.nodeId f.topologyId := by
  cases h with
  | create h hs => exact hwf.bringUp _ h hs
  | start h hs => exact hwf.bringUp _ h hs
  | restart h hs => exact hwf.restart _ h hs
  | update h hs => exact hwf.update _ h (.inl hs)

theorem LifecycleEnd.placed (h : LifecycleEnd inp s s') (hwf : WellFormedResults inp)
    (hstop : StopKeepsTopology inp s) (hp : Placed (s.rt.map (·.placement))) :
    Placed (s'.rt.map (·.placement)) := by
  cases h with
  | failed h _ _ => rw [h.row]; exact hp
  | stopFailed _ _ _ _ _ _ hrow _ => rw [hrow]; exact hp
  | up hup h => rw [h.row]; exact hup.placed hwf
  | stopped hjt hres hsucc _ _ _ _ hrow _ =>
      rw [hrow]
      refine stopPlacement_placed hp fun hn => hstop (.inl hjt) ?_ _ hres hsucc
      rwa [rt_bind_nodeId] at hn
  | updateStopped _ hres hnoop _ _ _ _ hrow _ =>
      rw [hrow]
      exact hwf.update _ hres (.inr hnoop)
  | deleted _ _ _ _ _ hrow _ => rw [hrow]; exact fun _ h => by cases h

theorem AuxEnd.placed (h : AuxEnd inp s s') (hwf : WellFormedResults inp)
    (hstop : StopKeepsTopology inp s) (hp : Placed (s.rt.map (·.placement))) :
    Placed (s'.rt.map (·.placement)) := by
  cases h with
  | neutral h _ => rw [h.row]; exact hp
  | @reconciled t hjt hc h =>
      have hrow : t.rt.map (·.placement) = s.rt.map (·.placement) := hc.effect.placement
      cases h.row with
      | same h => rw [h, hrow]; exact hp
      | stopped hres hsucc hst h =>
          rw [h, hrow]
          rw [hc.ws] at hst
          refine stopPlacement_placed hp fun hn => hstop (.inr ⟨hjt, hst⟩) ?_ _ hres hsucc
          rwa [rt_bind_nodeId] at hn
      | healthy hres hsucc _ h =>
          rw [h]
          exact hwf.health _ hres hsucc

end Executions

/-! ## Runs -/

/-- The condition on one execution. -/
def ResultsKeepTopology (_ : EntryPoint) (inp : WorkerInput) (s : Session) : Prop :=
  WellFormedResults inp ∧ StopKeepsTopology inp s

theorem step_rowsPlaced (cfg : Settings) {db : Db} (hwf : WellFormed db) (hp : RowsPlaced db)
    {st : Step} (hst : OnExecution ResultsKeepTopology db st) : RowsPlaced (step cfg db st) := by
  have h := step_effect cfg hwf st
  generalize step cfg db st = db' at h
  cases h with
  | intent h _ => cases h <;> exact hp
  | @executed entry inp jid hex h =>
      cases h with
      | idle _ => exact hp
      | orphan _ _ _ _ => exact hp
      | @committed s hs _ hend =>
          have hcl := claimJob_claimed hs
          obtain ⟨hres, hstop⟩ := hst _ hex s hs
          have hps : Placed (s.rt.map (·.placement)) := by rw [hcl.rt]; exact hp s.wid
          intro w
          rw [commit_runtimes_lookup, hend.target.1]
          by_cases hw : w = s.wid
          · rw [if_pos hw]
            cases hend with
            | lifecycle _ h => exact h.placed hres hstop hps
            | aux _ h => exact h.placed hres hstop hps
          · rw [if_neg hw]
            exact hp w
      | rolledBack _ _ _ => exact hp
  | drained h _ => exact fun w => by rw [h.rows]; exact hp w

/-- The runtime row names a node of the catalog that has a default topology. -/
def NamesNode (db : Db) (w : Nat) : Prop :=
  ∃ r node tid, db.runtimes.lookup w = some r ∧
    executionNodeByKey db.executionNodes (stripOr r.nodeId) = some node ∧
    node.defaultTopologyId = some tid

/-- The resolver places the next job of `w`, whatever its type (`CREATE` apart). -/
def Resumes (cfg : Settings) (db : Db) (w : Nat) : Prop :=
  ∀ ws job inp, db.workspaces.lookup w = some ws → job.workspaceId = w → job.jobType ≠ .create →
    ∃ p, resolveOrchestratorPlacement cfg inp (Session.load db job ws) = .ok p

theorem RowsPlaced.resumes {cfg : Settings} {db : Db} (hp : RowsPlaced db) {w : Nat}
    (hn : NamesNode db w) : Resumes cfg db w := by
  obtain ⟨r, node, tid, hr, hnode, -⟩ := hn
  rintro ws job inp - rfl hjt
  have hne : stripOr r.nodeId ≠ "" := by
    intro h
    rw [h] at hnode
    cases hnode
  obtain ⟨t, ht⟩ := Option.isSome_iff_exists.mp (hp job.workspaceId r.placement (by rw [hr]; rfl) hne)
  exact ⟨_, resolve_of_complete hr hne ht hjt⟩

/-- **A stopped workspace can be resumed and deleted**: after every run whose results are
well formed and whose successful stops leave the topology in place, a workspace whose row
still names its node is placed for its next job. -/
theorem resumes_of_stops_keep_topology {cfg : Settings} {nodes : Table Nat ExecutionNode}
    {topologies : List Int} {steps : List Step}
    (h : Along (step cfg) (OnExecution ResultsKeepTopology) (initDb nodes topologies) steps)
    {w : Nat} (hn : NamesNode (run (step cfg) (initDb nodes topologies) steps) w) :
    Resumes cfg (run (step cfg) (initDb nodes topologies) steps) w := by
  have hinv : WellFormed (run (step cfg) (initDb nodes topologies) steps) ∧
      RowsPlaced (run (step cfg) (initDb nodes topologies) steps) := by
    refine run_of_along (Q := fun db => WellFormed db ∧ RowsPlaced db)
      ⟨wellFormed_initDb nodes topologies, fun w q hq => by simp [initDb] at hq⟩ ?_ h
    intro db st hdb hst
    exact ⟨wellFormed_step cfg hdb.1 st, step_rowsPlaced cfg hdb.1 hdb.2 hst⟩
  exact hinv.2.resumes hn

/-- A stop whose result says what became of the topology. -/
def stopOrch (detached : Option Bool) : OrchestratorService :=
  { sampleOrch with
    stopWorkspaceRuntime := .returned { success := true, topologyDetached := detached } }

/-- Create, bring up, stop. -/
def stopRun (detached : Option Bool) : List Step :=
  [.createWorkspace { now := 0 } 7 "a" {},
   .processNextQueuedJob (sampleWorker 1 (stopOrch detached)) 1,
   .requestStopWorkspace { now := 2 } 1 7 7,
   .processNextQueuedJob (sampleWorker 3 (stopOrch detached)) 2]

theorem stopRun_resumes :
    NamesNode (run (step {}) sampleDb (stopRun (some false))) 1 ∧
      Resumes {} (run (step {}) sampleDb (stopRun (some false))) 1 := by
  have hn : NamesNode (run (step {}) sampleDb (stopRun (some false))) 1 :=
    ⟨_, sampleNode, 1, rfl, rfl, rfl⟩
  refine ⟨hn, resumes_of_stops_keep_topology ?_ hn⟩
  have hC : ∀ now db jid, ∀ s ∈ claimJob (sampleWorker now (stopOrch (some false))) jid db,
      ResultsKeepTopology .runPendingJobs (sampleWorker now (stopOrch (some false))) s := by
    refine fun now db jid s _ => ⟨⟨?_, ?_, ?_, ?_⟩, ?_⟩
    · rintro _ ⟨⟩ - _ ⟨⟩ -
      decide
    · rintro _ ⟨⟩
    · rintro _ ⟨⟩
    · rintro _ ⟨⟩
    · rintro - - _ ⟨⟩ -
      rfl
  exact ⟨.of_none rfl, .of_claim (hC 1 _ _), .of_none rfl, .of_claim (hC 3 _ _), trivial⟩

/-- A `STOP` whose result says that the topology was detached leaves a row with a node and
no topology, and the next `START` is refused. -/
theorem stop_forgets_topology :
    placementStrictEnforced {} = true ∧
      ¬ ∀ db, Reachable (step {}) sampleDb db → ∀ w ws jid job,
        db.workspaces.lookup w = some ws → ws.status = .stopped →
        db.jobs.lookup jid = some job → job.workspaceId = w → job.jobType = .stop →
        job.status = .succeeded → NamesNode db w → Resumes {} db w := by
  refine ⟨rfl, fun h => ?_⟩
  have hdb : Reachable (step {}) sampleDb (run (step {}) sampleDb (stopRun (some true))) :=
    ⟨_, rfl⟩
  have hws : ((run (step {}) sampleDb (stopRun (some true))).workspaces.lookup 1).map (·.status) =
      some .stopped := by decide
  have hjob : ((run (step {}) sampleDb (stopRun (some true))).jobs.lookup 2).map
      (fun j => (j.workspaceId, j.jobType, j.status)) = some (1, .stop, .succeeded) := by decide
  have hrt : ((run (step {}) sampleDb (stopRun (some true))).runtimes.lookup 1).map (·.placement) =
      some (some "node-1", none) := by decide
  have hnode : executionNodeByKey (run (step {}) sampleDb (stopRun (some true))).executionNodes
      "node-1" = some sampleNode := by decide
  generalize run (step {}) sampleDb (stopRun (some true)) = db at hdb hws hjob hrt hnode
  obtain ⟨ws, hws, hst⟩ := Option.map_eq_some_iff.mp hws
  obtain ⟨job, hjob, hj⟩ := Option.map_eq_some_iff.mp hjob
  obtain ⟨r, hr, hp⟩ := Option.map_eq_some_iff.mp hrt
  obtain ⟨hn, ht⟩ : r.nodeId = some "node-1" ∧ r.topologyId = none := by
    simpa [WorkspaceRuntime.placement] using hp
  simp only [Prod.mk.injEq] at hj
  have hres := h db hdb 1 ws 2 job hws hst hjob hj.1 hj.2.1 hj.2.2
    ⟨r, sampleNode, 1, hr, by rw [hn]; exact hnode, rfl⟩
  let start : WorkspaceJob := { workspaceId := 1, jobType := .start, requestedByUserId := 7
                                requestedConfigVersion := 1, createdAt := 4 }
  obtain ⟨p, hp⟩ := hres ws start { schedule := .chosen sampleNode } hws rfl (by decide)
  have hrefused : ∃ m, resolveOrchestratorPlacement {} { schedule := .chosen sampleNode }
      (Session.load db start ws) = .error (.authoritativePlacement m) := by
    refine resolve_of_incomplete rfl ?_ (fun _ => ?_) (by simp [Session.load, start]) rfl
    · simp [Session.load, start, hr, runtimePlacementRowComplete, ht]
    · simp [Session.load, start, hr]
  obtain ⟨m, hm⟩ := hrefused
  rw [hm] at hp
  cases hp

end Devnest
