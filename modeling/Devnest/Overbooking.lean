import Devnest.AppliedLimits
import Devnest.BusyJobs
import Devnest.NodeCapacity

/-!
# Overbooking

Executions of lifecycle jobs side by side, cut where they read and where
they commit. A claim resolves the placement: when it comes to the scheduler,
the query reads the committed rows and locks the node's row. The lock ends
with the first commit of the topology adapter, and a query that waited for
it answers from the rows it read before, since the node's row has not
changed. What the job takes is written by its last commit, whatever was
booked in between; and a job that finds its node in the runtime row, or is
pinned by the operator, asks no one.

`placement_never_overbooks` needs of every booking that it fits beside the
node's other workspaces when it is committed. For a job of the scheduler
it is enough that the node holds no more than its query read.
-/

namespace Devnest

open PyText Runs

/-! ## Requests -/

/-- The requests that queue a lifecycle job. -/
inductive LifecycleRequest where
  | create (inp : IntentInput) (owner : Nat) (name : String) (config : WorkspaceConfig)
  | start (inp : IntentInput) (wid owner user : Nat)
  | stop (inp : IntentInput) (wid owner user : Nat)
  | restart (inp : IntentInput) (wid owner user : Nat)
  | delete (inp : IntentInput) (wid owner user : Nat)
  | update (inp : IntentInput) (wid owner user : Nat) (config : WorkspaceConfig)

namespace LifecycleRequest

def answer (db : Db) : LifecycleRequest → Except IntentError Db
  | create inp owner name config => createWorkspace db inp owner name config
  | start inp wid owner user => requestStartWorkspace db inp wid owner user
  | stop inp wid owner user => requestStopWorkspace db inp wid owner user
  | restart inp wid owner user => requestRestartWorkspace db inp wid owner user
  | delete inp wid owner user => requestDeleteWorkspace db inp wid owner user
  | update inp wid owner user config => requestUpdateWorkspace db inp wid owner user config

/-- The workspace the request is about, if there is one already. -/
def target : LifecycleRequest → Option Nat
  | create _ _ _ _ => none
  | start _ wid _ _ | stop _ wid _ _ | restart _ wid _ _ | delete _ wid _ _
  | update _ wid _ _ _ => some wid

end LifecycleRequest

/-! ## Executions -/

/-- The lock of the chosen node's row, as one execution sees it. -/
inductive NodeLock where
  | none | waiting | held
  deriving DecidableEq, Repr

/-- A worker between its claim and its last commit. -/
structure PlacedJob where
  jid : Nat
  entry : EntryPoint
  /-- The job row as the session has it. -/
  row : WorkspaceJob
  placement : Except PlacementError (String × Int)
  /-- The node the query chose, and the load it read there. -/
  picked : Option (String × Load) := none
  lock : NodeLock := .none

/-- The placement was resolved, so an orchestrator may work for the job. -/
def PlacedJob.isPlaced (e : PlacedJob) : Bool :=
  match e.placement with
  | .ok _ => true
  | .error _ => false

structure BookState where
  db : Db
  live : Table Nat PlacedJob := ∅
  claims : Nat := 0

section Executions

variable (cfg : Settings) (caps : Table String NodeCapacity)

/-- The branches of `resolve_orchestrator_placement` that end in the scheduler. -/
def asksScheduler (s : Session) : Bool :=
  match s.job.jobType with
  | .create => !workspaceUsesOperatorPinnedCreate cfg s.ws
  | .start => !runtimePlacementRowComplete s.rt && !(s.rt.isSome && placementStrictEnforced cfg)
  | _ => false

/-- The node key an orchestrator is built with. -/
def orchestratorNodeKey (key : String) : String :=
  if strip key = "" then nodeKeyFromEnv cfg else strip key

/-- Another execution holds the lock of the node's row. -/
def BookState.lockedBy (st : BookState) (c : Nat) (key : String) : Bool :=
  st.live.entries.any fun e => e.1 != c && e.2.lock = .held && e.2.picked.any fun p => p.1 = key

/-- The rows of the execution's session. -/
def PlacedJob.session (db : Db) (e : PlacedJob) : Option Session :=
  (db.workspaces.lookup e.row.workspaceId).map fun ws => Session.load db e.row ws

/-- Every result of an orchestrator names the node it was built for. -/
def OrchestratorService.onNode (key : String) (o : OrchestratorService) : OrchestratorService :=
  { o with
    bringUpWorkspaceRuntime := match o.bringUpWorkspaceRuntime with
      | .returned r => .returned { r with nodeId := some key }
      | .raised e => .raised e
      | .crashed => .crashed
    restartWorkspaceRuntime := match o.restartWorkspaceRuntime with
      | .returned r => .returned { r with nodeId := some key }
      | .raised e => .raised e
      | .crashed => .crashed
    updateWorkspaceRuntime := match o.updateWorkspaceRuntime with
      | .returned r => .returned { r with nodeId := some key }
      | .raised e => .raised e
      | .crashed => .crashed }

/-- The worker's surroundings once the placement is known. -/
def WorkerInput.onNode (inp : WorkerInput) (key : String) : WorkerInput :=
  { inp with orch := inp.orch.onNode key }

/-- `executeClaimedJob` from the placement on. -/
def processPlacedJob (inp : WorkerInput) (e : PlacedJob) (s : Session) : Execution :=
  if e.entry = .runPendingJobs && s.job.jobType = .delete && s.rt.isNone then
    ⟨finalizeDeleteRuntimeMissingIdempotent inp.clk s, true⟩
  else match e.placement with
    | .error err => ⟨failJobFromPlacement cfg inp s err, true⟩
    | .ok (nodeKey, _) =>
        match inp.binding with
        | .crashed => ⟨s, false⟩
        | .failed m => ⟨failJobFromOrchestratorBinding cfg inp s m, true⟩
        | .bound => processClaimedRunningJob cfg (inp.onNode (orchestratorNodeKey cfg nodeKey))
            (beginCreateBringupAfterPlacement s) (some nodeKey)

/-- The execution a claim starts, for a session with its job row marked `RUNNING`. -/
def placeJob (query : SchedulerInput) (staleHeartbeat : Option String) (entry : EntryPoint)
    (jid : Nat) (db : Db) (s : Session) : PlacedJob :=
  let schedule := selectNodeForWorkspace cfg caps query db
  { jid, entry, row := s.job
    placement := resolveOrchestratorPlacement cfg { schedule, staleHeartbeat } s
    picked := match schedule with
      | .chosen node =>
          if asksScheduler cfg s then some (node.nodeKey, db.load node.nodeKey) else none
      | .invalidRequest _ | .noNode _ => none }

/-- `FOR UPDATE SKIP LOCKED`: a row that another worker has claimed is passed over. -/
def claimStep (st : BookState) (entry : EntryPoint) (clk : Clock) (query : SchedulerInput)
    (staleHeartbeat : Option String) (jid : Nat) : BookState :=
  match st.db.jobs.lookup jid with
  | none => st
  | some job =>
      if !queuedJobEligible clk job || !job.jobType.isLifecycle ||
          st.live.entries.any (fun e => e.2.jid = jid) then st
      else match st.db.workspaces.lookup job.workspaceId with
        | none => st
        | some ws =>
            let e := placeJob cfg caps query staleHeartbeat entry jid st.db
              (Session.load st.db (markJobRunning clk job) ws)
            let lock := match e.picked with
              | none => NodeLock.none
              | some p => if st.lockedBy st.claims p.1 then .waiting else .held
            { st with
              live := st.live.insert st.claims { e with lock := lock }
              claims := st.claims + 1 }

def lockStep (st : BookState) (c : Nat) (e : PlacedJob) : BookState :=
  if e.lock = .waiting && !e.picked.any fun p => st.lockedBy c p.1 then
    { st with live := st.live.insert c { e with lock := .held } }
  else st

/-- The first commit shows the claim and a `CREATING` workspace; every commit ends the lock. -/
def adapterCommitStep (st : BookState) (c : Nat) (e : PlacedJob) (s : Session) : BookState :=
  if e.lock = .waiting || !e.isPlaced then st
  else
    { st with
      db := (beginCreateBringupAfterPlacement s).commit e.jid st.db
      live := st.live.insert c { e with lock := .none } }

def finishStep (inp : WorkerInput) (st : BookState) (c : Nat) (e : PlacedJob) (s : Session) :
    BookState :=
  if e.lock = .waiting then st
  else
    let ex := processPlacedJob cfg inp e s
    { st with
      db := if ex.committed then ex.session.commit e.jid st.db else ex.session.rollback st.db
      live := st.live.erase c }

inductive BookStep where
  | request (q : LifecycleRequest)
  /-- A worker claims a queued lifecycle job and resolves its placement. -/
  | claim (entry : EntryPoint) (clk : Clock) (query : SchedulerInput)
      (staleHeartbeat : Option String) (jid : Nat)
  /-- The lock an execution waits for is given to it. -/
  | lockNode (c : Nat)
  /-- The adapter commits the worker's session. -/
  | adapterCommit (c : Nat)
  | finish (c : Nat) (inp : WorkerInput)

/-- A step that waits for a lock does nothing. -/
def bookStep (st : BookState) : BookStep → BookState
  | .request q => { st with db := accepted st.db (q.answer st.db) }
  | .claim entry clk query staleHeartbeat jid =>
      claimStep cfg caps st entry clk query staleHeartbeat jid
  | .lockNode c =>
      match st.live.lookup c with
      | none => st
      | some e => lockStep st c e
  | .adapterCommit c =>
      match st.live.lookup c with
      | none => st
      | some e =>
          match e.session st.db with
          | none => st
          | some s => adapterCommitStep st c e s
  | .finish c inp =>
      match st.live.lookup c with
      | none => st
      | some e =>
          match e.session st.db with
          | none => st
          | some s => finishStep cfg inp st c e s

end Executions

/-! ## Without interruption

A claim whose execution ends at once does to the tables what `runJob` does. -/

section Alone

variable {cfg : Settings} {caps : Table String NodeCapacity} {inp : WorkerInput}

theorem processPlacedJob_eq {e : PlacedJob} {s : Session} (hjt : s.job.jobType.isLifecycle = true)
    (hplace : e.placement = resolveOrchestratorPlacement cfg inp.placement s)
    (horch : ∀ nodeKey tid, e.placement = .ok (nodeKey, tid) →
      inp.onNode (orchestratorNodeKey cfg nodeKey) = inp) :
    processPlacedJob cfg inp e s = executeClaimedJob cfg inp e.entry s := by
  have hrepo : s.job.jobType ≠ .repoImport := by
    intro h
    rw [h] at hjt
    cases hjt
  unfold processPlacedJob executeClaimedJob placeAndProcess
  rw [← hplace]
  split
  · rfl
  · cases hp : e.placement with
    | error err => rfl
    | ok place =>
        obtain ⟨nodeKey, tid⟩ := place
        cases inp.binding <;> simp only [horch nodeKey tid hp]

variable (cfg caps) in
/-- A claim with no other execution under way waits for no lock. -/
theorem claimStep_alone {db : Db} {jid : Nat} {s : Session} (hs : claimJob inp jid db = some s)
    (hjt : s.job.jobType.isLifecycle = true) (query : SchedulerInput)
    (staleHeartbeat : Option String) (entry : EntryPoint) :
    ∃ e, claimStep cfg caps { db := db } entry inp.clk query staleHeartbeat jid =
        { db := db, live := AList.insert 0 e ∅, claims := 1 } ∧
      e.session db = some s ∧ e.jid = jid ∧ e.entry = entry ∧ e.lock ≠ .waiting ∧
      e.placement = resolveOrchestratorPlacement cfg
        ⟨selectNodeForWorkspace cfg caps query db, staleHeartbeat⟩ s := by
  unfold claimJob at hs
  split at hs
  · cases hs
  · rename_i job hjob
    split at hs
    · cases hs
    · rename_i helig
      obtain ⟨ws, hws, rfl⟩ := Option.map_eq_some_iff.mp hs
      have helig : queuedJobEligible inp.clk job = true := by simpa using helig
      have hjt' : job.jobType.isLifecycle = true := hjt
      have hempty : (∅ : Table Nat PlacedJob).entries.any (fun e => e.2.jid = jid) = false := rfl
      unfold claimStep
      simp only [hjob, helig, hjt', hws, hempty, Bool.not_true, Bool.or_false, Bool.false_eq_true,
        if_false]
      refine ⟨_, rfl, ?_, rfl, rfl, ?_, rfl⟩
      · exact Option.map_eq_some_iff.mpr ⟨ws, hws, rfl⟩
      · dsimp only
        split
        · intro h
          cases h
        · rw [if_neg (by exact Bool.false_ne_true)]
          intro h
          cases h

theorem claim_finish_db {db : Db} {jid : Nat} {s : Session} {entry : EntryPoint}
    {query : SchedulerInput} (hs : claimJob inp jid db = some s)
    (hjt : s.job.jobType.isLifecycle = true)
    (hquery : inp.placement.schedule = selectNodeForWorkspace cfg caps query db)
    (horch : ∀ nodeKey tid, resolveOrchestratorPlacement cfg inp.placement s = .ok (nodeKey, tid) →
      inp.onNode (orchestratorNodeKey cfg nodeKey) = inp) :
    (run (bookStep cfg caps) { db := db }
        [.claim entry inp.clk query inp.placement.staleHeartbeat jid, .finish 0 inp]).db =
      runJob cfg entry inp jid db := by
  obtain ⟨e, hclaim, hses, rfl, rfl, hlock, hplace⟩ := claimStep_alone cfg caps hs hjt query
    inp.placement.staleHeartbeat entry
  rw [← hquery] at hplace
  have hplace : e.placement = resolveOrchestratorPlacement cfg inp.placement s := hplace
  have hexec := processPlacedJob_eq hjt hplace (by rw [hplace]; exact horch)
  rw [runJob_of_claim hs, ← hexec]
  simp only [run_cons, run_nil, bookStep, hclaim, Table.lookup_insert_eq, if_true, hses, finishStep,
    if_neg hlock]

end Alone

/-! ## The law and its condition -/

section Law

variable (cfg : Settings) (caps : Table String NodeCapacity)

/-- No node holds more than its capacity: neither workspaces, nor cpu, memory or disk. -/
def WithinCapacity (db : Db) : Prop :=
  ∀ key cap, caps.lookup key = some cap → db.load key ≤ cap.limits

/-- Workspace `w` can hold `u` on the node beside the others. -/
def fitsBeside (db : Db) (key : String) (w : Nat) (u : Load) : Bool :=
  (caps.lookup key).all fun cap => decide (db.loadBeside key w + u ≤ cap.limits)

/-- If `w` is settled and counts again, what its row holds fits. -/
def reopeningFits (db : Db) (w : Nat) : Bool :=
  match db.workspaces.lookup w, db.runtimes.lookup w with
  | some ws, some r =>
      !ws.status.isSettled || r.nodeId.all fun key => fitsBeside caps db key w r.booking
  | _, _ => true

/-- The node holds no more than the query read there, or the workspace fits beside the
others. -/
def bookingFits (db : Db) (e : PlacedJob) : Bool :=
  match e.placement with
  | .error _ => true
  | .ok (nodeKey, _) =>
      let key := orchestratorNodeKey cfg nodeKey
      e.picked.any (fun p => p.1 = key && db.load key ≤ p.2) ||
        fitsBeside caps db key e.row.workspaceId (workspaceUnit cfg)

/-- The orchestrator's answer to a job of this type says that a container is up. -/
def OrchestratorService.saysUp (o : OrchestratorService) : WorkspaceJobType → Bool
  | .create | .start => match o.bringUpWorkspaceRuntime with
      | .returned r => r.success
      | _ => false
  | .restart => match o.restartWorkspaceRuntime with
      | .returned r => r.success
      | _ => false
  | .update => match o.updateWorkspaceRuntime with
      | .returned r => r.success
      | _ => false
  | _ => false

/-- What a step books fits when it is committed. -/
def booksWithinCapacity (st : BookState) : BookStep → Bool
  | .request q =>
      match q.answer st.db with
      | .ok _ => q.target.all fun w => reopeningFits caps st.db w
      | .error _ => true
  | .finish c inp =>
      (st.live.lookup c).all fun e =>
        !inp.orch.saysUp e.row.jobType || bookingFits cfg caps st.db e
  | .claim _ _ _ _ _ | .lockNode _ | .adapterCommit _ => true

end Law

/-! ## How an execution leaves the booking -/

/-- The row is on the same node, with the same reservation or none. -/
def BooksNoMore (rt rt' : Option WorkspaceRuntime) : Prop :=
  ∀ r' ∈ rt', ∃ r ∈ rt, r'.nodeId = r.nodeId ∧ (r'.reserved = r.reserved ∨ r'.Released)

theorem BooksNoMore.refl (rt : Option WorkspaceRuntime) : BooksNoMore rt rt :=
  fun r hr => ⟨r, hr, rfl, .inl rfl⟩

theorem BooksNoMore.sound {rt rt' : Option WorkspaceRuntime} (h : BooksNoMore rt rt')
    (hsound : ∀ r ∈ rt, r.Sound) : ∀ r ∈ rt', r.Sound := by
  intro r' hr'
  obtain ⟨r, hr, -, hres | hres⟩ := h r' hr'
  · exact (WorkspaceRuntime.sound_congr hres).mpr (hsound r hr)
  · exact hres.sound

/-- The workspace stops counting, keeps its booking or less, or comes up. -/
inductive BookingEnd (cfg : Settings) (inp : WorkerInput) (s s' : Session) : Prop
  | settled (h : s'.ws.status.isSettled = true)
      (hsound : (∀ r ∈ s.rt, r.Sound) → ∀ r ∈ s'.rt, r.Sound)
  | kept (h : BooksNoMore s.rt s'.rt)
  | up {f : RuntimeFacts} (hup : SaysUp inp s.job.jobType f) (hrec : RecordsUp cfg inp s f s')

section Ends

variable (cfg : Settings) (inp : WorkerInput) {s : Session}

/-- A failure for good: the workspace is settled and the reservation cleared. -/
def GivesUp (s s' : Session) : Prop :=
  s'.ws.status.isSettled = true ∧ s'.rt = clearRuntimeCapacityReservation s.rt

theorem GivesUp.booking {s₀ s' : Session} (h : GivesUp s₀ s') (hrt : BooksNoMore s.rt s₀.rt) :
    BookingEnd cfg inp s s' := by
  refine .settled h.1 fun hsound => ?_
  rw [h.2]
  exact (clearRuntimeCapacityReservation_ok (hrt.sound hsound) .running).sound

theorem retryElse_booking {s₀ terminal : Session} {retryable : Bool} {m : String}
    {stage : FailureStage} {code : String} (h : BooksNoMore s.rt s₀.rt) (ht : GivesUp s₀ terminal) :
    BookingEnd cfg inp s (retryElse cfg inp.clk s₀ retryable m stage code terminal) :=
  retryElse_elim (P := BookingEnd cfg inp s) cfg inp.clk (fun _ _ _ => .kept h) (ht.booking cfg inp h)

theorem waitElse_booking {s₀ terminal : Session} {m code reason : String}
    (h : BooksNoMore s.rt s₀.rt) (ht : GivesUp s₀ terminal) :
    BookingEnd cfg inp s (waitElse cfg inp.clk s₀ m code reason terminal) :=
  waitElse_elim (P := BookingEnd cfg inp s) cfg inp.clk (fun _ _ _ => .kept h) (ht.booking cfg inp h)

theorem resolveOrchestratorResultFailure_booking {s₀ : Session} (h : BooksNoMore s.rt s₀.rt)
    (m : String) (stage : FailureStage) (retryable : Bool) :
    BookingEnd cfg inp s (resolveOrchestratorResultFailure cfg inp.clk s₀ m stage retryable) :=
  retryElse_booking cfg inp h ⟨rfl, rfl⟩

theorem failJobFromPlacement_booking (e : PlacementError) :
    BookingEnd cfg inp s (failJobFromPlacement cfg inp s e) := by
  cases e with
  | noSchedulableNode m => exact waitElse_booking cfg inp (.refl _) ⟨rfl, rfl⟩
  | invalidPlacementParameters m | authoritativePlacement m =>
      exact retryElse_booking cfg inp (.refl _) ⟨rfl, rfl⟩

theorem markNodeNotReadyForRetry_rt (s : Session) (k : Option String) (reason : String) :
    (markNodeNotReadyForRetry s k reason).rt = s.rt := by
  unfold markNodeNotReadyForRetry
  split
  · rfl
  · split
    · rfl
    · split <;> rfl

theorem waitForNodeReadiness_booking {s₀ : Session} (h : BooksNoMore s.rt s₀.rt)
    (k : Option String) (reason code : String) :
    BookingEnd cfg inp s (waitForNodeReadiness cfg inp s₀ k reason code) := by
  refine waitElse_booking cfg inp ?_ ⟨rfl, rfl⟩
  rw [markNodeNotReadyForRetry_rt]
  exact h

theorem failJobFromOrchestratorBinding_booking (m : String) :
    BookingEnd cfg inp s (failJobFromOrchestratorBinding cfg inp s m) := by
  unfold failJobFromOrchestratorBinding
  split
  · exact waitForNodeReadiness_booking cfg inp (.refl _) _ _ _
  · exact retryElse_booking cfg inp (.refl _) ⟨rfl, rfl⟩

/-- Either way a rollback ends, the row books no more. -/
theorem syncRuntime_booking {r : WorkspaceRuntime} (hr : s.rt = some r) (a b c d : Option String) :
    BooksNoMore s.rt (some (syncRolledBack r a b c d)) ∧
      BooksNoMore s.rt (syncCleanupRequired s r).rt := by
  constructor
  · rintro r' ⟨⟩
    exact ⟨r, hr, rfl, .inr (WorkspaceRuntime.release_released r)⟩
  · intro r' hr'
    obtain ⟨-, -, -, hrt⟩ := ensureDurableCleanupTask_fields
      { s with rt := some { r with healthStatus := .cleanupRequired } } .bringupRollback
    unfold syncCleanupRequired at hr'
    rw [hrt] at hr'
    obtain rfl := Option.some.inj hr'
    exact ⟨r, hr, rfl, .inl rfl⟩

theorem syncRuntimeAfterFailedBringup_booking (res : WorkspaceBringUpResult) :
    BooksNoMore s.rt (syncRuntimeAfterFailedBringup s res).rt := by
  unfold syncRuntimeAfterFailedBringup
  split
  · exact .refl _
  · split
    · exact .refl _
    · rename_i r hr
      split
      · exact (syncRuntime_booking hr _ _ _ _).1
      · exact (syncRuntime_booking hr none none none none).2

theorem syncAfterException_booking (e : OrchestratorException) :
    BooksNoMore s.rt (syncAfterException s e).rt := by
  cases e with
  | bringUp be =>
      simp only [syncAfterException, syncRuntimeAfterBringupException]
      split
      · exact .refl _
      · split
        · exact .refl _
        · rename_i r hr
          split
          · exact (syncRuntime_booking hr _ _ _ _).1
          · exact (syncRuntime_booking hr none none none none).2
  | stop m | delete m | restart m | update m | snapshot m => exact .refl _

theorem handleOrchestratorException_booking (hsnap : s.job.jobType.isSnapshot = false)
    (nodeKey : Option String) (e : OrchestratorException) :
    BookingEnd cfg inp s (handleOrchestratorException cfg inp s nodeKey e) := by
  have hsync := syncAfterException_booking (s := s) e
  have hjob := (syncAfterException_syncs s e).job
  unfold handleOrchestratorException
  dsimp only
  split
  · exact waitForNodeReadiness_booking cfg inp hsync _ _ _
  · rw [hjob, hsnap]
    exact retryElse_booking cfg inp hsync ⟨rfl, rfl⟩

/-- The same for a body that may also raise, from the session as it was. -/
def ExitBooking (s : Session) : Exit → Prop
  | .returned s' => BookingEnd cfg inp s s'
  | .raised _ s' => s' = s
  | .crashed _ => True

theorem finalizeRuntimeRunningSuccess_booking {f : RuntimeFacts}
    (hup : SaysUp inp s.job.jobType f) (v : Int) :
    ExitBooking cfg inp s (finalizeRuntimeRunningSuccess cfg inp.clk inp.port s f v) := by
  cases hex : finalizeRuntimeRunningSuccess cfg inp.clk inp.port s f v with
  | returned s' => exact .up hup (finalizeRuntimeRunningSuccess_records hex)
  | raised e s' =>
      unfold finalizeRuntimeRunningSuccess at hex
      split at hex
      · injection hex with _ hs
        exact hs.symm
      · cases hex
  | crashed s' => trivial

theorem executeJobBody_booking (hjt : s.job.jobType.isLifecycle = true) :
    ExitBooking cfg inp s (executeJobBody cfg inp s) := by
  have hbring : s.job.jobType = .create ∨ s.job.jobType = .start →
      ExitBooking cfg inp s (executeBringUpJob cfg inp s) := by
    intro hty
    unfold executeBringUpJob
    split
    · exact .settled rfl id
    · split
      · trivial
      · rfl
      · rename_i res hres
        unfold finalizeBringupResult
        split
        · rename_i hs
          refine finalizeRuntimeRunningSuccess_booking cfg inp ?_ _
          rcases hty with hty | hty
          · exact hty ▸ .create hres hs
          · exact hty ▸ .start hres hs
        · exact resolveOrchestratorResultFailure_booking cfg inp
            (syncRuntimeAfterFailedBringup_booking res) _ _ _
  unfold executeJobBody
  cases hty : s.job.jobType with
  | create => exact hbring (.inl hty)
  | start => exact hbring (.inr hty)
  | stop =>
      dsimp only
      split
      · trivial
      · rfl
      · unfold finalizeStopResult
        split
        · refine .settled rfl ?_
          rintro - r ⟨⟩
          exact (WorkspaceRuntime.release_released (s.rt.getD {})).sound
        · refine resolveOrchestratorResultFailure_booking cfg inp ?_ _ _ _
          rw [(ensureDurableCleanupTask_fields s _).2.2.2]
          exact .refl _
  | delete =>
      dsimp only
      split
      · trivial
      · rfl
      · refine .settled rfl ?_
        rintro - r ⟨⟩
  | restart =>
      dsimp only
      split
      · trivial
      · rfl
      · rename_i res hres
        unfold finalizeRestartResult
        split
        · rename_i hs
          exact finalizeRuntimeRunningSuccess_booking cfg inp (hty ▸ .restart hres hs) _
        · exact resolveOrchestratorResultFailure_booking cfg inp (.refl _) _ _ _
  | update =>
      dsimp only
      split
      · trivial
      · rfl
      · rename_i res hres
        unfold finalizeUpdateResult
        dsimp only
        split
        · rename_i hs
          exact finalizeRuntimeRunningSuccess_booking cfg inp (hty ▸ .update hres hs) _
        · split
          · refine .settled rfl ?_
            rintro - r ⟨⟩
            exact (WorkspaceRuntime.release_released (s.rt.getD {})).sound
          · exact resolveOrchestratorResultFailure_booking cfg inp (.refl _) _ _ _
  | reconcileRuntime | snapshotCreate | snapshotRestore | repoImport =>
      rw [hty] at hjt
      cases hjt

theorem processClaimedRunningJob_booking (hjt : s.job.jobType.isLifecycle = true)
    {nodeKey : Option String} (hc : (processClaimedRunningJob cfg inp s nodeKey).committed = true) :
    BookingEnd cfg inp s (processClaimedRunningJob cfg inp s nodeKey).session := by
  have hbody := executeJobBody_booking cfg inp hjt
  have hsnap : s.job.jobType.isSnapshot = false := by
    revert hjt
    cases s.job.jobType <;> simp [WorkspaceJobType.isLifecycle, WorkspaceJobType.isSnapshot]
  unfold processClaimedRunningJob at hc ⊢
  cases hex : executeJobBody cfg inp s with
  | returned s' =>
      rw [hex] at hbody
      exact hbody
  | raised e s' =>
      rw [hex] at hbody
      obtain rfl : s' = s := hbody
      exact handleOrchestratorException_booking cfg inp hsnap nodeKey e
  | crashed s' =>
      rw [hex] at hc
      cases hc

end Ends

/-! ## Coming up on a node -/

theorem SaysUp.on_node {inp : WorkerInput} {key : String} {jt : WorkspaceJobType} {f : RuntimeFacts}
    (h : SaysUp (inp.onNode key) jt f) : f.nodeId = some key ∧ inp.orch.saysUp jt = true := by
  cases h with
  | create hres hs | start hres hs =>
      simp only [WorkerInput.onNode, OrchestratorService.onNode] at hres
      unfold OrchestratorService.saysUp
      split at hres
      · rename_i r hr
        injection hres with hres
        subst hres
        exact ⟨rfl, by simpa only [hr] using hs⟩
      · cases hres
      · cases hres
  | restart hres hs =>
      simp only [WorkerInput.onNode, OrchestratorService.onNode] at hres
      unfold OrchestratorService.saysUp
      split at hres
      · rename_i r hr
        injection hres with hres
        subst hres
        exact ⟨rfl, by simpa only [hr] using hs⟩
      · cases hres
      · cases hres
  | update hres hs =>
      simp only [WorkerInput.onNode, OrchestratorService.onNode] at hres
      unfold OrchestratorService.saysUp
      split at hres
      · rename_i r hr
        injection hres with hres
        subst hres
        exact ⟨rfl, by simpa only [hr] using hs⟩
      · cases hres
      · cases hres

theorem strip_orchestratorNodeKey (cfg : Settings) (key : String) :
    strip (orchestratorNodeKey cfg key) ≠ "" := by
  unfold orchestratorNodeKey
  split
  · unfold nodeKeyFromEnv
    dsimp only
    split
    · decide
    · rename_i h
      rwa [strip_strip]
  · rename_i h
    rwa [strip_strip]

theorem applyRuntimeBringupLike_booking (cfg : Settings) (rt : Option WorkspaceRuntime)
    {f : RuntimeFacts} {key : String} (hnode : f.nodeId = some key) (hne : strip key ≠ "")
    (v : Int) (target : Option String) :
    (applyRuntimeBringupLike cfg rt f v target).nodeId = some key ∧
      (applyRuntimeBringupLike cfg rt f v target).booking = workspaceUnit cfg := by
  have hn : ¬ stripOr f.nodeId = "" := by
    rw [hnode]
    exact hne
  unfold applyRuntimeBringupLike
  dsimp only
  rw [if_neg hn]
  exact ⟨hnode, rfl⟩

/-- How an execution with its placement leaves the booking. -/
inductive PlacedEnd (cfg : Settings) (inp : WorkerInput) (e : PlacedJob) (s s' : Session) : Prop
  | settled (h : s'.ws.status.isSettled = true)
      (hsound : (∀ r ∈ s.rt, r.Sound) → ∀ r ∈ s'.rt, r.Sound)
  | kept (h : BooksNoMore s.rt s'.rt)
  | up {nodeKey : String} {tid : Int} {r : WorkspaceRuntime}
      (hplace : e.placement = .ok (nodeKey, tid)) (hup : inp.orch.saysUp s.job.jobType = true)
      (hrt : s'.rt = some r) (hnode : r.nodeId = some (orchestratorNodeKey cfg nodeKey))
      (hbooking : r.booking = workspaceUnit cfg)

/-- **The end of an execution**: it ends as a lifecycle job does, and books no more than one
workspace on the node it was placed on. -/
theorem processPlacedJob_end {cfg : Settings} {inp : WorkerInput} {e : PlacedJob} {s : Session}
    (hjt : s.job.jobType.isLifecycle = true)
    (hc : (processPlacedJob cfg inp e s).committed = true) :
    (∃ inp', LifecycleEnd inp' s (processPlacedJob cfg inp e s).session) ∧
      PlacedEnd cfg inp e s (processPlacedJob cfg inp e s).session := by
  have hfailed : ∀ {s' : Session}, Neutral s s' ∧ Fails s s' → LifecycleEnd inp s s' :=
    fun h => .failed h.1.failsAfterSync h.2 (.inl h.1.sameDebt)
  -- an end that brings nothing up is the same before and after the placement
  have hdown : ∀ {s' : Session}, BookingEnd cfg inp s s' → s'.job.status ≠ .succeeded →
      PlacedEnd cfg inp e s s' := by
    intro s' h hns
    cases h with
    | settled h hsound => exact .settled h hsound
    | kept h => exact .kept h
    | up _ hrec => exact absurd (congrArg WorkspaceJob.status hrec.2.1) hns
  unfold processPlacedJob at hc ⊢
  split
  · rename_i h
    simp only [Bool.and_eq_true, decide_eq_true_eq, Option.isNone_iff_eq_none] at h
    exact ⟨⟨inp, .deleted h.1.2 rfl ⟨rfl, rfl⟩ rfl rfl h.2 ⟨rfl, rfl⟩⟩, .settled rfl id⟩
  · rename_i h
    rw [if_neg h] at hc
    cases hp : e.placement with
    | error err =>
        have hf := failJobFromPlacement_fails cfg inp s err
        exact ⟨⟨inp, hfailed hf⟩, hdown (failJobFromPlacement_booking cfg inp err)
          hf.2.not_succeeded⟩
    | ok place =>
        obtain ⟨nodeKey, tid⟩ := place
        rw [hp] at hc
        dsimp only at hc ⊢
        cases hb : inp.binding with
        | crashed =>
            rw [hb] at hc
            cases hc
        | failed m =>
            have hf := failJobFromOrchestratorBinding_fails cfg inp s m
            exact ⟨⟨inp, hfailed hf⟩, hdown (failJobFromOrchestratorBinding_booking cfg inp m)
              hf.2.not_succeeded⟩
        | bound =>
            rw [hb] at hc
            dsimp only at hc ⊢
            have hbegin := (beginCreate_fields s).1
            have hrt : (beginCreateBringupAfterPlacement s).rt = s.rt := by rw [hbegin]
            have hjt' : (beginCreateBringupAfterPlacement s).job.jobType.isLifecycle = true := by
              rw [beginCreate_job]
              exact hjt
            refine ⟨⟨_, .of_begin _ (processClaimedRunningJob_lifecycle cfg _ hjt' hc)⟩, ?_⟩
            cases processClaimedRunningJob_booking cfg _ hjt' hc with
            | settled h hsound =>
                rw [hrt] at hsound
                exact .settled h hsound
            | kept h =>
                rw [hrt] at h
                exact .kept h
            | up hup hrec =>
                rw [beginCreate_job] at hup
                obtain ⟨hnode, hsays⟩ := hup.on_node
                obtain ⟨-, -, v, target, hrow⟩ := hrec
                obtain ⟨hkey, hbooking⟩ := applyRuntimeBringupLike_booking cfg
                  (beginCreateBringupAfterPlacement s).rt hnode
                  (strip_orchestratorNodeKey cfg nodeKey) v target
                exact .up hp hsays hrow hkey hbooking

/-! ## Bookings after a commit -/

section Commit

variable {db : Db} {jid : Nat} {s s' : Session} {key : String}

theorem WorkspaceRuntime.Sound.booking_nonneg {r : WorkspaceRuntime} (h : r.Sound) :
    0 ≤ r.booking := by
  obtain ⟨hc, hm, hd⟩ := h
  refine load_le_iff.mpr ⟨?_, hc, hm, hd⟩
  show (0 : Int) ≤ 1
  omega

theorem booked_nonneg (hsound : ∀ w, ∀ r ∈ db.runtimes.lookup w, r.Sound) (key : String) (w : Nat) :
    0 ≤ db.booked key w := by
  unfold Db.booked
  split
  · rename_i r ws hr hws
    split
    · exact (hsound w r hr).booking_nonneg
    · exact le_rfl
  · exact le_rfl

theorem booked_commit_of_ne {v : Nat} (hv : v ≠ s'.wid) :
    (s'.commit jid db).booked key v = db.booked key v :=
  booked_congr (by rw [commit_runtimes_lookup, if_neg hv])
    (by rw [commit_workspaces_lookup, if_neg hv])

/-- A row that books no more, under a workspace that counted. -/
theorem BooksNoMore.booked_le (h : BooksNoMore s.rt s'.rt) (hwid : s'.wid = s.wid)
    (hrt : s.rt = db.runtimes.lookup s.wid) (hws : db.workspaces.lookup s.wid = some s.ws)
    (hst : s.ws.status.isSettled = false)
    (hsound : ∀ w, ∀ r ∈ db.runtimes.lookup w, r.Sound) :
    (s'.commit jid db).booked key s.wid ≤ db.booked key s.wid := by
  have hws' : (s'.commit jid db).workspaces.lookup s.wid = some s'.ws := by
    rw [commit_workspaces_lookup, if_pos hwid.symm]
  have hrt' : (s'.commit jid db).runtimes.lookup s.wid = s'.rt := by
    rw [commit_runtimes_lookup, if_pos hwid.symm]
  cases hset : s'.ws.status.isSettled with
  | true =>
      rw [booked_of_settled hws' hset]
      exact booked_nonneg hsound key s.wid
  | false =>
      cases hr' : s'.rt with
      | none =>
          rw [booked_of_no_row (hrt'.trans hr')]
          exact booked_nonneg hsound key s.wid
      | some r' =>
          obtain ⟨r, hr, hnode, hres⟩ := h r' hr'
          have hr : db.runtimes.lookup s.wid = some r := hrt.symm.trans hr
          rw [booked_of_counted hws' (hrt'.trans hr') hset, booked_of_counted hws hr hst, hnode]
          split
          · rcases hres with hres | ⟨hc, hm, hd⟩
            · exact le_of_eq (congrArg (Prod.mk 1) hres)
            · obtain ⟨hc₀, hm₀, hd₀⟩ := hsound s.wid r hr
              refine load_le_iff.mpr ⟨le_rfl, ?_, ?_, ?_⟩
              · show r'.reservedCpu ≤ r.reservedCpu
                rw [hc]
                exact hc₀
              · show r'.reservedMemoryMb ≤ r.reservedMemoryMb
                omega
              · show r'.reservedDiskMb ≤ r.reservedDiskMb
                omega
          · exact le_rfl

end Commit

/-! ## Requests and bookings -/

/-- The request moved workspace `w` to a busy status, and wrote no runtime row. -/
def RequestWrites (db : Db) (w : Nat) (db' : Db) : Prop :=
  db'.runtimes = db.runtimes ∧
    ∃ ws, db'.workspaces = db.workspaces.insert w ws ∧ ws.status.isBusy = true

theorem persistIntent_writes (db : Db) (inp : IntentInput) (wid : Nat) (ws : Workspace)
    {st : WorkspaceStatus} (hst : st.isBusy = true) (jt : WorkspaceJobType) (user version : Nat) :
    Yields (RequestWrites db wid) (persistIntent db inp wid ws st jt user version) := by
  intro db' h
  rw [persistIntent_ok h]
  exact ⟨rfl, _, rfl, hst⟩

theorem LifecycleRequest.answer_effect {db db' : Db} {q : LifecycleRequest}
    (h : q.answer db = .ok db') :
    IntentEffect db db' ∧
      ∃ w, RequestWrites db w db' ∧ (q.target = some w ∨ db.workspaces.lookup w = none) := by
  cases q with
  | create inp owner name config =>
      refine ⟨createWorkspace_effect h, Table.freshKey db.workspaces, ?_, .inr (by simp)⟩
      obtain ⟨_, -, h⟩ := bind_eq_ok.mp h
      rw [← Except.ok.inj h]
      exact ⟨rfl, _, rfl, rfl⟩
  | start inp wid owner user =>
      refine ⟨requestStartWorkspace_effect h, wid, ?_, .inl rfl⟩
      have hy : Yields (RequestWrites db wid) (requestStartWorkspace db inp wid owner user) :=
        Yields.bind fun _ => Yields.bind fun _ => Yields.bind fun _ => Yields.bind fun _ =>
          Yields.bind fun _ => persistIntent_writes _ _ _ _ rfl _ _ _
      exact hy db' h
  | stop inp wid owner user =>
      refine ⟨requestStopWorkspace_effect h, wid, ?_, .inl rfl⟩
      have hy : Yields (RequestWrites db wid) (requestStopWorkspace db inp wid owner user) :=
        Yields.bind fun _ => Yields.bind fun _ => Yields.bind fun _ => Yields.bind fun _ =>
          persistIntent_writes _ _ _ _ rfl _ _ _
      exact hy db' h
  | restart inp wid owner user =>
      refine ⟨requestRestartWorkspace_effect h, wid, ?_, .inl rfl⟩
      have hy : Yields (RequestWrites db wid) (requestRestartWorkspace db inp wid owner user) :=
        Yields.bind fun _ => Yields.bind fun _ => Yields.bind fun _ => Yields.bind fun _ =>
          Yields.bind fun _ => persistIntent_writes _ _ _ _ rfl _ _ _
      exact hy db' h
  | delete inp wid owner user =>
      refine ⟨requestDeleteWorkspace_effect h, wid, ?_, .inl rfl⟩
      have hy : Yields (RequestWrites db wid) (requestDeleteWorkspace db inp wid owner user) :=
        Yields.bind fun _ => Yields.bind fun _ => Yields.bind fun _ => Yields.bind fun _ =>
          persistIntent_writes _ _ _ _ rfl _ _ _
      exact hy db' h
  | update inp wid owner user config =>
      refine ⟨requestUpdateWorkspace_effect h, wid, ?_, .inl rfl⟩
      have hy : Yields (RequestWrites db wid)
          (requestUpdateWorkspace db inp wid owner user config) :=
        Yields.bind fun _ => Yields.bind fun _ => Yields.bind fun _ => Yields.bind fun _ =>
          fun db' h => by
            rw [← Except.ok.inj h]
            exact ⟨rfl, _, rfl, rfl⟩
      exact hy db' h

/-! ## The invariant -/

/-- What the tables hold between two steps. -/
structure BookedTables (caps : Table String NodeCapacity) (db : Db) : Prop where
  jobs : JobsOwned db
  busy : BusyIffOneJob db
  rows : ∀ w, (db.runtimes.lookup w).isSome → (db.workspaces.lookup w).isSome
  sound : ∀ w, ∀ r ∈ db.runtimes.lookup w, r.Sound
  within : WithinCapacity caps db

/-- An execution under way: its job is open, and the query found room for it. -/
structure LiveJobOk (cfg : Settings) (caps : Table String NodeCapacity) (db : Db) (e : PlacedJob) :
    Prop where
  job : ∃ j, db.jobs.lookup e.jid = some j ∧ SameJob j e.row ∧ j.status.isOpen = true
  lifecycle : e.row.jobType.isLifecycle = true
  running : e.row.status = .running
  picked : ∀ p ∈ e.picked, ∃ cap, caps.lookup p.1 = some cap ∧
    p.2 + workspaceUnit cfg ≤ cap.limits

structure BookInv (cfg : Settings) (caps : Table String NodeCapacity) (st : BookState) : Prop where
  tables : BookedTables caps st.db
  live : ∀ c e, st.live.lookup c = some e → LiveJobOk cfg caps st.db e
  single : ∀ c c' e e', st.live.lookup c = some e → st.live.lookup c' = some e' →
    e.jid = e'.jid → c = c'

/-- An execution under way has an open lifecycle job. -/
structure OpenJob (db : Db) (e : PlacedJob) : Prop where
  job : ∃ j, db.jobs.lookup e.jid = some j ∧ SameJob j e.row ∧ j.status.isOpen = true
  lifecycle : e.row.jobType.isLifecycle = true
  running : e.row.status = .running

/-- The part of the invariant that is about jobs: a busy workspace has one open job, and a job
one execution. -/
structure OpenJobs (st : BookState) : Prop where
  jobs : JobsOwned st.db
  busy : BusyIffOneJob st.db
  live : ∀ c e, st.live.lookup c = some e → OpenJob st.db e
  single : ∀ c c' e e', st.live.lookup c = some e → st.live.lookup c' = some e' →
    e.jid = e'.jid → c = c'

theorem BookInv.openJobs {cfg : Settings} {caps : Table String NodeCapacity} {st : BookState}
    (h : BookInv cfg caps st) : OpenJobs st :=
  ⟨h.tables.jobs, h.tables.busy,
    fun c e he => ⟨(h.live c e he).job, (h.live c e he).lifecycle, (h.live c e he).running⟩,
    h.single⟩

theorem BookInv.picked {cfg : Settings} {caps : Table String NodeCapacity} {st : BookState}
    (h : BookInv cfg caps st) (c : Nat) (e : PlacedJob) (he : st.live.lookup c = some e) :
    ∀ p ∈ e.picked, ∃ cap, caps.lookup p.1 = some cap ∧ p.2 + workspaceUnit cfg ≤ cap.limits :=
  (h.live c e he).picked

theorem BookInv.of_openJobs {cfg : Settings} {caps : Table String NodeCapacity} {st : BookState}
    (h : OpenJobs st) (rows : ∀ w, (st.db.runtimes.lookup w).isSome →
      (st.db.workspaces.lookup w).isSome)
    (sound : ∀ w, ∀ r ∈ st.db.runtimes.lookup w, r.Sound) (within : WithinCapacity caps st.db)
    (picked : ∀ c e, st.live.lookup c = some e → ∀ p ∈ e.picked, ∃ cap,
      caps.lookup p.1 = some cap ∧ p.2 + workspaceUnit cfg ≤ cap.limits) : BookInv cfg caps st :=
  ⟨⟨h.jobs, h.busy, rows, sound, within⟩,
    fun c e he => ⟨(h.live c e he).job, (h.live c e he).lifecycle, (h.live c e he).running,
      picked c e he⟩, h.single⟩

section Steps

variable {cfg : Settings} {caps : Table String NodeCapacity}

theorem fitsBeside_iff {db : Db} {key : String} {w : Nat} {u : Load} :
    fitsBeside caps db key w u = true ↔
      ∀ cap, caps.lookup key = some cap → db.loadBeside key w + u ≤ cap.limits := by
  unfold fitsBeside
  cases caps.lookup key with
  | none => simp
  | some cap => simp

/-- Under the invariant both halves of the condition say that the workspace fits beside the
others. -/
theorem bookingFits_beside {db : Db} {e : PlacedJob} {nodeKey : String} {tid : Int}
    (hsound : ∀ w, ∀ r ∈ db.runtimes.lookup w, r.Sound)
    (hpicked : ∀ p ∈ e.picked, ∃ cap, caps.lookup p.1 = some cap ∧
      p.2 + workspaceUnit cfg ≤ cap.limits)
    (hp : e.placement = .ok (nodeKey, tid)) (h : bookingFits cfg caps db e = true) :
    ∀ cap, caps.lookup (orchestratorNodeKey cfg nodeKey) = some cap →
      db.loadBeside (orchestratorNodeKey cfg nodeKey) e.row.workspaceId + workspaceUnit cfg ≤
        cap.limits := by
  unfold bookingFits at h
  rw [hp] at h
  dsimp only at h
  rcases (Bool.or_eq_true _ _).mp h with h | h
  · intro cap hcap
    obtain ⟨p, hmem, hp⟩ : ∃ p ∈ e.picked, (p.1 = orchestratorNodeKey cfg nodeKey &&
        db.load (orchestratorNodeKey cfg nodeKey) ≤ p.2) = true := by
      cases hpk : e.picked with
      | none =>
          rw [hpk] at h
          cases h
      | some p =>
          rw [hpk] at h
          exact ⟨p, rfl, h⟩
    simp only [Bool.and_eq_true, decide_eq_true_eq] at hp
    obtain ⟨cap', hcap', hroom⟩ := hpicked p hmem
    rw [hp.1] at hcap'
    obtain rfl := Option.some.inj (hcap'.symm.trans hcap)
    have hnn := booked_nonneg hsound (orchestratorNodeKey cfg nodeKey) e.row.workspaceId
    calc db.loadBeside (orchestratorNodeKey cfg nodeKey) e.row.workspaceId + workspaceUnit cfg
        ≤ db.load (orchestratorNodeKey cfg nodeKey) + workspaceUnit cfg := by
          rw [load_eq db _ e.row.workspaceId]
          exact add_le_add_left (le_add_of_nonneg_right hnn) _
      _ ≤ p.2 + workspaceUnit cfg := add_le_add_left hp.2 _
      _ ≤ cap'.limits := hroom
  · exact fitsBeside_iff.mp h

/-! ### Requests -/

/-- The bookings after a request: the workspace it moved counts, and the others are as they
were. -/
theorem RequestWrites.withinCapacity {db db' : Db} {w : Nat} (h : RequestWrites db w db')
    (htables : BookedTables caps db)
    (hfits : db.workspaces.lookup w = none ∨ reopeningFits caps db w = true) :
    WithinCapacity caps db' := by
  obtain ⟨hrt, ws', hws', hbusy⟩ := h
  have hset' := not_isSettled_of_isBusy hbusy
  have hlook : db'.workspaces.lookup w = some ws' := by rw [hws']; simp
  intro key cap hcap
  have hothers : ∀ v, v ≠ w → db'.booked key v = db.booked key v := fun v hv =>
    booked_congr (by rw [hrt]) (by rw [hws', Table.lookup_insert_eq, if_neg hv])
  have hsame : db'.booked key w ≤ db.booked key w → db'.load key ≤ cap.limits := fun hle =>
    (load_le_of_booked_le hothers hle).trans (htables.within key cap hcap)
  cases hr : db.runtimes.lookup w with
  | none => exact hsame (by rw [booked_of_no_row (by rw [hrt, hr]), booked_of_no_row hr])
  | some r =>
      obtain ⟨ws, hws⟩ := Option.isSome_iff_exists.mp (htables.rows w (by rw [hr]; rfl))
      have hbooked : db'.booked key w = if r.nodeId = some key ∧ key ≠ "" then r.booking else 0 :=
        booked_of_counted hlook (by rw [hrt, hr]) hset'
      cases hset : ws.status.isSettled with
      | false => exact hsame (by rw [hbooked, booked_of_counted hws hr hset])
      | true =>
          by_cases hkey : r.nodeId = some key ∧ key ≠ ""
          · have hfits : reopeningFits caps db w = true := hfits.resolve_left (by simp [hws])
            unfold reopeningFits at hfits
            rw [hws, hr] at hfits
            simp only [hset, Bool.not_true, Bool.false_or, hkey.1, Option.all_some] at hfits
            rw [load_eq db' key w, loadBeside_congr hothers, hbooked, if_pos hkey]
            exact fitsBeside_iff.mp hfits cap hcap
          · refine hsame ?_
            rw [hbooked, if_neg hkey]
            exact booked_nonneg htables.sound key w

theorem IntentEffect.jobsOwned {db db' : Db} (h : IntentEffect db db') (howned : JobsOwned db) :
    JobsOwned db' := by
  intro jid job hjob
  cases h with
  | refused => exact howned jid job hjob
  | lifecycle hws _ _ _ hwid _ _ =>
      simp only [Db.queueJob, Table.lookup_insert_eq] at hjob ⊢
      split at hjob
      · rw [← Option.some.inj hjob, hwid, if_pos rfl]
        rfl
      · split
        · rfl
        · exact howned jid job hjob
  | created _ hwid _ _ =>
      simp only [Db.queueJob, Table.lookup_insert_eq] at hjob ⊢
      split at hjob
      · rw [← Option.some.inj hjob, hwid, if_pos rfl]
        rfl
      · split
        · rfl
        · exact howned jid job hjob
  | queued hws _ _ _ =>
      simp only [Db.queueJob, Table.lookup_insert_eq] at hjob ⊢
      split at hjob
      · rw [← Option.some.inj hjob]
        exact Option.isSome_iff_exists.mpr ⟨_, hws⟩
      · exact howned jid job hjob

/-- A request writes no job row that is there already. -/
theorem IntentEffect.jobs_lookup {db db' : Db} (h : IntentEffect db db') {jid : Nat}
    {job : WorkspaceJob} (hjob : db.jobs.lookup jid = some job) :
    db'.jobs.lookup jid = some job := by
  have hne := Table.ne_freshKey hjob
  cases h with
  | refused => exact hjob
  | lifecycle _ _ _ _ _ _ _ => simpa [Db.queueJob, hne] using hjob
  | created _ _ _ _ => simpa [Db.queueJob, hne] using hjob
  | queued _ _ _ _ => simpa [Db.queueJob, hne] using hjob

/-! ### Requests -/

theorem OpenJob.of_jobs {db db' : Db} {e : PlacedJob} (h : OpenJob db e)
    (hjobs : ∀ j, db.jobs.lookup e.jid = some j → db'.jobs.lookup e.jid = some j) :
    OpenJob db' e := by
  obtain ⟨j, hj, hsame, hopen⟩ := h.job
  exact ⟨⟨j, hjobs j hj, hsame, hopen⟩, h.lifecycle, h.running⟩

theorem OpenJobs.request {st : BookState} {db' : Db} (h : OpenJobs st)
    (heffect : IntentEffect st.db db') : OpenJobs { st with db := db' } :=
  { jobs := heffect.jobsOwned h.jobs
    busy := heffect.busyIffOneJob h.jobs h.busy
    live := fun c e he => (h.live c e he).of_jobs fun _ hj => heffect.jobs_lookup hj
    single := h.single }

theorem bookInv_request {st : BookState} {q : LifecycleRequest} (hinv : BookInv cfg caps st)
    (hq : booksWithinCapacity cfg caps st (.request q) = true) :
    BookInv cfg caps (bookStep cfg caps st (.request q)) := by
  show BookInv cfg caps { st with db := accepted st.db (q.answer st.db) }
  cases hans : q.answer st.db with
  | error err => exact hinv
  | ok db' =>
      obtain ⟨heffect, w, hwrites, hw⟩ := LifecycleRequest.answer_effect hans
      have hfits : st.db.workspaces.lookup w = none ∨ reopeningFits caps st.db w = true := by
        rcases hw with hw | hw
        · simp only [booksWithinCapacity, hans, hw, Option.all_some] at hq
          exact .inr hq
        · exact .inl hw
      refine .of_openJobs (hinv.openJobs.request heffect) ?_ ?_
        (hwrites.withinCapacity hinv.tables hfits) hinv.picked
      · obtain ⟨hrt, ws, hws, -⟩ := hwrites
        intro v hv
        rw [accepted, hrt] at hv
        rw [accepted, hws]
        exact isSome_lookup_insert (hinv.tables.rows v hv)
      · rw [accepted, hwrites.1]
        exact hinv.tables.sound

/-! ### Claims and locks -/

/-- Entering or replacing an execution. -/
theorem OpenJobs.insert {st st' : BookState} {c : Nat} {e : PlacedJob} (h : OpenJobs st)
    (hjobs : JobsOwned st'.db) (hbusy : BusyIffOneJob st'.db)
    (hlive : st'.live = st.live.insert c e)
    (hkeep : ∀ c' e', c' ≠ c → st.live.lookup c' = some e' → OpenJob st'.db e')
    (he : OpenJob st'.db e)
    (hjid : ∀ c' e', st.live.lookup c' = some e' → e'.jid = e.jid → c' = c) : OpenJobs st' := by
  have hlook : ∀ {k x}, st'.live.lookup k = some x →
      (k = c ∧ x = e) ∨ (k ≠ c ∧ st.live.lookup k = some x) := by
    intro k x hx
    rw [hlive, Table.lookup_insert_eq] at hx
    split at hx
    · rename_i hk
      exact .inl ⟨hk, (Option.some.inj hx).symm⟩
    · rename_i hk
      exact .inr ⟨hk, hx⟩
  refine ⟨hjobs, hbusy, fun k x hx => ?_, fun k k' x x' hx hx' heq => ?_⟩
  · rcases hlook hx with ⟨-, rfl⟩ | ⟨hk, hx⟩
    · exact he
    · exact hkeep k x hk hx
  · rcases hlook hx with ⟨rfl, rfl⟩ | ⟨hk, hx⟩
    · rcases hlook hx' with ⟨rfl, -⟩ | ⟨-, hx'⟩
      · rfl
      · exact (hjid k' x' hx' heq.symm).symm
    · rcases hlook hx' with ⟨rfl, rfl⟩ | ⟨-, hx'⟩
      · exact hjid k x hx heq
      · exact h.single k k' x x' hx hx' heq

/-- An execution goes on with another placement or lock. -/
theorem OpenJobs.replace {st : BookState} {c : Nat} {e e' : PlacedJob} (h : OpenJobs st)
    (he : st.live.lookup c = some e) (hjid : e'.jid = e.jid) (hrow : e'.row = e.row) :
    OpenJobs { st with live := st.live.insert c e' } := by
  obtain ⟨hjob, hjt, hrun⟩ := h.live c e he
  refine h.insert h.jobs h.busy rfl (fun c' x _ hx => h.live c' x hx) ?_ fun c' x hx hsame =>
    h.single c' c x e hx he (hsame.trans hjid)
  rw [← hjid, ← hrow] at hjob
  rw [← hrow] at hjt hrun
  exact ⟨hjob, hjt, hrun⟩

/-- The query's answer, as the execution keeps it. -/
theorem placeJob_picked (query : SchedulerInput) (staleHeartbeat : Option String)
    (entry : EntryPoint) (jid : Nat) (db : Db) (s : Session) :
    ∀ p ∈ (placeJob cfg caps query staleHeartbeat entry jid db s).picked,
      ∃ cap, caps.lookup p.1 = some cap ∧ p.2 + workspaceUnit cfg ≤ cap.limits := by
  intro p hp
  simp only [placeJob] at hp
  split at hp
  · rename_i node hnode
    split at hp
    · obtain rfl := Option.some.inj hp
      exact selectNodeForWorkspace_fits hnode
    · cases hp
  · cases hp
  · cases hp

/-- What a claim enters: nothing, or the execution of a queued lifecycle job. -/
theorem claimStep_cases (st : BookState) (entry : EntryPoint) (clk : Clock) (query : SchedulerInput)
    (staleHeartbeat : Option String) (jid : Nat) :
    claimStep cfg caps st entry clk query staleHeartbeat jid = st ∨
      ∃ job ws lock, st.db.jobs.lookup jid = some job ∧ job.status = .queued ∧
        job.jobType.isLifecycle = true ∧ st.db.workspaces.lookup job.workspaceId = some ws ∧
        (∀ c' e', st.live.lookup c' = some e' → e'.jid ≠ jid) ∧
        ((placeJob cfg caps query staleHeartbeat entry jid st.db
          (Session.load st.db (markJobRunning clk job) ws)).picked = none → lock = .none) ∧
        claimStep cfg caps st entry clk query staleHeartbeat jid =
          { st with
            live := st.live.insert st.claims
              { placeJob cfg caps query staleHeartbeat entry jid st.db
                  (Session.load st.db (markJobRunning clk job) ws) with lock := lock }
            claims := st.claims + 1 } := by
  unfold claimStep
  split
  · exact .inl rfl
  · rename_i job hjob
    split
    · exact .inl rfl
    · rename_i hguard
      simp only [Bool.or_eq_true, Bool.not_eq_true', not_or, Bool.not_eq_false,
        Bool.not_eq_true] at hguard
      obtain ⟨⟨helig, hjt⟩, hfree⟩ := hguard
      simp only [queuedJobEligible, Bool.and_eq_true, beq_iff_eq] at helig
      split
      · exact .inl rfl
      · rename_i ws hws
        refine .inr ⟨job, ws, _, hjob, helig.1, hjt, hws, fun c' e' he' hsame => ?_, ?_, rfl⟩
        · have hne := List.any_eq_false.mp hfree ⟨c', e'⟩ (AList.mem_lookup_iff.mp he')
          exact hne (decide_eq_true_eq.mpr hsame)
        · intro hnone
          rw [hnone]

theorem OpenJobs.claim {st : BookState} (h : OpenJobs st) (entry : EntryPoint) (clk : Clock)
    (query : SchedulerInput) (staleHeartbeat : Option String) (jid : Nat) :
    OpenJobs (claimStep cfg caps st entry clk query staleHeartbeat jid) := by
  rcases @claimStep_cases cfg caps st entry clk query staleHeartbeat jid with
    heq | ⟨job, ws, lock, hjob, hq, hjt, -, hfree, -, heq⟩
  · rw [heq]
    exact h
  · rw [heq]
    refine h.insert h.jobs h.busy rfl (fun c' e' _ he' => h.live c' e' he') ?_
      fun c' e' he' hsame => absurd hsame (hfree c' e' he')
    exact ⟨⟨job, hjob, ⟨rfl, rfl⟩, by rw [hq]; rfl⟩, hjt, rfl⟩

theorem bookInv_claim {st : BookState} (hinv : BookInv cfg caps st) (entry : EntryPoint)
    (clk : Clock) (query : SchedulerInput) (staleHeartbeat : Option String) (jid : Nat) :
    BookInv cfg caps (claimStep cfg caps st entry clk query staleHeartbeat jid) := by
  have hopen := @OpenJobs.claim cfg caps st hinv.openJobs entry clk query staleHeartbeat jid
  rcases @claimStep_cases cfg caps st entry clk query staleHeartbeat jid with
    heq | ⟨job, ws, lock, -, -, -, -, -, -, heq⟩
  · rw [heq]
    exact hinv
  · rw [heq] at hopen ⊢
    refine .of_openJobs hopen hinv.tables.rows hinv.tables.sound hinv.tables.within ?_
    intro c e he
    rw [Table.lookup_insert_eq] at he
    split at he
    · obtain rfl := Option.some.inj he
      exact placeJob_picked query staleHeartbeat entry jid st.db _
    · exact hinv.picked c e he

theorem bookInv_lock {st : BookState} {c : Nat} {e : PlacedJob} (hinv : BookInv cfg caps st)
    (he : st.live.lookup c = some e) : BookInv cfg caps (lockStep st c e) := by
  unfold lockStep
  split
  · refine .of_openJobs (hinv.openJobs.replace he rfl rfl) hinv.tables.rows hinv.tables.sound
      hinv.tables.within fun c' x hx => ?_
    rw [Table.lookup_insert_eq] at hx
    split at hx
    · obtain rfl := Option.some.inj hx
      exact hinv.picked c e he
    · exact hinv.picked c' x hx
  · exact hinv

/-! ### Commits -/

/-- The session of an execution under way. -/
structure LiveSession (db : Db) (e : PlacedJob) (s : Session) : Prop where
  executing : Executing db e.jid s
  job : s.job = e.row
  wid : s.wid = e.row.workspaceId
  rt : s.rt = db.runtimes.lookup s.wid

theorem OpenJob.session {db : Db} {e : PlacedJob} {s : Session} (h : OpenJob db e)
    (hs : e.session db = some s) : LiveSession db e s := by
  obtain ⟨ws, hws, rfl⟩ := Option.map_eq_some_iff.mp hs
  exact ⟨⟨h.job, rfl, hws⟩, rfl, rfl, rfl⟩

/-- The workspace of an execution under way is busy. -/
theorem OpenJobs.isBusy {st : BookState} {c : Nat} {e : PlacedJob} {s : Session} (h : OpenJobs st)
    (he : st.live.lookup c = some e) (hs : e.session st.db = some s) :
    s.ws.status.isBusy = true := by
  have hses := (h.live c e he).session hs
  have hjt : s.job.jobType.isLifecycle = true := by
    rw [hses.job]
    exact (h.live c e he).lifecycle
  exact (h.busy s.wid s.ws hses.executing.ws).1.mpr (hses.executing.openLifecycleJobs_eq hjt h.busy)

theorem JobsOwned.commit {db : Db} {jid : Nat} {s s' : Session} (h : JobsOwned db)
    (hwid : s'.wid = s.wid) (hjob : s'.job.workspaceId = s.wid) : JobsOwned (s'.commit jid db) := by
  intro k j hj
  rw [commit_jobs, Table.lookup_insert_eq] at hj
  rw [commit_workspaces_lookup]
  split at hj
  · rw [← Option.some.inj hj, hjob, if_pos hwid.symm]
    rfl
  · split
    · rfl
    · exact h k j hj

theorem rows_commit {db : Db}
    (h : ∀ w, (db.runtimes.lookup w).isSome → (db.workspaces.lookup w).isSome) (jid : Nat)
    (s' : Session) : ∀ w, ((s'.commit jid db).runtimes.lookup w).isSome →
      ((s'.commit jid db).workspaces.lookup w).isSome := by
  intro w hw
  rw [commit_runtimes_lookup] at hw
  rw [commit_workspaces_lookup]
  split
  · rfl
  · rename_i hne
    rw [if_neg hne] at hw
    exact h w hw

theorem BookedTables.sound_commit {db : Db} (h : BookedTables caps db) (jid : Nat) {s' : Session}
    (hsound : ∀ r ∈ s'.rt, r.Sound) :
    ∀ w, ∀ r ∈ (s'.commit jid db).runtimes.lookup w, r.Sound := by
  intro w r hr
  rw [commit_runtimes_lookup] at hr
  split at hr
  · exact hsound r hr
  · exact h.sound w r hr

/-- A commit of one execution leaves the others' jobs alone. -/
theorem OpenJobs.live_commit {st : BookState} (h : OpenJobs st) {c c' : Nat}
    {e e' : PlacedJob} (he : st.live.lookup c = some e) (he' : st.live.lookup c' = some e')
    (hne : c' ≠ c) (s' : Session) : OpenJob (s'.commit e.jid st.db) e' := by
  refine (h.live c' e' he').of_jobs fun j hj => ?_
  have hjid : e'.jid ≠ e.jid := fun heq => hne (h.single c' c e' e he' he heq)
  rw [commit_jobs, Table.lookup_insert_eq, if_neg hjid]
  exact hj

/-- A `RUNNING` row in the place of an open one, and a busy status for another. -/
theorem busyIffOneJob_begin {db : Db} {jid : Nat} {s : Session} (hex : Executing db jid s)
    (hjt : s.job.jobType.isLifecycle = true) (hrun : s.job.status = .running)
    (hbusy : BusyIffOneJob db) :
    BusyIffOneJob ((beginCreateBringupAfterPlacement s).commit jid db) := by
  obtain ⟨hbegin, hst⟩ := beginCreate_fields s
  obtain ⟨j, hj, ⟨hjw, hjt'⟩, hopen⟩ := hex.job
  have hcount : ∀ w, openLifecycleJobs ((beginCreateBringupAfterPlacement s).commit jid db) w =
      openLifecycleJobs db w := by
    intro w
    have h := openLifecycleJobs_insert_of_lookup hj
      (commit_jobs (beginCreateBringupAfterPlacement s) jid db) w
    have hsame : Table.tally (isOpenLifecycleOf w) (beginCreateBringupAfterPlacement s).job =
        Table.tally (isOpenLifecycleOf w) j := by
      rw [beginCreate_job, tally_isOpenLifecycleOf, tally_isOpenLifecycleOf, hjw, hjt', hopen, hrun]
      rfl
    omega
  have hb : s.ws.status.isBusy = true :=
    (hbusy s.wid s.ws hex.ws).1.mpr (hex.openLifecycleJobs_eq hjt hbusy)
  intro w ws hw
  rw [hcount]
  rw [commit_workspaces_lookup] at hw
  split at hw
  · rename_i hwid
    rw [hbegin] at hwid
    obtain rfl : w = s.wid := hwid
    obtain rfl := Option.some.inj hw
    obtain ⟨hiff, hle⟩ := hbusy s.wid s.ws hex.ws
    refine ⟨?_, hle⟩
    rcases hst with hst | ⟨-, -, hst⟩
    · rw [hst]
      exact hiff
    · rw [hst]
      exact ⟨fun _ => hiff.mp hb, fun _ => rfl⟩
  · exact hbusy w ws hw

/-- Where the execution's own booking does not grow, no load does. -/
theorem withinCapacity_commit_of_le {db : Db} {jid : Nat} {s s' : Session}
    (h : WithinCapacity caps db) (hwid : s'.wid = s.wid)
    (hle : ∀ key, (s'.commit jid db).booked key s.wid ≤ db.booked key s.wid) :
    WithinCapacity caps (s'.commit jid db) := by
  intro key cap hcap
  refine (load_le_of_booked_le (fun v hv => ?_) (hle key)).trans (h key cap hcap)
  exact booked_commit_of_ne (by rw [hwid]; exact hv)

/-- The adapter's commit shows the claim. -/
theorem OpenJobs.adapterCommit {st : BookState} {c : Nat} {e : PlacedJob} {s : Session}
    (h : OpenJobs st) (he : st.live.lookup c = some e) (hs : e.session st.db = some s) :
    OpenJobs
      { st with
        db := (beginCreateBringupAfterPlacement s).commit e.jid st.db
        live := st.live.insert c { e with lock := .none } } := by
  have hlive := h.live c e he
  have hses := hlive.session hs
  have hjt : s.job.jobType.isLifecycle = true := by rw [hses.job]; exact hlive.lifecycle
  have hrun : s.job.status = .running := by rw [hses.job]; exact hlive.running
  have hwid : (beginCreateBringupAfterPlacement s).wid = s.wid := by rw [(beginCreate_fields s).1]
  have hjob : (beginCreateBringupAfterPlacement s).job.workspaceId = s.wid := by
    rw [beginCreate_job]
    exact hses.executing.target
  refine h.insert (h.jobs.commit hwid hjob) (busyIffOneJob_begin hses.executing hjt hrun h.busy) rfl
    (fun c' e' hne he' => h.live_commit he he' hne _) ⟨⟨s.job, ?_, ?_, ?_⟩, hlive.lifecycle,
      hlive.running⟩ fun c' e' he' hsame => h.single c' c e' e he' he hsame
  · rw [commit_jobs, Table.lookup_insert_eq, if_pos rfl, beginCreate_job]
  · rw [hses.job]
    exact .refl _
  · rw [hrun]
    rfl

theorem bookInv_adapterCommit {st : BookState} {c : Nat} {e : PlacedJob} {s : Session}
    (hinv : BookInv cfg caps st) (he : st.live.lookup c = some e) (hs : e.session st.db = some s) :
    BookInv cfg caps (adapterCommitStep st c e s) := by
  unfold adapterCommitStep
  split
  · exact hinv
  · have hses := (hinv.openJobs.live c e he).session hs
    have hb := hinv.openJobs.isBusy he hs
    have hwid : (beginCreateBringupAfterPlacement s).wid = s.wid := by rw [(beginCreate_fields s).1]
    have hrt : (beginCreateBringupAfterPlacement s).rt = s.rt := by rw [(beginCreate_fields s).1]
    have hkeep : BooksNoMore s.rt (beginCreateBringupAfterPlacement s).rt := by
      rw [hrt]
      exact .refl _
    refine .of_openJobs (hinv.openJobs.adapterCommit he hs) (rows_commit hinv.tables.rows _ _)
      (hinv.tables.sound_commit _ ?_)
      (withinCapacity_commit_of_le hinv.tables.within hwid fun key => ?_) fun c' x hx => ?_
    · rw [hrt, hses.rt]
      exact hinv.tables.sound s.wid
    · exact hkeep.booked_le hwid hses.rt hses.executing.ws (not_isSettled_of_isBusy hb)
        hinv.tables.sound
    · rw [Table.lookup_insert_eq] at hx
      split at hx
      · obtain rfl := Option.some.inj hx
        exact hinv.picked c e he
      · exact hinv.picked c' x hx

theorem workspaceUnit_nonneg (hcfg : cfg.Validated) : 0 ≤ workspaceUnit cfg := by
  obtain ⟨hc, hm, hd⟩ := hcfg
  refine load_le_iff.mpr ⟨?_, ?_, ?_, ?_⟩
  · show (0 : Int) ≤ 1
    omega
  · show 0 ≤ cfg.devnestWorkspaceRequiredCpu
    exact le_trans (by norm_num) hc
  · show 0 ≤ cfg.devnestWorkspaceRequiredMemoryMb
    omega
  · show 0 ≤ cfg.devnestWorkspaceRequiredDiskMb
    omega

theorem sound_of_booking (hcfg : cfg.Validated) {r : WorkspaceRuntime}
    (h : r.booking = workspaceUnit cfg) : r.Sound := by
  have hnn := workspaceUnit_nonneg hcfg
  rw [← h] at hnn
  exact (load_le_iff.mp hnn).2

theorem PlacedEnd.sound (hcfg : cfg.Validated) {inp : WorkerInput} {e : PlacedJob} {s s' : Session}
    (h : PlacedEnd cfg inp e s s') (hsound : ∀ r ∈ s.rt, r.Sound) : ∀ r ∈ s'.rt, r.Sound := by
  cases h with
  | settled _ hs => exact hs hsound
  | kept hkeep => exact hkeep.sound hsound
  | up _ _ hrt _ hbooking =>
      intro r hr
      rw [hrt] at hr
      obtain rfl := Option.some.inj hr
      exact sound_of_booking hcfg hbooking

/-- **One booking**: the last commit of an execution keeps every node within its capacity, if
a container that comes up fits. -/
theorem PlacedEnd.withinCapacity (hcfg : cfg.Validated) {db : Db} {inp : WorkerInput} {e : PlacedJob}
    {s s' : Session} (h : PlacedEnd cfg inp e s s') (htables : BookedTables caps db)
    (hses : LiveSession db e s) (hwid : s'.wid = s.wid) (hset : s.ws.status.isSettled = false)
    (hpicked : ∀ p ∈ e.picked, ∃ cap, caps.lookup p.1 = some cap ∧
      p.2 + workspaceUnit cfg ≤ cap.limits)
    (hfits : inp.orch.saysUp s.job.jobType = true → bookingFits cfg caps db e = true) :
    WithinCapacity caps (s'.commit e.jid db) := by
  have hws' : (s'.commit e.jid db).workspaces.lookup s.wid = some s'.ws := by
    rw [commit_workspaces_lookup, if_pos hwid.symm]
  cases h with
  | settled hs _ =>
      refine withinCapacity_commit_of_le htables.within hwid fun key => ?_
      rw [booked_of_settled hws' hs]
      exact booked_nonneg htables.sound key s.wid
  | kept hkeep =>
      exact withinCapacity_commit_of_le htables.within hwid fun key =>
        hkeep.booked_le hwid hses.rt hses.executing.ws hset htables.sound
  | @up nodeKey tid r hplace hup hrt hnode hbooking =>
      have hrt' : (s'.commit e.jid db).runtimes.lookup s.wid = some r := by
        rw [commit_runtimes_lookup, if_pos hwid.symm, hrt]
      intro key cap hcap
      have hothers : ∀ v, v ≠ s.wid → (s'.commit e.jid db).booked key v = db.booked key v :=
        fun v hv => booked_commit_of_ne (by rw [hwid]; exact hv)
      by_cases hkey : key = orchestratorNodeKey cfg nodeKey
      · subst hkey
        have hroom := bookingFits_beside htables.sound hpicked hplace (hfits hup) cap hcap
        have hle : (s'.commit e.jid db).booked (orchestratorNodeKey cfg nodeKey) s.wid ≤
            workspaceUnit cfg := by
          have hnn := workspaceUnit_nonneg hcfg
          cases hs : s'.ws.status.isSettled with
          | true =>
              rw [booked_of_settled hws' hs]
              exact hnn
          | false =>
              rw [booked_of_counted hws' hrt' hs]
              split
              · exact le_of_eq hbooking
              · exact hnn
        rw [load_eq _ _ s.wid, loadBeside_congr hothers, hses.wid] at *
        exact (add_le_add_right hle _).trans hroom
      · have hnone : (s'.commit e.jid db).booked key s.wid = 0 := by
          cases hs : s'.ws.status.isSettled with
          | true => exact booked_of_settled hws' hs
          | false =>
              have hne : ¬ (r.nodeId = some key ∧ key ≠ "") := by
                rintro ⟨h, -⟩
                rw [hnode] at h
                exact hkey (Option.some.inj h).symm
              rw [booked_of_counted hws' hrt' hs, if_neg hne]
        refine (load_le_of_booked_le hothers ?_).trans (htables.within key cap hcap)
        rw [hnone]
        exact booked_nonneg htables.sound key s.wid

/-- The execution that ends is gone, and the others are as they were. -/
theorem lookup_erase_live {st : BookState} {c k : Nat} {x : PlacedJob}
    (h : (st.live.erase c).lookup k = some x) : k ≠ c ∧ st.live.lookup k = some x := by
  by_cases hk : k = c
  · rw [hk, AList.lookup_erase] at h
    cases h
  · rw [AList.lookup_erase_ne hk] at h
    exact ⟨hk, h⟩

theorem OpenJobs.finish {st : BookState} {c : Nat} {e : PlacedJob} {s : Session} {inp : WorkerInput}
    (h : OpenJobs st) (he : st.live.lookup c = some e) (hs : e.session st.db = some s) :
    OpenJobs (finishStep cfg inp st c e s) := by
  have hses := (h.live c e he).session hs
  have hjt : s.job.jobType.isLifecycle = true := by
    rw [hses.job]
    exact (h.live c e he).lifecycle
  have hsingle : ∀ k k' x x', (st.live.erase c).lookup k = some x →
      (st.live.erase c).lookup k' = some x' → x.jid = x'.jid → k = k' :=
    fun k k' x x' hx hx' => h.single k k' x x' (lookup_erase_live hx).2 (lookup_erase_live hx').2
  unfold finishStep
  split
  · exact h
  · dsimp only
    cases hc : (processPlacedJob cfg inp e s).committed with
    | false =>
        exact ⟨h.jobs, h.busy, fun k x hx => (h.live k x (lookup_erase_live hx).2).of_jobs
          fun _ h => h, hsingle⟩
    | true =>
        obtain ⟨⟨inp', hend⟩, -⟩ := processPlacedJob_end hjt hc
        obtain ⟨hwid, hsame⟩ := hend.target
        refine ⟨h.jobs.commit hwid ?_, hend.busyIffOneJob hses.executing hjt h.busy,
          fun k x hx => ?_, hsingle⟩
        · rw [hsame.1]
          exact hses.executing.target
        · exact h.live_commit he (lookup_erase_live hx).2 (lookup_erase_live hx).1 _

theorem bookInv_finish (hcfg : cfg.Validated) {st : BookState} {c : Nat} {e : PlacedJob} {s : Session}
    {inp : WorkerInput} (hinv : BookInv cfg caps st) (he : st.live.lookup c = some e)
    (hs : e.session st.db = some s)
    (hfits : booksWithinCapacity cfg caps st (.finish c inp) = true) :
    BookInv cfg caps (finishStep cfg inp st c e s) := by
  have hopen := @OpenJobs.finish cfg st c e s inp hinv.openJobs he hs
  have hses := (hinv.openJobs.live c e he).session hs
  have hjt : s.job.jobType.isLifecycle = true := by
    rw [hses.job]
    exact (hinv.live c e he).lifecycle
  have hpicked : ∀ k x, (st.live.erase c).lookup k = some x → ∀ p ∈ x.picked, ∃ cap,
      caps.lookup p.1 = some cap ∧ p.2 + workspaceUnit cfg ≤ cap.limits :=
    fun k x hx => hinv.picked k x (lookup_erase_live hx).2
  unfold finishStep at hopen ⊢
  split
  · exact hinv
  · rename_i hlock
    rw [if_neg hlock] at hopen
    dsimp only at hopen ⊢
    cases hc : (processPlacedJob cfg inp e s).committed with
    | false =>
        rw [hc] at hopen
        obtain ⟨-, -, hr, hsd, hw⟩ := hinv.tables
        exact .of_openJobs hopen hr hsd hw hpicked
    | true =>
        rw [hc] at hopen
        obtain ⟨⟨inp', hend⟩, hplaced⟩ := processPlacedJob_end hjt hc
        have hwid := hend.target.1
        have hcond : inp.orch.saysUp s.job.jobType = true →
            bookingFits cfg caps st.db e = true := by
          intro hup
          simp only [booksWithinCapacity, he, Option.all_some, ← hses.job, hup, Bool.not_true,
            Bool.false_or] at hfits
          exact hfits
        refine .of_openJobs hopen (rows_commit hinv.tables.rows _ _)
          (hinv.tables.sound_commit _ ?_) ?_ hpicked
        · exact hplaced.sound hcfg (by rw [hses.rt]; exact hinv.tables.sound s.wid)
        · exact hplaced.withinCapacity hcfg hinv.tables hses hwid
            (not_isSettled_of_isBusy (hinv.openJobs.isBusy he hs)) (hinv.picked c e he) hcond

/-- Every step whose booking fits keeps the invariant. -/
theorem bookInv_step (hcfg : cfg.Validated) {st : BookState} {i : BookStep}
    (hinv : BookInv cfg caps st) (hi : booksWithinCapacity cfg caps st i = true) :
    BookInv cfg caps (bookStep cfg caps st i) := by
  cases i with
  | request q => exact bookInv_request hinv hi
  | claim entry clk query staleHeartbeat jid => exact bookInv_claim hinv _ _ _ _ _
  | lockNode c =>
      unfold bookStep
      dsimp only
      split
      · exact hinv
      · rename_i e he
        exact bookInv_lock hinv he
  | adapterCommit c =>
      unfold bookStep
      dsimp only
      split
      · exact hinv
      · rename_i e he
        split
        · exact hinv
        · rename_i s hs
          exact bookInv_adapterCommit hinv he hs
  | finish c inp =>
      unfold bookStep
      dsimp only
      split
      · exact hinv
      · rename_i e he
        split
        · exact hinv
        · rename_i s hs
          exact bookInv_finish hcfg hinv he hs hi

end Steps

/-! ## Runs -/

/-- A fresh installation. -/
def initBooks (nodes : Table Nat ExecutionNode) (topologies : List Int) : BookState :=
  { db := initDb nodes topologies }

theorem bookInv_init (cfg : Settings) (caps : Table String NodeCapacity)
    (nodes : Table Nat ExecutionNode) (topologies : List Int) :
    BookInv cfg caps (initBooks nodes topologies) := by
  refine ⟨⟨?_, ?_, ?_, ?_, ?_⟩, ?_, ?_⟩
  · intro jid job h
    simp [initBooks, initDb] at h
  · intro w ws h
    simp [initBooks, initDb] at h
  · intro w h
    simp [initBooks, initDb] at h
  · intro w r h
    simp [initBooks, initDb] at h
  · intro key cap _
    have hzero : (initBooks nodes topologies).db.load key = 0 := rfl
    rw [hzero]
    refine load_le_iff.mpr ⟨?_, cap.cpu_nonneg, ?_, ?_⟩
    · show (0 : Int) ≤ cap.maxWorkspaces
      omega
    · show (0 : Int) ≤ cap.allocatableMemoryMb
      omega
    · show (0 : Int) ≤ cap.allocatableDiskMb
      omega
  · intro c e h
    simp [initBooks] at h
  · intro c c' e e' h
    simp [initBooks] at h

/-- **Placement never overbooks a node**, in every state of every run of lifecycle jobs by any
number of workers whose bookings fit when they are committed. A job of the scheduler fits if
its node holds no more than the query read. -/
theorem placement_never_overbooks {cfg : Settings} (hcfg : cfg.Validated)
    (caps : Table String NodeCapacity) (nodes : Table Nat ExecutionNode) (topologies : List Int)
    {steps : List BookStep}
    (hsteps : Along (bookStep cfg caps) (fun st i => booksWithinCapacity cfg caps st i = true)
      (initBooks nodes topologies) steps) :
    Always (bookStep cfg caps) (fun st => WithinCapacity caps st.db) (initBooks nodes topologies)
      steps := by
  have hinv : Always (bookStep cfg caps) (BookInv cfg caps) (initBooks nodes topologies) steps :=
    always_of_along (bookInv_init cfg caps nodes topologies)
      (fun _ _ hinv hi => bookInv_step hcfg hinv hi) hsteps
  exact hinv.mono fun _ h => h.tables.within

/-! ## Two runs -/

/-- A node for a number of workspaces. -/
def slotsFor (maxWorkspaces : Nat) : NodeCapacity where
  maxWorkspaces := maxWorkspaces
  allocatableCpu := 8
  allocatableMemoryMb := 16384
  allocatableDiskMb := 102400
  cpu_nonneg := by norm_num

def oneNodeFor (maxWorkspaces : Nat) : Table String NodeCapacity :=
  AList.insert "node-1" (slotsFor maxWorkspaces) ∅

def sampleBooks : BookState := initBooks (AList.insert 1 sampleNode ∅) [1]

/-- The bring-up or restart ends with container `cid`. -/
def bringsUp (now : Nat) (cid : String) : WorkerInput :=
  sampleWorker now
    { bringUpWorkspaceRuntime := .returned { sampleUp with containerId := some cid }
      restartWorkspaceRuntime := .returned
        { success := true, nodeId := some "node-1", topologyId := some "1",
          containerId := some cid } }

/-- Two workspaces are created at once. The second job waits for the node, which the first gives
free by its adapter's commit. Both are restarted at once, too. -/
def createsAndRestarts : List BookStep :=
  [.request (.create { now := 0 } 7 "a" {}),
   .request (.create { now := 1 } 8 "b" {}),
   .claim .runPendingJobs { now := 2 } {} none 1,
   .claim .runPendingJobs { now := 3 } {} none 2,
   .adapterCommit 0,
   .lockNode 1,
   .finish 0 (bringsUp 4 "c1"),
   .adapterCommit 1,
   .finish 1 (bringsUp 5 "c2"),
   .request (.restart { now := 6 } 1 7 7),
   .request (.restart { now := 7 } 2 8 8),
   .claim .runPendingJobs { now := 8 } {} none 3,
   .claim .runPendingJobs { now := 9 } {} none 4,
   .finish 3 (bringsUp 10 "c2"),
   .finish 2 (bringsUp 11 "c1")]

theorem creates_and_restarts_within_capacity :
    Along (bookStep {} (oneNodeFor 2))
        (fun st i => booksWithinCapacity {} (oneNodeFor 2) st i = true) sampleBooks
        createsAndRestarts ∧
      (run (bookStep {} (oneNodeFor 2)) sampleBooks createsAndRestarts).db.load "node-1" =
        workspaceUnit {} + workspaceUnit {} ∧
      Always (bookStep {} (oneNodeFor 2)) (fun st => WithinCapacity (oneNodeFor 2) st.db)
        sampleBooks createsAndRestarts := by
  have hsteps : Along (bookStep {} (oneNodeFor 2))
      (fun st i => booksWithinCapacity {} (oneNodeFor 2) st i = true) sampleBooks
      createsAndRestarts := by
    decide +kernel
  refine ⟨hsteps, by decide +kernel, placement_never_overbooks ?_ (oneNodeFor 2) _ _ hsteps⟩
  exact ⟨by norm_num, by decide, by decide⟩

/-- The second `CREATE` is placed after the adapter has committed for the first one, and before
the first one ends. -/
def twoCreates : List BookStep :=
  [.request (.create { now := 0 } 7 "a" {}),
   .request (.create { now := 1 } 8 "b" {}),
   .claim .runPendingJobs { now := 2 } {} none 1,
   .adapterCommit 0,
   .claim .runPendingJobs { now := 3 } {} none 2,
   .finish 0 (bringsUp 4 "c1"),
   .finish 1 (bringsUp 5 "c2")]

/-- Both come up on the node for one workspace. -/
theorem concurrent_creates_overbook :
    ¬ ∀ (cfg : Settings) (caps : Table String NodeCapacity) (nodes : Table Nat ExecutionNode)
      (topologies : List Int) (steps : List BookStep), cfg.Validated →
      Always (bookStep cfg caps) (fun st => WithinCapacity caps st.db) (initBooks nodes topologies)
        steps := by
  intro h
  have hvalid : Settings.Validated {} := ⟨by norm_num, by decide, by decide⟩
  have hend := (h {} (oneNodeFor 1) (AList.insert 1 sampleNode ∅) [1] twoCreates hvalid).last
  have hload : ((run (bookStep {} (oneNodeFor 1)) sampleBooks twoCreates).db.load "node-1").1 =
      2 := by
    decide +kernel
  have hle : ((run (bookStep {} (oneNodeFor 1)) sampleBooks twoCreates).db.load "node-1").1 ≤ 1 :=
    (hend "node-1" (slotsFor 1) rfl).1
  omega

end Devnest
