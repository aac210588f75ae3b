import Devnest.Topology
import Devnest.Runs

/-!
# Concurrent calls on the runtime rows

Calls of `ensure_node_topology` and `delete_topology` run side by side, cut
where they read and where they commit: between a call's reads and its commit
any other call may commit. The overlap check of the allocator therefore works
on an old read; what keeps subnets apart is that all choices for one spec
are equal or disjoint, and that the database refuses a second row with an
equal one.

The only changes a step can make to the table are those of `RuntimeChange`;
`RuntimesOk` is kept by each of them.
-/

namespace Devnest

open Ipv4 Runs

/-- Where a call of `ensure_node_topology` stands: before its first read, before the read of an
attempt, before the choice and the commit of an attempt, before the last read, and before the
commit of the bridge status. -/
inductive EnsurePhase where
  | start
  | attempt (bridge : String) (i : Nat)
  | choose (bridge : String) (i : Nat) (existing : Option TopologyRuntime)
  | commit (bridge : String) (i : Nat) (existing : Option TopologyRuntime) (cidr : Network)
      (gatewayIp : Nat)
  | reload
  | sync (row : TopologyRuntime)
  | done (result : Except TopologyError TopologyRuntime)

inductive DeletePhase where
  | start
  | runtime
  | commit (runtimeId : Option Nat)
  | done (result : Except TopologyError Unit)

inductive TopologyCall where
  | ensure (key : TopologyNode) (phase : EnsurePhase)
  | delete (key : TopologyNode) (phase : DeletePhase)

structure RaceState where
  db : TopologyDb
  calls : List TopologyCall

/-- What the outside decides at a step: how the `ip` commands end, and whether a commit that
breaks no constraint goes through. -/
structure StepAnswer where
  bridgeOk : Bool := true
  commitOk : Bool := true

inductive RaceStep where
  | ensureNodeTopology (topologyId : Int) (nodeId : String)
  | deleteTopology (topologyId : Int) (nodeId : String)
  | advance (i : Nat) (ans : StepAnswer)

section Machine

variable (cfg : AdapterConfig) (specs : Int → Option TopologySpec)

def ensureFailed (message : String) : EnsurePhase := .done (.error (.runtimeCreate message))

/-- The next read or commit of `ensure_node_topology`. -/
def advanceEnsure (ans : StepAnswer) (db : TopologyDb) (key : TopologyNode) :
    EnsurePhase → TopologyDb × EnsurePhase
  | .start =>
      match specs key.topologyId with
      | none => (db, ensureFailed ("topology id " ++ toString key.topologyId ++ " not found"))
      | some spec =>
          match nodeBridgePlan cfg spec key with
          | .error e => (db, .done (.error e))
          | .ok bridge =>
              match (db.runtimes.lookup key).filter runtimeRowComplete with
              | some row => (db, .sync row)
              | none => (db, .attempt bridge 0)
  | .attempt bridge i =>
      match (db.runtimes.lookup key).filter runtimeRowComplete with
      | some _ => (db, .reload)
      | none => (db, .choose bridge i (db.runtimes.lookup key))
  | .choose bridge i existing =>
      match specs key.topologyId with
      | none => (db, ensureFailed ("topology id " ++ toString key.topologyId ++ " not found"))
      | some spec =>
          match chooseRuntimeCidrAndGateway (listUsedRuntimeNetworks db key) spec key existing i with
          | .error e => (db, .done (.error e))
          | .ok (cidr, gatewayIp) => (db, .commit bridge i existing cidr gatewayIp)
  | .commit bridge i existing cidr gatewayIp =>
      match commitRuntime db key existing bridge cidr gatewayIp with
      | .integrityError =>
          if ensureNodeCidrMaxAttempts ≤ i + 1 then
            (db, ensureFailed "failed to allocate a unique runtime CIDR after repeated DB conflicts")
          else (db, .attempt bridge (i + 1))
      | .failed => (db, ensureFailed "failed to persist topology runtime")
      | .committed db' =>
          if ans.commitOk then (db', .reload)
          else (db, ensureFailed "failed to persist topology runtime")
  | .reload =>
      match db.runtimes.lookup key with
      | none => (db, ensureFailed "failed to ensure topology runtime row")
      | some row => (db, .sync row)
  | .sync row =>
      match syncLinuxNodeBridge cfg ans.bridgeOk db key row with
      | .committed db' =>
          if ans.commitOk then
            (db', .done (.ok { row with status := syncedStatus cfg ans.bridgeOk row }))
          else (db, ensureFailed "failed to persist topology runtime after bridge sync")
      | _ => (db, ensureFailed "failed to persist topology runtime after bridge sync")
  | .done r => (db, .done r)

/-- The next read or commit of `delete_topology`. -/
def advanceDelete (ans : StepAnswer) (db : TopologyDb) (key : TopologyNode) :
    DeletePhase → TopologyDb × DeletePhase
  | .start =>
      if hasBlockingAttachment db key then
        (db, .done (.error (.delete ("cannot delete topology runtime: non-DETACHED attachments " ++
          "remain (detach workspaces first)"))))
      else (db, .runtime)
  | .runtime =>
      (db, .commit ((db.runtimes.lookup key).map TopologyRuntime.topologyRuntimeId))
  | .commit runtimeId =>
      if ans.commitOk then (commitDelete db key runtimeId, .done (.ok ()))
      else if runtimeId.isNone then (db, .done (.ok ()))
      else (db, .done (.error (.delete "failed to persist topology deletion")))
  | .done r => (db, .done r)

def advanceCall (ans : StepAnswer) (db : TopologyDb) : TopologyCall → TopologyDb × TopologyCall
  | .ensure key phase =>
      ((advanceEnsure cfg specs ans db key phase).1,
        .ensure key (advanceEnsure cfg specs ans db key phase).2)
  | .delete key phase =>
      ((advanceDelete ans db key phase).1, .delete key (advanceDelete ans db key phase).2)

/-- A call checks its `node_id` before anything else. -/
def startedEnsure (topologyId : Int) (nodeId : String) : TopologyCall :=
  .ensure ⟨topologyId, cleanNodeId nodeId⟩
    (if PyText.strip nodeId = "" then ensureFailed "node_id is required" else .start)

def startedDelete (topologyId : Int) (nodeId : String) : TopologyCall :=
  .delete ⟨topologyId, cleanNodeId nodeId⟩
    (if PyText.strip nodeId = "" then .done (.error (.delete "node_id is required")) else .start)

def raceStep (s : RaceState) : RaceStep → RaceState
  | .ensureNodeTopology t n => { s with calls := s.calls ++ [startedEnsure t n] }
  | .deleteTopology t n => { s with calls := s.calls ++ [startedDelete t n] }
  | .advance i ans =>
      match s.calls[i]? with
      | none => s
      | some call =>
          let next := advanceCall cfg specs ans s.db call
          { db := next.1, calls := s.calls.set i next.2 }

end Machine

/-! ## What a step can do to the rows -/

variable {cfg : AdapterConfig} {specs : Int → Option TopologySpec}

/-- A row that fits its topology's spec, with every column filled. -/
structure RowFits (specs : Int → Option TopologySpec) (key : TopologyNode)
    (row : TopologyRuntime) : Prop where
  complete : runtimeRowComplete row = true
  fits : ∃ spec net g, specs key.topologyId = some spec ∧ row.cidr = some net ∧
    row.gatewayIp = some g ∧ FitsSpec spec net g

/-- The changes of the runtime table. -/
inductive RuntimeChange (specs : Int → Option TopologySpec) (db : TopologyDb) : TopologyDb → Prop
  | same {db'} : db'.runtimes = db.runtimes → db'.nextRuntimeId = db.nextRuntimeId →
      RuntimeChange specs db db'
  | insert {db'} (key : TopologyNode) (row : TopologyRuntime) : db.runtimes.lookup key = none →
      cidrTaken db key row.cidr = false → RowFits specs key row →
      row.topologyRuntimeId = db.nextRuntimeId →
      db'.runtimes = db.runtimes.insert key row → db'.nextRuntimeId = db.nextRuntimeId + 1 →
      RuntimeChange specs db db'
  | status {db'} (key : TopologyNode) (row : TopologyRuntime) (st : TopologyRuntimeStatus) :
      db.runtimes.lookup key = some row →
      db'.runtimes = db.runtimes.insert key { row with status := st } →
      db'.nextRuntimeId = db.nextRuntimeId → RuntimeChange specs db db'
  | erase {db'} (key : TopologyNode) : db'.runtimes = db.runtimes.erase key →
      db'.nextRuntimeId = db.nextRuntimeId → RuntimeChange specs db db'

/-- What a call carries from its reads to its commit. -/
def CallFits (specs : Int → Option TopologySpec) : TopologyCall → Prop
  | .ensure _ (.attempt bridge _) => isBlank (some bridge) = false
  | .ensure _ (.choose bridge _ existing) => isBlank (some bridge) = false ∧ existing = none
  | .ensure key (.commit bridge _ existing cidr gatewayIp) =>
      isBlank (some bridge) = false ∧ existing = none ∧
        ∃ spec, specs key.topologyId = some spec ∧ FitsSpec spec cidr gatewayIp
  | _ => True

/-- Every row fits, has a number below the sequence's next, and shares its subnet with no other
row of its topology. -/
structure RuntimesOk (specs : Int → Option TopologySpec) (db : TopologyDb) : Prop where
  fits : ∀ key row, db.runtimes.lookup key = some row → RowFits specs key row
  idLt : ∀ key row, db.runtimes.lookup key = some row → row.topologyRuntimeId < db.nextRuntimeId
  cidrUnique : ∀ key key' row row', db.runtimes.lookup key = some row →
    db.runtimes.lookup key' = some row' → key.topologyId = key'.topologyId →
    row.cidr = row'.cidr → key = key'

theorem filter_complete_eq {db : TopologyDb} (hok : RuntimesOk specs db) (key : TopologyNode) :
    (db.runtimes.lookup key).filter runtimeRowComplete = db.runtimes.lookup key := by
  cases hrow : db.runtimes.lookup key with
  | none => rfl
  | some row => simp [(hok.fits key row hrow).complete]

theorem insertRuntime_committed {db db' : TopologyDb} {key : TopologyNode} {bridge : String}
    {cidr : Network} {g : Nat} {spec : TopologySpec}
    (h : insertRuntime db key bridge cidr g = .committed db')
    (hbridge : isBlank (some bridge) = false) (hspec : specs key.topologyId = some spec)
    (hfits : FitsSpec spec cidr g) : RuntimeChange specs db db' := by
  unfold insertRuntime at h
  split at h
  next => cases h
  next hnone =>
    split at h
    next => cases h
    next hfree =>
      cases h
      refine .insert key _ hnone (Bool.eq_false_iff.mpr hfree) ⟨?_, ?_⟩ rfl rfl rfl
      · simp [runtimeRowComplete, hbridge]
      · exact ⟨spec, cidr, g, hspec, rfl, rfl, hfits⟩

theorem syncLinuxNodeBridge_committed {db db' : TopologyDb} {key : TopologyNode}
    {row : TopologyRuntime} {ok : Bool}
    (h : syncLinuxNodeBridge cfg ok db key row = .committed db') : RuntimeChange specs db db' := by
  unfold syncLinuxNodeBridge at h
  split at h
  next => cases h
  next cur hcur =>
    split at h
    next => cases h
    next =>
      cases h
      exact .status key cur _ hcur rfl rfl

theorem commitDelete_change (db : TopologyDb) (key : TopologyNode) (runtimeId : Option Nat) :
    RuntimeChange specs db (commitDelete db key runtimeId) := by
  simp only [commitDelete]
  split
  · exact .erase key rfl rfl
  · exact .same rfl rfl

/-- One step of an ensure call, from rows that fit. -/
theorem advanceEnsure_ok {db : TopologyDb} (hok : RuntimesOk specs db) (ans : StepAnswer)
    (key : TopologyNode) (phase : EnsurePhase) (hcall : CallFits specs (.ensure key phase)) :
    RuntimeChange specs db (advanceEnsure cfg specs ans db key phase).1 ∧
      CallFits specs (.ensure key (advanceEnsure cfg specs ans db key phase).2) := by
  have hsame : RuntimeChange specs db db := .same rfl rfl
  cases phase with
  | start =>
      simp only [advanceEnsure]
      split
      next => exact ⟨hsame, trivial⟩
      next spec hspec =>
        split
        next => exact ⟨hsame, trivial⟩
        next bridge hbridge =>
          split
          next => exact ⟨hsame, trivial⟩
          next => exact ⟨hsame, nodeBridgePlan_ok hbridge⟩
  | attempt bridge i =>
      simp only [advanceEnsure, filter_complete_eq hok]
      split
      next => exact ⟨hsame, trivial⟩
      -- a row that is there is complete, so the attempt goes on without one
      next hnone => exact ⟨hsame, hcall, hnone⟩
  | choose bridge i existing =>
      obtain ⟨hbridge, rfl⟩ := hcall
      simp only [advanceEnsure]
      split
      next => exact ⟨hsame, trivial⟩
      next spec hspec =>
        split
        next => exact ⟨hsame, trivial⟩
        next cidr g hchoose =>
          have hfits := (chooseRuntimeCidrAndGateway_ok hchoose).1
          exact ⟨hsame, hbridge, rfl, spec, hspec, hfits⟩
  | commit bridge i existing cidr g =>
      obtain ⟨hbridge, rfl, spec, hspec, hfits⟩ := hcall
      simp only [advanceEnsure, commitRuntime]
      split
      next =>
        split
        next => exact ⟨hsame, trivial⟩
        next => exact ⟨hsame, hbridge⟩
      next => exact ⟨hsame, trivial⟩
      next db' hdb' =>
        split
        next => exact ⟨insertRuntime_committed hdb' hbridge hspec hfits, trivial⟩
        next => exact ⟨hsame, trivial⟩
  | reload =>
      simp only [advanceEnsure]
      split <;> exact ⟨hsame, trivial⟩
  | sync row =>
      simp only [advanceEnsure]
      split
      next db' hdb' =>
        split
        next => exact ⟨syncLinuxNodeBridge_committed hdb', trivial⟩
        next => exact ⟨hsame, trivial⟩
      next => exact ⟨hsame, trivial⟩
  | done r => exact ⟨hsame, trivial⟩

theorem advanceDelete_change (ans : StepAnswer) (db : TopologyDb) (key : TopologyNode)
    (phase : DeletePhase) : RuntimeChange specs db (advanceDelete ans db key phase).1 := by
  have hsame : RuntimeChange specs db db := .same rfl rfl
  cases phase with
  | start =>
      simp only [advanceDelete]
      split <;> exact hsame
  | runtime => exact hsame
  | commit runtimeId =>
      simp only [advanceDelete]
      split
      · exact commitDelete_change db key runtimeId
      · split <;> exact hsame
  | done r => exact hsame

theorem advanceCall_ok (cfg : AdapterConfig) {db : TopologyDb} (hok : RuntimesOk specs db)
    (ans : StepAnswer) (call : TopologyCall) (hcall : CallFits specs call) :
    RuntimeChange specs db (advanceCall cfg specs ans db call).1 ∧
      CallFits specs (advanceCall cfg specs ans db call).2 := by
  cases call with
  | ensure key phase => exact advanceEnsure_ok hok ans key phase hcall
  | delete key phase => exact ⟨advanceDelete_change ans db key phase, trivial⟩

/-! ## The changes keep the rows apart -/

theorem cidrTaken_false {db : TopologyDb} {key key' : TopologyNode} {row : TopologyRuntime}
    {cidr : Option Network} (h : cidrTaken db key cidr = false) (hcidr : cidr.isSome = true)
    (hrow : db.runtimes.lookup key' = some row) (ht : key'.topologyId = key.topologyId)
    (hne : key' ≠ key) : row.cidr ≠ cidr := by
  intro heq
  have hmem : (⟨key', row⟩ : Sigma fun _ : TopologyNode => TopologyRuntime) ∈ db.runtimes.entries :=
    AList.mem_lookup_iff.mp hrow
  have := List.any_eq_false.mp h _ hmem
  simp [ht, hne, heq, hcidr] at this

/-- Where a row of the table after a change comes from. -/
theorem RuntimeChange.lookup {db db' : TopologyDb} (h : RuntimeChange specs db db')
    {key : TopologyNode} {row : TopologyRuntime} (hrow : db'.runtimes.lookup key = some row) :
    (∃ old, db.runtimes.lookup key = some old ∧ ∃ st, row = { old with status := st }) ∨
      db.runtimes.lookup key = none ∧ cidrTaken db key row.cidr = false ∧ RowFits specs key row ∧
        row.topologyRuntimeId = db.nextRuntimeId ∧ db'.nextRuntimeId = db.nextRuntimeId + 1 ∧
        ∀ key', key' ≠ key → db'.runtimes.lookup key' = db.runtimes.lookup key' := by
  cases h with
  | same hrt hid =>
      rw [hrt] at hrow
      exact .inl ⟨row, hrow, row.status, rfl⟩
  | insert key₀ row₀ hnone hfree hfits hid hrt hnext =>
      rw [hrt, Table.lookup_insert_eq] at hrow
      split at hrow
      next heq =>
        cases hrow
        subst heq
        refine .inr ⟨hnone, hfree, hfits, hid, hnext, fun key' hne => ?_⟩
        rw [hrt, Table.lookup_insert_eq, if_neg hne]
      next => exact .inl ⟨row, hrow, row.status, rfl⟩
  | status key₀ row₀ st hrow₀ hrt hnext =>
      rw [hrt, Table.lookup_insert_eq] at hrow
      split at hrow
      next heq =>
        cases hrow
        subst heq
        exact .inl ⟨row₀, hrow₀, st, rfl⟩
      next => exact .inl ⟨row, hrow, row.status, rfl⟩
  | erase key₀ hrt hnext =>
      rw [hrt] at hrow
      by_cases heq : key = key₀
      · subst heq
        rw [AList.lookup_erase] at hrow
        cases hrow
      · rw [AList.lookup_erase_ne heq] at hrow
        exact .inl ⟨row, hrow, row.status, rfl⟩

theorem RuntimeChange.nextId_le {db db' : TopologyDb} (h : RuntimeChange specs db db') :
    db.nextRuntimeId ≤ db'.nextRuntimeId := by
  cases h <;> omega

theorem RowFits.withStatus {key : TopologyNode} {row : TopologyRuntime} (h : RowFits specs key row)
    (st : TopologyRuntimeStatus) : RowFits specs key { row with status := st } :=
  ⟨h.complete, h.fits⟩

theorem RowFits.cidr_isSome {key : TopologyNode} {row : TopologyRuntime}
    (h : RowFits specs key row) : row.cidr.isSome = true := by
  obtain ⟨spec, net, g, -, hnet, -⟩ := h.fits
  rw [hnet]
  rfl

theorem RuntimesOk.change {db db' : TopologyDb} (hok : RuntimesOk specs db)
    (h : RuntimeChange specs db db') : RuntimesOk specs db' where
  fits key row hrow := by
    rcases h.lookup hrow with ⟨old, hold, st, rfl⟩ | ⟨-, -, hfits, -⟩
    · exact (hok.fits key old hold).withStatus st
    · exact hfits
  idLt key row hrow := by
    rcases h.lookup hrow with ⟨old, hold, st, rfl⟩ | ⟨-, -, -, hid, hnext, -⟩
    · exact Nat.lt_of_lt_of_le (hok.idLt key old hold) h.nextId_le
    · omega
  cidrUnique key key' row row' hrow hrow' ht heq := by
    by_contra hne
    rcases h.lookup hrow with ⟨old, hold, st, rfl⟩ | ⟨hnone, hfree, hfits, -, -, hother⟩
    · rcases h.lookup hrow' with ⟨old', hold', st', rfl⟩ | ⟨-, hfree', hfits', -⟩
      · exact hne (hok.cidrUnique key key' old old' hold hold' ht heq)
      · exact cidrTaken_false hfree' hfits'.cidr_isSome hold ht hne heq
    -- a fresh row: every other row was there when its commit was checked
    · have hold' : db.runtimes.lookup key' = some row' := by
        rw [← hother key' (Ne.symm hne)]
        exact hrow'
      exact cidrTaken_false hfree hfits.cidr_isSome hold' ht.symm (Ne.symm hne) heq.symm

/-- No change touches the subnet or gateway of a row that stays. -/
theorem RuntimeChange.keeps {db db' : TopologyDb} (h : RuntimeChange specs db db')
    {key : TopologyNode} {row : TopologyRuntime}
    (hid : row.topologyRuntimeId < db.nextRuntimeId)
    (hkeep : ∀ row', db.runtimes.lookup key = some row' →
      row'.topologyRuntimeId = row.topologyRuntimeId →
      row'.cidr = row.cidr ∧ row'.gatewayIp = row.gatewayIp) :
    ∀ row', db'.runtimes.lookup key = some row' →
      row'.topologyRuntimeId = row.topologyRuntimeId →
      row'.cidr = row.cidr ∧ row'.gatewayIp = row.gatewayIp := by
  intro row' hrow' hsame
  rcases h.lookup hrow' with ⟨old, hold, st, rfl⟩ | ⟨-, -, -, hfresh, -⟩
  · exact hkeep old hold hsame
  · omega

/-! ## Runs -/

/-- The state of every interleaving: the rows fit and every call carries what it may commit. -/
structure RaceOk (specs : Int → Option TopologySpec) (s : RaceState) : Prop where
  rows : RuntimesOk specs s.db
  calls : ∀ call ∈ s.calls, CallFits specs call

theorem raceStep_change (cfg : AdapterConfig) {s : RaceState} (hok : RaceOk specs s)
    (a : RaceStep) :
    RuntimeChange specs s.db (raceStep cfg specs s a).db ∧
      ∀ call ∈ (raceStep cfg specs s a).calls, CallFits specs call := by
  have hstart : ∀ t n, CallFits specs (startedEnsure t n) := by
    intro t n
    unfold startedEnsure
    split <;> trivial
  cases a with
  | ensureNodeTopology t n =>
      refine ⟨.same rfl rfl, fun call hcall => ?_⟩
      rcases List.mem_append.mp hcall with hcall | hcall
      · exact hok.calls call hcall
      · rw [List.mem_singleton.mp hcall]
        exact hstart t n
  | deleteTopology t n =>
      refine ⟨.same rfl rfl, fun call hcall => ?_⟩
      rcases List.mem_append.mp hcall with hcall | hcall
      · exact hok.calls call hcall
      · rw [List.mem_singleton.mp hcall]
        trivial
  | advance i ans =>
      simp only [raceStep]
      split
      next => exact ⟨.same rfl rfl, hok.calls⟩
      next call hcall =>
        have hnext := advanceCall_ok cfg hok.rows ans call
          (hok.calls call (List.mem_of_getElem? hcall))
        refine ⟨hnext.1, fun call' hcall' => ?_⟩
        rcases List.mem_or_eq_of_mem_set hcall' with hcall' | rfl
        · exact hok.calls call' hcall'
        · exact hnext.2

theorem RaceOk.step {s : RaceState} (hok : RaceOk specs s) (a : RaceStep) :
    RaceOk specs (raceStep cfg specs s a) :=
  ⟨hok.rows.change (raceStep_change cfg hok a).1, (raceStep_change cfg hok a).2⟩

/-- No runtime row, and no call under way. -/
def RaceState.Fresh (s : RaceState) : Prop := s.db.runtimes = ∅ ∧ s.calls = []

theorem RaceOk.of_fresh {s : RaceState} (h : s.Fresh) : RaceOk specs s where
  rows := by
    constructor
    · intro key row hrow
      rw [h.1] at hrow
      cases hrow
    · intro key row hrow
      rw [h.1] at hrow
      cases hrow
    · intro key key' row row' hrow
      rw [h.1] at hrow
      cases hrow
  calls := by
    rw [h.2]
    intro call hcall
    cases hcall

theorem RaceOk.run {s : RaceState} (hok : RaceOk specs s) (as : List RaceStep) :
    RaceOk specs (run (raceStep cfg specs) s as) := by
  induction as generalizing s with
  | nil => exact hok
  | cons a as ih => exact ih (hok.step a)

/-- A row that is there stays as it was chosen until it is deleted. -/
theorem run_keeps_row {s : RaceState} (hok : RaceOk specs s) (as : List RaceStep)
    {key : TopologyNode} {row : TopologyRuntime}
    (hid : row.topologyRuntimeId < s.db.nextRuntimeId)
    (hkeep : ∀ row', s.db.runtimes.lookup key = some row' →
      row'.topologyRuntimeId = row.topologyRuntimeId →
      row'.cidr = row.cidr ∧ row'.gatewayIp = row.gatewayIp) :
    ∀ row', (run (raceStep cfg specs) s as).db.runtimes.lookup key = some row' →
      row'.topologyRuntimeId = row.topologyRuntimeId →
      row'.cidr = row.cidr ∧ row'.gatewayIp = row.gatewayIp := by
  induction as generalizing s with
  | nil => exact hkeep
  | cons a as ih =>
      have hchange := (raceStep_change cfg hok a).1
      refine ih (hok.step a) (Nat.lt_of_lt_of_le hid hchange.nextId_le) ?_
      exact hchange.keeps hid hkeep

theorem RuntimesOk.not_overlaps {db : TopologyDb} (hok : RuntimesOk specs db)
    {key key' : TopologyNode} {row row' : TopologyRuntime} {net net' : Network}
    (hrow : db.runtimes.lookup key = some row) (hrow' : db.runtimes.lookup key' = some row')
    (ht : key.topologyId = key'.topologyId) (hne : key ≠ key') (hnet : row.cidr = some net)
    (hnet' : row'.cidr = some net') : net.overlaps net' = false := by
  by_contra hover
  obtain ⟨a, ha, ha'⟩ := Network.overlaps_iff.mp (Bool.not_eq_false _ ▸ hover)
  obtain ⟨spec, n, g, hspec, hn, -, hfits⟩ := (hok.fits key row hrow).fits
  obtain ⟨spec', n', g', hspec', hn', -, hfits'⟩ := (hok.fits key' row' hrow').fits
  obtain rfl : n = net := Option.some.inj (hn.symm.trans hnet)
  obtain rfl : n' = net' := Option.some.inj (hn'.symm.trans hnet')
  obtain rfl : spec = spec' := Option.some.inj (hspec.symm.trans (ht ▸ hspec'))
  have heq := (hfits.eq_of_common hfits' ha ha').1
  exact hne (hok.cidrUnique key key' row row' hrow hrow' ht (by rw [hnet, hnet', heq]))

/-- After any interleaving of ensure and delete calls that starts without rows: the subnets of a
topology are disjoint, each gateway lies in its subnet, and whatever the calls do next, a complete
row keeps its subnet and gateway for as long as it is there. -/
theorem runtime_subnets_stay_disjoint (cfg : AdapterConfig) (specs : Int → Option TopologySpec)
    (s : RaceState) (hfresh : s.Fresh) (as : List RaceStep) :
    (∀ key key' row row' net net',
      (run (raceStep cfg specs) s as).db.runtimes.lookup key = some row →
      (run (raceStep cfg specs) s as).db.runtimes.lookup key' = some row' →
      key.topologyId = key'.topologyId → key ≠ key' → row.cidr = some net →
      row'.cidr = some net' → net.overlaps net' = false) ∧
    (∀ key row, (run (raceStep cfg specs) s as).db.runtimes.lookup key = some row →
      ∃ net g, row.cidr = some net ∧ row.gatewayIp = some g ∧ g ∈ net) ∧
    ∀ key row, (run (raceStep cfg specs) s as).db.runtimes.lookup key = some row →
      runtimeRowComplete row = true → ∀ (bs : List RaceStep) (row' : TopologyRuntime),
      (run (raceStep cfg specs) s (as ++ bs)).db.runtimes.lookup key = some row' →
      row'.topologyRuntimeId = row.topologyRuntimeId →
      row'.cidr = row.cidr ∧ row'.gatewayIp = row.gatewayIp := by
  have hok : RaceOk specs (run (raceStep cfg specs) s as) := (RaceOk.of_fresh hfresh).run as
  refine ⟨?_, ?_, ?_⟩
  · intro key key' row row' net net' hrow hrow' ht hne hnet hnet'
    exact hok.rows.not_overlaps hrow hrow' ht hne hnet hnet'
  · intro key row hrow
    obtain ⟨spec, net, g, -, hnet, hg, hfits⟩ := (hok.rows.fits key row hrow).fits
    exact ⟨net, g, hnet, hg, hfits.gateway_mem⟩
  · intro key row hrow _ bs row' hrow' hid
    rw [run_append] at hrow'
    refine run_keeps_row hok bs (hok.rows.idLt key row hrow) ?_ row' hrow' hid
    intro row₁ hrow₁ _
    obtain rfl : row = row₁ := Option.some.inj (hrow.symm.trans hrow₁)
    exact ⟨rfl, rfl⟩

def emptyTopologyDb : TopologyDb :=
  { runtimes := ∅, allocations := ∅, attachments := ∅, nextRuntimeId := 1, nextAttachmentId := 1 }

/-- An adapter that leaves the host alone. -/
def dbOnlyAdapter : AdapterConfig where
  applyLinuxBridge := false
  applyLinuxAttachment := false
  hexDigest n :=
    if n = "node-1" then "35971be6e9bb024a895582fe0e42e04848a86da550aaef0fccbfba86f99f617d"
    else "1779f59f4df251f6b81aeb08fb52a5d84ad4eef833c7fdf0bc576cd1aab11d24"

/-- Two nodes choose the same child; the second commit is refused and tries again. -/
def twoNodeRace : List RaceStep :=
  [.ensureNodeTopology 1 "node-1", .ensureNodeTopology 1 "node-2"] ++
    [0, 1, 0, 1, 0, 1, 0, 1, 1, 1, 1].map fun i => .advance i {}

def twoNodeDb : TopologyDb :=
  (run (raceStep dbOnlyAdapter fun _ => some {}) ⟨emptyTopologyDb, []⟩ twoNodeRace).db

theorem refused_commit_takes_other_subnet :
    ∃ row row' net net', twoNodeDb.runtimes.lookup ⟨1, "node-1"⟩ = some row ∧
      twoNodeDb.runtimes.lookup ⟨1, "node-2"⟩ = some row' ∧ row.cidr = some net ∧
      row'.cidr = some net' ∧ net.overlaps net' = false := by
  have hcidr : ∀ n ∈ ["node-1", "node-2"],
      ((twoNodeDb.runtimes.lookup ⟨1, n⟩).bind TopologyRuntime.cidr).isSome = true := by
    decide +kernel
  obtain ⟨net, hnet⟩ := Option.isSome_iff_exists.mp (hcidr "node-1" (by simp))
  obtain ⟨net', hnet'⟩ := Option.isSome_iff_exists.mp (hcidr "node-2" (by simp))
  obtain ⟨row, hrow, hnet⟩ := Option.bind_eq_some_iff.mp hnet
  obtain ⟨row', hrow', hnet'⟩ := Option.bind_eq_some_iff.mp hnet'
  refine ⟨row, row', net, net', hrow, hrow', hnet, hnet', ?_⟩
  have hfresh : RaceState.Fresh ⟨emptyTopologyDb, []⟩ := ⟨rfl, rfl⟩
  obtain ⟨hdisjoint, -, -⟩ := runtime_subnets_stay_disjoint dbOnlyAdapter (fun _ => some {}) _
    hfresh twoNodeRace
  rw [twoNodeDb] at hrow hrow'
  exact hdisjoint _ _ row row' net net' hrow hrow' rfl (by decide) hnet hnet'

end Devnest
