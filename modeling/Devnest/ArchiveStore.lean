import Devnest.SnapshotRows

/-!
# Snapshot rows and their archives

A snapshot is a row in the database and an archive in storage, and no
transaction covers both. The create job stores the archive first and commits
`AVAILABLE` after it; a restore only reads. `delete_snapshot` removes the
archive first, too, and the row after it: where its commit fails the row stays
`AVAILABLE`, with nothing to restore. `workspace_job.workspace_snapshot_id`
refers to the row, so in a database that enforces foreign keys the commit fails
whenever a job of the snapshot is still in the table.

`ArchiveInv` is the invariant: what is `AVAILABLE`, and what an open restore job
works for, has its archive, and an open create job is the only writer of its own.
-/

namespace Devnest

open Runs

/-! ## Rows and archives -/

/-- The tables, and the sizes of the archives in storage by workspace and snapshot. -/
structure SnapshotStore where
  db : Db
  archives : Table (Nat × Nat) Nat := ∅

/-- `has_nonempty_archive`. -/
def SnapshotStore.hasNonemptyArchive (w : SnapshotStore) (wid sid : Nat) : Bool :=
  (w.archives.lookup (wid, sid)).any (0 < ·)

/-- What the storage does when a create job calls it. -/
structure StorageCalls where
  /-- The archive that is there once export and upload have succeeded. Even that of an empty
  directory has the header of `gzip`. -/
  stored : { size : Nat // 0 < size }
  /-- What an export or an upload leaves that does not succeed. -/
  left : Option Nat
  /-- `delete_archive` removes it. -/
  deleted : Bool

/-- The entry of one archive, after a call. -/
def putArchive (archives : Table (Nat × Nat) Nat) (key : Nat × Nat) :
    Option Nat → Table (Nat × Nat) Nat
  | some size => archives.insert key size
  | none => archives.erase key

theorem lookup_putArchive (archives : Table (Nat × Nat) Nat) (key key' : Nat × Nat)
    (size : Option Nat) : (putArchive archives key size).lookup key' =
      if key' = key then size else archives.lookup key' := by
  cases size with
  | some size => exact Table.lookup_insert_eq archives key key' size
  | none =>
      by_cases h : key' = key
      · rw [if_pos h, h]
        exact AList.lookup_erase key archives
      · rw [if_neg h]
        exact AList.lookup_erase_ne h

section Jobs

variable (cfg : Settings) (inp : WorkerInput) (calls : StorageCalls) (s : Session)

/-- The archive after the end of `_execute_snapshot_create_job`. -/
def finishedArchive (res : WorkspaceSnapshotOperationResult) (uploaded : Bool) : Option Nat :=
  if res.success then
    match (if inp.storage.remote && !uploaded then inp.storage.uploadError else none) with
    | some _ => calls.left
    | none => some calls.stored
  else if calls.deleted then none
  else calls.left

/-- The archive after the body of a create job, whatever becomes of its commit. -/
def createdArchive : Option Nat :=
  if snapshotContainer s && inp.storage.remote && isRemoteEc2SsmSnapshotNode
      (s.ws.executionNodeId.bind s.executionNodes.lookup) then
    finishedArchive inp calls inp.storage.remoteExport inp.storage.remoteExport.success
  else match inp.orch.exportWorkspaceFilesystemSnapshot with
    | .crashed | .raised _ => calls.left
    | .returned res => finishedArchive inp calls res false

/-- `_execute_job_body` is reached. -/
def reachesBody : Bool :=
  match resolveOrchestratorPlacement cfg inp.placement s, inp.binding with
  | .ok _, .bound => true
  | _, _ => false

/-- The archives after an execution. The other jobs only read them. -/
def archivesAfter (archives : Table (Nat × Nat) Nat) : Table (Nat × Nat) Nat :=
  if s.job.jobType = .snapshotCreate && reachesBody cfg inp s then
    match s.job.workspaceSnapshotId with
    | none => archives
    | some sid =>
        match s.snapshots.lookup sid with
        | none => archives
        | some snap =>
            if snap.workspaceId ≠ s.wid then archives
            else putArchive archives (s.wid, sid) (createdArchive inp calls s)
  else archives

end Jobs

/-! ## Steps -/

/-- What `delete_archive` does: `raised` leaves the function, the other faults are swallowed. -/
inductive DeleteArchive where
  | raised | kept | removed
  deriving DecidableEq, Repr

inductive DeleteSnapshotError where
  | snapshotNotFound
  | snapshotConflict
  | storage
  /-- `session.commit()` raises: the database refuses, or it cannot be reached. -/
  | commit
  deriving DecidableEq, Repr

/-- A job of the snapshot that is `QUEUED` or `RUNNING`. -/
def pendingJobOf (db : Db) (sid : Nat) : Bool :=
  (Table.rows db.jobs).any fun j => j.workspaceSnapshotId = some sid && j.status.isOpen

/-- A job row refers to the snapshot. -/
def referenced (db : Db) (sid : Nat) : Bool :=
  (Table.rows db.jobs).any fun j => j.workspaceSnapshotId = some sid

/-- `delete_snapshot`. `foreignKeys`: the database enforces them. -/
def deleteSnapshot (foreignKeys : Bool) (w : SnapshotStore) (sid owner : Nat)
    (ans : DeleteArchive) (commitFails : Bool) :
    SnapshotStore × Except DeleteSnapshotError Unit :=
  match w.db.snapshots.lookup sid with
  | none => (w, .error .snapshotNotFound)
  | some snap =>
      if ((w.db.workspaces.lookup snap.workspaceId).map (·.ownerUserId)) ≠ some owner then
        (w, .error .snapshotNotFound)
      else if pendingJobOf w.db sid then (w, .error .snapshotConflict)
      else if ans = .raised then (w, .error .storage)
      else
        let archives :=
          if ans = .removed then w.archives.erase (snap.workspaceId, sid) else w.archives
        if commitFails || (foreignKeys && referenced w.db sid) then
          ({ w with archives := archives }, .error .commit)
        else ({ db := { w.db with snapshots := w.db.snapshots.erase sid }, archives := archives },
          .ok ())

inductive StoreStep where
  /-- A request, an execution or a tick. Where it `fails`, a storage call or the commit raised and
  the rows are as they were. -/
  | tick (st : Step) (calls : StorageCalls) (fails : Bool)
  | deleteSnapshot (sid owner : Nat) (ans : DeleteArchive) (commitFails : Bool)

/-- The storage as the job finds it. -/
def WorkerInput.seeing (w : SnapshotStore) (jid : Nat) (inp : WorkerInput) : WorkerInput :=
  { inp with storage := { inp.storage with
      hasNonemptyArchive := (w.db.jobs.lookup jid).any fun job =>
        job.workspaceSnapshotId.any (w.hasNonemptyArchive job.workspaceId) } }

/-- The step, with the answers `has_nonempty_archive` gives. -/
def Step.seeing (w : SnapshotStore) : Step → Step
  | .restoreSnapshot inp sid owner =>
      .restoreSnapshot
        { inp with
          hasNonemptyArchive := (w.db.snapshots.lookup sid).any fun snap =>
            w.hasNonemptyArchive snap.workspaceId sid } sid owner
  | .processNextQueuedJob inp jid => .processNextQueuedJob (inp.seeing w jid) jid
  | .runQueuedWorkspaceJobById inp jid => .runQueuedWorkspaceJobById (inp.seeing w jid) jid
  | st => st

section Ticks

variable (cfg : Settings) (calls : StorageCalls) (w : SnapshotStore)

/-- The archives after job `jid` ran, if it could be claimed. -/
def archivesAfterJob (inp : WorkerInput) (jid : Nat) : Table (Nat × Nat) Nat :=
  match claimJob inp jid w.db with
  | none => w.archives
  | some s => archivesAfter cfg inp calls s w.archives

def archivesAfterTick (st : Step) : Table (Nat × Nat) Nat :=
  match st.execution w.db with
  | none => w.archives
  | some (_, inp, jid) => archivesAfterJob cfg calls w inp jid

end Ticks

def storeStep (cfg : Settings) (foreignKeys : Bool) (w : SnapshotStore) : StoreStep → SnapshotStore
  | .tick st calls fails =>
      { db := if fails then w.db else step cfg w.db (st.seeing w)
        archives := archivesAfterTick cfg calls w (st.seeing w) }
  | .deleteSnapshot sid owner ans commitFails =>
      (deleteSnapshot foreignKeys w sid owner ans commitFails).1

/-- Every `AVAILABLE` row has its archive. -/
def AvailableRestorable (w : SnapshotStore) : Prop :=
  ∀ sid snap, w.db.snapshots.lookup sid = some snap → snap.status = .available →
    w.hasNonemptyArchive snap.workspaceId sid = true

/-- A `delete_snapshot` that removes the archive of an `AVAILABLE` snapshot can commit. -/
def DeletesBoth (foreignKeys : Bool) (w : SnapshotStore) : StoreStep → Prop
  | .tick _ _ _ => True
  | .deleteSnapshot sid owner ans commitFails =>
      ∀ snap, w.db.snapshots.lookup sid = some snap → snap.status = .available →
        (w.db.workspaces.lookup snap.workspaceId).map (·.ownerUserId) = some owner →
        pendingJobOf w.db sid = false → ans = .removed →
          commitFails = false ∧ (foreignKeys = true → referenced w.db sid = false)

/-! ## The invariant -/

/-- An open snapshot job of a snapshot. -/
structure OpenFor (db : Db) (jid sid : Nat) (job : WorkspaceJob) : Prop where
  row : db.jobs.lookup jid = some job
  snapshot : job.jobType.isSnapshot = true
  isOpen : job.status.isOpen = true
  sid : job.workspaceSnapshotId = some sid

/-- The row an open snapshot job waits for; a restore has an archive to read. -/
structure Awaits (w : SnapshotStore) (job : WorkspaceJob) (sid : Nat) (snap : WorkspaceSnapshot) :
    Prop where
  row : w.db.snapshots.lookup sid = some snap
  workspace : snap.workspaceId = job.workspaceId
  status : snap.status = job.jobType.awaited
  archive : job.jobType = .snapshotRestore → w.hasNonemptyArchive job.workspaceId sid = true

structure ArchiveInv (w : SnapshotStore) : Prop where
  restorable : AvailableRestorable w
  named : ∀ {jid job}, w.db.jobs.lookup jid = some job → job.jobType.isSnapshot = true →
    job.status.isOpen = true → ∃ sid, job.workspaceSnapshotId = some sid
  awaits : ∀ {jid sid job}, OpenFor w.db jid sid job → ∃ snap, Awaits w job sid snap
  single : ∀ {jid jid' sid job job'}, OpenFor w.db jid sid job → OpenFor w.db jid' sid job' →
    jid' = jid
  idle : ∀ {jid job}, w.db.jobs.lookup jid = some job → job.jobType.isSnapshot = true →
    job.status ≠ .running
  owned : ∀ {jid job}, w.db.jobs.lookup jid = some job →
    (w.db.workspaces.lookup job.workspaceId).isSome

theorem WorkspaceJobType.awaited_ne (jt : WorkspaceJobType) : jt.awaited ≠ .available := by
  cases jt <;> nofun

section Inv

variable {w w' : SnapshotStore} {jid sid : Nat} {job old : WorkspaceJob}

/-- One job row is written; where it is an open snapshot job it was one before. -/
theorem ArchiveInv.insert_job (h : ArchiveInv w) (hjobs : w'.db.jobs = w.db.jobs.insert jid job)
    (hsnaps : w'.db.snapshots = w.db.snapshots) (harch : w'.archives = w.archives)
    (hws : ∀ k, (w.db.workspaces.lookup k).isSome → (w'.db.workspaces.lookup k).isSome)
    (howned : (w'.db.workspaces.lookup job.workspaceId).isSome)
    (hrun : job.jobType.isSnapshot = true → job.status ≠ .running)
    (hopen : job.jobType.isSnapshot = true → job.status.isOpen = true →
      ∃ old, w.db.jobs.lookup jid = some old ∧ old.status.isOpen = true ∧ SameJob old job ∧
        job.workspaceSnapshotId = old.workspaceSnapshotId) : ArchiveInv w' := by
  have hlook : ∀ {k j}, w'.db.jobs.lookup k = some j →
      k = jid ∧ j = job ∨ w.db.jobs.lookup k = some j := by
    intro k j hl
    rw [hjobs, Table.lookup_insert_eq] at hl
    split at hl
    next hk => exact .inl ⟨hk, (Option.some.inj hl).symm⟩
    next => exact .inr hl
  -- an open job of the new table comes from one of the old table, under the same key
  have hback : ∀ {k sid j}, OpenFor w'.db k sid j →
      ∃ j', OpenFor w.db k sid j' ∧ SameJob j' j := by
    intro k sid j ho
    rcases hlook ho.row with ⟨rfl, rfl⟩ | hl
    · obtain ⟨old, hold, hoo, hsame, hsid⟩ := hopen ho.snapshot ho.isOpen
      exact ⟨old, ⟨hold, hsame.2 ▸ ho.snapshot, hoo, hsid ▸ ho.sid⟩, hsame⟩
    · exact ⟨j, ⟨hl, ho.snapshot, ho.isOpen, ho.sid⟩, .refl j⟩
  refine ⟨fun sid snap hsnap hav => ?_, fun {k j} hl hj ho => ?_, fun {k sid j} ho => ?_,
    fun ho ho' => ?_, fun {k j} hl hj => ?_, fun {k j} hl => ?_⟩
  · rw [SnapshotStore.hasNonemptyArchive, harch]
    exact h.restorable sid snap (hsnaps ▸ hsnap) hav
  · rcases hlook hl with ⟨rfl, rfl⟩ | hl
    · obtain ⟨old, hold, hoo, hsame, hsid⟩ := hopen hj ho
      rw [hsid]
      exact h.named hold (hsame.2 ▸ hj) hoo
    · exact h.named hl hj ho
  · obtain ⟨j', ho', hsame⟩ := hback ho
    obtain ⟨snap, hrow, hwid, hst, harchive⟩ := h.awaits ho'
    refine ⟨snap, hsnaps ▸ hrow, hwid.trans hsame.1.symm, hst.trans (by rw [hsame.2]),
      fun hjt => ?_⟩
    rw [SnapshotStore.hasNonemptyArchive, harch, hsame.1]
    exact harchive (hsame.2 ▸ hjt)
  · obtain ⟨j, hj, -⟩ := hback ho
    obtain ⟨j', hj', -⟩ := hback ho'
    exact h.single hj hj'
  · rcases hlook hl with ⟨rfl, rfl⟩ | hl
    · exact hrun hj
    · exact h.idle hl hj
  · rcases hlook hl with ⟨rfl, rfl⟩ | hl
    · exact howned
    · exact hws _ (h.owned hl)

/-- Jobs, snapshots and archives stay. -/
theorem ArchiveInv.congr (h : ArchiveInv w) (hjobs : w'.db.jobs = w.db.jobs)
    (hsnaps : w'.db.snapshots = w.db.snapshots) (harch : w'.archives = w.archives)
    (hws : ∀ k, (w.db.workspaces.lookup k).isSome → (w'.db.workspaces.lookup k).isSome) :
    ArchiveInv w' := by
  have hback : ∀ {k sid j}, OpenFor w'.db k sid j → OpenFor w.db k sid j := fun ho =>
    ⟨hjobs ▸ ho.row, ho.snapshot, ho.isOpen, ho.sid⟩
  refine ⟨fun sid snap hsnap hav => ?_, fun hl => h.named (hjobs ▸ hl), fun ho => ?_,
    fun ho ho' => h.single (hback ho) (hback ho'), fun hl => h.idle (hjobs ▸ hl),
    fun hl => hws _ (h.owned (hjobs ▸ hl))⟩
  · rw [SnapshotStore.hasNonemptyArchive, harch]
    exact h.restorable sid snap (hsnaps ▸ hsnap) hav
  · obtain ⟨snap, hrow, hwid, hst, harchive⟩ := h.awaits (hback ho)
    refine ⟨snap, hsnaps ▸ hrow, hwid, hst, fun hjt => ?_⟩
    rw [SnapshotStore.hasNonemptyArchive, harch]
    exact harchive hjt

/-- A create job writes the archive of its own snapshot. -/
theorem ArchiveInv.write (h : ArchiveInv w) (ho : OpenFor w.db jid sid job)
    (hjt : job.jobType = .snapshotCreate) {archives : Table (Nat × Nat) Nat}
    (harch : ∀ wid k, k ≠ sid → archives.lookup (wid, k) = w.archives.lookup (wid, k)) :
    ArchiveInv { w with archives := archives } := by
  obtain ⟨mine, hmine⟩ := h.awaits ho
  have hkept : ∀ {wid k}, k ≠ sid → w.hasNonemptyArchive wid k = true →
      SnapshotStore.hasNonemptyArchive { w with archives := archives } wid k = true := by
    intro wid k hk hold
    rw [SnapshotStore.hasNonemptyArchive, harch wid k hk]
    exact hold
  refine ⟨fun k snap hsnap hav => hkept ?_ (h.restorable k snap hsnap hav), h.named,
    fun {k sid' j} ho' => ?_, h.single, h.idle, h.owned⟩
  · rintro rfl
    obtain rfl : snap = mine := Option.some.inj (hsnap.symm.trans hmine.row)
    exact job.jobType.awaited_ne (hmine.status.symm.trans hav)
  · obtain ⟨snap, hrow, hwid, hst, harchive⟩ := h.awaits ho'
    refine ⟨snap, hrow, hwid, hst, fun hres => hkept ?_ (harchive hres)⟩
    rintro rfl
    obtain rfl := h.single ho ho'
    obtain rfl : job = j := Option.some.inj (ho.row.symm.trans ho'.row)
    rw [hjt] at hres
    cases hres

/-- A snapshot job ends: its row is settled. -/
theorem ArchiveInv.settle (h : ArchiveInv w) (ho : OpenFor w.db jid sid old)
    (hjobs : w'.db.jobs = w.db.jobs.insert jid job) (hclosed : job.status.isOpen = false)
    {snap : WorkspaceSnapshot}
    (hsnaps : ∀ k, w'.db.snapshots.lookup k =
      if k = sid then some snap else w.db.snapshots.lookup k)
    (harch : w'.archives = w.archives)
    (hav : snap.status = .available → w.hasNonemptyArchive snap.workspaceId sid = true)
    (hws : ∀ k, (w.db.workspaces.lookup k).isSome → (w'.db.workspaces.lookup k).isSome)
    (howned : (w'.db.workspaces.lookup job.workspaceId).isSome) : ArchiveInv w' := by
  have hlook : ∀ {k j}, w'.db.jobs.lookup k = some j →
      j = job ∨ k ≠ jid ∧ w.db.jobs.lookup k = some j := by
    intro k j hl
    rw [hjobs, Table.lookup_insert_eq] at hl
    split at hl
    next => exact .inl (Option.some.inj hl).symm
    next hk => exact .inr ⟨hk, hl⟩
  have hback : ∀ {k sid' j}, OpenFor w'.db k sid' j → k ≠ jid ∧ OpenFor w.db k sid' j := by
    intro k sid' j ho'
    rcases hlook ho'.row with rfl | ⟨hk, hl⟩
    · rw [ho'.isOpen] at hclosed
      cases hclosed
    · exact ⟨hk, hl, ho'.snapshot, ho'.isOpen, ho'.sid⟩
  refine ⟨fun k snap' hsnap' hav' => ?_, fun {k j} hl hj hopen => ?_, fun {k sid' j} ho' => ?_,
    fun ho' ho'' => h.single (hback ho').2 (hback ho'').2, fun {k j} hl hj hrun => ?_,
    fun {k j} hl => ?_⟩
  · rw [SnapshotStore.hasNonemptyArchive, harch]
    rw [hsnaps] at hsnap'
    split at hsnap'
    next hk =>
      obtain rfl := Option.some.inj hsnap'
      rw [hk]
      exact hav hav'
    next => exact h.restorable k snap' hsnap' hav'
  · rcases hlook hl with rfl | ⟨-, hl⟩
    · rw [hopen] at hclosed
      cases hclosed
    · exact h.named hl hj hopen
  · obtain ⟨hk, ho₁⟩ := hback ho'
    obtain ⟨snap', hrow, hwid, hst, harchive⟩ := h.awaits ho₁
    refine ⟨snap', ?_, hwid, hst, fun hjt => ?_⟩
    · rw [hsnaps, if_neg, hrow]
      rintro rfl
      exact hk (h.single ho ho₁)
    · rw [SnapshotStore.hasNonemptyArchive, harch]
      exact harchive hjt
  · rcases hlook hl with rfl | ⟨-, hl⟩
    · rw [hrun] at hclosed
      cases hclosed
    · exact h.idle hl hj hrun
  · rcases hlook hl with rfl | ⟨-, hl⟩
    · exact howned
    · exact hws _ (h.owned hl)

/-- A snapshot request: the new job brings its row along, and no other open job has it. -/
theorem ArchiveInv.request (h : ArchiveInv w)
    (hjobs : w'.db.jobs = w.db.jobs.insert (Table.freshKey w.db.jobs) job)
    {row : WorkspaceSnapshot} (hsnaps : w'.db.snapshots = w.db.snapshots.insert sid row)
    (harch : w'.archives = w.archives) (hws : w'.db.workspaces = w.db.workspaces)
    (howned : (w.db.workspaces.lookup job.workspaceId).isSome) (hq : job.status = .queued)
    (hsid : job.workspaceSnapshotId = some sid) (hwid : row.workspaceId = job.workspaceId)
    (hst : row.status = job.jobType.awaited)
    (harchive : job.jobType = .snapshotRestore → w.hasNonemptyArchive job.workspaceId sid = true)
    (hfree : ∀ jid j, ¬ OpenFor w.db jid sid j) : ArchiveInv w' := by
  have hlook : ∀ {k j}, w'.db.jobs.lookup k = some j →
      k = Table.freshKey w.db.jobs ∧ j = job ∨ w.db.jobs.lookup k = some j := by
    intro k j hl
    rw [hjobs, Table.lookup_insert_eq] at hl
    split at hl
    next hk => exact .inl ⟨hk, (Option.some.inj hl).symm⟩
    next => exact .inr hl
  have hback : ∀ {k sid' j}, OpenFor w'.db k sid' j →
      k = Table.freshKey w.db.jobs ∧ j = job ∧ sid' = sid ∨ sid' ≠ sid ∧ OpenFor w.db k sid' j := by
    intro k sid' j ho
    rcases hlook ho.row with ⟨hk, rfl⟩ | hl
    · exact .inl ⟨hk, rfl, Option.some.inj (ho.sid.symm.trans hsid)⟩
    · have hold : OpenFor w.db k sid' j := ⟨hl, ho.snapshot, ho.isOpen, ho.sid⟩
      refine .inr ⟨?_, hold⟩
      rintro rfl
      exact hfree k j hold
  refine ⟨fun k snap hsnap hav => ?_, fun {k j} hl hj ho => ?_, fun {k sid' j} ho => ?_,
    fun ho ho' => ?_, fun {k j} hl hj => ?_, fun {k j} hl => ?_⟩
  · rw [SnapshotStore.hasNonemptyArchive, harch]
    rw [hsnaps, Table.lookup_insert_eq] at hsnap
    split at hsnap
    next =>
      obtain rfl := Option.some.inj hsnap
      exact absurd (hst.symm.trans hav) job.jobType.awaited_ne
    next => exact h.restorable k snap hsnap hav
  · rcases hlook hl with ⟨-, rfl⟩ | hl
    · exact ⟨sid, hsid⟩
    · exact h.named hl hj ho
  · rcases hback ho with ⟨-, rfl, rfl⟩ | ⟨hne, hold⟩
    · refine ⟨row, by rw [hsnaps, Table.lookup_insert_eq, if_pos rfl], hwid, hst, fun hjt => ?_⟩
      rw [SnapshotStore.hasNonemptyArchive, harch]
      exact harchive hjt
    · obtain ⟨snap, hrow, hw, hs, ha⟩ := h.awaits hold
      refine ⟨snap, by rw [hsnaps, Table.lookup_insert_eq, if_neg hne, hrow], hw, hs,
        fun hjt => ?_⟩
      rw [SnapshotStore.hasNonemptyArchive, harch]
      exact ha hjt
  · rcases hback ho with ⟨hk, -, rfl⟩ | ⟨hne, hold⟩
    · rcases hback ho' with ⟨hk', -, -⟩ | ⟨hne', -⟩
      · exact hk'.trans hk.symm
      · exact absurd rfl hne'
    · rcases hback ho' with ⟨-, -, hsame⟩ | ⟨-, hold'⟩
      · exact absurd hsame hne
      · exact h.single hold hold'
  · rcases hlook hl with ⟨-, rfl⟩ | hl
    · rw [hq]
      nofun
    · exact h.idle hl hj
  · rw [hws]
    rcases hlook hl with ⟨-, rfl⟩ | hl
    · exact howned
    · exact h.owned hl

end Inv

/-! ## Executions -/

section Executions

variable {cfg : Settings} {inp : WorkerInput} {calls : StorageCalls} {s : Session}

theorem finishSnapshotCreate_available {sid : Nat} {snap snap' : WorkspaceSnapshot}
    {res : WorkspaceSnapshotOperationResult} {uploaded : Bool}
    (hrow : (finishSnapshotCreate inp s sid snap res uploaded).snapshots.lookup sid = some snap')
    (hav : snap'.status = .available) :
    finishedArchive inp calls res uploaded = some calls.stored.1 := by
  have hfailed : ∀ {t : Table Nat WorkspaceSnapshot},
      (t.insert sid { snap with status := .failed }).lookup sid = some snap' → False := by
    intro t ht
    rw [Table.lookup_insert_eq, if_pos rfl] at ht
    obtain rfl := Option.some.inj ht
    cases hav
  unfold finishSnapshotCreate at hrow
  unfold finishedArchive
  cases hsucc : res.success with
  | false =>
      rw [hsucc] at hrow
      exact (hfailed hrow).elim
  | true =>
      rw [hsucc] at hrow
      rw [if_pos rfl] at hrow ⊢
      cases hup : (if inp.storage.remote && !uploaded then inp.storage.uploadError else none) with
      | some err =>
          rw [hup] at hrow
          exact (hfailed hrow).elim
      | none => rfl

/-- An export that raises leaves the row as it is, or `FAILED`. -/
theorem handleOrchestratorException_created (cfg : Settings) (inp : WorkerInput) {sid : Nat}
    {snap : WorkspaceSnapshot} (hjt : s.job.jobType = .snapshotCreate)
    (hsid : s.job.workspaceSnapshotId = some sid)
    (hsnap : s.snapshots.lookup sid = some snap) (hst : snap.status = .creating)
    (nodeKey : Option String) (m : String) :
    (handleOrchestratorException cfg inp s nodeKey (.snapshot m)).snapshots = s.snapshots ∨
      (handleOrchestratorException cfg inp s nodeKey (.snapshot m)).snapshots =
        s.snapshots.insert sid { snap with status := .failed } := by
  have hnode : nodeReadinessRetryAllowed s.job.jobType = false := by
    rw [hjt]
    rfl
  unfold handleOrchestratorException
  dsimp only [syncAfterException]
  rw [hnode]
  refine retryElse_elim (P := fun s' => s'.snapshots = s.snapshots ∨
    s'.snapshots = s.snapshots.insert sid { snap with status := .failed }) cfg inp.clk
    (fun _ _ _ => .inl rfl) ?_
  rw [hjt]
  right
  simp [failJobOnly, settleSnapshotAfterException, hsid, hsnap, hjt, hst, setSnapshot,
    WorkspaceJobType.isSnapshot]

/-- **A create job that commits `AVAILABLE` has stored the archive.** -/
theorem created_available_stored (calls : StorageCalls) {entry : EntryPoint} {sid : Nat}
    {snap snap' : WorkspaceSnapshot} (hjt : s.job.jobType = .snapshotCreate)
    (hsid : s.job.workspaceSnapshotId = some sid)
    (hsnap : s.snapshots.lookup sid = some snap) (hwid : snap.workspaceId = s.wid)
    (hst : snap.status = .creating) (hc : (executeClaimedJob cfg inp entry s).committed = true)
    (hrow : (executeClaimedJob cfg inp entry s).session.snapshots.lookup sid = some snap')
    (hav : snap'.status = .available) (archives : Table (Nat × Nat) Nat) :
    (archivesAfter cfg inp calls s archives).lookup (s.wid, sid) = some calls.stored.1 := by
  have hold : ∀ {t : Session}, t.snapshots = s.snapshots → t.snapshots.lookup sid = some snap' →
      False := by
    intro t ht hrow
    rw [ht, hsnap] at hrow
    obtain rfl := Option.some.inj hrow
    rw [hst] at hav
    cases hav
  have hbegin : beginCreateBringupAfterPlacement s = s := by
    simp [beginCreateBringupAfterPlacement, hjt]
  have hrepo : ¬ s.job.jobType = .repoImport := by simp [hjt]
  have hdel : s.job.jobType ≠ .delete := by simp [hjt]
  rw [executeClaimedJob_eq cfg inp entry hdel, placeAndProcess] at hc hrow
  cases hp : resolveOrchestratorPlacement cfg inp.placement s with
  | error e =>
      rw [hp] at hrow
      exact (hold (failJobFromPlacement_snapshots cfg inp s e) hrow).elim
  | ok p =>
      rw [hp] at hc hrow
      dsimp only at hc hrow
      rw [if_neg hrepo, hbegin] at hc hrow
      cases hb : inp.binding with
      | crashed =>
          rw [hb] at hc
          cases hc
      | failed m =>
          rw [hb] at hrow
          exact (hold (failJobFromOrchestratorBinding_snapshots cfg inp s m) hrow).elim
      | bound =>
          rw [hb] at hc hrow
          have hafter : archivesAfter cfg inp calls s archives =
              putArchive archives (s.wid, sid) (createdArchive inp calls s) := by
            simp [archivesAfter, reachesBody, hjt, hp, hb, hsid, hsnap, hwid]
          rw [hafter, lookup_putArchive, if_pos rfl, createdArchive]
          dsimp only at hc hrow
          rw [processClaimedRunningJob, executeJobBody, hjt] at hc hrow
          dsimp only at hc hrow
          simp only [executeSnapshotCreateJob, hsid, hsnap, hwid, ne_eq, not_true_eq_false,
            if_false] at hc hrow
          split_ifs at hc hrow ⊢ with hremote
          · exact finishSnapshotCreate_available hrow hav
          · cases hex : inp.orch.exportWorkspaceFilesystemSnapshot with
            | crashed =>
                rw [hex] at hc
                cases hc
            | returned res =>
                rw [hex] at hrow
                exact finishSnapshotCreate_available hrow hav
            | raised e =>
                rw [hex] at hrow
                have hrow' : (handleOrchestratorException cfg inp s (some p.1) (.snapshot e)
                    ).snapshots.lookup sid = some snap' := hrow
                have hraised := handleOrchestratorException_created cfg inp hjt hsid hsnap hst
                  (some p.1) e
                rcases hraised with hkept | hfailed
                · exact (hold hkept hrow').elim
                · rw [hfailed, Table.lookup_insert_eq, if_pos rfl] at hrow'
                  obtain rfl := Option.some.inj hrow'
                  cases hav

theorem retryElse_sid {terminal : Session} {retryable : Bool} {m : String} {stage : FailureStage}
    {code : String} (ht : terminal.job.status.isOpen = false) :
    (retryElse cfg inp.clk s retryable m stage code terminal).job.status.isOpen = true →
      (retryElse cfg inp.clk s retryable m stage code terminal).job.workspaceSnapshotId =
        s.job.workspaceSnapshotId := by
  unfold retryElse
  intro hopen
  cases hjob : (if retryable then
      tryScheduleWorkspaceJobRetry cfg inp.clk s.job m stage code else none) with
  | none =>
      rw [hjob, ht] at hopen
      cases hopen
  | some job =>
      cases retryable with
      | false => cases hjob
      | true =>
          rw [if_pos rfl, tryScheduleWorkspaceJobRetry] at hjob
          split at hjob
          next =>
            obtain rfl := Option.some.inj hjob
            rfl
          next => cases hjob

/-- A snapshot job that ends before its body leaves every row alone. -/
theorem executeClaimedJob_early (entry : EntryPoint) (hjt : s.job.jobType.isSnapshot = true)
    (hearly : failsEarly cfg inp s = true) :
    (executeClaimedJob cfg inp entry s).session.snapshots = s.snapshots ∧
      ((executeClaimedJob cfg inp entry s).session.job.status.isOpen = true →
        (executeClaimedJob cfg inp entry s).session.job.workspaceSnapshotId =
          s.job.workspaceSnapshotId) := by
  have hdel : s.job.jobType ≠ .delete := by rintro h; rw [h] at hjt; cases hjt
  have hcre : s.job.jobType ≠ .create := by rintro h; rw [h] at hjt; cases hjt
  have hsta : s.job.jobType ≠ .start := by rintro h; rw [h] at hjt; cases hjt
  have hrepo : s.job.jobType ≠ .repoImport := by rintro h; rw [h] at hjt; cases hjt
  have hnode : nodeReadinessRetryAllowed s.job.jobType = false := by
    cases h : s.job.jobType <;> first | rfl | (rw [h] at hjt; cases hjt)
  have hbegin : beginCreateBringupAfterPlacement s = s := by
    simp [beginCreateBringupAfterPlacement, hcre]
  have hcap := resolve_noCapacity cfg inp.placement hcre hsta
  rw [executeClaimedJob_eq cfg inp entry hdel]
  unfold failsEarly at hearly
  unfold placeAndProcess
  cases hp : resolveOrchestratorPlacement cfg inp.placement s with
  | error e =>
      rw [hp] at hcap
      refine ⟨failJobFromPlacement_snapshots cfg inp s e, ?_⟩
      cases e with
      | noSchedulableNode m => exact absurd rfl (hcap m)
      | invalidPlacementParameters m | authoritativePlacement m => exact retryElse_sid rfl
  | ok p =>
      rw [hp] at hearly
      dsimp only at hearly ⊢
      rw [if_neg hrepo] at hearly ⊢
      rw [hbegin]
      cases hb : inp.binding with
      | crashed | bound =>
          rw [hb] at hearly
          cases hearly
      | failed m =>
          refine ⟨failJobFromOrchestratorBinding_snapshots cfg inp s m, ?_⟩
          dsimp only
          rw [failJobFromOrchestratorBinding, hnode]
          exact retryElse_sid rfl

theorem archivesAfter_of_not_create (hjt : s.job.jobType ≠ .snapshotCreate)
    (archives : Table (Nat × Nat) Nat) : archivesAfter cfg inp calls s archives = archives := by
  rw [archivesAfter, if_neg]
  simp [hjt]

theorem archivesAfter_other {sid : Nat} (hsid : s.job.workspaceSnapshotId = some sid)
    (archives : Table (Nat × Nat) Nat) (wid k : Nat) (hk : k ≠ sid) :
    (archivesAfter cfg inp calls s archives).lookup (wid, k) = archives.lookup (wid, k) := by
  unfold archivesAfter
  split
  · rw [hsid]
    dsimp only
    split
    · rfl
    · split
      · rfl
      · rw [lookup_putArchive, if_neg]
        exact fun h => hk (congrArg Prod.snd h)
  · rfl

/-- A claimed snapshot job, with its row. -/
structure ClaimedFor (w : SnapshotStore) (jid : Nat) (s : Session) (sid : Nat) (old : WorkspaceJob)
    (snap : WorkspaceSnapshot) : Prop where
  job : OpenFor w.db jid sid old
  awaits : Awaits w old sid snap
  jobType : old.jobType = s.job.jobType
  workspace : old.workspaceId = s.wid
  names : s.job.workspaceSnapshotId = some sid
  row : s.snapshots.lookup sid = some snap

variable {w : SnapshotStore} {jid : Nat}

theorem ArchiveInv.claimed (h : ArchiveInv w) (hs : claimJob inp jid w.db = some s)
    (hjt : s.job.jobType.isSnapshot = true) : ∃ sid old snap, ClaimedFor w jid s sid old snap := by
  obtain ⟨hsnaps, old, hold, hjtold, hwid, hsid, hq⟩ := claimJob_snapshots hs
  have hsnapshot : old.jobType.isSnapshot = true := hjtold ▸ hjt
  have hopen : old.status.isOpen = true := by
    rw [hq]
    rfl
  obtain ⟨sid, hnamed⟩ := h.named hold hsnapshot hopen
  have ho : OpenFor w.db jid sid old := ⟨hold, hsnapshot, hopen, hnamed⟩
  obtain ⟨snap, hawaits⟩ := h.awaits ho
  exact ⟨sid, old, snap, ho, hawaits, hjtold, hwid, hsid.symm.trans hnamed,
    (congrArg (AList.lookup sid) hsnaps).trans hawaits.row⟩

/-- What an execution does to the archives, whatever becomes of its commit. -/
theorem ArchiveInv.written (h : ArchiveInv w) :
    ArchiveInv { w with archives := archivesAfterJob cfg calls w inp jid } := by
  unfold archivesAfterJob
  cases hs : claimJob inp jid w.db with
  | none => exact h
  | some s =>
      dsimp only
      by_cases hjt : s.job.jobType = .snapshotCreate
      · obtain ⟨sid, old, snap, hcl⟩ := h.claimed hs (by rw [hjt]; rfl)
        exact h.write hcl.job (hcl.jobType.trans hjt) (archivesAfter_other hcl.names w.archives)
      · rw [archivesAfter_of_not_create hjt]
        exact h

/-- A row that its job leaves `AVAILABLE` has its archive. -/
theorem ClaimedFor.settled_stored {entry : EntryPoint} {sid : Nat} {old : WorkspaceJob}
    {snap snap' : WorkspaceSnapshot} (hcl : ClaimedFor w jid s sid old snap)
    (hs : claimJob inp jid w.db = some s)
    (hc : (executeClaimedJob cfg inp entry s).committed = true)
    (hrow : (executeClaimedJob cfg inp entry s).session.snapshots.lookup sid = some snap')
    (hav : snap'.status = .available) :
    SnapshotStore.hasNonemptyArchive
      { w with archives := archivesAfterJob cfg calls w inp jid } old.workspaceId sid = true := by
  rw [SnapshotStore.hasNonemptyArchive, archivesAfterJob, hs]
  dsimp only
  cases hjt : old.jobType with
  | snapshotCreate =>
      have hcre : s.job.jobType = .snapshotCreate := hcl.jobType.symm.trans hjt
      have hst : snap.status = .creating := by rw [hcl.awaits.status, hjt]; rfl
      have hstored := created_available_stored calls hcre hcl.names hcl.row
        (hcl.awaits.workspace.trans hcl.workspace) hst hc hrow hav w.archives
      rw [hcl.workspace, hstored]
      exact decide_eq_true calls.stored.2
  | snapshotRestore =>
      have hres : s.job.jobType = .snapshotRestore := hcl.jobType.symm.trans hjt
      rw [archivesAfter_of_not_create (by rw [hres]; nofun)]
      exact hcl.awaits.archive hjt
  | _ =>
      have hsnapshot := hcl.job.snapshot
      rw [hjt] at hsnapshot
      cases hsnapshot

theorem ArchiveInv.executed {entry : EntryPoint} {db' : Db} (h : ArchiveInv w)
    (hex : ExecEffect cfg entry inp jid w.db db') :
    ArchiveInv { db := db', archives := archivesAfterJob cfg calls w inp jid } := by
  have hwritten : ArchiveInv { w with archives := archivesAfterJob cfg calls w inp jid } :=
    h.written
  cases hex with
  | idle _ => exact hwritten
  | orphan _ hjob hws _ =>
      have hsome := h.owned hjob
      rw [hws] at hsome
      cases hsome
  | rolledBack _ _ _ => exact hwritten.congr rfl rfl rfl fun _ h => h
  | @committed s hs hc hend =>
      obtain ⟨hsnaps, old, hold, hjtold, hwidold, hsidold, hq⟩ := claimJob_snapshots hs
      obtain ⟨hwid, hsame⟩ := hend.target
      have howned : (((executeClaimedJob cfg inp entry s).session.commit jid w.db).workspaces.lookup
          (executeClaimedJob cfg inp entry s).session.job.workspaceId).isSome := by
        simp [hwid, hsame.1, (claimJob_claimed hs).target]
      have hopenold : old.status.isOpen = true := by
        rw [hq]
        rfl
      have hsameold : SameJob old (executeClaimedJob cfg inp entry s).session.job :=
        ⟨hsame.1.trans ((claimJob_claimed hs).target.trans hwidold.symm),
          hsame.2.trans hjtold.symm⟩
      cases hjt : s.job.jobType.isSnapshot with
      | false =>
          refine hwritten.insert_job (commit_jobs _ _ _) ?_ rfl (fun _ => isSome_lookup_insert)
            howned (fun hj => ?_) fun hj => ?_
          · exact (executeClaimedJob_snapshots cfg inp entry hjt hc).trans hsnaps
          all_goals
            rw [hsame.2, hjt] at hj
            cases hj
      | true =>
          obtain ⟨sid, old', snap, hcl⟩ := h.claimed hs hjt
          obtain rfl : old = old' := Option.some.inj (hold.symm.trans hcl.job.row)
          cases hearly : failsEarly cfg inp s with
          | true =>
              obtain ⟨hsn, hsid⟩ := executeClaimedJob_early entry hjt hearly
              exact hwritten.insert_job (commit_jobs _ _ _) (hsn.trans hsnaps) rfl
                (fun _ => isSome_lookup_insert) howned (fun _ => hend.not_running) fun _ ho =>
                ⟨old, hold, hopenold, hsameold, (hsid ho).trans hsidold.symm⟩
          | false =>
              have hl : s.SnapshotLinked :=
                ⟨sid, snap, hcl.names, hcl.row, hcl.awaits.workspace.trans hwidold⟩
              have hbody := executeClaimedJob_snapshotEnd cfg inp entry hl hjt
                (fun h => by rw [hearly] at h; cases h) hc
              cases hbody with
              | requeued hj hsid hsn =>
                  exact hwritten.insert_job (commit_jobs _ _ _) (hsn.trans hsnaps) rfl
                    (fun _ => isSome_lookup_insert) howned (fun _ => hend.not_running) fun _ _ =>
                    ⟨old, hold, hopenold, hsameold, hsid.trans hsidold.symm⟩
              | @settled sid' snap₀ snap' hsid hsnap hw hj hst hrow =>
                  obtain rfl : sid = sid' := Option.some.inj (hcl.names.symm.trans hsid)
                  obtain rfl : snap = snap₀ := Option.some.inj (hcl.row.symm.trans hsnap)
                  have hrows : ∀ k, (executeClaimedJob cfg inp entry s).session.snapshots.lookup k =
                      if k = sid then some snap' else w.db.snapshots.lookup k := fun k =>
                    (hrow k).trans (by rw [hsnaps])
                  refine hwritten.settle hcl.job (commit_jobs _ _ _) hj hrows rfl (fun hav => ?_)
                    (fun _ => isSome_lookup_insert) howned
                  rw [hw, hcl.awaits.workspace]
                  exact hcl.settled_stored hs hc ((hrow sid).trans (if_pos rfl)) hav

end Executions

/-! ## Requests, drains and reclaims -/

section Ticks

variable {cfg : Settings} {w : SnapshotStore} {db' : Db}

theorem ArchiveInv.intent (h : ArchiveInv w) (hint : IntentEffect w.db db') :
    ArchiveInv { w with db := db' } := by
  have hnew : ∀ {job : WorkspaceJob}, job.jobType.isSnapshot = false →
      job.jobType.isSnapshot = true → False := fun hjt h => by
    rw [hjt] at h
    cases h
  cases hint with
  | refused => exact h
  | @lifecycle wid ws st job configs hws _ _ _ hwid hjt _ =>
      have hjob := not_isSnapshot_of_isLifecycle hjt
      refine h.insert_job rfl rfl rfl (fun _ => isSome_lookup_insert) ?_
        (fun hj => (hnew hjob hj).elim) fun hj => (hnew hjob hj).elim
      simp [Db.queueJob, hwid]
  | @created ws job configs _ hwid hjt _ =>
      have hjob := not_isSnapshot_of_isLifecycle hjt
      refine h.insert_job rfl rfl rfl (fun _ => isSome_lookup_insert) ?_
        (fun hj => (hnew hjob hj).elim) fun hj => (hnew hjob hj).elim
      simp [Db.queueJob, hwid]
  | @queued ws job snapshots hws _ hq hsnaps =>
      have howned := Option.isSome_iff_exists.mpr ⟨_, hws⟩
      cases hsnaps with
      | none hjt =>
          exact h.insert_job rfl rfl rfl (fun _ h => h) howned (fun hj => (hnew hjt hj).elim)
            fun hj => (hnew hjt hj).elim
      | create hjt hsid =>
          refine h.request rfl rfl rfl rfl howned hq.1 hsid rfl (by rw [hjt]; rfl)
            (fun hres => by rw [hjt] at hres; cases hres) fun jid j ho => ?_
          obtain ⟨snap, hawaits⟩ := h.awaits ho
          have hrow := hawaits.row
          rw [Table.lookup_freshKey] at hrow
          cases hrow
      | @restore sid snap ws hjt hsid hsnap hwid hav _ _ _ =>
          refine h.request rfl rfl rfl rfl howned hq.1 hsid hwid (by rw [hjt]; rfl)
            (fun _ => hwid ▸ h.restorable sid snap hsnap hav) fun jid j ho => ?_
          obtain ⟨snap', hawaits⟩ := h.awaits ho
          obtain rfl : snap = snap' := Option.some.inj (hsnap.symm.trans hawaits.row)
          exact j.jobType.awaited_ne (hawaits.status.symm.trans hav)

theorem ArchiveInv.reclaimed {clk : Clock} {jid : Nat} {job : WorkspaceJob} (h : ArchiveInv w)
    (hjob : w.db.jobs.lookup jid = some job) (hjt : job.jobType.isSnapshot = false) :
    ArchiveInv { w with db := reclaimJob cfg clk w.db jid } := by
  have howned := h.owned hjob
  have hnew : ∀ {j : WorkspaceJob}, SameJob job j → j.jobType.isSnapshot = true → False := by
    intro j hsame hj
    rw [hsame.2, hjt] at hj
    cases hj
  have heff := reclaimJob_effect cfg clk hjob
  generalize reclaimJob cfg clk w.db jid = db' at heff
  cases heff with
  | requeued hsame _ _ | failedAlone hsame _ _ =>
      exact h.insert_job rfl rfl rfl (fun _ h => h) (by rw [hsame.1]; exact howned)
        (fun hj => (hnew hsame hj).elim) fun hj => (hnew hsame hj).elim
  | failedWithWorkspace hsame _ _ _ hjobs _ hsnaps hst _ =>
      have hws : ∀ k, (w.db.workspaces.lookup k).isSome → (db'.workspaces.lookup k).isSome := by
        intro k hk
        have hstk := hst k
        split at hstk
        · rw [← Option.isSome_map (f := (·.status)), hstk]
          rfl
        · rw [← Option.isSome_map (f := (·.status)), hstk, Option.isSome_map]
          exact hk
      exact h.insert_job hjobs hsnaps rfl hws (by rw [hsame.1]; exact hws _ howned)
        (fun hj => (hnew hsame hj).elim) fun hj => (hnew hsame hj).elim

theorem drainPendingCleanupTasks_snapshots (db : Db) (answers : List DrainAnswer) :
    (drainPendingCleanupTasks db answers).snapshots = db.snapshots := by
  unfold drainPendingCleanupTasks
  induction answers generalizing db with
  | nil => rfl
  | cons ans answers ih =>
      refine (ih (drainWorkspace db ans)).trans ?_
      unfold drainWorkspace
      split
      · rfl
      · split
        · rfl
        · rfl

theorem ArchiveInv.ticked {st : Step} (h : ArchiveInv w) (calls : StorageCalls) (fails : Bool) :
    ArchiveInv
      { db := if fails then w.db else step cfg w.db st
        archives := archivesAfterTick cfg calls w st } := by
  have hquiet : st.execution w.db = none → archivesAfterTick cfg calls w st = w.archives :=
    fun hex => by rw [archivesAfterTick, hex]
  cases fails with
  | true =>
      rw [if_pos rfl]
      cases hex : st.execution w.db with
      | none =>
          rw [hquiet hex]
          exact h
      | some x =>
          rw [archivesAfterTick, hex]
          exact h.written
  | false =>
      rw [if_neg Bool.false_ne_true]
      have heff := tick_effect cfg w.db st
      generalize step cfg w.db st = db' at heff
      cases heff with
      | intent hint hex =>
          rw [hquiet hex]
          exact h.intent hint
      | executed hex hexec =>
          rw [archivesAfterTick, hex]
          exact h.executed hexec
      | drained hst =>
          rw [hquiet (by rw [hst]; rfl)]
          exact h.congr (drainPendingCleanupTasks_effect w.db _).jobs
            (drainPendingCleanupTasks_snapshots w.db _) rfl fun k hk => by
              rw [(drainPendingCleanupTasks_effect w.db _).workspaces]
              exact hk
      | reclaimed hst =>
          rw [hquiet (by rw [hst]; rfl)]
          refine reclaimStuckRunningJobs_keeps (Q := fun db => ArchiveInv { w with db := db }) h
            fun db jid j job hdb hj hrun hjob hsame => ?_
          refine hdb.reclaimed hjob ?_
          rw [hsame.2]
          exact Bool.eq_false_iff.mpr fun hjt => h.idle hj hjt hrun

end Ticks

/-! ## Deletes -/

section Deletes

variable {foreignKeys : Bool} {w : SnapshotStore} {sid owner : Nat} {ans : DeleteArchive}
  {commitFails : Bool}

theorem not_openFor_of_not_pending (h : pendingJobOf w.db sid = false) (jid : Nat)
    (job : WorkspaceJob) : ¬ OpenFor w.db jid sid job := by
  intro ho
  have hnot := List.any_eq_false.mp h job (Table.mem_rows_iff.mpr ⟨jid, ho.row⟩)
  exact hnot (by rw [ho.isOpen, ho.sid]; simp)

/-- Row and archive of a snapshot without open jobs are written. -/
theorem ArchiveInv.rewrite (h : ArchiveInv w) (hfree : ∀ jid job, ¬ OpenFor w.db jid sid job)
    {snapshots : Table Nat WorkspaceSnapshot} {archives : Table (Nat × Nat) Nat}
    (hrows : ∀ k, k ≠ sid → snapshots.lookup k = w.db.snapshots.lookup k)
    (harch : ∀ wid k, k ≠ sid → archives.lookup (wid, k) = w.archives.lookup (wid, k))
    (hrow : ∀ snap, snapshots.lookup sid = some snap → snap.status = .available →
      (archives.lookup (snap.workspaceId, sid)).any (0 < ·) = true) :
    ArchiveInv { db := { w.db with snapshots := snapshots }, archives := archives } := by
  have hback : ∀ {k sid' j}, OpenFor { w.db with snapshots := snapshots } k sid' j →
      OpenFor w.db k sid' j := fun ho => ⟨ho.row, ho.snapshot, ho.isOpen, ho.sid⟩
  refine ⟨fun k snap hsnap hav => ?_, h.named, fun {jid k job} ho => ?_,
    fun ho ho' => h.single (hback ho) (hback ho'), h.idle, h.owned⟩
  · by_cases hk : k = sid
    · rw [hk] at hsnap ⊢
      exact hrow snap hsnap hav
    · rw [SnapshotStore.hasNonemptyArchive, harch _ k hk]
      exact h.restorable k snap ((hrows k hk).symm.trans hsnap) hav
  · have hk : k ≠ sid := by
      rintro rfl
      exact hfree jid job (hback ho)
    obtain ⟨snap, hsnap, hwid, hst, harchive⟩ := h.awaits (hback ho)
    refine ⟨snap, (hrows k hk).trans hsnap, hwid, hst, fun hjt => ?_⟩
    rw [SnapshotStore.hasNonemptyArchive, harch _ k hk]
    exact harchive hjt

/-- **`delete_snapshot`** keeps the invariant where it removes both parts, or neither. -/
theorem ArchiveInv.deleted (h : ArchiveInv w)
    (hboth : DeletesBoth foreignKeys w (.deleteSnapshot sid owner ans commitFails)) :
    ArchiveInv (deleteSnapshot foreignKeys w sid owner ans commitFails).1 := by
  unfold deleteSnapshot
  cases hsnap : w.db.snapshots.lookup sid with
  | none => exact h
  | some snap =>
      dsimp only
      by_cases howner : (w.db.workspaces.lookup snap.workspaceId).map (·.ownerUserId) = some owner
      swap
      · rw [if_pos howner]
        exact h
      rw [if_neg (not_not.mpr howner)]
      cases hpending : pendingJobOf w.db sid with
      | true => exact h
      | false =>
          rw [if_neg Bool.false_ne_true]
          have hfree := not_openFor_of_not_pending hpending
          by_cases hraised : ans = .raised
          · rw [if_pos hraised]
            exact h
          rw [if_neg hraised]
          have harch : ∀ wid k, k ≠ sid →
              (if ans = .removed then w.archives.erase (snap.workspaceId, sid)
                else w.archives).lookup (wid, k) = w.archives.lookup (wid, k) := by
            intro wid k hk
            split
            · exact AList.lookup_erase_ne fun heq => hk (congrArg Prod.snd heq)
            · rfl
          by_cases hfails : (commitFails || (foreignKeys && referenced w.db sid)) = true
          · -- the row stays: the archive is there when it was, and was not removed
            rw [if_pos hfails]
            refine h.rewrite hfree (fun _ _ => rfl) harch fun snap' hsnap' hav => ?_
            obtain rfl : snap = snap' := Option.some.inj (hsnap.symm.trans hsnap')
            rw [if_neg]
            · exact h.restorable sid snap hsnap hav
            · intro hremoved
              obtain ⟨hcommit, hkeys⟩ := hboth snap hsnap hav howner hpending hremoved
              rw [hcommit, Bool.false_or, Bool.and_eq_true] at hfails
              rw [hkeys hfails.1] at hfails
              cases hfails.2
          · rw [if_neg hfails]
            refine h.rewrite hfree (fun k hk => AList.lookup_erase_ne hk) harch
              fun snap' hsnap' _ => ?_
            have hgone : (w.db.snapshots.erase sid).lookup sid = none := AList.lookup_erase _ _
            cases hgone.symm.trans hsnap'

/-- Otherwise an `AVAILABLE` row is left behind. -/
theorem deletesBoth_of_restorable
    (h : AvailableRestorable (deleteSnapshot foreignKeys w sid owner ans commitFails).1) :
    DeletesBoth foreignKeys w (.deleteSnapshot sid owner ans commitFails) := by
  intro snap hsnap hav howner hpending hremoved
  by_contra hno
  have hfails : (commitFails || (foreignKeys && referenced w.db sid)) = true := by
    cases commitFails with
    | true => rfl
    | false =>
        rw [Bool.false_or, Bool.and_eq_true]
        refine ⟨?_, ?_⟩
        · by_contra hkeys
          exact hno ⟨rfl, fun h => absurd h hkeys⟩
        · by_contra href
          exact hno ⟨rfl, fun _ => Bool.not_eq_true _ ▸ href⟩
  have hrun : (deleteSnapshot foreignKeys w sid owner ans commitFails).1 =
      { w with archives := w.archives.erase (snap.workspaceId, sid) } := by
    unfold deleteSnapshot
    rw [hsnap]
    dsimp only
    rw [if_neg (not_not.mpr howner), hpending, if_neg Bool.false_ne_true, hremoved,
      if_neg (by decide), if_pos rfl, if_pos hfails]
  rw [hrun] at h
  have hrow := h sid snap hsnap hav
  rw [SnapshotStore.hasNonemptyArchive] at hrow
  have hgone : (w.archives.erase (snap.workspaceId, sid)).lookup (snap.workspaceId, sid) = none :=
    AList.lookup_erase _ _
  rw [hgone] at hrow
  cases hrow

end Deletes

/-! ## Runs -/

/-- **`AVAILABLE` means restorable**: in every run of requests, executions, drains, reclaims and
deletes, with any faults of storage and database, every `AVAILABLE` row of every state reached has
its archive exactly when no `delete_snapshot` of the run removes the archive of an `AVAILABLE`
snapshot and then cannot commit. -/
theorem available_restorable_iff {cfg : Settings} {foreignKeys : Bool}
    (nodes : Table Nat ExecutionNode) (topologies : List Int) (archives : Table (Nat × Nat) Nat)
    (steps : List StoreStep) :
    Always (storeStep cfg foreignKeys) AvailableRestorable
        { db := initDb nodes topologies, archives := archives } steps ↔
      Along (storeStep cfg foreignKeys) (DeletesBoth foreignKeys)
        { db := initDb nodes topologies, archives := archives } steps := by
  have hstep : ∀ w st, ArchiveInv w → DeletesBoth foreignKeys w st →
      ArchiveInv (storeStep cfg foreignKeys w st) := by
    intro w st h hst
    cases st with
    | tick st calls fails => exact h.ticked calls fails
    | deleteSnapshot sid owner ans commitFails => exact h.deleted hst
  have hinit : ArchiveInv { db := initDb nodes topologies, archives := archives } := by
    refine ⟨fun sid snap h => ?_, fun h => ?_, fun h => ?_, fun h => ?_, fun h => ?_, fun h => ?_⟩
    case refine_3 => exact absurd h.row nofun
    case refine_4 => exact absurd h.row nofun
    all_goals cases h
  refine always_iff_along hinit hstep hinit.restorable fun w st h _ => ?_
  refine ⟨fun hav => ?_, fun hst => (hstep w st h hst).restorable⟩
  cases st with
  | tick st calls fails => trivial
  | deleteSnapshot sid owner ans commitFails => exact deletesBoth_of_restorable hav

/-- A snapshot of a workspace is taken and deleted. -/
def snapshotDeleted : List StoreStep :=
  let calls : StorageCalls := { stored := ⟨104, by decide⟩, left := none, deleted := true }
  [.tick (.createWorkspace { now := 10 } 7 "demo" {}) calls false,
   .tick (.processNextQueuedJob (sampleWorker 20 sampleOrch) 1) calls false,
   .tick (.createSnapshot { now := 30 } 1 7) calls false,
   .tick (.processNextQueuedJob
     (sampleWorker 40 { exportWorkspaceFilesystemSnapshot := .returned { success := true } }) 2)
     calls false,
   .deleteSnapshot 1 7 .removed false]

/-- The job that made the snapshot still refers to it, so the database refuses the delete. -/
theorem deleted_archive_stays_available :
    ¬ ∀ (cfg : Settings) (foreignKeys : Bool) (nodes : Table Nat ExecutionNode)
        (topologies : List Int) (archives : Table (Nat × Nat) Nat) (steps : List StoreStep),
      Always (storeStep cfg foreignKeys) AvailableRestorable
        { db := initDb nodes topologies, archives := archives } steps := by
  intro h
  have hend := (h {} true (AList.insert 1 sampleNode ∅) [1] ∅ snapshotDeleted).last
  have hrow := hend 1 { workspaceId := 1, status := .available, sizeBytes := some 0 }
    (by decide +kernel) rfl
  revert hrow
  decide +kernel

end Devnest
