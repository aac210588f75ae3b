import Devnest.Attempts
import Devnest.IntentRaces
import Devnest.ReservationLedger

/-!
# What a run never takes back

Jobs and configuration versions are written once. A job row stays in its table
for good, asks for the same thing for the same workspace at every later
moment, and does not move again once it has ended (`job_history`). The
configuration rows of a workspace are numbered from 1 without a gap, a row
that was written stays as it is, and every job names a version that exists
(`config_history`).
-/

namespace Devnest

open Runs

/-! ## Jobs -/

/-- The columns that say what is asked for: the worker writes the others. -/
structure SameRequest (job job' : WorkspaceJob) : Prop where
  workspaceId : job'.workspaceId = job.workspaceId
  workspaceSnapshotId : job'.workspaceSnapshotId = job.workspaceSnapshotId
  jobType : job'.jobType = job.jobType
  requestedByUserId : job'.requestedByUserId = job.requestedByUserId
  requestedConfigVersion : job'.requestedConfigVersion = job.requestedConfigVersion
  maxAttempts : job'.maxAttempts = job.maxAttempts
  createdAt : job'.createdAt = job.createdAt

/-- What time does to a job row. -/
structure Follows (job job' : WorkspaceJob) : Prop where
  request : SameRequest job job'
  attempt : job.attempt ≤ job'.attempt
  /-- A job that has ended stays as it ended. -/
  ended : job.status ≠ .queued → job' = job

theorem Follows.refl (job : WorkspaceJob) : Follows job job :=
  ⟨⟨rfl, rfl, rfl, rfl, rfl, rfl, rfl⟩, Nat.le_refl _, fun _ => rfl⟩

theorem SameRequest.trans {j j' j'' : WorkspaceJob} (h : SameRequest j j')
    (h' : SameRequest j' j'') : SameRequest j j'' where
  workspaceId := h'.workspaceId.trans h.workspaceId
  workspaceSnapshotId := h'.workspaceSnapshotId.trans h.workspaceSnapshotId
  jobType := h'.jobType.trans h.jobType
  requestedByUserId := h'.requestedByUserId.trans h.requestedByUserId
  requestedConfigVersion := h'.requestedConfigVersion.trans h.requestedConfigVersion
  maxAttempts := h'.maxAttempts.trans h.maxAttempts
  createdAt := h'.createdAt.trans h.createdAt

theorem Follows.trans {j j' j'' : WorkspaceJob} (h : Follows j j') (h' : Follows j' j'') :
    Follows j j'' where
  request := h.request.trans h'.request
  attempt := Nat.le_trans h.attempt h'.attempt
  ended := fun hne => by
    obtain rfl := h.ended hne
    exact h'.ended hne

/-- The statuses a row has between two steps. -/
def AtRest (job : WorkspaceJob) : Prop :=
  job.status = .queued ∨ job.status = .succeeded ∨ job.status = .failed

def AllAtRest (db : Db) : Prop := ∀ jid job, db.jobs.lookup jid = some job → AtRest job

/-- No row is lost, and each follows what it was. -/
structure JobsFollow (db db' : Db) : Prop where
  row : ∀ {jid job}, db.jobs.lookup jid = some job →
    ∃ job', db'.jobs.lookup jid = some job' ∧ Follows job job'
  settled : AllAtRest db → AllAtRest db'

theorem JobsFollow.of_eq {db db' : Db} (h : db'.jobs = db.jobs) : JobsFollow db db' where
  row := fun hjob => ⟨_, h ▸ hjob, .refl _⟩
  settled := fun hs _ _ hjob => hs _ _ (h ▸ hjob)

/-- A new row. -/
theorem JobsFollow.of_new {db db' : Db} {job : WorkspaceJob}
    (h : db'.jobs = db.jobs.insert (Table.freshKey db.jobs) job) (hq : job.status = .queued) :
    JobsFollow db db' where
  row := by
    intro jid old hold
    rw [h, Table.lookup_insert_eq, if_neg (Table.ne_freshKey hold)]
    exact ⟨old, hold, .refl old⟩
  settled := by
    intro hs jid job' hjob
    rw [h, Table.lookup_insert_eq] at hjob
    split at hjob
    · obtain rfl := Option.some.inj hjob
      exact .inl hq
    · exact hs jid job' hjob

/-- One row written over. -/
theorem JobsFollow.of_row {db db' : Db} {jid : Nat} {job job' : WorkspaceJob}
    (h : db'.jobs = db.jobs.insert jid job') (hjob : db.jobs.lookup jid = some job)
    (hfollows : Follows job job') (hs : AtRest job') : JobsFollow db db' where
  row := by
    intro k old hold
    rw [h, Table.lookup_insert_eq]
    by_cases hk : k = jid
    · subst hk
      rw [if_pos rfl]
      obtain rfl := Option.some.inj (hjob.symm.trans hold)
      exact ⟨job', rfl, hfollows⟩
    · rw [if_neg hk]
      exact ⟨old, hold, .refl old⟩
  settled := by
    intro hall k job'' hl
    rw [h, Table.lookup_insert_eq] at hl
    split at hl
    · obtain rfl := Option.some.inj hl
      exact hs
    · exact hall k job'' hl

theorem JobFate.sameRequest {cfg : Settings} {clk : Clock} {j j' : WorkspaceJob}
    (h : JobFate cfg clk j j') : SameRequest j j' ∧ AtRest j' := by
  cases h with
  | waits => exact ⟨⟨rfl, rfl, rfl, rfl, rfl, rfl, rfl⟩, .inl rfl⟩
  | retried => exact ⟨⟨rfl, rfl, rfl, rfl, rfl, rfl, rfl⟩, .inl rfl⟩
  | succeeded => exact ⟨⟨rfl, rfl, rfl, rfl, rfl, rfl, rfl⟩, .inr (.inl rfl)⟩
  | failed => exact ⟨⟨rfl, rfl, rfl, rfl, rfl, rfl, rfl⟩, .inr (.inr rfl)⟩

/-- The row a request queues. -/
theorem IntentEffect.queued_row {db db' : Db} (h : IntentEffect db db') :
    db'.jobs = db.jobs ∨ ∃ job, db'.jobs = db.jobs.insert (Table.freshKey db.jobs) job ∧
      job.status = .queued := by
  cases h with
  | refused => exact .inl rfl
  | lifecycle _ _ _ _ _ _ hq => exact .inr ⟨_, rfl, hq.1⟩
  | created _ _ _ hq => exact .inr ⟨_, rfl, hq.1⟩
  | queued _ _ hq => exact .inr ⟨_, rfl, hq.1⟩

theorem ExecEffect.jobsFollow {cfg : Settings} {entry : EntryPoint} {inp : WorkerInput} {jid : Nat}
    {db db' : Db} (hwf : WellFormed db) (h : ExecEffect cfg entry inp jid db db') :
    JobsFollow db db' := by
  cases h with
  | idle hs => exact .of_eq rfl
  | orphan hs hjob hws hj =>
      have hsome := hwf.owned hjob
      rw [hws] at hsome
      cases hsome
  | @committed s hs hc hend =>
      obtain ⟨job, hjob, hrow, helig⟩ := claimJob_row hs
      have hfate := executeClaimedJob_fate cfg inp hc
      obtain ⟨hsame, hrest⟩ := hfate.sameRequest
      have hattempt := hfate.budget.1
      have hqueued : job.status = .queued := by
        simp only [queuedJobEligible, Bool.and_eq_true, beq_iff_eq] at helig
        exact helig.1
      refine .of_row (commit_jobs _ _ _) hjob ⟨?_, ?_, fun hne => absurd hqueued hne⟩ hrest
      · rw [hrow] at hsame
        exact ⟨hsame.1, hsame.2, hsame.3, hsame.4, hsame.5, hsame.6, hsame.7⟩
      · rw [hattempt, hrow]
        exact Nat.le_succ _
  | rolledBack hs hc ht => exact .of_eq rfl

theorem step_jobsFollow (cfg : Settings) {db : Db} (hwf : WellFormed db) (st : Step) :
    JobsFollow db (step cfg db st) := by
  have h := step_effect cfg hwf st
  generalize step cfg db st = db' at h
  cases h with
  | intent h _ =>
      rcases h.queued_row with hjobs | ⟨job, hjobs, hq⟩
      · exact .of_eq hjobs
      · exact .of_new hjobs hq
  | executed _ h => exact h.jobsFollow hwf
  | drained h _ => exact .of_eq h.jobs

/-- Over the rest of a run. -/
theorem run_jobsFollow (cfg : Settings) {db : Db} (hwf : WellFormed db) (steps : List Step) :
    JobsFollow db (run (step cfg) db steps) := by
  induction steps generalizing db with
  | nil => exact .of_eq rfl
  | cons st steps ih =>
      have hstep := step_jobsFollow cfg hwf st
      have hrest := ih (wellFormed_step cfg hwf st)
      refine ⟨fun hjob => ?_, fun hs => hrest.settled (hstep.settled hs)⟩
      obtain ⟨job', hjob', hfollows⟩ := hstep.row hjob
      obtain ⟨job'', hjob'', hfollows'⟩ := hrest.row hjob'
      exact ⟨job'', hjob'', hfollows.trans hfollows'⟩

/-! ## Configuration versions -/

/-- The versions of a workspace are `1`, …, `n`. -/
def VersionsUpTo (db : Db) (wid n : Nat) : Prop :=
  ∀ v, (db.configs.lookup (wid, v)).isSome ↔ 1 ≤ v ∧ v ≤ n

/-- The job names a version of its workspace. -/
def NamesVersion (db : Db) (job : WorkspaceJob) : Prop :=
  ∃ v : Nat, job.requestedConfigVersion = v ∧ (db.configs.lookup (job.workspaceId, v)).isSome

/-- Every workspace has versions from 1 on, nothing else has any, and jobs name them. -/
structure Numbered (db : Db) : Prop where
  versions : ∀ {wid}, (db.workspaces.lookup wid).isSome → ∃ n, 1 ≤ n ∧ VersionsUpTo db wid n
  absent : ∀ {wid}, db.workspaces.lookup wid = none → ∀ v, db.configs.lookup (wid, v) = none
  jobs : ∀ {jid job}, db.jobs.lookup jid = some job → NamesVersion db job

theorem mem_versions {db : Db} {wid v : Nat} :
    v ∈ (db.configs.keys.filter fun k => k.1 = wid).map Prod.snd ↔
      (db.configs.lookup (wid, v)).isSome := by
  rw [AList.lookup_isSome, List.mem_map]
  constructor
  · rintro ⟨⟨w, v'⟩, hmem, rfl⟩
    obtain ⟨hkey, hw⟩ := List.mem_filter.mp hmem
    obtain rfl : w = wid := of_decide_eq_true hw
    exact hkey
  · intro hmem
    exact ⟨(wid, v), List.mem_filter.mpr ⟨hmem, decide_eq_true rfl⟩, rfl⟩

theorem VersionsUpTo.latest {db : Db} {wid n : Nat} (hn : 1 ≤ n) (h : VersionsUpTo db wid n) :
    db.latestConfigVersion wid = some n := by
  refine List.max?_eq_some_iff.mpr ⟨?_, fun v hv => ?_⟩
  · exact mem_versions.mpr ((h n).mpr ⟨hn, Nat.le_refl n⟩)
  · exact ((h v).mp (mem_versions.mp hv)).2

/-- What a step does to the configuration rows, with the jobs it queues or rewrites. -/
inductive VersionEffect (db : Db) : Db → Prop
  | kept {db' : Db} (hconfigs : db'.configs = db.configs)
      (hws : ∀ w, (db'.workspaces.lookup w).isSome = (db.workspaces.lookup w).isSome)
      (hjobs : ∀ jid job, db'.jobs.lookup jid = some job →
        (∃ old, db.jobs.lookup jid = some old ∧ SameRequest old job) ∨
        (db.workspaces.lookup job.workspaceId).isSome ∧
          job.requestedConfigVersion = ((db.latestConfigVersion job.workspaceId).getD 1 : Nat)) :
      VersionEffect db db'
  | staged {db' : Db} {wid n : Nat} {config : WorkspaceConfig} {job : WorkspaceJob}
      (hws : (db.workspaces.lookup wid).isSome) (hlatest : db.latestConfigVersion wid = some n)
      (hconfigs : db'.configs = db.configs.insert (wid, n + 1) config)
      (hws' : ∀ w, (db'.workspaces.lookup w).isSome = (db.workspaces.lookup w).isSome)
      (hjobs : db'.jobs = db.jobs.insert (Table.freshKey db.jobs) job)
      (hwid : job.workspaceId = wid) (hversion : job.requestedConfigVersion = (n + 1 : Nat)) :
      VersionEffect db db'
  | created {db' : Db} {wid : Nat} {config : WorkspaceConfig} {job : WorkspaceJob}
      (hws : db.workspaces.lookup wid = none)
      (hconfigs : db'.configs = db.configs.insert (wid, 1) config)
      (hws' : ∀ w, (db'.workspaces.lookup w).isSome =
        ((db.workspaces.lookup w).isSome || decide (w = wid)))
      (hjobs : db'.jobs = db.jobs.insert (Table.freshKey db.jobs) job)
      (hwid : job.workspaceId = wid) (hversion : job.requestedConfigVersion = (1 : Nat)) :
      VersionEffect db db'

/-- A configuration row is written once. -/
theorem VersionEffect.configs {db db' : Db} (h : VersionEffect db db') (hnum : Numbered db)
    {k : Nat × Nat} {config : WorkspaceConfig} (hk : db.configs.lookup k = some config) :
    db'.configs.lookup k = some config := by
  cases h with
  | kept hconfigs _ _ => rwa [hconfigs]
  | staged _ hlatest hconfigs _ _ _ _ =>
      rw [hconfigs, Table.lookup_insert_eq, if_neg]
      · exact hk
      · rintro rfl
        rw [lookup_next_version hlatest] at hk
        cases hk
  | created hws hconfigs _ _ _ _ =>
      rw [hconfigs, Table.lookup_insert_eq, if_neg]
      · exact hk
      · rintro rfl
        rw [hnum.absent hws 1] at hk
        cases hk

theorem NamesVersion.of_configs {db db' : Db} {job : WorkspaceJob}
    (hconfigs : ∀ {k config}, db.configs.lookup k = some config →
      db'.configs.lookup k = some config)
    (h : NamesVersion db job) : NamesVersion db' job := by
  obtain ⟨v, hv, hsome⟩ := h
  obtain ⟨config, hlookup⟩ := Option.isSome_iff_exists.mp hsome
  exact ⟨v, hv, Option.isSome_iff_exists.mpr ⟨config, hconfigs hlookup⟩⟩

/-- The job rows after a request that writes a version and queues the job naming it. -/
theorem namesVersion_insert {db db' : Db} {jid : Nat} {job : WorkspaceJob}
    (hnum : Numbered db) (heff : VersionEffect db db')
    (hjobs : db'.jobs = db.jobs.insert jid job) (hnew : NamesVersion db' job)
    {k : Nat} {j : WorkspaceJob} (hk : db'.jobs.lookup k = some j) : NamesVersion db' j := by
  rw [hjobs, Table.lookup_insert_eq] at hk
  split at hk
  · obtain rfl := Option.some.inj hk
    exact hnew
  · exact (hnum.jobs hk).of_configs (heff.configs hnum)

theorem VersionEffect.numbered {db db' : Db} (h : VersionEffect db db') (hnum : Numbered db) :
    Numbered db' := by
  have heff := h
  cases h with
  | kept hconfigs hws hjobs =>
      refine ⟨fun hsome => ?_, fun hnone v => ?_, fun hjob => ?_⟩
      · obtain ⟨n, hn, hv⟩ := hnum.versions (hws _ ▸ hsome)
        exact ⟨n, hn, fun v => hconfigs ▸ hv v⟩
      · rw [hconfigs]
        refine hnum.absent (Option.isNone_iff_eq_none.mp ?_) v
        rw [← Option.not_isSome, ← hws, hnone]
        rfl
      · rcases hjobs _ _ hjob with ⟨old, hold, hsame⟩ | ⟨hsome, hversion⟩
        · obtain ⟨v, hv, hrow⟩ := hnum.jobs hold
          exact ⟨v, hsame.requestedConfigVersion.trans hv,
            by rw [hconfigs, hsame.workspaceId]; exact hrow⟩
        · obtain ⟨n, hn, hv⟩ := hnum.versions hsome
          refine ⟨n, ?_, by rw [hconfigs]; exact (hv n).mpr ⟨hn, Nat.le_refl n⟩⟩
          rw [hversion, hv.latest hn, Option.getD_some]
  | @staged wid n config job hws hlatest hconfigs hws' hjobs hwid hversion =>
      obtain ⟨m, hm, hv⟩ := hnum.versions hws
      obtain rfl : m = n := Option.some.inj ((hv.latest hm).symm.trans hlatest)
      have hnew : VersionsUpTo db' wid (m + 1) := by
        intro v
        rw [hconfigs, Table.lookup_insert_eq]
        by_cases hvm : v = m + 1
        · subst hvm
          simp
        · rw [if_neg fun heq => hvm (congrArg Prod.snd heq), hv v]
          omega
      refine ⟨fun {w} hsome => ?_, fun {w} hnone v => ?_, namesVersion_insert hnum heff hjobs ?_⟩
      · by_cases hw : w = wid
        · subst hw
          exact ⟨m + 1, Nat.le_add_left 1 m, hnew⟩
        · obtain ⟨n, hn, hv⟩ := hnum.versions (hws' w ▸ hsome)
          refine ⟨n, hn, fun v => ?_⟩
          rw [hconfigs, Table.lookup_insert_eq, if_neg fun heq => hw (congrArg Prod.fst heq)]
          exact hv v
      · have hnone' : db.workspaces.lookup w = none := by
          rw [← Option.isNone_iff_eq_none, ← Option.not_isSome, ← hws', hnone]
          rfl
        rw [hconfigs, Table.lookup_insert_eq, if_neg]
        · exact hnum.absent hnone' v
        · intro heq
          obtain rfl : w = wid := congrArg Prod.fst heq
          rw [hnone'] at hws
          cases hws
      · exact ⟨m + 1, hversion, by rw [hwid]; exact (hnew (m + 1)).mpr ⟨by omega, by omega⟩⟩
  | @created wid config job hws hconfigs hws' hjobs hwid hversion =>
      have hnew : VersionsUpTo db' wid 1 := by
        intro v
        rw [hconfigs, Table.lookup_insert_eq]
        by_cases hv : v = 1
        · subst hv
          simp
        · rw [if_neg fun heq => hv (congrArg Prod.snd heq), hnum.absent hws v]
          simp only [Option.isSome_none, Bool.false_eq_true, false_iff]
          omega
      refine ⟨fun {w} hsome => ?_, fun {w} hnone v => ?_, namesVersion_insert hnum heff hjobs ?_⟩
      · by_cases hw : w = wid
        · subst hw
          exact ⟨1, Nat.le_refl 1, hnew⟩
        · rw [hws', decide_eq_false hw, Bool.or_false] at hsome
          obtain ⟨n, hn, hv⟩ := hnum.versions hsome
          refine ⟨n, hn, fun v => ?_⟩
          rw [hconfigs, Table.lookup_insert_eq, if_neg fun heq => hw (congrArg Prod.fst heq)]
          exact hv v
      · have hold := hws' w
        rw [hnone, Option.isSome_none, eq_comm, Bool.or_eq_false_iff] at hold
        rw [hconfigs, Table.lookup_insert_eq, if_neg]
        · refine hnum.absent (Option.isNone_iff_eq_none.mp ?_) v
          rw [← Option.not_isSome, hold.1]
          rfl
        · exact fun heq => of_decide_eq_false hold.2 (congrArg Prod.fst heq)
      · exact ⟨1, hversion, by rw [hwid]; exact (hnew 1).mpr ⟨by omega, by omega⟩⟩

/-! ### One lemma for each kind of step -/

theorem isSome_lookup_insert_of {ρ : Type} {t : Table Nat ρ} {k : Nat} {r : ρ}
    (h : (t.lookup k).isSome) (w : Nat) :
    ((t.insert k r).lookup w).isSome = (t.lookup w).isSome := by
  rw [Table.lookup_insert_eq]
  split
  · rename_i hw
    rw [hw, h]
    rfl
  · rfl

/-- The rows a request finds are there, and one job joins them. -/
theorem queueJob_rows {db db' : Db} {job : WorkspaceJob}
    (hjobs : db'.jobs = db.jobs.insert (Table.freshKey db.jobs) job)
    (hws : (db.workspaces.lookup job.workspaceId).isSome)
    (hversion : job.requestedConfigVersion =
      ((db.latestConfigVersion job.workspaceId).getD 1 : Nat))
    (k : Nat) (j : WorkspaceJob) (hk : db'.jobs.lookup k = some j) :
    (∃ old, db.jobs.lookup k = some old ∧ SameRequest old j) ∨
      (db.workspaces.lookup j.workspaceId).isSome ∧
        j.requestedConfigVersion = ((db.latestConfigVersion j.workspaceId).getD 1 : Nat) := by
  rw [hjobs, Table.lookup_insert_eq] at hk
  split at hk
  · obtain rfl := Option.some.inj hk
    exact .inr ⟨hws, hversion⟩
  · exact .inl ⟨j, hk, (Follows.refl j).request⟩

theorem VersionEffect.refl (db : Db) : VersionEffect db db :=
  .kept rfl (fun _ => rfl) fun _ j hj => .inl ⟨j, hj, (Follows.refl j).request⟩

/-- The lifecycle requests on an existing workspace. -/
theorem commitIntent_versions {db db' : Db} {wid version : Nat} {req : Request}
    (hlatest : db.latestConfigVersion wid = some version)
    (h : commitIntent db wid req version = .ok db') : VersionEffect db db' := by
  unfold commitIntent at h
  split at h
  · cases h
  rename_i ws hws
  have hsome : (db.workspaces.lookup wid).isSome := by rw [hws]; rfl
  cases hkind : req.kind with
  | update config =>
      simp only [hkind, lookup_next_version hlatest, Option.isSome_none, Bool.false_eq_true,
        if_false] at h
      obtain rfl := Except.ok.inj h
      exact .staged hsome hlatest rfl (isSome_lookup_insert_of hsome) rfl rfl rfl
  | _ =>
      simp only [hkind] at h
      obtain rfl := Except.ok.inj h
      exact .kept rfl (isSome_lookup_insert_of hsome)
        (queueJob_rows rfl hsome (by rw [newJob, hlatest, Option.getD_some]))

theorem perform_versions {db db' : Db} {wid : Nat} {req : Request}
    (h : perform db wid req = .ok db') : VersionEffect db db' := by
  rw [perform_eq] at h
  obtain ⟨_, -, h⟩ := bind_eq_ok.mp h
  obtain ⟨version, hv, h⟩ := bind_eq_ok.mp h
  exact commitIntent_versions (versionCheck_ok hv) h

/-- The requests that queue a job and leave the workspace alone. -/
theorem queueJob_versions {db : Db} {ws : Workspace} {job : WorkspaceJob}
    (snapshots : Table Nat WorkspaceSnapshot)
    (hws : db.workspaces.lookup job.workspaceId = some ws)
    (hversion : job.requestedConfigVersion =
      ((db.latestConfigVersion job.workspaceId).getD 1 : Nat)) :
    VersionEffect db ({ db with snapshots := snapshots }.queueJob job) :=
  .kept rfl (fun _ => rfl) (queueJob_rows rfl (by rw [hws]; rfl) hversion)

/-- A new workspace starts at version 1, which its job asks for. -/
theorem addWorkspace_versions (db : Db) (inp : IntentInput) (ws : Workspace)
    (config : WorkspaceConfig) : VersionEffect db (db.addWorkspace inp ws config) := by
  refine .created (Table.lookup_freshKey db.workspaces) rfl (fun w => ?_) rfl rfl rfl
  simp only [Db.addWorkspace, Db.queueJob, Table.lookup_insert_eq]
  by_cases hw : w = Table.freshKey db.workspaces <;> simp [hw]

theorem createWorkspace_versions {db db' : Db} {inp : IntentInput} {owner : Nat} {name : String}
    {config : WorkspaceConfig} (h : createWorkspace db inp owner name config = .ok db') :
    VersionEffect db db' := by
  obtain ⟨_, -, h⟩ := bind_eq_ok.mp h
  rw [← Except.ok.inj h]
  exact addWorkspace_versions db inp _ config

theorem createOperatorPinnedTestWorkspace_versions {cfg : Settings} {db db' : Db}
    {inp : IntentInput} {owner executionNodeId : Nat} {suffix : String} {config : WorkspaceConfig}
    (h : createOperatorPinnedTestWorkspace cfg db inp owner executionNodeId suffix config =
      .ok db') :
    VersionEffect db db' := by
  obtain ⟨_, -, h⟩ := bind_eq_ok.mp h
  obtain ⟨_, -, h⟩ := bind_eq_ok.mp h
  rw [← Except.ok.inj h]
  exact addWorkspace_versions db inp _ config

theorem enqueueReconcileRuntimeJob_versions {cfg : Settings} {db db' : Db} {inp : IntentInput}
    {wid : Nat} (h : enqueueReconcileRuntimeJob cfg db inp wid = .ok db') :
    VersionEffect db db' := by
  unfold enqueueReconcileRuntimeJob at h
  split at h
  · cases h
  · rename_i ws hws
    obtain ⟨_, -, h⟩ := bind_eq_ok.mp h
    obtain ⟨_, -, h⟩ := bind_eq_ok.mp h
    obtain ⟨_, -, h⟩ := bind_eq_ok.mp h
    obtain ⟨version, hv, h⟩ := bind_eq_ok.mp h
    rw [← Except.ok.inj h]
    refine queueJob_versions db.snapshots hws ?_
    rw [newJob, intentConfigVersion_ok hv, Option.getD_some]

theorem createSnapshot_versions {db db' : Db} {inp : IntentInput} {wid owner : Nat}
    (h : createSnapshot db inp wid owner = .ok db') : VersionEffect db db' := by
  obtain ⟨ws, hown, h⟩ := bind_eq_ok.mp h
  obtain ⟨_, -, h⟩ := bind_eq_ok.mp h
  obtain ⟨hws, -⟩ := getOwnedWorkspace_ok hown
  split at h
  · obtain ⟨_, hbad, -⟩ := bind_eq_ok.mp h
    cases hbad
  · obtain ⟨_, -, h⟩ := bind_eq_ok.mp h
    rw [← Except.ok.inj h]
    exact queueJob_versions _ hws rfl

theorem restoreSnapshot_versions {db db' : Db} {inp : IntentInput} {sid owner : Nat}
    (h : restoreSnapshot db inp sid owner = .ok db') : VersionEffect db db' := by
  unfold restoreSnapshot at h
  split at h
  · cases h
  split at h
  · cases h
  rename_i ws hws
  -- the refusals, one after the other
  iterate 5
    split at h
    · cases h
  rw [← Except.ok.inj h]
  exact queueJob_versions _ hws rfl

theorem importRepo_versions {db db' : Db} {inp : IntentInput} {wid owner : Nat}
    (h : importRepo db inp wid owner = .ok db') : VersionEffect db db' := by
  obtain ⟨ws, hown, h⟩ := bind_eq_ok.mp h
  obtain ⟨hws, -⟩ := getOwnedWorkspace_ok hown
  split at h
  · obtain ⟨_, hbad, -⟩ := bind_eq_ok.mp h
    cases hbad
  · rw [← Except.ok.inj h]
    exact queueJob_versions db.snapshots hws rfl

theorem accepted_versions {db : Db} {r : Except IntentError Db}
    (h : ∀ db', r = .ok db' → VersionEffect db db') : VersionEffect db (accepted db r) := by
  cases r with
  | ok db' => exact h db' rfl
  | error e => exact .refl db

/-- A job execution asks for nothing new. -/
theorem runJob_versions {cfg : Settings} {entry : EntryPoint} {inp : WorkerInput} {jid : Nat}
    {db : Db} (hwf : WellFormed db) : VersionEffect db (runJob cfg entry inp jid db) := by
  have h := runJob_effect cfg entry inp jid db
  have hjobs : ∀ {db'}, ExecEffect cfg entry inp jid db db' → ∀ k j, db'.jobs.lookup k = some j →
      ∃ old, db.jobs.lookup k = some old ∧ SameRequest old j := by
    intro db' heff k j hk
    have hold : (db.jobs.lookup k).isSome := by
      cases heff with
      | idle _ => rw [hk]; rfl
      | orphan _ hjob _ _ =>
          rw [Table.lookup_insert_eq] at hk
          split at hk
          · rename_i hkj
            rw [hkj, hjob]
            rfl
          · rw [hk]; rfl
      | committed hs _ _ =>
          obtain ⟨job, hjob, -⟩ := claimJob_row hs
          rw [commit_jobs, Table.lookup_insert_eq] at hk
          split at hk
          · rename_i hkj
            rw [hkj, hjob]
            rfl
          · rw [hk]; rfl
      | rolledBack _ _ _ => rw [show db.jobs.lookup k = some j from hk]; rfl
    obtain ⟨old, hold⟩ := Option.isSome_iff_exists.mp hold
    obtain ⟨j', hj', hfollows⟩ := (heff.jobsFollow hwf).row hold
    obtain rfl := Option.some.inj (hj'.symm.trans hk)
    exact ⟨old, hold, hfollows.request⟩
  have hrows := hjobs h
  generalize runJob cfg entry inp jid db = db' at h hrows
  cases h with
  | idle _ => exact .refl db
  | orphan _ _ _ _ => exact .kept rfl (fun _ => rfl) fun k j hk => .inl (hrows k j hk)
  | @committed s hs hc hend =>
      refine .kept rfl (fun w => ?_) fun k j hk => .inl (hrows k j hk)
      rw [commit_workspaces_lookup, hend.target.1]
      split
      · rename_i hw
        rw [hw, (claimJob_claimed hs).ws]
        rfl
      · rfl
  | rolledBack _ _ _ => exact .kept rfl (fun _ => rfl) fun k j hk => .inl (hrows k j hk)

theorem step_versions (cfg : Settings) {db : Db} (hwf : WellFormed db) (st : Step) :
    VersionEffect db (step cfg db st) := by
  cases st with
  | createWorkspace inp owner name config =>
      exact accepted_versions fun _ => createWorkspace_versions
  | createOperatorPinnedTestWorkspace inp owner executionNodeId suffix config =>
      exact accepted_versions fun _ => createOperatorPinnedTestWorkspace_versions
  | requestStartWorkspace inp wid owner user =>
      exact accepted_versions fun db' (h : perform db wid ⟨.start, inp, owner, user⟩ = .ok db') =>
        perform_versions h
  | requestStopWorkspace inp wid owner user =>
      exact accepted_versions fun db' (h : perform db wid ⟨.stop, inp, owner, user⟩ = .ok db') =>
        perform_versions h
  | requestRestartWorkspace inp wid owner user =>
      exact accepted_versions fun db' (h : perform db wid ⟨.restart, inp, owner, user⟩ = .ok db') =>
        perform_versions h
  | requestDeleteWorkspace inp wid owner user =>
      exact accepted_versions fun db' (h : perform db wid ⟨.delete, inp, owner, user⟩ = .ok db') =>
        perform_versions h
  | requestUpdateWorkspace inp wid owner user config =>
      exact accepted_versions
        fun db' (h : perform db wid ⟨.update config, inp, owner, user⟩ = .ok db') =>
          perform_versions h
  | enqueueReconcileRuntimeJob inp wid =>
      exact accepted_versions fun _ => enqueueReconcileRuntimeJob_versions
  | createSnapshot inp wid owner => exact accepted_versions fun _ => createSnapshot_versions
  | restoreSnapshot inp sid owner => exact accepted_versions fun _ => restoreSnapshot_versions
  | importRepo inp wid owner => exact accepted_versions fun _ => importRepo_versions
  | processNextQueuedJob inp jid =>
      unfold step
      dsimp only
      split
      · exact runJob_versions hwf
      · exact .refl db
  | runQueuedWorkspaceJobById inp jid => exact runJob_versions hwf
  | drainPendingCleanupTasks answers =>
      have heff := drainPendingCleanupTasks_effect db answers
      exact .kept (drainPendingCleanupTasks_configs db answers) (fun w => by
        rw [step, heff.workspaces]) fun k j hk => .inl ⟨j, heff.jobs ▸ hk, (Follows.refl j).request⟩
  | reclaimStuckRunningJobs clk =>
      rw [step, reclaimStuckRunningJobs_eq hwf]
      exact .refl db

/-! ### Over a run -/

/-- The rows of the rest of a run. -/
theorem run_configs (cfg : Settings) {db : Db} (hwf : WellFormed db) (hnum : Numbered db)
    (steps : List Step) {k : Nat × Nat} {config : WorkspaceConfig}
    (hk : db.configs.lookup k = some config) :
    (run (step cfg) db steps).configs.lookup k = some config := by
  induction steps generalizing db with
  | nil => exact hk
  | cons st steps ih =>
      have heff := step_versions cfg hwf st
      exact ih (wellFormed_step cfg hwf st) (heff.numbered hnum) (heff.configs hnum hk)

section History

variable (cfg : Settings) (nodes : Table Nat ExecutionNode) (topologies : List Int)

theorem wellFormed_run (steps : List Step) :
    WellFormed (run (step cfg) (initDb nodes topologies) steps) :=
  Reachable.invariant ⟨steps, rfl⟩ (wellFormed_initDb nodes topologies)
    fun _ st h => wellFormed_step cfg h st

/-- **A job is never lost, changed or run again.** Whatever happens after a moment of a run,
each job of that moment is still there and asks for the same thing; it is open or has
succeeded or failed, and if it had ended it is exactly the row it was. -/
theorem job_history (steps more : List Step) {jid : Nat} {job : WorkspaceJob}
    (hjob : (run (step cfg) (initDb nodes topologies) steps).jobs.lookup jid = some job) :
    ∃ job', (run (step cfg) (initDb nodes topologies) (steps ++ more)).jobs.lookup jid = some job' ∧
      Follows job job' ∧ AtRest job' := by
  have hfresh : AllAtRest (initDb nodes topologies) := by
    intro jid job h
    simp [initDb] at h
  rw [run_append]
  obtain ⟨job', hjob', hfollows⟩ :=
    (run_jobsFollow cfg (wellFormed_run cfg nodes topologies steps) more).row hjob
  refine ⟨job', hjob', hfollows, ?_⟩
  have hall := (run_jobsFollow cfg (wellFormed_initDb nodes topologies) (steps ++ more)).settled
    hfresh
  rw [run_append] at hall
  exact hall jid job' hjob'

/-- One workspace is created, and another one after that. -/
theorem create_job_stays :
    ∃ job', (run (step {}) sampleDb ([.createWorkspace { now := 0 } 1 "a" {}] ++
        [.createWorkspace { now := 5 } 1 "b" {}])).jobs.lookup 1 = some job' ∧
      Follows { workspaceId := 1, jobType := .create, requestedByUserId := 1
                requestedConfigVersion := 1, createdAt := 0 } job' ∧ AtRest job' :=
  job_history {} (AList.insert 1 sampleNode ∅) [1] [.createWorkspace { now := 0 } 1 "a" {}]
    [.createWorkspace { now := 5 } 1 "b" {}] (by decide)

theorem numbered_run (steps : List Step) :
    Numbered (run (step cfg) (initDb nodes topologies) steps) := by
  have h : WellFormed (run (step cfg) (initDb nodes topologies) steps) ∧
      Numbered (run (step cfg) (initDb nodes topologies) steps) := by
    refine Reachable.invariant (Q := fun db => WellFormed db ∧ Numbered db) ⟨steps, rfl⟩
      ⟨wellFormed_initDb nodes topologies, ?_⟩ fun db st h => ⟨wellFormed_step cfg h.1 st,
        (step_versions cfg h.1 st).numbered h.2⟩
    constructor <;> intros <;> simp_all [initDb]
  exact h.2

/-- **Configuration versions are a log.** At every moment of a run the versions of a workspace
are `1`, …, `n`, the latest being `n`; a version that is there stays, with the same content,
whatever happens later; and every job names a version of its own workspace. -/
theorem config_history (steps more : List Step) :
    (∀ wid, ((run (step cfg) (initDb nodes topologies) steps).workspaces.lookup wid).isSome →
      ∃ n, 1 ≤ n ∧ VersionsUpTo (run (step cfg) (initDb nodes topologies) steps) wid n ∧
        (run (step cfg) (initDb nodes topologies) steps).latestConfigVersion wid = some n) ∧
    (∀ k config, (run (step cfg) (initDb nodes topologies) steps).configs.lookup k = some config →
      (run (step cfg) (initDb nodes topologies) (steps ++ more)).configs.lookup k = some config) ∧
    (∀ jid job, (run (step cfg) (initDb nodes topologies) steps).jobs.lookup jid = some job →
      NamesVersion (run (step cfg) (initDb nodes topologies) steps) job) := by
  have hnum := numbered_run cfg nodes topologies steps
  refine ⟨fun wid hsome => ?_, fun k config hk => ?_, fun jid job hjob => hnum.jobs hjob⟩
  · obtain ⟨n, hn, hv⟩ := hnum.versions hsome
    exact ⟨n, hn, hv, hv.latest hn⟩
  · rw [run_append]
    exact run_configs cfg (wellFormed_run cfg nodes topologies steps) hnum more hk

end History

end Devnest
