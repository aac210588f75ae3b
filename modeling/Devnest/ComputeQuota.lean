import Devnest.QuotaBounds

/-!
# How much compute an owner is admitted for

`max_cpu` and `max_memory_mb` limit what an owner's workspaces are configured
for. The check of a request adds the configured limit of the newcomer to the
`reserved_*` columns of the owner's other runtimes, and the worker writes these
columns after the bring-up, from the settings' defaults: a workspace on its way
up has none yet, and one that was configured for more than the default holds
less than it was admitted for.

The state notes for each workspace the configuration it was last admitted with.
The two limits hold in every run where the check, which sees the reservations,
lets nothing pass that does not fit beside what was admitted.
-/

namespace Devnest

open Runs

/-! ## Admissions -/

/-- The tables, and for each workspace the configuration of its last admission. -/
structure AdmissionState where
  db : Db
  admitted : Nat → WorkspaceConfig := fun _ => {}

def admissionStep (cfg : Settings) (quotas : List Quota) (s : AdmissionState) (ms : MeteredStep) :
    AdmissionState where
  db := quotaStep cfg quotas s.db ms
  admitted := reweigh id s.admitted (admits cfg s.db (ms.resolve quotas s.db))

/-- The cores a configuration asks for. -/
def cpuDemand (config : WorkspaceConfig) : ℚ := (proposedCpu config).getD 0

/-- The memory a configuration asks for. -/
def memoryDemand (config : WorkspaceConfig) : Int := (proposedMemoryMb config).getD 0

section Amounts

variable {M : Type} [AddCommGroup M] [LinearOrder M] (owner : Nat)
  (demand : WorkspaceConfig → M)

/-- What the owner's `RUNNING` workspaces were admitted for. -/
def runningDemand (s : AdmissionState) : M :=
  Table.total (fun w ws => if ws.ownerUserId = owner ∧ ws.status = .running then
    demand (s.admitted w) else 0) s.db.workspaces

/-- What the owner's workspaces that run or are on their way up were admitted for, apart from
`ignored`; a negative amount makes no room for others. -/
def promised (s : AdmissionState) (ignored : Option Nat) : M :=
  upTotal owner (fun w => max 0 (demand (s.admitted w)))
    (ignored.elim s.db.workspaces fun w => s.db.workspaces.erase w)

/-- What the check lets pass beside the reservations also fits beside the admissions. -/
def PromiseFits (limit tolerance reserved : M) (s : AdmissionState) (ignored : Option Nat)
    (config : WorkspaceConfig) : Prop :=
  reserved + demand config ≤ limit + tolerance →
    max 0 (demand config) + promised owner demand s ignored ≤ limit

/-- A workspace comes up again with what it was admitted for before. -/
def ReturnFits (limit : M) (s : AdmissionState) (w : Nat) : Prop :=
  max 0 (demand (s.admitted w)) + promised owner demand s none ≤ limit

variable {owner demand} {limit tolerance : M}

/-- One step keeps one of the two limits. -/
theorem admissionStep_promised [IsOrderedAddMonoid M] {cfg : Settings} {quotas : List Quota}
    {checked : Option Nat → WorkspaceConfig → Prop} {unchecked : Nat → Prop} {s : AdmissionState}
    (hwf : WellFormed s.db) {ms : MeteredStep} (reserved : Option Nat → M)
    (hfit : TakesUp owner checked unchecked s.db ms.step)
    (hle : promised owner demand s none ≤ limit)
    (hchecked : ∀ ignored config, checked ignored config →
      PromiseFits owner demand limit tolerance (reserved ignored) s ignored config)
    (hunchecked : ∀ w, unchecked w → ReturnFits owner demand limit s w)
    (hok : ∀ ignored config, checkConfigCompute quotas s.db owner config ignored = .ok () →
      reserved ignored + demand config ≤ limit + tolerance) :
    promised owner demand (admissionStep cfg quotas s ms) none ≤ limit := by
  have hweight : (fun w => max 0 (demand ((admissionStep cfg quotas s ms).admitted w))) =
      reweigh (fun config => max 0 (demand config)) (fun w => max 0 (demand (s.admitted w)))
        (admits cfg s.db (ms.resolve quotas s.db)) := by
    unfold admissionStep
    dsimp only
    cases admits cfg s.db (ms.resolve quotas s.db) with
    | none => rfl
    | some a =>
        funext w
        by_cases hw : w = a.1
        · subst hw
          simp [reweigh]
        · simp [reweigh, hw]
  unfold promised
  rw [hweight]
  refine (quotaStep_up cfg hwf hfit).upTotal_le (fun w => le_max_left _ _)
    (fun config => le_max_left _ _) hle (fun w config ignored hself hc _ hcompute => ?_) hunchecked
  have h := hchecked ignored config hc (hok ignored config hcompute)
  rcases hself with rfl | ⟨rfl, hnone⟩
  · exact h
  · unfold promised upTotal at h
    unfold upTotal
    rw [Table.total_of_none _ hnone]
    exact h

/-- Running workspaces are part of what was promised. -/
theorem runningDemand_le [IsOrderedAddMonoid M] (s : AdmissionState) :
    runningDemand owner demand s ≤ promised owner demand s none := by
  refine List.sum_le_sum fun e _ => ?_
  by_cases hrun : e.2.ownerUserId = owner ∧ e.2.status = .running
  · have hocc : e.2.ownerUserId = owner ∧ e.2.status.occupies = true := ⟨hrun.1, by rw [hrun.2]; rfl⟩
    simp only [if_pos hrun, if_pos hocc]
    exact le_max_right _ _
  · simp only [if_neg hrun]
    split
    · exact le_max_left _ _
    · exact le_rfl

end Amounts

/-! ## The two limits -/

section Limits

variable (owner : Nat) (maxCpu : ℚ) (maxMemoryMb : Int)

/-- A step that takes a workspace of the owner up leaves room for what was admitted: a checked
request where the reservations do not mislead the check, the others outright. -/
def ComputeFits (s : AdmissionState) (st : Step) : Prop :=
  TakesUp owner
    (fun ignored config =>
      PromiseFits owner cpuDemand maxCpu (1 / 1000000000) (reservedByOwner s.db owner ignored).1 s
        ignored config ∧
      PromiseFits owner memoryDemand maxMemoryMb 0 (reservedByOwner s.db owner ignored).2 s
        ignored config)
    (fun w => ReturnFits owner cpuDemand maxCpu s w ∧
      ReturnFits owner memoryDemand maxMemoryMb s w)
    s.db st

variable {owner maxCpu maxMemoryMb} {cfg : Settings} {quotas : List Quota} {q : Quota} {db : Db}

/-- What a passed check says. -/
theorem checkConfigCompute_ok {config : WorkspaceConfig} {ignored : Option Nat}
    (hq : getEffectiveQuota quotas (some owner) none = some q) (hcpu : q.maxCpu = some maxCpu)
    (hmem : q.maxMemoryMb = some maxMemoryMb)
    (h : checkConfigCompute quotas db owner config ignored = .ok ()) :
    (reservedByOwner db owner ignored).1 + cpuDemand config ≤ maxCpu + 1 / 1000000000 ∧
      (reservedByOwner db owner ignored).2 + memoryDemand config ≤ maxMemoryMb + 0 := by
  unfold checkConfigCompute at h
  split at h
  · rename_i cpu mem hpc hpm
    have h := mapError_eq_ok.mp h
    unfold checkOwnerComputeQuota at h
    simp only [hq, hcpu, hmem, Option.any_some, decide_eq_true_eq] at h
    split at h
    · cases h
    · rename_i hc
      split at h
      · cases h
      · rename_i hm
        simp only [cpuDemand, memoryDemand, hpc, hpm, Option.getD_some, add_zero]
        exact ⟨not_lt.mp hc, not_lt.mp hm⟩
  · cases h

/-- The installation without workspaces. -/
def initAdmissions (nodes : Table Nat ExecutionNode) (topologies : List Int) : AdmissionState where
  db := initDb nodes topologies

/-- **The compute quota.** From an installation without workspaces, what an owner's `RUNNING`
workspaces were admitted for stays within `max_cpu` and `max_memory_mb`, in every run whose steps
leave room for what was admitted. -/
theorem compute_quota_holds {nodes : Table Nat ExecutionNode} {topologies : List Int}
    {steps : List MeteredStep} (hq : getEffectiveQuota quotas (some owner) none = some q)
    (hcpu : q.maxCpu = some maxCpu) (hmem : q.maxMemoryMb = some maxMemoryMb)
    (hcpu0 : 0 ≤ maxCpu) (hmem0 : 0 ≤ maxMemoryMb)
    (h : Along (admissionStep cfg quotas)
      (fun s ms => ComputeFits owner maxCpu maxMemoryMb s ms.step)
      (initAdmissions nodes topologies) steps) :
    Always (admissionStep cfg quotas) (fun s => runningDemand owner cpuDemand s ≤ maxCpu ∧
      runningDemand owner memoryDemand s ≤ maxMemoryMb) (initAdmissions nodes topologies) steps := by
  have hcpu1 : promised owner cpuDemand (initAdmissions nodes topologies) none ≤ maxCpu := hcpu0
  have hmem1 : promised owner memoryDemand (initAdmissions nodes topologies) none ≤ maxMemoryMb :=
    hmem0
  have hall := always_of_along
    (Q := fun s => WellFormed s.db ∧ promised owner cpuDemand s none ≤ maxCpu ∧
      promised owner memoryDemand s none ≤ maxMemoryMb)
    ⟨wellFormed_initDb nodes topologies, hcpu1, hmem1⟩
    (fun s ms ⟨hwf, hc, hm⟩ hfit => ⟨wellFormed_quotaStep cfg quotas hwf ms,
      admissionStep_promised hwf (fun ignored => (reservedByOwner s.db owner ignored).1) hfit hc
        (fun _ _ hf => hf.1) (fun _ hf => hf.1)
        fun _ _ hok => (checkConfigCompute_ok hq hcpu hmem hok).1,
      admissionStep_promised hwf (fun ignored => (reservedByOwner s.db owner ignored).2) hfit hm
        (fun _ _ hf => hf.2) (fun _ hf => hf.2)
        fun _ _ hok => (checkConfigCompute_ok hq hcpu hmem hok).2⟩) h
  exact hall.mono fun s hs =>
    ⟨(runningDemand_le s).trans hs.2.1, (runningDemand_le s).trans hs.2.2⟩

end Limits

/-- Four cores and four gigabytes for user 7. -/
def fourCores : List Quota :=
  [{ scopeType := .user, scopeId := some 7, maxCpu := some 4, maxMemoryMb := some 4096 }]

def sampleAdmissions : AdmissionState := initAdmissions (AList.insert 1 sampleNode ∅) [1]

/-- Two workspaces with the default limits, one after the other. -/
def defaultsRun : List MeteredStep := ([
    .createWorkspace { now := 0 } 7 "a" {},
    .processNextQueuedJob (sampleWorker 1 stoppingOrch) 1,
    .createWorkspace { now := 2 } 7 "b" {},
    .processNextQueuedJob (sampleWorker 3 stoppingOrch) 2] : List Step).map ({ step := · })

/-- The first reserves what it was admitted for before the second asks. -/
theorem default_limits_fit :
    Along (admissionStep {} fourCores) (fun s ms => ComputeFits 7 4 4096 s ms.step)
      sampleAdmissions defaultsRun ∧
    Always (admissionStep {} fourCores) (fun s => runningDemand 7 cpuDemand s ≤ 4 ∧
      runningDemand 7 memoryDemand s ≤ 4096) sampleAdmissions defaultsRun := by
  have hexec : ∀ s st, st.claimPasses (fun _ s => s.ws.status.occupies || !s.job.jobType.bringsUp)
      s.db = true → OnExecution (fun _ _ x => x.ws.ownerUserId = 7 → x.ws.status.occupies = false →
        x.job.jobType.bringsUp = true → ReturnFits 7 cpuDemand 4 s x.wid ∧
          ReturnFits 7 memoryDemand 4096 s x.wid) s.db st := by
    refine fun s st => OnExecution.of_claimPasses (fun _ _ x h _ hocc hjt => ?_) s.db st
    simp [hocc, hjt] at h
  have halong : Along (admissionStep {} fourCores) (fun s ms => ComputeFits 7 4 4096 s ms.step)
      sampleAdmissions defaultsRun := by
    refine ⟨fun _ => ?_, hexec _ _ ?_, fun _ => ?_, hexec _ _ ?_, trivial⟩
    · unfold PromiseFits
      decide +kernel
    · decide +kernel
    · unfold PromiseFits
      decide +kernel
    · decide +kernel
  exact ⟨halong, compute_quota_holds rfl rfl rfl (by decide +kernel) (by decide) halong⟩

/-- The first workspace is admitted for four cores and reserves one; the second asks for three. -/
def underReservedRun : List MeteredStep := ([
    .createWorkspace { now := 0 } 7 "a" { cpuLimitCores := .number 4 },
    .processNextQueuedJob (sampleWorker 1 stoppingOrch) 1,
    .createWorkspace { now := 2 } 7 "b" { cpuLimitCores := .number 3 },
    .processNextQueuedJob (sampleWorker 3 stoppingOrch) 2] : List Step).map ({ step := · })

theorem reserved_defaults_exceed_quota :
    ¬ ∀ (cfg : Settings) (quotas : List Quota) (owner : Nat) (q : Quota) (maxCpu : ℚ)
      (maxMemoryMb : Int) (steps : List MeteredStep),
      getEffectiveQuota quotas (some owner) none = some q → q.maxCpu = some maxCpu →
      q.maxMemoryMb = some maxMemoryMb → 0 ≤ maxCpu → 0 ≤ maxMemoryMb →
      Always (admissionStep cfg quotas) (fun s => runningDemand owner cpuDemand s ≤ maxCpu ∧
        runningDemand owner memoryDemand s ≤ maxMemoryMb) sampleAdmissions steps := by
  intro h
  have hend := (h {} fourCores 7 _ 4 4096 underReservedRun rfl rfl rfl (by decide +kernel)
    (by decide)).last
  revert hend
  decide +kernel

end Devnest
