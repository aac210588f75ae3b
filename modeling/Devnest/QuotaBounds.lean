import Devnest.Deleted
import Devnest.Owners
import Devnest.Quotas

/-!
# How many workspaces an owner has

Two bounds that the quotas are there for: `max_workspaces` on the owner's
workspaces that are not deleted, `max_running_workspaces` on those that
occupy compute. The checks are made when a request is accepted, so the
bounds hold as long as nothing else adds to the count.

Something does. A workspace whose delete fails comes back from `DELETING`
after its place was given away. `UPDATE` asks no quota and takes a stopped
workspace up, and the running count leaves out `CREATING` and `UPDATING`.
The two theorems say that these are the only ways: a step that meets none of
them keeps the bound.
-/

namespace Devnest

open Runs

/-! ## Counts -/

/-- What a row adds to the owner's count. -/
def countsFor (owner : Nat) (counts : WorkspaceStatus → Bool) (_ : Nat) (ws : Workspace) : Nat :=
  if ws.ownerUserId = owner ∧ counts ws.status = true then 1 else 0

section Counts

variable {owner : Nat} {counts : WorkspaceStatus → Bool} {t : Table Nat Workspace}

theorem countsFor_le_one (w : Nat) (ws : Workspace) : countsFor owner counts w ws ≤ 1 := by
  unfold countsFor
  split <;> omega

theorem countsFor_of_not {w : Nat} {ws : Workspace} (h : counts ws.status = false) :
    countsFor owner counts w ws = 0 := by
  simp [countsFor, h]

theorem countsFor_le {w : Nat} {ws ws' : Workspace} (hown : ws'.ownerUserId = ws.ownerUserId)
    (h : counts ws.status = true) : countsFor owner counts w ws' ≤ countsFor owner counts w ws := by
  unfold countsFor
  rw [hown]
  split
  · rename_i hc
    rw [if_pos ⟨hc.1, h⟩]
  · exact Nat.zero_le _

theorem ownedCount_eq_total (db : Db) (owner : Nat) (counts : WorkspaceStatus → Bool)
    (ignored : Option Nat) :
    ownedCount db owner counts ignored = Table.total
      (fun w ws => if ignored = some w then 0 else countsFor owner counts w ws) db.workspaces := by
  unfold ownedCount Table.total
  induction db.workspaces.entries with
  | nil => rfl
  | cons e l ih =>
      rw [List.countP_cons, List.map_cons, List.sum_cons, ← ih, Nat.add_comm]
      congr 1
      by_cases hi : ignored = some e.1
      · simp [hi]
      · simp [hi, countsFor]

theorem ownedCount_none (db : Db) (owner : Nat) (counts : WorkspaceStatus → Bool) :
    ownedCount db owner counts none = Table.total (countsFor owner counts) db.workspaces := by
  rw [ownedCount_eq_total]
  rfl

/-- Without the ignored workspace: the rest of the table. -/
theorem ownedCount_some (db : Db) (owner : Nat) (counts : WorkspaceStatus → Bool) (w : Nat) :
    ownedCount db owner counts (some w) =
      Table.total (countsFor owner counts) (db.workspaces.erase w) := by
  have hrest : Table.total (fun v ws => if some w = some v then 0 else countsFor owner counts v ws)
      (db.workspaces.erase w) = Table.total (countsFor owner counts) (db.workspaces.erase w) := by
    refine Table.total_congr fun v ws hv => ?_
    have hne : v ≠ w := by
      rintro rfl
      simp at hv
    rw [if_neg fun h => hne (Option.some.inj h).symm]
  rw [ownedCount_eq_total, ← hrest]
  cases hw : db.workspaces.lookup w with
  | none => exact (Table.total_of_none _ hw).symm
  | some ws =>
      rw [Table.total_of_lookup _ hw, if_pos rfl, Nat.zero_add]

/-- One row is written: it counts no more than before, or there is room. -/
theorem total_insert_le {w m : Nat} {ws : Workspace}
    (hle : Table.total (countsFor owner counts) t ≤ m)
    (h : countsFor owner counts w ws = 0 ∨
      (∃ old, t.lookup w = some old ∧ countsFor owner counts w ws ≤ countsFor owner counts w old) ∨
      Table.total (countsFor owner counts) t < m) :
    Table.total (countsFor owner counts) (t.insert w ws) ≤ m := by
  have hone : countsFor owner counts w ws ≤ 1 := countsFor_le_one w ws
  have hrest : Table.total (countsFor owner counts) (t.erase w) ≤
      Table.total (countsFor owner counts) t := by
    cases hw : t.lookup w with
    | none => rw [Table.total_of_none _ hw]
    | some old => rw [Table.total_of_lookup _ hw]; exact Nat.le_add_left _ _
  rw [Table.total_insert]
  rcases h with h | ⟨old, hold, h⟩ | h
  · omega
  · rw [Table.total_of_lookup _ hold] at hle
    omega
  · omega

end Counts

/-! ## What an execution leaves -/

section Executions

variable (cfg : Settings) (inp : WorkerInput) {s : Session}

/-- A stop is never retried. -/
theorem finalizeStopResult_settled (clk : Clock) (s : Session) (res : WorkspaceStopResult) :
    (finalizeStopResult cfg clk s res).ws.status.isSettled = true := by
  unfold finalizeStopResult
  split
  · rfl
  · rfl

theorem nodeReadiness_of_not_bringsUp (hjt : s.job.jobType.bringsUp = false) :
    nodeReadinessRetryAllowed s.job.jobType = false := by
  cases h : s.job.jobType <;> simp_all [WorkspaceJobType.bringsUp, nodeReadinessRetryAllowed]

/-- The status stays, or is one that holds no compute. -/
def StaysOrSettles (s s' : Session) : Prop :=
  s'.ws.status = s.ws.status ∨ s'.ws.status.isSettled = true

theorem StaysOrSettles.of_strays {s' : Session} (h : s'.ws.status = s.ws.status ∨ Strays s') :
    StaysOrSettles s s' := by
  refine h.imp id fun hs => ?_
  rw [hs.2]
  rfl

theorem StaysOrSettles.of_raised (hjt : s.job.jobType.bringsUp = false) (nodeKey : Option String)
    {e : OrchestratorException} (hsync : syncAfterException s e = s) :
    StaysOrSettles s (handleOrchestratorException cfg inp s nodeKey e) := by
  have h := (handleOrchestratorException_aux cfg inp nodeKey hsync
    (nodeReadiness_of_not_bringsUp hjt)).2
  exact .of_strays (h.imp_left And.right)

theorem processClaimedRunningJob_stop (hjt : s.job.jobType = .stop) (nodeKey : Option String) :
    StaysOrSettles s (processClaimedRunningJob cfg inp s nodeKey).session := by
  have hup : s.job.jobType.bringsUp = false := by rw [hjt]; rfl
  unfold processClaimedRunningJob
  cases hans : inp.orch.stopWorkspaceRuntime with
  | crashed =>
      have hbody : executeJobBody cfg inp s = .crashed s := by
        simp only [executeJobBody, hjt, hans]
      rw [hbody]
      exact .inl rfl
  | raised m =>
      have hbody : executeJobBody cfg inp s = .raised (.stop m) s := by
        simp only [executeJobBody, hjt, hans]
      rw [hbody]
      exact .of_raised cfg inp hup nodeKey rfl
  | returned res =>
      have hbody : executeJobBody cfg inp s = .returned (finalizeStopResult cfg inp.clk s res) := by
        simp only [executeJobBody, hjt, hans]
      rw [hbody]
      exact .inr (finalizeStopResult_settled cfg inp.clk s res)

theorem processClaimedRunningJob_delete (hjt : s.job.jobType = .delete) (nodeKey : Option String) :
    StaysOrSettles s (processClaimedRunningJob cfg inp s nodeKey).session := by
  have hup : s.job.jobType.bringsUp = false := by rw [hjt]; rfl
  unfold processClaimedRunningJob
  cases hans : inp.orch.deleteWorkspaceRuntime with
  | crashed =>
      have hbody : executeJobBody cfg inp s = .crashed s := by
        simp only [executeJobBody, hjt, hans]
      rw [hbody]
      exact .inl rfl
  | raised m =>
      have hbody : executeJobBody cfg inp s = .raised (.delete m) s := by
        simp only [executeJobBody, hjt, hans]
      rw [hbody]
      exact .of_raised cfg inp hup nodeKey rfl
  | returned res =>
      have hbody : executeJobBody cfg inp s = .returned (finalizeDeleteResult inp.clk s res) := by
        simp only [executeJobBody, hjt, hans]
      rw [hbody]
      exact .inr rfl

/-- `STOP` and `DELETE`, from placement to the end. -/
theorem stopOrDelete_status (hjt : s.job.jobType = .stop ∨ s.job.jobType = .delete)
    (entry : EntryPoint) : StaysOrSettles s (executeClaimedJob cfg inp entry s).session := by
  have hup : s.job.jobType.bringsUp = false := by rcases hjt with h | h <;> rw [h] <;> rfl
  have hcre : s.job.jobType ≠ .create := by rcases hjt with h | h <;> rw [h] <;> simp
  have hsta : s.job.jobType ≠ .start := by rcases hjt with h | h <;> rw [h] <;> simp
  have hrepo : s.job.jobType ≠ .repoImport := by rcases hjt with h | h <;> rw [h] <;> simp
  have hproc : ∀ nodeKey,
      StaysOrSettles s (processClaimedRunningJob cfg inp s nodeKey).session := by
    intro nodeKey
    rcases hjt with h | h
    · exact processClaimedRunningJob_stop cfg inp h nodeKey
    · exact processClaimedRunningJob_delete cfg inp h nodeKey
  unfold executeClaimedJob
  split
  · exact .inr rfl
  · unfold placeAndProcess
    split
    · rename_i e he
      obtain ⟨-, hst⟩ := failJobFromPlacement_aux cfg inp (e := e) (s := s)
        fun m hm => resolve_noCapacity cfg inp.placement hcre hsta m (hm ▸ he)
      exact .of_strays ((hst.status cfg).imp_left And.right)
    · simp only [if_neg hrepo]
      split
      · exact .inl rfl
      · rename_i m _
        obtain ⟨-, hst⟩ := failJobFromOrchestratorBinding_aux cfg inp (s := s) m
          (nodeReadiness_of_not_bringsUp hup)
        exact .of_strays ((hst.status cfg).imp_left And.right)
      · have hbegin : beginCreateBringupAfterPlacement s = s := by
          simp [beginCreateBringupAfterPlacement, hcre]
        rw [hbegin]
        exact hproc _

/-- A job that brings no container up leaves the status, or one that holds no compute. -/
theorem executeClaimedJob_not_up (hjt : s.job.jobType.bringsUp = false) (entry : EntryPoint)
    (hc : (executeClaimedJob cfg inp entry s).committed = true) :
    StaysOrSettles s (executeClaimedJob cfg inp entry s).session := by
  by_cases hlife : s.job.jobType.isLifecycle = true
  · refine stopOrDelete_status cfg inp ?_ entry
    cases h : s.job.jobType <;> simp_all [WorkspaceJobType.bringsUp, WorkspaceJobType.isLifecycle]
  · have haux := (executeClaimedJob_aux cfg inp entry (by simpa using hlife)).1 hc
    exact .of_strays (haux.status.imp_left And.right)

end Executions

/-! ## `max_workspaces` -/

section Workspaces

variable (cfg : Settings) (quotas : List Quota) (owner m : Nat)

/-- The owner's workspaces that are neither `DELETED` nor `DELETING`. -/
def keptWorkspaces (db : Db) : Nat := ownedCount db owner (fun st => !st.isGone) none

theorem countsActive_eq : WorkspaceStatus.countsActive = fun st => !st.isGone := by
  funext st
  cases st <;> rfl

/-- An execution on a workspace of the owner that is deleted or being deleted leaves it so, or
finds room for it. -/
def ReturnsFit (db : Db) (st : Step) : Prop :=
  OnExecution (fun entry inp s => s.ws.ownerUserId = owner → s.ws.status.isGone = true →
    KeepsDeleted cfg entry inp s ∨ keptWorkspaces owner db < m) db st

variable {cfg quotas owner m}

theorem checkWorkspaceQuota_ok {db : Db}
    (hm : (getEffectiveQuota quotas (some owner) none).bind (·.maxWorkspaces) = some m)
    (h : checkWorkspaceQuota quotas db owner = .ok ()) : keptWorkspaces owner db < m := by
  unfold checkWorkspaceQuota at h
  simp only [hm] at h
  split at h
  · cases h
  · rename_i hlt
    rw [countsActive_eq] at hlt
    exact Nat.lt_of_not_le hlt

theorem quotaStep_keptWorkspaces {db : Db} (hwf : WellFormed db)
    (hm : (getEffectiveQuota quotas (some owner) none).bind (·.maxWorkspaces) = some m)
    (hle : keptWorkspaces owner db ≤ m) {ms : MeteredStep} (hfit : ReturnsFit cfg owner m db ms.step) :
    keptWorkspaces owner (quotaStep cfg quotas db ms) ≤ m := by
  have hw := step_write cfg hwf (ms.resolve quotas db)
  unfold keptWorkspaces at hle ⊢
  rw [ownedCount_none] at hle ⊢
  have hroom : ownedCount db owner (fun st => !st.isGone) none < m →
      Table.total (countsFor owner fun st => !st.isGone) db.workspaces < m := by
    rw [ownedCount_none]
    exact id
  change StepWrite cfg db _ (quotaStep cfg quotas db ms).workspaces at hw
  generalize (quotaStep cfg quotas db ms).workspaces = t at hw
  cases hw with
  | intent hw =>
      cases hw with
      | none => exact hle
      | @created _ o _ ws hst href howner hnew =>
          by_cases ho : o = owner
          · subst ho
            have hcheck := (resolve_create hst href).2 _ List.mem_cons_self
            exact total_insert_le hle (.inr (.inr (hroom
              (checkWorkspaceQuota_ok hm (mapError_eq_ok.mp hcheck)))))
          · refine total_insert_le hle (.inl ?_)
            simp [countsFor, howner, ho]
      | started _ _ hws _ hold =>
          refine total_insert_le hle (.inr (.inl ⟨_, hws, countsFor_le rfl ?_⟩))
          rcases hold with h | h <;> rw [h] <;> rfl
      | restarted _ _ hws _ hold =>
          refine total_insert_le hle (.inr (.inl ⟨_, hws, countsFor_le rfl ?_⟩))
          rcases hold with h | h <;> rw [h] <;> rfl
      | left hws _ hnew =>
          rcases hnew with ⟨rfl, hrun⟩ | rfl
          · refine total_insert_le hle (.inr (.inl ⟨_, hws, countsFor_le rfl ?_⟩))
            rw [hrun]
            rfl
          · exact total_insert_le hle (.inl (countsFor_of_not rfl))
      | updated _ hws _ hold =>
          refine total_insert_le hle (.inr (.inl ⟨_, hws, countsFor_le rfl ?_⟩))
          rcases hold with h | h | h <;> rw [h] <;> rfl
  | @committed entry inp jid s hex hs hc =>
      have hown := executeClaimedJob_owner cfg inp entry s
      have hcl := claimJob_claimed hs
      rw [resolve_execution] at hex
      by_cases hgone : s.ws.status.isGone = true
      · by_cases ho : s.ws.ownerUserId = owner
        · rcases hfit _ hex s hs ho hgone with hkeep | hlt
          · have hstay := (executeClaimedJob_staysGone_iff cfg inp entry hgone hkeep.job).mpr hkeep hc
            exact total_insert_le hle (.inl (countsFor_of_not (by rw [hstay]; rfl)))
          · exact total_insert_le hle (.inr (.inr (hroom hlt)))
        · refine total_insert_le hle (.inl ?_)
          simp [countsFor, hown, ho]
      · refine total_insert_le hle (.inr (.inl ⟨_, hcl.ws, countsFor_le hown ?_⟩))
        simp [Bool.eq_false_iff.mpr hgone]

/-- **The workspace quota.** From an installation without workspaces, an owner with
`max_workspaces = m` never has more than `m` that are neither `DELETED` nor `DELETING`, as long as
no delete that does not go through brings one back beyond the limit. -/
theorem workspace_quota_holds {nodes : Table Nat ExecutionNode} {topologies : List Int}
    {steps : List MeteredStep}
    (hm : (getEffectiveQuota quotas (some owner) none).bind (·.maxWorkspaces) = some m)
    (h : Along (quotaStep cfg quotas) (fun db ms => ReturnsFit cfg owner m db ms.step)
      (initDb nodes topologies) steps) :
    Always (quotaStep cfg quotas) (fun db => keptWorkspaces owner db ≤ m)
      (initDb nodes topologies) steps := by
  have hall := always_of_along (Q := fun db => WellFormed db ∧ keptWorkspaces owner db ≤ m)
    ⟨wellFormed_initDb nodes topologies, Nat.zero_le m⟩
    (fun db ms hq hfit => ⟨wellFormed_quotaStep cfg quotas hq.1 ms,
      quotaStep_keptWorkspaces hq.1 hm hq.2 hfit⟩) h
  exact hall.mono fun _ hq => hq.2

end Workspaces

/-- One workspace for user 7. -/
def oneWorkspace : List Quota := [{ scopeType := .user, scopeId := some 7, maxWorkspaces := some 1 }]

/-- Create, bring up, delete, and create the next one. -/
def replaceRun : List MeteredStep :=
  (deleteRun ++ [Step.createWorkspace { now := 4 } 7 "b" {}]).map ({ step := · })

/-- The delete goes through, and the next create finds the place free. -/
theorem replaced_workspace_fits :
    Along (quotaStep {} oneWorkspace) (fun db ms => ReturnsFit {} 7 1 db ms.step) sampleDb
      replaceRun ∧
    Always (quotaStep {} oneWorkspace) (fun db => keptWorkspaces 7 db ≤ 1) sampleDb replaceRun := by
  have hcheck : Along (quotaStep {} oneWorkspace) (fun db ms => ms.step.claimPasses
      (fun _ s => !s.ws.status.isGone || keptWorkspaces 7 db < 1) db = true) sampleDb
      replaceRun := by decide +kernel
  have halong : Along (quotaStep {} oneWorkspace) (fun db ms => ReturnsFit {} 7 1 db ms.step)
      sampleDb replaceRun := by
    refine hcheck.mono fun db ms => OnExecution.of_claimPasses (fun entry inp s h _ hgone => ?_) db _
    simp only [hgone, Bool.not_true, Bool.false_or, decide_eq_true_eq] at h
    exact .inr h
  exact ⟨halong, workspace_quota_holds rfl halong⟩

/-- An orchestrator whose deletes raise. -/
def stuckDeleteOrch : OrchestratorService :=
  { sampleOrch with deleteWorkspaceRuntime := .raised "engine unreachable" }

/-- While the first workspace is being deleted the second is created; then the delete fails. -/
def failedDeleteRun : List MeteredStep := ([
    .createWorkspace { now := 0 } 7 "a" {},
    .processNextQueuedJob (sampleWorker 1 stuckDeleteOrch) 1,
    .requestDeleteWorkspace { now := 2 } 1 7 7,
    .createWorkspace { now := 3 } 7 "b" {},
    .processNextQueuedJob (sampleWorker 4 stuckDeleteOrch) 2] : List Step).map ({ step := · })

theorem failed_delete_exceeds_quota :
    ¬ ∀ (cfg : Settings) (quotas : List Quota) (owner m : Nat) (steps : List MeteredStep),
      (getEffectiveQuota quotas (some owner) none).bind (·.maxWorkspaces) = some m →
      Always (quotaStep cfg quotas) (fun db => keptWorkspaces owner db ≤ m) sampleDb steps := by
  intro h
  have hend := (h {} oneWorkspace 7 1 failedDeleteRun rfl).last
  revert hend
  decide +kernel

/-! ## `max_running_workspaces` -/

/-- The workspace runs or is on its way up. -/
def WorkspaceStatus.occupies : WorkspaceStatus → Bool
  | creating | pending | starting | running | restarting | updating => true
  | stopping | stopped | error | deleting | deleted => false

/-! ### What the workspaces on their way up weigh -/

section Weights

variable {M : Type} [AddCommMonoid M] (owner : Nat)

/-- The weights of the owner's workspaces that run or are on their way up. -/
def upTotal (weight : Nat → M) (t : Table Nat Workspace) : M :=
  Table.total (fun w ws => if ws.ownerUserId = owner ∧ ws.status.occupies = true then weight w
    else 0) t

variable {owner} {weight : Nat → M} {t : Table Nat Workspace} {w : Nat} {ws : Workspace}

/-- A row that does not count adds nothing. -/
theorem upTotal_insert_out (h : ws.ownerUserId = owner → ws.status.occupies = false) :
    upTotal owner weight (t.insert w ws) = upTotal owner weight (t.erase w) := by
  unfold upTotal
  rw [Table.total_insert, if_neg, zero_add]
  rintro ⟨hown, hocc⟩
  rw [h hown] at hocc
  cases hocc

theorem upTotal_of_held (hw : t.lookup w = some ws) (hown : ws.ownerUserId = owner)
    (hocc : ws.status.occupies = true) :
    upTotal owner weight t = weight w + upTotal owner weight (t.erase w) := by
  unfold upTotal
  rw [Table.total_of_lookup _ hw, if_pos ⟨hown, hocc⟩]

/-- The other rows do not see the weight of `w`. -/
theorem upTotal_erase_congr {weight' : Nat → M} (h : ∀ v, v ≠ w → weight' v = weight v) :
    upTotal owner weight' (t.erase w) = upTotal owner weight (t.erase w) := by
  refine Table.total_congr fun v ws hv => ?_
  have hne : v ≠ w := by
    rintro rfl
    simp at hv
  rw [h v hne]

variable [PartialOrder M] [IsOrderedAddMonoid M]

theorem upTotal_insert_le (hpos : 0 ≤ weight w) :
    upTotal owner weight (t.insert w ws) ≤ weight w + upTotal owner weight (t.erase w) := by
  unfold upTotal
  rw [Table.total_insert]
  split
  · exact le_rfl
  · exact add_le_add hpos le_rfl

theorem upTotal_erase_le (hpos : 0 ≤ weight w) :
    upTotal owner weight (t.erase w) ≤ upTotal owner weight t := by
  unfold upTotal
  cases hw : t.lookup w with
  | none => rw [Table.total_of_none _ hw]
  | some ws =>
      rw [Table.total_of_lookup _ hw]
      refine le_add_of_nonneg_left ?_
      split
      · exact hpos
      · exact le_rfl

end Weights

/-! ### What takes a workspace up -/

/-- The workspace and the configuration that an accepted `CREATE`, `START` or `RESTART` was
admitted with. -/
def admits (cfg : Settings) (db : Db) : Step → Option (Nat × WorkspaceConfig)
  | .createWorkspace inp owner name config =>
      (createWorkspace db inp owner name config).toOption.map fun _ =>
        (Table.freshKey db.workspaces, config)
  | .createOperatorPinnedTestWorkspace inp owner executionNodeId suffix config =>
      (createOperatorPinnedTestWorkspace cfg db inp owner executionNodeId suffix config).toOption.map
        fun _ => (Table.freshKey db.workspaces, config)
  | .requestStartWorkspace inp wid owner user =>
      (requestStartWorkspace db inp wid owner user).toOption.map fun _ =>
        (wid, (db.latestConfig wid).getD {})
  | .requestRestartWorkspace inp wid owner user =>
      (requestRestartWorkspace db inp wid owner user).toOption.map fun _ =>
        (wid, (db.latestConfig wid).getD {})
  | _ => none

/-- The workspace is one of the owner's. -/
def OwnedBy (owner : Nat) (db : Db) (wid : Nat) : Prop :=
  ∃ ws, db.workspaces.lookup wid = some ws ∧ ws.ownerUserId = owner

/-- The workspace is one of the owner's, and not on its way up. -/
def IdleOf (owner : Nat) (db : Db) (wid : Nat) : Prop :=
  ∃ ws, db.workspaces.lookup wid = some ws ∧ ws.ownerUserId = owner ∧ ws.status.occupies = false

/-- A step that takes a workspace of the owner up: `checked` where a quota check stands before
it, with the workspace the check ignores and the configuration; `unchecked` where none does. -/
def TakesUp (owner : Nat) (checked : Option Nat → WorkspaceConfig → Prop) (unchecked : Nat → Prop)
    (db : Db) : Step → Prop
  | .createWorkspace _ o _ config | .createOperatorPinnedTestWorkspace _ o _ _ config =>
      o = owner → checked none config
  | .requestStartWorkspace _ wid _ _ | .requestRestartWorkspace _ wid _ _ =>
      OwnedBy owner db wid → checked (some wid) ((db.latestConfig wid).getD {})
  | .requestUpdateWorkspace _ wid _ _ _ => IdleOf owner db wid → unchecked wid
  | st => OnExecution (fun _ _ s => s.ws.ownerUserId = owner → s.ws.status.occupies = false →
      s.job.jobType.bringsUp = true → unchecked s.wid) db st

/-- What a step does to the owner's workspaces that are up or on their way up. -/
inductive UpChange (quotas : List Quota) (owner : Nat)
    (checked : Option Nat → WorkspaceConfig → Prop) (unchecked : Nat → Prop) (db : Db) :
    Option (Nat × WorkspaceConfig) → Table Nat Workspace → Prop
  | same : UpChange quotas owner checked unchecked db none db.workspaces
  | out {w : Nat} {ws : Workspace} {adm : Option (Nat × WorkspaceConfig)}
      (hadm : ∀ a ∈ adm, a.1 = w) (h : ws.ownerUserId = owner → ws.status.occupies = false) :
      UpChange quotas owner checked unchecked db adm (db.workspaces.insert w ws)
  | held {w : Nat} {old ws : Workspace} (hw : db.workspaces.lookup w = some old)
      (hown : old.ownerUserId = owner) (hocc : old.status.occupies = true) :
      UpChange quotas owner checked unchecked db none (db.workspaces.insert w ws)
  | admitted {w : Nat} {ws : Workspace} {config : WorkspaceConfig} {ignored : Option Nat}
      (hself : ignored = some w ∨ ignored = none ∧ db.workspaces.lookup w = none)
      (hrun : checkRunningWorkspaceQuota quotas db owner ignored = .ok ())
      (hcompute : checkConfigCompute quotas db owner config ignored = .ok ())
      (hfit : checked ignored config) :
      UpChange quotas owner checked unchecked db (some (w, config)) (db.workspaces.insert w ws)
  | unchecked {w : Nat} {old ws : Workspace} (hw : db.workspaces.lookup w = some old)
      (hfit : unchecked w) :
      UpChange quotas owner checked unchecked db none (db.workspaces.insert w ws)

section Up

variable {cfg : Settings} {quotas : List Quota} {owner : Nat}
variable {checked : Option Nat → WorkspaceConfig → Prop} {unchecked : Nat → Prop} {db : Db}

theorem not_occupies_of_settled {st : WorkspaceStatus} (h : st.isSettled = true) :
    st.occupies = false := by
  cases st <;> simp_all [WorkspaceStatus.isSettled, WorkspaceStatus.occupies]

/-- The execution of a step that is none of the requests. -/
theorem TakesUp.execution {st : Step} (h : TakesUp owner checked unchecked db st) {x}
    (hex : st.execution db = some x) :
    OnExecution (fun _ _ s => s.ws.ownerUserId = owner → s.ws.status.occupies = false →
      s.job.jobType.bringsUp = true → unchecked s.wid) db st := by
  cases st with
  | createWorkspace => cases hex
  | createOperatorPinnedTestWorkspace => cases hex
  | requestStartWorkspace => cases hex
  | requestRestartWorkspace => cases hex
  | requestUpdateWorkspace => cases hex
  | _ => exact h

/-- An execution, on a workspace that is up or not. -/
theorem UpChange.of_committed {entry : EntryPoint} {inp : WorkerInput} {jid : Nat} {s : Session}
    (hs : claimJob inp jid db = some s)
    (hc : (executeClaimedJob cfg inp entry s).committed = true)
    (hup : s.ws.ownerUserId = owner → s.ws.status.occupies = false →
      s.job.jobType.bringsUp = true → unchecked s.wid) :
    UpChange quotas owner checked unchecked db none
      (db.workspaces.insert s.wid (executeClaimedJob cfg inp entry s).session.ws) := by
  have hws := (claimJob_claimed hs).ws
  have hown := executeClaimedJob_owner cfg inp entry s
  by_cases ho : s.ws.ownerUserId = owner
  · cases hocc : s.ws.status.occupies with
    | true => exact .held hws ho hocc
    | false =>
        cases hjt : s.job.jobType.bringsUp with
        | true => exact .unchecked hws (hup ho hocc hjt)
        | false =>
            refine .out (by simp) fun _ => ?_
            rcases executeClaimedJob_not_up cfg inp hjt entry hc with h | h
            · rw [h, hocc]
            · exact not_occupies_of_settled h
  · refine .out (by simp) fun h => ?_
    rw [hown] at h
    exact absurd h ho

/-- An accepted request of another owner writes a row of another owner. -/
theorem UpChange.of_other {w : Nat} {ws : Workspace} {config : WorkspaceConfig}
    (h : ws.ownerUserId ≠ owner) :
    UpChange quotas owner checked unchecked db (some (w, config)) (db.workspaces.insert w ws) :=
  .out (by simp) fun ho => absurd ho h

/-- An accepted create, of either kind. -/
theorem UpChange.of_create {ws : Workspace} {ms : MeteredStep} {o : Nat} {config : WorkspaceConfig}
    (hup : TakesUp owner checked unchecked db ms.step) (howner : ws.ownerUserId = o)
    (h : (∃ inp, ms.step.Creates inp o config) ∧
      ∀ c ∈ createChecks quotas db o ms.monthSecs config, c = .ok ()) :
    UpChange quotas owner checked unchecked db (some (Table.freshKey db.workspaces, config))
      (db.workspaces.insert (Table.freshKey db.workspaces) ws) := by
  obtain ⟨⟨inp, hreq⟩, hchecks⟩ := h
  have hfit : o = owner → checked none config := by
    generalize ms.step = st at hup hreq
    cases hreq <;> exact hup
  by_cases ho : o = owner
  · subst ho
    have hrun := hchecks _ (List.mem_cons_of_mem _ List.mem_cons_self)
    have hcompute : checkConfigCompute quotas db o config none = .ok () :=
      hchecks _ (by simp [createChecks])
    exact .admitted (.inr ⟨rfl, Table.lookup_freshKey _⟩) (mapError_eq_ok.mp hrun) hcompute
      (hfit rfl)
  · exact .of_other fun h => ho (howner.symm.trans h)

theorem UpChange.of_start {w : Nat} {ws : Workspace} {monthSecs : Int} {o : Nat}
    (howner : ws.ownerUserId = o)
    (hchecks : ∀ c ∈ startChecks quotas db o monthSecs w, c = .ok ())
    (hfit : o = owner → checked (some w) ((db.latestConfig w).getD {})) :
    UpChange quotas owner checked unchecked db (some (w, (db.latestConfig w).getD {}))
      (db.workspaces.insert w ws) := by
  by_cases ho : o = owner
  · subst ho
    refine .admitted (.inl rfl) (mapError_eq_ok.mp (hchecks _ List.mem_cons_self))
      (hchecks _ ?_) (hfit rfl)
    simp [startChecks]
  · exact .of_other fun h => ho (howner.symm.trans h)

/-- A step that asks no quota. -/
theorem UpChange.of_unchecked {st : Step} {t : Table Nat Workspace} (hst : st.isChecked = false)
    (hw : StepWrite cfg db st t) (h : TakesUp owner checked unchecked db st) :
    UpChange quotas owner checked unchecked db none t := by
  cases hw with
  | intent hw =>
      cases hw with
      | none => exact .same
      | created hreq => cases hreq <;> cases hst
      | started hreq => rw [hreq] at hst; cases hst
      | restarted hreq => rw [hreq] at hst; cases hst
      | left _ _ hnew =>
          refine .out (by simp) fun _ => ?_
          rcases hnew with ⟨rfl, -⟩ | rfl <;> rfl
      | @updated _ wid o _ _ ws hreq hws howner hold =>
          subst hreq
          by_cases ho : o = owner
          · cases hocc : ws.status.occupies with
            | true => exact .held hws (howner.trans ho) hocc
            | false => exact .unchecked hws (h ⟨ws, hws, howner.trans ho, hocc⟩)
          · exact .out (by simp) fun h => absurd (howner.symm.trans h) ho
  | committed hex hs hc => exact .of_committed hs hc (h.execution hex _ hex _ hs)

/-- **What takes a workspace up**, for every step of the system. -/
theorem quotaStep_up (cfg : Settings) (hwf : WellFormed db) {ms : MeteredStep}
    (h : TakesUp owner checked unchecked db ms.step) :
    UpChange quotas owner checked unchecked db (admits cfg db (ms.resolve quotas db))
      (quotaStep cfg quotas db ms).workspaces := by
  have hw := step_write cfg hwf (ms.resolve quotas db)
  change StepWrite cfg db _ (quotaStep cfg quotas db ms).workspaces at hw
  unfold quotaStep at hw ⊢
  generalize hst : ms.resolve quotas db = st at hw
  cases st with
  | createWorkspace inp o name config =>
      simp only [step, admits]
      cases hr : createWorkspace db inp o name config with
      | error e => exact .same
      | ok db' =>
          obtain ⟨href, ws, howner, -, hdb⟩ := createWorkspace_admitted hr
          show UpChange _ _ _ _ _ _ db'.workspaces
          rw [hdb]
          exact .of_create h howner (resolve_create (hst ▸ .scheduled inp o name config) href)
  | createOperatorPinnedTestWorkspace inp o executionNodeId suffix config =>
      simp only [step, admits]
      cases hr : createOperatorPinnedTestWorkspace cfg db inp o executionNodeId suffix config with
      | error e => exact .same
      | ok db' =>
          obtain ⟨href, ws, howner, -, hdb⟩ := createOperatorPinnedTestWorkspace_admitted hr
          show UpChange _ _ _ _ _ _ db'.workspaces
          rw [hdb]
          exact .of_create h howner
            (resolve_create (hst ▸ .pinned inp o executionNodeId suffix config) href)
  | requestStartWorkspace inp wid o user =>
      simp only [step, admits]
      cases hr : requestStartWorkspace db inp wid o user with
      | error e => exact .same
      | ok db' =>
          obtain ⟨href, ws, hws, howner, -, hdb⟩ := requestStartWorkspace_admitted hr
          obtain ⟨⟨inp', hreq⟩, hchecks⟩ := resolve_start hst href
          rw [hreq] at h
          show UpChange _ _ _ _ _ _ db'.workspaces
          rw [hdb]
          exact .of_start howner hchecks fun ho => h ⟨ws, hws, howner.trans ho⟩
  | requestRestartWorkspace inp wid o user =>
      simp only [step, admits]
      cases hr : requestRestartWorkspace db inp wid o user with
      | error e => exact .same
      | ok db' =>
          obtain ⟨href, ws, hws, howner, -, hdb⟩ := requestRestartWorkspace_admitted hr
          obtain ⟨⟨inp', hreq⟩, hchecks⟩ := resolve_restart hst href
          rw [hreq] at h
          show UpChange _ _ _ _ _ _ db'.workspaces
          rw [hdb]
          exact .of_start howner hchecks fun ho => h ⟨ws, hws, howner.trans ho⟩
  | _ => exact .of_unchecked rfl hw (resolve_unchecked rfl hst ▸ h)

/-! ### The weights under a limit -/

section Limit

/-- What is noted of each workspace, after an admission. -/
def reweigh {β : Type} (demand : WorkspaceConfig → β) (weight : Nat → β)
    (adm : Option (Nat × WorkspaceConfig)) : Nat → β :=
  adm.elim weight fun a => Function.update weight a.1 (demand a.2)

variable {M : Type} [AddCommMonoid M] [PartialOrder M] [IsOrderedAddMonoid M]

/-- Every change keeps a limit on the total weight, when what is taken up fits beside the rest. -/
theorem UpChange.upTotal_le {demand : WorkspaceConfig → M} {weight : Nat → M} {limit : M}
    {adm : Option (Nat × WorkspaceConfig)} {t : Table Nat Workspace}
    (h : UpChange quotas owner checked unchecked db adm t)
    (hpos : ∀ w, 0 ≤ weight w) (hdemand : ∀ config, 0 ≤ demand config)
    (hle : upTotal owner weight db.workspaces ≤ limit)
    (hchecked : ∀ w config ignored, (ignored = some w ∨
        ignored = none ∧ db.workspaces.lookup w = none) → checked ignored config →
      checkRunningWorkspaceQuota quotas db owner ignored = .ok () →
      checkConfigCompute quotas db owner config ignored = .ok () →
      demand config + upTotal owner weight (db.workspaces.erase w) ≤ limit)
    (hunchecked : ∀ w, unchecked w →
      weight w + upTotal owner weight db.workspaces ≤ limit) :
    upTotal owner (reweigh demand weight adm) t ≤ limit := by
  cases h with
  | same => exact hle
  | @out w ws adm hadm h =>
      have hrest : upTotal owner (reweigh demand weight adm) (db.workspaces.erase w) =
          upTotal owner weight (db.workspaces.erase w) := by
        refine upTotal_erase_congr fun v hv => ?_
        cases adm with
        | none => rfl
        | some a => exact Function.update_of_ne (fun h => hv (h.trans (hadm a rfl))) _ _
      rw [upTotal_insert_out h, hrest]
      exact (upTotal_erase_le (hpos w)).trans hle
  | @held w old ws hw hown hocc =>
      refine (upTotal_insert_le (hpos w)).trans ?_
      rw [← upTotal_of_held hw hown hocc]
      exact hle
  | @admitted w ws config ignored hself hrun hcompute hfit =>
      have hw : reweigh demand weight (some (w, config)) w = demand config :=
        Function.update_self ..
      have hrest : upTotal owner (reweigh demand weight (some (w, config)))
          (db.workspaces.erase w) = upTotal owner weight (db.workspaces.erase w) :=
        upTotal_erase_congr fun v hv => Function.update_of_ne hv _ _
      refine (upTotal_insert_le (by rw [hw]; exact hdemand config)).trans ?_
      rw [hw, hrest]
      exact hchecked w config ignored hself hfit hrun hcompute
  | @unchecked w old ws hw hfit =>
      refine (upTotal_insert_le (hpos w)).trans ?_
      exact (add_le_add le_rfl (upTotal_erase_le (hpos w))).trans (hunchecked w hfit)

end Limit

end Up

/-! ### The bound -/

section Running

variable (owner m : Nat)

/-- The owner's workspaces that run or are on their way up. -/
def occupyingWorkspaces (db : Db) : Nat := ownedCount db owner WorkspaceStatus.occupies none

/-- What the check lets pass also fits when `CREATING` and `UPDATING` count. -/
def HiddenFit (db : Db) (ignored : Option Nat) : Prop :=
  ownedCount db owner WorkspaceStatus.countsRunning ignored < m →
    ownedCount db owner WorkspaceStatus.occupies ignored < m

/-- A step that takes a workspace of the owner up finds room for it: a checked request where the
check misses no workspace that matters, the others outright. -/
def UpFits (db : Db) (st : Step) : Prop :=
  TakesUp owner (fun ignored _ => HiddenFit owner m db ignored)
    (fun _ => occupyingWorkspaces owner db < m) db st

variable {cfg : Settings} {quotas : List Quota} {owner m}

theorem checkRunningWorkspaceQuota_ok {db : Db} {wid : Option Nat}
    (hm : (getEffectiveQuota quotas (some owner) none).bind (·.maxRunningWorkspaces) = some m)
    (h : checkRunningWorkspaceQuota quotas db owner wid = .ok ()) :
    ownedCount db owner WorkspaceStatus.countsRunning wid < m := by
  unfold checkRunningWorkspaceQuota at h
  simp only [hm] at h
  split at h
  · cases h
  · rename_i hlt
    exact Nat.lt_of_not_le hlt

/-- The number is the total with weight one each. -/
theorem occupyingWorkspaces_eq (db : Db) :
    occupyingWorkspaces owner db = upTotal owner (fun _ => 1) db.workspaces :=
  ownedCount_none db owner WorkspaceStatus.occupies

theorem quotaStep_occupyingWorkspaces {db : Db} (hwf : WellFormed db)
    (hm : (getEffectiveQuota quotas (some owner) none).bind (·.maxRunningWorkspaces) = some m)
    (hle : occupyingWorkspaces owner db ≤ m) {ms : MeteredStep}
    (hfit : UpFits owner m db ms.step) :
    occupyingWorkspaces owner (quotaStep cfg quotas db ms) ≤ m := by
  rw [occupyingWorkspaces_eq] at hle ⊢
  have hone : ∀ adm, reweigh (fun _ => 1) (fun _ => 1) adm = fun _ : Nat => (1 : Nat) := by
    rintro (_ | a)
    · rfl
    · exact Function.update_eq_self a.1 _
  rw [← hone (admits cfg db (ms.resolve quotas db))]
  refine (quotaStep_up cfg hwf hfit).upTotal_le (fun _ => Nat.zero_le _) (fun _ => Nat.zero_le _) hle
    (fun w config ignored hself hhidden hrun _ => ?_) fun w hroom => ?_
  · have hlt := hhidden (checkRunningWorkspaceQuota_ok hm hrun)
    rcases hself with rfl | ⟨rfl, hnone⟩
    · rw [ownedCount_some] at hlt
      rw [Nat.add_comm]
      exact hlt
    · rw [ownedCount_none, ← Table.total_of_none _ hnone] at hlt
      rw [Nat.add_comm]
      exact hlt
  · rw [occupyingWorkspaces_eq] at hroom
    rw [Nat.add_comm]
    exact hroom

/-- **The running-workspace quota.** From an installation without workspaces, an owner with
`max_running_workspaces = m` never has more than `m` workspaces that run or are on their way up,
in every run whose steps find room for what they take up. -/
theorem running_quota_holds {nodes : Table Nat ExecutionNode} {topologies : List Int}
    {steps : List MeteredStep}
    (hm : (getEffectiveQuota quotas (some owner) none).bind (·.maxRunningWorkspaces) = some m)
    (h : Along (quotaStep cfg quotas) (fun db ms => UpFits owner m db ms.step)
      (initDb nodes topologies) steps) :
    Always (quotaStep cfg quotas) (fun db => occupyingWorkspaces owner db ≤ m)
      (initDb nodes topologies) steps := by
  have hall := always_of_along (Q := fun db => WellFormed db ∧ occupyingWorkspaces owner db ≤ m)
    ⟨wellFormed_initDb nodes topologies, Nat.zero_le m⟩
    (fun db ms hq hfit => ⟨wellFormed_quotaStep cfg quotas hq.1 ms,
      quotaStep_occupyingWorkspaces hq.1 hm hq.2 hfit⟩) h
  exact hall.mono fun _ hq => hq.2

end Running

/-- One running workspace for user 7. -/
def oneRunning : List Quota :=
  [{ scopeType := .user, scopeId := some 7, maxRunningWorkspaces := some 1 }]

/-- An orchestrator whose bring-ups and stops succeed. -/
def stoppingOrch : OrchestratorService :=
  { sampleOrch with stopWorkspaceRuntime := .returned { success := true } }

/-- Create, bring up, stop, start again. -/
def startAgainRun : List MeteredStep := ([
    .createWorkspace { now := 0 } 7 "a" {},
    .processNextQueuedJob (sampleWorker 1 stoppingOrch) 1,
    .requestStopWorkspace { now := 2 } 1 7 7,
    .processNextQueuedJob (sampleWorker 3 stoppingOrch) 2,
    .requestStartWorkspace { now := 4 } 1 7 7] : List Step).map ({ step := · })

/-- Each request finds the place of the stopped workspace free. -/
theorem started_again_fits :
    Along (quotaStep {} oneRunning) (fun db ms => UpFits 7 1 db ms.step) sampleDb startAgainRun ∧
    Always (quotaStep {} oneRunning) (fun db => occupyingWorkspaces 7 db ≤ 1) sampleDb
      startAgainRun := by
  have hexec : ∀ db st, st.claimPasses (fun _ s => s.ws.status.occupies || !s.job.jobType.bringsUp)
      db = true → OnExecution (fun _ _ s => s.ws.ownerUserId = 7 → s.ws.status.occupies = false →
        s.job.jobType.bringsUp = true → occupyingWorkspaces 7 db < 1) db st := by
    refine fun db st => OnExecution.of_claimPasses (fun _ _ s h _ hocc hjt => ?_) db st
    simp [hocc, hjt] at h
  have halong : Along (quotaStep {} oneRunning) (fun db ms => UpFits 7 1 db ms.step) sampleDb
      startAgainRun := by
    refine ⟨fun _ => ?_, hexec _ _ ?_, hexec _ _ ?_, hexec _ _ ?_, fun _ => ?_, trivial⟩
    · unfold HiddenFit; decide +kernel
    · decide +kernel
    · decide +kernel
    · decide +kernel
    · unfold HiddenFit; decide +kernel
  exact ⟨halong, running_quota_holds rfl halong⟩

/-- The first workspace is stopped and the second comes up; then the first is updated. -/
def updateStoppedRun : List MeteredStep := ([
    .createWorkspace { now := 0 } 7 "a" {},
    .processNextQueuedJob (sampleWorker 1 stoppingOrch) 1,
    .requestStopWorkspace { now := 2 } 1 7 7,
    .processNextQueuedJob (sampleWorker 3 stoppingOrch) 2,
    .createWorkspace { now := 4 } 7 "b" {},
    .processNextQueuedJob (sampleWorker 5 stoppingOrch) 3,
    .requestUpdateWorkspace { now := 6 } 1 7 7 {}] : List Step).map ({ step := · })

theorem updated_workspace_exceeds_quota :
    ¬ ∀ (cfg : Settings) (quotas : List Quota) (owner m : Nat) (steps : List MeteredStep),
      (getEffectiveQuota quotas (some owner) none).bind (·.maxRunningWorkspaces) = some m →
      Always (quotaStep cfg quotas) (fun db => occupyingWorkspaces owner db ≤ m) sampleDb
        steps := by
  intro h
  have hend := (h {} oneRunning 7 1 updateStoppedRun rfl).last
  revert hend
  decide +kernel

end Devnest
