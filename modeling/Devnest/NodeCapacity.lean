import Mathlib.Algebra.BigOperators.Group.Finset.Basic
import Mathlib.Algebra.Order.Monoid.Prod
import Devnest.ReservationLedger

/-!
# What is booked on a node

A node's load is what the runtime rows pinned to it have booked, over the
workspaces that are not `STOPPED`, `ERROR` or `DELETED`: a slot each, and
the three reserved amounts. `select_node_for_workspace` compares it with the
node's capacity columns.

`load_eq` splits the load at one workspace, and `loadBeside_congr` says that
the rest does not see what that workspace's rows hold; everything a step
does to a node's load follows from the two.
-/

namespace Devnest

/-! ## Load -/

/-- Slots, cpu, memory and disk, compared entry by entry. -/
abbrev Load := Int × ℚ × Int × Int

/-- What a row holds while its workspace counts: one slot and its reservation. -/
def WorkspaceRuntime.booking (r : WorkspaceRuntime) : Load := (1, r.reserved)

/-- What workspace `w` has booked on the node `key`. -/
def Db.booked (db : Db) (key : String) (w : Nat) : Load :=
  match db.runtimes.lookup w, db.workspaces.lookup w with
  | some r, some ws =>
      if r.nodeId = some key ∧ key ≠ "" ∧ ws.status.isSettled = false then r.booking else 0
  | _, _ => 0

/-- `active_workload_count_subquery` with the three `reserved_*_sum_subquery`. -/
def Db.load (db : Db) (key : String) : Load :=
  ∑ w ∈ db.runtimes.keys.toFinset, db.booked key w

/-- The load without workspace `w`. -/
def Db.loadBeside (db : Db) (key : String) (w : Nat) : Load :=
  ∑ v ∈ db.runtimes.keys.toFinset.erase w, db.booked key v

section Load

variable {db db' : Db} {key : String} {w : Nat}

theorem booked_of_no_row (h : db.runtimes.lookup w = none) : db.booked key w = 0 := by
  simp [Db.booked, h]

theorem booked_of_settled {ws : Workspace} (hws : db.workspaces.lookup w = some ws)
    (h : ws.status.isSettled = true) : db.booked key w = 0 := by
  unfold Db.booked
  rw [hws]
  cases db.runtimes.lookup w with
  | none => rfl
  | some r => simp [h]

/-- A workspace that counts has booked its row's holding on the row's node, and nothing
elsewhere. -/
theorem booked_of_counted {ws : Workspace} {r : WorkspaceRuntime}
    (hws : db.workspaces.lookup w = some ws) (hr : db.runtimes.lookup w = some r)
    (h : ws.status.isSettled = false) :
    db.booked key w = if r.nodeId = some key ∧ key ≠ "" then r.booking else 0 := by
  simp [Db.booked, hws, hr, h]

theorem load_eq (db : Db) (key : String) (w : Nat) :
    db.load key = db.loadBeside key w + db.booked key w := by
  unfold Db.load Db.loadBeside
  by_cases hw : w ∈ db.runtimes.keys.toFinset
  · exact (Finset.sum_erase_add _ _ hw).symm
  · have hnone : db.runtimes.lookup w = none :=
      AList.lookup_eq_none.mpr fun hmem => hw (List.mem_toFinset.mpr hmem)
    rw [Finset.erase_eq_of_notMem hw, booked_of_no_row hnone, add_zero]

/-- The sum may run over any larger set of other workspaces. -/
theorem loadBeside_eq_sum {s : Finset Nat} (hs : db.runtimes.keys.toFinset ⊆ s) :
    db.loadBeside key w = ∑ v ∈ s.erase w, db.booked key v := by
  refine Finset.sum_subset (Finset.erase_subset_erase w hs) fun v hv hnot => ?_
  refine booked_of_no_row (AList.lookup_eq_none.mpr fun hmem => hnot ?_)
  exact Finset.mem_erase.mpr ⟨(Finset.mem_erase.mp hv).1, List.mem_toFinset.mpr hmem⟩

theorem loadBeside_congr (h : ∀ v, v ≠ w → db'.booked key v = db.booked key v) :
    db'.loadBeside key w = db.loadBeside key w := by
  have hleft : db'.runtimes.keys.toFinset ⊆
      db'.runtimes.keys.toFinset ∪ db.runtimes.keys.toFinset := Finset.subset_union_left
  have hright : db.runtimes.keys.toFinset ⊆
      db'.runtimes.keys.toFinset ∪ db.runtimes.keys.toFinset := Finset.subset_union_right
  rw [loadBeside_eq_sum hleft, loadBeside_eq_sum hright]
  exact Finset.sum_congr rfl fun v hv => h v (Finset.mem_erase.mp hv).1

/-- Where only `w` changes its booking, and does not book more, the load does not grow. -/
theorem load_le_of_booked_le (h : ∀ v, v ≠ w → db'.booked key v = db.booked key v)
    (hw : db'.booked key w ≤ db.booked key w) : db'.load key ≤ db.load key := by
  rw [load_eq db' key w, load_eq db key w, loadBeside_congr h]
  exact add_le_add_right hw _

/-- Bookings are read from the rows of the two tables. -/
theorem booked_congr {v : Nat} (hrt : db'.runtimes.lookup v = db.runtimes.lookup v)
    (hws : (db'.workspaces.lookup v).map (·.status) = (db.workspaces.lookup v).map (·.status)) :
    db'.booked key v = db.booked key v := by
  unfold Db.booked
  rw [hrt]
  cases db.runtimes.lookup v with
  | none => rfl
  | some r =>
      cases h : db'.workspaces.lookup v with
      | none =>
          rw [h] at hws
          rw [Option.map_eq_none_iff.mp hws.symm]
      | some ws' =>
          rw [h] at hws
          obtain ⟨ws, hws, heq⟩ := Option.map_eq_some_iff.mp hws.symm
          rw [hws]
          dsimp only
          rw [heq]

end Load

/-! ## The scheduler -/

/-- The capacity columns of an `execution_node` row, with the table's check constraints. -/
structure NodeCapacity where
  maxWorkspaces : Nat
  allocatableCpu : ℚ
  allocatableMemoryMb : Nat
  allocatableDiskMb : Nat
  cpu_nonneg : 0 ≤ allocatableCpu

def NodeCapacity.limits (cap : NodeCapacity) : Load :=
  (cap.maxWorkspaces, cap.allocatableCpu, cap.allocatableMemoryMb, cap.allocatableDiskMb)

/-- What the query draws from its surroundings. -/
structure SchedulerInput where
  /-- `devnest_workspace_required_slots`. -/
  requiredSlots : Int := 1
  /-- The predicates that only narrow the pool: the provider filter, the primary-node gate, the
  heartbeat's age and the host's resources. -/
  inPool : Nat → Bool := fun _ => true
  /-- The texts of the two errors. -/
  invalidRequest : String := ""
  noNode : String := ""

/-- One workspace as the settings size it. -/
def workspaceUnit (cfg : Settings) : Load :=
  (1, cfg.devnestWorkspaceRequiredCpu, cfg.devnestWorkspaceRequiredMemoryMb,
    cfg.devnestWorkspaceRequiredDiskMb)

/-- `workspace_slot_claim_count_subquery`. -/
def workspaceSlotClaimCount (db : Db) (nid : Nat) : Nat :=
  Table.rowCount (fun ws => ws.executionNodeId = some nid && !ws.status.isSettled) db.workspaces

/-- A candidate of the query, with the columns it is ordered by. -/
structure Candidate where
  node : ExecutionNode
  residual : ℚ × Int × Int
  active : Int

section Scheduler

variable (cfg : Settings) (caps : Table String NodeCapacity) (inp : SchedulerInput) (db : Db)

/-- The `WHERE` clause on one catalog row. -/
def candidate? (nid : Nat) (node : ExecutionNode) : Option Candidate :=
  match caps.lookup node.nodeKey with
  | none => none
  | some cap =>
      let used := db.load node.nodeKey
      let freeCpu := cap.allocatableCpu - used.2.1
      let freeMemory := cap.allocatableMemoryMb - used.2.2.1
      let freeDisk := cap.allocatableDiskMb - used.2.2.2
      if node.schedulable && node.status = "READY" && inp.inPool nid &&
          cfg.devnestWorkspaceRequiredCpu ≤ freeCpu &&
          cfg.devnestWorkspaceRequiredMemoryMb ≤ freeMemory &&
          cfg.devnestWorkspaceRequiredDiskMb ≤ freeDisk &&
          (workspaceSlotClaimCount db nid : Int) ≤ cap.maxWorkspaces - inp.requiredSlots &&
          used.1 ≤ cap.maxWorkspaces - inp.requiredSlots then
        some
          { node := node
            residual := (freeCpu - cfg.devnestWorkspaceRequiredCpu,
              freeMemory - cfg.devnestWorkspaceRequiredMemoryMb,
              freeDisk - cfg.devnestWorkspaceRequiredDiskMb)
            active := used.1 }
      else none

/-- The `ORDER BY` clause: least residual cpu, memory and disk, then most workloads, then the
node's key. -/
def packsBefore (a b : Candidate) : Bool :=
  if a.residual.1 ≠ b.residual.1 then a.residual.1 < b.residual.1
  else if a.residual.2.1 ≠ b.residual.2.1 then a.residual.2.1 < b.residual.2.1
  else if a.residual.2.2 ≠ b.residual.2.2 then a.residual.2.2 < b.residual.2.2
  else if a.active ≠ b.active then b.active < a.active
  else a.node.nodeKey < b.node.nodeKey

/-- The first row of the ordered query. -/
def firstCandidate : List Candidate → Option Candidate
  | [] => none
  | a :: l =>
      match firstCandidate l with
      | none => some a
      | some b => if packsBefore b a then some b else some a

/-- `select_node_for_workspace`, for the sizes `schedule_workspace` asks for. -/
def selectNodeForWorkspace : SchedulerResult :=
  if cfg.devnestWorkspaceRequiredCpu ≤ 0 || cfg.devnestWorkspaceRequiredMemoryMb ≤ 0 ||
      cfg.devnestWorkspaceRequiredDiskMb ≤ 0 || inp.requiredSlots ≤ 0 then
    .invalidRequest inp.invalidRequest
  else match firstCandidate
      (db.executionNodes.entries.filterMap fun e => candidate? cfg caps inp db e.1 e.2) with
    | none => .noNode inp.noNode
    | some c => .chosen c.node

end Scheduler

theorem firstCandidate_mem {l : List Candidate} {c : Candidate} (h : firstCandidate l = some c) :
    c ∈ l := by
  induction l generalizing c with
  | nil => cases h
  | cons a l ih =>
      unfold firstCandidate at h
      split at h
      · rw [← Option.some.inj h]
        exact List.mem_cons_self
      · rename_i b hb
        split at h
        · rw [← Option.some.inj h]
          exact List.mem_cons_of_mem a (ih hb)
        · rw [← Option.some.inj h]
          exact List.mem_cons_self

theorem load_le_iff {a b : Load} :
    a ≤ b ↔ a.1 ≤ b.1 ∧ a.2.1 ≤ b.2.1 ∧ a.2.2.1 ≤ b.2.2.1 ∧ a.2.2.2 ≤ b.2.2.2 := Iff.rfl

/-- **The scheduler's check**: on the node it chooses there is room for one workspace, by the
rows the query read. -/
theorem selectNodeForWorkspace_fits {cfg : Settings} {caps : Table String NodeCapacity}
    {inp : SchedulerInput} {db : Db} {node : ExecutionNode}
    (h : selectNodeForWorkspace cfg caps inp db = .chosen node) :
    ∃ cap, caps.lookup node.nodeKey = some cap ∧
      db.load node.nodeKey + workspaceUnit cfg ≤ cap.limits := by
  unfold selectNodeForWorkspace at h
  split at h
  · cases h
  · rename_i hpos
    simp only [Bool.or_eq_true, decide_eq_true_eq, not_or, not_le] at hpos
    split at h
    · cases h
    · rename_i c hc
      obtain rfl : c.node = node := by injection h
      obtain ⟨⟨nid, row⟩, -, hcand⟩ := List.mem_filterMap.mp (firstCandidate_mem hc)
      unfold candidate? at hcand
      split at hcand
      · cases hcand
      · rename_i cap hcap
        dsimp only at hcand
        split at hcand
        · rename_i hfits
          rw [← Option.some.inj hcand]
          refine ⟨cap, hcap, ?_⟩
          simp only [Bool.and_eq_true, decide_eq_true_eq] at hfits
          obtain ⟨⟨⟨⟨⟨-, hcpu⟩, hmem⟩, hdisk⟩, -⟩, hslots⟩ := hfits
          have hslot := hpos.2
          refine load_le_iff.mpr ⟨?_, ?_, ?_, ?_⟩
          · show (db.load row.nodeKey).1 + 1 ≤ (cap.maxWorkspaces : Int)
            omega
          · show (db.load row.nodeKey).2.1 + cfg.devnestWorkspaceRequiredCpu ≤ cap.allocatableCpu
            exact le_sub_iff_add_le'.mp hcpu
          · show (db.load row.nodeKey).2.2.1 + cfg.devnestWorkspaceRequiredMemoryMb ≤
              (cap.allocatableMemoryMb : Int)
            omega
          · show (db.load row.nodeKey).2.2.2 + cfg.devnestWorkspaceRequiredDiskMb ≤
              (cap.allocatableDiskMb : Int)
            omega
        · cases hcand

end Devnest
