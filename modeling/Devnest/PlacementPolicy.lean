import Devnest.NodeCapacity
import Mathlib.Data.Prod.Lex
import Mathlib.Data.String.Basic
import Mathlib.Data.List.Sort
import Mathlib.Algebra.Order.BigOperators.Group.Finset
import Mathlib.Tactic.NormNum

/-!
# Placement in SQL and in Python

The rule that picks a node is written twice. `select_node_for_workspace` is a
query: raw differences between capacity and reservations, two bounds on the
slots, five columns in its `ORDER BY`. `rank_candidate_nodes` is what
`explain_placement_decision` shows: it clamps and rounds, takes the larger of
the two slot counts and sorts tuples. Both docstrings say that the two must
stay aligned.

`placement_agrees` says that they are. Where the clamps and the rounding could
change a number, the node is out on both sides or the number is exact.
-/

namespace Devnest

open PyText

/-! ## The pool -/

/-- `WorkspaceComputeRequest`. -/
structure WorkspaceComputeRequest where
  requestedCpu : ℚ
  requestedMemoryMb : Int
  requestedDiskMb : Int
  requestedSlots : Int := 1

def WorkspaceComputeRequest.isPositive (req : WorkspaceComputeRequest) : Bool :=
  0 < req.requestedCpu && 0 < req.requestedMemoryMb && 0 < req.requestedDiskMb &&
    0 < req.requestedSlots

/-- The settings of the placement pool; `hostHealthy` is what the host telemetry columns say. -/
structure PoolSettings where
  devnestNodeProvider : String := "all"
  devnestEnableMultiNodeScheduling : Bool := false
  hostHealthy : Nat → Bool := fun _ => true

section Pool

variable (pool : PoolSettings) (db : Db)

/-- `_provider_type_clause`. -/
def providerTypeClause (node : ExecutionNode) : Bool :=
  let mode := lower (strip (if pool.devnestNodeProvider = "" then "all"
    else pool.devnestNodeProvider))
  if mode = "local" then node.providerType = "local" || node.providerType = "unspecified"
  else if mode = "ec2" then node.providerType = "ec2"
  else true

/-- `_ready_schedulable_provider_predicates`. -/
def readySchedulableProvider (node : ExecutionNode) : Bool :=
  node.schedulable && node.status = "READY" && providerTypeClause pool node

/-- `_single_node_primary_id_clause`: the least id among the ready nodes. -/
def singleNodePrimaryIdClause (nid : Nat) : Bool :=
  pool.devnestEnableMultiNodeScheduling ||
    db.executionNodes.entries.all fun e => !readySchedulableProvider pool e.2 || nid ≤ e.1

/-- `_schedulable_base_predicates`. -/
def schedulableBase (nid : Nat) (node : ExecutionNode) : Bool :=
  readySchedulableProvider pool node && singleNodePrimaryIdClause pool db nid &&
    pool.hostHealthy nid

/-- `list_schedulable_nodes`. -/
def listSchedulableNodes : List (Nat × ExecutionNode) :=
  ((db.executionNodes.entries.filter fun e => schedulableBase pool db e.1 e.2).map
    fun e => (e.1, e.2)).mergeSort fun a b => decide (a.2.nodeKey ≤ b.2.nodeKey)

end Pool

/-! ## The query -/

section Query

variable (caps : Table String NodeCapacity) (base : Nat → ExecutionNode → Bool) (db : Db)
  (req : WorkspaceComputeRequest)

/-- The `WHERE` clause of `select_node_for_workspace` on one catalog row. -/
def candidateFor? (nid : Nat) (node : ExecutionNode) : Option Candidate :=
  match caps.lookup node.nodeKey with
  | none => none
  | some cap =>
      let used := db.load node.nodeKey
      let freeCpu := cap.allocatableCpu - used.2.1
      let freeMemory := cap.allocatableMemoryMb - used.2.2.1
      let freeDisk := cap.allocatableDiskMb - used.2.2.2
      if base nid node && req.requestedCpu ≤ freeCpu && req.requestedMemoryMb ≤ freeMemory &&
          req.requestedDiskMb ≤ freeDisk &&
          (workspaceSlotClaimCount db nid : Int) ≤ cap.maxWorkspaces - req.requestedSlots &&
          used.1 ≤ cap.maxWorkspaces - req.requestedSlots then
        some
          { node := node
            residual := (freeCpu - req.requestedCpu, freeMemory - req.requestedMemoryMb,
              freeDisk - req.requestedDiskMb)
            active := used.1 }
      else none

def candidatesFor : List Candidate :=
  db.executionNodes.entries.filterMap fun e => candidateFor? caps base db req e.1 e.2

/-- `select_node_for_workspace`, for any request. -/
def selectNodeFor (invalidRequest noNode : String) : SchedulerResult :=
  if !req.isPositive then .invalidRequest invalidRequest
  else match firstCandidate (candidatesFor caps base db req) with
    | none => .noNode noNode
    | some c => .chosen c.node

end Query

/-- **The scheduler of the system's model** asks this query for the sizes of the settings. -/
theorem selectNodeForWorkspace_eq (cfg : Settings) (caps : Table String NodeCapacity)
    (inp : SchedulerInput) (db : Db) :
    selectNodeForWorkspace cfg caps inp db =
      selectNodeFor caps
        (fun nid node => node.schedulable && node.status = "READY" && inp.inPool nid) db
        ⟨cfg.devnestWorkspaceRequiredCpu, cfg.devnestWorkspaceRequiredMemoryMb,
          cfg.devnestWorkspaceRequiredDiskMb, inp.requiredSlots⟩ inp.invalidRequest inp.noNode := by
  unfold selectNodeForWorkspace selectNodeFor
  have hvalid : (cfg.devnestWorkspaceRequiredCpu ≤ 0 || cfg.devnestWorkspaceRequiredMemoryMb ≤ 0 ||
      cfg.devnestWorkspaceRequiredDiskMb ≤ 0 || inp.requiredSlots ≤ 0) =
      !(WorkspaceComputeRequest.isPositive ⟨cfg.devnestWorkspaceRequiredCpu,
        cfg.devnestWorkspaceRequiredMemoryMb, cfg.devnestWorkspaceRequiredDiskMb,
        inp.requiredSlots⟩) := by
    simp only [WorkspaceComputeRequest.isPositive, Bool.not_and, ← decide_not, not_lt]
  rw [hvalid]
  rfl

/-! ## The policy -/

/-- The tuple of `scheduling_sort_key_packing`, compared entry by entry. -/
abbrev PackingKey := ℚ ×ₗ ℤ ×ₗ ℤ ×ₗ ℤ ×ₗ String

/-- `round(x)`: to the nearest integer, a half to the even one. -/
def roundHalfEven (q : ℚ) : Int :=
  let low := q.floor
  if q - low < 1 / 2 then low
  else if 1 / 2 < q - low then low + 1
  else if low % 2 = 0 then low else low + 1

/-- `round(x, 6)`. -/
def roundSix (q : ℚ) : ℚ := roundHalfEven (q * 1000000) / 1000000

/-- `scheduling_sort_key_packing`. -/
def schedulingSortKeyPacking (freeCpu : ℚ) (freeMemory freeDisk workloads : Int)
    (req : WorkspaceComputeRequest) (nodeKey : String) : PackingKey :=
  toLex (roundSix (freeCpu - req.requestedCpu), toLex (freeMemory - req.requestedMemoryMb,
    toLex (freeDisk - req.requestedDiskMb, toLex (-workloads, strip nodeKey))))

/-- `can_fit_workspace_effective`. -/
def canFitWorkspaceEffective (freeCpu : ℚ) (freeMemory freeDisk : Int)
    (req : WorkspaceComputeRequest) : Bool :=
  if freeCpu < req.requestedCpu then false
  else if freeMemory < req.requestedMemoryMb then false
  else if freeDisk < req.requestedDiskMb then false
  else true

/-- `_is_v1_scheduling_candidate`. -/
def isV1SchedulingCandidate (node : ExecutionNode) : Bool :=
  node.schedulable && strip node.status = "READY"

section Policy

variable (caps : Table String NodeCapacity) (db : Db) (req : WorkspaceComputeRequest)

/-- `total_reserved_on_node_key`. -/
def totalReservedOnNodeKey (nodeKey : String) : ℚ × Int :=
  let key := strip nodeKey
  if key = "" then (0, 0) else (max 0 (db.load key).2.1, max 0 (db.load key).2.2.1)

/-- `total_reserved_disk_mb_on_node_key`. -/
def totalReservedDiskMbOnNodeKey (nodeKey : String) : Int :=
  let key := strip nodeKey
  if key = "" then 0 else max 0 (db.load key).2.2.2

/-- `count_active_workloads_on_node_key`. -/
def countActiveWorkloadsOnNodeKey (nodeKey : String) : Int :=
  let key := strip nodeKey
  if key = "" then 0 else (db.load key).1

/-- The body of the loop of `rank_candidate_nodes`: the node with its key, when it fits. -/
def scoreNode (e : Nat × ExecutionNode) : Option (PackingKey × ExecutionNode) :=
  match caps.lookup e.2.nodeKey with
  | none => none
  | some cap =>
      if !isV1SchedulingCandidate e.2 then none
      else
        let k := strip e.2.nodeKey
        let used := totalReservedOnNodeKey db k
        let freeCpu := max 0 (cap.allocatableCpu - used.1)
        let freeMemory := max 0 (cap.allocatableMemoryMb - used.2)
        let freeDisk := max 0 (cap.allocatableDiskMb - totalReservedDiskMbOnNodeKey db k)
        let workloads := countActiveWorkloadsOnNodeKey db k
        let slotClaims : Int := workspaceSlotClaimCount db e.1
        if !canFitWorkspaceEffective freeCpu freeMemory freeDisk req then none
        else if max 0 (cap.maxWorkspaces - max workloads slotClaims) < req.requestedSlots then none
        else some (schedulingSortKeyPacking freeCpu freeMemory freeDisk workloads req k, e.2)

/-- `rank_candidate_nodes`. -/
def rankCandidateNodes (nodes : List (Nat × ExecutionNode)) : List ExecutionNode :=
  ((nodes.filterMap (scoreNode caps db req)).mergeSort fun x y => decide (x.1 ≤ y.1)).map (·.2)

end Policy

/-! ## The two orders -/

/-- The key of a candidate of the query. -/
def Candidate.packKey (c : Candidate) : PackingKey :=
  toLex (c.residual.1, toLex (c.residual.2.1, toLex (c.residual.2.2,
    toLex (-c.active, c.node.nodeKey))))

/-- The `ORDER BY` clause is the order of the tuples. -/
theorem packsBefore_iff {a b : Candidate} : packsBefore a b = true ↔ a.packKey < b.packKey := by
  unfold packsBefore Candidate.packKey
  simp only [Prod.Lex.toLex_lt_toLex]
  repeat' split
  all_goals simp_all

theorem firstCandidate_isSome {l : List Candidate} (h : l ≠ []) : ∃ c, firstCandidate l = some c := by
  cases l with
  | nil => exact absurd rfl h
  | cons a l =>
      unfold firstCandidate
      split
      · exact ⟨a, rfl⟩
      · split
        · exact ⟨_, rfl⟩
        · exact ⟨a, rfl⟩

/-- Nothing comes before the first row. -/
theorem firstCandidate_min {l : List Candidate} {c : Candidate} (h : firstCandidate l = some c)
    {d : Candidate} (hd : d ∈ l) : c.packKey ≤ d.packKey := by
  induction l generalizing c with
  | nil => cases hd
  | cons a l ih =>
      unfold firstCandidate at h
      cases hl : firstCandidate l with
      | none =>
          simp only [hl] at h
          obtain rfl := Option.some.inj h
          rcases List.mem_cons.mp hd with rfl | hd
          · exact le_rfl
          · obtain ⟨b, hb⟩ := firstCandidate_isSome (List.ne_nil_of_mem hd)
            rw [hl] at hb
            cases hb
      | some b =>
          simp only [hl] at h
          split at h
          · rename_i hlt
            obtain rfl := Option.some.inj h
            rcases List.mem_cons.mp hd with rfl | hd
            · exact (packsBefore_iff.mp hlt).le
            · exact ih hl hd
          · rename_i hge
            obtain rfl := Option.some.inj h
            rcases List.mem_cons.mp hd with rfl | hd
            · exact le_rfl
            · exact (not_lt.mp fun hlt => hge (packsBefore_iff.mpr hlt)).trans (ih hl hd)

/-- The head of a list sorted by a key is its least entry, where no other has that key. -/
theorem head?_mergeSort_key {α β : Type} [LinearOrder β] {key : α → β} {l : List α} {a : α}
    (ha : a ∈ l) (hmin : ∀ b ∈ l, key a ≤ key b) (hinj : ∀ b ∈ l, key b = key a → b = a) :
    (l.mergeSort fun x y => decide (key x ≤ key y)).head? = some a := by
  have hsorted : (l.mergeSort fun x y => decide (key x ≤ key y)).Pairwise
      fun x y => decide (key x ≤ key y) = true :=
    List.pairwise_mergeSort
      (fun x y z hxy hyz => decide_eq_true ((of_decide_eq_true hxy).trans (of_decide_eq_true hyz)))
      (fun x y => by
        simp only [Bool.or_eq_true, decide_eq_true_eq]
        exact le_total (key x) (key y)) l
  have hmem : ∀ x, x ∈ (l.mergeSort fun x y => decide (key x ≤ key y)) ↔ x ∈ l :=
    fun x => List.mem_mergeSort
  cases hm : l.mergeSort fun x y => decide (key x ≤ key y) with
  | nil =>
      rw [hm] at hmem
      exact absurd ((hmem a).mpr ha) (by simp)
  | cons b t =>
      rw [hm] at hsorted hmem
      have hb : b ∈ l := (hmem b).mp List.mem_cons_self
      have hle : key b ≤ key a := by
        rcases List.mem_cons.mp ((hmem a).mpr ha) with rfl | hat
        · exact le_rfl
        · exact of_decide_eq_true ((List.pairwise_cons.mp hsorted).1 a hat)
      rw [hinj b hb (le_antisymm hle (hmin b hb))]
      rfl

/-! ## The two filters -/

/-- A multiple of a millionth. -/
def IsMicro (q : ℚ) : Prop := ∃ n : Int, q * 1000000 = n

theorem IsMicro.add {p q : ℚ} (hp : IsMicro p) (hq : IsMicro q) : IsMicro (p + q) := by
  obtain ⟨m, hm⟩ := hp
  obtain ⟨n, hn⟩ := hq
  exact ⟨m + n, by rw [add_mul, hm, hn, Int.cast_add]⟩

theorem IsMicro.sub {p q : ℚ} (hp : IsMicro p) (hq : IsMicro q) : IsMicro (p - q) := by
  obtain ⟨m, hm⟩ := hp
  obtain ⟨n, hn⟩ := hq
  exact ⟨m - n, by rw [sub_mul, hm, hn, Int.cast_sub]⟩

/-- Rounding to six digits leaves such a number alone. -/
theorem roundSix_of_isMicro {q : ℚ} (h : IsMicro q) : roundSix q = q := by
  obtain ⟨n, hn⟩ := h
  have hround : roundHalfEven (n : ℚ) = n := by
    have hfloor : (n : ℚ).floor = n := Rat.floor_intCast n
    have hhalf : (n : ℚ) - n < 1 / 2 := by
      rw [sub_self]
      norm_num
    simp only [roundHalfEven, hfloor, if_pos hhalf]
  rw [roundSix, hn, hround, ← hn]
  exact mul_div_cancel_right₀ q (by norm_num)

/-- What the tables promise and the exact numbers need: keys are unique and have no surrounding
whitespace, reservations are not negative (both by constraints of the tables), and cpu amounts are
multiples of a millionth. -/
structure PlacementData (caps : Table String NodeCapacity) (db : Db)
    (req : WorkspaceComputeRequest) : Prop where
  stripped : ∀ {nid node}, db.executionNodes.lookup nid = some node →
    strip node.nodeKey = node.nodeKey
  unique : ∀ {nid nid' node node'}, db.executionNodes.lookup nid = some node →
    db.executionNodes.lookup nid' = some node' → node.nodeKey = node'.nodeKey → nid = nid'
  reserved : ∀ {w r}, db.runtimes.lookup w = some r →
    0 ≤ r.reservedCpu ∧ 0 ≤ r.reservedMemoryMb ∧ 0 ≤ r.reservedDiskMb ∧ IsMicro r.reservedCpu
  capacity : ∀ {key cap}, caps.lookup key = some cap → IsMicro cap.allocatableCpu
  request : IsMicro req.requestedCpu

section Filters

variable {caps : Table String NodeCapacity} {db : Db} {req : WorkspaceComputeRequest}

theorem load_empty_key (db : Db) : db.load "" = 0 := by
  refine Finset.sum_eq_zero fun w _ => ?_
  unfold Db.booked
  cases db.runtimes.lookup w with
  | none => rfl
  | some r =>
      cases db.workspaces.lookup w with
      | none => rfl
      | some ws => simp

/-- What the rows book is not negative and exact. -/
theorem PlacementData.load_spec (h : PlacementData caps db req) (key : String) :
    0 ≤ (db.load key).2.1 ∧ 0 ≤ (db.load key).2.2.1 ∧ 0 ≤ (db.load key).2.2.2 ∧
      IsMicro (db.load key).2.1 := by
  have hzero : 0 ≤ (0 : Load).2.1 ∧ 0 ≤ (0 : Load).2.2.1 ∧ 0 ≤ (0 : Load).2.2.2 ∧
      IsMicro (0 : Load).2.1 := ⟨le_rfl, le_rfl, le_rfl, 0, by simp⟩
  refine Finset.sum_induction (db.booked key) (fun l : Load => 0 ≤ l.2.1 ∧ 0 ≤ l.2.2.1 ∧
    0 ≤ l.2.2.2 ∧ IsMicro l.2.1) ?_ hzero ?_
  · rintro a b ⟨ha₁, ha₂, ha₃, ha⟩ ⟨hb₁, hb₂, hb₃, hb⟩
    exact ⟨add_nonneg ha₁ hb₁, add_nonneg ha₂ hb₂, add_nonneg ha₃ hb₃, ha.add hb⟩
  · intro w _
    unfold Db.booked
    split
    · rename_i r ws hr hws
      split
      · exact h.reserved hr
      · exact hzero
    · exact hzero

theorem PlacementData.totals (h : PlacementData caps db req) {key : String}
    (hkey : strip key = key) :
    totalReservedOnNodeKey db key = ((db.load key).2.1, (db.load key).2.2.1) ∧
      totalReservedDiskMbOnNodeKey db key = (db.load key).2.2.2 ∧
      countActiveWorkloadsOnNodeKey db key = (db.load key).1 := by
  obtain ⟨hcpu, hmem, hdisk, -⟩ := h.load_spec key
  unfold totalReservedOnNodeKey totalReservedDiskMbOnNodeKey countActiveWorkloadsOnNodeKey
  simp only [hkey]
  by_cases hempty : key = ""
  · subst hempty
    simp [load_empty_key]
  · simp only [if_neg hempty, max_eq_right hcpu, max_eq_right hmem, max_eq_right hdisk, and_self]

/-- Clamped at zero, an amount holds a positive request when it does. -/
theorem canFit_clamped_iff (freeCpu : ℚ) (freeMemory freeDisk : Int) (hpos : req.isPositive = true) :
    canFitWorkspaceEffective (max 0 freeCpu) (max 0 freeMemory) (max 0 freeDisk) req = true ↔
      req.requestedCpu ≤ freeCpu ∧ req.requestedMemoryMb ≤ freeMemory ∧
        req.requestedDiskMb ≤ freeDisk := by
  simp only [WorkspaceComputeRequest.isPositive, Bool.and_eq_true, decide_eq_true_eq] at hpos
  obtain ⟨⟨⟨hcpu, hmem⟩, hdisk⟩, -⟩ := hpos
  have hc : max 0 freeCpu < req.requestedCpu ↔ ¬ req.requestedCpu ≤ freeCpu := by
    rw [max_lt_iff, not_le]
    exact and_iff_right hcpu
  have hm : max 0 freeMemory < req.requestedMemoryMb ↔ ¬ req.requestedMemoryMb ≤ freeMemory := by
    omega
  have hd : max 0 freeDisk < req.requestedDiskMb ↔ ¬ req.requestedDiskMb ≤ freeDisk := by omega
  unfold canFitWorkspaceEffective
  simp only [hc, hm, hd]
  by_cases h₁ : req.requestedCpu ≤ freeCpu
  · by_cases h₂ : req.requestedMemoryMb ≤ freeMemory
    · by_cases h₃ : req.requestedDiskMb ≤ freeDisk
      · simp [h₁, h₂, h₃]
      · simp [h₁, h₂, h₃]
    · simp [h₁, h₂]
  · simp [h₁]

/-- The key of a node that fits: nothing was clamped, and nothing is rounded. -/
theorem clampedKey_eq (h : PlacementData caps db req) (hpos : req.isPositive = true)
    {node : ExecutionNode} {cap : NodeCapacity} (hcap : caps.lookup node.nodeKey = some cap)
    (hkey : strip node.nodeKey = node.nodeKey)
    (hroom : req.requestedCpu ≤ cap.allocatableCpu - (db.load node.nodeKey).2.1 ∧
      req.requestedMemoryMb ≤ (cap.allocatableMemoryMb : Int) - (db.load node.nodeKey).2.2.1 ∧
      req.requestedDiskMb ≤ (cap.allocatableDiskMb : Int) - (db.load node.nodeKey).2.2.2) :
    schedulingSortKeyPacking (max 0 (cap.allocatableCpu - (db.load node.nodeKey).2.1))
        (max 0 ((cap.allocatableMemoryMb : Int) - (db.load node.nodeKey).2.2.1))
        (max 0 ((cap.allocatableDiskMb : Int) - (db.load node.nodeKey).2.2.2))
        (db.load node.nodeKey).1 req node.nodeKey =
      Candidate.packKey
        { node := node
          residual := (cap.allocatableCpu - (db.load node.nodeKey).2.1 - req.requestedCpu,
            cap.allocatableMemoryMb - (db.load node.nodeKey).2.2.1 - req.requestedMemoryMb,
            cap.allocatableDiskMb - (db.load node.nodeKey).2.2.2 - req.requestedDiskMb)
          active := (db.load node.nodeKey).1 } := by
  simp only [WorkspaceComputeRequest.isPositive, Bool.and_eq_true, decide_eq_true_eq] at hpos
  obtain ⟨⟨⟨hcpu, hmem⟩, hdisk⟩, -⟩ := hpos
  have hmicro : IsMicro (cap.allocatableCpu - (db.load node.nodeKey).2.1 - req.requestedCpu) :=
    ((h.capacity hcap).sub (h.load_spec node.nodeKey).2.2.2).sub h.request
  unfold schedulingSortKeyPacking Candidate.packKey
  rw [max_eq_right (hcpu.le.trans hroom.1), max_eq_right (hmem.le.trans hroom.2.1),
    max_eq_right (hdisk.le.trans hroom.2.2), roundSix_of_isMicro hmicro, hkey]

/-- **One node.** A node of the pool fits the query and the policy alike, with the same key. -/
theorem scoreNode_eq (h : PlacementData caps db req) (hpos : req.isPositive = true)
    {base : Nat → ExecutionNode → Bool} {nid : Nat} {node : ExecutionNode}
    (hnode : db.executionNodes.lookup nid = some node) (hbase : base nid node = true)
    (hready : node.schedulable = true ∧ node.status = "READY") :
    scoreNode caps db req (nid, node) =
      (candidateFor? caps base db req nid node).map fun c => (c.packKey, c.node) := by
  have hkey := h.stripped hnode
  obtain ⟨htot, hdisk, hwork⟩ := h.totals hkey
  have hv1 : isV1SchedulingCandidate node = true := by
    have hstrip : strip "READY" = "READY" := by decide
    simp [isV1SchedulingCandidate, hready, hstrip]
  unfold scoreNode candidateFor?
  dsimp only
  cases hcap : caps.lookup node.nodeKey with
  | none => rfl
  | some cap =>
      simp only [hv1, Bool.not_true, Bool.false_eq_true, if_false, hkey, htot, hdisk, hwork, hbase,
        Bool.true_and]
      have hslots : max 0 ((cap.maxWorkspaces : Int) - max (db.load node.nodeKey).1
            (workspaceSlotClaimCount db nid)) < req.requestedSlots ↔
          ¬ ((workspaceSlotClaimCount db nid : Int) ≤ cap.maxWorkspaces - req.requestedSlots ∧
            (db.load node.nodeKey).1 ≤ cap.maxWorkspaces - req.requestedSlots) := by
        simp only [WorkspaceComputeRequest.isPositive, Bool.and_eq_true, decide_eq_true_eq] at hpos
        omega
      have hfit := canFit_clamped_iff (cap.allocatableCpu - (db.load node.nodeKey).2.1)
        (cap.allocatableMemoryMb - (db.load node.nodeKey).2.2.1)
        (cap.allocatableDiskMb - (db.load node.nodeKey).2.2.2) hpos
      by_cases hroom : req.requestedCpu ≤ cap.allocatableCpu - (db.load node.nodeKey).2.1 ∧
          req.requestedMemoryMb ≤ (cap.allocatableMemoryMb : Int) - (db.load node.nodeKey).2.2.1 ∧
          req.requestedDiskMb ≤ (cap.allocatableDiskMb : Int) - (db.load node.nodeKey).2.2.2
      · by_cases hfree : (workspaceSlotClaimCount db nid : Int) ≤
            cap.maxWorkspaces - req.requestedSlots ∧
            (db.load node.nodeKey).1 ≤ cap.maxWorkspaces - req.requestedSlots
        · simp [hfit.mpr hroom, hslots, hroom, hfree, clampedKey_eq h hpos hcap hkey hroom]
        · simp [hfit.mpr hroom, hslots, hroom, hfree]
      · have hno := Bool.eq_false_iff.mpr fun hok => hroom (hfit.mp hok)
        rw [if_pos (by rw [hno]; rfl), if_neg, Option.map_none]
        simp only [Bool.and_eq_true, decide_eq_true_eq]
        rintro ⟨⟨⟨⟨h₁, h₂⟩, h₃⟩, -⟩, -⟩
        exact hroom ⟨h₁, h₂, h₃⟩

end Filters

/-! ## Agreement -/

section Agreement

variable {caps : Table String NodeCapacity} {pool : PoolSettings} {db : Db}
  {req : WorkspaceComputeRequest}

theorem schedulableBase_ready {nid : Nat} {node : ExecutionNode}
    (h : schedulableBase pool db nid node = true) :
    node.schedulable = true ∧ node.status = "READY" := by
  simp only [schedulableBase, readySchedulableProvider, Bool.and_eq_true, decide_eq_true_eq] at h
  exact h.1.1.1

theorem candidateFor_some {base : Nat → ExecutionNode → Bool} {nid : Nat} {node : ExecutionNode}
    {c : Candidate} (h : candidateFor? caps base db req nid node = some c) :
    base nid node = true ∧ c.node = node := by
  unfold candidateFor? at h
  split at h
  · cases h
  · dsimp only at h
    split at h
    · rename_i hif
      simp only [Bool.and_eq_true] at hif
      rw [← Option.some.inj h]
      exact ⟨hif.1.1.1.1.1, rfl⟩
    · cases h

/-- The scored nodes are the candidates of the query with their keys. -/
theorem mem_scored_iff (h : PlacementData caps db req) (hpos : req.isPositive = true)
    {x : PackingKey × ExecutionNode} :
    x ∈ (listSchedulableNodes pool db).filterMap (scoreNode caps db req) ↔
      ∃ c ∈ candidatesFor caps (schedulableBase pool db) db req, x = (c.packKey, c.node) := by
  have hmem : ∀ nid node, (nid, node) ∈ listSchedulableNodes pool db ↔
      db.executionNodes.lookup nid = some node ∧ schedulableBase pool db nid node = true := by
    intro nid node
    simp only [listSchedulableNodes, List.mem_mergeSort, List.mem_map, List.mem_filter]
    constructor
    · rintro ⟨e, ⟨he, hb⟩, heq⟩
      obtain ⟨rfl, rfl⟩ := Prod.mk.inj heq
      exact ⟨AList.mem_lookup_iff.mpr he, hb⟩
    · rintro ⟨hl, hb⟩
      exact ⟨⟨nid, node⟩, ⟨AList.mem_lookup_iff.mp hl, hb⟩, rfl⟩
  simp only [candidatesFor, List.mem_filterMap]
  constructor
  · rintro ⟨⟨nid, node⟩, he, hx⟩
    obtain ⟨hl, hb⟩ := (hmem nid node).mp he
    rw [scoreNode_eq h hpos hl hb (schedulableBase_ready hb)] at hx
    obtain ⟨c, hc, rfl⟩ := Option.map_eq_some_iff.mp hx
    exact ⟨c, ⟨⟨nid, node⟩, AList.mem_lookup_iff.mp hl, hc⟩, rfl⟩
  · rintro ⟨c, ⟨⟨nid, node⟩, he, hc⟩, rfl⟩
    have hl : db.executionNodes.lookup nid = some node := AList.mem_lookup_iff.mpr he
    have hb := (candidateFor_some hc).1
    refine ⟨(nid, node), (hmem nid node).mpr ⟨hl, hb⟩, ?_⟩
    rw [scoreNode_eq h hpos hl hb (schedulableBase_ready hb)]
    exact Option.map_eq_some_iff.mpr ⟨c, hc, rfl⟩

/-- The key tells the candidates apart. -/
theorem packKey_inj (h : PlacementData caps db req) {base : Nat → ExecutionNode → Bool}
    {c d : Candidate} (hc : c ∈ candidatesFor caps base db req)
    (hd : d ∈ candidatesFor caps base db req) (heq : d.packKey = c.packKey) : d = c := by
  simp only [candidatesFor, List.mem_filterMap] at hc hd
  obtain ⟨⟨nid, node⟩, he, hc⟩ := hc
  obtain ⟨⟨nid', node'⟩, he', hd⟩ := hd
  have hkeys : d.node.nodeKey = c.node.nodeKey := by
    simp only [Candidate.packKey, toLex_inj, Prod.mk.injEq] at heq
    exact heq.2.2.2.2
  rw [(candidateFor_some hc).2, (candidateFor_some hd).2] at hkeys
  have hl : db.executionNodes.lookup nid = some node := AList.mem_lookup_iff.mpr he
  have hl' : db.executionNodes.lookup nid' = some node' := AList.mem_lookup_iff.mpr he'
  obtain rfl := h.unique hl' hl hkeys
  obtain rfl := Option.some.inj (hl'.symm.trans hl)
  exact Option.some.inj (hd.symm.trans hc)

theorem selectNodeFor_eq_head (h : PlacementData caps db req) (hpos : req.isPositive = true)
    (invalidRequest noNode : String) :
    selectNodeFor caps (schedulableBase pool db) db req invalidRequest noNode =
      (rankCandidateNodes caps db req (listSchedulableNodes pool db)).head?.elim
        (.noNode noNode) .chosen := by
  have hscored : ∀ x, x ∈ (listSchedulableNodes pool db).filterMap (scoreNode caps db req) ↔
      ∃ c ∈ candidatesFor caps (schedulableBase pool db) db req, x = (c.packKey, c.node) :=
    fun x => mem_scored_iff h hpos
  unfold selectNodeFor rankCandidateNodes
  rw [hpos, List.head?_map]
  cases hfirst : firstCandidate (candidatesFor caps (schedulableBase pool db) db req) with
  | none =>
      have hnil : (listSchedulableNodes pool db).filterMap (scoreNode caps db req) = [] := by
        refine List.eq_nil_iff_forall_not_mem.mpr fun x hx => ?_
        obtain ⟨c, hc, -⟩ := (hscored x).mp hx
        obtain ⟨d, hd⟩ := firstCandidate_isSome (List.ne_nil_of_mem hc)
        rw [hfirst] at hd
        cases hd
      rw [hnil, List.mergeSort_nil]
      rfl
  | some c =>
      have hc := firstCandidate_mem hfirst
      rw [head?_mergeSort_key (a := (c.packKey, c.node)) ((hscored _).mpr ⟨c, hc, rfl⟩)]
      · rfl
      · rintro x hx
        obtain ⟨d, hd, rfl⟩ := (hscored x).mp hx
        exact firstCandidate_min hfirst hd
      · rintro x hx heq
        obtain ⟨d, hd, rfl⟩ := (hscored x).mp hx
        rw [packKey_inj h hc hd heq]

/-- **Placement in SQL and in Python.** For every positive request the query returns the first node
that the policy ranks, and raises `NoSchedulableNodeError` exactly when the policy ranks none. -/
theorem placement_agrees (h : PlacementData caps db req) (hpos : req.isPositive = true)
    (invalidRequest noNode : String) :
    (∀ node, selectNodeFor caps (schedulableBase pool db) db req invalidRequest noNode =
        .chosen node ↔
      (rankCandidateNodes caps db req (listSchedulableNodes pool db)).head? = some node) ∧
    (selectNodeFor caps (schedulableBase pool db) db req invalidRequest noNode = .noNode noNode ↔
      rankCandidateNodes caps db req (listSchedulableNodes pool db) = []) := by
  rw [selectNodeFor_eq_head h hpos]
  cases rankCandidateNodes caps db req (listSchedulableNodes pool db) with
  | nil => simp
  | cons node nodes => simp

end Agreement

theorem isMicro_of_den {q : ℚ} (h : (q * 1000000).den = 1) : IsMicro q :=
  ⟨(q * 1000000).num, (Rat.coe_int_num_of_den_eq_one h).symm⟩

/-- A busy fleet of four-core nodes. The first is booked beyond its cores; the next two hold the
same in two workspaces each, the fourth as much in one, and the last is free. -/
def fleetDb : Db :=
  { initDb ∅ [1] with
    executionNodes := AList.insert 5 { sampleNode with nodeKey := "node-5" }
      (AList.insert 4 { sampleNode with nodeKey := "node-4" }
      (AList.insert 3 { sampleNode with nodeKey := "node-2" }
      (AList.insert 2 { sampleNode with nodeKey := "node-3" }
      (AList.insert 1 { sampleNode with nodeKey := "node-1" } ∅))))
    workspaces := AList.insert 16 (onNode 4) (AList.insert 15 (onNode 3) (AList.insert 14 (onNode 3)
      (AList.insert 13 (onNode 2) (AList.insert 12 (onNode 2) (AList.insert 11 (onNode 1) ∅)))))
    runtimes := AList.insert 16 (booked "node-4" 1 512 1024)
      (AList.insert 15 (booked "node-2" (1 / 2) 256 512)
      (AList.insert 14 (booked "node-2" (1 / 2) 256 512)
      (AList.insert 13 (booked "node-3" (1 / 4) 256 512)
      (AList.insert 12 (booked "node-3" (3 / 4) 256 512)
      (AList.insert 11 (booked "node-1" 5 512 1024) ∅))))) }
where
  onNode (nid : Nat) : Workspace :=
    { ownerUserId := 7, name := "a", status := .running, executionNodeId := some nid }
  booked (key : String) (cpu : ℚ) (memoryMb diskMb : Int) : WorkspaceRuntime :=
    { nodeId := some key, reservedCpu := cpu, reservedMemoryMb := memoryMb, reservedDiskMb := diskMb }

def fleetCaps : Table String NodeCapacity :=
  AList.insert "node-5" fourCores (AList.insert "node-4" fourCores (AList.insert "node-3" fourCores
    (AList.insert "node-2" fourCores (AList.insert "node-1" fourCores ∅))))
where
  fourCores : NodeCapacity := ⟨32, 4, 8192, 102400, by decide +kernel⟩

def fleetPool : PoolSettings := { devnestEnableMultiNodeScheduling := true }

theorem fleet_placementData : PlacementData fleetCaps fleetDb ⟨1 / 2, 512, 1024, 1⟩ where
  stripped := by
    intro nid node h
    have hall : ∀ e ∈ fleetDb.executionNodes.entries, strip e.2.nodeKey = e.2.nodeKey := by
      decide +kernel
    exact hall ⟨nid, node⟩ (AList.mem_lookup_iff.mp h)
  unique := by
    intro nid nid' node node' h h'
    have hall : ∀ e ∈ fleetDb.executionNodes.entries, ∀ e' ∈ fleetDb.executionNodes.entries,
        e.2.nodeKey = e'.2.nodeKey → e.1 = e'.1 := by decide +kernel
    exact hall ⟨nid, node⟩ (AList.mem_lookup_iff.mp h) ⟨nid', node'⟩ (AList.mem_lookup_iff.mp h')
  reserved := by
    intro w r h
    have hall : ∀ e ∈ fleetDb.runtimes.entries, 0 ≤ e.2.reservedCpu ∧ 0 ≤ e.2.reservedMemoryMb ∧
        0 ≤ e.2.reservedDiskMb ∧ (e.2.reservedCpu * 1000000).den = 1 := by decide +kernel
    obtain ⟨hcpu, hmem, hdisk, hden⟩ := hall ⟨w, r⟩ (AList.mem_lookup_iff.mp h)
    exact ⟨hcpu, hmem, hdisk, isMicro_of_den hden⟩
  capacity := by
    intro key cap h
    have hall : ∀ e ∈ fleetCaps.entries, (e.2.allocatableCpu * 1000000).den = 1 := by
      decide +kernel
    exact isMicro_of_den (hall ⟨key, cap⟩ (AList.mem_lookup_iff.mp h))
  request := isMicro_of_den (by decide +kernel)

/-- Both put `node-2` first: fuller than `node-5`, in more workspaces than `node-4`, and before
`node-3` by its key. `node-1`, booked beyond its cores, is not ranked. -/
theorem fleet_placement_agrees :
    selectNodeFor fleetCaps (schedulableBase fleetPool fleetDb) fleetDb ⟨1 / 2, 512, 1024, 1⟩ "" "" =
        .chosen { sampleNode with nodeKey := "node-2" } ∧
      (rankCandidateNodes fleetCaps fleetDb ⟨1 / 2, 512, 1024, 1⟩
        (listSchedulableNodes fleetPool fleetDb)).head? =
          some { sampleNode with nodeKey := "node-2" } ∧
      4 < (fleetDb.load "node-1").2.1 := by
  have hsel : selectNodeFor fleetCaps (schedulableBase fleetPool fleetDb) fleetDb
      ⟨1 / 2, 512, 1024, 1⟩ "" "" = .chosen { sampleNode with nodeKey := "node-2" } := by
    decide +kernel
  exact ⟨hsel, ((placement_agrees fleet_placementData (by decide +kernel) "" "").1 _).mp hsel,
    by decide +kernel⟩

end Devnest
