import Devnest.Leases

/-!
# The addresses of a subnet

One attempt of `allocate_workspace_ip` on its own: the candidates of a subnet
of any size with any gateway, and the choice among them. `candidateLoop` and
`scanFrom` are the two loops as the source has them; `Devnest.Leases` says the
same with `drop`, `filter` and `rotate`.

No subnet has eleven to thirteen usable hosts (`length_hosts`). With eleven the
reservation of ten and a gateway at the last would leave a pool empty that is
not too small for the reservation.
-/

namespace Devnest

open Ipv4

/-! ## The loops -/

/-- `for h in net.hosts()`: the usable hosts counted, and the candidates. -/
def candidateLoop (gw : Nat) : List Nat → Nat → List Nat → Nat × List Nat
  | [], usableIdx, out => (usableIdx, out)
  | h :: rest, usableIdx, out =>
      if h = gw then candidateLoop gw rest (usableIdx + 1) out
      else if usableIdx + 1 ≤ v1InfraReservedUsableHosts then
        candidateLoop gw rest (usableIdx + 1) out
      else candidateLoop gw rest (usableIdx + 1) (out ++ [h])

/-- `for i in range(n)` from `i` on, with `left` rounds to come. -/
def scanFrom (candidates usedIps : List Nat) (offset : Nat) : Nat → Nat → Option Nat
  | 0, _ => none
  | left + 1, i =>
      match candidates[(offset + i) % candidates.length]? with
      | none => none
      | some h => if h ∈ usedIps then scanFrom candidates usedIps offset left (i + 1) else some h

variable {net : Network} {g : Nat} {hosts : List Nat}

theorem candidateLoop_eq (gw : Nat) (hs : List Nat) (usableIdx : Nat) (out : List Nat) :
    candidateLoop gw hs usableIdx out =
      (usableIdx + hs.length,
        out ++ (hs.drop (v1InfraReservedUsableHosts - usableIdx)).filter (· ≠ gw)) := by
  induction hs generalizing usableIdx out with
  | nil => simp [candidateLoop]
  | cons h rest ih =>
      have hcount : usableIdx + 1 + rest.length = usableIdx + (h :: rest).length := by
        rw [List.length_cons]
        omega
      rw [candidateLoop]
      by_cases hr : usableIdx + 1 ≤ v1InfraReservedUsableHosts
      · have hdrop : v1InfraReservedUsableHosts - usableIdx =
            v1InfraReservedUsableHosts - (usableIdx + 1) + 1 := by omega
        rw [if_pos hr, ite_self, ih, hcount, hdrop, List.drop_succ_cons]
      · have hnone : v1InfraReservedUsableHosts - usableIdx = 0 := by omega
        have hnone' : v1InfraReservedUsableHosts - (usableIdx + 1) = 0 := by omega
        rw [if_neg hr, ih, ih, hcount, hnone, hnone', List.drop_zero, List.drop_zero]
        by_cases hg : h = gw
        · rw [if_pos hg, List.filter_cons_of_neg (by simp [hg])]
        · rw [if_neg hg, List.filter_cons_of_pos (by simpa using hg), List.append_assoc]
          rfl

/-- `_iter_candidate_workspace_hosts` by its loops. -/
theorem iterCandidateWorkspaceHosts_eq (hg : g ∈ net) :
    iterCandidateWorkspaceHosts net g = .ok
      (let (usableIdx, out) := candidateLoop g net.hosts 0 []
       if out.isEmpty && decide (0 < usableIdx) && decide (usableIdx ≤ v1InfraReservedUsableHosts)
       then net.hosts.filter (· ≠ g) else out) := by
  unfold iterCandidateWorkspaceHosts
  rw [if_pos hg, candidateLoop_eq, Nat.zero_add, List.nil_append]
  rfl

theorem scanFrom_eq (candidates usedIps : List Nat) (offset : Nat) {left i : Nat}
    (h : i + left = candidates.length) :
    scanFrom candidates usedIps offset left i =
      ((candidates.rotate offset).drop i).find? fun h => decide (h ∉ usedIps) := by
  induction left generalizing i with
  | zero =>
      rw [List.drop_of_length_le (by rw [List.length_rotate]; omega)]
      rfl
  | succ left ih =>
      have hi : i < (candidates.rotate offset).length := by
        rw [List.length_rotate]
        omega
      have hget : candidates[(offset + i) % candidates.length]? = some (candidates.rotate offset)[i] := by
        rw [List.getElem_rotate, Nat.add_comm offset i]
        exact List.getElem?_eq_getElem _
      rw [scanFrom, hget, List.drop_eq_getElem_cons hi]
      dsimp only
      generalize (candidates.rotate offset)[i] = x
      by_cases hused : x ∈ usedIps
      · rw [if_pos hused, ih (by omega), List.find?_cons_of_neg (by simpa using hused)]
      · rw [if_neg hused, List.find?_cons_of_pos (by simpa using hused)]

/-- `_pick_first_free_host` by its loop. -/
theorem pickFirstFreeHost_eq (candidates usedIps : List Nat) (scanOffset : Nat) :
    pickFirstFreeHost candidates usedIps scanOffset =
      scanFrom candidates usedIps (scanOffset % candidates.length) candidates.length 0 := by
  rw [scanFrom_eq _ _ _ (Nat.zero_add _), List.drop_zero, List.rotate_mod]
  rfl

/-! ## How many hosts there are -/

theorem nodup_hosts (net : Network) : net.hosts.Nodup := by
  unfold Network.hosts
  split
  · exact List.nodup_singleton _
  · split
    · simp
    · exact List.nodup_range'

/-- Too few for the reservation, or more than it and the gateway take. -/
theorem length_hosts (net : Network) :
    net.hosts.length ≤ v1InfraReservedUsableHosts ∨
      v1InfraReservedUsableHosts + 4 ≤ net.hosts.length := by
  unfold Network.hosts v1InfraReservedUsableHosts
  split
  · exact .inl (by simp)
  · split
    · exact .inl (by simp)
    · rw [List.length_range']
      unfold Network.size
      by_cases hk : 32 - net.prefixlen ≤ 3
      · have hle : 2 ^ (32 - net.prefixlen) ≤ 2 ^ 3 := Nat.pow_le_pow_right (by decide) hk
        omega
      · have hge : 2 ^ 4 ≤ 2 ^ (32 - net.prefixlen) := Nat.pow_le_pow_right (by decide) (by omega)
        omega

/-! ## Candidates -/

/-- Usable hosts other than the gateway, and one if there is one. -/
structure GoodCandidates (net : Network) (g : Nat) (out : List Nat) : Prop where
  distinct : out.Nodup
  usable : ∀ h ∈ out, h ∈ net.hosts ∧ h ≠ g
  nonempty : out ≠ [] ↔ ∃ h ∈ net.hosts, h ≠ g

/-- What is left of the hosts without the gateway is empty only if there is no other. -/
theorem filter_gateway_ne_nil (l : List Nat) (g : Nat) :
    l.filter (fun h => decide (h ≠ g)) ≠ [] ↔ ∃ h ∈ l, h ≠ g := by
  rw [Ne, List.filter_eq_nil_iff]
  simp

theorem candidates_good (hg : g ∈ net) :
    ∃ out, iterCandidateWorkspaceHosts net g = .ok out ∧ GoodCandidates net g out := by
  unfold iterCandidateWorkspaceHosts
  rw [if_pos hg]
  refine ⟨_, rfl, ?_⟩
  have husable : ∀ {l : List Nat}, l ⊆ net.hosts → ∀ h ∈ l.filter (fun h => decide (h ≠ g)),
      h ∈ net.hosts ∧ h ≠ g := by
    intro l hl h hh
    obtain ⟨hmem, hne⟩ := List.mem_filter.mp hh
    exact ⟨hl hmem, of_decide_eq_true hne⟩
  have hsmall : GoodCandidates net g (net.hosts.filter fun h => decide (h ≠ g)) :=
    ⟨(nodup_hosts net).filter _, husable fun _ h => h, filter_gateway_ne_nil _ g⟩
  have hdrop := List.drop_sublist v1InfraReservedUsableHosts net.hosts
  rcases length_hosts net with hle | hge
  · -- nothing is left beside the reservation, so the pool is used without it
    have hnil : net.hosts.drop v1InfraReservedUsableHosts = [] := List.drop_of_length_le hle
    have hpos : 0 < net.hosts.length := List.length_pos_iff.mpr net.hosts_ne_nil
    rw [hnil]
    simpa [hpos, hle] using hsmall
  · rw [if_neg (by simp; omega)]
    refine ⟨((nodup_hosts net).sublist hdrop).filter _, husable hdrop.subset, ?_⟩
    rw [filter_gateway_ne_nil]
    refine ⟨fun ⟨h, hh, hne⟩ => ⟨h, hdrop.subset hh, hne⟩, fun _ => ?_⟩
    by_contra! hall
    -- four hosts at least are left, and only one address is the gateway
    have hsub : net.hosts.drop v1InfraReservedUsableHosts ⊆ [g] :=
      fun h hh => List.mem_singleton.mpr (hall h hh)
    have hlen := (List.subperm_of_subset ((nodup_hosts net).sublist hdrop) hsub).length_le
    rw [List.length_drop, List.length_singleton] at hlen
    omega

/-! ## One attempt -/

/-- `_allocate_workspace_ip_attempt`; an `IntegrityError` is the caller's. -/
inductive AttemptEnd where
  | lease (r : AllocateWorkspaceIPResult)
  | integrityError
  | failed (e : TopologyError)
  deriving DecidableEq

def allocateWorkspaceIpAttempt (commitOk : Bool) (db : TopologyDb) (slot : WorkspaceSlot)
    (retryIndex : Nat) : TopologyDb × AttemptEnd :=
  match planLease db slot retryIndex with
  | .error e => (db, .failed e)
  | .ok (.existing ip) => (db, .lease ⟨ip, true⟩)
  | .ok (.lease row ip) =>
      match commitLease db slot row ip with
      | .committed db' =>
          if commitOk then (db', .lease ⟨ip, false⟩)
          else (db, .failed (.ipAllocation "failed to persist IP allocation"))
      | .failed => (db, .failed (.ipAllocation "failed to persist IP allocation"))
      | .integrityError => (db, .integrityError)

/-- The attempts of `allocate_workspace_ip` are this one, again after a conflict. -/
theorem allocateAttempts_succ (commitOk : Bool) (db : TopologyDb) (slot : WorkspaceSlot)
    (left i : Nat) :
    allocateAttempts commitOk db slot (left + 1) i =
      match allocateWorkspaceIpAttempt commitOk db slot i with
      | (db', .lease r) => (db', .ok r)
      | (db', .failed e) => (db', .error e)
      | (db', .integrityError) =>
          match readyRuntime db' slot.node with
          | .error e => (db', .error e)
          | .ok _ =>
              if left = 0 then
                (db', .error (.ipAllocation ("IP allocation hit repeated database conflicts " ++
                  "(likely concurrent requests); giving up after 24 attempts")))
              else allocateAttempts commitOk db' slot left (i + 1) := by
  rw [allocateAttempts]
  unfold allocateWorkspaceIpAttempt
  cases planLease db slot i with
  | error e => rfl
  | ok plan =>
      cases plan with
      | existing ip => rfl
      | lease row ip =>
          dsimp only
          cases commitLease db slot row ip with
          | committed db' => cases commitOk <;> rfl
          | failed => rfl
          | integrityError => rfl

def noFreeAddresses : TopologyError := .ipAllocation "no free IPv4 addresses in topology CIDR"

variable {db : TopologyDb} {slot : WorkspaceSlot} {candidates : List Nat} {retryIndex ip : Nat}

theorem pickFirstFreeHost_eq_none {used : List Nat} {offset : Nat} :
    pickFirstFreeHost candidates used offset = none ↔ ∀ h ∈ candidates, h ∈ used := by
  unfold pickFirstFreeHost
  rw [List.find?_eq_none]
  simp [List.mem_rotate]

theorem pickFirstFreeHost_mem {used : List Nat} {offset : Nat}
    (h : pickFirstFreeHost candidates used offset = some ip) : ip ∈ candidates ∧ ip ∉ used := by
  refine ⟨List.mem_rotate.mp (List.mem_of_find?_eq_some h), ?_⟩
  simpa using List.find?_some h

/-- No active lease of another workspace has an address that is not active. -/
theorem ipTaken_of_not_active (h : ip ∉ activeIps db slot.node) : ipTaken db slot ip = false := by
  unfold ipTaken
  rw [List.any_eq_false]
  rintro ⟨slot', lease⟩ hmem hcond
  simp only [Bool.and_eq_true, beq_iff_eq, Bool.not_eq_true'] at hcond
  obtain ⟨⟨⟨hnode, -⟩, hactive⟩, rfl⟩ := hcond
  exact h (mem_activeIps.mpr ⟨slot', lease, hnode, AList.mem_lookup_iff.mpr hmem, hactive, rfl⟩)

/-- The rows that an attempt finds: the runtime is ready, and the workspace has no active lease. -/
structure Unleased (db : TopologyDb) (slot : WorkspaceSlot) (net : Network) (g : Nat) : Prop where
  ready : readyRuntime db slot.node = .ok (net, g)
  gateway : g ∈ net
  released : ∀ lease, db.allocations.lookup slot = some lease → lease.released = true

theorem planLease_unleased (h : Unleased db slot net g)
    (hcand : iterCandidateWorkspaceHosts net g = .ok candidates) (retryIndex : Nat) :
    planLease db slot retryIndex =
      match pickFirstFreeHost candidates (activeIps db slot.node)
        (allocateScanOffset slot retryIndex candidates.length) with
      | none => .error noFreeAddresses
      | some ip => .ok (.lease (db.allocations.lookup slot) ip) := by
  have hnone : ((db.allocations.lookup slot).filter fun r => !r.released) = none := by
    cases hl : db.allocations.lookup slot with
    | none => rfl
    | some lease => simp [Option.filter, h.released lease hl]
  unfold planLease
  rw [h.ready]
  dsimp only
  rw [hnone]
  dsimp only
  rw [hcand]
  rfl

/-- The commit of an address that is free in the rows that were read. -/
theorem commitLease_free (hip : ip ∉ activeIps db slot.node) :
    commitLease db slot (db.allocations.lookup slot) ip =
      .committed (db.setLease slot { ip := ip, released := false }) := by
  have htaken := ipTaken_of_not_active hip
  unfold commitLease
  cases hl : db.allocations.lookup slot with
  | none =>
      dsimp only
      rw [htaken]
      rfl
  | some lease =>
      have hsame : (if ip = lease.ip then lease.ip else ip) = ip := by
        split
        next heq => exact heq.symm
        · rfl
      dsimp only
      rw [hsame, htaken]
      rfl

/-- What an attempt of a workspace without an active lease does. -/
structure AttemptSound (db : TopologyDb) (slot : WorkspaceSlot) (candidates : List Nat)
    (retryIndex : Nat) : Prop where
  chooses : (∃ h ∈ candidates, h ∉ activeIps db slot.node) →
    ∃ ip ∈ candidates, ip ∉ activeIps db slot.node ∧
      planLease db slot retryIndex = .ok (.lease (db.allocations.lookup slot) ip) ∧
      allocateWorkspaceIpAttempt true db slot retryIndex =
        (db.setLease slot { ip := ip, released := false }, .lease ⟨ip, false⟩)
  fails : ∀ commitOk, (allocateWorkspaceIpAttempt commitOk db slot retryIndex).2 =
      .failed noFreeAddresses ↔ ∀ h ∈ candidates, h ∈ activeIps db slot.node

theorem attempt_sound (h : Unleased db slot net g)
    (hcand : iterCandidateWorkspaceHosts net g = .ok candidates) (retryIndex : Nat) :
    AttemptSound db slot candidates retryIndex := by
  have hplan := planLease_unleased h hcand retryIndex
  cases hpick : pickFirstFreeHost candidates (activeIps db slot.node)
      (allocateScanOffset slot retryIndex candidates.length) with
  | none =>
      have hall := pickFirstFreeHost_eq_none.mp hpick
      rw [hpick] at hplan
      refine ⟨fun ⟨ip, hip, hfree⟩ => absurd (hall ip hip) hfree, fun commitOk => ?_⟩
      unfold allocateWorkspaceIpAttempt
      rw [hplan]
      exact iff_of_true rfl hall
  | some ip =>
      obtain ⟨hmem, hfree⟩ := pickFirstFreeHost_mem hpick
      have hcommit := commitLease_free hfree
      rw [hpick] at hplan
      have hattempt : ∀ commitOk, allocateWorkspaceIpAttempt commitOk db slot retryIndex =
          if commitOk then
            (db.setLease slot { ip := ip, released := false }, .lease ⟨ip, false⟩)
          else (db, .failed (.ipAllocation "failed to persist IP allocation")) := by
        intro commitOk
        unfold allocateWorkspaceIpAttempt
        rw [hplan]
        dsimp only
        rw [hcommit]
      refine ⟨fun _ => ⟨ip, hmem, hfree, hplan, hattempt true⟩, fun commitOk => ?_⟩
      refine iff_of_false (fun hno => ?_) fun hall => hfree (hall ip hmem)
      rw [hattempt] at hno
      cases commitOk with
      | true => cases hno
      | false =>
          have htext := TopologyError.ipAllocation.inj (AttemptEnd.failed.inj hno)
          exact absurd htext (by decide)

/-- Every subnet has its candidates, and an attempt takes one of them that is free if there is
one. -/
theorem address_allocation_sound_and_complete (net : Network) (g : Nat) (hg : g ∈ net) :
    ∃ candidates, iterCandidateWorkspaceHosts net g = .ok candidates ∧
      GoodCandidates net g candidates ∧
      ∀ db slot retryIndex, Unleased db slot net g →
        AttemptSound db slot candidates retryIndex := by
  obtain ⟨candidates, hcand, hgood⟩ := candidates_good hg
  exact ⟨candidates, hcand, hgood, fun db slot retryIndex h => attempt_sound h hcand retryIndex⟩

/-- A subnet of six hosts, the gateway the first of them. -/
def smallSubnet : Network := ⟨167772160, 29, by decide, by decide, by decide⟩

def smallSlot : WorkspaceSlot := ⟨⟨1, "node-1"⟩, 7⟩

/-- Workspace 7 has given its address back, and workspace 8 holds the next. -/
def smallDb : TopologyDb where
  runtimes := (∅ : Table TopologyNode TopologyRuntime).insert smallSlot.node
    ⟨1, .ready, some "br-1", some smallSubnet, some 167772161⟩
  allocations := ((∅ : Table WorkspaceSlot IpAllocation).insert smallSlot ⟨167772162, true⟩).insert
    ⟨smallSlot.node, 8⟩ ⟨167772163, false⟩
  attachments := ∅
  nextRuntimeId := 2
  nextAttachmentId := 1

theorem smallDb_unleased : Unleased smallDb smallSlot smallSubnet 167772161 where
  ready := rfl
  gateway := by decide
  released := by
    intro lease hlease
    have hrow : smallDb.allocations.lookup smallSlot = some ⟨167772162, true⟩ := by decide
    obtain rfl := Option.some.inj (hrow.symm.trans hlease)
    rfl

theorem small_subnet_attempt : ∃ candidates,
    iterCandidateWorkspaceHosts smallSubnet 167772161 = .ok candidates ∧
      AttemptSound smallDb smallSlot candidates 1 := by
  obtain ⟨candidates, hcand, -, hsound⟩ :=
    address_allocation_sound_and_complete smallSubnet 167772161 (by decide)
  exact ⟨candidates, hcand, hsound smallDb smallSlot 1 smallDb_unleased⟩

end Devnest
