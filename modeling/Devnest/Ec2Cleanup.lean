import Devnest.Ec2Tags
import Devnest.Logged

/-!
# Cleaning up after EC2 nodes

`ec2_cleanup.py`: two sweeps over the volumes, network interfaces, elastic
addresses and security groups of an account. One runs from the janitor and
takes every orphan (`cleanup_devnest_autocleanup_orphans`), the other follows
the end of an instance and takes what its node left (`cleanup_after_instance_terminated`).

AWS answers each call with what it likes, and may answer differently when the
log of calls is longer: the account changes under the sweep. Whatever it
answers, a sweep deletes only what it was shown as tagged and free
(`orphan_sweep_sound`, `node_sweep_sound`), and one that is not interrupted tries
everything of that kind (`orphan_sweep_complete`).
-/

namespace Devnest

open PyText Logged Logged.Program

/-! ## Resources -/

structure Volume where
  volumeId : Option String
  state : Option String
  attachments : List String
  tags : List Ec2Tag
  deriving DecidableEq, Repr

structure NetworkInterface where
  networkInterfaceId : Option String
  status : Option String
  tagSet : List Ec2Tag
  deriving DecidableEq, Repr

structure ElasticAddress where
  allocationId : Option String
  associationId : Option String := none
  instanceId : Option String := none
  networkInterfaceId : Option String := none
  tags : List Ec2Tag
  deriving DecidableEq, Repr

structure SecurityGroup where
  groupId : Option String
  tags : List Ec2Tag
  deriving DecidableEq, Repr

structure Ec2Filter where
  name : String
  values : List String
  deriving DecidableEq, Repr

inductive Ec2Resource where
  | volume | networkInterface | elasticIp | securityGroup
  deriving DecidableEq, Repr

/-- What a delete call is answered: done, a `ClientError`, or another exception. -/
inductive Ec2Deletion where
  | done
  | clientError (code : String)
  | raised (message : String)
  deriving DecidableEq, Repr

/-- The calls to AWS, with the answers that the sweeps use. -/
inductive Ec2Event where
  | volumes (filters : List Ec2Filter) (answer : Except String (List Volume))
  | networkInterfaces (filters : List Ec2Filter) (answer : Except String (List NetworkInterface))
  | addresses (answer : Except String (List ElasticAddress))
  | securityGroups (filters : List Ec2Filter) (answer : Except String (List SecurityGroup))
  /-- The network interfaces of a group. -/
  | groupInterfaces (groupId : String) (answer : Except String (List String))
  /-- The states of the instances of a group. -/
  | groupInstances (groupId : String) (answer : Except String (List (Option String)))
  | delete (resource : Ec2Resource) (id : String) (answer : Ec2Deletion)
  deriving DecidableEq

/-- AWS, and whatever else works on the account. -/
structure Ec2Client where
  describeVolumes : List Ec2Event → List Ec2Filter → Except String (List Volume)
  describeNetworkInterfaces : List Ec2Event → List Ec2Filter →
    Except String (List NetworkInterface)
  describeAddresses : List Ec2Event → Except String (List ElasticAddress)
  describeSecurityGroups : List Ec2Event → List Ec2Filter → Except String (List SecurityGroup)
  groupInterfaces : List Ec2Event → String → Except String (List String)
  groupInstances : List Ec2Event → String → Except String (List (Option String))
  delete : List Ec2Event → Ec2Resource → String → Ec2Deletion

structure Ec2Settings where
  devnestEc2OrphanScanElasticIps : Bool := true
  devnestAwsControlPlaneInstanceIds : String := ""

abbrev Ec2Sweep (α : Type) := Program Ec2Event String α

section Calls

variable (client : Ec2Client)

def autocleanupFilters : List Ec2Filter :=
  [⟨"tag:ManagedBy", ["DevNest"]⟩, ⟨"tag:Project", ["DevNest"]⟩, ⟨"tag:AutoCleanup", ["true"]⟩]

/-- `_describe_filtered_volumes`. -/
def describeFilteredVolumes (extra : List Ec2Filter) : Ec2Sweep (List Volume) :=
  ask fun log =>
    (client.describeVolumes log (autocleanupFilters ++ extra),
      .volumes (autocleanupFilters ++ extra)
        (client.describeVolumes log (autocleanupFilters ++ extra)))

/-- `_describe_filtered_enis`. -/
def describeFilteredEnis (extra : List Ec2Filter) : Ec2Sweep (List NetworkInterface) :=
  ask fun log =>
    (client.describeNetworkInterfaces log (autocleanupFilters ++ extra),
      .networkInterfaces (autocleanupFilters ++ extra)
        (client.describeNetworkInterfaces log (autocleanupFilters ++ extra)))

/-- `_describe_all_ec2_addresses`. -/
def describeAllEc2Addresses : Ec2Sweep (List ElasticAddress) :=
  ask fun log => (client.describeAddresses log, .addresses (client.describeAddresses log))

/-- Both sweeps ask for the addresses under a setting. -/
def describeAddressesIfScanned (settings : Ec2Settings) : Ec2Sweep (List ElasticAddress) :=
  if settings.devnestEc2OrphanScanElasticIps then describeAllEc2Addresses client else pure []

/-- `_describe_filtered_security_groups`. -/
def describeFilteredSecurityGroups : Ec2Sweep (List SecurityGroup) :=
  ask fun log => (client.describeSecurityGroups log autocleanupFilters,
    .securityGroups autocleanupFilters (client.describeSecurityGroups log autocleanupFilters))

/-- An instance that still holds its groups. -/
def instanceLives (state : Option String) : Bool :=
  lower (state.getD "") ∉ ["terminated", "shutting-down"]

/-- `_security_group_in_use`. -/
def securityGroupInUse (groupId : String) : Ec2Sweep Bool := do
  let interfaces ← ask fun log =>
    (client.groupInterfaces log groupId,
      .groupInterfaces groupId (client.groupInterfaces log groupId))
  if interfaces ≠ [] then pure true
  else do
    let states ← ask fun log =>
      (client.groupInstances log groupId,
        .groupInstances groupId (client.groupInstances log groupId))
    pure (states.any instanceLives)

/-- One delete call, and whether it counts: a `ClientError` is logged and passed over. -/
def tryDelete (resource : Ec2Resource) (id : String) : Ec2Sweep Bool :=
  ask fun log =>
    (match client.delete log resource id with
      | .done => .ok true
      | .clientError _ => .ok false
      | .raised message => .error message,
    .delete resource id (client.delete log resource id))

/-- One turn of the loops of `cleanup_devnest_autocleanup_orphans`. -/
def deleteCounted (resource : Ec2Resource) (count : Nat) (id : Option String) : Ec2Sweep Nat :=
  if stripOr id = "" then pure count
  else do
    let deleted ← tryDelete client resource (stripOr id)
    pure (if deleted then count + 1 else count)

end Calls

/-! ## What is free -/

/-- An unattached volume with the four tags. -/
def Volume.isOrphan (v : Volume) : Bool :=
  devnestAutocleanupEligible v.tags && lower (v.state.getD "") = "available" && v.attachments = []

def NetworkInterface.isOrphan (n : NetworkInterface) : Bool :=
  devnestAutocleanupEligible n.tagSet && lower (n.status.getD "") = "available"

def ElasticAddress.isOrphan (a : ElasticAddress) : Bool :=
  devnestAutocleanupEligible a.tags && stripOr a.associationId = "" && stripOr a.instanceId = "" &&
    stripOr a.networkInterfaceId = ""

/-- The post-terminate sweep asks an address for its association only. -/
def ElasticAddress.isLeftBy (nk : String) (a : ElasticAddress) : Bool :=
  devnestAutocleanupEligible a.tags && executionNodeTag a.tags = nk && stripOr a.associationId = ""

def SecurityGroup.isLeftBy (nk : String) (g : SecurityGroup) : Bool :=
  devnestAutocleanupEligible g.tags && executionNodeTag g.tags = nk

/-! ## The orphan sweep -/

structure AwsOrphansReport where
  volumes : List Volume
  networkInterfaces : List NetworkInterface
  elasticIps : List ElasticAddress
  securityGroups : List SecurityGroup

/-- One turn of the loop over the security groups. -/
def reportGroup (client : Ec2Client) (found : List SecurityGroup) (g : SecurityGroup) :
    Ec2Sweep (List SecurityGroup) :=
  if !devnestAutocleanupEligible g.tags || stripOr g.groupId = "" then pure found
  else do
    let used ← securityGroupInUse client (stripOr g.groupId)
    pure (if used then found else found ++ [g])

/-- `discover_devnest_autocleanup_orphans`. -/
def discoverDevnestAutocleanupOrphans (client : Ec2Client) (settings : Ec2Settings) :
    Ec2Sweep AwsOrphansReport := do
  let volumes ← describeFilteredVolumes client []
  let interfaces ← describeFilteredEnis client []
  let addresses ← describeAddressesIfScanned client settings
  let groups ← describeFilteredSecurityGroups client
  let free ← foldEach (reportGroup client) [] groups
  pure ⟨volumes.filter Volume.isOrphan, interfaces.filter NetworkInterface.isOrphan,
    addresses.filter ElasticAddress.isOrphan, free⟩

structure Ec2CleanupCounts where
  volumesDeleted : Nat
  enisDeleted : Nat
  eipsReleased : Nat
  securityGroupsDeleted : Nat
  deriving DecidableEq, Repr

/-- `cleanup_devnest_autocleanup_orphans`. -/
def cleanupDevnestAutocleanupOrphans (client : Ec2Client) (settings : Ec2Settings) :
    Ec2Sweep Ec2CleanupCounts := do
  let report ← discoverDevnestAutocleanupOrphans client settings
  let volumes ← foldEach (deleteCounted client .volume) 0 (report.volumes.map (·.volumeId))
  let enis ← foldEach (deleteCounted client .networkInterface) 0
    (report.networkInterfaces.map (·.networkInterfaceId))
  let eips ← foldEach (deleteCounted client .elasticIp) 0 (report.elasticIps.map (·.allocationId))
  let groups ← foldEach (deleteCounted client .securityGroup) 0
    (report.securityGroups.map (·.groupId))
  pure ⟨volumes, enis, eips, groups⟩

/-! ## The sweep after an instance -/

/-- `_control_plane_instance_ids`. -/
def controlPlaneInstanceIds (settings : Ec2Settings) : List String :=
  ((splitChar ',' (strip settings.devnestAwsControlPlaneInstanceIds).toList).map fun w =>
    strip (String.ofList w)).filter (· ≠ "")

/-- One turn of the loops of `cleanup_after_instance_terminated` that need no further question. -/
def deleteIf (client : Ec2Client) (resource : Ec2Resource) (free : Bool) (id : Option String) :
    Ec2Sweep Unit :=
  if !free || stripOr id = "" then pure ()
  else do
    let _ ← tryDelete client resource (stripOr id)
    pure ()

/-- One turn of the loop over the security groups. -/
def deleteGroupIfFree (client : Ec2Client) (nk : String) (g : SecurityGroup) : Ec2Sweep Unit :=
  if !g.isLeftBy nk || stripOr g.groupId = "" then pure ()
  else do
    let used ← securityGroupInUse client (stripOr g.groupId)
    if used then pure ()
    else do
      let _ ← tryDelete client .securityGroup (stripOr g.groupId)
      pure ()

/-- `cleanup_after_instance_terminated`. -/
def cleanupAfterInstanceTerminated (client : Ec2Client) (settings : Ec2Settings)
    (instanceId nodeKey : Option String) : Ec2Sweep Unit :=
  let iid := stripOr instanceId
  let nk := stripOr nodeKey
  if iid = "" || nk = "" || iid ∈ controlPlaneInstanceIds settings then pure ()
  else do
    let volumes ← describeFilteredVolumes client [⟨"tag:ExecutionNode", [nk]⟩]
    foldEach (fun _ v => deleteIf client .volume v.isOrphan v.volumeId) () volumes
    let interfaces ← describeFilteredEnis client [⟨"tag:ExecutionNode", [nk]⟩]
    foldEach (fun _ n => deleteIf client .networkInterface n.isOrphan n.networkInterfaceId) ()
      interfaces
    let addresses ← describeAddressesIfScanned client settings
    foldEach (fun _ a => deleteIf client .elasticIp (a.isLeftBy nk) a.allocationId) () addresses
    let groups ← describeFilteredSecurityGroups client
    foldEach (fun _ g => deleteGroupIfFree client nk g) () groups

/-! ## What a sweep may delete -/

/-- Rows that a sweep may take, with the filters they were asked for under. -/
structure Ec2Targets where
  volume : List Ec2Filter → Volume → Prop
  networkInterface : List Ec2Filter → NetworkInterface → Prop
  elasticIp : ElasticAddress → Prop
  securityGroup : SecurityGroup → Prop

/-- The two questions about a group, one after the other, found nothing that uses it. -/
def FoundFree (log : List Ec2Event) (id : String) : Prop :=
  ∃ newer older states, log = newer ++ .groupInstances id (.ok states) ::
      .groupInterfaces id (.ok []) :: older ∧ ∀ s ∈ states, instanceLives s = false

namespace Ec2Targets

/-- AWS has shown a row with this id. -/
def Offered (T : Ec2Targets) (log : List Ec2Event) : Ec2Resource → String → Prop
  | .volume, id => ∃ fs rows v, .volumes fs (.ok rows) ∈ log ∧ v ∈ rows ∧ T.volume fs v ∧
      stripOr v.volumeId = id
  | .networkInterface, id => ∃ fs rows n, .networkInterfaces fs (.ok rows) ∈ log ∧ n ∈ rows ∧
      T.networkInterface fs n ∧ stripOr n.networkInterfaceId = id
  | .elasticIp, id => ∃ rows a, .addresses (.ok rows) ∈ log ∧ a ∈ rows ∧ T.elasticIp a ∧
      stripOr a.allocationId = id
  | .securityGroup, id => (∃ fs rows g, .securityGroups fs (.ok rows) ∈ log ∧ g ∈ rows ∧
      T.securityGroup g ∧ stripOr g.groupId = id) ∧ FoundFree log id

/-- A delete call names a row that was offered; other calls change nothing. -/
def Justifies (T : Ec2Targets) (log : List Ec2Event) : Ec2Event → Prop
  | .delete resource id _ => id ≠ "" ∧ T.Offered log resource id
  | _ => True

end Ec2Targets

theorem FoundFree.append {log : List Ec2Event} {id : String} (h : FoundFree log id)
    (more : List Ec2Event) : FoundFree (more ++ log) id := by
  obtain ⟨newer, older, states, rfl, hdead⟩ := h
  exact ⟨more ++ newer, older, states, (List.append_assoc _ _ _).symm, hdead⟩

/-- What was offered stays offered. -/
theorem Ec2Targets.Offered.append {T : Ec2Targets} {log : List Ec2Event} {resource : Ec2Resource}
    {id : String} (h : T.Offered log resource id) (more : List Ec2Event) :
    T.Offered (more ++ log) resource id := by
  cases resource with
  | volume =>
      obtain ⟨fs, rows, v, hmem, h⟩ := h
      exact ⟨fs, rows, v, List.mem_append_right more hmem, h⟩
  | networkInterface =>
      obtain ⟨fs, rows, n, hmem, h⟩ := h
      exact ⟨fs, rows, n, List.mem_append_right more hmem, h⟩
  | elasticIp =>
      obtain ⟨rows, a, hmem, h⟩ := h
      exact ⟨rows, a, List.mem_append_right more hmem, h⟩
  | securityGroup =>
      obtain ⟨⟨fs, rows, g, hmem, h⟩, hfree⟩ := h
      exact ⟨⟨fs, rows, g, List.mem_append_right more hmem, h⟩, hfree.append more⟩

/-! ## Rules for the calls -/

section Rules

variable {client : Ec2Client} {T : Ec2Targets} {K : List Ec2Event → Prop}

/-- Knowledge that calls do not take away. -/
def Lasting (K : List Ec2Event → Prop) : Prop := ∀ e log, K log → K (e :: log)

theorem lasting_mem (e : Ec2Event) : Lasting (e ∈ ·) := fun e' _ h => List.mem_cons_of_mem e' h

theorem lasting_foundFree (id : String) : Lasting (FoundFree · id) := fun e _ h => h.append [e]

theorem Lasting.and {K K' : List Ec2Event → Prop} (h : Lasting K) (h' : Lasting K') :
    Lasting fun log => K log ∧ K' log := fun e log hlog => ⟨h e log hlog.1, h' e log hlog.2⟩

/-- A sound log with this knowledge. -/
def Knows (T : Ec2Targets) (K : List Ec2Event → Prop) (log : List Ec2Event) : Prop :=
  Sound T.Justifies log ∧ K log

/-- A question. -/
theorem spec_ask {α : Type} {answer : List Ec2Event → Except String α}
    {event : Except String α → Ec2Event} (hK : Lasting K)
    (hquiet : ∀ log x, T.Justifies log (event x)) :
    Spec (Knows T K) (ask fun log => (answer log, event (answer log)))
      (fun a => Knows T fun log => K log ∧ event (.ok a) ∈ log) (Sound T.Justifies) := by
  refine Spec.ask (fun log a e h heq => ?_) fun log x e h heq => ?_
  · obtain ⟨ha, rfl⟩ := Prod.mk.inj heq
    rw [ha]
    exact ⟨⟨hquiet log _, h.1⟩, hK _ log h.2, List.mem_cons_self⟩
  · obtain ⟨-, rfl⟩ := Prod.mk.inj heq
    exact ⟨hquiet log _, h.1⟩

theorem spec_tryDelete {resource : Ec2Resource} {id : String} (hK : Lasting K) (hid : id ≠ "")
    (hoffered : ∀ log, K log → T.Offered log resource id) :
    Spec (Knows T K) (tryDelete client resource id) (fun _ => Knows T K) (Sound T.Justifies) := by
  refine Spec.ask (fun log a e h heq => ?_) fun log x e h heq => ?_
  · obtain ⟨-, rfl⟩ := Prod.mk.inj heq
    exact ⟨⟨⟨hid, hoffered log h.2⟩, h.1⟩, hK _ log h.2⟩
  · obtain ⟨-, rfl⟩ := Prod.mk.inj heq
    exact ⟨⟨hid, hoffered log h.2⟩, h.1⟩

/-- The question whether a group is used; a free one is found free. -/
theorem spec_securityGroupInUse {id : String} (hK : Lasting K) :
    Spec (Knows T K) (securityGroupInUse client id)
      (fun used => Knows T fun log => K log ∧ (used = false → FoundFree log id))
      (Sound T.Justifies) := by
  unfold securityGroupInUse
  refine Spec.bind (S := fun interfaces log => Knows T K log ∧
    ∃ older, log = .groupInterfaces id (.ok interfaces) :: older) ?_ fun interfaces => ?_
  · refine Spec.ask (fun log a e h heq => ?_) fun log x e h heq => ?_
    · obtain ⟨ha, rfl⟩ := Prod.mk.inj heq
      rw [ha]
      exact ⟨⟨⟨trivial, h.1⟩, hK _ log h.2⟩, log, rfl⟩
    · obtain ⟨-, rfl⟩ := Prod.mk.inj heq
      exact ⟨trivial, h.1⟩
  · refine Spec.ite (fun _ => Spec.pure fun log h =>
      ⟨h.1.1, h.1.2, fun hfree => Bool.noConfusion hfree⟩) fun hnone => ?_
    obtain rfl := not_not.mp hnone
    refine Spec.bind (S := fun states => Knows T fun log => K log ∧
      ((∀ s ∈ states, instanceLives s = false) → FoundFree log id)) ?_ fun states => ?_
    · refine Spec.ask (fun log a e h heq => ?_) fun log x e h heq => ?_
      · obtain ⟨ha, rfl⟩ := Prod.mk.inj heq
        obtain ⟨older, rfl⟩ := h.2
        rw [ha]
        exact ⟨⟨trivial, h.1.1⟩, hK _ _ h.1.2, fun hdead => ⟨[], older, a, rfl, hdead⟩⟩
      · obtain ⟨-, rfl⟩ := Prod.mk.inj heq
        exact ⟨trivial, h.1.1⟩
    · refine Spec.pure fun log h => ⟨h.1, h.2.1, fun hused => h.2.2 fun s hs => ?_⟩
      exact Bool.eq_false_iff.mpr fun hlives =>
        Bool.false_ne_true (hused.symm.trans (List.any_eq_true.mpr ⟨s, hs, hlives⟩))

/-- A loop of deletions, each of something that was offered. -/
theorem spec_deleteCounted {resource : Ec2Resource} {ids : List (Option String)} {n : Nat}
    (hK : Lasting K)
    (hoffered : ∀ id ∈ ids, stripOr id ≠ "" → ∀ log, K log → T.Offered log resource (stripOr id)) :
    Spec (Knows T K) (foldEach (deleteCounted client resource) n ids) (fun _ => Knows T K)
      (Sound T.Justifies) := by
  refine Spec.foldEach (I := fun _ _ => Knows T K) (d := []) fun _ id count hid => ?_
  refine Spec.ite (fun _ => Spec.pure fun log h => h) fun hne => ?_
  exact Spec.bind (spec_tryDelete hK hne (hoffered id hid hne)) fun _ => Spec.pure fun log h => h

/-- A loop of the post-terminate sweep. -/
theorem spec_deleteIf {α : Type} {resource : Ec2Resource} {rows : List α} {free : α → Bool}
    {id : α → Option String} (hK : Lasting K)
    (hoffered : ∀ a ∈ rows, free a = true → ∀ log, K log →
      T.Offered log resource (stripOr (id a))) :
    Spec (Knows T K)
      (foldEach (fun _ a => deleteIf client resource (free a) (id a)) () rows)
      (fun _ => Knows T K) (Sound T.Justifies) := by
  refine Spec.foldEach (I := fun _ _ => Knows T K) (d := []) fun _ a _ ha => ?_
  refine Spec.ite (fun _ => Spec.pure fun log h => h) fun hgo => ?_
  simp only [Bool.or_eq_true, Bool.not_eq_true', decide_eq_true_eq, not_or,
    Bool.not_eq_false] at hgo
  exact Spec.bind (spec_tryDelete hK hgo.2 (hoffered a ha hgo.1)) fun _ =>
    Spec.pure fun log h => h

/-- The addresses are asked for only when the setting says so. -/
theorem lasting_addresses (as : List ElasticAddress) :
    Lasting fun log => as ≠ [] → .addresses (.ok as) ∈ log :=
  fun e _ h hne => List.mem_cons_of_mem e (h hne)

theorem spec_addresses (client : Ec2Client) (settings : Ec2Settings) (hK : Lasting K) :
    Spec (Knows T K) (describeAddressesIfScanned client settings)
      (fun as => Knows T fun log => K log ∧ (as ≠ [] → .addresses (.ok as) ∈ log))
      (Sound T.Justifies) := by
  unfold describeAddressesIfScanned
  refine Spec.ite (fun _ => ?_) fun _ =>
    Spec.pure fun log h => ⟨h.1, h.2, fun hne => absurd rfl hne⟩
  exact Spec.conseq (spec_ask hK fun _ _ => trivial) (fun _ h => h)
    (fun as log h => ⟨h.1, h.2.1, fun _ => h.2.2⟩) fun _ h => h

end Rules

/-! ## The orphan sweep deletes orphans only -/

/-- Every orphan, whoever left it. -/
def orphanTargets : Ec2Targets where
  volume _ v := v.isOrphan = true
  networkInterface _ n := n.isOrphan = true
  elasticIp a := a.isOrphan = true
  securityGroup g := devnestAutocleanupEligible g.tags = true

/-- Everything in the report was offered. -/
structure Reported (report : AwsOrphansReport) (log : List Ec2Event) : Prop where
  volumes : ∀ v ∈ report.volumes, orphanTargets.Offered log .volume (stripOr v.volumeId)
  interfaces : ∀ n ∈ report.networkInterfaces,
    orphanTargets.Offered log .networkInterface (stripOr n.networkInterfaceId)
  addresses : ∀ a ∈ report.elasticIps,
    orphanTargets.Offered log .elasticIp (stripOr a.allocationId)
  groups : ∀ g ∈ report.securityGroups,
    orphanTargets.Offered log .securityGroup (stripOr g.groupId)

theorem lasting_reported (report : AwsOrphansReport) : Lasting (Reported report) :=
  fun e _ h => ⟨fun v hv => (h.volumes v hv).append [e], fun n hn => (h.interfaces n hn).append [e],
    fun a ha => (h.addresses a ha).append [e], fun g hg => (h.groups g hg).append [e]⟩

section Orphans

variable (client : Ec2Client) (settings : Ec2Settings)

theorem spec_reportGroup {K : List Ec2Event → Prop} (hK : Lasting K) (gs : List SecurityGroup) :
    Spec (Knows orphanTargets K) (foldEach (reportGroup client) [] gs)
      (fun found => Knows orphanTargets fun log => K log ∧ ∀ g ∈ found, g ∈ gs ∧
        devnestAutocleanupEligible g.tags = true ∧ FoundFree log (stripOr g.groupId))
      (Sound orphanTargets.Justifies) := by
  have hfound : ∀ found : List SecurityGroup, Lasting fun log => K log ∧ ∀ g ∈ found, g ∈ gs ∧
      devnestAutocleanupEligible g.tags = true ∧ FoundFree log (stripOr g.groupId) :=
    fun found e log h => ⟨hK e log h.1, fun g hg =>
      ⟨(h.2 g hg).1, (h.2 g hg).2.1, (h.2 g hg).2.2.append [e]⟩⟩
  refine Spec.conseq (Spec.foldEach (I := fun _ found => Knows orphanTargets fun log => K log ∧
    ∀ g ∈ found, g ∈ gs ∧ devnestAutocleanupEligible g.tags = true ∧
      FoundFree log (stripOr g.groupId)) (d := []) fun _ g found hg => ?_)
    (fun log h => ⟨h.1, h.2, fun g hg => absurd hg List.not_mem_nil⟩) (fun _ _ h => h)
    fun _ h => h
  refine Spec.ite (fun _ => Spec.pure fun log h => h) fun hgo => ?_
  simp only [Bool.or_eq_true, Bool.not_eq_true', decide_eq_true_eq, not_or,
    Bool.not_eq_false] at hgo
  refine Spec.bind (spec_securityGroupInUse (hfound found)) fun used => Spec.pure fun log h => ?_
  cases used with
  | true => exact ⟨h.1, h.2.1⟩
  | false =>
      refine ⟨h.1, h.2.1.1, fun g' hg' => ?_⟩
      rcases List.mem_append.mp hg' with hg' | hg'
      · exact h.2.1.2 g' hg'
      · obtain rfl := List.mem_singleton.mp hg'
        exact ⟨hg, hgo.1, h.2.2 rfl⟩

theorem spec_discover :
    Spec (Knows orphanTargets fun _ => True) (discoverDevnestAutocleanupOrphans client settings)
      (fun report => Knows orphanTargets (Reported report)) (Sound orphanTargets.Justifies) := by
  have htrue : Lasting fun _ => True := fun _ _ _ => trivial
  unfold discoverDevnestAutocleanupOrphans
  refine Spec.bind (spec_ask htrue fun _ _ => trivial) fun vs => ?_
  have hvs := htrue.and (lasting_mem (.volumes (autocleanupFilters ++ []) (.ok vs)))
  refine Spec.bind (spec_ask hvs fun _ _ => trivial) fun ns => ?_
  have hns := hvs.and (lasting_mem (.networkInterfaces (autocleanupFilters ++ []) (.ok ns)))
  refine Spec.bind (spec_addresses client settings hns) fun as => ?_
  have has := hns.and (lasting_addresses as)
  refine Spec.bind (spec_ask has fun _ _ => trivial) fun gs => ?_
  have hgs := has.and (lasting_mem (.securityGroups autocleanupFilters (.ok gs)))
  refine Spec.bind (spec_reportGroup client hgs gs) fun found => Spec.pure fun log h => ⟨h.1, ?_⟩
  obtain ⟨⟨⟨⟨⟨-, hvs⟩, hns⟩, has⟩, hgs⟩, hfound⟩ := h.2
  refine ⟨fun v hv => ?_, fun n hn => ?_, fun a ha => ?_, fun g hg => ?_⟩
  · obtain ⟨hv, horphan⟩ := List.mem_filter.mp hv
    exact ⟨_, vs, v, hvs, hv, horphan, rfl⟩
  · obtain ⟨hn, horphan⟩ := List.mem_filter.mp hn
    exact ⟨_, ns, n, hns, hn, horphan, rfl⟩
  · obtain ⟨ha, horphan⟩ := List.mem_filter.mp ha
    exact ⟨as, a, has (List.ne_nil_of_mem ha), ha, horphan, rfl⟩
  · obtain ⟨hg, helig, hfree⟩ := hfound g hg
    exact ⟨⟨_, gs, g, hgs, hg, helig, rfl⟩, hfree⟩

/-- **The orphan sweep deletes orphans only.** Whatever AWS answers, and however the account
changes meanwhile: each delete call of a sweep names a resource that AWS has shown to this sweep,
before, with the four tags and attached to nothing. -/
theorem orphan_sweep_sound :
    Sound orphanTargets.Justifies (cleanupDevnestAutocleanupOrphans client settings []).2 := by
  have hspec : Spec (Knows orphanTargets fun _ => True)
      (cleanupDevnestAutocleanupOrphans client settings) (fun _ => Sound orphanTargets.Justifies)
      (Sound orphanTargets.Justifies) := by
    unfold cleanupDevnestAutocleanupOrphans
    refine Spec.bind (spec_discover client settings) fun report => ?_
    have hK := lasting_reported report
    refine Spec.bind (spec_deleteCounted hK fun id hid _ log h => ?_) fun _ => ?_
    · obtain ⟨v, hv, rfl⟩ := List.mem_map.mp hid
      exact h.volumes v hv
    refine Spec.bind (spec_deleteCounted hK fun id hid _ log h => ?_) fun _ => ?_
    · obtain ⟨n, hn, rfl⟩ := List.mem_map.mp hid
      exact h.interfaces n hn
    refine Spec.bind (spec_deleteCounted hK fun id hid _ log h => ?_) fun _ => ?_
    · obtain ⟨a, ha, rfl⟩ := List.mem_map.mp hid
      exact h.addresses a ha
    refine Spec.bind (spec_deleteCounted hK fun id hid _ log h => ?_) fun _ =>
      Spec.pure fun log h => h.1
    · obtain ⟨g, hg, rfl⟩ := List.mem_map.mp hid
      exact h.groups g hg
  exact hspec.log ⟨trivial, trivial⟩ (fun _ _ h => h) fun _ h => h

end Orphans

/-! ## The orphan sweep tries every orphan -/

def Tried (log : List Ec2Event) (resource : Ec2Resource) (id : String) : Prop :=
  ∃ answer, .delete resource id answer ∈ log

/-- The deletions that AWS has confirmed. -/
def doneCount (resource : Ec2Resource) (log : List Ec2Event) : Nat :=
  log.countP fun
    | .delete r _ .done => r = resource
    | _ => false

def AwsOrphansReport.ids (report : AwsOrphansReport) : Ec2Resource → List (Option String)
  | .volume => report.volumes.map (·.volumeId)
  | .networkInterface => report.networkInterfaces.map (·.networkInterfaceId)
  | .elasticIp => report.elasticIps.map (·.allocationId)
  | .securityGroup => report.securityGroups.map (·.groupId)

def Ec2CleanupCounts.of (counts : Ec2CleanupCounts) : Ec2Resource → Nat
  | .volume => counts.volumesDeleted
  | .networkInterface => counts.enisDeleted
  | .elasticIp => counts.eipsReleased
  | .securityGroup => counts.securityGroupsDeleted

/-- Everything offered is in the report. -/
def Covers (report : AwsOrphansReport) (log : List Ec2Event) : Prop :=
  ∀ resource id, orphanTargets.Offered log resource id →
    ∃ id' ∈ report.ids resource, stripOr id' = id

/-- A group is found free at the second question, if then. -/
theorem foundFree_cons {e : Ec2Event} {log : List Ec2Event} {id : String} :
    FoundFree (e :: log) id ↔ FoundFree log id ∨
      ∃ states older, e = .groupInstances id (.ok states) ∧
        log = .groupInterfaces id (.ok []) :: older ∧ ∀ s ∈ states, instanceLives s = false := by
  constructor
  · rintro ⟨newer, older, states, heq, hdead⟩
    cases newer with
    | nil =>
        obtain ⟨rfl, rfl⟩ := List.cons.inj heq
        exact .inr ⟨states, older, rfl, rfl, hdead⟩
    | cons e' newer =>
        obtain ⟨-, rfl⟩ := List.cons.inj heq
        exact .inl ⟨newer, older, states, rfl, hdead⟩
  · rintro (h | ⟨states, older, rfl, rfl, hdead⟩)
    · exact h.append [e]
    · exact ⟨[], older, states, rfl, hdead⟩

/-- A delete call offers nothing. -/
theorem offered_delete_cons {T : Ec2Targets} {r resource : Ec2Resource} {i id : String}
    {answer : Ec2Deletion} {log : List Ec2Event}
    (h : T.Offered (.delete r i answer :: log) resource id) : T.Offered log resource id := by
  cases resource with
  | volume =>
      obtain ⟨fs, rows, v, hmem, h⟩ := h
      exact ⟨fs, rows, v, (List.mem_cons.mp hmem).resolve_left (by simp), h⟩
  | networkInterface =>
      obtain ⟨fs, rows, n, hmem, h⟩ := h
      exact ⟨fs, rows, n, (List.mem_cons.mp hmem).resolve_left (by simp), h⟩
  | elasticIp =>
      obtain ⟨rows, a, hmem, h⟩ := h
      exact ⟨rows, a, (List.mem_cons.mp hmem).resolve_left (by simp), h⟩
  | securityGroup =>
      obtain ⟨⟨fs, rows, g, hmem, h⟩, hfree⟩ := h
      refine ⟨⟨fs, rows, g, (List.mem_cons.mp hmem).resolve_left (by simp), h⟩, ?_⟩
      exact (foundFree_cons.mp hfree).resolve_right fun ⟨_, _, heq, _⟩ => Ec2Event.noConfusion heq

section Complete

variable {client : Ec2Client} {K : List Ec2Event → Prop}

theorem spec_tryDelete_exact {resource : Ec2Resource} {id : String} {counts : Ec2Resource → Nat}
    (hK : ∀ log answer, K log → K (.delete resource id answer :: log)) :
    Spec (fun log => K log ∧ ∀ r, doneCount r log = counts r) (tryDelete client resource id)
      (fun deleted log => (K log ∧ Tried log resource id) ∧
        ∀ r, doneCount r log = counts r + if r = resource ∧ deleted = true then 1 else 0)
      fun _ => True := by
  refine Spec.ask (fun log deleted e h heq => ?_) fun _ _ _ _ _ => trivial
  obtain ⟨hdeleted, rfl⟩ := Prod.mk.inj heq
  refine ⟨⟨hK log _ h.1, _, List.mem_cons_self⟩, fun r => ?_⟩
  rw [← h.2 r]
  cases hanswer : client.delete log resource id with
  | done =>
      rw [hanswer] at hdeleted
      obtain rfl := Except.ok.inj hdeleted
      by_cases hr : resource = r
      · simp [doneCount, hr]
      · simp [doneCount, hr, Ne.symm hr]
  | clientError code =>
      rw [hanswer] at hdeleted
      obtain rfl := Except.ok.inj hdeleted
      simp [doneCount]
  | raised message =>
      rw [hanswer] at hdeleted
      cases hdeleted

/-- A loop tries every id and counts what is gone. -/
theorem spec_deleteCounted_exact {resource : Ec2Resource} {ids : List (Option String)}
    {counts : Ec2Resource → Nat}
    (hK : ∀ log id answer, K log → K (.delete resource id answer :: log)) :
    Spec (fun log => K log ∧ ∀ r, doneCount r log = counts r)
      (foldEach (deleteCounted client resource) 0 ids)
      (fun n log => (K log ∧ ∀ id ∈ ids, stripOr id ≠ "" → Tried log resource (stripOr id)) ∧
        ∀ r, doneCount r log = counts r + if r = resource then n else 0)
      fun _ => True := by
  refine Spec.conseq (Spec.foldEach (I := fun done n log =>
    (K log ∧ ∀ id ∈ done, stripOr id ≠ "" → Tried log resource (stripOr id)) ∧
      ∀ r, doneCount r log = counts r + if r = resource then n else 0) (d := [])
    fun done id n _ => ?_) (fun log h => ?_) (fun _ _ h => h) fun _ h => h
  · refine Spec.ite (fun hempty => Spec.pure fun log h => ?_) fun hne => ?_
    · refine ⟨⟨h.1.1, fun id' hid' hne => ?_⟩, h.2⟩
      rcases List.mem_append.mp hid' with hid' | hid'
      · exact h.1.2 id' hid' hne
      · exact absurd hempty (List.mem_singleton.mp hid' ▸ hne)
    · refine Spec.bind (spec_tryDelete_exact fun log answer h => ?_) fun deleted =>
        Spec.pure fun log h => ?_
      · exact ⟨hK log _ answer h.1, fun id' hid' hne =>
          (h.2 id' hid' hne).imp fun _ hmem => List.mem_cons_of_mem _ hmem⟩
      · refine ⟨⟨h.1.1.1, fun id' hid' hne => ?_⟩, fun r => ?_⟩
        · rcases List.mem_append.mp hid' with hid' | hid'
          · exact h.1.1.2 id' hid' hne
          · exact List.mem_singleton.mp hid' ▸ h.1.2
        · rw [h.2 r]
          cases deleted with
          | true => by_cases hr : r = resource <;> simp [hr, Nat.add_assoc]
          | false => simp
  · exact ⟨⟨h.1, fun id hid => absurd hid List.not_mem_nil⟩, fun r => by simp [h.2 r]⟩

/-- The answers to the four lists. -/
structure Described (vs : List Volume) (ns : List NetworkInterface) (as : List ElasticAddress)
    (gs : List SecurityGroup) (log : List Ec2Event) : Prop where
  volumes : ∀ fs rows, .volumes fs (.ok rows) ∈ log → rows = vs
  networkInterfaces : ∀ fs rows, .networkInterfaces fs (.ok rows) ∈ log → rows = ns
  addresses : ∀ rows, .addresses (.ok rows) ∈ log → rows = as
  securityGroups : ∀ fs rows, .securityGroups fs (.ok rows) ∈ log → rows = gs
  untouched : ∀ r, doneCount r log = 0

theorem Described.groupInterfaces {vs : List Volume} {ns : List NetworkInterface}
    {as : List ElasticAddress} {gs : List SecurityGroup} {log : List Ec2Event}
    (h : Described vs ns as gs log) (id : String) (answer : Except String (List String)) :
    Described vs ns as gs (.groupInterfaces id answer :: log) := by
  refine ⟨fun fs rows hmem => h.volumes fs rows ?_,
    fun fs rows hmem => h.networkInterfaces fs rows ?_, fun rows hmem => h.addresses rows ?_,
    fun fs rows hmem => h.securityGroups fs rows ?_, fun r => ?_⟩
  · simpa using hmem
  · simpa using hmem
  · simpa using hmem
  · simpa using hmem
  · simpa [doneCount] using h.untouched r

theorem Described.groupInstances {vs : List Volume} {ns : List NetworkInterface}
    {as : List ElasticAddress} {gs : List SecurityGroup} {log : List Ec2Event}
    (h : Described vs ns as gs log) (id : String) (answer : Except String (List (Option String))) :
    Described vs ns as gs (.groupInstances id answer :: log) := by
  refine ⟨fun fs rows hmem => h.volumes fs rows ?_,
    fun fs rows hmem => h.networkInterfaces fs rows ?_, fun rows hmem => h.addresses rows ?_,
    fun fs rows hmem => h.securityGroups fs rows ?_, fun r => ?_⟩
  · simpa using hmem
  · simpa using hmem
  · simpa using hmem
  · simpa using hmem
  · simpa [doneCount] using h.untouched r

/-- Asking about one group finds no other one free. -/
theorem spec_securityGroupInUse_exact {id : String} {S : String → Prop}
    (hinterfaces : ∀ log answer, K log → K (.groupInterfaces id answer :: log))
    (hinstances : ∀ log answer, K log → K (.groupInstances id answer :: log)) :
    Spec (fun log => K log ∧ ∀ id', FoundFree log id' → S id') (securityGroupInUse client id)
      (fun used log => K log ∧ ∀ id', FoundFree log id' → S id' ∨ id' = id ∧ used = false)
      fun _ => True := by
  unfold securityGroupInUse
  refine Spec.bind (S := fun interfaces log => (K log ∧ ∀ id', FoundFree log id' → S id') ∧
    ∃ older, log = .groupInterfaces id (.ok interfaces) :: older) ?_ fun interfaces => ?_
  · refine Spec.ask (fun log a e h heq => ?_) fun _ _ _ _ _ => trivial
    obtain ⟨ha, rfl⟩ := Prod.mk.inj heq
    refine ⟨⟨hinterfaces log _ h.1, fun id' hfree => ?_⟩, log, by rw [ha]⟩
    exact h.2 id' ((foundFree_cons.mp hfree).resolve_right fun ⟨_, _, hno, _⟩ =>
      Ec2Event.noConfusion hno)
  · refine Spec.ite (fun _ => Spec.pure fun log h => ⟨h.1.1, fun id' hfree =>
      .inl (h.1.2 id' hfree)⟩) fun _ => ?_
    refine Spec.bind (S := fun states log => K log ∧ ∀ id', FoundFree log id' →
      S id' ∨ id' = id ∧ ∀ s ∈ states, instanceLives s = false) ?_ fun states => ?_
    · refine Spec.ask (fun log a e h heq => ?_) fun _ _ _ _ _ => trivial
      obtain ⟨ha, rfl⟩ := Prod.mk.inj heq
      refine ⟨hinstances log _ h.1.1, fun id' hfree => ?_⟩
      rcases foundFree_cons.mp hfree with hfree | ⟨states, older, hevent, -, hdead⟩
      · exact .inl (h.1.2 id' hfree)
      · obtain ⟨rfl, hanswer⟩ := Ec2Event.groupInstances.inj hevent
        rw [ha] at hanswer
        exact .inr ⟨rfl, Except.ok.inj hanswer ▸ hdead⟩
    · refine Spec.pure fun log h => ⟨h.1, fun id' hfree => ?_⟩
      refine (h.2 id' hfree).imp_right fun hdead => ⟨hdead.1, List.any_eq_false.mpr fun s hs => ?_⟩
      rw [hdead.2 s hs]
      exact Bool.false_ne_true

/-- A question, exactly. -/
theorem spec_ask_exact {α : Type} {answer : List Ec2Event → Except String α}
    {event : Except String α → Ec2Event} :
    Spec K (ask fun log => (answer log, event (answer log)))
      (fun a log => ∃ older, K older ∧ log = event (.ok a) :: older) fun _ => True := by
  refine Spec.ask (fun log a e h heq => ?_) fun _ _ _ _ _ => trivial
  obtain ⟨ha, rfl⟩ := Prod.mk.inj heq
  exact ⟨log, h, by rw [ha]⟩

theorem spec_addresses_exact {settings : Ec2Settings} :
    Spec K (describeAddressesIfScanned client settings)
      (fun as log => ∃ older, K older ∧ (log = .addresses (.ok as) :: older ∨ log = older))
      fun _ => True := by
  unfold describeAddressesIfScanned
  refine Spec.ite (fun _ => ?_) fun _ => Spec.pure fun log h => ⟨log, h, .inr rfl⟩
  exact Spec.conseq spec_ask_exact (fun _ h => h)
    (fun as log ⟨older, hold, heq⟩ => ⟨older, hold, .inl heq⟩) fun _ h => h

/-- The four lists, and no group found free yet. -/
theorem described_start {vs : List Volume} {ns : List NetworkInterface} {as : List ElasticAddress}
    {gs : List SecurityGroup} {fs fs' fs'' : List Ec2Filter} {log : List Ec2Event}
    (h : log = [.addresses (.ok as), .networkInterfaces fs' (.ok ns), .volumes fs (.ok vs)] ∨
      log = [.networkInterfaces fs' (.ok ns), .volumes fs (.ok vs)]) :
    Described vs ns as gs (.securityGroups fs'' (.ok gs) :: log) ∧
      ∀ id, ¬ FoundFree (.securityGroups fs'' (.ok gs) :: log) id := by
  have hnone : ∀ id, ¬ FoundFree [] id := by
    rintro id ⟨newer, older, states, heq, -⟩
    simp at heq
  rcases h with rfl | rfl
  · refine ⟨by constructor <;> simp [doneCount], fun id hfree => ?_⟩
    simp [foundFree_cons, hnone] at hfree
  · refine ⟨by constructor <;> simp [doneCount], fun id hfree => ?_⟩
    simp [foundFree_cons, hnone] at hfree

/-- The groups found free so far. -/
def FoundAll (K : List Ec2Event → Prop) (found : List SecurityGroup) (log : List Ec2Event) : Prop :=
  K log ∧ ∀ id, FoundFree log id → ∃ g ∈ found, stripOr g.groupId = id

theorem spec_reportGroup_exact
    (hinterfaces : ∀ log id answer, K log → K (.groupInterfaces id answer :: log))
    (hinstances : ∀ log id answer, K log → K (.groupInstances id answer :: log))
    (found : List SecurityGroup) (g : SecurityGroup) :
    Spec (FoundAll K found) (reportGroup client found g) (FoundAll K) fun _ => True := by
  unfold reportGroup
  refine Spec.ite (fun _ => Spec.pure fun log h => h) fun _ => ?_
  refine Spec.bind (spec_securityGroupInUse_exact
    (S := fun id => ∃ g ∈ found, stripOr g.groupId = id) (hinterfaces · _) (hinstances · _))
    fun used => Spec.pure fun log h => ⟨h.1, fun id hfree => ?_⟩
  rcases h.2 id hfree with ⟨g', hg', heq⟩ | ⟨rfl, rfl⟩
  · refine ⟨g', ?_, heq⟩
    split
    · exact hg'
    · exact List.mem_append_left _ hg'
  · exact ⟨g, by simp, rfl⟩

/-- The report covers what was offered. -/
theorem spec_discover_covers (client : Ec2Client) (settings : Ec2Settings) :
    Spec (· = []) (discoverDevnestAutocleanupOrphans client settings)
      (fun report log => Covers report log ∧ ∀ r, doneCount r log = 0) fun _ => True := by
  unfold discoverDevnestAutocleanupOrphans
  refine Spec.bind spec_ask_exact fun vs => ?_
  refine Spec.bind spec_ask_exact fun ns => ?_
  refine Spec.bind spec_addresses_exact fun as => ?_
  refine Spec.bind spec_ask_exact fun gs => ?_
  refine Spec.bind (Spec.conseq (Spec.foldEach
    (I := fun _ => FoundAll (Described vs ns as gs)) (d := []) fun _ g found _ =>
      spec_reportGroup_exact (fun _ _ _ h => h.groupInterfaces _ _)
        (fun _ _ _ h => h.groupInstances _ _) found g)
    (fun log h => ?_) (fun _ _ h => h) fun _ h => h) fun found => Spec.pure fun log h => ?_
  · obtain ⟨log₃, ⟨log₂, ⟨log₁, ⟨log₀, rfl, rfl⟩, rfl⟩, hlog₃⟩, rfl⟩ := h
    obtain ⟨hdescribed, hnone⟩ := described_start hlog₃
    exact ⟨hdescribed, fun id hfree => absurd hfree (hnone id)⟩
  · refine ⟨fun resource id hoffered => ?_, h.1.untouched⟩
    cases resource with
    | volume =>
        obtain ⟨fs, rows, v, hmem, hv, horphan, heq⟩ := hoffered
        exact ⟨_, List.mem_map_of_mem
          (List.mem_filter.mpr ⟨h.1.volumes fs rows hmem ▸ hv, horphan⟩), heq⟩
    | networkInterface =>
        obtain ⟨fs, rows, n, hmem, hn, horphan, heq⟩ := hoffered
        exact ⟨_, List.mem_map_of_mem
          (List.mem_filter.mpr ⟨h.1.networkInterfaces fs rows hmem ▸ hn, horphan⟩), heq⟩
    | elasticIp =>
        obtain ⟨rows, a, hmem, ha, horphan, heq⟩ := hoffered
        exact ⟨_, List.mem_map_of_mem
          (List.mem_filter.mpr ⟨h.1.addresses rows hmem ▸ ha, horphan⟩), heq⟩
    | securityGroup =>
        obtain ⟨g, hg, heq⟩ := h.2 id hoffered.2
        exact ⟨_, List.mem_map_of_mem hg, heq⟩

theorem covers_delete {report : AwsOrphansReport} {log : List Ec2Event} (h : Covers report log)
    (r : Ec2Resource) (id : String) (answer : Ec2Deletion) :
    Covers report (.delete r id answer :: log) :=
  fun resource id' hoffered => h resource id' (offered_delete_cons hoffered)

end Complete

/-- The report that a sweep works through. -/
def WorkedThrough (counts : Ec2CleanupCounts) (log : List Ec2Event) : Prop :=
  ∃ report : AwsOrphansReport, Covers report log ∧
    (∀ r, ∀ id ∈ report.ids r, stripOr id ≠ "" → Tried log r (stripOr id)) ∧
    ∀ r, doneCount r log = counts.of r

theorem spec_cleanup_exact (client : Ec2Client) (settings : Ec2Settings) :
    Spec (· = []) (cleanupDevnestAutocleanupOrphans client settings) WorkedThrough
      fun _ => True := by
  unfold cleanupDevnestAutocleanupOrphans
  refine Spec.bind (spec_discover_covers client settings) fun report => ?_
  -- what the loops before have tried stays in the log
  have htried : ∀ {K : List Ec2Event → Prop} {r : Ec2Resource} {l : List (Option String)},
      (∀ log r' id answer, K log → K (.delete r' id answer :: log)) →
        ∀ log r' id answer, (K log ∧ ∀ id ∈ l, stripOr id ≠ "" → Tried log r (stripOr id)) →
          K (.delete r' id answer :: log) ∧
            ∀ id' ∈ l, stripOr id' ≠ "" → Tried (.delete r' id answer :: log) r (stripOr id') :=
    fun hK log r' id answer h => ⟨hK log r' id answer h.1, fun id' hid' hne =>
      (h.2 id' hid' hne).imp fun _ hmem => List.mem_cons_of_mem _ hmem⟩
  have h₀ := fun log r id answer (h : Covers report log) => covers_delete h r id answer
  have h₁ := htried (r := .volume) (l := report.ids .volume) h₀
  have h₂ := htried (r := .networkInterface) (l := report.ids .networkInterface) h₁
  have h₃ := htried (r := .elasticIp) (l := report.ids .elasticIp) h₂
  refine Spec.bind (spec_deleteCounted_exact fun log id answer => h₀ log _ id answer) fun _ => ?_
  refine Spec.bind (spec_deleteCounted_exact fun log id answer => h₁ log _ id answer) fun _ => ?_
  refine Spec.bind (spec_deleteCounted_exact fun log id answer => h₂ log _ id answer) fun _ => ?_
  refine Spec.bind (spec_deleteCounted_exact fun log id answer => h₃ log _ id answer) fun _ =>
    Spec.pure fun log h => ?_
  obtain ⟨⟨⟨⟨⟨hcovers, hvolumes⟩, henis⟩, heips⟩, hgroups⟩, hcounts⟩ := h
  refine ⟨report, hcovers, fun r => ?_, fun r => ?_⟩
  · cases r with
    | volume => exact hvolumes
    | networkInterface => exact henis
    | elasticIp => exact heips
    | securityGroup => exact hgroups
  · rw [hcounts r]
    cases r <;> simp [Ec2CleanupCounts.of]

/-- **The orphan sweep tries every orphan.** If no call raises: each resource with an id that AWS
has shown to the sweep with the four tags and attached to nothing has had its delete call, and the
sweep's counts are the deletions that AWS confirmed. -/
theorem orphan_sweep_complete {client : Ec2Client} {settings : Ec2Settings}
    {counts : Ec2CleanupCounts}
    (hrun : (cleanupDevnestAutocleanupOrphans client settings []).1 = .ok counts)
    (resource : Ec2Resource) :
    (∀ id, id ≠ "" →
      orphanTargets.Offered (cleanupDevnestAutocleanupOrphans client settings []).2 resource id →
        Tried (cleanupDevnestAutocleanupOrphans client settings []).2 resource id) ∧
      counts.of resource =
        doneCount resource (cleanupDevnestAutocleanupOrphans client settings []).2 := by
  obtain ⟨report, hcovers, htried, hcounts⟩ :=
    ((spec_cleanup_exact client settings) [] rfl).1 counts _ (Prod.ext hrun rfl)
  refine ⟨fun id hne hoffered => ?_, (hcounts resource).symm⟩
  obtain ⟨id', hid', rfl⟩ := hcovers resource id hoffered
  exact htried resource id' hid' hne

def leftTags (nodeKey : String) : List Ec2Tag :=
  [⟨"ManagedBy", "DevNest"⟩, ⟨"Project", "DevNest"⟩, ⟨"AutoCleanup", "true"⟩,
    ⟨"ExecutionNode", nodeKey⟩]

/-- An account with what node-1 left, a volume and a security group, and what node-2 uses. The
volume is attached again before its delete call. -/
def halfUsedAccount : Ec2Client where
  describeVolumes _ _ := .ok [⟨some "vol-1", some "available", [], leftTags "node-1"⟩,
    ⟨some "vol-2", some "in-use", ["i-2"], leftTags "node-2"⟩]
  describeNetworkInterfaces _ _ := .ok []
  describeAddresses _ := .ok []
  describeSecurityGroups _ _ :=
    .ok [⟨some "sg-1", leftTags "node-1"⟩, ⟨some "sg-2", leftTags "node-2"⟩]
  groupInterfaces _ groupId := .ok (if groupId = "sg-2" then ["eni-2"] else [])
  groupInstances _ _ := .ok [some "terminated"]
  delete _ resource _ := if resource = .volume then .clientError "VolumeInUse" else .done

/-- The calls of the sweep, the last first. -/
def halfUsedCalls : List Ec2Event := (cleanupDevnestAutocleanupOrphans halfUsedAccount {} []).2

theorem halfUsed_volume : orphanTargets.Offered halfUsedCalls .volume "vol-1" := by
  have horphan : Volume.isOrphan ⟨some "vol-1", some "available", [], leftTags "node-1"⟩ = true := by
    decide +kernel
  exact ⟨autocleanupFilters, [⟨some "vol-1", some "available", [], leftTags "node-1"⟩,
    ⟨some "vol-2", some "in-use", ["i-2"], leftTags "node-2"⟩], _, by decide +kernel,
    List.mem_cons_self, horphan, by decide +kernel⟩

theorem halfUsed_group : orphanTargets.Offered halfUsedCalls .securityGroup "sg-1" := by
  have heligible : devnestAutocleanupEligible (leftTags "node-1") = true := by decide +kernel
  exact ⟨⟨autocleanupFilters, [⟨some "sg-1", leftTags "node-1"⟩, ⟨some "sg-2", leftTags "node-2"⟩],
    _, by decide +kernel, List.mem_cons_self, heligible, by decide +kernel⟩,
    halfUsedCalls.take 3, halfUsedCalls.drop 5, [some "terminated"], by decide +kernel,
    by decide +kernel⟩

/-- Both are tried, and only the group is counted. -/
theorem left_volume_and_group_tried :
    Tried halfUsedCalls .volume "vol-1" ∧ Tried halfUsedCalls .securityGroup "sg-1" ∧
      ∀ resource, Ec2CleanupCounts.of ⟨0, 0, 0, 1⟩ resource = doneCount resource halfUsedCalls := by
  have hrun : (cleanupDevnestAutocleanupOrphans halfUsedAccount {} []).1 = .ok ⟨0, 0, 0, 1⟩ := by
    decide +kernel
  exact ⟨(orphan_sweep_complete hrun .volume).1 _ (by decide) halfUsed_volume,
    (orphan_sweep_complete hrun .securityGroup).1 _ (by decide) halfUsed_group,
    fun resource => (orphan_sweep_complete hrun resource).2⟩

/-- The group in use is left alone. -/
example : ∀ answer ∈ [Ec2Deletion.done, .clientError "VolumeInUse"],
    .delete .securityGroup "sg-2" answer ∉ halfUsedCalls := by
  decide +kernel

/-! ## The sweep after an instance stays with its node -/

/-- What the node `nk` left: volumes and interfaces are asked for under its tag. -/
def nodeTargets (nk : String) : Ec2Targets where
  volume fs v := v.isOrphan = true ∧ ⟨"tag:ExecutionNode", [nk]⟩ ∈ fs
  networkInterface fs n := n.isOrphan = true ∧ ⟨"tag:ExecutionNode", [nk]⟩ ∈ fs
  elasticIp a := a.isLeftBy nk = true
  securityGroup g := g.isLeftBy nk = true

theorem spec_deleteGroupIfFree {client : Ec2Client} {nk : String} {gs : List SecurityGroup}
    {K : List Ec2Event → Prop} (hK : Lasting K)
    (hoffered : ∀ log, K log → ∃ fs, .securityGroups fs (.ok gs) ∈ log) :
    Spec (Knows (nodeTargets nk) K) (foldEach (fun _ g => deleteGroupIfFree client nk g) () gs)
      (fun _ => Knows (nodeTargets nk) K) (Sound (nodeTargets nk).Justifies) := by
  refine Spec.foldEach (I := fun _ _ => Knows (nodeTargets nk) K) (d := []) fun _ g _ hg => ?_
  refine Spec.ite (fun _ => Spec.pure fun log h => h) fun hgo => ?_
  simp only [Bool.or_eq_true, Bool.not_eq_true', decide_eq_true_eq, not_or,
    Bool.not_eq_false] at hgo
  refine Spec.bind (spec_securityGroupInUse hK) fun used => ?_
  refine Spec.ite (fun _ => Spec.pure fun log h => ⟨h.1, h.2.1⟩) fun hused => ?_
  have hfree := hK.and (lasting_foundFree (stripOr g.groupId))
  refine Spec.bind (Spec.conseq (spec_tryDelete hfree hgo.2 fun log h => ?_)
    (fun log h => ⟨h.1, h.2.1, h.2.2 (Bool.eq_false_iff.mpr hused)⟩) (fun _ _ h => h) fun _ h => h)
    fun _ => Spec.pure fun log h => ⟨h.1, h.2.1⟩
  obtain ⟨fs, hmem⟩ := hoffered log h.1
  exact ⟨⟨fs, gs, g, hmem, hg, hgo.1, rfl⟩, h.2⟩

/-- **The sweep after an instance takes what its node left.** Whatever AWS answers: each delete
call names an unattached resource with the four tags that AWS has shown to this sweep as this
node's. For an instance of the control plane AWS is not even asked. -/
theorem node_sweep_sound (client : Ec2Client) (settings : Ec2Settings)
    (instanceId nodeKey : Option String) :
    Sound (nodeTargets (stripOr nodeKey)).Justifies
        (cleanupAfterInstanceTerminated client settings instanceId nodeKey []).2 ∧
      (stripOr instanceId ∈ controlPlaneInstanceIds settings →
        (cleanupAfterInstanceTerminated client settings instanceId nodeKey []).2 = []) := by
  unfold cleanupAfterInstanceTerminated
  split
  · exact ⟨trivial, fun _ => rfl⟩
  rename_i hgo
  simp only [Bool.or_eq_true, decide_eq_true_eq, not_or] at hgo
  refine ⟨?_, fun hcontrol => absurd hcontrol hgo.2⟩
  generalize stripOr nodeKey = nk
  have htrue : Lasting fun _ => True := fun _ _ _ => trivial
  refine Spec.log (P := Knows (nodeTargets nk) fun _ => True)
    (Q := fun _ => Sound (nodeTargets nk).Justifies) (R := Sound (nodeTargets nk).Justifies)
    ?_ ⟨trivial, trivial⟩ (fun _ _ h => h) fun _ h => h
  refine Spec.bind (spec_ask htrue fun _ _ => trivial) fun vs => ?_
  have hvs := htrue.and (lasting_mem
    (.volumes (autocleanupFilters ++ [⟨"tag:ExecutionNode", [nk]⟩]) (.ok vs)))
  refine Spec.bind (spec_deleteIf hvs fun v hv hfree log h => ?_) fun _ => ?_
  · exact ⟨_, vs, v, h.2, hv, ⟨hfree, List.mem_append_right _ (List.mem_singleton.mpr rfl)⟩, rfl⟩
  refine Spec.bind (spec_ask hvs fun _ _ => trivial) fun ns => ?_
  have hns := hvs.and (lasting_mem
    (.networkInterfaces (autocleanupFilters ++ [⟨"tag:ExecutionNode", [nk]⟩]) (.ok ns)))
  refine Spec.bind (spec_deleteIf hns fun n hn hfree log h => ?_) fun _ => ?_
  · exact ⟨_, ns, n, h.2, hn, ⟨hfree, List.mem_append_right _ (List.mem_singleton.mpr rfl)⟩, rfl⟩
  refine Spec.bind (spec_addresses client settings hns) fun as => ?_
  have has := hns.and (lasting_addresses as)
  refine Spec.bind (spec_deleteIf has fun a ha hfree log h => ?_) fun _ => ?_
  · exact ⟨as, a, h.2 (List.ne_nil_of_mem ha), ha, hfree, rfl⟩
  refine Spec.bind (spec_ask has fun _ _ => trivial) fun gs => ?_
  have hgs := has.and (lasting_mem (.securityGroups autocleanupFilters (.ok gs)))
  exact Spec.conseq (spec_deleteGroupIfFree hgs fun log h => ⟨_, h.2⟩) (fun _ h => h)
    (fun _ _ h => h.1) fun _ h => h

end Devnest
