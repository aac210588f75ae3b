import Devnest.Calls
import Devnest.Ipv4
import Devnest.PyText
import Devnest.RemoteCommand

/-!
# The commands that wire a container

The `ip` and `nsenter` commands of `attachment_ops`, run by a `CommandRunner`
on a host that answers each of them as it likes.

`surfaces_*` say which exceptions of the runner get out. A class that no
handler names (`FileNotFoundError`, `PermissionError`) gets out of everything;
a `ValueError` gets out of the checks too, once the names they are given are
in order.
-/

namespace Devnest

open Calls Calls.Program PyText Ipv4

/-! ## The runner -/

/-- What `subprocess.run` does with a command. -/
inductive SubprocessAnswer where
  | completed (stdout : Option String)
  | calledProcessError (returncode : Int) (stdout stderr : Option String)
  | timeoutExpired (timeout : String)
  | raised (e : PyError)

/-- `CommandRunner.run`. -/
def CommandRunner.run (cmd : List String) (ans : SubprocessAnswer) : Answer :=
  if cmd = [] then .error (.value "cmd must be a non-empty list of strings")
  else
    match ans with
    | .completed stdout => .ok (stdout.getD "")
    | .calledProcessError code stdout stderr =>
        .error (.runtime ("command failed (exit=" ++ toString code ++ "): " ++ shlexJoin cmd ++
          "\nstdout: " ++ PyText.repr (stripOr stdout) ++
          "\nstderr: " ++ PyText.repr (stripOr stderr)))
    | .timeoutExpired timeout =>
        .error (.runtime ("command timed out after " ++ timeout ++ "s: " ++ shlexJoin cmd))
    | .raised e => .error e

/-- The host of one adapter: its answers by number and command, and what the process sees. -/
structure CommandHost where
  answer : Nat → List String → SubprocessAnswer
  /-- `/proc/<pid>` is there. -/
  procVisible : Nat → String → Bool := fun _ _ => true
  /-- A Docker sidecar with a network namespace of its own, and no `nsenter` configured. -/
  nsenterMissing : Bool := false

def CommandHost.run (host : CommandHost) (cmd : List String) : Program String :=
  ask fun n => CommandRunner.run cmd (host.answer n cmd)

/-! ## Names -/

/-- `_validate_ifname`. -/
def validateIfname (label name : String) : Except PyError String :=
  let s := strip name
  if s = "" then .error (.value (label ++ " name must be a non-empty string"))
  else if 15 < s.length then
    .error (.value (label ++ " name too long for Linux IFNAMSIZ: " ++ PyText.repr s ++ " (len=" ++
      toString s.length ++ ")"))
  else if s.toList.any isSpace then
    .error (.value (label ++ " name must not contain whitespace: " ++ PyText.repr s))
  else .ok s

/-- The digits of `/proc/<pid>/ns/net`. -/
def procPid (s : String) : Option String :=
  if startsWith s "/proc/" then
    let rest := s.toList.drop 6
    let pid := rest.takeWhile Char.isDigit
    if pid ≠ [] ∧ rest.drop pid.length = "/ns/net".toList then some (String.ofList pid) else none
  else none

/-- `_pid_from_netns_ref`. -/
def pidFromNetnsRef (netnsRef : String) : Except PyError String :=
  let s := strip netnsRef
  if s = "" then .error (.value "netns_ref must be a non-empty string")
  else if s.toList.all Char.isDigit then
    if (parseInt s).getD 0 ≤ 0 then
      .error (.value ("invalid PID in netns_ref: " ++ PyText.repr netnsRef))
    else .ok s
  else
    match procPid s with
    | some pid => .ok pid
    | none => .error (.value ("unsupported netns_ref " ++ PyText.repr netnsRef ++
        "; expected '/proc/<pid>/ns/net' or numeric PID"))

def validateNetnsRef (netnsRef : String) : Except PyError String :=
  let s := strip netnsRef
  if s = "" then .error (.value "netns_ref is required for V1 attach")
  else (pidFromNetnsRef s).map fun _ => s

/-! ## What the output says -/

/-- `\w`. -/
def isWordChar (c : Char) : Bool := c.isAlphanum || c = '_'

/-- `\b` between the two. -/
def isWordEdge (before after : Option Char) : Bool :=
  before.any isWordChar != after.any isWordChar

/-- `\s+<name>\b` at the head. -/
def namesMaster (name l : List Char) : Bool :=
  let rest := l.dropWhile isSpace
  rest.length < l.length && name.isPrefixOf rest &&
    isWordEdge name.getLast? (rest.drop name.length).head?

/-- `\bmaster\s+<name>\b` somewhere. -/
def hasMaster (name : List Char) (before : Option Char) : List Char → Bool
  | [] => false
  | c :: l =>
      (isWordEdge before (some c) && "master".toList.isPrefixOf (c :: l) &&
        namesMaster name ((c :: l).drop 6)) || hasMaster name (some c) l

/-- `str.splitlines`, but for empty lines. -/
def outputLines (out : String) : List (List Char) :=
  (out.toList.splitBy fun a b => !isLineEnd a && !isLineEnd b).filter fun l =>
    !l.any isLineEnd
where
  isLineEnd (c : Char) : Bool :=
    (10 ≤ c.toNat && c.toNat ≤ 13) || (28 ≤ c.toNat && c.toNat ≤ 30) || c.toNat = 133 ||
      c.toNat = 8232 || c.toNat = 8233

/-- `^\d+:\s*([^:@\s]+)(?:@|:)`. -/
def portName (line : List Char) : Option String :=
  let line := stripChars line
  let digits := line.takeWhile Char.isDigit
  match line.drop digits.length with
  | ':' :: rest =>
      let rest := rest.dropWhile isSpace
      let name := rest.takeWhile fun c => c ≠ ':' && c ≠ '@' && !isSpace c
      let next := (rest.drop name.length).head?
      if digits ≠ [] ∧ name ≠ [] ∧ (next = some ':' ∨ next = some '@') then
        some (String.ofList name)
      else none
  | _ => none

/-- `repr` of a list of texts. -/
def reprList (l : List String) : String := "[" ++ join ", " (l.map PyText.repr) ++ "]"

/-! ## Looking -/

section Ops

variable (host : CommandHost)

def assertHostTopologyIpViaNsenterConfigOrRaise : Program Unit :=
  if host.nsenterMissing then
    raise (.runtime ("refusing topology Linux attach: this process runs in a Docker sidecar " ++
      "netns that differs from PID 1's netns, but DEVNEST_TOPOLOGY_IP_VIA_HOST_NSENTER is not " ++
      "enabled. Plain `ip` would create veth/bridge in the sidecar while workspace topology " ++
      "addresses live on the host bridge — set DEVNEST_TOPOLOGY_IP_VIA_HOST_NSENTER=1 (and " ++
      "HostPid1NsenterRunner on the topology CommandRunner). See " ++
      "docker-compose.integration.yml workspace-worker."))
  else pure ()

def assertNetnsTargetPidVisible (pid : String) : Program Unit := do
  let visible ← look fun n => host.procVisible n pid
  if visible then pure ()
  else raise (.runtime ("target PID " ++ pid ++ " for netns move is not visible (/proc/" ++ pid ++
    " missing). If the API/worker runs in Docker, set `pid: host` on that service so host PIDs " ++
    "from Docker inspect match this process namespace. If /proc is missing because the " ++
    "workspace container already exited, bring-up raced teardown — retry after the workspace " ++
    "container is running."))

def assertNetnsAttachTargetVisible (netnsRef : String) : Program Unit := do
  let s ← lift (validateNetnsRef netnsRef)
  let pid ← lift (pidFromNetnsRef s)
  assertNetnsTargetPidVisible host pid

/-- `_netns_prefix`. -/
def netnsArgv (netnsRef : String) : Program (List String) := do
  let pid ← lift (pidFromNetnsRef netnsRef)
  assertNetnsTargetPidVisible host pid
  pure ["nsenter", "-n", "-t", pid, "--"]

/-- `except RuntimeError: return default`. -/
def orElse {α : Type} (m : Program α) (default : α) : Program α :=
  handle PyError.isRuntime m fun _ => pure default

def checkHostVethEnslavedToBridge (hostIf bridgeName : String) : Program Bool := do
  let h ← lift (validateIfname "host_if" hostIf)
  let br ← lift (validateIfname "bridge_name" bridgeName)
  orElse (do
    let out ← host.run ["ip", "link", "show", "dev", h]
    pure (hasMaster br.toList none out.toList)) false

/-- `check_interface_exists` on the host. -/
def checkInterfaceExists (ifname : String) : Program Bool := do
  let ifn ← lift (validateIfname "interface" ifname)
  orElse (do
    let _ ← host.run ["ip", "link", "show", "dev", ifn]
    pure true) false

/-- `check_interface_exists` with a network namespace. -/
def checkInterfaceExistsInNetns (ifname netnsRef : String) : Program Bool := do
  let ifn ← lift (validateIfname "interface" ifname)
  orElse (do
    let argv ← netnsArgv host netnsRef
    let _ ← host.run (argv ++ ["ip", "link", "show", "dev", ifn])
    pure true) false

def bridgeMasterSlaveIfnames (bridgeName : String) : Program (List String) := do
  let br ← lift (validateIfname "bridge_name" bridgeName)
  orElse (do
    let out ← host.run ["ip", "link", "show", "master", br]
    pure ((outputLines out).filterMap portName)) []

def checkWorkspaceIpv4AssignedOnIface (netnsRef containerIf : String) (workspaceIp : Nat)
    (cidr : Network) : Program Bool := do
  let ifn ← lift (validateIfname "container_if" containerIf)
  if workspaceIp ∈ cidr then
    let expect := addressText workspaceIp ++ "/" ++ toString cidr.prefixlen
    orElse (do
      let argv ← netnsArgv host netnsRef
      let out ← host.run (argv ++ ["ip", "-brief", "addr", "show", "dev", ifn])
      pure (isIn expect out)) false
  else pure false

/-- What an attach has read when it starts to wire. -/
structure LinuxPlan where
  hostIf : String
  containerIf : String
  bridgeName : String
  cidr : Network
  workspaceIp : Nat
  netnsRef : String

def notEnslavedFailures (h br : String) : Program (List String) := do
  let enslaved ← checkHostVethEnslavedToBridge host h br
  if enslaved then pure []
  else do
    let out ← handle PyError.isRuntime (host.run ["ip", "link", "show", "dev", h]) fun e =>
      pure ("<failed: " ++ e.text ++ ">")
    pure ["host veth " ++ PyText.repr h ++ " is not enslaved to bridge " ++ PyText.repr br ++
      " (link show: " ++ PyText.repr (take 300 out) ++ ")"]

/-- The host leg: it hangs on the bridge, and the bridge lists it. -/
def hostLegFailures (h br : String) (slaves : List String) : Program (List String) := do
  let notEnslaved ← notEnslavedFailures host h br
  pure (notEnslaved ++ if h ∈ slaves then [] else
    ["`ip link show master " ++ PyText.repr br ++ "` does not list host leg " ++ PyText.repr h ++
      " (observed bridge ports: " ++ reprList slaves ++ "; host L2 path missing)"])

/-- The container's leg: it is in the workspace's namespace, with its address. -/
def containerLegFailures (c : String) (plan : LinuxPlan) : Program (List String) := do
  let nr ← lift (validateNetnsRef plan.netnsRef)
  let present ← checkInterfaceExistsInNetns host c nr
  let assigned ← checkWorkspaceIpv4AssignedOnIface host nr c plan.workspaceIp plan.cidr
  pure ((if present then [] else
      ["container leg " ++ PyText.repr c ++ " not present in workspace netns"]) ++
    if assigned then [] else
      ["workspace IP " ++ PyText.repr (addressText plan.workspaceIp) ++ " not assigned on " ++
        PyText.repr c ++ " inside workspace netns (CIDR " ++ PyText.repr plan.cidr.text ++ ")"])

def noPortFailures (br : String) (slaves : List String) : List String :=
  if slaves = [] then
    ["topology bridge " ++ PyText.repr br ++ " has no slave interfaces (`ip link show master` " ++
      "empty — NO-CARRIER / missing bridge membership vs DB ATTACHED state)"]
  else []

/-- Both legs; without the host leg nothing else is looked at. -/
def legFailures (br h c : String) (slaves : List String) (plan : LinuxPlan) :
    Program (List String) := do
  let there ← checkInterfaceExists host h
  if there then do
    let hostLeg ← hostLegFailures host h br slaves
    let containerLeg ← containerLegFailures host c plan
    pure (hostLeg ++ containerLeg)
  else pure ["host veth " ++ PyText.repr h ++ " does not exist in the topology `ip` netns"]

def topologyAttachPlumbingFailures (plan : LinuxPlan) : Program (List String) := do
  let br ← lift (validateIfname "bridge_name" plan.bridgeName)
  let h ← lift (validateIfname "host_if" plan.hostIf)
  let c ← lift (validateIfname "container_if" plan.containerIf)
  let slaves ← bridgeMasterSlaveIfnames host br
  let legs ← legFailures host br h c slaves plan
  pure (noPortFailures br slaves ++ legs)

/-! ## Wiring -/

def bothExist (h c : String) : Program Bool := do
  let there ← checkInterfaceExists host h
  if there then checkInterfaceExists host c else pure false

def createVethPair (hostIf containerIf : String) : Program Unit := do
  let h ← lift (validateIfname "host_if" hostIf)
  let c ← lift (validateIfname "container_if" containerIf)
  if h = c then raise (.value "host_if and container_if must differ")
  else do
    let both ← bothExist host h c
    if both then pure ()
    else handle PyError.isRuntime (do
        let _ ← host.run ["ip", "link", "add", h, "type", "veth", "peer", "name", c]
        pure ()) fun e => do
      let both ← bothExist host h c
      if both then pure () else raise e

def attachHostIfToBridge (hostIf bridgeName : String) : Program Unit := do
  let h ← lift (validateIfname "host_if" hostIf)
  let br ← lift (validateIfname "bridge" bridgeName)
  let enslaved ← checkHostVethEnslavedToBridge host h br
  if enslaved then do
    let _ ← host.run ["ip", "link", "set", "dev", h, "up"]
    pure ()
  else do
    let _ ← host.run ["ip", "link", "set", "dev", h, "master", br]
    let _ ← host.run ["ip", "link", "set", "dev", h, "up"]
    pure ()

def moveContainerIfToNetns (containerIf netnsRef : String) : Program Unit := do
  let c ← lift (validateIfname "container_if" containerIf)
  let pid ← lift (pidFromNetnsRef netnsRef)
  assertNetnsTargetPidVisible host pid
  handle PyError.isRuntime (do
      let _ ← host.run ["ip", "link", "set", "dev", c, "netns", pid]
      pure ()) fun e =>
    if isIn "invalid" (lower e.text) && isIn "netns" (lower e.text) then
      raise (.runtime ("ip link set dev " ++ c ++ " netns " ++ pid ++ " failed: " ++ e.text ++
        ". Common causes: (1) workspace init exited before attach; (2) Docker host PID not " ++
        "visible to the ``ip`` process (use `pid: host` on the worker); (3) ``ip`` runs in a " ++
        "sidecar netns while veth/PID refer to the real host — set " ++
        "DEVNEST_TOPOLOGY_IP_VIA_HOST_NSENTER=1 for docker.sock-on-host integration (see " ++
        "docker-compose.integration.yml)."))
    else raise e

def assignIpInNetns (netnsRef containerIf : String) (workspaceIp : Nat) (cidr : Network) :
    Program Unit := do
  let _ ← lift (pidFromNetnsRef netnsRef)
  let ifn ← lift (validateIfname "container_if" containerIf)
  if workspaceIp ∈ cidr then do
    let addr := addressText workspaceIp ++ "/" ++ toString cidr.prefixlen
    let argv ← netnsArgv host netnsRef
    handle PyError.isRuntime (do
        let _ ← host.run (argv ++ ["ip", "addr", "add", addr, "dev", ifn])
        pure ()) fun e =>
      if isIn "File exists" e.text then pure () else raise e
    let _ ← host.run (argv ++ ["ip", "link", "set", "dev", ifn, "up"])
    pure ()
  else raise (.value ("workspace_ip " ++ PyText.repr (addressText workspaceIp) ++ " not in cidr " ++
    PyText.repr cidr.text))

def removeVethIfExists (hostIf : String) : Program Unit := do
  let h ← lift (validateIfname "host_if" hostIf)
  let there ← checkInterfaceExists host h
  if there then do
    let _ ← host.run ["ip", "link", "del", "dev", h]
    pure ()
  else pure ()

/-- The steps of `_run_linux_attach` that are undone when one fails. -/
def linuxAttachSteps (plan : LinuxPlan) : Program Unit := do
  createVethPair host plan.hostIf plan.containerIf
  attachHostIfToBridge host plan.hostIf plan.bridgeName
  assertNetnsAttachTargetVisible host plan.netnsRef
  moveContainerIfToNetns host plan.containerIf plan.netnsRef
  assignIpInNetns host plan.netnsRef plan.containerIf plan.workspaceIp plan.cidr
  -- the bridge's ports, for the log
  let _ ← handle PyError.isRuntime (host.run ["ip", "link", "show", "master", plan.bridgeName])
    fun e => pure ("<ip link show master failed: " ++ e.text ++ ">")
  let failures ← topologyAttachPlumbingFailures host plan
  if failures = [] then pure ()
  else raise (.runtime ("post-attach verification failed (Linux plumbing incomplete): " ++
    join "; " failures))

/-- `except (RuntimeError, ValueError)`. -/
def catchesFailure (e : PyError) : Bool := !e.isOther

def runLinuxAttach (plan : LinuxPlan) : Program Unit := do
  assertHostTopologyIpViaNsenterConfigOrRaise host
  assertNetnsAttachTargetVisible host plan.netnsRef
  handle catchesFailure (linuxAttachSteps host plan) fun e => do
    orElse (removeVethIfExists host plan.hostIf) ()
    raise e

end Ops

/-! ## Names that pass once pass again -/

theorem validateIfname_error {label name : String} {e : PyError}
    (h : validateIfname label name = .error e) : ∃ t, e = .value t := by
  unfold validateIfname at h
  dsimp only at h
  split at h
  · exact ⟨_, (Except.error.inj h).symm⟩
  · split at h
    · exact ⟨_, (Except.error.inj h).symm⟩
    · split at h
      · exact ⟨_, (Except.error.inj h).symm⟩
      · cases h

/-- The label is for the message. -/
theorem validateIfname_label {label label' name s : String}
    (h : validateIfname label name = .ok s) : validateIfname label' name = .ok s := by
  unfold validateIfname at h ⊢
  dsimp only at h ⊢
  split at h
  · cases h
  next hne =>
    rw [if_neg hne]
    split at h
    · cases h
    next hlen =>
      rw [if_neg hlen]
      split at h
      · cases h
      next hspace =>
        rw [if_neg hspace, h]

theorem validateIfname_again {label label' name s : String}
    (h : validateIfname label name = .ok s) : validateIfname label' s = .ok s := by
  refine @validateIfname_label label label' s s ?_
  unfold validateIfname at h
  dsimp only at h
  split at h
  · cases h
  next hne =>
    split at h
    · cases h
    next hlen =>
      split at h
      · cases h
      next hspace =>
        have hs := Except.ok.inj h
        have hno : ∀ c ∈ s.toList, isSpace c = false := by
          intro c hc
          rw [hs] at hspace
          cases hsp : isSpace c with
          | false => rfl
          | true => exact absurd (List.any_eq_true.mpr ⟨c, hc, hsp⟩) hspace
        have hstrip : strip s = s := by
          rw [strip, stripChars_of_no_space hno, String.ofList_toList]
        unfold validateIfname
        dsimp only
        rw [hstrip]
        rw [hs] at hne hlen hspace
        rw [if_neg hne, if_neg hlen, if_neg hspace]

theorem pidFromNetnsRef_error {ref : String} {e : PyError} (h : pidFromNetnsRef ref = .error e) :
    ∃ t, e = .value t := by
  unfold pidFromNetnsRef at h
  dsimp only at h
  split at h
  · exact ⟨_, (Except.error.inj h).symm⟩
  · split at h
    · split at h
      · exact ⟨_, (Except.error.inj h).symm⟩
      · cases h
    · split at h
      · cases h
      · exact ⟨_, (Except.error.inj h).symm⟩

theorem validateNetnsRef_ok {ref s : String} (h : validateNetnsRef ref = .ok s) :
    ∃ pid, pidFromNetnsRef s = .ok pid := by
  unfold validateNetnsRef at h
  dsimp only at h
  split at h
  · cases h
  · cases hp : pidFromNetnsRef (strip ref) with
    | error e =>
        rw [hp] at h
        cases h
    | ok pid =>
        rw [hp] at h
        rw [← Except.ok.inj h]
        exact ⟨pid, hp⟩

theorem validateNetnsRef_error {ref : String} {e : PyError}
    (h : validateNetnsRef ref = .error e) : ∃ t, e = .value t := by
  unfold validateNetnsRef at h
  dsimp only at h
  split at h
  · exact ⟨_, (Except.error.inj h).symm⟩
  · cases hp : pidFromNetnsRef (strip ref) with
    | error e' =>
        rw [hp] at h
        rw [← Except.error.inj h]
        exact pidFromNetnsRef_error hp
    | ok pid =>
        rw [hp] at h
        cases h

/-! ## What gets out of the checks -/

section Surfacing

variable {host : CommandHost} {P : PyError → Prop}

/-- `except RuntimeError` hides no exception of another kind. -/
theorem surfaces_onRuntime {α : Type} (hr : ∀ t, ¬ P (.runtime t)) {m : Program α}
    {h : PyError → Program α} (hm : Surfaces P m) (hh : ∀ t, Surfaces P (h (.runtime t))) :
    Surfaces P (handle PyError.isRuntime m h) := by
  refine hm.handle (fun e he => ?_) fun e he => ?_
  · cases e with
    | runtime t => exact hr t
    | value t => cases he
    | other t => cases he
  · cases e with
    | runtime t => exact hh t
    | value t => cases he
    | other t => cases he

theorem surfaces_orElse {α : Type} (hr : ∀ t, ¬ P (.runtime t)) {m : Program α} {d : α}
    (hm : Surfaces P m) : Surfaces P (orElse m d) :=
  surfaces_onRuntime hr hm fun _ => .pure d

theorem surfaces_run (cmd : List String) : Surfaces P (host.run cmd) := .ask _

theorem surfaces_pidVisible (hr : ∀ t, ¬ P (.runtime t)) (pid : String) :
    Surfaces P (assertNetnsTargetPidVisible host pid) := by
  refine (Surfaces.look _).bind fun visible _ _ => ?_
  cases visible with
  | true => exact .pure ()
  | false => exact .raise (hr _)

theorem surfaces_netnsArgv (hr : ∀ t, ¬ P (.runtime t)) {ref : String}
    (href : Quiet P (pidFromNetnsRef ref)) : Surfaces P (netnsArgv host ref) :=
  (Surfaces.lift href).bind fun pid _ _ =>
    (surfaces_pidVisible hr pid).bind fun _ _ _ => .pure _

theorem surfaces_checkInterfaceExists (hr : ∀ t, ¬ P (.runtime t)) {name : String}
    (hname : Quiet P (validateIfname "interface" name)) :
    Surfaces P (checkInterfaceExists host name) :=
  (Surfaces.lift hname).bind fun _ _ _ =>
    surfaces_orElse hr ((surfaces_run _).bind fun _ _ _ => .pure true)

theorem surfaces_checkInNetns (hr : ∀ t, ¬ P (.runtime t)) {name ref : String}
    (hname : Quiet P (validateIfname "interface" name)) (href : Quiet P (pidFromNetnsRef ref)) :
    Surfaces P (checkInterfaceExistsInNetns host name ref) :=
  (Surfaces.lift hname).bind fun _ _ _ =>
    surfaces_orElse hr ((surfaces_netnsArgv hr href).bind fun _ _ _ =>
      (surfaces_run _).bind fun _ _ _ => .pure true)

theorem surfaces_checkEnslaved (hr : ∀ t, ¬ P (.runtime t)) {h br : String}
    (hh : Quiet P (validateIfname "host_if" h)) (hbr : Quiet P (validateIfname "bridge_name" br)) :
    Surfaces P (checkHostVethEnslavedToBridge host h br) :=
  (Surfaces.lift hh).bind fun _ _ _ => (Surfaces.lift hbr).bind fun _ _ _ =>
    surfaces_orElse hr ((surfaces_run _).bind fun _ _ _ => .pure _)

theorem surfaces_bridgePorts (hr : ∀ t, ¬ P (.runtime t)) {br : String}
    (hbr : Quiet P (validateIfname "bridge_name" br)) :
    Surfaces P (bridgeMasterSlaveIfnames host br) :=
  (Surfaces.lift hbr).bind fun _ _ _ =>
    surfaces_orElse hr ((surfaces_run _).bind fun _ _ _ => .pure _)

theorem surfaces_checkAssigned (hr : ∀ t, ¬ P (.runtime t)) {ref c : String} {ip : Nat}
    {net : Network} (hc : Quiet P (validateIfname "container_if" c))
    (href : Quiet P (pidFromNetnsRef ref)) :
    Surfaces P (checkWorkspaceIpv4AssignedOnIface host ref c ip net) :=
  (Surfaces.lift hc).bind fun _ _ _ =>
    .ite (surfaces_orElse hr ((surfaces_netnsArgv hr href).bind fun _ _ _ =>
      (surfaces_run _).bind fun _ _ _ => .pure _)) (.pure false)

theorem surfaces_hostLeg (hr : ∀ t, ¬ P (.runtime t)) {h br : String} {slaves : List String}
    (hh : ∀ label, Quiet P (validateIfname label h))
    (hbr : ∀ label, Quiet P (validateIfname label br)) :
    Surfaces P (hostLegFailures host h br slaves) := by
  refine Surfaces.bind ?_ fun _ _ _ => .pure _
  refine (surfaces_checkEnslaved hr (hh _) (hbr _)).bind fun enslaved _ _ => .ite (.pure []) ?_
  exact (surfaces_onRuntime hr (surfaces_run _) fun _ => .pure _).bind fun _ _ _ => .pure _

theorem surfaces_containerLeg (hr : ∀ t, ¬ P (.runtime t)) {c : String} {plan : LinuxPlan}
    (hc : ∀ label, Quiet P (validateIfname label c))
    (href : Quiet P (validateNetnsRef plan.netnsRef)) :
    Surfaces P (containerLegFailures host c plan) := by
  refine (Surfaces.lift href).bind fun nr _ hnr => ?_
  obtain ⟨pid, hpid⟩ := validateNetnsRef_ok hnr
  exact (surfaces_checkInNetns hr (hc _) (quiet_of_ok hpid)).bind fun _ _ _ =>
    (surfaces_checkAssigned hr (hc _) (quiet_of_ok hpid)).bind fun _ _ _ => .pure _

theorem surfaces_legFailures (hr : ∀ t, ¬ P (.runtime t)) {br h c : String}
    {slaves : List String} {plan : LinuxPlan} (hbr : ∀ label, Quiet P (validateIfname label br))
    (hh : ∀ label, Quiet P (validateIfname label h))
    (hc : ∀ label, Quiet P (validateIfname label c))
    (href : Quiet P (validateNetnsRef plan.netnsRef)) :
    Surfaces P (legFailures host br h c slaves plan) := by
  refine (surfaces_checkInterfaceExists hr (hh _)).bind fun there _ _ => .ite ?_ (.pure _)
  exact (surfaces_hostLeg hr hh hbr).bind fun _ _ _ =>
    (surfaces_containerLeg hr hc href).bind fun _ _ _ => .pure _

/-- **The checks** let out every exception but `RuntimeError`, once their names are in order. -/
theorem surfaces_plumbingFailures (hr : ∀ t, ¬ P (.runtime t)) {plan : LinuxPlan}
    (hbr : Quiet P (validateIfname "bridge_name" plan.bridgeName))
    (hh : Quiet P (validateIfname "host_if" plan.hostIf))
    (hc : Quiet P (validateIfname "container_if" plan.containerIf))
    (href : Quiet P (validateNetnsRef plan.netnsRef)) :
    Surfaces P (topologyAttachPlumbingFailures host plan) := by
  have hagain : ∀ {label name s : String}, validateIfname label name = .ok s →
      ∀ label', Quiet P (validateIfname label' s) :=
    fun hok label' => quiet_of_ok (validateIfname_again hok)
  refine (Surfaces.lift hbr).bind fun br _ hbr' => ?_
  refine (Surfaces.lift hh).bind fun h _ hh' => ?_
  refine (Surfaces.lift hc).bind fun c _ hc' => ?_
  refine (surfaces_bridgePorts hr (hagain hbr' _)).bind fun slaves _ _ => ?_
  exact (surfaces_legFailures hr (hagain hbr') (hagain hh') (hagain hc') href).bind
    fun _ _ _ => .pure _

end Surfacing

/-! ## The checks raise no `RuntimeError` -/

/-- Not a `RuntimeError`: what `except RuntimeError` lets by. -/
def NotRuntime (e : PyError) : Prop := e.isRuntime = false

section Raising

variable {host : CommandHost}

theorem raisesOnly_ifname (label name : String) :
    RaisesOnly NotRuntime (lift (validateIfname label name)) := by
  refine .lift fun e he => ?_
  obtain ⟨t, rfl⟩ := validateIfname_error he
  rfl

theorem raisesOnly_orElse {α : Type} {m : Program α} {d : α} :
    RaisesOnly NotRuntime (orElse m d) :=
  .handle (fun _ h => h) fun _ => .pure d

theorem raisesOnly_plumbingFailures (plan : LinuxPlan) :
    RaisesOnly NotRuntime (topologyAttachPlumbingFailures host plan) := by
  refine (raisesOnly_ifname _ _).bind fun br => (raisesOnly_ifname _ _).bind fun h =>
    (raisesOnly_ifname _ _).bind fun c => ?_
  refine ((raisesOnly_ifname _ br).bind fun _ => raisesOnly_orElse).bind fun slaves => ?_
  refine RaisesOnly.bind ?_ fun _ => .pure _
  refine ((raisesOnly_ifname _ h).bind fun _ => raisesOnly_orElse).bind fun there =>
    .ite ?_ (.pure _)
  have hhost : RaisesOnly NotRuntime (hostLegFailures host h br slaves) := by
    refine RaisesOnly.bind ?_ fun _ => .pure _
    refine ((raisesOnly_ifname _ h).bind fun _ => (raisesOnly_ifname _ br).bind fun _ =>
      raisesOnly_orElse).bind fun enslaved => .ite (.pure []) ?_
    exact (RaisesOnly.handle (fun _ h => h) fun _ => .pure _).bind fun _ => .pure _
  have hcontainer : RaisesOnly NotRuntime (containerLegFailures host c plan) := by
    refine (RaisesOnly.lift fun e he => ?_).bind fun nr => ?_
    · obtain ⟨t, rfl⟩ := validateNetnsRef_error he
      rfl
    · refine ((raisesOnly_ifname _ c).bind fun _ => raisesOnly_orElse).bind fun _ => ?_
      exact ((raisesOnly_ifname _ c).bind fun _ => .ite raisesOnly_orElse (.pure false)).bind
        fun _ => .pure _
  exact hhost.bind fun _ => hcontainer.bind fun _ => .pure _

end Raising

/-! ## What gets out of the wiring -/

/-- An exception that is neither `RuntimeError` nor `ValueError`. -/
def Foreign (e : PyError) : Prop := e.isOther = true

instance (e : PyError) : Decidable (Foreign e) := inferInstanceAs (Decidable (_ = true))

theorem not_foreign_runtime (t : String) : ¬ Foreign (.runtime t) := by
  intro h
  cases h

theorem not_foreign_value (t : String) : ¬ Foreign (.value t) := by
  intro h
  cases h

theorem quiet_ifname (label name : String) : Quiet Foreign (validateIfname label name) := by
  intro e he
  obtain ⟨t, rfl⟩ := validateIfname_error he
  exact not_foreign_value t

theorem quiet_pid (ref : String) : Quiet Foreign (pidFromNetnsRef ref) := by
  intro e he
  obtain ⟨t, rfl⟩ := pidFromNetnsRef_error he
  exact not_foreign_value t

theorem quiet_netnsRef (ref : String) : Quiet Foreign (validateNetnsRef ref) := by
  intro e he
  obtain ⟨t, rfl⟩ := validateNetnsRef_error he
  exact not_foreign_value t

section Wiring

variable {host : CommandHost}

theorem surfaces_assertVisible (ref : String) :
    Surfaces Foreign (assertNetnsAttachTargetVisible host ref) :=
  (Surfaces.lift (quiet_netnsRef ref)).bind fun s _ _ =>
    (Surfaces.lift (quiet_pid s)).bind fun pid _ _ =>
      surfaces_pidVisible not_foreign_runtime pid

theorem surfaces_bothExist (h c : String) : Surfaces Foreign (bothExist host h c) := by
  refine (surfaces_checkInterfaceExists not_foreign_runtime (quiet_ifname _ h)).bind
    fun there _ _ => ?_
  cases there with
  | true => exact surfaces_checkInterfaceExists not_foreign_runtime (quiet_ifname _ c)
  | false => exact .pure false

theorem surfaces_createVethPair (h c : String) : Surfaces Foreign (createVethPair host h c) := by
  refine (Surfaces.lift (quiet_ifname _ h)).bind fun h _ _ => ?_
  refine (Surfaces.lift (quiet_ifname _ c)).bind fun c _ _ => ?_
  refine .ite (.raise (not_foreign_value _)) ((surfaces_bothExist h c).bind fun both _ _ => ?_)
  refine .ite (.pure ()) (surfaces_onRuntime not_foreign_runtime
    ((surfaces_run _).bind fun _ _ _ => .pure ()) fun t => ?_)
  exact (surfaces_bothExist h c).bind fun both _ _ =>
    .ite (.pure ()) (.raise (not_foreign_runtime t))

theorem surfaces_attachHostIf (h br : String) :
    Surfaces Foreign (attachHostIfToBridge host h br) := by
  refine (Surfaces.lift (quiet_ifname _ h)).bind fun h _ _ => ?_
  refine (Surfaces.lift (quiet_ifname _ br)).bind fun br _ _ => ?_
  refine (surfaces_checkEnslaved not_foreign_runtime (quiet_ifname _ h) (quiet_ifname _ br)).bind
    fun enslaved _ _ => .ite ?_ ?_
  · exact (surfaces_run _).bind fun _ _ _ => .pure ()
  · exact (surfaces_run _).bind fun _ _ _ => (surfaces_run _).bind fun _ _ _ => .pure ()

theorem surfaces_moveContainerIf (c ref : String) :
    Surfaces Foreign (moveContainerIfToNetns host c ref) := by
  refine (Surfaces.lift (quiet_ifname _ c)).bind fun c _ _ => ?_
  refine (Surfaces.lift (quiet_pid ref)).bind fun pid _ _ => ?_
  refine (surfaces_pidVisible not_foreign_runtime pid).bind fun _ _ _ => ?_
  exact surfaces_onRuntime not_foreign_runtime ((surfaces_run _).bind fun _ _ _ => .pure ())
    fun t => .ite (.raise (not_foreign_runtime _)) (.raise (not_foreign_runtime t))

theorem surfaces_assignIp (ref c : String) (ip : Nat) (net : Network) :
    Surfaces Foreign (assignIpInNetns host ref c ip net) := by
  refine (Surfaces.lift (quiet_pid ref)).bind fun _ _ _ => ?_
  refine (Surfaces.lift (quiet_ifname _ c)).bind fun c _ _ => ?_
  refine .ite ?_ (.raise (not_foreign_value _))
  refine (surfaces_netnsArgv not_foreign_runtime (quiet_pid ref)).bind fun argv _ _ => ?_
  refine Surfaces.bind ?_ fun _ _ _ => (surfaces_run _).bind fun _ _ _ => .pure ()
  exact surfaces_onRuntime not_foreign_runtime ((surfaces_run _).bind fun _ _ _ => .pure ())
    fun t => .ite (.pure ()) (.raise (not_foreign_runtime t))

theorem surfaces_removeVeth (h : String) : Surfaces Foreign (removeVethIfExists host h) := by
  refine (Surfaces.lift (quiet_ifname _ h)).bind fun h _ _ => ?_
  refine (surfaces_checkInterfaceExists not_foreign_runtime (quiet_ifname _ h)).bind
    fun there _ _ => .ite ?_ (.pure ())
  exact (surfaces_run _).bind fun _ _ _ => .pure ()

theorem surfaces_linuxAttachSteps (plan : LinuxPlan) :
    Surfaces Foreign (linuxAttachSteps host plan) := by
  refine (surfaces_createVethPair _ _).bind fun _ _ _ => ?_
  refine (surfaces_attachHostIf _ _).bind fun _ _ _ => ?_
  refine (surfaces_assertVisible _).bind fun _ _ _ => ?_
  refine (surfaces_moveContainerIf _ _).bind fun _ _ _ => ?_
  refine (surfaces_assignIp _ _ _ _).bind fun _ _ _ => ?_
  refine (surfaces_onRuntime not_foreign_runtime (surfaces_run _) fun _ => .pure _).bind
    fun _ _ _ => ?_
  refine (surfaces_plumbingFailures not_foreign_runtime (quiet_ifname _ _) (quiet_ifname _ _)
    (quiet_ifname _ _) (quiet_netnsRef _)).bind fun failures _ _ => ?_
  exact .ite (.pure ()) (.raise (not_foreign_runtime _))

/-- **The wiring** lets out every exception that is neither `RuntimeError` nor `ValueError`. -/
theorem surfaces_runLinuxAttach (plan : LinuxPlan) :
    Surfaces Foreign (runLinuxAttach host plan) := by
  have hcaught : ∀ e, catchesFailure e = true → ¬ Foreign e := by
    intro e he hf
    rw [catchesFailure, hf] at he
    cases he
  refine Surfaces.bind (.ite (.raise (not_foreign_runtime _)) (.pure ())) fun _ _ _ => ?_
  refine (surfaces_assertVisible _).bind fun _ _ _ => ?_
  refine (surfaces_linuxAttachSteps plan).handle hcaught fun e he => ?_
  exact (surfaces_orElse not_foreign_runtime (surfaces_removeVeth _)).bind fun _ _ _ =>
    .raise (hcaught e he)

/-- Names that a wiring has used are in order. -/
theorem valid_of_wired {plan : LinuxPlan} {log log' : List Answer}
    (h : runLinuxAttach host plan log = (.ok (), log')) :
    (∃ s, validateIfname "bridge_name" plan.bridgeName = .ok s) ∧
      (∃ s, validateIfname "host_if" plan.hostIf = .ok s) ∧
      (∃ s, validateIfname "container_if" plan.containerIf = .ok s) ∧
      ∃ s, validateNetnsRef plan.netnsRef = .ok s := by
  obtain ⟨_, log₁, -, h⟩ := bind_ok h
  obtain ⟨_, log₂, hvisible, h⟩ := bind_ok h
  obtain ⟨nr, _, hnr, -⟩ := bind_ok hvisible
  have hsteps : linuxAttachSteps host plan log₂ = (.ok (), log') := by
    refine handle_ok_of_raises (fun e log => ?_) h
    change ∃ e' log', (orElse (removeVethIfExists host plan.hostIf) () >>= fun _ => raise e) log =
      (.error e', log')
    cases hm : orElse (removeVethIfExists host plan.hostIf) () log with
    | mk res log₃ =>
        cases res with
        | error e' => exact ⟨e', log₃, bind_eq_error hm⟩
        | ok a => exact ⟨e, log₃, bind_eq_ok hm⟩
  obtain ⟨_, log₃, hveth, hsteps⟩ := bind_ok hsteps
  obtain ⟨hostIf, log₄, hhost, hveth⟩ := bind_ok hveth
  obtain ⟨containerIf, _, hcontainer, -⟩ := bind_ok hveth
  obtain ⟨_, log₅, hbridge, -⟩ := bind_ok hsteps
  obtain ⟨_, log₆, -, hbridge⟩ := bind_ok hbridge
  obtain ⟨bridge, _, hbridge, -⟩ := bind_ok hbridge
  exact ⟨⟨bridge, validateIfname_label (lift_ok hbridge)⟩, ⟨hostIf, lift_ok hhost⟩,
    ⟨containerIf, lift_ok hcontainer⟩, ⟨nr, lift_ok hnr⟩⟩

end Wiring

end Devnest
