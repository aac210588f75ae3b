import Devnest.ContainerEngine
import Devnest.Logged

/-!
# Workspace probes

`probe_runner.py` and the probe step of a bring-up. A health check inspects the
container, asks the topology for the bridge and the attachment, dials the
service and reads its health page; a bring-up first waits until the port
accepts a connection.

What is asked may be answered with anything and may change from call to call.
`health_check_tells` says what a check has seen when it ends: it is
healthy exactly if it has nothing to report, a healthy one has seen every part
at work, and it is cut short only by an exception that no part catches.
-/

namespace Devnest

open PyText Logged Logged.Program

/-! ## Findings -/

inductive ProbeIssueCode where
  | runtimeContainerMissing | runtimeNotRunning | runtimeContainerStateUnknown
  | topologyUnhealthy | topologyAttachmentMissing | topologyWorkspaceIpMissing
  | topologyInternalEndpointMissing
  | serviceUnreachable | serviceTimeout | serviceConnectError | serviceHttpNotReady
  | probeExecutionFailed | probeRuntimeBinaryMissing
  deriving DecidableEq, Repr

namespace ProbeIssueCode

def value : ProbeIssueCode → String
  | runtimeContainerMissing => "RUNTIME_CONTAINER_MISSING"
  | runtimeNotRunning => "RUNTIME_NOT_RUNNING"
  | runtimeContainerStateUnknown => "RUNTIME_CONTAINER_STATE_UNKNOWN"
  | topologyUnhealthy => "TOPOLOGY_UNHEALTHY"
  | topologyAttachmentMissing => "TOPOLOGY_ATTACHMENT_MISSING"
  | topologyWorkspaceIpMissing => "TOPOLOGY_WORKSPACE_IP_MISSING"
  | topologyInternalEndpointMissing => "TOPOLOGY_INTERNAL_ENDPOINT_MISSING"
  | serviceUnreachable => "SERVICE_UNREACHABLE"
  | serviceTimeout => "SERVICE_TIMEOUT"
  | serviceConnectError => "SERVICE_CONNECT_ERROR"
  | serviceHttpNotReady => "SERVICE_HTTP_NOT_READY"
  | probeExecutionFailed => "PROBE_EXECUTION_FAILED"
  | probeRuntimeBinaryMissing => "PROBE_RUNTIME_BINARY_MISSING"

/-- The codes of a failed dial. -/
def isDial (c : ProbeIssueCode) : Bool := c = serviceUnreachable || c = serviceTimeout

end ProbeIssueCode

inductive HealthIssueSeverity where
  | info | warn | error
  deriving DecidableEq, Repr

structure HealthIssue where
  code : ProbeIssueCode
  component : String
  message : String
  severity : HealthIssueSeverity := .error
  deriving DecidableEq, Repr

/-- The line of an issue in a bring-up result. -/
def HealthIssue.line (i : HealthIssue) : String :=
  i.component ++ ":" ++ i.code.value ++ ":" ++ i.message

structure ContainerProbeResult where
  healthy : Bool
  containerId : String
  containerState : Option String
  issues : List HealthIssue := []

structure TopologyProbeResult where
  healthy : Bool
  topologyId : Nat
  nodeId : String
  workspaceId : Nat
  workspaceIp : Option String
  internalEndpoint : Option String
  issues : List HealthIssue := []

structure ServiceProbeResult where
  healthy : Bool
  workspaceIp : Option String
  port : Int
  issues : List HealthIssue := []

structure WorkspaceHealthResult where
  workspaceId : Nat
  healthy : Bool
  runtimeHealthy : Bool
  topologyHealthy : Bool
  serviceHealthy : Bool
  containerState : Option String
  workspaceIp : Option String
  internalEndpoint : Option String
  issues : List HealthIssue := []

/-! ## The outside -/

/-- The answer of `check_topology`. -/
structure TopologyCheck where
  healthy : Bool
  issues : List String := []
  deriving DecidableEq, Repr

/-- The answer of `check_attachment`. -/
structure AttachmentCheck where
  healthy : Bool
  workspaceIp : Option String
  issues : List String := []
  deriving DecidableEq, Repr

/-- What `check_attachment` may raise; the text of a `FileNotFoundError` gets a hint. -/
inductive AttachmentFault where
  | fileNotFound (text : String)
  | other (text : String)
  deriving DecidableEq, Repr

inductive Errno where
  | connRefused | hostUnreach | netUnreach | netDown | hostDown | other
  deriving DecidableEq, Repr

/-- `_OSR_UNREACHABLE_ERRNOS`. -/
def Errno.isUnreachable (e : Errno) : Bool := e ≠ .other

/-- The answer of `create_connection`. -/
inductive DialAnswer where
  | connected
  | timedOut
  | refused
  | gaiError (text : String)
  | osError (errno : Option Errno) (text : String)
  | raised (text : String)
  deriving DecidableEq, Repr

/-- The answer of `CommandRunner.run`. -/
inductive RunAnswer where
  | done
  | runtimeError (text : String)
  | raised (text : String)
  deriving DecidableEq, Repr

/-- The answer of `urlopen`: a response, an `HTTPError`, one of the caught errors, or another. -/
inductive HttpAnswer where
  | status (code : Nat)
  | httpError (code : Nat)
  | failed (text : String)
  | raised (text : String)
  deriving DecidableEq, Repr

/-- One call of a probe, with its answer. -/
inductive ProbeCall where
  | inspect (ref : String) (answer : Except String ContainerInspection)
  | checkTopology (topologyId : Nat) (nodeId : String) (answer : Except String TopologyCheck)
  | checkAttachment (topologyId : Nat) (nodeId : String) (workspaceId : Nat)
      (answer : Except AttachmentFault AttachmentCheck)
  | connect (ip : String) (port : Int) (timeout : ℚ) (answer : DialAnswer)
  | command (argv : List String) (answer : RunAnswer)
  | urlopen (url : String) (timeout : ℚ) (answer : HttpAnswer)
  /-- `format_service_reachability_diagnostics`; an exception counts with its `repr`. -/
  | diagnostics (answer : Except String (Option String))
  /-- A reading of `time.monotonic()`. -/
  | monotonic (now : ℚ)
  | sleep (seconds : ℚ)

/-- The exception a probe lets pass. -/
def ProbeCall.escapes : ProbeCall → Option String
  | .connect _ _ _ (.raised m) | .command _ (.raised m) | .urlopen _ _ (.raised m) => some m
  | _ => none

/-- The adapters, the network and the clock. -/
structure ProbeWorld where
  inspectContainer : List ProbeCall → String → Except String ContainerInspection
  checkTopology : List ProbeCall → Nat → String → Except String TopologyCheck
  checkAttachment : List ProbeCall → Nat → String → Nat → Except AttachmentFault AttachmentCheck
  createConnection : List ProbeCall → String → Int → ℚ → DialAnswer
  runCommand : List ProbeCall → List String → RunAnswer
  urlopen : List ProbeCall → String → ℚ → HttpAnswer
  formatDiagnostics : List ProbeCall → Nat → String → Nat → Except String (Option String)
  monotonic : List ProbeCall → ℚ

/-- How the probe runner was built, and the settings it reads. -/
structure ProbeRunner where
  /-- Checks run on the execution host, over SSH or SSM. -/
  hasServiceReachabilityRunner : Bool := false
  /-- The topology adapter has `format_service_reachability_diagnostics`. -/
  hasDiagnostics : Bool := true
  devnestProbeAssumeColocatedEngine : Bool := true
  devnestWorkspaceHttpProbeEnabled : Bool := true
  devnestWorkspaceIdeHealthPath : String := "/healthz"
  /-- The text of a float. -/
  floatText : ℚ → String := fun _ => ""

/-- What ends a probe early: an exception, or, of a wait, no turns left. -/
inductive ProbeFault where
  | escaped (text : String)
  | unfinished
  deriving DecidableEq, Repr

abbrev Probe (α : Type) := Program ProbeCall ProbeFault α

/-! ## The probes -/

section Probes

variable (w : ProbeWorld) (cfg : ProbeRunner)

/-- `_ide_health_http_path`. -/
def ideHealthHttpPath : String :=
  let p := orText (strip (orText cfg.devnestWorkspaceIdeHealthPath "/healthz")) "/healthz"
  if startsWith p "/" then p else "/" ++ p

/-- `_parse_non_negative_int`. -/
def parseNonNegativeInt (raw : String) : Option Nat :=
  match parseInt raw with
  | none => none
  | some v => if v < 0 then none else some v.toNat

def endpointText (ip : String) (port : Int) : String := ip ++ ":" ++ toString port

def isPort (port : Int) : Bool := 1 ≤ port && port ≤ 65535

/-- `_endpoint_or_none`. -/
def endpointOrNone (workspaceIp : Option String) (port : Int) : Option String :=
  let ip := stripOr workspaceIp
  if ip = "" then none
  else if isPort port then some (endpointText ip port) else none

def noListenerPrefix (expectedPort : Int) : String :=
  "workspace topology attached but nothing is listening on 0.0.0.0:" ++ toString expectedPort ++
    " (IDE still starting or process exited); "

/-- The issue of a failed dial to the service. -/
def HealthIssue.isServiceDial (i : HealthIssue) : Bool := i.component = "service" && i.code.isDial

/-- `_prepend_topology_ok_no_listener_hint`. -/
def prependTopologyOkNoListenerHint (issues : List HealthIssue) (expectedPort : Int) :
    List HealthIssue :=
  issues.map fun i =>
    if i.isServiceDial && !startsWith i.message (noListenerPrefix expectedPort) then
      { i with message := take 5000 (noListenerPrefix expectedPort ++ i.message) }
    else i

/-- `_service_issue`. -/
def serviceIssue (code : ProbeIssueCode) (message : String) : List HealthIssue :=
  [{ code := code, component := "service", message := message }]

def probeIssue (message : String) : HealthIssue :=
  { code := .probeExecutionFailed, component := "probe", message := message }

/-- `_missing_probe_binary_from_runner_error`. -/
def missingProbeBinaryFromRunnerError (t : String) : Option String :=
  if !isIn "no such file or directory" (lower t) && !isIn "exit=127)" t then none
  else ["nc", "timeout", "curl"].find? fun name =>
    isIn (String.ofList [Char.ofNat 39] ++ name ++ String.ofList [Char.ofNat 39]) t ||
      isIn (String.ofList [Char.ofNat 96] ++ name ++ String.ofList [Char.ofNat 96]) t

/-- `_probe_runtime_binary_issue`. -/
def probeRuntimeBinaryIssue (binary exc : String) : List HealthIssue :=
  let hint := if binary = "nc" then
      "install netcat-openbsd (nc) on the backend/workspace-worker image"
    else "install the missing package on the probe image"
  [{ code := .probeRuntimeBinaryMissing
     component := "probe"
     message := take 2400 ("probe runtime missing required binary: " ++ binary ++ " (" ++ hint ++
       "). Details: " ++ exc) }]

/-- The result for a container that was inspected, or not found. -/
def containerProbeOf (cid : String) (ins : ContainerInspection) : ContainerProbeResult :=
  let state := lower (stripOr ins.containerState)
  let unhealthy := fun (id : String) (code : ProbeIssueCode) (message : String) =>
    ({ healthy := false
       containerId := id
       containerState := ins.containerState
       issues := [{ code := code, component := "runtime", message := message }] } :
      ContainerProbeResult)
  let id := orText (ins.containerId.getD "") cid
  if !ins.existing then unhealthy cid .runtimeContainerMissing "container does not exist"
  else if state = "" || state = "unknown" then
    unhealthy id .runtimeContainerStateUnknown "container state is unknown or unreadable"
  else if state ≠ "running" then
    unhealthy id .runtimeNotRunning
      ("container state is " ++ reprOption ins.containerState ++ ", expected running")
  else { healthy := true, containerId := id, containerState := ins.containerState }

/-- `check_container_running`. -/
def checkContainerRunning (containerId : String) : Probe ContainerProbeResult :=
  let cid := strip containerId
  if cid = "" then
    pure { healthy := false, containerId := "", containerState := none
           issues := [probeIssue "container_id is empty"] }
  else do
    match ← ask fun log =>
      (.ok (w.inspectContainer log cid), .inspect cid (w.inspectContainer log cid)) with
    | .error e =>
        pure { healthy := false, containerId := cid, containerState := none
               issues := [{ code := .runtimeContainerStateUnknown
                            component := "runtime"
                            message := "inspect_container failed: " ++ e }] }
    | .ok ins => pure (containerProbeOf cid ins)

/-- The text of an exception of `check_attachment`. -/
def AttachmentFault.text : AttachmentFault → String
  | .fileNotFound t => t ++ " [check_attachment: docker CLI missing from PATH — topology checks " ++
    "should use Docker SDK PID resolution via DbTopologyAdapter(container_init_pid_resolver=…); " ++
    "see orchestrator app_factory.]"
  | .other t => t

def topologyIssue (code : ProbeIssueCode) (message : String) : HealthIssue :=
  { code := code, component := "topology", message := message }

/-- What the answers of the topology and the attachment come to. -/
def topologyIssues (topo : TopologyCheck) (att : AttachmentCheck) (expectedPort : Int) :
    List HealthIssue :=
  let wsIp := stripOrNone att.workspaceIp
  (if topo.healthy then [] else
    [topologyIssue .topologyUnhealthy (if topo.issues = [] then "topology runtime unhealthy"
      else join "; " topo.issues)]) ++
  (if att.healthy then [] else
    [topologyIssue .topologyAttachmentMissing (if att.issues = [] then "attachment unhealthy"
      else join "; " att.issues)]) ++
  (if wsIp = none then
    [topologyIssue .topologyWorkspaceIpMissing "workspace_ip is not set on attachment or lease"]
    else []) ++
  if endpointOrNone wsIp expectedPort = none then
    [topologyIssue .topologyInternalEndpointMissing (if wsIp = none then
      "cannot derive internal endpoint without workspace_ip"
      else "cannot derive internal endpoint (invalid expected_port=" ++ toString expectedPort ++
        ")")]
  else []

def failedTopologyProbe (topologyId workspaceId : Nat) (nodeId message : String) :
    TopologyProbeResult where
  healthy := false
  topologyId := topologyId
  nodeId := nodeId
  workspaceId := workspaceId
  workspaceIp := none
  internalEndpoint := none
  issues := [probeIssue message]

/-- The result of the two answers. -/
def topologyProbeOf (topologyId workspaceId : Nat) (nodeId : String) (expectedPort : Int)
    (topo : TopologyCheck) (att : AttachmentCheck) : TopologyProbeResult where
  healthy := (topologyIssues topo att expectedPort).length = 0
  topologyId := topologyId
  nodeId := nodeId
  workspaceId := workspaceId
  workspaceIp := stripOrNone att.workspaceIp
  internalEndpoint := endpointOrNone (stripOrNone att.workspaceIp) expectedPort
  issues := topologyIssues topo att expectedPort

def checkTopologyAndAttachment (topologyId workspaceId : Nat) (nodeId : String)
    (expectedPort : Int) : Probe TopologyProbeResult := do
  match ← ask fun log => (.ok (w.checkTopology log topologyId nodeId),
    .checkTopology topologyId nodeId (w.checkTopology log topologyId nodeId)) with
  | .error e =>
      pure (failedTopologyProbe topologyId workspaceId nodeId ("check_topology failed: " ++ e))
  | .ok topo => do
      match ← ask fun log => (.ok (w.checkAttachment log topologyId nodeId workspaceId),
        .checkAttachment topologyId nodeId workspaceId
          (w.checkAttachment log topologyId nodeId workspaceId)) with
      | .error e => pure (failedTopologyProbe topologyId workspaceId nodeId
          ("check_attachment failed: " ++ e.text))
      | .ok att => pure (topologyProbeOf topologyId workspaceId nodeId expectedPort topo att)

/-- `check_topology_state`. -/
def checkTopologyState (topologyId nodeId workspaceId : String) (expectedPort : Int) :
    Probe TopologyProbeResult :=
  let nid := take 128 (strip nodeId)
  match parseNonNegativeInt topologyId, parseNonNegativeInt workspaceId with
  | some tid, some wid => checkTopologyAndAttachment w tid wid nid expectedPort
  | tid, wid => pure (failedTopologyProbe (tid.getD 0) (wid.getD 0) nid
      "topology_id and workspace_id must be non-negative integers")

/-! ## The service -/

def isOctet (l : List Char) : Bool :=
  l ≠ [] && l.length ≤ 3 && l.all (·.isDigit) && (l.length = 1 || l.head? ≠ some '0') &&
    (parseDigits l).any (· ≤ 255)

/-- `ipaddress.IPv4Address(ip)` raises no error. -/
def isIpv4Address (ip : String) : Bool :=
  let octets := splitChar '.' ip.toList
  octets.length = 4 && octets.all isOctet

/-- The whole seconds that `timeout` on the host is given. -/
def hostSeconds (timeoutSeconds : ℚ) : Int := max 1 (min 60 ⌈timeoutSeconds⌉)

def serviceResult (ip : String) (port : Int) (issues : List HealthIssue) : ServiceProbeResult :=
  { healthy := false, workspaceIp := some ip, port := port, issues := issues }

def serviceUp (ip : String) (port : Int) : ServiceProbeResult :=
  { healthy := true, workspaceIp := some ip, port := port }

/-- The part both probes over the runner share: the issue of a host without the binary, or of
the failed command. -/
def runnerIssues (e : String) (code : ProbeIssueCode) (message : String) : List HealthIssue :=
  match missingProbeBinaryFromRunnerError e with
  | some binary => probeRuntimeBinaryIssue binary e
  | none => serviceIssue code message

/-- One command on the execution host. -/
def runOnHost (argv : List String) (ip : String) (port : Int) (code : ProbeIssueCode)
    (message : String → String) : Probe ServiceProbeResult := do
  match ← ask fun log => (.ok (w.runCommand log argv), .command argv (w.runCommand log argv)) with
  | .done => pure (serviceUp ip port)
  | .runtimeError e => pure (serviceResult ip port (runnerIssues e code (message e)))
  | .raised e => raise (.escaped e)

def notIpv4 (ip : String) (port : Int) (code : ProbeIssueCode) (message : String) :
    ServiceProbeResult :=
  { healthy := false
    workspaceIp := if ip = "" then none else some ip
    port := port
    issues := serviceIssue code message }

def ncArgv (ip : String) (port : Int) (timeoutSeconds : ℚ) : List String :=
  ["timeout", toString (hostSeconds timeoutSeconds), "nc", "-z", ip, toString port]

def refusedHint : String :=
  " [hint: netcat-openbsd often uses exit 1 for TCP refused or failed connect; if the topology " ++
    "bridge is NO-CARRIER with no " ++ String.ofList [Char.ofNat 96] ++
  "ip link show master <bridge>" ++ String.ofList [Char.ofNat 96] ++
  " ports, host L2 to the workspace netns is broken despite DB ATTACHED — see " ++
    "topology_linux_attach_* logs / attach fast-path stale plumbing warning.]"

/-- `_check_service_reachable_via_runner`. -/
def checkServiceReachableViaRunner (workspaceIp : String) (port : Int) (timeoutSeconds : ℚ) :
    Probe ServiceProbeResult :=
  let ip := strip workspaceIp
  if !isIpv4Address ip then
    pure (notIpv4 ip port .serviceConnectError
      ("remote service probe requires IPv4 workspace_ip (got " ++ PyText.repr workspaceIp ++
        "); extend probe for IPv6 or use local routing"))
  else runOnHost w (ncArgv ip port timeoutSeconds) ip port .serviceUnreachable fun e =>
    "remote nc probe failed for " ++ PyText.repr ip ++ ":" ++ toString port ++ ": " ++ e ++
      if isIn "exit=1)" e && isIn "nc" (lower e) then refusedHint else ""

/-- What a dial came to, unless its exception passes. -/
def dialIssues (ip : String) (port : Int) (timeoutSeconds : ℚ) :
    DialAnswer → List HealthIssue
  | .connected | .raised _ => []
  | .timedOut => serviceIssue .serviceTimeout ("TCP connect to " ++ PyText.repr ip ++ ":" ++
      toString port ++ " timed out after " ++ cfg.floatText timeoutSeconds ++ "s")
  | .refused => serviceIssue .serviceUnreachable ("TCP connect to " ++ PyText.repr ip ++ ":" ++
      toString port ++ " refused")
  | .gaiError e => serviceIssue .serviceConnectError
      ("TCP connect address resolution failed for " ++ PyText.repr ip ++ ":" ++ toString port ++
        ": " ++ e)
  | .osError errno e =>
      if errno.any Errno.isUnreachable then serviceIssue .serviceUnreachable
        ("TCP connect to " ++ PyText.repr ip ++ ":" ++ toString port ++ " unreachable: " ++ e)
      else serviceIssue .serviceConnectError
        ("TCP connect to " ++ PyText.repr ip ++ ":" ++ toString port ++ " failed: " ++ e)

/-- The dial from this process. -/
def dialService (ip : String) (port : Int) (timeoutSeconds : ℚ) : Probe ServiceProbeResult := do
  match ← ask fun log => (.ok (w.createConnection log ip port timeoutSeconds),
    .connect ip port timeoutSeconds (w.createConnection log ip port timeoutSeconds)) with
  | .connected => pure (serviceUp ip port)
  | .raised e => raise (.escaped e)
  | answer => pure (serviceResult ip port (dialIssues cfg ip port timeoutSeconds answer))

def colocatedOffMessage : String :=
  "TCP probe from this process is disabled (devnest_probe_assume_colocated_engine=false); use " ++
    "execution_node SSH/SSM so service_reachability_runner runs checks on the workspace host, " ++
    "or enable colocated mode for local/dev."

/-- `check_service_reachable`. -/
def checkServiceReachable (workspaceIp : String) (port : Int) (timeoutSeconds : ℚ) :
    Probe ServiceProbeResult :=
  let ip := strip workspaceIp
  if ip = "" then
    pure { healthy := false, workspaceIp := none, port := port
           issues := serviceIssue .serviceConnectError "workspace_ip is empty" }
  else if !isPort port then
    pure (serviceResult ip port
      (serviceIssue .serviceConnectError ("invalid port: " ++ toString port)))
  else if timeoutSeconds ≤ 0 then
    pure (serviceResult ip port (serviceIssue .serviceConnectError
      ("timeout_seconds must be a finite positive value, got " ++ cfg.floatText timeoutSeconds)))
  else if cfg.hasServiceReachabilityRunner then
    checkServiceReachableViaRunner w ip port timeoutSeconds
  else if !cfg.devnestProbeAssumeColocatedEngine then
    pure (serviceResult ip port (serviceIssue .serviceConnectError colocatedOffMessage))
  else dialService w cfg ip port timeoutSeconds

def healthUrl (ip : String) (port : Int) : String :=
  "http://" ++ ip ++ ":" ++ toString port ++ ideHealthHttpPath cfg

def curlArgv (ip : String) (port : Int) (timeoutSeconds : ℚ) : List String :=
  ["timeout", toString (hostSeconds timeoutSeconds), "curl", "-sf", "--max-time",
    toString (hostSeconds timeoutSeconds), healthUrl cfg ip port]

/-- `_check_service_http_via_runner`. -/
def checkServiceHttpViaRunner (workspaceIp : String) (port : Int) (timeoutSeconds : ℚ) :
    Probe ServiceProbeResult :=
  let ip := strip workspaceIp
  if !isIpv4Address ip then
    pure (notIpv4 ip port .serviceHttpNotReady
      ("remote HTTP probe requires IPv4 workspace_ip (got " ++ PyText.repr workspaceIp ++
        "); extend probe for IPv6 or use local HTTP check"))
  else runOnHost w (curlArgv cfg ip port timeoutSeconds) ip port .serviceHttpNotReady fun e =>
    "remote curl HTTP probe failed for " ++ PyText.repr (healthUrl cfg ip port) ++ ": " ++ e

/-- The result for a page that was answered. -/
def httpResult (ip : String) (port : Int) (code : Nat) : ServiceProbeResult :=
  if code < 400 then serviceUp ip port
  else serviceResult ip port (serviceIssue .serviceHttpNotReady
    ("HTTP GET " ++ healthUrl cfg ip port ++ " returned " ++ toString code))

/-- The request from this process. -/
def fetchHealthPage (ip : String) (port : Int) (timeoutSeconds : ℚ) :
    Probe ServiceProbeResult := do
  match ← ask fun log => (.ok (w.urlopen log (healthUrl cfg ip port) timeoutSeconds),
    .urlopen (healthUrl cfg ip port) timeoutSeconds
      (w.urlopen log (healthUrl cfg ip port) timeoutSeconds)) with
  | .status code | .httpError code => pure (httpResult cfg ip port code)
  | .failed e => pure (serviceResult ip port (serviceIssue .serviceHttpNotReady
      ("HTTP GET " ++ healthUrl cfg ip port ++ " failed: " ++ e)))
  | .raised e => raise (.escaped e)

/-- `check_service_http`. -/
def checkServiceHttp (workspaceIp : String) (port : Int) (timeoutSeconds : ℚ) :
    Probe ServiceProbeResult :=
  if cfg.hasServiceReachabilityRunner then
    checkServiceHttpViaRunner w cfg workspaceIp port timeoutSeconds
  else fetchHealthPage w cfg (strip workspaceIp) port timeoutSeconds

/-- The diagnostics go to the first dial issue. -/
def appendDiagnostics (blob : String) : List HealthIssue → List HealthIssue
  | [] => []
  | i :: issues =>
      if i.isServiceDial then
        { i with message := i.message ++ "; host/workspace diagnostics: " ++ blob } :: issues
      else i :: appendDiagnostics blob issues

/-- The text of the diagnostics. -/
def diagnosticsBlob (answer : Except String (Option String)) : String :=
  take 2400 (strip (match answer with
    | .error e => "diagnostics_error=" ++ e
    | .ok blob => blob.getD ""))

/-- `_augment_unreachable_service_probe`. -/
def augmentUnreachableServiceProbe (svc : ServiceProbeResult) (topo : TopologyProbeResult) :
    Probe ServiceProbeResult :=
  if svc.healthy || !cfg.hasDiagnostics || !svc.issues.any HealthIssue.isServiceDial then pure svc
  else do
    let answer ← ask fun log =>
      (.ok (w.formatDiagnostics log topo.topologyId topo.nodeId topo.workspaceId),
        .diagnostics (w.formatDiagnostics log topo.topologyId topo.nodeId topo.workspaceId))
    if diagnosticsBlob answer = "" then pure svc
    else pure { svc with issues := appendDiagnostics (diagnosticsBlob answer) svc.issues }

/-- The page, once the port was reached. -/
def checkReadiness (wsIp : String) (port : Int) (timeoutSeconds : ℚ) (svc : ServiceProbeResult) :
    Probe (Bool × List HealthIssue) :=
  if cfg.devnestWorkspaceHttpProbeEnabled then do
    let http ← checkServiceHttp w cfg wsIp port timeoutSeconds
    pure (http.healthy, svc.issues ++ http.issues)
  else pure (svc.healthy, svc.issues)

/-- The service part of `check_workspace_health`. -/
def checkWorkspaceService (topo : TopologyProbeResult) (port : Int) (timeoutSeconds : ℚ) :
    Probe (Bool × List HealthIssue) :=
  let wsIp := stripOr topo.workspaceIp
  if wsIp = "" then
    pure (false, if topo.issues.any (·.code = .topologyWorkspaceIpMissing) then [] else
      [topologyIssue .topologyWorkspaceIpMissing
        "service probe skipped: no workspace_ip from topology probe"])
  else do
    let dialed ← checkServiceReachable w cfg wsIp port timeoutSeconds
    let svc ← augmentUnreachableServiceProbe w cfg dialed topo
    if svc.healthy then checkReadiness w cfg wsIp port timeoutSeconds svc
    else pure (false, if topo.healthy then prependTopologyOkNoListenerHint svc.issues port
      else svc.issues)

/-- `check_workspace_health`. -/
def checkWorkspaceHealth (workspaceId topologyId nodeId containerId : String) (expectedPort : Int)
    (timeoutSeconds : ℚ) : Probe WorkspaceHealthResult := do
  let ctr ← checkContainerRunning w containerId
  let topo ← checkTopologyState w topologyId nodeId workspaceId expectedPort
  let service ← checkWorkspaceService w cfg topo expectedPort timeoutSeconds
  pure { workspaceId := topo.workspaceId
         healthy := ctr.healthy && topo.healthy && service.1
         runtimeHealthy := ctr.healthy
         topologyHealthy := topo.healthy
         serviceHealthy := service.1
         containerState := ctr.containerState
         workspaceIp := topo.workspaceIp
         internalEndpoint := topo.internalEndpoint
         issues := ctr.issues ++ topo.issues ++ service.2 }

end Probes

/-! ## What a probe has seen -/

/-- An exception that no part of a probe catches came last. -/
def CutShort (log : List ProbeCall) : Prop :=
  ∃ call older, log = call :: older ∧ call.escapes.isSome = true

/-- A call and what follows its answer: the rest of the probe, or the exception it was answered
with. -/
theorem call_spec {α β : Type} {old : List ProbeCall} {answer : List ProbeCall → β}
    {event : β → ProbeCall} {f : β → Probe α} {Q : α → List ProbeCall → Prop}
    {R : List ProbeCall → Prop}
    (hf : ∀ b, Spec (· = event b :: old) (f b) Q R ∨ R (event b :: old) ∧ ∃ x, f b = raise x) :
    Spec (· = old) ((ask fun log => (.ok (answer log), event (answer log))) >>= f) Q R := by
  refine Spec.bind (Spec.ask (Q := fun b log => log = event b :: old) ?_ ?_) fun b => ?_
  · rintro log b e rfl heq
    obtain ⟨hb, rfl⟩ := Prod.mk.inj heq
    rw [Except.ok.inj hb]
  · rintro log x e rfl heq
    cases (Prod.mk.inj heq).1
  · rcases hf b with hrest | ⟨hR, x, hraise⟩
    · exact hrest
    · rw [hraise]
      exact Spec.raise fun log hlog => hlog ▸ hR

/-- `Q` of the result and of the calls made since `old`. -/
def Since {α : Type} (old : List ProbeCall) (Q : α → List ProbeCall → Prop) (a : α)
    (log : List ProbeCall) : Prop :=
  ∃ calls, log = calls ++ old ∧ Q a calls

/-- From any log the probe ends with `Q` of its result and its calls, or with an exception and a
log that has `R`. -/
def Sees {α : Type} (m : Probe α) (Q : α → List ProbeCall → Prop)
    (R : List ProbeCall → Prop := CutShort) : Prop :=
  ∀ old, Spec (· = old) m (Since old Q) R

namespace Sees

variable {α β : Type} {Q Q' : α → List ProbeCall → Prop} {R R' : List ProbeCall → Prop}

theorem pure {a : α} (h : Q a []) : Sees (pure a) Q R :=
  fun _ => Spec.pure fun _ hlog => ⟨[], hlog, h⟩

theorem conseq {m : Probe α} (h : Sees m Q R) (hQ : ∀ a calls, Q a calls → Q' a calls)
    (hR : ∀ log, R log → R' log) : Sees m Q' R' :=
  fun old => (h old).conseq (fun _ hlog => hlog)
    (fun a _ hsince => hsince.imp fun calls hs => ⟨hs.1, hQ a calls hs.2⟩) hR

theorem mono {m : Probe α} (h : Sees m Q R) (hQ : ∀ a calls, Q a calls → Q' a calls) :
    Sees m Q' R :=
  h.conseq hQ fun _ hlog => hlog

theorem bind {m : Probe β} {f : β → Probe α} {S : β → List ProbeCall → Prop} (hm : Sees m S R)
    (hf : ∀ b calls, S b calls → Sees (f b) (fun a calls' => Q a (calls' ++ calls)) R) :
    Sees (m >>= f) Q R := by
  intro old
  refine Spec.bind (hm old) fun b => Spec.pointwise ?_
  rintro log ⟨calls, hlog, hS⟩
  refine (hf b calls hS log).conseq (fun _ h => h) ?_ fun _ h => h
  rintro a log' ⟨calls', hlog', hQ⟩
  exact ⟨calls' ++ calls, by rw [hlog', hlog, List.append_assoc], hQ⟩

theorem ite {c : Prop} [Decidable c] {m m' : Probe α} (h : c → Sees m Q R)
    (h' : ¬ c → Sees m' Q R) : Sees (if c then m else m') Q R :=
  fun old => Spec.ite (fun hc => h hc old) fun hc => h' hc old

theorem asked (answer : List ProbeCall → α) (event : List ProbeCall → ProbeCall) :
    Sees (ask fun log => (.ok (answer log), event log)) (fun _ _ => True) R := by
  refine fun old => Spec.ask ?_ ?_
  · rintro log a e rfl heq
    obtain ⟨-, rfl⟩ := Prod.mk.inj heq
    exact ⟨[event log], rfl, trivial⟩
  · rintro log x e rfl heq
    cases (Prod.mk.inj heq).1

theorem call {answer : List ProbeCall → β} {event : β → ProbeCall} {f : β → Probe α}
    (hf : ∀ b, (Sees (f b) fun a calls => Q a (calls ++ [event b])) ∨
      (event b).escapes.isSome = true ∧ ∃ x, f b = raise x) :
    Sees ((ask fun log => (.ok (answer log), event (answer log))) >>= f) Q := by
  refine fun old => call_spec fun b => (hf b).imp (fun hsees => ?_) fun hraised => ?_
  · refine (hsees (event b :: old)).conseq (fun _ h => h) ?_ fun _ h => h
    rintro a log' ⟨calls, hlog', hQ⟩
    exact ⟨calls ++ [event b], by simp [hlog'], hQ⟩
  · exact ⟨⟨event b, old, rfl, hraised.1⟩, hraised.2⟩

end Sees

/-! ## The spec of each part -/

/-- A result is healthy exactly if it has nothing to report. -/
def Tells (healthy : Bool) (issues : List HealthIssue) : Prop := healthy = true ↔ issues = []

/-- The container was inspected, is there and runs. -/
def SeenRunning (containerId : String) (state : Option String) (calls : List ProbeCall) : Prop :=
  ∃ ins, ProbeCall.inspect (strip containerId) (.ok ins) ∈ calls ∧ ins.existing = true ∧
    lower (stripOr ins.containerState) = "running" ∧ ins.containerState = state

theorem containerProbeOf_spec (cid : String) (ins : ContainerInspection) :
    let r := containerProbeOf cid ins
    Tells r.healthy r.issues ∧ (r.healthy = true → ins.existing = true ∧
      lower (stripOr ins.containerState) = "running" ∧ ins.containerState = r.containerState) := by
  unfold containerProbeOf Tells
  dsimp only
  by_cases hexists : ins.existing = true
  · rw [if_neg (by simp [hexists])]
    by_cases hunknown : (lower (stripOr ins.containerState) = "" ||
        lower (stripOr ins.containerState) = "unknown") = true
    · rw [if_pos hunknown]
      simp
    · rw [if_neg hunknown]
      by_cases hrunning : lower (stripOr ins.containerState) = "running"
      · rw [if_neg (by simpa using hrunning)]
        simp [hexists, hrunning]
      · rw [if_pos hrunning]
        simp
  · rw [if_pos (by simpa using hexists)]
    simp

section Specs

variable (w : ProbeWorld) (cfg : ProbeRunner)

theorem checkContainerRunning_spec (containerId : String) :
    Sees (checkContainerRunning w containerId) fun r calls => Tells r.healthy r.issues ∧
      (r.healthy = true → SeenRunning containerId r.containerState calls) := by
  unfold checkContainerRunning
  dsimp only
  refine Sees.ite (fun _ => Sees.pure (by simp [Tells])) fun _ => Sees.call fun answer => .inl ?_
  cases answer with
  | error e => exact Sees.pure (by simp [Tells])
  | ok ins =>
      obtain ⟨htells, hseen⟩ := containerProbeOf_spec (strip containerId) ins
      refine Sees.pure ⟨htells, fun h => ?_⟩
      obtain ⟨hexists, hrunning, hstate⟩ := hseen h
      exact ⟨ins, by simp, hexists, hrunning, hstate⟩

/-- The topology and the attachment were checked and found in order, with this address. -/
def SeenAttached (topologyId nodeId workspaceId ip : String) (calls : List ProbeCall) : Prop :=
  ∃ tid wid topo att, parseNonNegativeInt topologyId = some tid ∧
    parseNonNegativeInt workspaceId = some wid ∧
    ProbeCall.checkTopology tid (take 128 (strip nodeId)) (.ok topo) ∈ calls ∧
    topo.healthy = true ∧
    ProbeCall.checkAttachment tid (take 128 (strip nodeId)) wid (.ok att) ∈ calls ∧
    att.healthy = true ∧ stripOrNone att.workspaceIp = some ip

theorem topologyIssues_nil {topo : TopologyCheck} {att : AttachmentCheck} {port : Int}
    (h : topologyIssues topo att port = []) :
    topo.healthy = true ∧ att.healthy = true ∧
      ∃ ip, stripOrNone att.workspaceIp = some ip ∧ strip ip = ip ∧ ip ≠ "" ∧
        endpointOrNone (some ip) port = some (endpointText ip port) := by
  unfold topologyIssues at h
  dsimp only at h
  simp only [List.append_eq_nil_iff, ite_eq_left_iff, reduceCtorEq, imp_false, not_not,
    ite_eq_right_iff] at h
  obtain ⟨⟨⟨htopo, hatt⟩, hip⟩, hendpoint⟩ := h
  obtain ⟨ip, hip⟩ := Option.ne_none_iff_exists'.mp hip
  have hstrip : strip ip = ip ∧ ip ≠ "" := by
    unfold stripOrNone at hip
    split at hip
    · cases hip
    next hne =>
      obtain rfl := Option.some.inj hip
      exact ⟨strip_strip _, hne⟩
  refine ⟨htopo, hatt, ip, hip, hstrip.1, hstrip.2, ?_⟩
  rw [hip] at hendpoint
  unfold endpointOrNone at hendpoint ⊢
  rw [show stripOr (some ip) = ip from hstrip.1] at hendpoint ⊢
  dsimp only at hendpoint ⊢
  rw [if_neg hstrip.2] at hendpoint ⊢
  split
  · rfl
  next hport => exact absurd (if_neg hport) hendpoint

theorem checkTopologyAndAttachment_spec (tid wid : Nat) (nid : String) (port : Int) :
    Sees (checkTopologyAndAttachment w tid wid nid port) fun r calls =>
      Tells r.healthy r.issues ∧ (r.healthy = true → ∃ ip, r.workspaceIp = some ip ∧
        strip ip = ip ∧ ip ≠ "" ∧ r.internalEndpoint = some (endpointText ip port) ∧
        ∃ topo att, ProbeCall.checkTopology tid nid (.ok topo) ∈ calls ∧ topo.healthy = true ∧
          ProbeCall.checkAttachment tid nid wid (.ok att) ∈ calls ∧ att.healthy = true ∧
          stripOrNone att.workspaceIp = some ip) := by
  refine Sees.call fun answer => .inl ?_
  cases answer with
  | error e => exact Sees.pure (by simp [Tells, failedTopologyProbe])
  | ok topo =>
      refine Sees.call fun answer => .inl ?_
      cases answer with
      | error e => exact Sees.pure (by simp [Tells, failedTopologyProbe])
      | ok att =>
          refine Sees.pure ⟨by simp [Tells, topologyProbeOf], fun h => ?_⟩
          obtain ⟨htopo, hatt, ip, hip, hstrip, hne, hendpoint⟩ :=
            topologyIssues_nil (List.eq_nil_of_length_eq_zero (of_decide_eq_true h))
          refine ⟨ip, hip, hstrip, hne, ?_, topo, att, by simp, htopo, by simp, hatt, hip⟩
          simp only [topologyProbeOf, hip, hendpoint]

theorem checkTopologyState_spec (topologyId nodeId workspaceId : String) (expectedPort : Int) :
    Sees (checkTopologyState w topologyId nodeId workspaceId expectedPort) fun r calls =>
      Tells r.healthy r.issues ∧ (r.healthy = true → ∃ ip, r.workspaceIp = some ip ∧
        strip ip = ip ∧ ip ≠ "" ∧ r.internalEndpoint = some (endpointText ip expectedPort) ∧
        SeenAttached topologyId nodeId workspaceId ip calls) := by
  unfold checkTopologyState
  dsimp only
  split
  next tid wid htid hwid =>
    refine (checkTopologyAndAttachment_spec w tid wid _ expectedPort).mono
      fun r calls h => ⟨h.1, fun hr => ?_⟩
    obtain ⟨ip, hip, hstrip, hne, hendpoint, topo, att, hseen⟩ := h.2 hr
    exact ⟨ip, hip, hstrip, hne, hendpoint, tid, wid, topo, att, htid, hwid, hseen⟩
  next => exact Sees.pure ⟨by simp [Tells, failedTopologyProbe], fun h => by cases h⟩

/-- The port accepted a connection: from the execution host, or from here. -/
def SeenReachable (ip : String) (port : Int) (timeoutSeconds : ℚ) (calls : List ProbeCall) :
    Prop :=
  if cfg.hasServiceReachabilityRunner then
    ProbeCall.command (ncArgv ip port timeoutSeconds) .done ∈ calls
  else ProbeCall.connect ip port timeoutSeconds .connected ∈ calls

/-- The health page was answered with a status below 400. -/
def SeenReady (ip : String) (port : Int) (timeoutSeconds : ℚ) (calls : List ProbeCall) : Prop :=
  if cfg.hasServiceReachabilityRunner then
    ProbeCall.command (curlArgv cfg ip port timeoutSeconds) .done ∈ calls
  else ∃ code < 400,
    ProbeCall.urlopen (healthUrl cfg ip port) timeoutSeconds (.status code) ∈ calls ∨
      ProbeCall.urlopen (healthUrl cfg ip port) timeoutSeconds (.httpError code) ∈ calls

theorem runnerIssues_ne_nil (e : String) (code : ProbeIssueCode) (message : String) :
    runnerIssues e code message ≠ [] := by
  unfold runnerIssues
  split
  · simp [probeRuntimeBinaryIssue]
  · simp [serviceIssue]

theorem runOnHost_spec (argv : List String) (ip : String) (port : Int) (code : ProbeIssueCode)
    (message : String → String) :
    Sees (runOnHost w argv ip port code message) fun r calls => Tells r.healthy r.issues ∧
      (r.healthy = true → ProbeCall.command argv .done ∈ calls) := by
  refine Sees.call fun answer => ?_
  cases answer with
  | done => exact .inl (Sees.pure (by simp [Tells, serviceUp]))
  | runtimeError e =>
      refine .inl (Sees.pure ⟨?_, fun h => by cases h⟩)
      simp [Tells, serviceResult, runnerIssues_ne_nil]
  | raised e => exact .inr ⟨rfl, _, rfl⟩

theorem checkServiceReachableViaRunner_spec (ip : String) (port : Int) (timeoutSeconds : ℚ)
    (hrunner : cfg.hasServiceReachabilityRunner = true) :
    Sees (checkServiceReachableViaRunner w ip port timeoutSeconds) fun r calls =>
      Tells r.healthy r.issues ∧
        (r.healthy = true → SeenReachable cfg (strip ip) port timeoutSeconds calls) := by
  unfold checkServiceReachableViaRunner
  refine Sees.ite (fun _ => Sees.pure (by simp [Tells, notIpv4, serviceIssue])) fun _ => ?_
  refine (runOnHost_spec w _ _ _ _ _).mono fun r calls h => ⟨h.1, fun hr => ?_⟩
  rw [SeenReachable, if_pos hrunner]
  exact h.2 hr

theorem dialService_spec (ip : String) (port : Int) (timeoutSeconds : ℚ)
    (hlocal : ¬ cfg.hasServiceReachabilityRunner = true) :
    Sees (dialService w cfg ip port timeoutSeconds) fun r calls => Tells r.healthy r.issues ∧
      (r.healthy = true → SeenReachable cfg ip port timeoutSeconds calls) := by
  refine Sees.call fun answer => ?_
  cases answer with
  | connected =>
      refine .inl (Sees.pure ⟨by simp [Tells, serviceUp], fun _ => ?_⟩)
      rw [SeenReachable, if_neg hlocal]
      simp
  | raised e => exact .inr ⟨rfl, _, rfl⟩
  | osError errno e =>
      refine .inl (Sees.pure ⟨?_, fun h => by cases h⟩)
      simp only [serviceResult, dialIssues, Tells]
      split <;> simp [serviceIssue]
  | timedOut | refused | gaiError e =>
      exact .inl (Sees.pure ⟨by simp [Tells, serviceResult, dialIssues, serviceIssue],
        fun h => by cases h⟩)

theorem checkServiceReachable_spec (ip : String) (port : Int) (timeoutSeconds : ℚ) :
    Sees (checkServiceReachable w cfg ip port timeoutSeconds) fun r calls =>
      Tells r.healthy r.issues ∧
        (r.healthy = true → SeenReachable cfg (strip ip) port timeoutSeconds calls) := by
  unfold checkServiceReachable
  dsimp only
  refine Sees.ite (fun _ => Sees.pure (by simp [Tells, serviceIssue])) fun _ => ?_
  refine Sees.ite (fun _ => Sees.pure (by simp [Tells, serviceIssue, serviceResult])) fun _ => ?_
  refine Sees.ite (fun _ => Sees.pure (by simp [Tells, serviceIssue, serviceResult])) fun _ => ?_
  refine Sees.ite (fun hrunner => ?_) fun hlocal => ?_
  · have hspec := checkServiceReachableViaRunner_spec w cfg (strip ip) port timeoutSeconds hrunner
    rwa [strip_strip] at hspec
  · refine Sees.ite (fun _ => Sees.pure (by simp [Tells, serviceIssue, serviceResult])) fun _ => ?_
    exact dialService_spec w cfg (strip ip) port timeoutSeconds hlocal

theorem httpResult_spec (ip : String) (port : Int) (code : Nat) :
    Tells (httpResult cfg ip port code).healthy (httpResult cfg ip port code).issues ∧
      ((httpResult cfg ip port code).healthy = true → code < 400) := by
  unfold httpResult
  split
  next hcode => exact ⟨by simp [Tells, serviceUp], fun _ => hcode⟩
  next => exact ⟨by simp [Tells, serviceResult, serviceIssue], fun h => by cases h⟩

theorem checkServiceHttp_spec (ip : String) (port : Int) (timeoutSeconds : ℚ) :
    Sees (checkServiceHttp w cfg ip port timeoutSeconds) fun r calls =>
      Tells r.healthy r.issues ∧
        (r.healthy = true → SeenReady cfg (strip ip) port timeoutSeconds calls) := by
  unfold checkServiceHttp
  refine Sees.ite (fun hrunner => ?_) fun hlocal => ?_
  · unfold checkServiceHttpViaRunner
    refine Sees.ite (fun _ => Sees.pure (by simp [Tells, notIpv4, serviceIssue])) fun _ => ?_
    refine (runOnHost_spec w _ _ _ _ _).mono fun r calls h => ⟨h.1, fun hr => ?_⟩
    rw [SeenReady, if_pos hrunner]
    exact h.2 hr
  · refine Sees.call fun answer => ?_
    cases answer with
    | status code =>
        obtain ⟨htells, hlt⟩ := httpResult_spec cfg (strip ip) port code
        refine .inl (Sees.pure ⟨htells, fun h => ?_⟩)
        rw [SeenReady, if_neg hlocal]
        exact ⟨code, hlt h, .inl (by simp)⟩
    | httpError code =>
        obtain ⟨htells, hlt⟩ := httpResult_spec cfg (strip ip) port code
        refine .inl (Sees.pure ⟨htells, fun h => ?_⟩)
        rw [SeenReady, if_neg hlocal]
        exact ⟨code, hlt h, .inr (by simp)⟩
    | failed e =>
        exact .inl (Sees.pure ⟨by simp [Tells, serviceResult, serviceIssue], fun h => by cases h⟩)
    | raised e => exact .inr ⟨rfl, _, rfl⟩

/-- The diagnostics change texts only. -/
theorem appendDiagnostics_codes (blob : String) (issues : List HealthIssue) :
    (appendDiagnostics blob issues).map (·.code) = issues.map (·.code) := by
  induction issues with
  | nil => rfl
  | cons i issues ih =>
      unfold appendDiagnostics
      split
      · rfl
      · rw [List.map_cons, List.map_cons, ih]

/-- The hint changes texts only. -/
theorem prependHint_codes (issues : List HealthIssue) (port : Int) :
    (prependTopologyOkNoListenerHint issues port).map (·.code) = issues.map (·.code) := by
  unfold prependTopologyOkNoListenerHint
  rw [List.map_map]
  refine List.map_congr_left fun i _ => ?_
  dsimp only [Function.comp]
  split <;> rfl

theorem issues_nil_iff {issues issues' : List HealthIssue}
    (h : issues.map (·.code) = issues'.map (·.code)) : issues = [] ↔ issues' = [] := by
  rw [← List.map_eq_nil_iff, h, List.map_eq_nil_iff]

theorem augmentUnreachableServiceProbe_spec (svc : ServiceProbeResult)
    (topo : TopologyProbeResult) :
    Sees (augmentUnreachableServiceProbe w cfg svc topo) fun r _ =>
      r.healthy = svc.healthy ∧ r.issues.map (·.code) = svc.issues.map (·.code) := by
  unfold augmentUnreachableServiceProbe
  refine Sees.ite (fun _ => Sees.pure ⟨rfl, rfl⟩) fun _ => Sees.call fun answer => .inl ?_
  exact Sees.ite (fun _ => Sees.pure ⟨rfl, rfl⟩) fun _ =>
    Sees.pure ⟨rfl, appendDiagnostics_codes _ _⟩

theorem checkReadiness_spec (ip : String) (port : Int) (timeoutSeconds : ℚ)
    {svc : ServiceProbeResult} (hup : svc.healthy = true) (hnil : svc.issues = []) :
    Sees (checkReadiness w cfg ip port timeoutSeconds svc) fun r calls => Tells r.1 r.2 ∧
      (r.1 = true → cfg.devnestWorkspaceHttpProbeEnabled = true →
        SeenReady cfg (strip ip) port timeoutSeconds calls) := by
  unfold checkReadiness
  refine Sees.ite (fun _ => ?_) fun hoff => Sees.pure ⟨by simp [Tells, hup, hnil], fun _ h => ?_⟩
  · refine Sees.bind (checkServiceHttp_spec w cfg ip port timeoutSeconds) fun http calls h => ?_
    refine Sees.pure ⟨?_, fun hhttp _ => h.2 hhttp⟩
    rw [hnil, List.nil_append]
    exact h.1
  · exact absurd h hoff

theorem SeenRunning.mono {containerId : String} {state : Option String}
    {calls calls' : List ProbeCall} (h : SeenRunning containerId state calls)
    (hsub : calls ⊆ calls') : SeenRunning containerId state calls' :=
  h.imp fun _ hins => ⟨hsub hins.1, hins.2⟩

theorem SeenAttached.mono {topologyId nodeId workspaceId ip : String}
    {calls calls' : List ProbeCall} (h : SeenAttached topologyId nodeId workspaceId ip calls)
    (hsub : calls ⊆ calls') : SeenAttached topologyId nodeId workspaceId ip calls' := by
  obtain ⟨tid, wid, topo, att, htid, hwid, htopo, hup, hatt, hrest⟩ := h
  exact ⟨tid, wid, topo, att, htid, hwid, hsub htopo, hup, hsub hatt, hrest⟩

variable {cfg} in
theorem SeenReachable.mono {ip : String} {port : Int} {timeoutSeconds : ℚ}
    {calls calls' : List ProbeCall} (h : SeenReachable cfg ip port timeoutSeconds calls)
    (hsub : calls ⊆ calls') : SeenReachable cfg ip port timeoutSeconds calls' := by
  unfold SeenReachable at h ⊢
  split at h <;> rename_i hrunner
  · rw [if_pos hrunner]
    exact hsub h
  · rw [if_neg hrunner]
    exact hsub h

variable {cfg} in
theorem SeenReady.mono {ip : String} {port : Int} {timeoutSeconds : ℚ}
    {calls calls' : List ProbeCall} (h : SeenReady cfg ip port timeoutSeconds calls)
    (hsub : calls ⊆ calls') : SeenReady cfg ip port timeoutSeconds calls' := by
  unfold SeenReady at h ⊢
  split at h <;> rename_i hrunner
  · rw [if_pos hrunner]
    exact hsub h
  · rw [if_neg hrunner]
    exact h.imp fun code hcode => ⟨hcode.1, hcode.2.imp (fun h => hsub h) fun h => hsub h⟩

theorem checkWorkspaceService_spec (topo : TopologyProbeResult) (port : Int)
    (timeoutSeconds : ℚ) :
    Sees (checkWorkspaceService w cfg topo port timeoutSeconds) fun r calls =>
      (stripOr topo.workspaceIp ≠ "" → Tells r.1 r.2) ∧
        (r.1 = true → SeenReachable cfg (stripOr topo.workspaceIp) port timeoutSeconds calls ∧
          (cfg.devnestWorkspaceHttpProbeEnabled = true →
            SeenReady cfg (stripOr topo.workspaceIp) port timeoutSeconds calls)) := by
  unfold checkWorkspaceService
  dsimp only
  have hstrip : strip (stripOr topo.workspaceIp) = stripOr topo.workspaceIp := strip_strip _
  refine Sees.ite (fun hno => Sees.pure ⟨fun hne => absurd hno hne, fun h => by cases h⟩)
    fun _ => ?_
  refine Sees.bind (checkServiceReachable_spec w cfg _ port timeoutSeconds) fun dialed calls h => ?_
  obtain ⟨htells, hreach⟩ := h
  refine Sees.bind (augmentUnreachableServiceProbe_spec w cfg dialed topo) fun svc calls' h => ?_
  obtain ⟨hhealthy, hcodes⟩ := h
  have hsvc : Tells svc.healthy svc.issues := by
    unfold Tells at htells ⊢
    rw [hhealthy, issues_nil_iff hcodes]
    exact htells
  refine Sees.ite (fun hup => ?_) fun hdown => Sees.pure ⟨fun _ => ?_, fun h => by cases h⟩
  · refine (checkReadiness_spec w cfg _ port timeoutSeconds hup (hsvc.mp hup)).mono
      fun r calls'' h => ⟨fun _ => h.1, fun hr => ⟨?_, fun hon => ?_⟩⟩
    · rw [← hstrip]
      exact (hreach (hhealthy ▸ hup)).mono (by simp)
    · rw [← hstrip]
      exact (h.2 hr hon).mono (by simp)
  · -- a failed dial leaves its issues, with or without the hint
    have hsome : svc.issues ≠ [] := fun h => hdown (hsvc.mpr h)
    refine ⟨fun h => (by cases h), fun h => absurd h ?_⟩
    split
    · exact (issues_nil_iff (prependHint_codes _ _)).not.mpr hsome
    · exact hsome

/-- The parts of a workspace, each seen at work. -/
structure SeenHealthy (workspaceId topologyId nodeId containerId : String) (port : Int)
    (timeoutSeconds : ℚ) (state : Option String) (ip : String) (calls : List ProbeCall) : Prop where
  running : SeenRunning containerId state calls
  attached : SeenAttached topologyId nodeId workspaceId ip calls
  reachable : SeenReachable cfg ip port timeoutSeconds calls
  ready : cfg.devnestWorkspaceHttpProbeEnabled = true →
    SeenReady cfg ip port timeoutSeconds calls

theorem checkWorkspaceHealth_spec (workspaceId topologyId nodeId containerId : String) (port : Int)
    (timeoutSeconds : ℚ) :
    Sees (checkWorkspaceHealth w cfg workspaceId topologyId nodeId containerId port
      timeoutSeconds) fun r calls => Tells r.healthy r.issues ∧
        (r.healthy = true → ∃ ip, r.workspaceIp = some ip ∧
          r.internalEndpoint = some (endpointText ip port) ∧
          SeenHealthy cfg workspaceId topologyId nodeId containerId port timeoutSeconds
            r.containerState ip calls) := by
  unfold checkWorkspaceHealth
  refine Sees.bind (checkContainerRunning_spec w containerId) fun ctr calls hctr => ?_
  refine Sees.bind (checkTopologyState_spec w topologyId nodeId workspaceId port)
    fun topo calls' htopo => ?_
  refine Sees.bind (checkWorkspaceService_spec w cfg topo port timeoutSeconds)
    fun service calls'' hservice => Sees.pure ⟨?_, fun h => ?_⟩
  · simp only [Tells, Bool.and_eq_true, List.append_eq_nil_iff]
    have hip : topo.healthy = true → stripOr topo.workspaceIp ≠ "" := by
      intro h
      obtain ⟨ip, hip, hstrip, hne, -⟩ := htopo.2 h
      rw [hip]
      exact fun heq => hne (hstrip.symm.trans heq)
    constructor
    · rintro ⟨⟨hc, ht⟩, hs⟩
      exact ⟨⟨hctr.1.mp hc, htopo.1.mp ht⟩, (hservice.1 (hip ht)).mp hs⟩
    · rintro ⟨⟨hc, ht⟩, hs⟩
      have ht' := htopo.1.mpr ht
      exact ⟨⟨hctr.1.mpr hc, ht'⟩, (hservice.1 (hip ht')).mpr hs⟩
  · simp only [Bool.and_eq_true] at h
    obtain ⟨⟨hc, ht⟩, hs⟩ := h
    obtain ⟨ip, hip, hstrip, -, hendpoint, hattached⟩ := htopo.2 ht
    obtain ⟨hreach, hready⟩ := hservice.2 hs
    have heq : stripOr topo.workspaceIp = ip := by rw [hip]; exact hstrip
    rw [heq] at hreach hready
    exact ⟨ip, hip, hendpoint, (hctr.2 hc).mono (by simp), hattached.mono (by simp),
      hreach.mono (by simp), fun hon => (hready hon).mono (by simp)⟩

variable {cfg} in
theorem SeenHealthy.mono {workspaceId topologyId nodeId containerId ip : String} {port : Int}
    {timeoutSeconds : ℚ} {state : Option String} {calls calls' : List ProbeCall}
    (h : SeenHealthy cfg workspaceId topologyId nodeId containerId port timeoutSeconds state ip
      calls) (hsub : calls ⊆ calls') :
    SeenHealthy cfg workspaceId topologyId nodeId containerId port timeoutSeconds state ip calls' :=
  ⟨h.running.mono hsub, h.attached.mono hsub, h.reachable.mono hsub,
    fun hon => (h.ready hon).mono hsub⟩

/-- **A health check tells what it saw.** Whatever the adapters, the network and the service
answer, a check is healthy exactly if it reports no issue; then it has itself seen the container
run, the bridge and the attachment in order, the port at the reported address accept a connection
and, where that is asked for, the health page answer. It ends without a result only by an
exception that no part of it catches. -/
theorem health_check_tells (workspaceId topologyId nodeId containerId : String) (port : Int)
    (timeoutSeconds : ℚ) (old : List ProbeCall) :
    (∀ r log, checkWorkspaceHealth w cfg workspaceId topologyId nodeId containerId port
        timeoutSeconds old = (.ok r, log) →
      (r.healthy = true ↔ r.issues = []) ∧
      (r.healthy = true → ∃ ip calls, r.workspaceIp = some ip ∧
        r.internalEndpoint = some (ip ++ ":" ++ toString port) ∧ log = calls ++ old ∧
        SeenHealthy cfg workspaceId topologyId nodeId containerId port timeoutSeconds
          r.containerState ip calls)) ∧
    ∀ x log, checkWorkspaceHealth w cfg workspaceId topologyId nodeId containerId port
        timeoutSeconds old = (.error x, log) →
      ∃ call older, log = call :: older ∧ call.escapes.isSome = true := by
  obtain ⟨hok, herror⟩ := checkWorkspaceHealth_spec w cfg workspaceId topologyId nodeId containerId
    port timeoutSeconds old old rfl
  refine ⟨fun r log hrun => ?_, herror⟩
  obtain ⟨calls, hlog, htells, hseen⟩ := hok r log hrun
  refine ⟨htells, fun h => ?_⟩
  obtain ⟨ip, hip, hendpoint, hhealthy⟩ := hseen h
  exact ⟨ip, calls, hip, hendpoint, hlog, hhealthy⟩

end Specs

end Devnest
