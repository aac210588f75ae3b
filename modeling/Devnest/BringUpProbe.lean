import Devnest.AppliedLimits
import Devnest.Probes

/-!
# The probe step of a bring-up

`_bring_up_run_probe`: wait until the IDE port accepts a connection, then check
the health of the workspace; on a host that attaches itself, wait for the
health page behind the published port instead.

The wait is bounded by the clock (`tcp_wait_ends`). A job that brings its
workspace up succeeds only on a healthy probe (`running_means_ready`).
-/

namespace Devnest

open PyText Logged Logged.Program

/-! ## The wait -/

structure ProbeWaits where
  /-- `none` stands for a number that is not finite. -/
  devnestWorkspaceBringupIdeTcpWaitSeconds : Option ℚ := some 90
  devnestWorkspaceBringupIdeTcpPollIntervalSeconds : Option ℚ := some (3 / 2)

namespace ProbeWaits

def waitTotal (s : ProbeWaits) : ℚ :=
  max 1 (min 600 (s.devnestWorkspaceBringupIdeTcpWaitSeconds.getD 90))

def pollInterval (s : ProbeWaits) : ℚ :=
  max (1 / 20) (min 30 (s.devnestWorkspaceBringupIdeTcpPollIntervalSeconds.getD (3 / 2)))

/-- The timeout of the last check. -/
def finalTimeout (s : ProbeWaits) (reached : Bool) : ℚ :=
  if reached then min 45 (max 8 (s.waitTotal / 6)) else 5

/-- Turns of the loop that are enough for any wait. -/
def turns (s : ProbeWaits) : Nat := ⌈s.waitTotal / s.pollInterval⌉.toNat + 1

theorem pollInterval_pos (s : ProbeWaits) : 0 < s.pollInterval :=
  lt_max_of_lt_left (by norm_num)

theorem waitTotal_pos (s : ProbeWaits) : 0 < s.waitTotal := lt_max_of_lt_left (by norm_num)

end ProbeWaits

/-- What the earlier steps of the bring-up found. -/
structure ProbedRuntime where
  workspaceId : Nat
  topologyId : Int
  nodeId : String
  containerId : String
  /-- Host ports and container ports. -/
  resolvedPorts : List (Int × Int) := []
  workspaceIp : Option String := none
  internalEndpoint : Option String := none
  traefikRoutingHost : Option String := none

/-- `compose_traefik_upstream_target`. -/
def composeTraefikUpstreamTarget (traefikRoutingHost : Option String)
    (resolvedPorts : List (Int × Int)) (topologyInternalEndpoint : Option String) :
    Option String :=
  let host := stripOr traefikRoutingHost
  match resolvedPorts.find? fun p => p.2 = workspaceIdeContainerPort && 0 < p.1 with
  | some (hostPort, _) =>
      if host = "" then stripOrNone topologyInternalEndpoint
      else some ("http://" ++ host ++ ":" ++ toString hostPort)
  | none => stripOrNone topologyInternalEndpoint

section BringUp

variable (w : ProbeWorld) (cfg : ProbeRunner) (waits : ProbeWaits)

/-- `time.monotonic()`. -/
def readMonotonic : Probe ℚ :=
  ask fun log => (.ok (w.monotonic log), .monotonic (w.monotonic log))

/-- `time.sleep(seconds)`. -/
def pause (seconds : ℚ) : Probe Unit := ask fun _ => (.ok (), .sleep seconds)

/-- The loop of both probe steps, with the last result. -/
def waitUntilHealthy (attempt : ℚ → Probe ServiceProbeResult) (deadline poll : ℚ) :
    Nat → Option ServiceProbeResult → Probe (Option ServiceProbeResult)
  | 0, _ => raise .unfinished
  | turns + 1, last => do
      let now ← readMonotonic w
      if deadline ≤ now then pure last
      else do
        let later ← readMonotonic w
        let result ← attempt (min 5 (max (1 / 2) (deadline - later)))
        if result.healthy then pure (some result)
        else do
          pause poll
          waitUntilHealthy attempt deadline poll turns (some result)

/-- The wait from now on. -/
def waitForService (attempt : ℚ → Probe ServiceProbeResult) :
    Probe (Option ServiceProbeResult) := do
  let start ← readMonotonic w
  waitUntilHealthy w attempt (start + waits.waitTotal) waits.pollInterval waits.turns none

/-- Whether the port accepted a connection in time. -/
def waitForTcp (ip : String) : Probe Bool :=
  if ip = "" then pure false
  else do
    let last ← waitForService w waits fun timeoutSeconds =>
      checkServiceReachable w cfg ip workspaceIdeContainerPort timeoutSeconds
    pure (last.any (·.healthy))

/-- A health check as a step of the orchestrator reports it. -/
def healthProbeOf (rt : ProbedRuntime) (endpoint : Option String) (health : WorkspaceHealthResult) :
    HealthProbe where
  healthy := health.healthy
  containerState := health.containerState
  internalEndpoint := endpoint
  gatewayRouteTarget :=
    composeTraefikUpstreamTarget rt.traefikRoutingHost rt.resolvedPorts endpoint
  issues := health.issues.map HealthIssue.line

def checkRuntimeHealth (rt : ProbedRuntime) (timeoutSeconds : ℚ) : Probe WorkspaceHealthResult :=
  checkWorkspaceHealth w cfg (toString rt.workspaceId) (toString rt.topologyId) rt.nodeId
    rt.containerId workspaceIdeContainerPort timeoutSeconds

/-- `_bring_up_run_probe` for a container attached from here. -/
def localHealthProbe (rt : ProbedRuntime) : Probe HealthProbe := do
  let reached ← waitForTcp w cfg waits (stripOr rt.workspaceIp)
  let health ← checkRuntimeHealth w cfg rt (waits.finalTimeout reached)
  pure (healthProbeOf rt ((health.internalEndpoint.filter (· ≠ "")).or rt.internalEndpoint) health)

/-- The published port of the IDE. -/
def ProbedRuntime.hostPort (rt : ProbedRuntime) : Option Int :=
  (rt.resolvedPorts.find? fun p => p.2 = workspaceIdeContainerPort).map (·.1)

/-- The service part of `_bring_up_run_remote_host_port_probe`. -/
def checkHostPort : Option Int → Probe (Bool × List String)
  | none => pure (false, ["service:published_port_missing:no published host port for IDE " ++
    "container port " ++ toString workspaceIdeContainerPort])
  | some hostPort => do
      let last ← waitForService w waits fun timeoutSeconds =>
        checkServiceHttp w cfg "127.0.0.1" hostPort timeoutSeconds
      pure (last.any (·.healthy), if last.any (·.healthy) then [] else
        last.elim [] fun result => result.issues.map HealthIssue.line)

/-- `_bring_up_run_remote_host_port_probe`. -/
def remoteHealthProbe (rt : ProbedRuntime) : Probe HealthProbe := do
  let ctr ← checkContainerRunning w rt.containerId
  let service ← checkHostPort w cfg waits rt.hostPort
  let endpoint := rt.hostPort.map fun port => "127.0.0.1:" ++ toString port
  pure { healthy := ctr.healthy && service.1
         internalEndpoint := endpoint
         gatewayRouteTarget :=
          composeTraefikUpstreamTarget rt.traefikRoutingHost rt.resolvedPorts endpoint
         issues := ctr.issues.map HealthIssue.line ++ service.2 }

/-- `_bring_up_run_probe`. -/
def bringUpRunProbe (remoteTopologyAttachDeferred : Bool) (rt : ProbedRuntime) :
    Probe HealthProbe :=
  if remoteTopologyAttachDeferred then remoteHealthProbe w cfg waits rt
  else localHealthProbe w cfg waits rt

/-- The check of `_update_workspace_runtime_noop`. -/
def updateNoopProbe (rt : ProbedRuntime) : Probe HealthProbe := do
  let health ← checkRuntimeHealth w cfg rt 5
  pure (healthProbeOf rt health.internalEndpoint health)

/-- The steps of the orchestrator that decide on a probe. -/
inductive ProbeStep where
  | bringUp (remoteTopologyAttachDeferred : Bool)
  | updateNoop

def ProbeStep.run (rt : ProbedRuntime) : ProbeStep → Probe HealthProbe
  | .bringUp deferred => bringUpRunProbe w cfg waits deferred rt
  | .updateNoop => updateNoopProbe w cfg rt

end BringUp

/-! ## The wait ends -/

/-- The clock does not run backwards, and a sleep lasts as long as it was asked to. -/
structure ProbeWorld.KeepsTime (w : ProbeWorld) : Prop where
  monotone : ∀ call log, w.monotonic log ≤ w.monotonic (call :: log)
  sleeps : ∀ seconds log, w.monotonic log + seconds ≤ w.monotonic (.sleep seconds :: log)

/-- Nothing takes longer than its own limit, up to `slack`. -/
structure ProbeWorld.Punctual (w : ProbeWorld) (slack : ℚ) : Prop where
  reads : ∀ now log, w.monotonic (.monotonic now :: log) ≤ w.monotonic log + slack
  sleeps : ∀ seconds log, 0 ≤ seconds →
    w.monotonic (.sleep seconds :: log) ≤ w.monotonic log + seconds + slack
  connects : ∀ ip port timeout answer log, 0 ≤ timeout →
    w.monotonic (.connect ip port timeout answer :: log) ≤ w.monotonic log + timeout + slack
  /-- `timeout` ends the command it is given. -/
  commands : ∀ (seconds : Int) argv answer log, (0 : ℚ) ≤ seconds →
    w.monotonic (.command ("timeout" :: toString seconds :: argv) answer :: log) ≤
      w.monotonic log + seconds + slack

section Waits

variable {w : ProbeWorld} (cfg : ProbeRunner)

theorem ProbeWorld.KeepsTime.append (h : w.KeepsTime) (calls log : List ProbeCall) :
    w.monotonic log ≤ w.monotonic (calls ++ log) := by
  induction calls with
  | nil => exact le_refl _
  | cons call calls ih => exact ih.trans (h.monotone call _)

theorem le_hostSeconds {t : ℚ} (ht : t ≤ 5) : t ≤ hostSeconds t := by
  have hceil : ⌈t⌉ ≤ 5 := Int.ceil_le.mpr (by exact_mod_cast ht)
  have hmin : min 60 ⌈t⌉ = ⌈t⌉ := min_eq_right (by omega)
  unfold hostSeconds
  rw [hmin]
  exact (Int.le_ceil t).trans (by exact_mod_cast le_max_right _ _)

theorem one_le_hostSeconds (t : ℚ) : 1 ≤ hostSeconds t := le_max_left _ _

/-- A turn is given at most a second more than is left. -/
theorem hostSeconds_turn (rest : ℚ) :
    (hostSeconds (min 5 (max (1 / 2) rest)) : ℚ) ≤ max 0 rest + 1 := by
  have hceil : (⌈(min 5 (max (1 / 2) rest) : ℚ)⌉ : ℚ) ≤ max 0 rest + 1 := by
    rcases le_total rest (1 / 2) with hle | hle
    · have htime : (min 5 (max (1 / 2) rest) : ℚ) = 1 / 2 := by
        rw [max_eq_left hle]
        norm_num
      rw [htime]
      have hone : ⌈(1 / 2 : ℚ)⌉ = 1 := by norm_num
      rw [hone]
      push_cast
      linarith [le_max_left 0 rest]
    · rw [max_eq_right hle]
      have hlt := Int.ceil_lt_add_one (min 5 rest)
      linarith [min_le_right 5 rest, le_max_right 0 rest]
  unfold hostSeconds
  have hmin : ((min 60 ⌈(min 5 (max (1 / 2) rest) : ℚ)⌉ : Int) : ℚ) ≤ max 0 rest + 1 :=
    le_trans (by exact_mod_cast min_le_right _ _) hceil
  push_cast at hmin ⊢
  exact max_le (by linarith [le_max_left 0 rest]) hmin

/-- The calls of one dial: one at most. -/
inductive Dials (ip : String) (port : Int) (t : ℚ) : List ProbeCall → Prop where
  | none : Dials ip port t []
  | connect (answer : DialAnswer) : Dials ip port t [.connect (strip ip) port t answer]
  | command (answer : RunAnswer) : Dials ip port t [.command (ncArgv (strip ip) port t) answer]

theorem checkServiceReachable_dials (w : ProbeWorld) (ip : String) (port : Int) (t : ℚ)
    (old : List ProbeCall) :
    Spec (· = old) (checkServiceReachable w cfg ip port t)
      (Since old fun _ => Dials ip port t)
      fun log => CutShort log ∧ ∃ calls, log = calls ++ old ∧ Dials ip port t calls := by
  have hquiet : ∀ result : ServiceProbeResult, Spec (· = old) (Pure.pure result : Probe _)
      (Since old fun _ => Dials ip port t)
      fun log => CutShort log ∧ ∃ calls, log = calls ++ old ∧ Dials ip port t calls :=
    fun result => Spec.pure fun log hlog => ⟨[], hlog, .none⟩
  unfold checkServiceReachable
  dsimp only
  refine Spec.ite (fun _ => hquiet _) fun _ => Spec.ite (fun _ => hquiet _) fun _ => ?_
  refine Spec.ite (fun _ => hquiet _) fun _ => ?_
  refine Spec.ite (fun _ => ?_) fun _ => Spec.ite (fun _ => hquiet _) fun _ => ?_
  · unfold checkServiceReachableViaRunner
    rw [strip_strip]
    refine Spec.ite (fun _ => hquiet _) fun _ => call_spec fun answer => ?_
    cases answer with
    | raised e => exact .inr ⟨⟨⟨_, old, rfl, rfl⟩, [_], rfl, .command _⟩, _, rfl⟩
    | done | runtimeError e => exact .inl (Spec.pure fun log hlog => ⟨[_], hlog, .command _⟩)
  · refine call_spec fun answer => ?_
    cases answer with
    | raised e => exact .inr ⟨⟨⟨_, old, rfl, rfl⟩, [_], rfl, .connect _⟩, _, rfl⟩
    | connected | timedOut | refused | gaiError e | osError errno e =>
        exact .inl (Spec.pure fun log hlog => ⟨[_], hlog, .connect _⟩)

theorem Dials.takes {slack : ℚ} (hslack : 0 ≤ slack) (hw : w.Punctual slack) {ip : String}
    {port : Int} {t : ℚ} (hpos : 0 ≤ t) (ht : t ≤ 5) {calls : List ProbeCall}
    (h : Dials ip port t calls) (old : List ProbeCall) :
    w.monotonic (calls ++ old) ≤ w.monotonic old + hostSeconds t + slack := by
  have hone : (1 : ℚ) ≤ hostSeconds t := by exact_mod_cast one_le_hostSeconds t
  cases h with
  | none =>
      change w.monotonic old ≤ _
      linarith
  | connect answer =>
      have hdial := hw.connects (strip ip) port t answer old hpos
      change w.monotonic (_ :: old) ≤ _
      linarith [le_hostSeconds ht]
  | command answer => exact hw.commands (hostSeconds t) _ answer old (by linarith)

/-- One dial, and how long it takes, also where it raises. -/
theorem checkServiceReachable_takes {slack : ℚ} (hslack : 0 ≤ slack) (hw : w.Punctual slack)
    (ip : String) (port : Int) {t : ℚ} (hpos : 0 ≤ t) (ht : t ≤ 5) (old : List ProbeCall) :
    Spec (· = old) (checkServiceReachable w cfg ip port t)
      (fun _ log => (∃ calls, log = calls ++ old) ∧
        w.monotonic log ≤ w.monotonic old + hostSeconds t + slack)
      fun log => CutShort log ∧ w.monotonic log ≤ w.monotonic old + hostSeconds t + slack := by
  refine (checkServiceReachable_dials cfg w ip port t old).conseq (fun _ h => h) ?_ ?_
  · rintro - log ⟨calls, rfl, hcalls⟩
    exact ⟨⟨calls, rfl⟩, hcalls.takes hslack hw hpos ht old⟩
  · rintro log ⟨hcut, calls, rfl, hcalls⟩
    exact ⟨hcut, hcalls.takes hslack hw hpos ht old⟩

theorem readMonotonic_spec (old : List ProbeCall) (R : List ProbeCall → Prop) :
    Spec (· = old) (readMonotonic w)
      (fun now log => now = w.monotonic old ∧ log = .monotonic (w.monotonic old) :: old) R := by
  refine Spec.ask ?_ ?_
  · rintro log a e rfl heq
    obtain ⟨ha, rfl⟩ := Prod.mk.inj heq
    exact ⟨(Except.ok.inj ha).symm, rfl⟩
  · rintro log x e rfl heq
    cases (Prod.mk.inj heq).1

theorem pause_spec (seconds : ℚ) (old : List ProbeCall) (R : List ProbeCall → Prop) :
    Spec (· = old) (pause seconds) (fun _ log => log = .sleep seconds :: old) R := by
  refine Spec.ask ?_ ?_
  · rintro log a e rfl heq
    exact congrArg (· :: log) (Prod.mk.inj heq).2.symm
  · rintro log x e rfl heq
    cases (Prod.mk.inj heq).1

/-- The loop, from a state with enough turns for the time that is left. -/
theorem waitUntilHealthy_ends {slack deadline poll : ℚ} (hk : w.KeepsTime) (hw : w.Punctual slack)
    (hslack : 0 ≤ slack) (hpoll : 0 < poll) {attempt : ℚ → Probe ServiceProbeResult}
    (hattempt : ∀ t, 0 ≤ t → t ≤ 5 → ∀ old, Spec (· = old) (attempt t)
      (fun _ log => (∃ calls, log = calls ++ old) ∧
        w.monotonic log ≤ w.monotonic old + hostSeconds t + slack)
      fun log => CutShort log ∧ w.monotonic log ≤ w.monotonic old + hostSeconds t + slack)
    (turns : Nat) : ∀ (old : List ProbeCall) (last : Option ServiceProbeResult),
      deadline ≤ w.monotonic old + turns * poll →
      w.monotonic old ≤ deadline + poll + 1 + 4 * slack →
      Spec (· = old) (waitUntilHealthy w attempt deadline poll (turns + 1) last)
        (fun _ log => w.monotonic log ≤ deadline + poll + 1 + 5 * slack)
        fun log => CutShort log ∧ w.monotonic log ≤ deadline + poll + 1 + 5 * slack := by
  induction turns with
  | zero =>
      intro old last hstart hlate
      refine Spec.bind (readMonotonic_spec old _) fun now => Spec.pointwise ?_
      rintro - ⟨rfl, rfl⟩
      rw [if_pos (by simpa using hstart)]
      refine Spec.pure ?_
      rintro - rfl
      linarith [hw.reads (w.monotonic old) old]
  | succ turns ih =>
      intro old last hstart hlate
      refine Spec.bind (readMonotonic_spec old _) fun now => Spec.pointwise ?_
      rintro - ⟨rfl, rfl⟩
      have hread := hw.reads (w.monotonic old) old
      refine Spec.ite (fun _ => Spec.pure ?_) fun hearly => ?_
      · rintro - rfl
        linarith
      refine Spec.bind (readMonotonic_spec _ _) fun later => Spec.pointwise ?_
      rintro - ⟨rfl, rfl⟩
      generalize hlater : w.monotonic (.monotonic (w.monotonic old) :: old) = later at hread
      have hread' := hw.reads later (.monotonic (w.monotonic old) :: old)
      have hfits : (min 5 (max (1 / 2) (deadline - later)) : ℚ) ≤ 5 := min_le_left _ _
      have hpos : (0 : ℚ) ≤ min 5 (max (1 / 2) (deadline - later)) :=
        le_min (by norm_num) (le_max_of_le_left (by norm_num))
      -- a try that starts in time is over a second after the deadline
      have hover : w.monotonic (.monotonic later :: .monotonic (w.monotonic old) :: old) +
          hostSeconds (min 5 (max (1 / 2) (deadline - later))) + slack ≤
          deadline + 1 + 3 * slack := by
        have hturn := hostSeconds_turn (deadline - later)
        rw [hlater] at hread'
        rcases max_choice 0 (deadline - later) with hmax | hmax <;> rw [hmax] at hturn <;>
          linarith
      refine Spec.bind ((hattempt _ hpos hfits _).conseq (fun _ h => h) (fun _ _ h => h) ?_)
        fun result => Spec.pointwise ?_
      · rintro log ⟨hcut, htook⟩
        exact ⟨hcut, by linarith⟩
      rintro log ⟨⟨calls, rfl⟩, htook⟩
      have hafter := hk.append calls (.monotonic later :: .monotonic (w.monotonic old) :: old)
      have hbefore : w.monotonic old ≤
          w.monotonic (.monotonic later :: .monotonic (w.monotonic old) :: old) :=
        (hk.monotone _ _).trans (hk.monotone _ _)
      refine Spec.ite (fun _ => Spec.pure ?_) fun _ => ?_
      · rintro - rfl
        linarith
      refine Spec.bind (pause_spec poll _ _) fun _ => Spec.pointwise ?_
      rintro - rfl
      have hslept := hk.sleeps poll
        (calls ++ .monotonic later :: .monotonic (w.monotonic old) :: old)
      have hslept' := hw.sleeps poll
        (calls ++ .monotonic later :: .monotonic (w.monotonic old) :: old) hpoll.le
      refine ih _ _ ?_ ?_
      · push_cast at hstart
        linarith
      · linarith

/-- **The wait for the port ends.** On a host whose clock runs forward and whose calls keep their
own limits up to `slack`, the wait is over, with an answer or by an exception of a dial, at most
one interval and a second (and five times the slack) after the configured time. -/
theorem tcp_wait_ends (waits : ProbeWaits) {slack : ℚ} (hk : w.KeepsTime) (hw : w.Punctual slack)
    (hslack : 0 ≤ slack) (ip : String) (old : List ProbeCall) :
    Spec (· = old) (waitForTcp w cfg waits ip)
      (fun _ log => w.monotonic log ≤
        w.monotonic old + waits.waitTotal + waits.pollInterval + 1 + 5 * slack)
      fun log => CutShort log ∧ w.monotonic log ≤
        w.monotonic old + waits.waitTotal + waits.pollInterval + 1 + 5 * slack := by
  have hpoll := waits.pollInterval_pos
  have hwait := waits.waitTotal_pos
  refine Spec.ite (fun _ => Spec.pure ?_) fun _ => ?_
  · rintro - rfl
    linarith
  refine Spec.bind (S := fun _ log => w.monotonic log ≤
    w.monotonic old + waits.waitTotal + waits.pollInterval + 1 + 5 * slack) ?_
    fun last => Spec.pure fun _ h => h
  refine Spec.bind (readMonotonic_spec old _) fun start => Spec.pointwise ?_
  rintro - ⟨rfl, rfl⟩
  have hforward := hk.monotone (.monotonic (w.monotonic old)) old
  refine waitUntilHealthy_ends hk hw hslack hpoll
    (fun t hpos ht old => checkServiceReachable_takes cfg hslack hw ip _ hpos ht old) _ _ _ ?_ ?_
  · have hceil : waits.waitTotal / waits.pollInterval ≤
        (⌈waits.waitTotal / waits.pollInterval⌉.toNat : ℚ) := by
      have hle := Int.le_ceil (waits.waitTotal / waits.pollInterval)
      exact hle.trans (by exact_mod_cast Int.self_le_toNat ⌈waits.waitTotal / waits.pollInterval⌉)
    rw [div_le_iff₀ hpoll] at hceil
    linarith
  · linarith [hw.reads (w.monotonic old) old]

end Waits

/-- How long a run of a probe has slept. -/
def slept : List ProbeCall → ℚ
  | [] => 0
  | .sleep seconds :: log => slept log + max 0 seconds
  | _ :: log => slept log

/-- A host where nothing listens and only sleeping takes time. -/
def nothingListens : ProbeWorld where
  inspectContainer _ _ := .error "no such container"
  checkTopology _ _ _ := .error "no such topology"
  checkAttachment _ _ _ _ := .error (.other "no such attachment")
  createConnection _ _ _ _ := .refused
  runCommand _ _ := .runtimeError "command failed (exit=1): nc"
  urlopen _ _ _ := .failed "refused"
  formatDiagnostics _ _ _ _ := .ok none
  monotonic := slept

theorem nothingListens_keepsTime : nothingListens.KeepsTime where
  monotone call log := by
    cases call with
    | sleep seconds => exact le_add_of_nonneg_right (le_max_left 0 seconds)
    | _ => exact le_refl (slept log)
  sleeps seconds log := by
    change slept log + seconds ≤ slept log + max 0 seconds
    linarith [le_max_right 0 seconds]

theorem nothingListens_punctual : nothingListens.Punctual 0 where
  reads _ _ := by simp [nothingListens, slept]
  sleeps seconds log hpos := by simp [nothingListens, slept, max_eq_right hpos]
  connects _ _ _ _ _ hpos := by simpa [nothingListens, slept] using hpos
  commands _ _ _ _ hpos := by simpa [nothingListens, slept] using hpos

/-- The default wait is over after 92.5 seconds. -/
theorem refused_wait_ends :
    Spec (· = []) (waitForTcp nothingListens {} {} "10.0.0.2")
      (fun _ log => slept log ≤
        0 + ProbeWaits.waitTotal {} + ProbeWaits.pollInterval {} + 1 + 5 * 0)
      fun log => CutShort log ∧ slept log ≤
        0 + ProbeWaits.waitTotal {} + ProbeWaits.pollInterval {} + 1 + 5 * 0 :=
  tcp_wait_ends {} {} nothingListens_keepsTime nothingListens_punctual (le_refl 0) "10.0.0.2" []

/-! ## What a healthy probe has seen -/

section Seen

variable (w : ProbeWorld) (cfg : ProbeRunner) (waits : ProbeWaits)

/-- A wait that ends healthy ends on a healthy try. -/
theorem waitUntilHealthy_seen {attempt : ℚ → Probe ServiceProbeResult}
    {F : List ProbeCall → Prop} (hF : ∀ {calls calls'}, calls ⊆ calls' → F calls → F calls')
    (hattempt : ∀ t, Sees (attempt t) fun r calls => r.healthy = true → F calls)
    (deadline poll : ℚ) (turns : Nat) (last : Option ServiceProbeResult)
    (hlast : last.any (·.healthy) = false) :
    Sees (waitUntilHealthy w attempt deadline poll turns last)
      (fun last' calls => last'.any (·.healthy) = true → F calls) fun _ => True := by
  induction turns generalizing last with
  | zero => exact fun old => Spec.raise fun _ _ => trivial
  | succ turns ih =>
      refine Sees.bind (Sees.asked _ _) fun now calls _ => ?_
      refine Sees.ite (fun _ => Sees.pure fun h => ?_) fun _ => ?_
      · rw [hlast] at h
        cases h
      refine Sees.bind (Sees.asked _ _) fun later calls₁ _ => ?_
      refine Sees.bind ((hattempt _).conseq (fun _ _ h => h) fun _ _ => trivial)
        fun result calls₂ hresult => ?_
      refine Sees.ite (fun hup => Sees.pure fun _ => ?_) fun hdown => ?_
      · exact hF (by simp) (hresult hup)
      refine Sees.bind (Sees.asked _ _) fun _ calls₃ _ => ?_
      refine (ih (some result) (by simpa using hdown)).mono fun last' calls₄ h hup => ?_
      exact hF (by simp) (h hup)

theorem waitForService_seen {attempt : ℚ → Probe ServiceProbeResult} {F : List ProbeCall → Prop}
    (hF : ∀ {calls calls'}, calls ⊆ calls' → F calls → F calls')
    (hattempt : ∀ t, Sees (attempt t) fun r calls => r.healthy = true → F calls) :
    Sees (waitForService w waits attempt)
      (fun last calls => last.any (·.healthy) = true → F calls) fun _ => True := by
  refine Sees.bind (Sees.asked _ _) fun start calls _ => ?_
  refine (waitUntilHealthy_seen w hF hattempt _ _ _ none rfl).mono fun last calls' h hup => ?_
  exact hF (by simp) (h hup)

theorem waitForTcp_seen (ip : String) :
    Sees (waitForTcp w cfg waits ip) (fun _ _ => True) fun _ => True := by
  refine Sees.ite (fun _ => Sees.pure trivial) fun _ => ?_
  refine Sees.bind (waitForService_seen w waits (F := fun _ => True) (fun _ h => h)
    fun t => ?_) fun _ _ _ => Sees.pure trivial
  exact (checkServiceReachable_spec w cfg ip workspaceIdeContainerPort t).mono
    fun _ _ _ _ => trivial

/-- What a container that is up was seen to be: by a health check, or, where the host attaches
itself, running with its health page behind the published port. -/
def SeenUp (rt : ProbedRuntime) (step : ProbeStep) (calls : List ProbeCall) : Prop :=
  match step with
  | .bringUp true => (∃ state, SeenRunning rt.containerId state calls) ∧
      ∃ port timeoutSeconds, rt.hostPort = some port ∧
        SeenReady cfg "127.0.0.1" port timeoutSeconds calls
  | .bringUp false | .updateNoop => ∃ timeoutSeconds state ip,
      SeenHealthy cfg (toString rt.workspaceId) (toString rt.topologyId) rt.nodeId rt.containerId
        workspaceIdeContainerPort timeoutSeconds state ip calls

theorem checkRuntimeHealth_seen (rt : ProbedRuntime) (timeoutSeconds : ℚ) :
    Sees (checkRuntimeHealth w cfg rt timeoutSeconds) (fun r calls => r.healthy = true →
      ∃ state ip, SeenHealthy cfg (toString rt.workspaceId) (toString rt.topologyId) rt.nodeId
        rt.containerId workspaceIdeContainerPort timeoutSeconds state ip calls) fun _ => True :=
  (checkWorkspaceHealth_spec w cfg _ _ _ _ _ timeoutSeconds).conseq (fun r calls h hup => by
    obtain ⟨ip, -, -, hseen⟩ := h.2 hup
    exact ⟨r.containerState, ip, hseen⟩) fun _ _ => trivial

theorem checkHostPort_seen (hostPort : Option Int) :
    Sees (checkHostPort w cfg waits hostPort) (fun r calls => r.1 = true →
      ∃ port, hostPort = some port ∧ ∃ t, SeenReady cfg "127.0.0.1" port t calls)
      fun _ => True := by
  cases hostPort with
  | none => exact Sees.pure fun h => by cases h
  | some port =>
      refine Sees.bind (waitForService_seen w waits
        (F := fun calls => ∃ t, SeenReady cfg "127.0.0.1" port t calls)
        (fun hsub h => h.imp fun t ht => ht.mono hsub) fun t => ?_) fun last calls h => ?_
      · exact (checkServiceHttp_spec w cfg "127.0.0.1" port t).mono
          fun r calls h hup => ⟨t, h.2 hup⟩
      · exact Sees.pure fun hup => ⟨port, rfl, h hup⟩

/-- A healthy step has seen the container up. -/
theorem ProbeStep.run_seen (rt : ProbedRuntime) (step : ProbeStep) :
    Sees (step.run w cfg waits rt) (fun h calls => h.healthy = true → SeenUp cfg rt step calls)
      fun _ => True := by
  cases step with
  | updateNoop =>
      refine Sees.bind (checkRuntimeHealth_seen w cfg rt 5) fun health calls h => ?_
      exact Sees.pure fun hup => ⟨5, h hup⟩
  | bringUp deferred =>
      cases deferred with
      | false =>
          refine Sees.bind (waitForTcp_seen w cfg waits _) fun reached calls _ => ?_
          refine Sees.bind (checkRuntimeHealth_seen w cfg rt _) fun health calls' h => ?_
          refine Sees.pure fun hup => ?_
          obtain ⟨state, ip, hseen⟩ := h hup
          exact ⟨_, state, ip, hseen.mono (by simp)⟩
      | true =>
          refine Sees.bind ((checkContainerRunning_spec w rt.containerId).conseq
            (fun _ _ h => h) fun _ _ => trivial) fun ctr calls hctr => ?_
          refine Sees.bind (checkHostPort_seen w cfg waits rt.hostPort) fun service calls' h => ?_
          refine Sees.pure fun hup => ?_
          obtain ⟨hrunning, hservice⟩ := (Bool.and_eq_true _ _).mp hup
          obtain ⟨port, hport, t, hready⟩ := h hservice
          exact ⟨⟨ctr.containerState, (hctr.2 hrunning).mono (by simp)⟩, port, t, hport,
            hready.mono (by simp)⟩

end Seen

/-! ## A job that brings its workspace up -/

/-- The answer of the probe that decides on a job. -/
def decidingProbe (env : OrchestratorEnv) (e : DockerEngine) (ans : JobAnswers) (s : Session) :
    Except String HealthProbe :=
  match s.job.jobType with
  | .create | .start => ans.bringUp.probe
  | .restart => ans.restart.bringUp.probe
  | .update =>
      if updateRestarts env e ans.update s.wid (s.rt.bind (·.containerId))
        s.job.requestedConfigVersion then ans.update.restart.bringUp.probe else ans.update.probe
  | _ => .error ""

/-- The answer of a probe that was healthy. -/
def WasHealthy (answer : Except String HealthProbe) : Prop :=
  ∃ h, answer = .ok h ∧ h.healthy = true

theorem bringUpOnEngine_probed {env : OrchestratorEnv} {e e' : DockerEngine}
    {req : BringUpRequest} {ans : BringUpAnswers} {r : WorkspaceBringUpResult}
    (h : bringUpOnEngine env e req ans = (e', .returned r)) (hs : r.success = true) :
    WasHealthy ans.probe := by
  unfold bringUpOnEngine at h
  split at h
  · cases h
  · cases h
  · cases h
  split at h
  · cases h
  rename_i e₁ cid state _
  cases hprobe : bringUpAttachAndProbe env ans cid state with
  | error f =>
      rw [hprobe] at h
      cases h
  | ok up =>
      rw [hprobe] at h
      dsimp only at h
      split at h
      · obtain ⟨rfl, hr⟩ := Prod.mk.inj h
        injection hr with hr
        subst hr
        unfold bringUpAttachAndProbe at hprobe
        split at hprobe
        · cases hprobe
        · cases hprobe
        · rename_i health _ hhealth
          obtain rfl := Except.ok.inj hprobe
          exact ⟨health, hhealth, hs⟩
      · obtain ⟨-, hr⟩ := Prod.mk.inj h
        injection hr with hr
        subst hr
        cases hs

theorem restart_probed {env : OrchestratorEnv} {e e' : DockerEngine} {ans : RestartAnswers}
    {wid : Nat} {containerId : Option String} {v : Option Int}
    {stop : Outcome String WorkspaceStopResult}
    {up : Outcome WorkspaceBringUpError WorkspaceBringUpResult} {r : WorkspaceRestartResult}
    (h : restartCalls env e ans wid containerId v = (e', stop, up))
    (hr : restartWorkspaceRuntime env.nodeId env.topologyId stop up = .returned r)
    (hs : r.success = true) : WasHealthy ans.bringUp.probe := by
  obtain ⟨e₁, res, -, hup, hres, -⟩ := restart_success h hr hs
  exact bringUpOnEngine_probed hup hres

theorem updateNoop_probed {nid containerRef : String} {tid requested current : Int}
    {ins : ContainerInspection} {probe : Except String HealthProbe} {r : WorkspaceUpdateResult}
    (h : updateWorkspaceRuntimeNoop nid tid ins containerRef requested current probe =
      .returned r) (hs : r.success = true) : WasHealthy probe := by
  unfold updateWorkspaceRuntimeNoop at h
  dsimp only at h
  split at h
  · injection h with h
    subst h
    cases hs
  split at h
  · injection h with h
    subst h
    cases hs
  split at h
  · injection h with h
    subst h
    cases hs
  cases probe with
  | error m => cases h
  | ok health =>
      injection h with h
      subst h
      exact ⟨health, rfl, hs⟩

theorem updateOnEngine_probed {env : OrchestratorEnv} {e e' : DockerEngine} {ans : UpdateAnswers}
    {wid : Nat} {containerId : Option String} {v : Int} {r : WorkspaceUpdateResult}
    (h : updateOnEngine env e ans wid containerId v = (e', .returned r)) (hs : r.success = true) :
    WasHealthy (if updateRestarts env e ans wid containerId v then ans.restart.bringUp.probe
      else ans.probe) := by
  split
  next hgo =>
    obtain ⟨-, stop, up, res, hcalls, hr, hs', -⟩ :=
      update_success h hs (noOp_of_updateRestarts h hgo)
    exact restart_probed hcalls hr hs'
  next hstay =>
    unfold updateOnEngine at h
    generalize restartCalls env e ans.restart wid containerId (some v) = calls at h
    obtain ⟨e₁, stop, up⟩ := calls
    dsimp only at h
    obtain ⟨-, hr⟩ := Prod.mk.inj h
    unfold updateWorkspaceRuntime at hr
    split at hr
    · cases hr
    rename_i hneg
    split at hr
    · injection hr with hr
      subst hr
      cases hs
    rename_i hstrict
    cases hins : ans.inspectError with
    | some m =>
        rw [hins] at hr
        cases hr
    | none =>
        rw [hins] at hr
        dsimp only at hr
        split at hr
        next hsame => exact updateNoop_probed hr hs
        next hother =>
          refine absurd ?_ hstay
          simp only [updateRestarts, Bool.and_eq_true, decide_eq_true_eq, Bool.not_eq_true',
            Option.isNone_iff_eq_none]
          exact ⟨⟨⟨by omega, by simpa using hstrict⟩, hins⟩, by simpa using hother⟩

/-- What the orchestrator reports as up had a healthy probe. -/
theorem SaysUp.probed {env : OrchestratorEnv} {e e' : DockerEngine} {ans : JobAnswers}
    {s : Session} {inp : WorkerInput} {f : RuntimeFacts} (hup : SaysUp inp s.job.jobType f)
    (h : orchestratorCalls env e ans s = (e', inp.orch)) :
    WasHealthy (decidingProbe env e ans s) := by
  have hbring : s.job.jobType = .create ∨ s.job.jobType = .start →
      ∀ {res : WorkspaceBringUpResult}, inp.orch.bringUpWorkspaceRuntime = .returned res →
      res.success = true → WasHealthy ans.bringUp.probe := by
    intro hty res hres hs
    unfold orchestratorCalls at h
    rcases hjob : jobBringUp ans s with - | ⟨req, up⟩
    · have horch : inp.orch = {} := by
        rcases hty with hty | hty <;> simp only [hty, hjob] at h <;>
          exact (Prod.mk.inj h).2.symm
      rw [horch] at hres
      cases hres
    · have hans : up = ans.bringUp := by
        unfold jobBringUp at hjob
        rcases hty with hty | hty <;> simp only [hty] at hjob <;> split at hjob <;> cases hjob <;>
          rfl
      subst hans
      have hout : (bringUpOnEngine env e req ans.bringUp).2 = .returned res := by
        rcases hty with hty | hty <;> simp only [hty, hjob] at h <;>
          rw [← (Prod.mk.inj h).2] at hres <;> exact hres
      exact bringUpOnEngine_probed (Prod.ext rfl hout) hs
  unfold decidingProbe
  cases hty : s.job.jobType with
  | create =>
      rw [hty] at hup
      cases hup with
      | create hres hs => exact hbring (.inl hty) hres hs
  | start =>
      rw [hty] at hup
      cases hup with
      | start hres hs => exact hbring (.inr hty) hres hs
  | restart =>
      rw [hty] at hup
      cases hup with
      | restart hres hs =>
          unfold orchestratorCalls at h
          simp only [hty] at h
          generalize hb : restartOnEngine env e ans.restart s.wid (s.rt.bind (·.containerId))
            (some s.job.requestedConfigVersion) = out at h
          obtain ⟨e₁, out⟩ := out
          obtain ⟨rfl, horch⟩ := Prod.mk.inj h
          rw [← horch] at hres
          dsimp only at hres
          subst hres
          unfold restartOnEngine at hb
          generalize hcalls : restartCalls env e ans.restart s.wid (s.rt.bind (·.containerId))
            (some s.job.requestedConfigVersion) = calls at hb
          obtain ⟨e₂, stop, up⟩ := calls
          obtain ⟨rfl, hr⟩ := Prod.mk.inj hb
          exact restart_probed hcalls hr hs
  | update =>
      rw [hty] at hup
      cases hup with
      | update hres hs =>
          unfold orchestratorCalls at h
          simp only [hty] at h
          generalize hb : updateOnEngine env e ans.update s.wid (s.rt.bind (·.containerId))
            s.job.requestedConfigVersion = out at h
          obtain ⟨e₁, out⟩ := out
          obtain ⟨rfl, horch⟩ := Prod.mk.inj h
          rw [← horch] at hres
          dsimp only at hres
          subst hres
          exact updateOnEngine_probed hb hs
  | _ =>
      rw [hty] at hup
      cases hup

theorem SaysUp.bringsUp {inp : WorkerInput} {jt : WorkspaceJobType} {f : RuntimeFacts}
    (h : SaysUp inp jt f) : jt.bringsUp = true := by
  cases h <;> rfl

/-- A job that leaves its workspace up was told so by the orchestrator. -/
theorem runJob_saysUp {cfg : Settings} {entry : EntryPoint} {inp : WorkerInput} {db : Db}
    {jid : Nat} {s : Session} {job : WorkspaceJob} {ws : Workspace}
    (hs : claimJob inp jid db = some s) (hjt : s.job.jobType.isLifecycle = true)
    (hjob : (runJob cfg entry inp jid db).jobs.lookup jid = some job)
    (hsucc : job.status = .succeeded)
    (hws : (runJob cfg entry inp jid db).workspaces.lookup s.wid = some ws)
    (hrun : ws.status = .running) :
    ∃ f, SaysUp inp s.job.jobType f ∧ orchestratorReached cfg inp s = true := by
  obtain ⟨hc, rfl, hcommit, -⟩ := runJob_succeeded hs hjob hsucc
  have hend := executeClaimedJob_lifecycle cfg inp hjt hc
  rw [hcommit] at hws
  simp only [Session.commit, hend.target.1, Table.lookup_insert_eq, if_true] at hws
  obtain rfl := Option.some.inj hws
  cases hend with
  | failed _ hf _ => exact absurd hsucc hf.not_succeeded
  | stopFailed _ _ _ _ _ hstray _ _ =>
      rw [hstray.1] at hsucc
      cases hsucc
  | up hup _ =>
      exact ⟨_, hup, (executeClaimedJob_succeeded hup.bringsUp hc hsucc).1⟩
  | stopped _ _ _ _ _ _ hstatus _ _ | updateStopped _ _ _ _ _ _ hstatus _ _
  | deleted _ _ _ _ hstatus _ _ =>
      rw [hstatus] at hrun
      cases hrun

/-- **Running means ready.** From any database and engine: if a lifecycle job ends `SUCCEEDED` and
its workspace `RUNNING`, the probe that decided on it was healthy. Whatever the adapters, the
network and the service answered, a step that gives this answer for a runtime `rt` has itself seen
the container of `rt` run and its service reachable and, where that is asked for, ready. -/
theorem running_means_ready {cfg : Settings} {env : OrchestratorEnv} {w : EngineWorld}
    {entry : EntryPoint} {inp : WorkerInput} {ans : JobAnswers} {jid : Nat} {s : Session}
    {job : WorkspaceJob} {ws : Workspace} (hs : claimJob inp jid w.db = some s)
    (hjt : s.job.jobType.isLifecycle = true)
    (hjob : (engineStep cfg env w (.runJob entry inp ans jid)).db.jobs.lookup jid = some job)
    (hsucc : job.status = .succeeded)
    (hws : (engineStep cfg env w (.runJob entry inp ans jid)).db.workspaces.lookup s.wid = some ws)
    (hrun : ws.status = .running) :
    ∃ h, decidingProbe env w.engine ans s = .ok h ∧ h.healthy = true ∧
      ∀ (world : ProbeWorld) (runner : ProbeRunner) (waits : ProbeWaits) (rt : ProbedRuntime)
        (step : ProbeStep) (log log' : List ProbeCall),
        step.run world runner waits rt log = (.ok h, log') →
          ∃ calls, log' = calls ++ log ∧ SeenUp runner rt step calls := by
  have hhealthy : WasHealthy (decidingProbe env w.engine ans s) := by
    unfold engineStep at hjob hws
    dsimp only at hjob hws
    rw [hs] at hjob hws
    dsimp only at hjob hws
    cases hreach : orchestratorReached cfg inp s with
    | true =>
        simp only [hreach, if_true] at hjob hws
        generalize hcalls : orchestratorCalls env w.engine ans s = calls at hjob hws
        obtain ⟨e', orch⟩ := calls
        dsimp only at hjob hws
        have hs' : claimJob { inp with orch := orch } jid w.db = some s := hs
        obtain ⟨f, hup, -⟩ := runJob_saysUp hs' hjt hjob hsucc hws hrun
        exact hup.probed hcalls
    | false =>
        simp only [hreach, if_neg Bool.false_ne_true] at hjob hws
        obtain ⟨f, hup, hreach'⟩ := runJob_saysUp hs hjt hjob hsucc hws hrun
        rw [hreach'] at hreach
        cases hreach
  obtain ⟨h, hok, hup⟩ := hhealthy
  refine ⟨h, hok, hup, fun world runner waits rt step log log' hstep => ?_⟩
  obtain ⟨calls, hlog, hseen⟩ := ((step.run_seen world runner waits rt) log log rfl).1 h log' hstep
  exact ⟨calls, hlog, hseen hup⟩

/-- The `CREATE` of a workspace, up to a healthy probe. -/
theorem created_workspace_was_ready :
    ∃ s h, claimJob (sampleWorker 1 {}) 1 twoCoreWorld.db = some s ∧
      decidingProbe {} .empty healthyAnswers s = .ok h ∧ h.healthy = true ∧
      ∀ (world : ProbeWorld) (runner : ProbeRunner) (waits : ProbeWaits) (rt : ProbedRuntime)
        (step : ProbeStep) (log log' : List ProbeCall),
        step.run world runner waits rt log = (.ok h, log') →
          ∃ calls, log' = calls ++ log ∧ SeenUp runner rt step calls := by
  have hclaim : (claimJob (sampleWorker 1 {}) 1 twoCoreWorld.db).map
      (fun s => (s.wid, s.job.jobType.isLifecycle)) = some (1, true) := by decide +kernel
  have hjob : ((engineStep {} {} twoCoreWorld createStep).db.jobs.lookup 1).map (·.status) =
      some .succeeded := by decide +kernel
  have hws : ((engineStep {} {} twoCoreWorld createStep).db.workspaces.lookup 1).map (·.status) =
      some .running := by decide +kernel
  obtain ⟨s, hs, hclaimed⟩ := Option.map_eq_some_iff.mp hclaim
  obtain ⟨hwid, hjt⟩ := Prod.mk.inj hclaimed
  obtain ⟨job, hjob, hsucc⟩ := Option.map_eq_some_iff.mp hjob
  obtain ⟨ws, hws, hrun⟩ := Option.map_eq_some_iff.mp hws
  obtain ⟨h, hready⟩ := running_means_ready hs hjt hjob hsucc
    (by rw [hwid]; exact hws) hrun
  exact ⟨s, h, hs, hready⟩

end Devnest
