import Mathlib.Logic.Function.Basic
import Devnest.Orchestrator
import Devnest.RemoteCommand

/-!
# The Docker engine behind SSM

`SsmDockerRuntimeAdapter` drives the engine of a node with `docker` commands
sent through the SSM runner, and `delete_workspace_runtime` builds on it. Every
command of a call may fail on its own: it raises `RuntimeError`, with or
without having taken effect, or its output is cut off.

`inspect_container` answers "not found" for an absent container and for
every failure alike, and the callers take that answer as success. The
theorems say for which failures they are right to
(`remote_success_honest_iff`).
-/

namespace Devnest

/-! ## The engine -/

inductive EngineState where
  | created
  | running
  | paused
  | restarting
  | removing
  | exited
  | dead
  deriving DecidableEq, Repr

def EngineState.status : EngineState → String
  | .created => "created"
  | .running => "running"
  | .paused => "paused"
  | .restarting => "restarting"
  | .removing => "removing"
  | .exited => "exited"
  | .dead => "dead"

/-- `_container_state_needs_engine_stop`. -/
def containerStateNeedsEngineStop (s : EngineState) : Bool :=
  s = .running || s = .restarting || s = .paused

structure Container where
  state : EngineState
  autoRemove : Bool := false
  deriving DecidableEq, Repr

/-- The containers of a host, by engine id. A reference (a name or an id)
stands for one id, and an id for itself. -/
structure Engine where
  resolve : String → Option String
  containers : String → Option Container
  resolve_id : ∀ {r i}, resolve r = some i → resolve i = some i
  id_trimmed : ∀ {r i}, resolve r = some i → i ≠ "" ∧ PyText.strip i = i

namespace Engine

/-- The container the engine has under the reference. -/
def find (e : Engine) (ref : String) : Option Container := (e.resolve ref).bind e.containers

/-- The engine has the container and it is running (paused and restarting
containers included, as Docker counts them). -/
def Running (e : Engine) (ref : String) : Prop :=
  ∃ c, e.find ref = some c ∧ containerStateNeedsEngineStop c.state = true

def set (e : Engine) (id : String) (c : Option Container) : Engine :=
  { e with containers := Function.update e.containers id c }

/-- Give the container under the reference a new value. -/
def setRef (e : Engine) (ref : String) (c : Option Container) : Engine :=
  match e.resolve ref with
  | some id => e.set id c
  | none => e

end Engine

/-- A stopped container, unless it removes itself. -/
def Container.stopped (c : Container) : Option Container :=
  if containerStateNeedsEngineStop c.state then
    if c.autoRemove then none else some { c with state := .exited }
  else some c

/-! ## Commands -/

inductive DockerCommand where
  | inspect (ref : String)
  | stop (timeout : Nat) (ref : String)
  | rmForce (ref : String)
  deriving DecidableEq, Repr

namespace DockerCommand

def argv : DockerCommand → List String
  | .inspect ref => ["docker", "inspect", ref]
  | .stop timeout ref => ["docker", "stop", "-t", toString timeout, ref]
  | .rmForce ref => ["docker", "rm", "-f", ref]

def ref : DockerCommand → String
  | .inspect ref => ref
  | .stop _ ref => ref
  | .rmForce ref => ref

/-- What the command makes of the container it names. -/
def effect (c : Container) : DockerCommand → Option Container
  | .inspect _ => some c
  | .stop _ _ => c.stopped
  | .rmForce _ => none

/-- The engine after the command has taken effect. -/
def apply (cmd : DockerCommand) (e : Engine) : Engine :=
  match e.find cmd.ref with
  | some c => e.setRef cmd.ref (cmd.effect c)
  | none => e

end DockerCommand

/-- What becomes of one remote command. -/
inductive Fault where
  | none
  | truncated
  | raised (effect : Bool) (text : String)
  deriving DecidableEq, Repr

/-- A host: its engine, what becomes of each command sent to it, and how many
were sent. -/
structure Host where
  engine : Engine
  faults : Nat → Fault
  issued : Nat

namespace Host

/-- The fault of the `k`-th command from now on. -/
def fault (h : Host) (k : Nat) : Fault := h.faults (h.issued + k)

def sent (h : Host) : Host := { h with issued := h.issued + 1 }

def after (h : Host) (cmd : DockerCommand) : Host :=
  { h.sent with engine := cmd.apply h.engine }

end Host

/-- The output of a command that succeeded: the container it named, before the
command, unless the output was cut off. -/
inductive Output where
  | whole (id : String) (c : Container)
  | cut
  deriving DecidableEq, Repr

def runnerError (cmd : DockerCommand) (text : String) : String :=
  "ssm remote command failed: " ++ shlexJoin cmd.argv ++ "\n" ++ text

/-- `SsmRemoteCommandRunner.run` on a `docker` command, with the `RuntimeError`
as the error. A command on a container the engine does not have fails. -/
def runnerRun (h : Host) (cmd : DockerCommand) : Except String Output × Host :=
  match h.fault 0 with
  | .raised effect text =>
      (.error (runnerError cmd text), if effect then h.after cmd else h.sent)
  | f =>
      match h.engine.resolve cmd.ref, h.engine.find cmd.ref with
      | some id, some c => (.ok (if f = .truncated then .cut else .whole id c), h.after cmd)
      | _, _ => (.error (runnerError cmd ("No such container: " ++ cmd.ref)), h.sent)

/-! ## The adapter -/

/-- `ContainerInspectionResult`, as far as the callers here read it;
`containerState` is `none` for `missing`. -/
structure ContainerInspectionResult where
  found : Bool
  containerId : Option String
  containerState : Option EngineState
  deriving DecidableEq, Repr

def inspectionNotFound : ContainerInspectionResult := ⟨false, none, none⟩

structure RuntimeActionResult where
  containerId : String
  containerState : Option EngineState
  success : Bool
  message : Option String
  deriving DecidableEq, Repr

inductive RuntimeAdapterError where
  | containerNotFound (text : String)
  | containerStop (text : String)
  | containerDelete (text : String)
  deriving DecidableEq, Repr

def RuntimeAdapterError.text : RuntimeAdapterError → String
  | .containerNotFound t => t
  | .containerStop t => t
  | .containerDelete t => t

/-- `inspect_container`: a `RuntimeError` and an output that does not parse are
both "not found". -/
def inspectContainer (h : Host) (containerId : String) : ContainerInspectionResult × Host :=
  match runnerRun h (.inspect containerId) with
  | (.ok (.whole id c), h) => (⟨true, some id, some c.state⟩, h)
  | (.ok .cut, h) => (inspectionNotFound, h)
  | (.error _, h) => (inspectionNotFound, h)

/-- The state of an inspection needs a stop. -/
def ContainerInspectionResult.needsEngineStop (ins : ContainerInspectionResult) : Bool :=
  ins.containerState.any containerStateNeedsEngineStop

def missing (containerId : String) : RuntimeActionResult := ⟨containerId, none, true, none⟩

def settled (ins : ContainerInspectionResult) (containerId : String) : RuntimeActionResult :=
  ⟨containerId, ins.containerState, true, none⟩

def statusText (s : Option EngineState) : String := (s.map EngineState.status).getD "missing"

/-- `stop_container`. -/
def stopContainer (timeout : Nat) (h : Host) (containerId : String) :
    Except RuntimeAdapterError RuntimeActionResult × Host :=
  let (ins, h) := inspectContainer h containerId
  if !ins.found then (.ok (missing containerId), h)
  else
    let cidOut := ins.containerId.getD containerId
    if !ins.needsEngineStop then (.ok (settled ins cidOut), h)
    else
      let (live, h) := inspectContainer h containerId
      if !live.found then (.ok (missing cidOut), h)
      else
        let cidLive := live.containerId.getD cidOut
        if !live.needsEngineStop then (.ok (settled live cidLive), h)
        else
          match runnerRun h (.stop timeout containerId) with
          | (.error e, h) => (.error (.containerStop e), h)
          | (.ok _, h) =>
              let (after, h) := inspectContainer h containerId
              if !after.found then (.ok (missing cidOut), h)
              else
                let cidAfter := after.containerId.getD containerId
                if after.needsEngineStop then
                  (.ok ⟨cidAfter, after.containerState, false,
                    some ("container still active after stop: "
                      ++ statusText after.containerState)⟩, h)
                else (.ok (settled after cidAfter), h)

/-- The `docker rm -f` of `delete_container`, with its `RuntimeError` kept for the
handler. -/
def removeContainer (h : Host) (containerId : String) :
    Except RuntimeAdapterError (Except String Unit) × Host :=
  match runnerRun h (.rmForce containerId) with
  | (.error e, h) => (.ok (.error e), h)
  | (.ok _, h) => (.ok (.ok ()), h)

/-- The `try` block of `delete_container`. The handler catches `RuntimeError`; a
`ContainerStopError` is none and leaves the call. -/
def stopAndRemove (timeout : Nat) (h : Host) (live : ContainerInspectionResult)
    (containerId : String) : Except RuntimeAdapterError (Except String Unit) × Host :=
  if live.needsEngineStop then
    match runnerRun h (.stop timeout containerId) with
    | (.error e, h) => (.error (.containerStop e), h)
    | (.ok _, h) => removeContainer h containerId
  else removeContainer h containerId

/-- The handler and what follows the `try` block. -/
def finishDelete (containerId cidKnown : String) :
    Except RuntimeAdapterError (Except String Unit) × Host →
      Except RuntimeAdapterError RuntimeActionResult × Host
  | (.error e, h) => (.error e, h)
  | (.ok (.error e), h) =>
      let (final, h) := inspectContainer h containerId
      if !final.found then (.ok (missing cidKnown), h)
      else (.error (.containerDelete e), h)
  | (.ok (.ok _), h) =>
      let (final, h) := inspectContainer h containerId
      if final.found then
        (.ok ⟨final.containerId.getD cidKnown, final.containerState, false,
          some "container still exists after delete"⟩, h)
      else (.ok (missing cidKnown), h)

/-- `delete_container`. -/
def deleteContainer (timeout : Nat) (h : Host) (containerId : String) :
    Except RuntimeAdapterError RuntimeActionResult × Host :=
  let (ins, h) := inspectContainer h containerId
  if !ins.found then (.ok (missing containerId), h)
  else
    let cidKnown := ins.containerId.getD containerId
    let (live, h) := inspectContainer h containerId
    if !live.found then (.ok (missing cidKnown), h)
    else
      finishDelete containerId (live.containerId.getD cidKnown)
        (stopAndRemove timeout h live containerId)

/-! ## What one command does -/

/-- What an inspection that comes back whole shows. -/
def Engine.view (e : Engine) (ref : String) : ContainerInspectionResult :=
  match e.find ref with
  | some c => ⟨true, e.resolve ref, some c.state⟩
  | none => inspectionNotFound

/-- The command comes back, and whole. -/
def Host.Seen (h : Host) (k : Nat) : Prop := h.fault k = .none

instance (h : Host) (k : Nat) : Decidable (h.Seen k) := by
  unfold Host.Seen
  infer_instance

@[simp] theorem Host.sent_engine (h : Host) : h.sent.engine = h.engine := rfl

@[simp] theorem Host.after_engine (h : Host) (cmd : DockerCommand) :
    (h.after cmd).engine = cmd.apply h.engine := rfl

@[simp] theorem Host.sent_fault (h : Host) (k : Nat) : h.sent.fault k = h.fault (k + 1) := by
  simp only [Host.fault, Host.sent]
  congr 1
  omega

@[simp] theorem Host.after_fault (h : Host) (cmd : DockerCommand) (k : Nat) :
    (h.after cmd).fault k = h.fault (k + 1) := h.sent_fault k

theorem Engine.resolve_of_find {e : Engine} {ref : String} {c : Container}
    (h : e.find ref = some c) : ∃ id, e.resolve ref = some id ∧ e.containers id = some c :=
  Option.bind_eq_some_iff.mp h

@[simp] theorem DockerCommand.apply_resolve (cmd : DockerCommand) (e : Engine) :
    (cmd.apply e).resolve = e.resolve := by
  unfold DockerCommand.apply Engine.setRef
  split
  · split <;> rfl
  · rfl

/-- The container a command names is what the command makes of it. -/
theorem DockerCommand.find_apply (cmd : DockerCommand) {e : Engine} {c : Container}
    (h : e.find cmd.ref = some c) : (cmd.apply e).find cmd.ref = cmd.effect c := by
  obtain ⟨id, hid, -⟩ := Engine.resolve_of_find h
  rw [Engine.find, DockerCommand.apply_resolve, hid, Option.bind_some]
  simp only [DockerCommand.apply, h, Engine.setRef, hid, Engine.set, Function.update_self]

/-- An absent container stays absent. -/
theorem DockerCommand.apply_none {cmd : DockerCommand} {e : Engine} (h : e.find cmd.ref = none) :
    cmd.apply e = e := by
  rw [DockerCommand.apply, h]

theorem DockerCommand.apply_inspect (ref : String) (e : Engine) :
    (DockerCommand.inspect ref).apply e = e := by
  cases hf : e.find ref with
  | none => exact apply_none hf
  | some c =>
      obtain ⟨id, hid, hc⟩ := Engine.resolve_of_find hf
      obtain ⟨resolve, containers, resolve_id, id_trimmed⟩ := e
      simp only at hid hc
      have hself : Function.update containers id (some c) = containers := by
        rw [← hc, Function.update_eq_self]
      simp only [DockerCommand.apply, DockerCommand.ref, hf, Engine.setRef, hid, Engine.set,
        DockerCommand.effect, hself]

/-- An inspection changes nothing, and it is right when it comes back whole. -/
theorem inspectContainer_eq (h : Host) (ref : String) :
    inspectContainer h ref
      = (if h.Seen 0 then h.engine.view ref else inspectionNotFound, h.sent) := by
  have hafter : h.after (.inspect ref) = h.sent := by
    simp only [Host.after, DockerCommand.apply_inspect]
    rfl
  have hseen : h.Seen 0 ↔ h.fault 0 = .none := Iff.rfl
  unfold inspectContainer runnerRun
  cases hfault : h.fault 0 with
  | raised effect text => cases effect <;> simp [hseen, hfault, hafter]
  | none =>
      cases hf : h.engine.find ref with
      | none =>
          cases hr : h.engine.resolve ref <;>
            simp [hseen, hfault, DockerCommand.ref, hr, hf, Engine.view]
      | some c =>
          obtain ⟨id, hid, -⟩ := Engine.resolve_of_find hf
          simp [hseen, hfault, DockerCommand.ref, hid, hf, Engine.view, hafter]
  | truncated =>
      cases hf : h.engine.find ref with
      | none =>
          cases hr : h.engine.resolve ref <;> simp [hseen, hfault, DockerCommand.ref, hr, hf]
      | some c =>
          obtain ⟨id, hid, -⟩ := Engine.resolve_of_find hf
          simp [hseen, hfault, DockerCommand.ref, hid, hf, hafter]

/-- A command that returns has taken effect. -/
theorem runnerRun_found {h : Host} (cmd : DockerCommand) {c : Container}
    (hf : h.engine.find cmd.ref = some c) :
    (∃ effect text, h.fault 0 = .raised effect text
        ∧ runnerRun h cmd
          = (.error (runnerError cmd text), if effect then h.after cmd else h.sent))
      ∨ ((∀ effect text, h.fault 0 ≠ .raised effect text)
        ∧ ∃ out, runnerRun h cmd = (.ok out, h.after cmd)) := by
  obtain ⟨id, hid, -⟩ := Engine.resolve_of_find hf
  unfold runnerRun
  cases hfault : h.fault 0 with
  | raised effect text => exact .inl ⟨effect, text, rfl, rfl⟩
  | none =>
      refine .inr ⟨by simp, .whole id c, ?_⟩
      simp [hid, hf]
  | truncated =>
      refine .inr ⟨by simp, .cut, ?_⟩
      simp [hid, hf]

/-- A command on an absent container fails and changes nothing. -/
theorem runnerRun_absent {h : Host} (cmd : DockerCommand) (hf : h.engine.find cmd.ref = none) :
    ∃ text, runnerRun h cmd = (.error (runnerError cmd text), h.sent) := by
  have hafter : h.after cmd = h.sent := by
    simp only [Host.after, DockerCommand.apply_none hf]
    rfl
  unfold runnerRun
  cases h.fault 0 with
  | raised effect text => exact ⟨text, by simp [hafter]⟩
  | none =>
      refine ⟨"No such container: " ++ cmd.ref, ?_⟩
      cases h.engine.resolve cmd.ref <;> simp [hf]
  | truncated =>
      refine ⟨"No such container: " ++ cmd.ref, ?_⟩
      cases h.engine.resolve cmd.ref <;> simp [hf]

/-! ## Stop -/

/-- A stop that reports success leaves no running container. -/
def StopHonest (timeout : Nat) (h : Host) (containerId : String) : Prop :=
  ∀ res h', stopContainer timeout h containerId = (.ok res, h') → res.success = true →
    ¬ h'.engine.Running containerId

theorem needsEngineStop_view {e : Engine} {ref : String} {c : Container}
    (h : e.find ref = some c) :
    (e.view ref).found = true
      ∧ (e.view ref).needsEngineStop = containerStateNeedsEngineStop c.state := by
  simp [Engine.view, h, ContainerInspectionResult.needsEngineStop]

theorem view_absent {e : Engine} {ref : String} (h : e.find ref = none) :
    e.view ref = inspectionNotFound := by
  rw [Engine.view, h]

theorem running_iff {e : Engine} {ref : String} {c : Container} (h : e.find ref = some c) :
    e.Running ref ↔ containerStateNeedsEngineStop c.state = true := by
  simp [Engine.Running, h]

theorem not_running_of_absent {e : Engine} {ref : String} (h : e.find ref = none) :
    ¬ e.Running ref := by
  simp [Engine.Running, h]

/-- A stopped container is not running, whether it is still there or not. -/
theorem stopped_not_running (timeout : Nat) {e : Engine} {ref : String} {c : Container}
    (h : e.find ref = some c) : ¬ ((DockerCommand.stop timeout ref).apply e).Running ref := by
  have hfind := DockerCommand.find_apply (.stop timeout ref) h
  rintro ⟨c', hc', hstate⟩
  rw [DockerCommand.ref, hc'] at hfind
  simp only [DockerCommand.effect, Container.stopped] at hfind
  split_ifs at hfind with hneeds hauto
  · cases hfind
    cases hstate
  · cases hfind
    exact hneeds hstate

/-- A stop that comes after two whole inspections of a running container
leaves it stopped, or raises. -/
theorem stopContainer_seen {timeout : Nat} {h : Host} {containerId : String} {c : Container}
    (hf : h.engine.find containerId = some c)
    (hrun : containerStateNeedsEngineStop c.state = true) (h0 : h.Seen 0) (h1 : h.Seen 1) :
    StopHonest timeout h containerId := by
  intro res h' hres _
  obtain ⟨hfound, hneeds⟩ := needsEngineStop_view hf
  rw [hrun] at hneeds
  have h1' : h.sent.Seen 0 := by rwa [Host.Seen, Host.sent_fault]
  simp only [stopContainer, inspectContainer_eq, if_pos h0, if_pos h1', Host.sent_engine, hfound,
    hneeds, Bool.not_true, Bool.false_eq_true, if_false] at hres
  have hstop := stopped_not_running timeout hf
  rcases runnerRun_found (h := h.sent.sent) (.stop timeout containerId) hf with
    ⟨effect, text, -, hrun⟩ | ⟨-, out, hrun⟩
  · rw [hrun] at hres
    cases hres
  · simp only [hrun] at hres
    -- whatever the last inspection shows, the host is the one the stop left
    generalize (if (h.sent.sent.after (.stop timeout containerId)).Seen 0 then
      (h.sent.sent.after (.stop timeout containerId)).engine.view containerId
      else inspectionNotFound) = last at hres
    split_ifs at hres <;> (cases hres; exact hstop)

theorem stop_honest_iff (timeout : Nat) (h : Host) (containerId : String) :
    StopHonest timeout h containerId
      ↔ (h.engine.Running containerId → h.Seen 0 ∧ h.Seen 1) := by
  cases hf : h.engine.find containerId with
  | none =>
      have hnot := not_running_of_absent hf
      refine ⟨fun _ hrun => absurd hrun hnot, fun _ res h' hres _ => ?_⟩
      simp only [stopContainer, inspectContainer_eq, view_absent hf, ite_self, inspectionNotFound,
        Bool.not_false, if_true] at hres
      cases hres
      exact hnot
  | some c =>
      rw [running_iff hf]
      obtain ⟨hfound, hneeds⟩ := needsEngineStop_view hf
      cases hrun : containerStateNeedsEngineStop c.state with
      | false =>
          have hnot : ¬ h.engine.Running containerId := by simp [running_iff hf, hrun]
          refine ⟨fun _ hc => (Bool.false_ne_true hc).elim, fun _ res h' hres _ => ?_⟩
          rw [hrun] at hneeds
          by_cases h0 : h.Seen 0
          · simp only [stopContainer, inspectContainer_eq, if_pos h0, hfound, hneeds, Bool.not_true,
              Bool.false_eq_true, if_false, Bool.not_false, if_true] at hres
            cases hres
            exact hnot
          · simp only [stopContainer, inspectContainer_eq, if_neg h0, inspectionNotFound,
              Bool.not_false, if_true] at hres
            cases hres
            exact hnot
      | true =>
          have hrunning : h.engine.Running containerId := (running_iff hf).mpr hrun
          refine ⟨fun hhonest _ => ?_,
            fun hseen => stopContainer_seen hf hrun (hseen rfl).1 (hseen rfl).2⟩
          rw [hrun] at hneeds
          by_cases h0 : h.Seen 0
          · refine ⟨h0, ?_⟩
            by_contra h1
            have h1' : ¬ h.sent.Seen 0 := by rwa [Host.Seen, Host.sent_fault]
            refine hhonest (missing ((h.engine.view containerId).containerId.getD containerId))
              h.sent.sent ?_ rfl hrunning
            simp only [stopContainer, inspectContainer_eq, if_pos h0, if_neg h1', hfound, hneeds,
              inspectionNotFound, Bool.not_true, Bool.not_false, Bool.false_eq_true, if_false,
              if_true]
          · refine absurd hrunning (hhonest (missing containerId) h.sent ?_ rfl)
            simp only [stopContainer, inspectContainer_eq, if_neg h0, inspectionNotFound,
              Bool.not_false, if_true]

/-! ## Delete -/

/-- A delete that reports success leaves no container. -/
def DeleteHonest (timeout : Nat) (h : Host) (containerId : String) : Prop :=
  ∀ res h', deleteContainer timeout h containerId = (.ok res, h') → res.success = true →
    h'.engine.find containerId = none

/-- The removal that is the `k`-th command from now on raises without effect,
and the inspection after it fails too. -/
def Host.LostRemoval (h : Host) (k : Nat) : Prop :=
  (match h.fault k with
    | .raised false _ => True
    | _ => False) ∧ ¬ h.Seen (k + 1)

/-- The stop that is the `k`-th command from now on raises. -/
def Host.StopRaises (h : Host) (k : Nat) : Prop :=
  match h.fault k with
  | .raised _ _ => True
  | _ => False

/-- The answers a delete of the container needs: both inspections before it,
and one of the removal and the inspection after it. -/
def Host.DeleteSeen (h : Host) (c : Container) : Prop :=
  h.Seen 0 ∧ h.Seen 1 ∧
    if containerStateNeedsEngineStop c.state then
      h.StopRaises 2 ∨ c.autoRemove = true ∨ ¬ h.LostRemoval 3
    else ¬ h.LostRemoval 2

/-- From the removal on, a success is honest unless the removal is lost. -/
theorem finishDelete_honest_iff {h : Host} {containerId cidKnown : String} {c : Container}
    (hf : h.engine.find containerId = some c) :
    (∀ res h', finishDelete containerId cidKnown (removeContainer h containerId) = (.ok res, h') →
      res.success = true → h'.engine.find containerId = none) ↔ ¬ h.LostRemoval 0 := by
  have hgone := DockerCommand.find_apply (.rmForce containerId) hf
  simp only [DockerCommand.ref, DockerCommand.effect] at hgone
  rcases runnerRun_found (.rmForce containerId) hf with
    ⟨effect, text, hfault, hrun⟩ | ⟨hfault, out, hrun⟩
  · cases effect with
    | true =>
        have hnot : ¬ h.LostRemoval 0 := by simp [Host.LostRemoval, hfault]
        refine iff_of_true (fun res h' hres _ => ?_) hnot
        simp only [removeContainer, hrun, finishDelete, if_true, inspectContainer_eq,
          Host.after_engine, view_absent hgone, ite_self, inspectionNotFound, Bool.not_false] at hres
        cases hres
        exact hgone
    | false =>
        have hlost : h.LostRemoval 0 ↔ ¬ h.sent.Seen 0 := by
          simp [Host.LostRemoval, hfault, Host.Seen]
        have hfound := (needsEngineStop_view hf).1
        rw [hlost, not_not]
        by_cases hseen : h.sent.Seen 0
        · refine iff_of_true (fun res h' hres _ => ?_) hseen
          simp only [removeContainer, hrun, finishDelete, Bool.false_eq_true, if_false,
            inspectContainer_eq, if_pos hseen, Host.sent_engine, hfound, Bool.not_true] at hres
          cases hres
        · refine iff_of_false (fun hhonest => ?_) hseen
          have hnone := hhonest (missing cidKnown) h.sent.sent (by
            simp only [removeContainer, hrun, finishDelete, Bool.false_eq_true, if_false,
              inspectContainer_eq, if_neg hseen, inspectionNotFound, Bool.not_false, if_true]) rfl
          rw [Host.sent_engine, Host.sent_engine, hf] at hnone
          cases hnone
  · have hnot : ¬ h.LostRemoval 0 := by
      rintro ⟨hraised, -⟩
      split at hraised
      · exact hfault _ _ ‹_›
      · exact hraised
    refine iff_of_true (fun res h' hres _ => ?_) hnot
    simp only [removeContainer, hrun, finishDelete, inspectContainer_eq, Host.after_engine,
      view_absent hgone, ite_self, inspectionNotFound, Bool.false_eq_true, if_false] at hres
    cases hres
    exact hgone

/-- An absent container is not removed, and the last inspection cannot find
it. -/
theorem finishDelete_absent {h : Host} {containerId cidKnown : String}
    (hf : h.engine.find containerId = none) {res : RuntimeActionResult} {h' : Host}
    (hres : finishDelete containerId cidKnown (removeContainer h containerId) = (.ok res, h')) :
    h'.engine.find containerId = none := by
  obtain ⟨text, hrun⟩ := runnerRun_absent (.rmForce containerId) hf
  simp only [removeContainer, hrun, finishDelete, inspectContainer_eq, Host.sent_engine,
    view_absent hf, ite_self, inspectionNotFound, Bool.not_false, if_true] at hres
  cases hres
  exact hf

theorem Host.lostRemoval_sent (h : Host) (k : Nat) :
    h.sent.LostRemoval k ↔ h.LostRemoval (k + 1) := by
  simp only [Host.LostRemoval, Host.Seen, Host.sent_fault]

theorem Host.lostRemoval_after (h : Host) (cmd : DockerCommand) (k : Nat) :
    (h.after cmd).LostRemoval k ↔ h.LostRemoval (k + 1) := h.lostRemoval_sent k

/-- The `try` block and what follows, on a host with the container. -/
theorem stopAndRemove_honest_iff (timeout : Nat) {h : Host} {containerId : String}
    (cidKnown : String) {c : Container} (hf : h.engine.find containerId = some c) :
    (∀ res h', finishDelete containerId cidKnown
        (stopAndRemove timeout h (h.engine.view containerId) containerId) = (.ok res, h') →
      res.success = true → h'.engine.find containerId = none)
    ↔ if containerStateNeedsEngineStop c.state then
        h.StopRaises 0 ∨ c.autoRemove = true ∨ ¬ h.LostRemoval 1
      else ¬ h.LostRemoval 0 := by
  obtain ⟨-, hneeds⟩ := needsEngineStop_view hf
  cases hrun : containerStateNeedsEngineStop c.state with
  | false =>
      rw [hrun] at hneeds
      simp only [stopAndRemove, hneeds, Bool.false_eq_true, if_false]
      exact finishDelete_honest_iff hf
  | true =>
      rw [hrun] at hneeds
      simp only [stopAndRemove, hneeds, if_true]
      have hstopped := DockerCommand.find_apply (.stop timeout containerId) hf
      simp only [DockerCommand.ref, DockerCommand.effect, Container.stopped, hrun,
        if_true] at hstopped
      rcases runnerRun_found (.stop timeout containerId) hf with
        ⟨effect, text, hfault, hrun⟩ | ⟨hfault, out, hrun⟩
      · have hraises : h.StopRaises 0 := by simp [Host.StopRaises, hfault]
        refine iff_of_true (fun res h' hres _ => ?_) (.inl hraises)
        simp only [hrun, finishDelete] at hres
        cases hres
      · have hraises : ¬ h.StopRaises 0 := by
          intro hraises
          unfold Host.StopRaises at hraises
          split at hraises
          · exact hfault _ _ ‹_›
          · exact hraises
        simp only [hrun]
        cases hauto : c.autoRemove with
        | true =>
            rw [hauto, if_pos rfl] at hstopped
            exact iff_of_true (fun res h' hres _ => finishDelete_absent hstopped hres)
              (.inr (.inl rfl))
        | false =>
            rw [hauto, if_neg Bool.false_ne_true] at hstopped
            rw [finishDelete_honest_iff hstopped, Host.lostRemoval_after]
            simp [hraises]

theorem delete_honest_iff (timeout : Nat) (h : Host) (containerId : String) :
    DeleteHonest timeout h containerId
      ↔ ∀ c, h.engine.find containerId = some c → h.DeleteSeen c := by
  cases hf : h.engine.find containerId with
  | none =>
      refine iff_of_true (fun res h' hres _ => ?_) (by simp)
      simp only [deleteContainer, inspectContainer_eq, view_absent hf, ite_self, inspectionNotFound,
        Bool.not_false, if_true] at hres
      cases hres
      exact hf
  | some c =>
      have hfound := (needsEngineStop_view hf).1
      have hsent : h.sent.Seen 0 ↔ h.Seen 1 := by rw [Host.Seen, Host.sent_fault, Host.Seen]
      simp only [Option.some.injEq, forall_eq']
      by_cases h0 : h.Seen 0
      · by_cases h1 : h.sent.Seen 0
        · have hiff := stopAndRemove_honest_iff timeout (h := h.sent.sent)
            ((h.engine.view containerId).containerId.getD
              ((h.engine.view containerId).containerId.getD containerId)) hf
          simp only [DeleteHonest, deleteContainer, inspectContainer_eq, if_pos h0, if_pos h1,
            Host.sent_engine, hfound, Bool.not_true, Bool.false_eq_true, if_false]
          rw [Host.sent_engine, Host.sent_engine] at hiff
          rw [hiff, Host.DeleteSeen, ← hsent]
          simp only [h0, h1, true_and, Host.lostRemoval_sent, Host.StopRaises, Host.sent_fault]
        · refine iff_of_false (fun hhonest => ?_) fun hseen => h1 (hsent.mpr hseen.2.1)
          have hnone := hhonest (missing ((h.engine.view containerId).containerId.getD containerId))
            h.sent.sent (by
              simp only [deleteContainer, inspectContainer_eq, if_pos h0, if_neg h1, hfound,
                inspectionNotFound, Bool.not_true, Bool.not_false, Bool.false_eq_true, if_false,
                if_true]) rfl
          rw [Host.sent_engine, Host.sent_engine, hf] at hnone
          cases hnone
      · refine iff_of_false (fun hhonest => ?_) fun hseen => h0 hseen.1
        have hnone := hhonest (missing containerId) h.sent (by
          simp only [deleteContainer, inspectContainer_eq, if_neg h0, inspectionNotFound,
            Bool.not_false, if_true]) rfl
        rw [Host.sent_engine, hf] at hnone
        cases hnone

/-! ## `delete_workspace_runtime` -/

/-- What `detach_workspace` comes to. -/
inductive DetachOutcome where
  | done (detached : Bool)
  | topologyError (text : String)
  | otherError (text : String)
  deriving DecidableEq, Repr

/-- What `delete_topology` comes to. -/
inductive DeleteTopologyOutcome where
  | done
  | deleteError (text : String)
  | otherError (text : String)
  deriving DecidableEq, Repr

/-- The topology service of one call. -/
structure TopologyService where
  detachWorkspace : DetachOutcome
  deleteTopology : DeleteTopologyOutcome
  deriving DecidableEq, Repr

def isAsciiAlnum (c : Char) : Bool :=
  ('a' ≤ c && c ≤ 'z') || ('A' ≤ c && c ≤ 'Z') || ('0' ≤ c && c ≤ '9')

def isContainerNameChar (c : Char) : Bool := isAsciiAlnum c || c ∈ ['_', '.', '-']

/-- `_CONTAINER_NAME_RE.sub("-", s)`. -/
def subContainerName (l : List Char) : List Char :=
  PyText.subRuns (fun c => !isContainerNameChar c) '-' false l

/-- `_sanitize_container_name`. -/
def sanitizeContainerName (workspaceId : String) : String :=
  let raw := subContainerName (PyText.strip workspaceId).toList
  let raw := match raw with
    | [] => "workspace".toList
    | c :: l => if isAsciiAlnum c then c :: l else 'w' :: c :: l
  String.ofList (("devnest-ws-".toList ++ raw).take 120)

/-- `_parse_topology_workspace_id`. -/
def parseTopologyWorkspaceId (workspaceId : String) : Except String Int :=
  match PyText.parseInt (PyText.strip workspaceId) with
  | none =>
      .error ("workspace_id must be a base-10 integer for V1 topology allocation: "
        ++ PyText.repr workspaceId)
  | some v => if v < 0 then .error s!"workspace_id must be non-negative: {v}" else .ok v

/-- The reference the container goes by until it is inspected. -/
def deleteContainerRef (workspaceId : String) (containerId : Option String) : String :=
  if PyText.stripOr containerId ≠ "" then PyText.stripOr containerId
  else sanitizeContainerName (PyText.strip workspaceId)

/-- `_delete_detach_topology_best_effort`: whether it was detached, and the
issues. -/
def deleteDetachTopologyBestEffort (detach : DetachOutcome) (issues : List String) :
    Except String (Bool × List String) :=
  match detach with
  | .done detached => .ok (detached, issues)
  | .topologyError e => .ok (false, issues ++ ["topology:detach_failed:" ++ e])
  | .otherError e => .error ("unexpected detach failure: " ++ e)

/-- `_delete_container_best_effort`: whether the container was deleted, and the
issues. -/
def deleteContainerBestEffort (timeout : Nat) (h : Host) (containerId : Option String)
    (issues : List String) : (Bool × List String) × Host :=
  match containerId with
  | none => ((false, issues ++ ["runtime:container_id_missing"]), h)
  | some cid =>
      match deleteContainer timeout h cid with
      | (.ok res, h) =>
          ((res.success, if res.success then issues else issues ++ ["runtime:delete_failed:"
            ++ res.message.getD "delete_container returned success=False"]), h)
      | (.error (.containerNotFound _), h) => ((true, issues), h)
      | (.error e, h) => ((false, issues ++ ["runtime:delete_failed:" ++ e.text]), h)

/-- `_delete_topology_runtime_best_effort`: whether it was deleted, and the
issues. -/
def deleteTopologyRuntimeBestEffort (delete : DeleteTopologyOutcome) (issues : List String) :
    Except String (Bool × List String) :=
  match delete with
  | .done => .ok (true, issues)
  | .deleteError e => .ok (false, issues ++ ["topology:delete_failed:" ++ e])
  | .otherError e => .error ("unexpected topology delete failure: " ++ e)

/-- `delete_workspace_runtime`. The topology service sends no `docker`
commands. -/
def deleteWorkspaceRuntime (strict : Bool) (timeout : Nat) (h : Host) (topology : TopologyService)
    (workspaceId : String) (containerId : Option String) :
    Outcome String WorkspaceDeleteResult × Host :=
  if PyText.strip workspaceId = "" then (.raised "workspace_id is empty", h)
  else if strict && PyText.stripOr containerId = "" then
    (.returned { success := false, containerDeleted := some false
                 issues := ["runtime:authoritative_container_id_required"] }, h)
  else
    let containerRef := deleteContainerRef workspaceId containerId
    match parseTopologyWorkspaceId (PyText.strip workspaceId) with
    | .error e => (.raised e, h)
    | .ok _ =>
        let (ins, h) := inspectContainer h containerRef
        let engineId := PyText.stripOrNone (some (ins.containerId.getD containerRef))
        match deleteDetachTopologyBestEffort topology.detachWorkspace [] with
        | .error e => (.raised e, h)
        | .ok (detached, issues) =>
            let ((deleted, issues), h) := deleteContainerBestEffort timeout h engineId issues
            match deleteTopologyRuntimeBestEffort topology.deleteTopology issues with
            | .error e => (.raised e, h)
            | .ok (topologyDeleted, issues) =>
                (.returned
                  { success := deleted && detached
                    containerDeleted := some deleted
                    topologyDetached := some detached
                    topologyDeleted := some topologyDeleted
                    containerId := engineId
                    issues := issuesOrNone issues }, h)

/-! ## What a deleted runtime leaves -/

theorem isSpace_of_containerNameChar {c : Char} (h : isContainerNameChar c = true) :
    PyText.isSpace c = false := by
  rw [← Bool.not_eq_true]
  intro hs
  have hval : c.val.toNat = c.toNat := rfl
  have hends : 'a'.val.toNat = 97 ∧ 'z'.val.toNat = 122 ∧ 'A'.val.toNat = 65
      ∧ 'Z'.val.toNat = 90 ∧ '0'.val.toNat = 48 ∧ '9'.val.toNat = 57 := by decide
  simp only [isContainerNameChar, isAsciiAlnum, Bool.or_eq_true, Bool.and_eq_true,
    decide_eq_true_eq, Char.le_def, UInt32.le_iff_toNat_le, List.mem_cons, List.not_mem_nil,
    or_false] at h
  simp only [PyText.isSpace, Bool.or_eq_true, Bool.and_eq_true, decide_eq_true_eq, List.mem_cons,
    List.not_mem_nil, or_false] at hs
  rcases h with h | rfl | rfl | rfl
  · omega
  all_goals
    revert hs
    decide

theorem subContainerName_chars {c : Char} {l : List Char} (h : c ∈ subContainerName l) :
    isContainerNameChar c = true := by
  rcases PyText.mem_subRuns h with rfl | ⟨-, hc⟩
  · decide
  · simpa using hc

theorem sanitizeContainerName_trimmed (wid : String) :
    sanitizeContainerName wid ≠ "" ∧ PyText.strip (sanitizeContainerName wid)
      = sanitizeContainerName wid := by
  unfold sanitizeContainerName
  simp only
  generalize hraw : (match subContainerName (PyText.strip wid).toList with
    | [] => "workspace".toList
    | c :: l => if isAsciiAlnum c then c :: l else 'w' :: c :: l) = raw
  have hchars : ∀ c ∈ raw, isContainerNameChar c = true := by
    subst hraw
    have hsub : ∀ c ∈ subContainerName (PyText.strip wid).toList, isContainerNameChar c = true :=
      fun _ hc => subContainerName_chars hc
    split
    · exact List.all_eq_true.mp (by decide)
    · rename_i d l heq
      rw [heq] at hsub
      intro c hc
      split_ifs at hc
      · exact hsub c hc
      · rcases List.mem_cons.mp hc with rfl | hc
        · decide
        · exact hsub c hc
  constructor
  · intro hempty
    have hl := congrArg String.toList hempty
    rw [String.toList_ofList] at hl
    cases hl
  · rw [PyText.strip, String.toList_ofList, PyText.stripChars_of_no_space]
    intro c hc
    refine isSpace_of_containerNameChar ?_
    have hdevnest : ∀ c ∈ "devnest-ws-".toList, isContainerNameChar c = true :=
      List.all_eq_true.mp (by decide)
    rcases List.mem_append.mp (List.mem_of_mem_take hc) with hc | hc
    · exact hdevnest c hc
    · exact hchars c hc

theorem deleteContainerRef_trimmed (workspaceId : String) (containerId : Option String) :
    deleteContainerRef workspaceId containerId ≠ ""
      ∧ PyText.strip (deleteContainerRef workspaceId containerId)
        = deleteContainerRef workspaceId containerId := by
  unfold deleteContainerRef
  split_ifs with hcid
  · exact ⟨hcid, PyText.strip_strip _⟩
  · exact sanitizeContainerName_trimmed _

/-- Whatever the inspection shows, the id that is deleted names the container
of the reference. -/
theorem engineId_resolve (e : Engine) (seen : Prop) [Decidable seen] {ref : String}
    (href : ref ≠ "" ∧ PyText.strip ref = ref) :
    ∃ cid, PyText.stripOrNone (some ((if seen then e.view ref else
        inspectionNotFound).containerId.getD ref)) = some cid ∧ e.resolve cid = e.resolve ref := by
  have hnone : PyText.stripOrNone (some ref) = some ref := by
    simp [PyText.stripOrNone, PyText.stripOr, href]
  have hmissing : inspectionNotFound.containerId.getD ref = ref := rfl
  split_ifs
  · cases hf : e.find ref with
    | none =>
        rw [view_absent hf, hmissing]
        exact ⟨ref, hnone, rfl⟩
    | some c =>
        obtain ⟨id, hid, -⟩ := Engine.resolve_of_find hf
        obtain ⟨hne, htrim⟩ := e.id_trimmed hid
        refine ⟨id, ?_, by rw [hid, e.resolve_id hid]⟩
        simp [Engine.view, hf, hid, PyText.stripOrNone, PyText.stripOr, htrim, hne]
  · rw [hmissing]
    exact ⟨ref, hnone, rfl⟩

theorem runnerRun_resolve (h : Host) (cmd : DockerCommand) :
    (runnerRun h cmd).2.engine.resolve = h.engine.resolve := by
  cases hf : h.engine.find cmd.ref with
  | none =>
      obtain ⟨text, hrun⟩ := runnerRun_absent cmd hf
      rw [hrun]
      rfl
  | some c =>
      rcases runnerRun_found cmd hf with ⟨effect, text, -, hrun⟩ | ⟨-, out, hrun⟩
      · rw [hrun]
        cases effect
        · rfl
        · exact cmd.apply_resolve h.engine
      · rw [hrun]
        exact cmd.apply_resolve h.engine

theorem removeContainer_resolve (h : Host) (cid : String) :
    (removeContainer h cid).2.engine.resolve = h.engine.resolve := by
  rw [← runnerRun_resolve h (.rmForce cid), removeContainer]
  rcases runnerRun h (.rmForce cid) with ⟨_ | _, h⟩ <;> rfl

theorem stopAndRemove_resolve (timeout : Nat) (h : Host) (live : ContainerInspectionResult)
    (cid : String) : (stopAndRemove timeout h live cid).2.engine.resolve = h.engine.resolve := by
  unfold stopAndRemove
  split_ifs
  · have hres := runnerRun_resolve h (.stop timeout cid)
    rcases hrun : runnerRun h (.stop timeout cid) with ⟨_ | _, h'⟩
    · rwa [hrun] at hres
    · rw [hrun] at hres
      exact (removeContainer_resolve h' cid).trans hres
  · exact removeContainer_resolve h cid

theorem finishDelete_resolve (cid known : String)
    (r : Except RuntimeAdapterError (Except String Unit) × Host) :
    (finishDelete cid known r).2.engine.resolve = r.2.engine.resolve := by
  rcases r with ⟨_ | _ | _, h⟩
  · rfl
  · simp only [finishDelete, inspectContainer_eq]
    split_ifs <;> rfl
  · simp only [finishDelete, inspectContainer_eq]
    split_ifs <;> rfl

/-- No command changes which container a reference names. -/
theorem deleteContainer_resolve (timeout : Nat) (h : Host) (cid : String) :
    (deleteContainer timeout h cid).2.engine.resolve = h.engine.resolve := by
  simp only [deleteContainer, inspectContainer_eq]
  generalize (if h.Seen 0 then h.engine.view cid else inspectionNotFound) = ins
  generalize (if h.sent.Seen 0 then h.sent.engine.view cid else inspectionNotFound) = live
  split_ifs
  · rfl
  · rfl
  · rw [finishDelete_resolve, stopAndRemove_resolve]
    rfl

theorem find_congr {e : Engine} {r r' : String} (h : e.resolve r = e.resolve r') :
    e.find r = e.find r' := by
  rw [Engine.find, Engine.find, h]

/-- A delete never raises `ContainerNotFoundError`. -/
theorem deleteContainer_not_notFound {timeout : Nat} {h h' : Host} {cid text : String} :
    deleteContainer timeout h cid ≠ (.error (.containerNotFound text), h') := by
  simp only [deleteContainer, inspectContainer_eq]
  generalize (if h.Seen 0 then h.engine.view cid else inspectionNotFound) = ins
  generalize (if h.sent.Seen 0 then h.sent.engine.view cid else inspectionNotFound) = live
  split_ifs
  · simp
  · simp
  · unfold stopAndRemove
    have hremove : ∀ (h₁ : Host) (known : String),
        finishDelete cid known (removeContainer h₁ cid) ≠ (.error (.containerNotFound text), h') := by
      intro h₁ known
      rw [removeContainer]
      rcases runnerRun h₁ (.rmForce cid) with ⟨_ | _, h₂⟩ <;>
        simp only [finishDelete, inspectContainer_eq] <;> split_ifs <;> simp
    split_ifs
    · rcases runnerRun h.sent.sent (.stop timeout cid) with ⟨_ | _, h₁⟩
      · simp [finishDelete]
      · exact hremove _ _
    · exact hremove _ _

/-- The best effort reports what the delete reports. -/
theorem deleteContainerBestEffort_eq (timeout : Nat) (h : Host) (cid : String)
    (issues : List String) :
    ∃ deleted issues', deleteContainerBestEffort timeout h (some cid) issues
        = ((deleted, issues'), (deleteContainer timeout h cid).2)
      ∧ (deleted = true ↔ ∃ res, (deleteContainer timeout h cid).1 = .ok res
        ∧ res.success = true) := by
  rw [deleteContainerBestEffort]
  rcases hdel : deleteContainer timeout h cid with ⟨e | res, h'⟩
  · cases e with
    | containerNotFound text => exact absurd hdel deleteContainer_not_notFound
    | containerStop text => exact ⟨_, _, rfl, by simp⟩
    | containerDelete text => exact ⟨_, _, rfl, by simp⟩
  · exact ⟨_, _, rfl, by simp⟩

/-- A report of a deleted container leaves no container under the reference
that was deleted. -/
def DeleteRuntimeHonest (strict : Bool) (timeout : Nat) (h : Host) (topology : TopologyService)
    (workspaceId : String) (containerId : Option String) : Prop :=
  ∀ res h', deleteWorkspaceRuntime strict timeout h topology workspaceId containerId
      = (.returned res, h') → res.containerDeleted = some true →
    h'.engine.find (deleteContainerRef workspaceId containerId) = none

/-- The call gets as far as the container, and returns. -/
def ReachesDelete (strict : Bool) (topology : TopologyService) (workspaceId : String)
    (containerId : Option String) : Prop :=
  PyText.strip workspaceId ≠ "" ∧ (strict && PyText.stripOr containerId = "") = false
    ∧ (parseTopologyWorkspaceId (PyText.strip workspaceId)).isOk = true
    ∧ (∀ text, topology.detachWorkspace ≠ .otherError text)
    ∧ ∀ text, topology.deleteTopology ≠ .otherError text

theorem deleteDetachTopologyBestEffort_ok {detach : DetachOutcome} (issues : List String) :
    (∃ r, deleteDetachTopologyBestEffort detach issues = .ok r)
      ↔ ∀ text, detach ≠ .otherError text := by
  cases detach <;> simp [deleteDetachTopologyBestEffort]

theorem deleteTopologyRuntimeBestEffort_ok {delete : DeleteTopologyOutcome}
    (issues : List String) :
    (∃ r, deleteTopologyRuntimeBestEffort delete issues = .ok r)
      ↔ ∀ text, delete ≠ .otherError text := by
  cases delete <;> simp [deleteTopologyRuntimeBestEffort]

/-- A call that gets as far as the container reports what its delete reports. -/
theorem deleteWorkspaceRuntime_reaches {strict : Bool} (timeout : Nat) (h : Host)
    {topology : TopologyService} {workspaceId : String} {containerId : Option String}
    (hreach : ReachesDelete strict topology workspaceId containerId) :
    ∃ cid res, h.engine.resolve cid = h.engine.resolve (deleteContainerRef workspaceId containerId)
      ∧ deleteWorkspaceRuntime strict timeout h topology workspaceId containerId
        = (.returned res, (deleteContainer timeout h.sent cid).2)
      ∧ (res.containerDeleted = some true ↔ ∃ r, (deleteContainer timeout h.sent cid).1 = .ok r
        ∧ r.success = true) := by
  obtain ⟨hwid, hstrict, hparse, hdetach, htopology⟩ := hreach
  obtain ⟨cid, hcid, hresolve⟩ := engineId_resolve h.engine (h.Seen 0)
    (deleteContainerRef_trimmed workspaceId containerId)
  obtain ⟨⟨detached, issues⟩, hdet⟩ :=
    (deleteDetachTopologyBestEffort_ok []).mpr hdetach
  obtain ⟨deleted, issues', hbest, hiff⟩ :=
    deleteContainerBestEffort_eq timeout h.sent cid issues
  obtain ⟨⟨topologyDeleted, issues''⟩, htop⟩ :=
    (deleteTopologyRuntimeBestEffort_ok issues').mpr htopology
  cases hp : parseTopologyWorkspaceId (PyText.strip workspaceId) with
  | error e =>
      rw [hp] at hparse
      cases hparse
  | ok v =>
      refine ⟨cid, ⟨deleted && detached, some deleted, some detached, some topologyDeleted, some cid,
        issuesOrNone issues''⟩, hresolve, ?_, ?_⟩
      · simp only [deleteWorkspaceRuntime, if_neg hwid, hstrict, Bool.false_eq_true, if_false, hp,
          inspectContainer_eq, hcid, hdet, hbest, htop]
      · simpa using hiff

/-- A call that does not get that far reports no deleted container. -/
theorem deleteWorkspaceRuntime_stops {strict : Bool} {timeout : Nat} {h h' : Host}
    {topology : TopologyService} {workspaceId : String} {containerId : Option String}
    {res : WorkspaceDeleteResult}
    (hres : deleteWorkspaceRuntime strict timeout h topology workspaceId containerId
      = (.returned res, h')) (hdeleted : res.containerDeleted = some true) :
    ReachesDelete strict topology workspaceId containerId := by
  unfold deleteWorkspaceRuntime at hres
  split_ifs at hres with hwid hstrict
  · cases hres
  · cases hres
    cases hdeleted
  · simp only at hres
    cases hp : parseTopologyWorkspaceId (PyText.strip workspaceId) with
    | error e =>
        rw [hp] at hres
        cases hres
    | ok v =>
        simp only [hp] at hres
        cases hdet : deleteDetachTopologyBestEffort topology.detachWorkspace [] with
        | error e =>
            simp only [hdet] at hres
            cases hres
        | ok r =>
            simp only [hdet] at hres
            split at hres
            · cases hres
            · rename_i htop
              exact ⟨hwid, by simpa using hstrict, by rw [hp]; rfl,
                (deleteDetachTopologyBestEffort_ok []).mp ⟨r, hdet⟩,
                (deleteTopologyRuntimeBestEffort_ok _).mp ⟨_, htop⟩⟩

theorem deleteRuntime_honest_iff (strict : Bool) (timeout : Nat) (h : Host)
    (topology : TopologyService) (workspaceId : String) (containerId : Option String) :
    DeleteRuntimeHonest strict timeout h topology workspaceId containerId
      ↔ (ReachesDelete strict topology workspaceId containerId →
        ∀ c, h.engine.find (deleteContainerRef workspaceId containerId) = some c →
          h.sent.DeleteSeen c) := by
  by_cases hreach : ReachesDelete strict topology workspaceId containerId
  · obtain ⟨cid, res, hresolve, hcall, hiff⟩ := deleteWorkspaceRuntime_reaches timeout h hreach
    have hafter : (deleteContainer timeout h.sent cid).2.engine.find
        (deleteContainerRef workspaceId containerId)
        = (deleteContainer timeout h.sent cid).2.engine.find cid := by
      refine find_congr ?_
      rw [deleteContainer_resolve]
      exact hresolve.symm
    have hdelete : DeleteRuntimeHonest strict timeout h topology workspaceId containerId
        ↔ DeleteHonest timeout h.sent cid := by
      unfold DeleteRuntimeHonest DeleteHonest
      rw [hcall]
      constructor
      · intro hhonest r h' hr hsuccess
        rw [hr] at hhonest hiff hafter
        rw [← hafter]
        exact hhonest res h' rfl (hiff.mpr ⟨r, rfl, hsuccess⟩)
      · rintro hhonest res' h' hres hdeleted
        cases hres
        obtain ⟨r, hr, hsuccess⟩ := hiff.mp hdeleted
        rw [hafter]
        exact hhonest r _ (Prod.ext hr rfl) hsuccess
    rw [hdelete, delete_honest_iff, ← find_congr hresolve]
    simp [hreach]
  · refine iff_of_true (fun res h' hres hdeleted => ?_) fun h' => absurd h' hreach
    exact absurd (deleteWorkspaceRuntime_stops hres hdeleted) hreach

/-- A reported success is true exactly when the answers it rests on came
back. A stop of a running container needs both inspections before it; a
delete needs them too, and it needs an answer from the removal or from the
inspection after it. The first inspection of `delete_workspace_runtime` only
picks the id. -/
theorem remote_success_honest_iff (strict : Bool) (timeout : Nat) (h : Host) (cid : String)
    (topology : TopologyService) (workspaceId : String) (containerId : Option String) :
    (StopHonest timeout h cid ↔ (h.engine.Running cid → h.Seen 0 ∧ h.Seen 1))
      ∧ (DeleteHonest timeout h cid ↔ ∀ c, h.engine.find cid = some c → h.DeleteSeen c)
      ∧ (DeleteRuntimeHonest strict timeout h topology workspaceId containerId
        ↔ (ReachesDelete strict topology workspaceId containerId →
          ∀ c, h.engine.find (deleteContainerRef workspaceId containerId) = some c →
            h.sent.DeleteSeen c)) :=
  ⟨stop_honest_iff timeout h cid, delete_honest_iff timeout h cid,
    deleteRuntime_honest_iff strict timeout h topology workspaceId containerId⟩

/-- One running container, under its id and its name. -/
def sampleEngine : Engine where
  resolve r := if r = "4f1c" ∨ r = "devnest-ws-7" then some "4f1c" else none
  containers id := if id = "4f1c" then some ⟨.running, false⟩ else none
  resolve_id := by
    intro r i h
    split_ifs at h
    cases h
    rfl
  id_trimmed := by
    intro r i h
    split_ifs at h
    cases h
    decide

/-- No command reaches the host. -/
def unreachableHost : Host := ⟨sampleEngine, fun _ => .raised false "TimedOut", 0⟩

/-- On an unreachable host every stop and every delete of the running
container succeeds. -/
theorem unreachable_reports_success :
    ¬ StopHonest 10 unreachableHost "4f1c" ∧ ¬ DeleteHonest 10 unreachableHost "4f1c"
      ∧ ¬ DeleteRuntimeHonest true 10 unreachableHost ⟨.done true, .done⟩ "7" (some "4f1c") := by
  have hfind : sampleEngine.find "4f1c" = some ⟨.running, false⟩ := by decide
  have hrunning : sampleEngine.Running "4f1c" := ⟨_, hfind, rfl⟩
  refine ⟨fun hhonest => ?_, fun hhonest => ?_, fun hhonest => ?_⟩
  · exact hhonest (missing "4f1c") unreachableHost.sent rfl rfl hrunning
  · have hnone := hhonest (missing "4f1c") unreachableHost.sent rfl rfl
    rw [Host.sent_engine] at hnone
    cases hfind.symm.trans hnone
  · have hnone := hhonest _ unreachableHost.sent.sent rfl rfl
    rw [Host.sent_engine, Host.sent_engine] at hnone
    cases hfind.symm.trans hnone

end Devnest
