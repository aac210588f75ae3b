import Devnest.ContainerEngine

/-!
# The config label after an update

An update to version `v` restarts the workspace unless its container already
carries the label `v`. The restart stops the container and brings the workspace
up again, and `ensure_container` takes the stopped container back if the mounts
still fit, with the label it was created with. Only a container created anew
carries `v`; `update_restart_label_iff` is the exact condition.
-/

namespace Devnest

open PyText

/-! ## Labels -/

/-- The label `devnest.config_version` of a container, as a number. -/
def WorkspaceContainer.configLabel (c : WorkspaceContainer) : Option Int :=
  (c.labels.lookup configVersionLabel).bind parseInt

/-- The version an update reads off the container. -/
def WorkspaceContainer.configVersion (c : WorkspaceContainer) : Int := max 0 (c.configLabel.getD 0)

theorem configVersion_inspect {e : DockerEngine} {ref i : String} {c : WorkspaceContainer}
    (h : e.get ref = some (i, c)) :
    configVersionFromInspection (inspectOnEngine e ref) = c.configVersion := by
  simp only [inspectOnEngine, h, configVersionFromInspection, WorkspaceContainer.configVersion,
    WorkspaceContainer.configLabel, Bool.not_true, if_neg Bool.false_ne_true]
  cases c.labels.lookup configVersionLabel with
  | none => rfl
  | some raw => rfl

theorem configLabel_congr {c d : WorkspaceContainer} (h : c.labels = d.labels) :
    c.configLabel = d.configLabel := by
  unfold WorkspaceContainer.configLabel
  rw [h]

/-- A container created for version `v` carries the label `v`. -/
theorem configLabel_of_created {c : WorkspaceContainer} {wid : Nat} {v : Int}
    (h : c.labels = bringUpLabels wid (some v)) : c.configLabel = some v := by
  unfold WorkspaceContainer.configLabel
  rw [h, bringUpLabels, AList.lookup_insert, Option.bind_some, parseInt_toString]

/-! ## What a restart does to the label -/

/-- The container a restart would bring up again. -/
def RestartAnswers.reused (ans : RestartAnswers) (e : DockerEngine) (wid : Nat) (v : Int) :
    Option WorkspaceContainer :=
  ans.bringUp.reused e (restartRequest wid (some v) ans)

/-- A restart is a stop, which keeps every container, and a bring-up. -/
theorem restart_success {env : OrchestratorEnv} {e e' : DockerEngine} {ans : RestartAnswers}
    {wid : Nat} {containerId : Option String} {v : Option Int}
    {stop : Outcome String WorkspaceStopResult}
    {up : Outcome WorkspaceBringUpError WorkspaceBringUpResult} {r : WorkspaceRestartResult}
    (h : restartCalls env e ans wid containerId v = (e', stop, up))
    (hr : restartWorkspaceRuntime env.nodeId env.topologyId stop up = .returned r)
    (hs : r.success = true) :
    ∃ e₁ res, SameContainers e e₁ ∧
      bringUpOnEngine env e₁ (restartRequest wid v ans) ans.bringUp = (e', .returned res) ∧
      res.success = true ∧ r.containerId = res.containerId ∧
      r.nodeId = (res.nodeId.filter (· ≠ "")).or (some env.nodeId) ∧
      r.appliedCpuLimitCores = res.appliedCpuLimitCores ∧
      r.appliedMemoryLimitMib = res.appliedMemoryLimitMib ∧
      r.appliedPidsLimit = res.appliedPidsLimit := by
  unfold restartCalls at h
  have hsame := stopOnEngine_same env e ans.stop wid containerId false
  split at h
  rename_i e₁ stop₁ hstop
  rw [hstop] at hsame
  unfold restartWorkspaceRuntime at hr
  split at h
  · split at h
    rename_i e₂ up₁ hup
    obtain ⟨rfl, heq⟩ := Prod.mk.inj h
    obtain ⟨rfl, rfl⟩ := Prod.mk.inj heq
    split at hr
    · cases hr
    · cases hr
    · split at hr
      · injection hr with hr
        subst hr
        cases hs
      · split at hr
        · cases hr
        · injection hr with hr
          subst hr
          cases hs
        · rename_i res
          injection hr with hr
          subst hr
          exact ⟨e₁, res, hsame, hup, hs, rfl, rfl, rfl, rfl, rfl⟩
  · rename_i hfail
    obtain ⟨rfl, heq⟩ := Prod.mk.inj h
    obtain ⟨rfl, rfl⟩ := Prod.mk.inj heq
    split at hr
    · cases hr
    · cases hr
    · rename_i stopRes
      have hfalse : (!stopRes.success) = true := by simpa [Outcome.result?] using hfail
      rw [if_pos hfalse] at hr
      injection hr with hr
      subst hr
      cases hs

/-- The container a successful restart names has the labels and limits of the one it reused,
or those of a bring-up without overrides. -/
theorem restart_container {env : OrchestratorEnv} {e e' : DockerEngine} {ans : RestartAnswers}
    {wid : Nat} {containerId : Option String} {v : Option Int}
    {stop : Outcome String WorkspaceStopResult}
    {up : Outcome WorkspaceBringUpError WorkspaceBringUpResult} {r : WorkspaceRestartResult}
    (h : restartCalls env e ans wid containerId v = (e', stop, up))
    (hr : restartWorkspaceRuntime env.nodeId env.topologyId stop up = .returned r)
    (hs : r.success = true) :
    ∃ limits cid c, resolveBringupRuntimeLimitsTriplet env {} = .ok limits ∧
      r.appliedCpuLimitCores = some limits.cpuLimitCores ∧
      r.appliedMemoryLimitMib = some limits.memoryLimitMib ∧
      r.appliedPidsLimit = some limits.pidsLimit ∧ r.nodeId = some env.nodeId ∧
      r.containerId = some cid ∧ e'.containers.lookup cid = some c ∧
      c.labels = ((ans.bringUp.reused e (restartRequest wid v ans)).map (·.labels)).getD
        (bringUpLabels wid v) ∧
      c.quotas = ((ans.bringUp.reused e (restartRequest wid v ans)).map (·.quotas)).getD
        limits.quotas := by
  obtain ⟨e₁, res, hsame, hup, hres, hcid, hnode, hcpu, hmem, hpids⟩ := restart_success h hr hs
  obtain ⟨limits, cid, c, hlimits, hcpu', hmem', hpids', hnode', hid, hc, hlabels, hquotas, -⟩ :=
    bringUpOnEngine_success hup hres
  have hspec := ans.bringUp.reused_spec hsame (restartRequest wid v ans)
  have hkept : (ans.bringUp.reused e₁ (restartRequest wid v ans)).map (·.labels) =
        (ans.bringUp.reused e (restartRequest wid v ans)).map (·.labels) ∧
      (ans.bringUp.reused e₁ (restartRequest wid v ans)).map (·.quotas) =
        (ans.bringUp.reused e (restartRequest wid v ans)).map (·.quotas) := by
    cases hold : ans.bringUp.reused e (restartRequest wid v ans) with
    | none =>
        rw [hold, Option.map_none, Option.map_eq_none_iff] at hspec
        rw [hspec]
        exact ⟨rfl, rfl⟩
    | some old =>
        rw [hold, Option.map_some, Option.map_eq_some_iff] at hspec
        obtain ⟨old₁, hold₁, hold_spec⟩ := hspec
        rw [hold₁]
        exact ⟨congrArg some (WorkspaceContainer.labels_of_spec hold_spec),
          congrArg some (WorkspaceContainer.quotas_of_spec hold_spec)⟩
  refine ⟨limits, cid, c, hlimits, hcpu.trans hcpu', hmem.trans hmem', hpids.trans hpids', ?_,
    hcid.trans hid, hc, hkept.1 ▸ hlabels, hkept.2 ▸ hquotas⟩
  rw [hnode, hnode', Option.filter_some]
  split <;> rfl

/-- The container a successful restart names carries the label it was created with: `v`
if it is new, and its old one otherwise. -/
theorem restart_label {env : OrchestratorEnv} {e e' : DockerEngine} {ans : RestartAnswers}
    {wid : Nat} {containerId : Option String} {v : Int} {stop : Outcome String WorkspaceStopResult}
    {up : Outcome WorkspaceBringUpError WorkspaceBringUpResult} {r : WorkspaceRestartResult}
    (h : restartCalls env e ans wid containerId (some v) = (e', stop, up))
    (hr : restartWorkspaceRuntime env.nodeId env.topologyId stop up = .returned r)
    (hs : r.success = true) :
    ∃ cid c, r.containerId = some cid ∧ e'.containers.lookup cid = some c ∧
      match ans.reused e wid v with
      | some old => c.configLabel = old.configLabel
      | none => c.configLabel = some v := by
  obtain ⟨limits, cid, c, -, -, -, -, -, hid, hc, hlabels, -⟩ := restart_container h hr hs
  refine ⟨cid, c, hid, hc, ?_⟩
  unfold RestartAnswers.reused
  split
  · rename_i old hold
    rw [hold] at hlabels
    exact configLabel_congr hlabels
  · rename_i hold
    rw [hold] at hlabels
    exact configLabel_of_created hlabels

/-! ## Convergence -/

/-- The update's container reads version `v`, and the same update again only probes it. -/
def UpdateConverged (env : OrchestratorEnv) (e : DockerEngine) (wid : Nat) (v : Int)
    (containerId : Option String) : Prop :=
  ∃ cid, containerId = some cid ∧
    configVersionFromInspection (inspectOnEngine e cid) = v ∧
    ∀ ans : UpdateAnswers, ans.inspectError = none →
      updateOnEngine env e ans wid (some cid) v =
        (e, updateWorkspaceRuntimeNoop env.nodeId env.topologyId (inspectOnEngine e cid) cid v v
          ans.probe)

/-- A container labelled `v` makes the next update to `v` a no-op. -/
theorem update_noop_of_version {env : OrchestratorEnv} {e : DockerEngine} {wid : Nat} {v : Int}
    {cid : String} {c : WorkspaceContainer} (hc : e.containers.lookup cid = some c) (hv : 0 ≤ v)
    (hversion : configVersionFromInspection (inspectOnEngine e cid) = v) {ans : UpdateAnswers}
    (hins : ans.inspectError = none) :
    updateOnEngine env e ans wid (some cid) v =
      (e, updateWorkspaceRuntimeNoop env.nodeId env.topologyId (inspectOnEngine e cid) cid v v
        ans.probe) := by
  obtain ⟨hne, htrim⟩ := e.id_trimmed hc
  have hstrip : stripOr (some cid) = cid := htrim
  have href : containerRef wid (some cid) = cid := by
    rw [containerRef, hstrip, if_neg hne]
  have hstay : updateRestarts env e ans wid (some cid) v = false := by
    simp [updateRestarts, href, hversion]
  have hneg : ¬ v < 0 := by omega
  have hblank : (placementStrictEnforced env.cfg && decide (cid = "")) = false := by simp [hne]
  unfold updateOnEngine
  simp only [hstay, hins, href, updateWorkspaceRuntime, hstrip, if_neg hneg, hblank, if_neg hne,
    hversion, if_neg Bool.false_ne_true, if_true]

/-- What the no-op branch returns says so. -/
theorem noOp_of_updateWorkspaceRuntimeNoop {nid ref : String} {tid requested current : Int}
    {ins : ContainerInspection} {probe : Except String HealthProbe} {r : WorkspaceUpdateResult}
    (h : updateWorkspaceRuntimeNoop nid tid ins ref requested current probe = .returned r) :
    r.noOp = true := by
  unfold updateWorkspaceRuntimeNoop at h
  dsimp only at h
  split at h
  · injection h with h
    exact h ▸ rfl
  · split at h
    · injection h with h
      exact h ▸ rfl
    · split at h
      · injection h with h
        exact h ▸ rfl
      · split at h
        · cases h
        · injection h with h
          exact h ▸ rfl

/-- An update that goes past the no-op branch does not report one. -/
theorem noOp_of_updateRestarts {env : OrchestratorEnv} {e e' : DockerEngine} {ans : UpdateAnswers}
    {wid : Nat} {containerId : Option String} {v : Int} {r : WorkspaceUpdateResult}
    (h : updateOnEngine env e ans wid containerId v = (e', .returned r))
    (hgo : updateRestarts env e ans wid containerId v = true) : r.noOp = false := by
  simp only [updateRestarts, Bool.and_eq_true, decide_eq_true_eq, Bool.not_eq_true',
    Option.isNone_iff_eq_none] at hgo
  obtain ⟨⟨⟨hv, hstrict⟩, hins⟩, hversion⟩ := hgo
  have hneg : ¬ v < 0 := by omega
  have hstrict' : ¬ (placementStrictEnforced env.cfg && decide (stripOr containerId = "")) = true := by
    simp [hstrict]
  unfold updateOnEngine at h
  obtain ⟨-, hr⟩ := Prod.mk.inj h
  simp only [hins, updateWorkspaceRuntime, if_neg hneg, if_neg hstrict'] at hr
  rw [if_neg hversion] at hr
  split at hr
  · cases hr
  · cases hr
  · injection hr with hr
    exact hr ▸ rfl

/-- An update that succeeded through a restart. -/
theorem update_success {env : OrchestratorEnv} {e e' : DockerEngine} {ans : UpdateAnswers}
    {wid : Nat} {containerId : Option String} {v : Int} {r : WorkspaceUpdateResult}
    (h : updateOnEngine env e ans wid containerId v = (e', .returned r)) (hs : r.success = true)
    (hnoop : r.noOp = false) :
    0 ≤ v ∧ ∃ stop up res, restartCalls env e ans.restart wid containerId (some v) = (e', stop, up) ∧
      restartWorkspaceRuntime env.nodeId env.topologyId stop up = .returned res ∧
      res.success = true ∧ r.containerId = res.containerId ∧ r.nodeId = res.nodeId ∧
      r.appliedCpuLimitCores = res.appliedCpuLimitCores ∧
      r.appliedMemoryLimitMib = res.appliedMemoryLimitMib ∧
      r.appliedPidsLimit = res.appliedPidsLimit := by
  unfold updateOnEngine at h
  generalize hcalls : restartCalls env e ans.restart wid containerId (some v) = calls at h
  obtain ⟨e₁, stop, up⟩ := calls
  dsimp only at h
  obtain ⟨he, hr⟩ := Prod.mk.inj h
  unfold updateWorkspaceRuntime at hr
  split at hr
  · cases hr
  · rename_i hneg
    split at hr
    · injection hr with hr
      subst hr
      cases hs
    · rename_i hstrict
      dsimp only at hr
      cases hins : ans.inspectError with
      | some m =>
          rw [hins] at hr
          cases hr
      | none =>
          rw [hins] at hr
          dsimp only at hr
          split at hr
          · rw [noOp_of_updateWorkspaceRuntimeNoop hr] at hnoop
            cases hnoop
          · rename_i hcurrent
            have hgo : updateRestarts env e ans wid containerId v = true := by
              simp only [updateRestarts, hins, Bool.and_eq_true, decide_eq_true_eq,
                Option.isNone_none, Bool.not_eq_true', and_true]
              refine ⟨⟨by omega, by simpa using hstrict⟩, ?_⟩
              exact hcurrent
            rw [if_pos hgo] at he
            subst he
            split at hr
            · cases hr
            · cases hr
            · rename_i res hres
              injection hr with hr
              subst hr
              exact ⟨by omega, stop, up, res, rfl, hres, hs, rfl, rfl, rfl, rfl, rfl⟩

/-- **Update convergence**: a successful update to `v` leaves a container that reads `v`,
and a successful restart for `v` one labelled `v`, exactly when no container was there to
be reused, or the one that was carried `v` already. -/
theorem update_restart_label_iff (env : OrchestratorEnv) (e : DockerEngine) (wid : Nat)
    (containerId : Option String) (v : Int) :
    (∀ (ans : UpdateAnswers) (e' : DockerEngine) (r : WorkspaceUpdateResult),
      updateOnEngine env e ans wid containerId v = (e', .returned r) → r.success = true →
      r.noOp = false →
      (UpdateConverged env e' wid v r.containerId ↔
        ∀ old, ans.restart.reused e wid v = some old → old.configVersion = v)) ∧
    (∀ (ans : RestartAnswers) (e' : DockerEngine) (r : WorkspaceRestartResult),
      restartOnEngine env e ans wid containerId (some v) = (e', .returned r) → r.success = true →
      ((∃ cid c, r.containerId = some cid ∧ e'.get cid = some (cid, c) ∧ c.configLabel = some v) ↔
        ∀ old, ans.reused e wid v = some old → old.configLabel = some v)) := by
  constructor
  · intro ans e' r h hs hnoop
    obtain ⟨hv, stop, up, res, hcalls, hres, hsucc, hid, -⟩ := update_success h hs hnoop
    obtain ⟨cid, c, hcid, hc, hlabel⟩ := restart_label hcalls hres hsucc
    have hinspect : configVersionFromInspection (inspectOnEngine e' cid) = c.configVersion :=
      configVersion_inspect (DockerEngine.get_of_lookup hc)
    have hconverged : UpdateConverged env e' wid v r.containerId ↔ c.configVersion = v := by
      constructor
      · rintro ⟨cid', hcid', hversion, -⟩
        obtain rfl := Option.some.inj ((hid.trans hcid).symm.trans hcid')
        exact hinspect.symm.trans hversion
      · intro hversion
        exact ⟨cid, hid.trans hcid, hinspect.trans hversion,
          fun ans' hins => update_noop_of_version hc hv (hinspect.trans hversion) hins⟩
    rw [hconverged]
    cases hold : ans.restart.reused e wid v with
    | none =>
        rw [hold] at hlabel
        refine iff_of_true ?_ (by simp)
        rw [WorkspaceContainer.configVersion, hlabel, Option.getD_some]
        omega
    | some old =>
        rw [hold] at hlabel
        have hsame : c.configVersion = old.configVersion := by
          unfold WorkspaceContainer.configVersion
          rw [hlabel]
        simp [hsame]
  · intro ans e' r h hs
    unfold restartOnEngine at h
    generalize hcalls : restartCalls env e ans wid containerId (some v) = calls at h
    obtain ⟨e₁, stop, up⟩ := calls
    obtain ⟨rfl, hr⟩ := Prod.mk.inj h
    obtain ⟨cid, c, hcid, hc, hlabel⟩ := restart_label hcalls hr hs
    have hlabelled : (∃ cid c, r.containerId = some cid ∧ e₁.get cid = some (cid, c) ∧
        c.configLabel = some v) ↔ c.configLabel = some v := by
      constructor
      · rintro ⟨cid', c', hcid', hc', hlabel'⟩
        obtain rfl := Option.some.inj (hcid.symm.trans hcid')
        obtain rfl := Option.some.inj (hc.symm.trans (DockerEngine.lookup_of_get hc'))
        exact hlabel'
      · intro hlabel'
        exact ⟨cid, c, hcid, DockerEngine.get_of_lookup hc, hlabel'⟩
    rw [hlabelled]
    cases hold : ans.reused e wid v with
    | none =>
        rw [hold] at hlabel
        exact iff_of_true hlabel (by simp)
    | some old =>
        rw [hold] at hlabel
        simp [hlabel]

/-- A bring-up on which everything works and a new container gets the id `id`. -/
def healthyBringUp (id : String) : BringUpAnswers where
  projectDir := fun _ => .returned "/srv/devnest/workspaces/7/project"
  codeServerMounts := .ok [⟨"/srv/devnest/workspaces/7/code-server/config",
    "/home/coder/.config/code-server", false⟩]
  engine := { createId := .ok id }
  probe := .ok { healthy := true, internalEndpoint := some "10.128.0.2:8080" }

/-- The engine after workspace 7 was created at version 1. -/
def createdEngine : DockerEngine :=
  (bringUpOnEngine {} .empty { wid := 7, requestedConfigVersion := some 1 }
    (healthyBringUp "c0ffee")).1

/-- What an update returned: success, no-op, container, and that container's version. -/
def endedWith : DockerEngine × Outcome String WorkspaceUpdateResult →
    Option (Bool × Bool × Option String × Int)
  | (e, .returned r) => some (r.success, r.noOp, r.containerId,
      configVersionFromInspection (inspectOnEngine e (r.containerId.getD "")))
  | (_, .raised _) | (_, .crashed) => none

/-- The container the row names is gone: the update creates one and converges. -/
theorem update_converges_on_new_container :
    ∃ e' r, updateOnEngine {} .empty { restart := { bringUp := healthyBringUp "c0ffee" } } 7
        (some "0ff1ce") 2 = (e', .returned r) ∧ r.success = true ∧ r.noOp = false ∧
      UpdateConverged {} e' 7 2 r.containerId := by
  have hout : endedWith (updateOnEngine {} .empty
      { restart := { bringUp := healthyBringUp "c0ffee" } } 7 (some "0ff1ce") 2) =
        some (true, false, some "c0ffee", 2) := by decide +kernel
  have hnone : (RestartAnswers.reused { bringUp := healthyBringUp "c0ffee" } .empty 7 2).isNone
      = true := by decide +kernel
  generalize hup : updateOnEngine {} .empty
    { restart := { bringUp := healthyBringUp "c0ffee" } } 7 (some "0ff1ce") 2 = out at hout
  obtain ⟨e', o⟩ := out
  cases o with
  | raised m => cases hout
  | crashed => cases hout
  | returned r =>
      simp only [endedWith, Option.some.injEq, Prod.mk.injEq] at hout
      obtain ⟨hs, hn, -, -⟩ := hout
      refine ⟨e', r, rfl, hs, hn, ?_⟩
      refine ((update_restart_label_iff {} .empty 7 (some "0ff1ce") 2).1 _ e' r hup hs hn).mpr ?_
      intro old hold
      rw [Option.isNone_iff_eq_none.mp hnone] at hold
      cases hold

/-- The update of the container created for version 1 to version 2 reports success and
leaves the label 1. -/
theorem update_keeps_old_label :
    ¬ ∀ (env : OrchestratorEnv) (e : DockerEngine) (ans : UpdateAnswers) (wid : Nat)
      (containerId : Option String) (v : Int) (e' : DockerEngine) (r : WorkspaceUpdateResult),
      updateOnEngine env e ans wid containerId v = (e', .returned r) → r.success = true →
      r.noOp = false → UpdateConverged env e' wid v r.containerId := by
  intro h
  have hout : endedWith (updateOnEngine {} createdEngine
      { restart := { bringUp := healthyBringUp "beef" } } 7 (some "c0ffee") 2) =
        some (true, false, some "c0ffee", 1) := by decide +kernel
  generalize hup : updateOnEngine {} createdEngine
    { restart := { bringUp := healthyBringUp "beef" } } 7 (some "c0ffee") 2 = out at hout
  obtain ⟨e', o⟩ := out
  cases o with
  | raised m => cases hout
  | crashed => cases hout
  | returned r =>
      simp only [endedWith, Option.some.injEq, Prod.mk.injEq] at hout
      obtain ⟨hs, hn, hid, hversion⟩ := hout
      obtain ⟨cid, hcid, hv, -⟩ := h _ _ _ _ _ _ e' r hup hs hn
      obtain rfl := Option.some.inj (hid.symm.trans hcid)
      rw [hid, Option.getD_some] at hversion
      rw [hversion] at hv
      cases hv

end Devnest
