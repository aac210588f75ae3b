import Devnest.AppliedLimits
import Devnest.Policies

/-!
# The image of a container

Four places have a say in the image of a workspace. `create_workspace` shows the
one its body names to the policies, `request_update_workspace` shows none,
both store it in the config row, and the orchestrator starts containers from the
image of the settings, whatever the row says.

`CreatesOnly` is what the calls of a job do to an engine: each container is one
that was there or has the image of the settings, and it is new only if the
bring-up found none to reuse. So the image policy governs a run exactly as
far as the image of the settings meets it wherever a bring-up creates
(`image_policy_holds`). As in `AppliedLimits`, the engines of the steps are those
behind `DockerRuntimeAdapter`.
-/

namespace Devnest

open PyText Runs

/-! ## What a job creates -/

/-- Every container of `e'` is one of `e` up to its state; or it has the image, and `q` holds. -/
def CreatesOnly (image : String) (q : Prop) (e e' : DockerEngine) : Prop :=
  ∀ i c, e'.containers.lookup i = some c →
    (e.containers.lookup i).map (·.spec) = some c.spec ∨ c.image = image ∧ q

section Creates

variable {image : String} {q : Prop} {e e' e'' : DockerEngine}

theorem CreatesOnly.of_same (h : SameContainers e e') : CreatesOnly image q e e' := by
  intro i c hc
  have hi := h i
  rw [hc] at hi
  exact .inl hi.symm

theorem CreatesOnly.refl (e : DockerEngine) : CreatesOnly image q e e := .of_same (.refl e)

theorem CreatesOnly.trans (h : CreatesOnly image q e e') (h' : CreatesOnly image q e' e'') :
    CreatesOnly image q e e'' := by
  intro i c hc
  rcases h' i c hc with hold | hnew
  · obtain ⟨d, hd, hspec⟩ := Option.map_eq_some_iff.mp hold
    rw [← hspec]
    refine (h i d hd).imp_right fun ⟨himage, hq⟩ => ⟨?_, hq⟩
    rw [← himage]
    exact WorkspaceContainer.image_of_spec hspec.symm
  · exact .inr hnew

theorem CreatesOnly.mono {q' : Prop} (h : CreatesOnly image q e e') (hq : q → q') :
    CreatesOnly image q' e e' :=
  fun i c hc => (h i c hc).imp_right fun ⟨himage, hq'⟩ => ⟨himage, hq hq'⟩

theorem CreatesOnly.remove (e : DockerEngine) (id : String) :
    CreatesOnly image q e (e.remove id) := by
  intro i c hc
  change (e.containers.erase id).lookup i = some c at hc
  by_cases hi : i = id
  · subst hi
    rw [AList.lookup_erase] at hc
    cases hc
  · rw [AList.lookup_erase_ne hi] at hc
    exact .inl (by rw [hc]; rfl)

theorem CreatesOnly.create {id : String} {c : WorkspaceContainer} (h : e.create id c = .ok e')
    (himage : c.image = image) (hq : q) : CreatesOnly image q e e' := by
  unfold DockerEngine.create at h
  split at h
  · obtain rfl := Except.ok.inj h
    intro i d hd
    change (e.containers.insert id c).lookup i = some d at hd
    rw [Table.lookup_insert_eq] at hd
    split at hd
    · obtain rfl := Option.some.inj hd
      exact .inr ⟨himage, hq⟩
    · exact .inl (by rw [hd]; rfl)
  · cases h

end Creates

namespace DockerRuntimeAdapter

theorem createContainer_creates {q : Prop} (hq : q) (e : DockerEngine) (ans : EngineAnswers)
    (req : ContainerRequest) :
    CreatesOnly (resolveImage req.image) q e (createContainer e ans req).1 := by
  unfold createContainer
  split
  · exact .refl e
  · split
    · exact .refl e
    · split
      · exact .refl e
      · split
        · exact .refl e
        · split
          · exact .refl e
          · exact .refl e
          · exact .refl e
          · split
            · exact .refl e
            · rename_i hcreate
              exact .create hcreate rfl hq

/-- `ensure_container` creates from the request, and only where it can reuse nothing. -/
theorem ensureContainer_creates (e : DockerEngine) (ans : EngineAnswers) {req : ContainerRequest}
    (hrid : stripOr req.existingContainerId = "") :
    CreatesOnly (resolveImage req.image)
      (reusable e req.name req.workspaceHostPath req.extraBindMounts = none) e
      (ensureContainer e ans req).1 := by
  have hexisting : existingContainer e req = e.get req.name := by
    simp [existingContainer, hrid]
  unfold ensureContainer
  rw [hexisting]
  split
  · exact .refl e
  · cases hg : e.get req.name with
    | none => exact createContainer_creates (by simp [reusable, hg]) e ans req
    | some p =>
        obtain ⟨i, c⟩ := p
        dsimp only
        cases hreq : requestedBindSignatures req.workspaceHostPath req.extraBindMounts with
        | error m => exact .refl e
        | ok requested =>
            dsimp only
            by_cases hdiff : bindsDiffer requested c = true
            · rw [if_pos hdiff]
              have hnone : reusable e req.name req.workspaceHostPath req.extraBindMounts
                  = none := by
                simp [reusable, hg, mountsFit, hreq, hdiff]
              split
              · exact .refl e
              · exact (CreatesOnly.remove e i).trans (createContainer_creates hnone _ ans req)
            · rw [if_neg hdiff]
              exact .refl e

theorem ensureRunningRuntimeOnly_creates (e : DockerEngine) (ans : EngineAnswers)
    {req : ContainerRequest} (hrid : stripOr req.existingContainerId = "") :
    CreatesOnly (resolveImage req.image)
      (reusable e req.name req.workspaceHostPath req.extraBindMounts = none) e
      (ensureRunningRuntimeOnly e ans req).1 := by
  have hensure := ensureContainer_creates e ans hrid
  unfold ensureRunningRuntimeOnly
  split
  · rename_i heq
    rw [heq] at hensure
    exact hensure
  · rename_i e₁ ensured heq
    rw [heq] at hensure
    have hstart := startContainer_same e₁ ans ensured.containerId
    split
    · rename_i heq'
      rw [heq'] at hstart
      exact hensure.trans (.of_same hstart)
    · rename_i e₂ heq'
      rw [heq'] at hstart
      split
      · exact hensure.trans (.of_same hstart)
      · exact (hensure.trans (.of_same hstart)).trans
          (.of_same (SameContainers.setState e₂ _ _))

end DockerRuntimeAdapter

section Calls

variable (env : OrchestratorEnv) (e : DockerEngine)

theorem bringUpStartContainer_creates {req : BringUpRequest} {ans : BringUpAnswers}
    {hostPath : String} (hdir : ans.projectDir req.launchMode = .returned hostPath)
    (limits : RuntimeLimits) :
    CreatesOnly (resolveImage env.workspaceImage) (ans.reused e req = none) e
      (bringUpStartContainer env e req ans hostPath limits).1 := by
  unfold bringUpStartContainer
  split
  · exact .refl e
  · exact .refl e
  · rename_i vars mounts _ hmounts
    have hcreates := @DockerRuntimeAdapter.ensureRunningRuntimeOnly_creates e ans.engine
      (containerRequest env req limits hostPath mounts vars) rfl
    have hreused : ans.reused e req = DockerRuntimeAdapter.reusable e
        (sanitizeContainerName (toString req.wid)) (some hostPath) mounts := by
      simp only [BringUpAnswers.reused, hdir, hmounts]
    rw [hreused]
    split <;> (rename_i heq; rw [heq] at hcreates; exact hcreates)

theorem bringUpCompensatingRollback_same (ans : BringUpAnswers) (wid : Nat) (cid : Option String) :
    SameContainers e (bringUpCompensatingRollback env e ans wid cid).1 := by
  have hfirst := stopOnEngine_same env e ans.rollbackStop wid cid true
  unfold bringUpCompensatingRollback
  split
  rename_i e₁ first heq
  rw [heq] at hfirst
  have hsecond := stopOnEngine_same env e₁ ans.rollbackRetry wid cid true
  split
  · exact hfirst
  · split
    rename_i e₂ second heq'
    rw [heq'] at hsecond
    split <;> exact hfirst.trans hsecond

/-- **A bring-up** creates from the image of the settings, and only where it reuses nothing. -/
theorem bringUpOnEngine_creates (req : BringUpRequest) (ans : BringUpAnswers) :
    CreatesOnly (resolveImage env.workspaceImage) (ans.reused e req = none) e
      (bringUpOnEngine env e req ans).1 := by
  unfold bringUpOnEngine
  split
  · exact .refl e
  · exact .refl e
  · exact .refl e
  · rename_i hostPath limits hdir _
    have hstart := bringUpStartContainer_creates env e hdir limits
    split
    · rename_i e₁ f heq
      rw [heq] at hstart
      exact hstart.trans (.of_same (bringUpCompensatingRollback_same env e₁ ans req.wid none))
    · rename_i e₁ cid state heq
      rw [heq] at hstart
      have hback := bringUpCompensatingRollback_same env e₁ ans req.wid (some cid)
      split
      · exact hstart.trans (.of_same hback)
      · split
        · exact hstart
        · exact hstart.trans (.of_same hback)

/-- A restart stops first, which keeps every container. -/
theorem restartCalls_creates (ans : RestartAnswers) (wid : Nat) (containerId : Option String)
    (v : Option Int) :
    CreatesOnly (resolveImage env.workspaceImage)
      (ans.bringUp.reused e (restartRequest wid v ans) = none) e
      (restartCalls env e ans wid containerId v).1 := by
  have hstop := stopOnEngine_same env e ans.stop wid containerId false
  unfold restartCalls
  split
  rename_i e₁ stop heq
  rw [heq] at hstop
  split
  · have hup := bringUpOnEngine_creates env e₁ (restartRequest wid v ans) ans.bringUp
    have hspec := ans.bringUp.reused_spec hstop (restartRequest wid v ans)
    split
    rename_i e₂ up heq'
    rw [heq'] at hup
    refine (CreatesOnly.of_same hstop).trans (hup.mono fun hnone => ?_)
    rw [hnone, Option.map_none] at hspec
    exact Option.map_eq_none_iff.mp hspec.symm
  · exact .of_same hstop

theorem updateOnEngine_creates (ans : UpdateAnswers) (wid : Nat) (containerId : Option String)
    (v : Int) :
    CreatesOnly (resolveImage env.workspaceImage)
      (ans.restart.bringUp.reused e (restartRequest wid (some v) ans.restart) = none) e
      (updateOnEngine env e ans wid containerId v).1 := by
  have hcalls := restartCalls_creates env e ans.restart wid containerId (some v)
  unfold updateOnEngine
  generalize restartCalls env e ans.restart wid containerId (some v) = calls at hcalls ⊢
  obtain ⟨e₁, stop, up⟩ := calls
  dsimp only at hcalls ⊢
  split
  · exact hcalls
  · exact .refl e

/-- The bring-up of the job finds no container to reuse. -/
def jobCreates (e : DockerEngine) (ans : JobAnswers) (s : Session) : Prop :=
  ∃ x ∈ jobBringUp ans s, x.2.reused e x.1 = none

instance (e : DockerEngine) (ans : JobAnswers) (s : Session) : Decidable (jobCreates e ans s) :=
  inferInstanceAs (Decidable (∃ x ∈ _, _))

/-- **One spec for every job type**: what the calls of a job create. -/
theorem orchestratorCalls_creates (ans : JobAnswers) (s : Session) :
    CreatesOnly (resolveImage env.workspaceImage) (jobCreates e ans s) e
      (orchestratorCalls env e ans s).1 := by
  unfold orchestratorCalls
  dsimp only
  cases hty : s.job.jobType with
  | create | start =>
      dsimp only
      cases hjob : jobBringUp ans s with
      | none => exact .refl e
      | some x =>
          obtain ⟨req, up⟩ := x
          exact (bringUpOnEngine_creates env e req up).mono fun hnone => ⟨(req, up), hjob, hnone⟩
  | stop =>
      have hstop := stopOnEngine_same env e ans.stop s.wid (s.rt.bind (·.containerId)) false
      exact .of_same hstop
  | restart =>
      have hjob : jobBringUp ans s = some (restartRequest s.wid
          (some s.job.requestedConfigVersion) ans.restart, ans.restart.bringUp) := by
        simp only [jobBringUp, hty]
      exact (restartCalls_creates env e ans.restart s.wid (s.rt.bind (·.containerId))
        (some s.job.requestedConfigVersion)).mono fun hnone => ⟨_, hjob, hnone⟩
  | update =>
      have hjob : jobBringUp ans s = some (restartRequest s.wid
          (some s.job.requestedConfigVersion) ans.update.restart, ans.update.restart.bringUp) := by
        simp only [jobBringUp, hty]
      exact (updateOnEngine_creates env e ans.update s.wid (s.rt.bind (·.containerId))
        s.job.requestedConfigVersion).mono fun hnone => ⟨_, hjob, hnone⟩
  | _ => exact .refl e

end Calls

/-! ## The image of the settings -/

/-- Where `build_default_orchestrator_for_session` takes the image from. -/
structure ImageSettings where
  workspaceContainerImage : Option String := none
  /-- `DEVNEST_WORKSPACE_CONTAINER_IMAGE`. -/
  containerImageVariable : Option String := none
  /-- `DEVNEST_WORKSPACE_IMAGE`. -/
  imageVariable : Option String := none

/-- The `workspace_image` of the orchestrator. -/
def ImageSettings.image (st : ImageSettings) : String :=
  if stripOr st.workspaceContainerImage ≠ "" then stripOr st.workspaceContainerImage
  else if stripOr st.containerImageVariable ≠ "" then stripOr st.containerImageVariable
  else if stripOr st.imageVariable ≠ "" then stripOr st.imageVariable
  else "devnest/workspace:latest"

/-- `build_default_orchestrator_for_session`: the orchestrator of a node, with that image. -/
def buildDefaultOrchestrator (env : OrchestratorEnv) (st : ImageSettings) : OrchestratorEnv :=
  { env with workspaceImage := some st.image }

/-- The adapter takes it as it is: it is trimmed and not empty. -/
theorem resolveImage_settings (st : ImageSettings) : resolveImage (some st.image) = st.image := by
  have htrim : strip st.image = st.image ∧ st.image ≠ "" := by
    unfold ImageSettings.image
    split
    · rename_i h
      exact ⟨strip_strip _, h⟩
    · split
      · rename_i h
        exact ⟨strip_strip _, h⟩
      · split
        · rename_i h
          exact ⟨strip_strip _, h⟩
        · exact ⟨by decide, by decide⟩
  have hstrip : stripOr (some st.image) = st.image := htrim.1
  unfold resolveImage
  rw [hstrip, if_neg htrim.2]

/-! ## Runs -/

/-- The image is in the list of every policy that applies to the workspace and has one, and is the
one the config names, if it names one. -/
def ImageGoverned (policies : List Policy) (owner wid : Nat) (config : Option WorkspaceConfig)
    (image : String) : Prop :=
  (∀ p ∈ loadApplicablePolicies policies (some owner) (some wid),
    ∀ l ∈ p.rules.allowedRuntimeImages, image ∈ l) ∧
  ∀ i ∈ config.bind fun c => namedImage c.image, image = i

instance (policies : List Policy) (owner wid : Nat) (config : Option WorkspaceConfig)
    (image : String) : Decidable (ImageGoverned policies owner wid config image) :=
  inferInstanceAs (Decidable ((∀ p ∈ _, ∀ l ∈ _, _) ∧ ∀ i ∈ _, _))

/-- An execution and the engine it worked on. -/
structure JobOnEngine where
  wid : Nat
  owner : Nat
  /-- The config row of the job's version. -/
  config : Option WorkspaceConfig
  jobType : WorkspaceJobType
  succeeded : Bool
  before : DockerEngine
  after : DockerEngine

structure ImageWorld where
  db : Db
  /-- The executions so far. -/
  ran : List JobOnEngine := []

/-- The containers of an engine are an input of each execution: the nodes have one each, and
containers come and go by other hands. -/
inductive ImageStep where
  | request (m : PolicedStep)
  | runJob (entry : EntryPoint) (inp : WorkerInput) (settings : ImageSettings)
      (env : OrchestratorEnv) (engine : DockerEngine) (ans : JobAnswers) (jid : Nat)

/-- The job types whose calls work on the containers of a running workspace. -/
def WorkspaceJobType.usesEngine (jt : WorkspaceJobType) : Bool := jt.bringsUp || jt = .stop

/-- What a claimed job's calls do to the engine, and what they answer. -/
def callsOnEngine (cfg : Settings) (inp : WorkerInput) (env : OrchestratorEnv)
    (engine : DockerEngine) (ans : JobAnswers) (s : Session) : DockerEngine × OrchestratorService :=
  if orchestratorReached cfg inp s && s.job.jobType.usesEngine then
    orchestratorCalls env engine ans s
  else (engine, inp.orch)

def imageStep (cfg : Settings) (policies : List Policy) (w : ImageWorld) : ImageStep → ImageWorld
  | .request m =>
      if (m.step.execution w.db).isSome then w
      else { w with db := policyStep cfg policies w.db m }
  | .runJob entry inp settings env engine ans jid =>
      match claimJob inp jid w.db with
      | none => { w with db := runJob cfg entry inp jid w.db }
      | some s =>
          match callsOnEngine cfg inp (buildDefaultOrchestrator env settings) engine ans s with
          | (engine', orch) =>
              let db := runJob cfg entry { inp with orch := orch } jid w.db
              { db := db
                ran :=
                  { wid := s.wid
                    owner := s.ws.ownerUserId
                    config := w.db.configRow s.wid s.job.requestedConfigVersion
                    jobType := s.job.jobType
                    succeeded := (db.jobs.lookup jid).any fun j => j.status = .succeeded
                    before := engine
                    after := engine' } :: w.ran }

/-- The containers that a successful job created have governed images. -/
def JobOnEngine.CreatesGoverned (policies : List Policy) (r : JobOnEngine) : Prop :=
  r.succeeded = true → r.jobType.bringsUp = true →
    ∀ i c, r.after.containers.lookup i = some c →
      (r.before.containers.lookup i).map (·.spec) ≠ some c.spec →
      ImageGoverned policies r.owner r.wid r.config c.image

/-- Where the execution brings up a container and finds none to reuse, the image of the settings
is in the lists that apply and is the one of the config row, if that names one. -/
def settingsImageGoverned (cfg : Settings) (policies : List Policy) (w : ImageWorld) :
    ImageStep → Prop
  | .request _ => True
  | .runJob _ inp settings _ engine ans jid =>
      ∀ s ∈ claimJob inp jid w.db, orchestratorReached cfg inp s = true → jobCreates engine ans s →
        ImageGoverned policies s.ws.ownerUserId s.wid
          (w.db.configRow s.wid s.job.requestedConfigVersion) settings.image

instance (cfg : Settings) (policies : List Policy) (w : ImageWorld) :
    ∀ st, Decidable (settingsImageGoverned cfg policies w st)
  | .request _ => .isTrue trivial
  | .runJob _ inp _ _ _ _ jid =>
      inferInstanceAs (Decidable (∀ s ∈ claimJob inp jid w.db, _ → _ → _))

theorem callsOnEngine_creates (cfg : Settings) (inp : WorkerInput) (env : OrchestratorEnv)
    (settings : ImageSettings) (engine : DockerEngine) (ans : JobAnswers) (s : Session) :
    CreatesOnly settings.image (orchestratorReached cfg inp s = true ∧ jobCreates engine ans s)
      engine (callsOnEngine cfg inp (buildDefaultOrchestrator env settings) engine ans s).1 := by
  unfold callsOnEngine
  split
  · rename_i h
    have hcalls := orchestratorCalls_creates (buildDefaultOrchestrator env settings) engine ans s
    rw [show (buildDefaultOrchestrator env settings).workspaceImage = some settings.image from rfl,
      resolveImage_settings] at hcalls
    exact hcalls.mono fun hnew => ⟨(Bool.and_eq_true _ _ ▸ h).1, hnew⟩
  · exact .refl engine

theorem imageStep_governed {cfg : Settings} {policies : List Policy} {w : ImageWorld}
    {st : ImageStep} (h : ∀ r ∈ w.ran, r.CreatesGoverned policies)
    (hst : settingsImageGoverned cfg policies w st) :
    ∀ r ∈ (imageStep cfg policies w st).ran, r.CreatesGoverned policies := by
  cases st with
  | request m =>
      unfold imageStep
      dsimp only
      split
      · exact h
      · exact h
  | runJob entry inp settings env engine ans jid =>
      unfold imageStep
      dsimp only
      cases hs : claimJob inp jid w.db with
      | none => exact h
      | some s =>
          have hcreates := callsOnEngine_creates cfg inp env settings engine ans s
          dsimp only
          generalize callsOnEngine cfg inp (buildDefaultOrchestrator env settings) engine ans s =
            calls at hcreates ⊢
          obtain ⟨engine', orch⟩ := calls
          intro r hr
          rcases List.mem_cons.mp hr with rfl | hr
          · intro _ _ i c hc hnew
            dsimp only at hc hnew ⊢
            obtain ⟨himage, hreach, hbring⟩ := (hcreates i c hc).resolve_left hnew
            rw [himage]
            exact hst s hs hreach hbring
          · exact h r hr

/-- **The image policy governs what runs** where the image of the settings meets it: along every run
whose bring-ups create only while that image is allowed and is the one the config row names, every
container that a successful job created has a governed image. -/
theorem image_policy_holds {cfg : Settings} {policies : List Policy} {w : ImageWorld}
    (hw : w.ran = []) {steps : List ImageStep}
    (h : Along (imageStep cfg policies) (settingsImageGoverned cfg policies) w steps) :
    Always (imageStep cfg policies) (fun w => ∀ r ∈ w.ran, r.CreatesGoverned policies) w steps := by
  refine always_of_along ?_ (fun w st hgov hst => imageStep_governed hgov hst) h
  rw [hw]
  exact fun r hr => absurd hr List.not_mem_nil

/-! ## Two runs -/

/-- Only one image is allowed. -/
def oneImage : List Policy :=
  [{ name := "one-image", rules := { allowedRuntimeImages := some ["team/ide:1"] } }]

theorem sampleNode_named : strip "node-1" ≠ "" := by decide

/-- Create a workspace that names an image, and bring it up. -/
def namedImageSteps (named : String) (settings : ImageSettings) : List ImageStep :=
  [.request { step := .createWorkspace { now := 0 } 7 "a" { image := some named } },
   .runJob .runPendingJobs (sampleWorker 1 {}) settings
     { node_named := sampleNode_named } .empty healthyAnswers 1]

/-- The settings have the image that the workspace names and the policy allows. -/
def allowedImageSteps : List ImageStep :=
  namedImageSteps "team/ide:1" { workspaceContainerImage := some "team/ide:1" }

theorem allowed_image_runs :
    Along (imageStep {} oneImage) (settingsImageGoverned {} oneImage) { db := sampleDb }
        allowedImageSteps ∧
      (run (imageStep {} oneImage) { db := sampleDb } allowedImageSteps).ran.map
        (fun r => (r.succeeded, (r.after.containers.lookup "c0ffee").map (·.image))) =
          [(true, some "team/ide:1")] ∧
      Always (imageStep {} oneImage) (fun w => ∀ r ∈ w.ran, r.CreatesGoverned oneImage)
        { db := sampleDb } allowedImageSteps := by
  have halong : Along (imageStep {} oneImage) (settingsImageGoverned {} oneImage)
      { db := sampleDb } allowedImageSteps := by decide +kernel
  exact ⟨halong, by decide +kernel, image_policy_holds rfl halong⟩

/-- The settings name no image: the workspace gets the default, which is not the one it names and
which the policy does not allow. -/
theorem default_image_is_not_governed :
    ¬ ∀ (policies : List Policy) (w : ImageWorld) (steps : List ImageStep), w.ran = [] →
      Always (imageStep {} policies) (fun w => ∀ r ∈ w.ran, r.CreatesGoverned policies) w steps := by
  intro h
  have hend := (h oneImage { db := sampleDb } (namedImageSteps "team/ide:1" {}) rfl).last
  generalize hw : run (imageStep {} oneImage) { db := sampleDb } (namedImageSteps "team/ide:1" {}) =
    w at hend
  have hran : w.ran.map (fun r => (r.succeeded && r.jobType.bringsUp &&
      (r.before.containers.lookup "c0ffee").isNone, r.owner, r.wid,
      (r.after.containers.lookup "c0ffee").map (·.image))) =
        [(true, 7, 1, some "devnest/workspace:latest")] := by
    rw [← hw]
    decide +kernel
  obtain ⟨r, hr, hfacts⟩ := List.mem_map.mp (hran ▸ List.mem_singleton_self _)
  simp only [Prod.mk.injEq, Bool.and_eq_true, Option.isNone_iff_eq_none] at hfacts
  obtain ⟨⟨⟨hsucc, hup⟩, hnone⟩, howner, hwid, himage⟩ := hfacts
  obtain ⟨c, hc, hcimage⟩ := Option.map_eq_some_iff.mp himage
  have hgov := (hend r hr hsucc hup "c0ffee" c hc (by rw [hnone]; simp)).1
  rw [howner, hwid, hcimage] at hgov
  revert hgov
  decide

end Devnest
