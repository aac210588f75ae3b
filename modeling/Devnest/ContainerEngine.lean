import Mathlib.Data.Rat.Floor
import Devnest.FailureHandling
import Devnest.Placement
import Devnest.SsmDocker

/-!
# Bring-up on a Docker engine

`DockerRuntimeAdapter` on the engine of a node, and the orchestrator's
`bring_up`, `stop`, `restart` and `update` on top of it. The engine is a table
of containers; what a call to it comes to beyond that (an API error, the id of
a new container, the state a start or a stop ends in) is an answer, as are the
host directories, the topology and the probe.

A container keeps everything but its state from its creation on. So all that
matters of a bring-up is whether `ensure_container` reuses the container it
finds (`DockerEngine.reusable`) or creates one from the request, which is what
`bringUpOnEngine_success` says.
-/

namespace Devnest

open PyText

/-! ## The engine -/

/-- `BindMountInfo` and `WorkspaceExtraBindMountSpec`. -/
structure BindMount where
  hostPath : String
  containerPath : String
  readOnly : Bool := false
  deriving DecidableEq, Repr

/-- Cgroup limits in the engine's units: billionths of a core, bytes, processes. -/
structure Quotas where
  nanoCpus : Option Int := none
  memLimit : Option Int := none
  pidsLimit : Option Int := none
  deriving DecidableEq, Repr

/-- What of a security spec reaches the host config. -/
structure ContainerSecurity where
  securityOpt : List String := []
  capDrop : List String := []
  readOnly : Bool := false
  tmpfs : List (String × String) := []
  deriving DecidableEq, Repr

structure WorkspaceContainer where
  name : String
  image : String := ""
  state : EngineState := .created
  binds : List BindMount := []
  labels : Table String String := ∅
  quotas : Quotas := {}
  /-- The engine's `NAME=value` texts. -/
  env : List String := []
  /-- The published ports: container port to host port, `none` for one the engine picks. -/
  ports : Table Int (Option Int) := ∅
  security : ContainerSecurity := {}

/-- The containers of a node by engine id. The engine hands out trimmed ids and lets no
two containers share a name. -/
structure DockerEngine where
  containers : Table String WorkspaceContainer
  id_trimmed : ∀ {i c}, containers.lookup i = some c → i ≠ "" ∧ strip i = i
  name_unique : ∀ {i j c d}, containers.lookup i = some c → containers.lookup j = some d →
    c.name = d.name → i = j

namespace DockerEngine

/-- No containers. -/
def empty : DockerEngine where
  containers := ∅
  id_trimmed := by
    intro i c h
    rw [AList.lookup_empty] at h
    cases h
  name_unique := by
    intro i j c d h
    rw [AList.lookup_empty] at h
    cases h

/-- `containers.get`: by id, then by name. -/
def get (e : DockerEngine) (ref : String) : Option (String × WorkspaceContainer) :=
  match e.containers.lookup ref with
  | some c => some (ref, c)
  | none => (e.containers.entries.find? fun x => x.2.name = ref).map fun x => (x.1, x.2)

theorem get_eq_some_iff {e : DockerEngine} {ref i : String} {c : WorkspaceContainer} :
    e.get ref = some (i, c) ↔ e.containers.lookup i = some c ∧
      (i = ref ∨ e.containers.lookup ref = none ∧ c.name = ref) := by
  unfold get
  cases hl : e.containers.lookup ref with
  | some d =>
      simp only [Option.some.injEq, Prod.mk.injEq, reduceCtorEq, false_and, or_false]
      constructor
      · rintro ⟨rfl, rfl⟩
        exact ⟨hl, rfl⟩
      · rintro ⟨hi, rfl⟩
        exact ⟨rfl, Option.some.inj (hl.symm.trans hi)⟩
  | none =>
      simp only [Option.map_eq_some_iff, Prod.mk.injEq, true_and]
      constructor
      · rintro ⟨⟨j, d⟩, hf, rfl, rfl⟩
        exact ⟨AList.mem_lookup_iff.mpr (List.mem_of_find?_eq_some hf),
          .inr (by simpa using List.find?_some hf)⟩
      · rintro ⟨hi, rfl | hname⟩
        · rw [hl] at hi
          cases hi
        · cases hf : e.containers.entries.find? fun x => x.2.name = ref with
          | none =>
              have hno := List.find?_eq_none.mp hf ⟨i, c⟩ (AList.mem_lookup_iff.mp hi)
              simp [hname] at hno
          | some x =>
              obtain ⟨j, d⟩ := x
              have hj := AList.mem_lookup_iff.mpr (List.mem_of_find?_eq_some hf)
              have hd : d.name = ref := by simpa using List.find?_some hf
              obtain rfl := e.name_unique hi hj (hname.trans hd.symm)
              exact ⟨⟨i, d⟩, rfl, rfl, Option.some.inj (hj.symm.trans hi)⟩

theorem lookup_of_get {e : DockerEngine} {ref i : String} {c : WorkspaceContainer}
    (h : e.get ref = some (i, c)) : e.containers.lookup i = some c :=
  (get_eq_some_iff.mp h).1

theorem get_of_lookup {e : DockerEngine} {i : String} {c : WorkspaceContainer}
    (h : e.containers.lookup i = some c) : e.get i = some (i, c) :=
  get_eq_some_iff.mpr ⟨h, .inl rfl⟩

/-- Start, stop and the container's own end: only the state changes. -/
def setState (e : DockerEngine) (id : String) (st : EngineState) : DockerEngine where
  containers :=
    match e.containers.lookup id with
    | some c => e.containers.insert id { c with state := st }
    | none => e.containers
  id_trimmed := by
    intro i c h
    split at h
    · rename_i d hd
      rw [Table.lookup_insert_eq] at h
      split at h
      · rename_i heq
        subst heq
        exact e.id_trimmed hd
      · exact e.id_trimmed h
    · exact e.id_trimmed h
  name_unique := by
    intro i j c d hi hj hname
    split at hi
    · rename_i k hk
      simp only [hk, Table.lookup_insert_eq] at hi hj
      split at hi <;> split at hj
      · rename_i h1 h2
        exact h1.trans h2.symm
      · rename_i h1 h2
        obtain rfl := Option.some.inj hi
        subst h1
        exact e.name_unique hk hj hname
      · rename_i h1 h2
        obtain rfl := Option.some.inj hj
        subst h2
        exact e.name_unique hi hk hname
      · exact e.name_unique hi hj hname
    · rename_i hk
      simp only [hk] at hj
      exact e.name_unique hi hj hname

/-- `existing.remove(force=True)`. -/
def remove (e : DockerEngine) (id : String) : DockerEngine where
  containers := e.containers.erase id
  id_trimmed := by
    intro i c h
    by_cases hi : i = id
    · subst hi
      rw [AList.lookup_erase] at h
      cases h
    · rw [AList.lookup_erase_ne hi] at h
      exact e.id_trimmed h
  name_unique := by
    intro i j c d hi hj hname
    by_cases h1 : i = id
    · subst h1
      rw [AList.lookup_erase] at hi
      cases hi
    · by_cases h2 : j = id
      · subst h2
        rw [AList.lookup_erase] at hj
        cases hj
      · rw [AList.lookup_erase_ne h1] at hi
        rw [AList.lookup_erase_ne h2] at hj
        exact e.name_unique hi hj hname

/-- `create_container`, for the id the engine chose. A taken name is a conflict. -/
def create (e : DockerEngine) (id : String) (c : WorkspaceContainer) : Except String DockerEngine :=
  if h : (id ≠ "" ∧ strip id = id ∧ e.containers.lookup id = none) ∧
      ∀ x ∈ e.containers.entries, x.2.name ≠ c.name then
    .ok
      { containers := e.containers.insert id c
        id_trimmed := by
          intro i d hi
          rw [Table.lookup_insert_eq] at hi
          split at hi
          · rename_i heq
            exact heq ▸ ⟨h.1.1, h.1.2.1⟩
          · exact e.id_trimmed hi
        name_unique := by
          intro i j d d' hi hj hname
          rw [Table.lookup_insert_eq] at hi hj
          split at hi <;> split at hj
          · rename_i h1 h2
            exact h1.trans h2.symm
          · obtain rfl := Option.some.inj hi
            exact absurd hname.symm (h.2 _ (AList.mem_lookup_iff.mp hj))
          · obtain rfl := Option.some.inj hj
            exact absurd hname (h.2 _ (AList.mem_lookup_iff.mp hi))
          · exact e.name_unique hi hj hname }
  else .error ("Conflict. The container name \"/" ++ c.name ++ "\" is already in use")

theorem lookup_create {e e' : DockerEngine} {id : String} {c : WorkspaceContainer}
    (h : e.create id c = .ok e') : e'.containers.lookup id = some c := by
  unfold create at h
  split at h
  · obtain rfl := Except.ok.inj h
    simp
  · cases h

end DockerEngine

/-- What a container keeps from its creation on. -/
def WorkspaceContainer.spec (c : WorkspaceContainer) : WorkspaceContainer :=
  { c with state := .created }

theorem WorkspaceContainer.name_of_spec {c d : WorkspaceContainer} (h : c.spec = d.spec) :
    c.name = d.name := (congrArg WorkspaceContainer.name h :)

theorem WorkspaceContainer.binds_of_spec {c d : WorkspaceContainer} (h : c.spec = d.spec) :
    c.binds = d.binds := (congrArg WorkspaceContainer.binds h :)

theorem WorkspaceContainer.labels_of_spec {c d : WorkspaceContainer} (h : c.spec = d.spec) :
    c.labels = d.labels := (congrArg WorkspaceContainer.labels h :)

theorem WorkspaceContainer.quotas_of_spec {c d : WorkspaceContainer} (h : c.spec = d.spec) :
    c.quotas = d.quotas := (congrArg WorkspaceContainer.quotas h :)

theorem WorkspaceContainer.image_of_spec {c d : WorkspaceContainer} (h : c.spec = d.spec) :
    c.image = d.image := (congrArg WorkspaceContainer.image h :)

/-- The same containers up to their states. -/
def SameContainers (e e' : DockerEngine) : Prop :=
  ∀ i, (e'.containers.lookup i).map (·.spec) = (e.containers.lookup i).map (·.spec)

theorem SameContainers.refl (e : DockerEngine) : SameContainers e e := fun _ => rfl

theorem SameContainers.symm {e e' : DockerEngine} (h : SameContainers e e') :
    SameContainers e' e := fun i => (h i).symm

theorem SameContainers.trans {e e' e'' : DockerEngine} (h : SameContainers e e')
    (h' : SameContainers e' e'') : SameContainers e e'' := fun i => (h' i).trans (h i)

theorem SameContainers.setState (e : DockerEngine) (id : String) (st : EngineState) :
    SameContainers e (e.setState id st) := by
  intro i
  unfold DockerEngine.setState
  dsimp only
  split
  · rename_i c hc
    rw [Table.lookup_insert_eq]
    split
    · rename_i heq
      subst heq
      rw [hc]
      rfl
    · rfl
  · rfl

theorem SameContainers.lookup {e e' : DockerEngine} (h : SameContainers e e') {i : String}
    {c : WorkspaceContainer} (hl : e.containers.lookup i = some c) :
    ∃ c', e'.containers.lookup i = some c' ∧ c'.spec = c.spec := by
  have hi := h i
  rw [hl, Option.map_some, Option.map_eq_some_iff] at hi
  exact hi

theorem SameContainers.get {e e' : DockerEngine} (h : SameContainers e e') {ref i : String}
    {c : WorkspaceContainer} (hg : e.get ref = some (i, c)) :
    ∃ c', e'.get ref = some (i, c') ∧ c'.spec = c.spec := by
  obtain ⟨hl, href⟩ := DockerEngine.get_eq_some_iff.mp hg
  obtain ⟨c', hl', hspec⟩ := h.lookup hl
  refine ⟨c', DockerEngine.get_eq_some_iff.mpr ⟨hl', href.imp_right fun ⟨hnone, hname⟩ => ?_⟩, hspec⟩
  have hnone' := h ref
  rw [hnone, Option.map_none, Option.map_eq_none_iff] at hnone'
  exact ⟨hnone', (WorkspaceContainer.name_of_spec hspec).trans hname⟩

theorem SameContainers.get_none {e e' : DockerEngine} (h : SameContainers e e') {ref : String}
    (hg : e.get ref = none) : e'.get ref = none := by
  cases hg' : e'.get ref with
  | none => rfl
  | some p =>
      obtain ⟨c, hc, -⟩ := h.symm.get hg'
      rw [hg] at hc
      cases hc

/-! ## `DockerRuntimeAdapter` -/

/-- `RuntimeAdapterError` and its subclasses, or any other exception. -/
inductive EngineFault where
  | runtimeAdapterError (message : String)
  | other (message : String)
  deriving DecidableEq, Repr

/-- What the engine answers during one bring-up. -/
structure EngineAnswers where
  /-- `APIError` of the removal of a container with other mounts. -/
  removeError : Option String := none
  /-- `create_container`, after the image was pulled if need be. -/
  createId : Except String String
  /-- The state after `start`. -/
  start : Except EngineFault EngineState := .ok .running
  /-- What `_wait_post_start_inspect` ends with, and `get_container_netns_ref`. -/
  postStart : Except EngineFault EngineState := .ok .running

structure WorkspaceProjectMountSpec where
  hostPath : String
  readOnly : Bool := false
  deriving DecidableEq, Repr

structure ContainerRequest where
  name : String
  image : Option String := none
  cpuLimit : Option ℚ := none
  memoryLimitBytes : Option Int := none
  pidsLimit : Option Int := none
  securitySpec : Option WorkspaceContainerSecuritySpec := none
  env : Table String String := ∅
  /-- Host and container ports. -/
  ports : List (Int × Int) := []
  labels : Table String String := ∅
  projectMount : Option WorkspaceProjectMountSpec := none
  workspaceHostPath : Option String := none
  extraBindMounts : List BindMount := []
  existingContainerId : Option String := none

/-- `RuntimeEnsureResult`, as far as it is read here. -/
structure RuntimeEnsureResult where
  containerId : String
  createdNew : Bool
  containerState : EngineState
  deriving DecidableEq, Repr

/-- `DEVNEST_WORKSPACE_IMAGE` is not set. -/
def defaultWorkspaceImage : String := "devnest/workspace:latest"

/-- `_resolve_image`. -/
def resolveImage (image : Option String) : String :=
  if stripOr image = "" then defaultWorkspaceImage else stripOr image

/-- `_port_bindings_from_spec`, by container port; the last entry for a port wins. -/
def portBindingsFromSpec (ports : List (Int × Int)) : Except String (Table Int (Option Int)) :=
  ports.foldlM (fun (bindings : Table Int (Option Int)) (p : Int × Int) =>
    if p.2 ≤ 0 then
      .error ("container port in ports= must be positive, got " ++ toString p.2)
    else .ok (bindings.insert p.2 (if p.1 ≤ 0 then none else some p.1))) ∅

/-- `security_opt`, `cap_drop`, `read_only` and `tmpfs` of the host config. -/
def securityOf : Option WorkspaceContainerSecuritySpec → ContainerSecurity
  | none => {}
  | some spec =>
      { securityOpt := spec.securityOpt
        capDrop := spec.capDrop
        readOnly := spec.readOnlyRootfs
        tmpfs := if spec.readOnlyRootfs then
            [("/tmp", "rw,nosuid,noexec,size=256m"), ("/run", "rw,nosuid,size=64m")]
          else [] }

/-- The environment as it is sent. -/
def envTexts (env : Table String String) : List String :=
  env.entries.map fun e => e.1 ++ "=" ++ e.2

namespace DockerRuntimeAdapter

def workspaceProjectContainerPath : String := "/home/coder/project"

/-- `_bind_mount_signature`. -/
def bindMountSignature (b : BindMount) : BindMount where
  hostPath := strip b.hostPath
  containerPath := rstripChar '/' b.containerPath
  readOnly := b.readOnly

/-- The path of the project mount or the other one; they agree if there are both. -/
def chosenHostPath (projectMount : Option WorkspaceProjectMountSpec)
    (workspaceHostPath : Option String) : Except String String :=
  let pmRaw := stripOr (projectMount.map (·.hostPath))
  let whRaw := stripOr workspaceHostPath
  if pmRaw ≠ "" ∧ whRaw ≠ "" ∧ pmRaw ≠ whRaw then
    .error "project_mount.host_path and workspace_host_path disagree; pass one consistent path"
  else if (if pmRaw ≠ "" then pmRaw else whRaw) = "" then
    .error ("project_mount or workspace_host_path is required to create a workspace container " ++
      "(bind-mount host directory to " ++ workspaceProjectContainerPath ++ ")")
  else .ok (if pmRaw ≠ "" then pmRaw else whRaw)

/-- `_resolve_project_host_path_for_create`: the host path and whether it is read-only. -/
def resolveProjectHostPathForCreate (projectMount : Option WorkspaceProjectMountSpec)
    (workspaceHostPath : Option String) : Except String (String × Bool) :=
  match chosenHostPath projectMount workspaceHostPath with
  | .error m => .error m
  | .ok chosen =>
      if !startsWith chosen "/" then
        .error ("project workspace host path must be absolute (Docker bind source); " ++
          "sync storage layout before ensure_container, got " ++ PyText.repr chosen)
      else .ok (chosen, projectMount.any (·.readOnly))

/-- `_requested_bind_signatures`, unsorted. -/
def requestedBindSignatures (workspaceHostPath : Option String) (extraBindMounts : List BindMount) :
    Except String (Option (List BindMount)) :=
  let extra := extraBindMounts.map fun b => bindMountSignature
    { b with containerPath := strip b.containerPath }
  if stripOr workspaceHostPath = "" then .ok (if extra = [] then none else some extra)
  else (resolveProjectHostPathForCreate none workspaceHostPath).map fun project =>
    some (⟨project.1, workspaceProjectContainerPath, project.2⟩ :: extra)

/-- Two sorted tuples of signatures are equal when one is a permutation of the other. -/
def bindsDiffer (requested : Option (List BindMount)) (c : WorkspaceContainer) : Bool :=
  match requested with
  | none => false
  | some binds => !(c.binds.map bindMountSignature).isPerm binds

/-- `_extra_bind_strings`, after the destinations seen. -/
def extraBinds (seen : List String) : List BindMount → Except String (List BindMount)
  | [] => .ok []
  | b :: rest =>
      let hp := strip b.hostPath
      let cp := strip b.containerPath
      let dest := if rstripChar '/' cp = "" then "/" else rstripChar '/' cp
      if hp = "" || cp = "" then
        .error "extra_bind_mounts requires non-empty host_path and container_path on every entry"
      else if dest = workspaceProjectContainerPath then
        .error ("extra_bind_mounts cannot target the project mount path (" ++
          workspaceProjectContainerPath ++ "); use project_mount / workspace_host_path only")
      else if dest ∈ seen then
        .error ("duplicate extra_bind_mounts container_path: " ++ PyText.repr cp)
      else (extraBinds (dest :: seen) rest).map (⟨hp, cp, b.readOnly⟩ :: ·)

/-- The host config's `nano_cpus`, `mem_limit` and `pids_limit`. -/
def quotasOf (cpuLimit : Option ℚ) (memoryLimitBytes pidsLimit : Option Int) : Quotas where
  nanoCpus := cpuLimit.map fun q => (q * 1000000000).floor
  memLimit := memoryLimitBytes
  pidsLimit := pidsLimit

/-- The end of `ensure_container`, where no container can be reused. -/
def createContainer (e : DockerEngine) (ans : EngineAnswers) (req : ContainerRequest) :
    DockerEngine × Except EngineFault RuntimeEnsureResult :=
  match resolveProjectHostPathForCreate req.projectMount req.workspaceHostPath with
  | .error m => (e, .error (.runtimeAdapterError m))
  | .ok (hostPath, projRo) =>
      if req.cpuLimit.any (· ≤ 0) then
        (e, .error (.runtimeAdapterError "cpu_limit must be positive when set"))
      else if req.memoryLimitBytes.any (· ≤ 0) then
        (e, .error (.runtimeAdapterError "memory_limit_bytes must be positive when set"))
      else if req.pidsLimit.any (· ≤ 0) then
        (e, .error (.runtimeAdapterError "pids_limit must be positive when set"))
      else match portBindingsFromSpec req.ports, extraBinds [] req.extraBindMounts, ans.createId with
        | .error m, _, _ => (e, .error (.runtimeAdapterError m))
        | .ok _, .error m, _ => (e, .error (.runtimeAdapterError m))
        | .ok _, .ok _, .error m => (e, .error (.runtimeAdapterError m))
        | .ok ports, .ok extra, .ok id =>
            match e.create id
              { name := req.name
                image := resolveImage req.image
                binds := ⟨hostPath, workspaceProjectContainerPath, projRo⟩ :: extra
                labels := req.labels
                quotas := quotasOf req.cpuLimit req.memoryLimitBytes req.pidsLimit
                env := envTexts req.env
                ports := ports
                security := securityOf req.securitySpec } with
            | .error m => (e, .error (.runtimeAdapterError m))
            | .ok e' => (e', .ok ⟨id, true, .created⟩)

/-- The container by `existing_container_id`, else by `name`. -/
def existingContainer (e : DockerEngine) (req : ContainerRequest) :
    Option (String × WorkspaceContainer) :=
  let rid := stripOr req.existingContainerId
  (if rid ≠ "" then e.get rid else none).or (e.get req.name)

/-- `ensure_container`. -/
def ensureContainer (e : DockerEngine) (ans : EngineAnswers) (req : ContainerRequest) :
    DockerEngine × Except EngineFault RuntimeEnsureResult :=
  if strip req.name = "" then
    (e, .error (.runtimeAdapterError "container name must be non-empty"))
  else match existingContainer e req with
    | none => createContainer e ans req
    | some (id, c) =>
        match requestedBindSignatures req.workspaceHostPath req.extraBindMounts with
        | .error m => (e, .error (.runtimeAdapterError m))
        | .ok requested =>
            if bindsDiffer requested c then
              match ans.removeError with
              | some m => (e, .error (.runtimeAdapterError ("failed to replace stale container " ++
                  PyText.repr req.name ++ " with mismatched bind mounts: " ++ m)))
              | none => createContainer (e.remove id) ans req
            else (e, .ok ⟨id, false, c.state⟩)

/-- `start_container`, with the `ContainerStartError` its caller makes of a failure. -/
def startContainer (e : DockerEngine) (ans : EngineAnswers) (id : String) :
    DockerEngine × Except EngineFault Unit :=
  match e.get id with
  | none => (e, .error (.runtimeAdapterError ("container not found: " ++ PyText.repr id)))
  | some (i, c) =>
      if c.state = .running then (e, .ok ())
      else match ans.start with
        | .error f => (e, .error f)
        | .ok st => (e.setState i st,
            if st = .running then .ok ()
            else .error (.runtimeAdapterError ("unexpected state after start: " ++ st.status)))

/-- `ensure_running_runtime_only`: the container's id and state. -/
def ensureRunningRuntimeOnly (e : DockerEngine) (ans : EngineAnswers) (req : ContainerRequest) :
    DockerEngine × Except EngineFault (String × EngineState) :=
  match ensureContainer e ans req with
  | (e, .error f) => (e, .error f)
  | (e, .ok ensured) =>
      match startContainer e ans ensured.containerId with
      | (e, .error f) => (e, .error f)
      | (e, .ok ()) =>
          match ans.postStart with
          | .error f => (e, .error f)
          | .ok st => (e.setState ensured.containerId st, .ok (ensured.containerId, st))

/-- `stop_container`: whether it worked, the state reported and the message. -/
def stopContainer (e : DockerEngine) (ans : Except EngineFault EngineState) (ref : String) :
    DockerEngine × Except EngineFault (Bool × String) :=
  match e.get ref with
  | none => (e, .ok (true, "missing"))
  | some (i, c) =>
      if !containerStateNeedsEngineStop c.state then (e, .ok (true, c.state.status))
      else match ans with
        | .error f => (e, .error f)
        | .ok st => (e.setState i st, .ok (!containerStateNeedsEngineStop st, st.status))

/-- The mounts of the container are the ones asked for. -/
def mountsFit (workspaceHostPath : Option String) (extraBindMounts : List BindMount)
    (c : WorkspaceContainer) : Bool :=
  match requestedBindSignatures workspaceHostPath extraBindMounts with
  | .ok requested => !bindsDiffer requested c
  | .error _ => false

/-- The container of that name, if `ensure_container` would reuse it. -/
def reusable (e : DockerEngine) (name : String) (workspaceHostPath : Option String)
    (extraBindMounts : List BindMount) : Option WorkspaceContainer :=
  ((e.get name).map (·.2)).filter (mountsFit workspaceHostPath extraBindMounts)

theorem createContainer_ok {e e' : DockerEngine} {ans : EngineAnswers} {req : ContainerRequest}
    {r : RuntimeEnsureResult} (h : createContainer e ans req = (e', .ok r)) :
    ∃ c, e'.containers.lookup r.containerId = some c ∧ c.labels = req.labels ∧
      c.quotas = quotasOf req.cpuLimit req.memoryLimitBytes req.pidsLimit ∧
      c.image = resolveImage req.image := by
  unfold createContainer at h
  split at h
  · cases h
  · split at h
    · cases h
    · split at h
      · cases h
      · split at h
        · cases h
        · split at h
          · cases h
          · cases h
          · cases h
          · split at h
            · cases h
            · rename_i hcreate
              obtain ⟨rfl, hr⟩ := Prod.mk.inj h
              obtain rfl := Except.ok.inj hr
              exact ⟨_, DockerEngine.lookup_create hcreate, rfl, rfl, rfl⟩

/-- **Reuse or creation**: the container `ensure_container` returns has the labels, limits
and image of the one it reuses, and those of the request only if it reuses none. -/
theorem ensureContainer_ok {e e' : DockerEngine} {ans : EngineAnswers} {req : ContainerRequest}
    {r : RuntimeEnsureResult} (hrid : stripOr req.existingContainerId = "")
    (h : ensureContainer e ans req = (e', .ok r)) :
    ∃ c, e'.containers.lookup r.containerId = some c ∧
      c.labels = ((reusable e req.name req.workspaceHostPath req.extraBindMounts).map
        (·.labels)).getD req.labels ∧
      c.quotas = ((reusable e req.name req.workspaceHostPath req.extraBindMounts).map
        (·.quotas)).getD (quotasOf req.cpuLimit req.memoryLimitBytes req.pidsLimit) ∧
      c.image = ((reusable e req.name req.workspaceHostPath req.extraBindMounts).map
        (·.image)).getD (resolveImage req.image) := by
  have hexisting : existingContainer e req = e.get req.name := by
    simp [existingContainer, hrid]
  unfold ensureContainer at h
  rw [hexisting] at h
  split at h
  · cases h
  · cases hg : e.get req.name with
    | none =>
        rw [hg] at h
        simpa [reusable, hg] using createContainer_ok h
    | some p =>
        obtain ⟨i, c⟩ := p
        rw [hg] at h
        dsimp only at h
        cases hreq : requestedBindSignatures req.workspaceHostPath req.extraBindMounts with
        | error m =>
            rw [hreq] at h
            cases h
        | ok requested =>
            rw [hreq] at h
            dsimp only at h
            cases hdiff : bindsDiffer requested c with
            | true =>
                rw [if_pos hdiff] at h
                have hnone : reusable e req.name req.workspaceHostPath req.extraBindMounts
                    = none := by
                  simp [reusable, hg, mountsFit, hreq, hdiff]
                rw [hnone]
                split at h
                · cases h
                · exact createContainer_ok h
            | false =>
                rw [if_neg (by simp [hdiff])] at h
                obtain ⟨rfl, hr⟩ := Prod.mk.inj h
                obtain rfl := Except.ok.inj hr
                have hsome : reusable e req.name req.workspaceHostPath req.extraBindMounts
                    = some c := by
                  simp [reusable, hg, mountsFit, hreq, hdiff]
                rw [hsome]
                exact ⟨c, DockerEngine.lookup_of_get hg, rfl, rfl, rfl⟩

theorem startContainer_same (e : DockerEngine) (ans : EngineAnswers) (id : String) :
    SameContainers e (startContainer e ans id).1 := by
  unfold startContainer
  split
  · exact .refl e
  · split
    · exact .refl e
    · split
      · exact .refl e
      · exact SameContainers.setState e _ _

theorem ensureRunningRuntimeOnly_ok {e e' : DockerEngine} {ans : EngineAnswers}
    {req : ContainerRequest} {id : String} {st : EngineState}
    (h : ensureRunningRuntimeOnly e ans req = (e', .ok (id, st))) :
    ∃ e₁ r, ensureContainer e ans req = (e₁, .ok r) ∧ r.containerId = id ∧
      SameContainers e₁ e' := by
  unfold ensureRunningRuntimeOnly at h
  split at h
  · cases h
  · rename_i e₁ r hensure
    have hsame := startContainer_same e₁ ans r.containerId
    split at h
    · cases h
    · rename_i e₂ hstart
      rw [hstart] at hsame
      split at h
      · cases h
      · obtain ⟨rfl, hid⟩ := Prod.mk.inj h
        obtain ⟨rfl, rfl⟩ := Prod.mk.inj (Except.ok.inj hid)
        exact ⟨e₁, r, hensure, rfl, hsame.trans (SameContainers.setState e₂ _ _)⟩

/-- Whether a container can be reused does not depend on states. -/
theorem reusable_spec {e e' : DockerEngine} (h : SameContainers e e') (name : String)
    (workspaceHostPath : Option String) (extraBindMounts : List BindMount) :
    (reusable e' name workspaceHostPath extraBindMounts).map (·.spec) =
      (reusable e name workspaceHostPath extraBindMounts).map (·.spec) := by
  cases hg : e.get name with
  | none => simp [reusable, hg, h.get_none hg]
  | some p =>
      obtain ⟨i, c⟩ := p
      obtain ⟨c', hg', hspec⟩ := h.get hg
      have hfit : mountsFit workspaceHostPath extraBindMounts c' =
          mountsFit workspaceHostPath extraBindMounts c := by
        unfold mountsFit bindsDiffer
        rw [WorkspaceContainer.binds_of_spec hspec]
      simp only [reusable, hg, hg', Option.map_some, Option.filter_some, hfit]
      split
      · rw [Option.map_some, Option.map_some, hspec]
      · rfl

end DockerRuntimeAdapter

/-! ## Stop -/

/-- A `DefaultOrchestratorService`: its node, which is never blank, and the settings it
reads. -/
structure OrchestratorEnv where
  cfg : Settings := {}
  devnestWorkspaceCpuLimit : ℚ := 1
  devnestWorkspaceMemoryLimitMb : Int := 1024
  devnestWorkspacePidsLimit : Int := 512
  devnestWorkspaceSecurityNoNewPrivileges : Bool := true
  devnestWorkspaceSecurityReadOnlyRootfs : Bool := false
  devnestWorkspaceSecuritySeccompDefault : Bool := true
  /-- `parse_cap_drop_setting` of the setting. -/
  devnestWorkspaceSecurityCapDrop : List String := []
  devnestWorkspaceAuthMode : String := "none"
  devnestWorkspacePassword : String := ""
  /-- The `workspace_image` it was built with. -/
  workspaceImage : Option String := none
  nodeId : String := "node-1"
  topologyId : Int := 1
  node_named : strip nodeId ≠ "" := by decide

/-- What one stop meets. -/
structure StopAnswers where
  inspectError : Option String := none
  detach : DetachOutcome := .done true
  stop : Except EngineFault EngineState := .ok .exited
  ipReleaseError : Option String := none

/-- `container_id` if there is one, else the name derived from the workspace. -/
def containerRef (wid : Nat) (containerId : Option String) : String :=
  if stripOr containerId = "" then sanitizeContainerName (toString wid) else stripOr containerId

/-- `_stop_workspace_success_roll_up`. -/
def stopWorkspaceSuccessRollUp (stopSuccess topologyDetached : Bool) (issues : List String) : Bool :=
  if !topologyDetached && issues.any (fun i => startsWith (strip i) "topology:detach_failed:") then
    false
  else if issues.any fun i => startsWith (strip i) "topology:ip_release_failed:" then false
  else stopSuccess

/-- `_stop_container_best_effort`: whether it stopped, the state and the issues; or the
text of the `WorkspaceStopError`. -/
def stopContainerBestEffort (e : DockerEngine) (ans : StopAnswers) (cid : String)
    (issues : List String) : DockerEngine × Except String (Bool × Option String × List String) :=
  if cid = "" then (e, .ok (false, none, issues ++ ["runtime:container_id_missing"]))
  else match DockerRuntimeAdapter.stopContainer e ans.stop cid with
    | (e, .ok (true, state)) => (e, .ok (true, some state, issues))
    | (e, .ok (false, state)) => (e, .ok (false, some state,
        issues ++ ["runtime:stop_failed:container still active after stop: " ++ state]))
    | (e, .error (.runtimeAdapterError m)) =>
        (e, .ok (false, none, issues ++ ["runtime:stop_failed:" ++ m]))
    | (e, .error (.other m)) => (e, .error ("unexpected stop failure: " ++ m))

/-- `stop_workspace_runtime`. Its detach is the one of a delete. -/
def stopOnEngine (env : OrchestratorEnv) (e : DockerEngine) (ans : StopAnswers) (wid : Nat)
    (containerId : Option String) (releaseIpLease : Bool) :
    DockerEngine × Outcome String WorkspaceStopResult :=
  if placementStrictEnforced env.cfg && stripOr containerId = "" then
    (e, .returned { success := false, issues := ["runtime:authoritative_container_id_required"] })
  else match ans.inspectError, deleteDetachTopologyBestEffort ans.detach [] with
    | some m, _ => (e, .raised ("inspect_container failed: " ++ m))
    | none, .error m => (e, .raised m)
    | none, .ok (detached, issues) =>
        let ref := containerRef wid containerId
        let found := e.get ref
        let cid := strip ((found.map (·.1)).getD ref)
        let before := (found.map (·.2.state.status)).getD "missing"
        match stopContainerBestEffort e ans cid issues with
        | (e, .error m) => (e, .raised m)
        | (e, .ok (stopped, state, issues)) =>
            let issues := if releaseIpLease then
              match ans.ipReleaseError with
              | some m => issues ++ ["topology:ip_release_failed:" ++ m]
              | none => issues
              else issues
            (e, .returned
              { success := stopWorkspaceSuccessRollUp stopped detached issues
                containerId := if cid = "" then none else some cid
                containerState := state.or (some before)
                topologyDetached := some detached
                issues := issuesOrNone issues })

theorem stopContainer_same (e : DockerEngine) (ans : Except EngineFault EngineState) (ref : String) :
    SameContainers e (DockerRuntimeAdapter.stopContainer e ans ref).1 := by
  unfold DockerRuntimeAdapter.stopContainer
  split
  · exact .refl e
  · split
    · exact .refl e
    · split
      · exact .refl e
      · exact SameContainers.setState e _ _

theorem stopContainerBestEffort_same (e : DockerEngine) (ans : StopAnswers) (cid : String)
    (issues : List String) : SameContainers e (stopContainerBestEffort e ans cid issues).1 := by
  have hstop := stopContainer_same e ans.stop cid
  unfold stopContainerBestEffort
  split
  · exact .refl e
  · split <;> (rename_i heq; rw [heq] at hstop; exact hstop)

/-- A stop changes no container but for its state. -/
theorem stopOnEngine_same (env : OrchestratorEnv) (e : DockerEngine) (ans : StopAnswers)
    (wid : Nat) (containerId : Option String) (releaseIpLease : Bool) :
    SameContainers e (stopOnEngine env e ans wid containerId releaseIpLease).1 := by
  unfold stopOnEngine
  split
  · exact .refl e
  · split
    · exact .refl e
    · exact .refl e
    · rename_i detached issues _ _
      dsimp only
      have hstop := stopContainerBestEffort_same e ans
        (strip (((e.get (containerRef wid containerId)).map (·.1)).getD
          (containerRef wid containerId))) issues
      split <;> (rename_i heq; rw [heq] at hstop; exact hstop)

/-! ## Bring-up -/

/-- The limits a caller asks for; `none` takes the default. -/
structure RuntimeOverrides where
  cpuLimitCores : Option ℚ := none
  memoryLimitMib : Option Int := none
  pidsLimit : Option Int := none
  deriving DecidableEq, Repr

/-- The limits of a bring-up. -/
structure RuntimeLimits where
  cpuLimitCores : ℚ
  memoryLimitMib : Int
  pidsLimit : Int
  deriving DecidableEq, Repr

/-- The limits as the engine holds them. -/
def RuntimeLimits.quotas (l : RuntimeLimits) : Quotas :=
  DockerRuntimeAdapter.quotasOf (some l.cpuLimitCores) (some (l.memoryLimitMib * 1024 * 1024))
    (some l.pidsLimit)

/-- `_resolve_bringup_runtime_limits_triplet`. -/
def resolveBringupRuntimeLimitsTriplet (env : OrchestratorEnv) (o : RuntimeOverrides) :
    Except String RuntimeLimits :=
  let cpu := o.cpuLimitCores.getD env.devnestWorkspaceCpuLimit
  let mem := o.memoryLimitMib.getD env.devnestWorkspaceMemoryLimitMb
  let pids := o.pidsLimit.getD env.devnestWorkspacePidsLimit
  if cpu ≤ 0 then .error "runtime:cpu_limit_cores:must_be_positive_finite"
  else if mem ≤ 0 then .error "runtime:memory_limit_mib:must_be_positive"
  else if pids ≤ 0 then .error "runtime:pids_limit:must_be_positive"
  else .ok ⟨cpu, mem, pids⟩

/-- `WorkspaceBringUpError`, or another exception. -/
inductive BringUpFault where
  | bringUpError (message : String)
  | other (message : String)
  deriving DecidableEq, Repr

/-- The text of the error both `except` branches raise. -/
def BringUpFault.message : BringUpFault → String
  | .bringUpError m => m
  | .other m => "unexpected bring-up failure: " ++ m

/-- What one bring-up meets besides the engine's containers. -/
structure BringUpAnswers where
  /-- The directory to bind, for the launch mode. -/
  projectDir : Option String → Outcome String String
  /-- `_code_server_extra_bind_mounts` and the checks of the bind sources. -/
  codeServerMounts : Except BringUpFault (List BindMount)
  engine : EngineAnswers
  attach : Except BringUpFault Unit := .ok ()
  probe : Except String HealthProbe
  rollbackStop : StopAnswers := {}
  rollbackRetry : StopAnswers := {}

structure BringUpRequest where
  wid : Nat
  requestedConfigVersion : Option Int
  overrides : RuntimeOverrides := {}
  env : Table String String := ∅
  launchMode : Option String := none

def configVersionLabel : String := "devnest.config_version"

/-- The labels of `_bring_up_build_context`. -/
def bringUpLabels (wid : Nat) (requestedConfigVersion : Option Int) : Table String String :=
  let labels : Table String String := AList.insert "devnest.managed_by" "orchestrator"
    (AList.insert "devnest.workspace_id" (toString wid) ∅)
  match requestedConfigVersion with
  | none => labels
  | some v => AList.insert configVersionLabel (toString v) labels

def authModeMessage : String := "DEVNEST_WORKSPACE_AUTH_MODE must be either 'none' or 'password'"

def isAuthMode (mode : String) : Bool := mode = "none" || mode = "password"

/-- `_code_server_env`. -/
def codeServerEnv (env : OrchestratorEnv) (wid : Nat) : Except String (Table String String) :=
  let authMode := lower (strip (orText env.devnestWorkspaceAuthMode "none"))
  if !isAuthMode authMode then .error authModeMessage
  else
    let vars : Table String String := [("CS_DISABLE_GETTING_STARTED_OVERRIDE", "1"),
      ("CODE_SERVER_AUTH", authMode), ("DEVNEST_WORKSPACE_AUTH_MODE", authMode),
      ("DEVNEST_WORKSPACE_ID", toString wid), ("DEVNEST_NODE_KEY", strip env.nodeId),
      ("PORT", "8080")].foldl (fun t x => AList.insert x.1 x.2 t) ∅
    .ok (if authMode = "password" && env.devnestWorkspacePassword ≠ "" then
      AList.insert "DEVNEST_WORKSPACE_PASSWORD" env.devnestWorkspacePassword vars else vars)

/-- The environment of `_bring_up_start_container`: the caller's values win. -/
def mergedEnv (env : OrchestratorEnv) (wid : Nat) (callerEnv : Table String String) :
    Except String (Table String String) :=
  match codeServerEnv env wid with
  | .error m => .error m
  | .ok base =>
      let vars := callerEnv.entries.foldl (fun t x => AList.insert x.1 x.2 t) base
      let text := fun k => ((vars.lookup k).getD "")
      let authMode := lower (strip (orText (text "DEVNEST_WORKSPACE_AUTH_MODE")
        (orText (text "CODE_SERVER_AUTH") "none")))
      let vars := AList.insert "CODE_SERVER_AUTH" authMode
        (AList.insert "DEVNEST_WORKSPACE_AUTH_MODE" authMode vars)
      if !isAuthMode authMode then .error authModeMessage
      else if authMode = "none" then
        .ok ((vars.erase "PASSWORD").erase "DEVNEST_WORKSPACE_PASSWORD")
      else if strip (text "DEVNEST_WORKSPACE_PASSWORD") = "" then
        .error "DEVNEST_WORKSPACE_AUTH_MODE=password requires DEVNEST_WORKSPACE_PASSWORD"
      else .ok vars

def buildWorkspaceContainerSecuritySpec (env : OrchestratorEnv) : WorkspaceContainerSecuritySpec where
  securityOpt :=
    (if env.devnestWorkspaceSecurityNoNewPrivileges then ["no-new-privileges:true"] else []) ++
      if env.devnestWorkspaceSecuritySeccompDefault then [] else ["seccomp=unconfined"]
  capDrop := env.devnestWorkspaceSecurityCapDrop
  readOnlyRootfs := env.devnestWorkspaceSecurityReadOnlyRootfs
  seccompMode :=
    if env.devnestWorkspaceSecuritySeccompDefault then "engine_default" else "unconfined"

def workspaceIdeContainerPort : Int := 8080

/-- What bring-up asks `ensure_container` for. -/
def containerRequest (env : OrchestratorEnv) (req : BringUpRequest) (limits : RuntimeLimits)
    (hostPath : String) (mounts : List BindMount) (vars : Table String String) :
    ContainerRequest where
  name := sanitizeContainerName (toString req.wid)
  image := env.workspaceImage
  ports := [(0, workspaceIdeContainerPort)]
  securitySpec := some (buildWorkspaceContainerSecuritySpec env)
  cpuLimit := some limits.cpuLimitCores
  memoryLimitBytes := some (limits.memoryLimitMib * 1024 * 1024)
  pidsLimit := some limits.pidsLimit
  env := vars
  labels := bringUpLabels req.wid req.requestedConfigVersion
  workspaceHostPath := some hostPath
  extraBindMounts := mounts

/-- `_bring_up_start_container`. -/
def bringUpStartContainer (env : OrchestratorEnv) (e : DockerEngine) (req : BringUpRequest)
    (ans : BringUpAnswers) (hostPath : String) (limits : RuntimeLimits) :
    DockerEngine × Except BringUpFault (String × EngineState) :=
  match mergedEnv env req.wid req.env, ans.codeServerMounts with
  | .error m, _ => (e, .error (.bringUpError m))
  | .ok _, .error f => (e, .error f)
  | .ok vars, .ok mounts =>
      match DockerRuntimeAdapter.ensureRunningRuntimeOnly e ans.engine
          (containerRequest env req limits hostPath mounts vars) with
      | (e, .ok running) => (e, .ok running)
      | (e, .error (.runtimeAdapterError m)) =>
          (e, .error (.bringUpError ("runtime bring-up failed: " ++ m)))
      | (e, .error (.other m)) => (e, .error (.other m))

/-- `_bring_up_attach_topology` and `_bring_up_run_probe`. -/
def bringUpAttachAndProbe (env : OrchestratorEnv) (ans : BringUpAnswers) (cid : String)
    (state : EngineState) : Except BringUpFault WorkspaceBringUpResult :=
  match ans.attach, ans.probe with
  | .error f, _ => .error f
  | .ok (), .error m => .error (.bringUpError ("probe health check failed: " ++ m))
  | .ok (), .ok h => .ok
      { success := h.healthy
        nodeId := some env.nodeId
        topologyId := some (toString env.topologyId)
        containerId := some cid
        containerState := (h.containerState.filter (· ≠ "")).or (some state.status)
        internalEndpoint := h.internalEndpoint
        gatewayRouteTarget := h.gatewayRouteTarget
        probeHealthy := some h.healthy
        issues := issuesOrNone h.issues }

/-- What the compensating rollback reports. -/
structure Rollback where
  succeeded : Bool
  issues : List String
  stop : Option WorkspaceStopResult

/-- The issue of a rollback attempt that did not stop the workspace. -/
def rollbackIssue (attempt : Nat) : Outcome String WorkspaceStopResult → List String
  | .returned r => ["rollback:stop_incomplete:" ++ toString attempt ++ ":" ++
      join "," (if r.issues = [] then ["no_issues_field"] else r.issues)]
  | .raised m => ["rollback:stop_error:" ++ toString attempt ++ ":" ++ m]
  | .crashed => []

def Outcome.result? {ε α : Type} : Outcome ε α → Option α
  | .returned a => some a
  | _ => none

/-- `_bring_up_compensating_rollback`: at most two stops. -/
def bringUpCompensatingRollback (env : OrchestratorEnv) (e : DockerEngine) (ans : BringUpAnswers)
    (wid : Nat) (cid : Option String) : DockerEngine × Rollback :=
  match stopOnEngine env e ans.rollbackStop wid cid true with
  | (e₁, first) =>
      if (first.result?.map (·.success)).getD false then (e₁, ⟨true, [], first.result?⟩)
      else match stopOnEngine env e₁ ans.rollbackRetry wid cid true with
        | (e₂, second) =>
            if (second.result?.map (·.success)).getD false then
              (e₂, ⟨true, rollbackIssue 1 first, second.result?⟩)
            else (e₂, ⟨false, rollbackIssue 1 first ++ rollbackIssue 2 second,
              second.result?.or first.result?⟩)

/-- `_bringup_result_with_applied`. -/
def bringupResultWithApplied (env : OrchestratorEnv) (r : WorkspaceBringUpResult)
    (limits : RuntimeLimits) : WorkspaceBringUpResult :=
  { r with
    appliedCpuLimitCores := some limits.cpuLimitCores
    appliedMemoryLimitMib := some limits.memoryLimitMib
    appliedPidsLimit := some limits.pidsLimit
    appliedSecurityOptions := some (buildWorkspaceContainerSecuritySpec env) }

/-- The error after a rollback. -/
def rolledBackError (f : BringUpFault) (rb : Rollback) (cid : Option String) :
    WorkspaceBringUpError where
  message := f.message
  rollbackAttempted := true
  rollbackSucceeded := some rb.succeeded
  rollbackIssues := rb.issues
  rollbackContainerId := (rb.stop.bind (·.containerId)).or cid
  rollbackContainerState := rb.stop.bind (·.containerState)

/-- The result after a rollback: the probe was not healthy. -/
def rolledBackResult (r : WorkspaceBringUpResult) (rb : Rollback) : WorkspaceBringUpResult :=
  { r with
    success := false
    containerId := (rb.stop.bind (·.containerId)).or r.containerId
    containerState := (rb.stop.bind (·.containerState)).or r.containerState
    internalEndpoint := if rb.succeeded then none else r.internalEndpoint
    gatewayRouteTarget := if rb.succeeded then none else r.gatewayRouteTarget
    probeHealthy := some false
    issues := issuesOrNone (r.issues ++ rb.issues)
    rollbackAttempted := true
    rollbackSucceeded := some rb.succeeded
    rollbackIssues := issuesOrNone rb.issues }

/-- `bring_up_workspace_runtime`. -/
def bringUpOnEngine (env : OrchestratorEnv) (e : DockerEngine) (req : BringUpRequest)
    (ans : BringUpAnswers) : DockerEngine × Outcome WorkspaceBringUpError WorkspaceBringUpResult :=
  match ans.projectDir req.launchMode, resolveBringupRuntimeLimitsTriplet env req.overrides with
  | .crashed, _ => (e, .crashed)
  | .raised m, _ => (e, .raised (.ofMessage m))
  | .returned _, .error m => (e, .raised (.ofMessage m))
  | .returned hostPath, .ok limits =>
      match bringUpStartContainer env e req ans hostPath limits with
      | (e₁, .error f) =>
          match bringUpCompensatingRollback env e₁ ans req.wid none with
          | (e₂, rb) => (e₂, .raised (rolledBackError f rb none))
      | (e₁, .ok (cid, state)) =>
          match bringUpAttachAndProbe env ans cid state with
          | .error f =>
              match bringUpCompensatingRollback env e₁ ans req.wid (some cid) with
              | (e₂, rb) => (e₂, .raised (rolledBackError f rb (some cid)))
          | .ok r =>
              if r.success then (e₁, .returned (bringupResultWithApplied env r limits))
              else match bringUpCompensatingRollback env e₁ ans req.wid (some cid) with
                | (e₂, rb) =>
                    (e₂, .returned (bringupResultWithApplied env (rolledBackResult r rb) limits))

/-- The container a bring-up would reuse. -/
def BringUpAnswers.reused (ans : BringUpAnswers) (e : DockerEngine) (req : BringUpRequest) :
    Option WorkspaceContainer :=
  match ans.projectDir req.launchMode, ans.codeServerMounts with
  | .returned hostPath, .ok mounts => DockerRuntimeAdapter.reusable e
      (sanitizeContainerName (toString req.wid)) (some hostPath) mounts
  | _, _ => none

theorem BringUpAnswers.reused_spec {e e' : DockerEngine} (h : SameContainers e e')
    (ans : BringUpAnswers) (req : BringUpRequest) :
    (ans.reused e' req).map (·.spec) = (ans.reused e req).map (·.spec) := by
  unfold BringUpAnswers.reused
  split
  · exact DockerRuntimeAdapter.reusable_spec h ..
  · rfl

theorem bringUpStartContainer_ok {env : OrchestratorEnv} {e e' : DockerEngine}
    {req : BringUpRequest} {ans : BringUpAnswers} {hostPath cid : String} {limits : RuntimeLimits}
    {state : EngineState} (hdir : ans.projectDir req.launchMode = .returned hostPath)
    (h : bringUpStartContainer env e req ans hostPath limits = (e', .ok (cid, state))) :
    ∃ c, e'.containers.lookup cid = some c ∧
      c.labels = ((ans.reused e req).map (·.labels)).getD
        (bringUpLabels req.wid req.requestedConfigVersion) ∧
      c.quotas = ((ans.reused e req).map (·.quotas)).getD limits.quotas ∧
      c.image = ((ans.reused e req).map (·.image)).getD (resolveImage env.workspaceImage) := by
  unfold bringUpStartContainer at h
  split at h
  · cases h
  · cases h
  · rename_i vars mounts _ hmounts
    split at h
    · rename_i e₁ running hrun
      obtain ⟨rfl, hok⟩ := Prod.mk.inj h
      obtain rfl := Except.ok.inj hok
      obtain ⟨e₂, r, hensure, rfl, hsame⟩ := DockerRuntimeAdapter.ensureRunningRuntimeOnly_ok hrun
      obtain ⟨c, hc, hlabels, hquotas, himage⟩ := DockerRuntimeAdapter.ensureContainer_ok rfl hensure
      obtain ⟨c', hc', hspec⟩ := hsame.lookup hc
      refine ⟨c', hc', ?_, ?_, ?_⟩
      · simp only [BringUpAnswers.reused, hdir, hmounts]
        exact (WorkspaceContainer.labels_of_spec hspec).trans hlabels
      · simp only [BringUpAnswers.reused, hdir, hmounts]
        exact (WorkspaceContainer.quotas_of_spec hspec).trans hquotas
      · simp only [BringUpAnswers.reused, hdir, hmounts]
        exact (WorkspaceContainer.image_of_spec hspec).trans himage
    · cases h
    · cases h

/-- **A successful bring-up** names a container with the labels and limits of the one it
reused, or of the request; the limits it reports are those of the request. -/
theorem bringUpOnEngine_success {env : OrchestratorEnv} {e e' : DockerEngine}
    {req : BringUpRequest} {ans : BringUpAnswers} {r : WorkspaceBringUpResult}
    (h : bringUpOnEngine env e req ans = (e', .returned r)) (hs : r.success = true) :
    ∃ limits cid c, resolveBringupRuntimeLimitsTriplet env req.overrides = .ok limits ∧
      r.appliedCpuLimitCores = some limits.cpuLimitCores ∧
      r.appliedMemoryLimitMib = some limits.memoryLimitMib ∧
      r.appliedPidsLimit = some limits.pidsLimit ∧ r.nodeId = some env.nodeId ∧
      r.containerId = some cid ∧ e'.containers.lookup cid = some c ∧
      c.labels = ((ans.reused e req).map (·.labels)).getD
        (bringUpLabels req.wid req.requestedConfigVersion) ∧
      c.quotas = ((ans.reused e req).map (·.quotas)).getD limits.quotas ∧
      c.image = ((ans.reused e req).map (·.image)).getD (resolveImage env.workspaceImage) := by
  unfold bringUpOnEngine at h
  split at h
  · cases h
  · cases h
  · cases h
  · rename_i hostPath limits hdir hlimits
    split at h
    · cases h
    · rename_i e₁ cid state hstart
      cases hprobe : bringUpAttachAndProbe env ans cid state with
      | error f =>
          rw [hprobe] at h
          cases h
      | ok up =>
          rw [hprobe] at h
          dsimp only at h
          split at h
          · obtain ⟨rfl, hr⟩ := Prod.mk.inj h
            injection hr with hr
            subst hr
            obtain ⟨c, hc, hlabels, hquotas, himage⟩ := bringUpStartContainer_ok hdir hstart
            unfold bringUpAttachAndProbe at hprobe
            split at hprobe
            · cases hprobe
            · cases hprobe
            · obtain rfl := Except.ok.inj hprobe
              exact ⟨limits, cid, c, hlimits, rfl, rfl, rfl, rfl, rfl, hc, hlabels, hquotas, himage⟩
          · obtain ⟨-, hr⟩ := Prod.mk.inj h
            injection hr with hr
            subst hr
            cases hs

/-! ## Restart and update -/

/-- What a restart meets. -/
structure RestartAnswers where
  stop : StopAnswers := {}
  /-- `_workspace_project_host_dir_exists`. -/
  projectHostDirExists : Bool := true
  bringUp : BringUpAnswers

/-- The bring-up of a restart: no limits and no environment are passed on. -/
def restartRequest (wid : Nat) (requestedConfigVersion : Option Int) (ans : RestartAnswers) :
    BringUpRequest where
  wid := wid
  requestedConfigVersion := requestedConfigVersion
  launchMode := if ans.projectHostDirExists then some "resume" else none

/-- The calls a restart makes: the engine after them and what they came to. -/
def restartCalls (env : OrchestratorEnv) (e : DockerEngine) (ans : RestartAnswers) (wid : Nat)
    (containerId : Option String) (requestedConfigVersion : Option Int) :
    DockerEngine × Outcome String WorkspaceStopResult ×
      Outcome WorkspaceBringUpError WorkspaceBringUpResult :=
  match stopOnEngine env e ans.stop wid containerId false with
  | (e₁, stop) =>
      if (stop.result?.map (·.success)).getD false then
        match bringUpOnEngine env e₁ (restartRequest wid requestedConfigVersion ans)
            ans.bringUp with
        | (e₂, up) => (e₂, stop, up)
      else (e₁, stop, .crashed)

/-- `restart_workspace_runtime` on the engine. -/
def restartOnEngine (env : OrchestratorEnv) (e : DockerEngine) (ans : RestartAnswers) (wid : Nat)
    (containerId : Option String) (requestedConfigVersion : Option Int) :
    DockerEngine × Outcome String WorkspaceRestartResult :=
  match restartCalls env e ans wid containerId requestedConfigVersion with
  | (e', stop, up) => (e', restartWorkspaceRuntime env.nodeId env.topologyId stop up)

/-- `inspect_container`. -/
def inspectOnEngine (e : DockerEngine) (ref : String) : ContainerInspection :=
  match e.get ref with
  | none => { existing := false, containerState := some "missing" }
  | some (i, c) =>
      { existing := true
        containerId := some i
        containerState := some c.state.status
        configVersionLabel := c.labels.lookup configVersionLabel }

structure UpdateAnswers where
  inspectError : Option String := none
  probe : Except String HealthProbe := .error ""
  restart : RestartAnswers

/-- The update goes past its checks and its no-op branch. -/
def updateRestarts (env : OrchestratorEnv) (e : DockerEngine) (ans : UpdateAnswers) (wid : Nat)
    (containerId : Option String) (requested : Int) : Bool :=
  0 ≤ requested && !(placementStrictEnforced env.cfg && stripOr containerId = "") &&
    ans.inspectError.isNone &&
    configVersionFromInspection (inspectOnEngine e (containerRef wid containerId)) ≠ requested

/-- `update_workspace_runtime` on the engine. -/
def updateOnEngine (env : OrchestratorEnv) (e : DockerEngine) (ans : UpdateAnswers) (wid : Nat)
    (containerId : Option String) (requested : Int) :
    DockerEngine × Outcome String WorkspaceUpdateResult :=
  let inspect := match ans.inspectError with
    | some m => .error m
    | none => .ok (inspectOnEngine e (containerRef wid containerId))
  match restartCalls env e ans.restart wid containerId (some requested) with
  | (e', stop, up) =>
      (if updateRestarts env e ans wid containerId requested then e' else e,
        updateWorkspaceRuntime (placementStrictEnforced env.cfg) env.nodeId env.topologyId
          containerId (sanitizeContainerName (toString wid)) requested inspect ans.probe stop up)

end Devnest
