import Devnest.PosixFs
import Devnest.Runs

/-!
# Project directories

Each bring-up works out anew which host directory is bound at the
container's project path. The bundle directory is made or found on the
execution host; whether it has a `project` subdirectory is then looked up by
the worker on the worker's own disk, which is the same disk for local Docker
only. Snapshots choose their tree in the same way.

Over SSH a script that is one word of `sh -c` does not arrive (`RemoteCommand`):
the shell of the host runs its first word alone. The probe for the bundle and
the `tar` of a snapshot are such scripts. The words of `mkdir -p` arrive, for a
base of plain names.

Machines have a disk each. A run is about one workspace: bring-ups of any
worker on any machine, changes that its user makes inside the bound
directory, snapshots, and changes elsewhere on the disks.
-/

namespace Devnest

open Posix Runs

/-! ## Names -/

def isPathNameChar (c : Char) : Bool :=
  ('a' ≤ c && c ≤ 'z') || ('A' ≤ c && c ≤ 'Z') || ('0' ≤ c && c ≤ '9')

/-- `^[a-zA-Z0-9][a-zA-Z0-9_.-]{0,127}$`. -/
def safePathName (s : String) : Bool :=
  match s.toList with
  | [] => false
  | c :: cs => isPathNameChar c && decide (cs.length ≤ 127) &&
      cs.all fun d => isPathNameChar d || d == '_' || d == '.' || d == '-'

/-- `_validate_workspace_id_for_path`. -/
def validateWorkspaceIdForPath (workspaceId : String) : Except String String :=
  if safePathName (PyText.strip workspaceId) then .ok (PyText.strip workspaceId)
  else .error ("unsafe or empty workspace_id for host path: " ++ PyText.repr workspaceId)

/-- `_validate_workspace_storage_key_for_path`. -/
def validateWorkspaceStorageKeyForPath : Option String → Except String (Option String)
  | none => .ok none
  | some key =>
      if PyText.strip key = "" then .ok none
      else if safePathName (PyText.strip key) then .ok (some (PyText.strip key))
      else .error ("unsafe workspace project storage key for host path: " ++ PyText.repr key)

/-- The configured projects base, by its names, and the workspace. -/
structure ProjectRef where
  base : List String
  workspaceId : String
  projectStorageKey : Option String := none

/-- `workspace_project_dir_name`. -/
def workspaceProjectDirName (ref : ProjectRef) : Except String String := do
  let wid ← validateWorkspaceIdForPath ref.workspaceId
  match ← validateWorkspaceStorageKeyForPath ref.projectStorageKey with
  | none => return wid
  | some key => return wid ++ "-" ++ key

/-- `WORKSPACE_USER_PROJECT_SUBDIR`. -/
def userProjectSubdir : String := "project"

def pathText (p : Path) : String := "/" ++ PyText.join "/" p

/-! ## One disk -/

/-- What the machine answers while a directory is made: whether a call for the probe goes
through, the error of the ownership steps, and the text of a failed `mkdir`. -/
structure HostAnswer where
  probeRuns : Bool := true
  chown : Option String := none
  mkdirError : String := ""

/-- A `ValueError` becomes the caller's own error; anything else passes through. -/
inductive EnsureError where
  | value (message : String)
  | other (message : String)
  deriving DecidableEq, Repr

/-- `default_local_ensure_workspace_project_dir`. -/
def defaultLocalEnsureWorkspaceProjectDir (ans : HostAnswer) (fs : Fs) (base : Path) (dir : String)
    (allowCreate : Bool) : Fs × Except EnsureError Path :=
  let finish (fs : Fs) (p : Path) : Fs × Except EnsureError Path :=
    match ans.chown with
    | some e => (fs, .error (.other e))
    | none => (fs, .ok p)
  match realpath fs (base ++ [dir]) with
  | none => (fs, .error (.value ("cannot create workspace project directory " ++
      pathText (base ++ [dir]) ++ ": " ++ ans.mkdirError)))
  | some p =>
      if isDir fs p then finish fs p
      else if !allowCreate then
        (fs, .error (.value ("workspace project directory missing for resume (expected data at " ++
          pathText p ++ "); restore from snapshot or recreate the directory before starting.")))
      else
        match mkdirs fs [] p with
        | (fs, false) => (fs, .error (.value ("cannot create workspace project directory " ++
            pathText p ++ ": " ++ ans.mkdirError)))
        | (fs, true) => finish fs p

inductive ExecutionMode where
  | localDocker | sshDocker | ssmDocker
  deriving DecidableEq, Repr

/-- The probe `sh -lc 'test -d …'` on the execution host. Over SSH the script is `test`, which is
false without an argument. -/
def remoteTestDir (mode : ExecutionMode) (ans : HostAnswer) (fs : Fs) (remotePath : Path) : Bool :=
  mode != .sshDocker && ans.probeRuns && isDir fs remotePath

/-- `ssh_remote_ensure_workspace_project_dir`, for SSM too. -/
def sshRemoteEnsureWorkspaceProjectDir (mode : ExecutionMode) (ans : HostAnswer) (fs : Fs)
    (base : Path) (dir : String) (allowCreate : Bool) : Fs × Except EnsureError Path :=
  let remotePath := base ++ [dir]
  let finish (fs : Fs) : Fs × Except EnsureError Path :=
    match ans.chown with
    | some e => (fs, .error (.other e))
    | none => (fs, .ok remotePath)
  if remoteTestDir mode ans fs remotePath then finish fs
  else if !allowCreate then
    (fs, .error (.value ("workspace project directory missing on execution host for resume " ++
      "(expected " ++ PyText.repr (pathText remotePath) ++
      "); restore from snapshot or recreate before starting.")))
  else
    match mkdirs fs [] remotePath with
    | (fs, false) => (fs, .error (.other ans.mkdirError))
    | (fs, true) => finish fs

/-- `workspace_bundle_has_legacy_root_level_files`. -/
def workspaceBundleHasLegacyRootLevelFiles (fs : Fs) (bundleRoot : Path) : Bool :=
  isDir fs bundleRoot && fs.keys.any fun q =>
    match q.getLast? with
    | none => false
    | some name => q.dropLast == bundleRoot && name != userProjectSubdir && name != "code-server" &&
        !PyText.startsWith name "."

/-- The launch mode, if one is given. -/
def normalizedLaunchMode (launchModeRaw : Option String) : Option String :=
  launchModeRaw.map fun m => PyText.lower (PyText.strip m)

/-- `resolve_workspace_ide_bind_host_path`: the path to bind, or `none` when it raises. -/
def resolveWorkspaceIdeBindHostPath (fs : Fs) (bundle : Path) (launchModeRaw : Option String) :
    Fs × Option Path :=
  match realpath fs bundle with
  | none => (fs, none)
  | some br =>
      let pr := br ++ [userProjectSubdir]
      if isDir fs pr then (fs, realpath fs pr)
      else if normalizedLaunchMode launchModeRaw = some "new" ||
          (launchModeRaw.isNone && !workspaceBundleHasLegacyRootLevelFiles fs br) then
        match mkdirs fs [] pr with
        | (fs, false) => (fs, none)
        | (fs, true) => (fs, realpath fs pr)
      else (fs, realpath fs br)

/-- The bundle a bound path belongs to. -/
def bundleOfBind (path : Path) : Path :=
  if path.getLast? = some userProjectSubdir then path.dropLast else path

/-- The directories that `_code_server_extra_bind_mounts` makes: on a remote host the project
directory is among them. -/
def codeServerDirs (remote : Bool) (path : Path) : List Path :=
  (if remote then [path] else []) ++
    [bundleOfBind path ++ ["code-server", "config"], bundleOfBind path ++ ["code-server", "data"]]

def mkdirsAll (fs : Fs) : List Path → Fs × Bool
  | [] => (fs, true)
  | p :: ps =>
      match mkdirs fs [] p with
      | (fs, false) => (fs, false)
      | (fs, true) => mkdirsAll fs ps

/-! ## The machines -/

/-- A bring-up that got as far as a container with `path` bound at the project path. -/
structure Binding where
  worker : Nat
  host : Nat
  path : Path
  deriving DecidableEq, Repr

/-- A snapshot of a workspace that is not running: the tree it read or replaced, and the last
binding before it. -/
structure SnapshotRun where
  machine : Nat
  path : Path
  bound : Binding
  deriving DecidableEq, Repr

structure Site where
  disks : Nat → Fs
  /-- The project bind of the workspace's container on each machine. -/
  containers : Nat → Option Path := fun _ => none
  /-- The machine it runs on. -/
  running : Option Nat := none
  /-- Bundle paths the workspace has used, by machine. -/
  bundles : List (Nat × Path) := []
  log : List Binding := []
  snapshots : List SnapshotRun := []

def Site.setDisk (s : Site) (m : Nat) (fs : Fs) : Site :=
  { s with disks := Function.update s.disks m fs }

/-- Local Docker is the worker's own engine. -/
def engineHost (mode : ExecutionMode) (worker host : Nat) : Nat :=
  if mode = .localDocker then worker else host

def ensureWorkspaceProjectDir (mode : ExecutionMode) (ans : HostAnswer) (fs : Fs) (base : Path)
    (dir : String) (allowCreate : Bool) : Fs × Except EnsureError Path :=
  if mode = .localDocker then defaultLocalEnsureWorkspaceProjectDir ans fs base dir allowCreate
  else sshRemoteEnsureWorkspaceProjectDir mode ans fs base dir allowCreate

structure BringUpAnswer extends HostAnswer where
  /-- The bind sources are ready and the container is there. -/
  containerOk : Bool := true

/-- `ensure_container`: the Docker adapter replaces a container with other binds, the SSM one
takes any container of that name. -/
def bindContainer (mode : ExecutionMode) (existing : Option Path) (path : Path) : Path :=
  if mode = .ssmDocker then existing.getD path else path

section Operations

variable (ref : ProjectRef)

/-- The bring-up after the path is chosen: the code-server directories and the container. -/
def startWorkspaceContainer (s : Site) (worker host : Nat) (mode : ExecutionMode)
    (ans : BringUpAnswer) (path : Path) : Site :=
  match mkdirsAll (s.disks host) (codeServerDirs (mode != .localDocker) path) with
  | (disk, false) => s.setDisk host disk
  | (disk, true) =>
      let s := s.setDisk host disk
      let bound := bindContainer mode (s.containers host) path
      if !ans.containerOk then s
      else
        { s with
          containers := Function.update s.containers host (some bound)
          running := some host
          log := ⟨worker, host, bound⟩ :: s.log }

/-- The bring-up from the bundle on: the worker looks for `project` on its own disk. -/
def bindWorkspaceProject (s : Site) (worker host : Nat) (mode : ExecutionMode)
    (launchMode : Option String) (ans : BringUpAnswer) (bundle : Path) : Site :=
  match resolveWorkspaceIdeBindHostPath (s.disks worker) bundle launchMode with
  | (disk, none) => s.setDisk worker disk
  | (disk, some path) =>
      startWorkspaceContainer (s.setDisk worker disk) worker host mode ans path

/-- The bundle directory is worked with on these two machines. -/
def Site.useBundle (s : Site) (worker host : Nat) (bundle : Path) : Site :=
  { s with bundles := (worker, bundle) :: (host, bundle) :: s.bundles }

/-- `bring_up_workspace_runtime` as far as the bind of the project directory. -/
def bringUpWorkspaceRuntime (s : Site) (worker host : Nat) (mode : ExecutionMode)
    (launchMode : Option String) (ans : BringUpAnswer) : Site :=
  let host := engineHost mode worker host
  match workspaceProjectDirName ref, realpath (s.disks worker) ref.base with
  | .ok dir, some base =>
      let s := s.useBundle worker host (base ++ [dir])
      let allowCreate := (normalizedLaunchMode launchMode).all (· == "new")
      match ensureWorkspaceProjectDir mode ans.toHostAnswer (s.disks host) base dir allowCreate with
      | (disk, .error _) => s.setDisk host disk
      | (disk, .ok bundle) =>
          bindWorkspaceProject (s.setDisk host disk) worker host mode launchMode ans bundle
  | _, _ => s

/-- `_workspace_project_path_for_snapshot`. -/
def workspaceProjectPathForSnapshot (s : Site) (worker host : Nat) (mode : ExecutionMode)
    (ans : HostAnswer) : Site × Option Path :=
  match workspaceProjectDirName ref, realpath (s.disks worker) ref.base with
  | .ok dir, some base =>
      let s := s.useBundle worker host (base ++ [dir])
      match ensureWorkspaceProjectDir mode ans (s.disks host) base dir true with
      | (disk, .error _) => (s.setDisk host disk, none)
      | (disk, .ok bundle) =>
          let s := s.setDisk host disk
          match realpath (s.disks worker) bundle with
          | none => (s, none)
          | some bundle =>
              let pr := bundle ++ [userProjectSubdir]
              (s, some (if isDir (s.disks worker) pr then pr else bundle))
  | _, _ => (s, none)

/-- The tree a snapshot works on: a directory of the worker's own disk. Without one it fails:
over SSH the host runs `tar` without arguments, or `mkdir` without arguments in front of it. -/
def snapshotTree (s : Site) (worker : Nat) (root : Path) : Option Path :=
  (realpath (s.disks worker) root).filter fun rootPath => isDir (s.disks worker) rootPath

/-- Note a snapshot that succeeded. -/
def Site.noteSnapshot (s : Site) (machine : Nat) (path : Path) : Site :=
  match s.running, s.log with
  | none, bound :: _ => { s with snapshots := ⟨machine, path, bound⟩ :: s.snapshots }
  | _, _ => s

structure SnapshotAnswer extends HostAnswer where
  /-- The archive is written, or read and accepted. -/
  archiveOk : Bool := true

/-- `export_workspace_filesystem_snapshot`; a running workspace is read through its
container. -/
def exportWorkspaceFilesystemSnapshot (s : Site) (worker host : Nat) (mode : ExecutionMode)
    (containerId : Option String) (ans : SnapshotAnswer) : Site :=
  let host := engineHost mode worker host
  if (PyText.stripOrNone containerId).isSome && mode != .ssmDocker && s.running = some host then s
  else if (PyText.stripOrNone containerId).isSome && mode = .ssmDocker then s
  else
    match workspaceProjectPathForSnapshot ref s worker host mode ans.toHostAnswer with
    | (s, none) => s
    | (s, some root) =>
        if !ans.archiveOk then s
        else
          match snapshotTree s worker root with
          | none => s
          | some path => s.noteSnapshot worker path

/-- `import_workspace_filesystem_snapshot`: a tree of the worker is replaced. -/
def importWorkspaceFilesystemSnapshot (s : Site) (worker host : Nat) (mode : ExecutionMode)
    (content : List (Path × Node)) (ans : SnapshotAnswer) : Site :=
  let host := engineHost mode worker host
  let changes := content.map fun c => (c.1, some c.2)
  match workspaceProjectPathForSnapshot ref s worker host mode ans.toHostAnswer with
  | (s, none) => s
  | (s, some root) =>
      if !ans.archiveOk then s
      else
        match snapshotTree s worker root with
        | none => s
        | some path =>
            let disk := editBelow path (clearBelow path (s.disks worker)) changes
            (s.setDisk worker disk).noteSnapshot worker path

end Operations

inductive SiteStep where
  | bringUp (worker host : Nat) (mode : ExecutionMode) (launchMode : Option String)
      (ans : BringUpAnswer)
  | stop
  | removeContainer (host : Nat)
  /-- The user changes files inside the bound directory. -/
  | userChanges (changes : List (Path × Option Node))
  | exportSnapshot (worker host : Nat) (mode : ExecutionMode) (containerId : Option String)
      (ans : SnapshotAnswer)
  | importSnapshot (worker host : Nat) (mode : ExecutionMode) (content : List (Path × Node))
      (ans : SnapshotAnswer)
  /-- Other workspaces and programs change the rest of a disk. -/
  | elsewhere (machine : Nat) (changes : List (Path × Option Node))

/-- The path is neither on the way to a bundle of the workspace nor inside it. -/
def Site.isElsewhere (s : Site) (machine : Nat) (p : Path) : Bool :=
  s.bundles.all fun b => b.1 != machine || (!b.2.isPrefixOf p && !p.isPrefixOf b.2)

/-- The job goes to the node the runtime row names: the host of the last binding. -/
def Site.isPlacedOn (s : Site) (host : Nat) : Bool := s.log.head?.all fun b => b.host == host

def siteStep (ref : ProjectRef) (s : Site) : SiteStep → Site
  | .bringUp w h mode launchMode ans => bringUpWorkspaceRuntime ref s w h mode launchMode ans
  | .stop => { s with running := none }
  | .removeContainer h =>
      { s with
        containers := Function.update s.containers h none
        running := if s.running = some h then none else s.running }
  | .userChanges changes =>
      match s.running with
      | none => s
      | some h =>
          match (s.containers h).bind (walk true (s.disks h) maxLinks []) with
          | none => s
          | some p => s.setDisk h (editBelow p (s.disks h) changes)
  | .exportSnapshot w h mode cid ans =>
      if s.isPlacedOn (engineHost mode w h) then
        exportWorkspaceFilesystemSnapshot ref s w h mode cid ans
      else s
  | .importSnapshot w h mode content ans =>
      if s.isPlacedOn (engineHost mode w h) then
        importWorkspaceFilesystemSnapshot ref s w h mode content ans
      else s
  | .elsewhere m changes =>
      s.setDisk m (editBelow [] (s.disks m) (changes.filter fun c => s.isElsewhere m c.1))

/-! ## What the parts do -/

section Parts

variable {ref : ProjectRef} {dir : String} {base bundle path : Path} {fs : Fs}

theorem properName_of_head {s : String} (h : s.toList.head?.any isPathNameChar = true) :
    properName s = true := by
  refine properName_iff.mpr ⟨?_, ?_, ?_⟩
  · rintro rfl
    revert h
    decide
  · rintro rfl
    revert h
    decide
  · rintro rfl
    revert h
    decide

theorem safePathName_head {s : String} (h : safePathName s = true) :
    s.toList.head?.any isPathNameChar = true := by
  unfold safePathName at h
  split at h
  · cases h
  · rename_i c cs hs
    simp only [Bool.and_eq_true] at h
    simp [hs, h.1.1]

theorem workspaceProjectDirName_proper (h : workspaceProjectDirName ref = .ok dir) :
    properName dir = true := by
  apply properName_of_head
  unfold workspaceProjectDirName validateWorkspaceIdForPath at h
  split at h
  · rename_i hsafe
    have hhead := safePathName_head hsafe
    generalize validateWorkspaceStorageKeyForPath ref.projectStorageKey = key at h
    match key, h with
    | .ok none, h =>
        obtain rfl := Except.ok.inj h
        exact hhead
    | .ok (some key), h =>
        obtain rfl := Except.ok.inj h
        rw [String.toList_append, String.toList_append, List.append_assoc]
        cases hs : (PyText.strip ref.workspaceId).toList with
        | nil =>
            rw [hs] at hhead
            cases hhead
        | cons c cs =>
            rw [hs] at hhead
            exact hhead
  · cases h

theorem mem_of_mapM_ok {α β ε : Type} {f : α → Except ε β} {l : List α} {l' : List β}
    (h : l.mapM f = .ok l') {a : α} (ha : a ∈ l) : ∃ b, f a = .ok b ∧ b ∈ l' := by
  induction l generalizing l' with
  | nil => cases ha
  | cons x l ih =>
      rw [List.mapM_cons] at h
      cases hx : f x with
      | error e => rw [hx] at h; cases h
      | ok b =>
          rw [hx] at h
          cases hl : l.mapM f with
          | error e => rw [hl] at h; cases h
          | ok bs =>
              rw [hl] at h
              obtain rfl := Except.ok.inj h
              rcases List.mem_cons.mp ha with rfl | ha
              · exact ⟨b, hx, List.mem_cons_self⟩
              · obtain ⟨b', hb', hmem⟩ := ih hl ha
                exact ⟨b', hb', List.mem_cons_of_mem b hmem⟩

/-- What makes or finds a bundle: only directories are added, and without links in the way the
bundle is the named one and nothing else is touched. -/
structure EnsuresDir (fs : Fs) (bundle : Path) (out : Fs × Except EnsureError Path) : Prop where
  adds : AddsDirs fs out.1
  found : LinkFree fs bundle → Canonical bundle → ∀ p, out.2 = .ok p →
    p = bundle ∧ DirAt out.1 bundle
  only : LinkFree fs bundle → Canonical bundle → ∀ q, ¬ q <+: bundle →
    out.1.lookup q = fs.lookup q

theorem EnsuresDir.same {result : Except EnsureError Path}
    (h : LinkFree fs bundle → Canonical bundle → ∀ p, result = .ok p →
      p = bundle ∧ DirAt fs bundle) : EnsuresDir fs bundle (fs, result) :=
  ⟨.refl fs, h, fun _ _ _ _ => rfl⟩

theorem EnsuresDir.error (e : EnsureError) : EnsuresDir fs bundle (fs, .error e) :=
  .same fun _ _ p h => by cases h

theorem mkdirs_of_eq {fs fs' : Fs} {p : Path} {ok : Bool} (h : mkdirs fs [] p = (fs', ok)) :
    AddsDirs fs fs' ∧ (ok = true → LinkFree fs p → DirAt fs' p) := by
  have hadds := mkdirs_adds fs [] p
  rw [h] at hadds
  refine ⟨hadds, fun hok hfree => ?_⟩
  have hdir : DirAt (mkdirs fs [] p).1 p :=
    mkdirs_dirAt hfree (dirAt_nil fs) (by rw [h]; exact hok)
  rwa [h] at hdir

/-- The end of both: the directory was made, and its ownership may fail. -/
theorem EnsuresDir.made {fs fs' : Fs} {p : Path} {ok : Bool} (hmk : mkdirs fs [] p = (fs', ok))
    (hp : LinkFree fs bundle → Canonical bundle → p = bundle)
    {result : Except EnsureError Path} (hresult : ∀ q, result = .ok q → ok = true ∧ q = p) :
    EnsuresDir fs bundle (fs', result) := by
  obtain ⟨hadds, hdir⟩ := mkdirs_of_eq hmk
  refine ⟨hadds, fun hfree hcan q hq => ?_, fun hfree hcan q hq => ?_⟩
  · obtain ⟨hok, rfl⟩ := hresult q hq
    obtain rfl := hp hfree hcan
    exact ⟨rfl, hdir hok hfree⟩
  · obtain rfl := hp hfree hcan
    have hsame : (mkdirs fs [] p).1.lookup q = fs.lookup q := lookup_mkdirs hfree hq
    rwa [hmk] at hsame

theorem defaultLocalEnsureWorkspaceProjectDir_spec (ans : HostAnswer) (fs : Fs) (base : Path)
    (dir : String) (allowCreate : Bool) :
    EnsuresDir fs (base ++ [dir])
      (defaultLocalEnsureWorkspaceProjectDir ans fs base dir allowCreate) := by
  unfold defaultLocalEnsureWorkspaceProjectDir
  cases hp : realpath fs (base ++ [dir]) with
  | none => exact .error _
  | some p =>
      have hsame : LinkFree fs (base ++ [dir]) → Canonical (base ++ [dir]) → p = base ++ [dir] := by
        intro hfree hcan
        rw [realpath_of_linkFree hcan hfree] at hp
        exact (Option.some.inj hp).symm
      simp only
      split
      · rename_i hdir
        cases ans.chown with
        | some e => exact .error _
        | none =>
            refine .same fun hfree hcan q hq => ?_
            obtain rfl := Except.ok.inj hq
            have hp := hsame hfree hcan
            exact ⟨hp, (isDir_iff hcan hfree).mp (hp ▸ hdir)⟩
      · split
        · exact .error _
        · split
          · rename_i fs' hmk
            exact .made hmk hsame fun q hq => by cases hq
          · rename_i fs' hmk
            cases ans.chown with
            | some e => exact .made hmk hsame fun q hq => by cases hq
            | none => exact .made hmk hsame fun q hq => ⟨rfl, (Except.ok.inj hq).symm⟩

/-- Over SSH a directory is only found by making it. -/
theorem sshRemoteEnsureWorkspaceProjectDir_spec (mode : ExecutionMode) (ans : HostAnswer) (fs : Fs)
    (base : Path) (dir : String) (allowCreate : Bool) :
    EnsuresDir fs (base ++ [dir])
      (sshRemoteEnsureWorkspaceProjectDir mode ans fs base dir allowCreate) ∧
    ∀ p, (sshRemoteEnsureWorkspaceProjectDir mode ans fs base dir allowCreate).2 = .ok p →
      p = base ++ [dir] ∧ (mode = .sshDocker → allowCreate = true) := by
  unfold sshRemoteEnsureWorkspaceProjectDir
  simp only
  split
  · rename_i hprobe
    simp only [remoteTestDir, Bool.and_eq_true, bne_iff_ne] at hprobe
    obtain ⟨⟨hmode, -⟩, hdir⟩ := hprobe
    cases ans.chown with
    | some e => exact ⟨.error _, fun p h => by cases h⟩
    | none =>
        refine ⟨.same fun hfree hcan q hq => ?_, fun q hq => ⟨(Except.ok.inj hq).symm,
          fun hssh => absurd hssh hmode⟩⟩
        exact ⟨(Except.ok.inj hq).symm, (isDir_iff hcan hfree).mp hdir⟩
  · split
    · exact ⟨.error _, fun p h => by cases h⟩
    · rename_i hcreate
      split
      · rename_i fs' hmk
        refine ⟨.made hmk (fun _ _ => rfl) ?_, fun p h => by cases h⟩
        exact fun q hq => by cases hq
      · rename_i fs' hmk
        cases ans.chown with
        | some e =>
            refine ⟨.made hmk (fun _ _ => rfl) ?_, fun p h => by cases h⟩
            exact fun q hq => by cases hq
        | none =>
            refine ⟨.made hmk (fun _ _ => rfl) ?_, fun q hq => ⟨(Except.ok.inj hq).symm,
              fun _ => by simpa using hcreate⟩⟩
            exact fun q hq => ⟨rfl, (Except.ok.inj hq).symm⟩

theorem ensureWorkspaceProjectDir_spec (mode : ExecutionMode) (ans : HostAnswer) (fs : Fs)
    (base : Path) (dir : String) (allowCreate : Bool) :
    EnsuresDir fs (base ++ [dir]) (ensureWorkspaceProjectDir mode ans fs base dir allowCreate) ∧
    (mode ≠ .localDocker →
      ∀ p, (ensureWorkspaceProjectDir mode ans fs base dir allowCreate).2 = .ok p →
        p = base ++ [dir] ∧ (mode = .sshDocker → allowCreate = true)) := by
  unfold ensureWorkspaceProjectDir
  split
  · rename_i hlocal
    exact ⟨defaultLocalEnsureWorkspaceProjectDir_spec ans fs base dir allowCreate,
      fun h => absurd hlocal h⟩
  · obtain ⟨hspec, hpath⟩ :=
      sshRemoteEnsureWorkspaceProjectDir_spec mode ans fs base dir allowCreate
    exact ⟨hspec, fun _ => hpath⟩

/-- The directory of the user's files in a bundle. -/
abbrev projectOf (bundle : Path) : Path := bundle ++ [userProjectSubdir]

theorem canonical_project (h : Canonical bundle) : Canonical (projectOf bundle) :=
  h.snoc (by decide)

theorem resolveWorkspaceIdeBindHostPath_adds (fs : Fs) (bundle : Path)
    (launchMode : Option String) :
    AddsDirs fs (resolveWorkspaceIdeBindHostPath fs bundle launchMode).1 := by
  unfold resolveWorkspaceIdeBindHostPath
  split
  · exact .refl fs
  · simp only
    split
    · exact .refl fs
    · split
      · split
        · rename_i fs' hmk
          exact (mkdirs_of_eq hmk).1
        · rename_i fs' hmk
          exact (mkdirs_of_eq hmk).1
      · exact .refl fs

/-- Without links in the way, the path to bind is the project directory, which is there by
then, or the bundle, when there is no project directory and the launch is not a new one. -/
theorem resolveWorkspaceIdeBindHostPath_path {launchMode : Option String}
    (hfree : LinkFree fs (projectOf bundle)) (hcan : Canonical bundle)
    (h : (resolveWorkspaceIdeBindHostPath fs bundle launchMode).2 = some path) :
    (path = projectOf bundle ∧
      DirAt (resolveWorkspaceIdeBindHostPath fs bundle launchMode).1 (projectOf bundle)) ∨
    (path = bundle ∧ ¬ DirAt fs (projectOf bundle) ∧
      normalizedLaunchMode launchMode ≠ some "new") := by
  have hbundle : LinkFree fs bundle := hfree.of_prefix (List.prefix_append _ _)
  have hproject := realpath_of_linkFree (canonical_project hcan) hfree
  unfold resolveWorkspaceIdeBindHostPath at h ⊢
  rw [realpath_of_linkFree hcan hbundle] at h ⊢
  simp only at h ⊢
  split at h
  · rename_i hdir
    rw [if_pos hdir]
    rw [hproject] at h
    exact .inl ⟨(Option.some.inj h).symm, (isDir_iff (canonical_project hcan) hfree).mp hdir⟩
  · rename_i hno
    rw [if_neg hno]
    have hno : ¬ DirAt fs (projectOf bundle) := fun hd => hno (hd.isDir (canonical_project hcan))
    split at h
    · rename_i hcreate
      rw [if_pos hcreate]
      split at h
      · cases h
      · rename_i fs' hmk
        obtain ⟨hadds, hdir⟩ := mkdirs_of_eq hmk
        have hfree' := hadds.linkFree hfree
        rw [realpath_of_linkFree (canonical_project hcan) hfree'] at h
        exact .inl ⟨(Option.some.inj h).symm, hdir rfl hfree⟩
    · rename_i hcreate
      rw [realpath_of_linkFree hcan hbundle] at h
      refine .inr ⟨(Option.some.inj h).symm, hno, fun hnew => hcreate ?_⟩
      simp [hnew]

theorem mkdirsAll_adds (fs : Fs) (ps : List Path) : AddsDirs fs (mkdirsAll fs ps).1 := by
  induction ps generalizing fs with
  | nil => exact .refl fs
  | cons p ps ih =>
      rw [mkdirsAll]
      split
      · rename_i fs' hmk
        exact (mkdirs_of_eq hmk).1
      · rename_i fs' hmk
        exact (mkdirs_of_eq hmk).1.trans (ih fs')

theorem mkdirsAll_head {fs fs' : Fs} {p : Path} {ps : List Path}
    (h : mkdirsAll fs (p :: ps) = (fs', true)) (hfree : LinkFree fs p) : DirAt fs' p := by
  rw [mkdirsAll] at h
  split at h
  · cases h
  · rename_i fs₁ hmk
    have hadds := mkdirsAll_adds fs₁ ps
    rw [h] at hadds
    exact hadds.dirAt ((mkdirs_of_eq hmk).2 rfl hfree)

end Parts

/-! ## What a bring-up does -/

/-- Directories may have been added on every machine. -/
def Site.Grows (s s' : Site) : Prop := ∀ m, AddsDirs (s.disks m) (s'.disks m)

theorem Site.Grows.refl (s : Site) : s.Grows s := fun m => .refl (s.disks m)

theorem Site.Grows.trans {s s' s'' : Site} (h : s.Grows s') (h' : s'.Grows s'') : s.Grows s'' :=
  fun m => (h m).trans (h' m)

@[simp] theorem Site.setDisk_self (s : Site) (m : Nat) (fs : Fs) :
    (s.setDisk m fs).disks m = fs := by
  simp [Site.setDisk]

theorem Site.setDisk_of_ne (s : Site) {m m' : Nat} (fs : Fs) (h : m' ≠ m) :
    (s.setDisk m fs).disks m' = s.disks m' := by
  simp [Site.setDisk, h]

theorem Site.grows_setDisk {s : Site} {m : Nat} {fs : Fs} (h : AddsDirs (s.disks m) fs) :
    s.Grows (s.setDisk m fs) := by
  intro m'
  by_cases hm : m' = m
  · subst hm
    rw [Site.setDisk_self s m' fs]
    exact h
  · rw [Site.setDisk_of_ne s fs hm]
    exact .refl _

@[simp] theorem Site.useBundle_disks (s : Site) (w h : Nat) (bundle : Path) :
    (s.useBundle w h bundle).disks = s.disks := rfl

@[simp] theorem Site.useBundle_containers (s : Site) (w h : Nat) (bundle : Path) :
    (s.useBundle w h bundle).containers = s.containers := rfl

@[simp] theorem Site.useBundle_log (s : Site) (w h : Nat) (bundle : Path) :
    (s.useBundle w h bundle).log = s.log := rfl

/-- A step of a snapshot before it touches its tree: directories may be made, and nothing else
changes. -/
structure OnlyGrows (s s' : Site) : Prop where
  grows : s.Grows s'
  bundles : s.bundles ⊆ s'.bundles
  log : s'.log = s.log
  containers : s'.containers = s.containers
  running : s'.running = s.running

theorem workspaceProjectPathForSnapshot_grows (ref : ProjectRef) (s : Site) (worker host : Nat)
    (mode : ExecutionMode) (ans : HostAnswer) :
    OnlyGrows s (workspaceProjectPathForSnapshot ref s worker host mode ans).1 ∧
      (workspaceProjectPathForSnapshot ref s worker host mode ans).1.snapshots = s.snapshots := by
  unfold workspaceProjectPathForSnapshot
  split
  · rename_i dir base hname hbase
    obtain ⟨hensure, -⟩ := ensureWorkspaceProjectDir_spec mode ans (s.disks host) base dir true
    simp only [Site.useBundle_disks]
    generalize ensureWorkspaceProjectDir mode ans (s.disks host) base dir true = out at hensure
    obtain ⟨disk, result⟩ := out
    have hgrows : s.Grows ((s.useBundle worker host (base ++ [dir])).setDisk host disk) :=
      Site.grows_setDisk (s := s.useBundle worker host (base ++ [dir])) hensure.adds
    have honly : OnlyGrows s ((s.useBundle worker host (base ++ [dir])).setDisk host disk) :=
      ⟨hgrows, fun b hb => List.mem_cons_of_mem _ (List.mem_cons_of_mem _ hb), rfl, rfl, rfl⟩
    cases result with
    | error e => exact ⟨honly, rfl⟩
    | ok bundle =>
        simp only
        split
        · exact ⟨honly, rfl⟩
        · exact ⟨honly, rfl⟩
  · exact ⟨⟨.refl s, fun _ hb => hb, rfl, rfl, rfl⟩, rfl⟩

/-- No link on the way to the project directory of a bundle. -/
structure PlainLayout (ref : ProjectRef) (base : Path) (dir : String) (fs : Fs) : Prop where
  name : workspaceProjectDirName ref = .ok dir
  resolves : realpath fs ref.base = some base
  free : LinkFree fs (projectOf (base ++ [dir]))

theorem PlainLayout.canonical {ref : ProjectRef} {base : Path} {dir : String} {fs : Fs}
    (h : PlainLayout ref base dir fs) : Canonical (base ++ [dir]) :=
  (realpath_clean h.resolves).2.snoc (workspaceProjectDirName_proper h.name)

/-- The path a bring-up asks for: the project directory, which is then there on the worker and
on the host, or the bundle when the worker has no project directory. -/
def AsksFor (s s' : Site) (worker host : Nat) (launchMode : Option String) (bundle path : Path) :
    Prop :=
  (path = projectOf bundle ∧ DirAt (s'.disks worker) (projectOf bundle) ∧
    (LinkFree (s.disks host) (projectOf bundle) → DirAt (s'.disks host) (projectOf bundle))) ∨
  (path = bundle ∧ ¬ DirAt (s.disks worker) (projectOf bundle) ∧
    normalizedLaunchMode launchMode ≠ some "new")

/-- A bring-up over SSH gets as far as a path only as a new launch, or without a launch mode. -/
def Reaches (mode : ExecutionMode) (launchMode : Option String) : Prop :=
  mode = .sshDocker → (normalizedLaunchMode launchMode).all (· == "new") = true

/-- A step that adds directories and may bind a path. -/
structure BindsOr (s s' : Site) (worker host : Nat) (mode : ExecutionMode) (P : Path → Prop) :
    Prop where
  grows : s.Grows s'
  bundles : s'.bundles = s.bundles
  snapshots : s'.snapshots = s.snapshots
  bound : (s'.log = s.log ∧ s'.containers = s.containers ∧ s'.running = s.running) ∨
    ∃ path, P path ∧ s'.log = ⟨worker, host, bindContainer mode (s.containers host) path⟩ :: s.log ∧
      s'.containers = Function.update s.containers host
        (some (bindContainer mode (s.containers host) path)) ∧
      s'.running = some host

theorem BindsOr.setDisk {s : Site} {worker host m : Nat} {mode : ExecutionMode}
    {P : Path → Prop} {fs : Fs} (h : AddsDirs (s.disks m) fs) :
    BindsOr s (s.setDisk m fs) worker host mode P :=
  ⟨Site.grows_setDisk h, rfl, rfl, .inl ⟨rfl, rfl, rfl⟩⟩

/-- After more directories. -/
theorem BindsOr.after {s s₁ s' : Site} {worker host m : Nat} {mode : ExecutionMode}
    {P Q : Path → Prop} {fs : Fs} (hs₁ : s₁ = s.setDisk m fs) (hadds : AddsDirs (s.disks m) fs)
    (h : BindsOr s₁ s' worker host mode P) (hPQ : ∀ path, P path → Q path) :
    BindsOr s s' worker host mode Q := by
  subst hs₁
  refine ⟨(Site.grows_setDisk hadds).trans h.grows, h.bundles, h.snapshots, ?_⟩
  rcases h.bound with hsame | ⟨path, hpath, hrest⟩
  · exact .inl hsame
  · exact .inr ⟨path, hPQ path hpath, hrest⟩

theorem startWorkspaceContainer_effect (s : Site) (worker host : Nat) (mode : ExecutionMode)
    (ans : BringUpAnswer) (path : Path) :
    BindsOr s (startWorkspaceContainer s worker host mode ans path) worker host mode
      fun p => p = path ∧ (mode ≠ .localDocker → LinkFree (s.disks host) path →
        DirAt ((startWorkspaceContainer s worker host mode ans path).disks host) path) := by
  have hadds := mkdirsAll_adds (s.disks host) (codeServerDirs (mode != .localDocker) path)
  unfold startWorkspaceContainer
  cases hmk : mkdirsAll (s.disks host) (codeServerDirs (mode != .localDocker) path) with
  | mk disk ok =>
      rw [hmk] at hadds
      cases ok with
      | false => exact .setDisk hadds
      | true =>
          simp only
          split
          · exact .setDisk hadds
          · refine ⟨Site.grows_setDisk hadds, rfl, rfl, .inr ⟨path, ⟨rfl, fun hmode hfree => ?_⟩,
              rfl, rfl, rfl⟩⟩
            have hcons : codeServerDirs (mode != .localDocker) path
                = path :: codeServerDirs false path := by
              simp [codeServerDirs, hmode]
            rw [hcons] at hmk
            show DirAt ((s.setDisk host disk).disks host) path
            rw [Site.setDisk_self]
            exact mkdirsAll_head hmk hfree

theorem bindWorkspaceProject_effect {s : Site} {worker host : Nat} {mode : ExecutionMode}
    {bundle : Path} (launchMode : Option String) (ans : BringUpAnswer)
    (hlocal : mode = .localDocker → host = worker)
    (hfree : LinkFree (s.disks worker) (projectOf bundle)) (hcan : Canonical bundle) :
    BindsOr s (bindWorkspaceProject s worker host mode launchMode ans bundle) worker host mode
      (AsksFor s (bindWorkspaceProject s worker host mode launchMode ans bundle) worker host
        launchMode bundle) := by
  have hadds := resolveWorkspaceIdeBindHostPath_adds (s.disks worker) bundle launchMode
  unfold bindWorkspaceProject
  cases hout : resolveWorkspaceIdeBindHostPath (s.disks worker) bundle launchMode with
  | mk disk found =>
      rw [hout] at hadds
      cases found with
      | none => exact .setDisk hadds
      | some path =>
          simp only
          have hfound : (resolveWorkspaceIdeBindHostPath (s.disks worker) bundle launchMode).2
              = some path := by rw [hout]
          have hpath := resolveWorkspaceIdeBindHostPath_path hfree hcan hfound
          rw [hout] at hpath
          have hstart := startWorkspaceContainer_effect (s.setDisk worker disk) worker host mode
            ans path
          generalize startWorkspaceContainer (s.setDisk worker disk) worker host mode ans path = s'
            at hstart
          refine hstart.after rfl hadds ?_
          rintro p ⟨rfl, hremote⟩
          rcases hpath with ⟨rfl, hdir⟩ | hbundle
          · have hworker : DirAt (s'.disks worker) (projectOf bundle) := by
              refine (hstart.grows worker).dirAt ?_
              rw [Site.setDisk_self]
              exact hdir
            refine .inl ⟨rfl, hworker, fun hfree => ?_⟩
            by_cases hmode : mode = .localDocker
            · rw [hlocal hmode]
              exact hworker
            · exact hremote hmode ((Site.grows_setDisk hadds host).linkFree hfree)
          · exact .inr hbundle

/-- Without a valid name or a base directory nothing happens. -/
theorem bringUp_eq_self {ref : ProjectRef} {s : Site} {worker : Nat} (host : Nat)
    (mode : ExecutionMode) (launchMode : Option String) (ans : BringUpAnswer)
    (h : ∀ dir, workspaceProjectDirName ref ≠ .ok dir) :
    bringUpWorkspaceRuntime ref s worker host mode launchMode ans = s := by
  unfold bringUpWorkspaceRuntime
  cases hname : workspaceProjectDirName ref with
  | ok dir => exact absurd hname (h dir)
  | error e => rfl

/-- What a bring-up leaves: more directories and perhaps a new binding. -/
theorem bringUp_effect {ref : ProjectRef} {s : Site} {worker : Nat} {base : Path} {dir : String}
    (host : Nat) (mode : ExecutionMode) (launchMode : Option String) (ans : BringUpAnswer)
    (hlayout : PlainLayout ref base dir (s.disks worker)) :
    BindsOr (s.useBundle worker (engineHost mode worker host) (base ++ [dir]))
      (bringUpWorkspaceRuntime ref s worker host mode launchMode ans) worker
      (engineHost mode worker host) mode
      (fun path => Reaches mode launchMode ∧
        AsksFor s (bringUpWorkspaceRuntime ref s worker host mode launchMode ans) worker
          (engineHost mode worker host) launchMode (base ++ [dir]) path) := by
  have hcan := hlayout.canonical
  have hhost : mode = .localDocker → engineHost mode worker host = worker :=
    fun h => by rw [engineHost, if_pos h]
  unfold bringUpWorkspaceRuntime
  simp only [hlayout.name, hlayout.resolves]
  generalize engineHost mode worker host = h at hhost
  unfold Reaches
  generalize (normalizedLaunchMode launchMode).all (fun x => x == "new") = allowCreate
  obtain ⟨hensure, hremote⟩ :=
    ensureWorkspaceProjectDir_spec mode ans.toHostAnswer (s.disks h) base dir allowCreate
  simp only [Site.useBundle_disks]
  generalize ensureWorkspaceProjectDir mode ans.toHostAnswer (s.disks h) base dir allowCreate
    = out at hensure hremote
  obtain ⟨disk, result⟩ := out
  cases result with
  | error e => exact .setDisk hensure.adds
  | ok bundle =>
      obtain rfl : bundle = base ++ [dir] := by
        by_cases hlocal : mode = .localDocker
        · have hfree : LinkFree (s.disks h) (base ++ [dir]) := by
            rw [hhost hlocal]
            exact hlayout.free.of_prefix (List.prefix_append _ _)
          exact (hensure.found hfree hcan bundle rfl).1
        · exact (hremote hlocal bundle rfl).1
      have hreaches : mode = .sshDocker → allowCreate = true := fun hssh =>
        (hremote (by simp [hssh]) _ rfl).2 hssh
      have hgrows : s.Grows ((s.useBundle worker h (base ++ [dir])).setDisk h disk) :=
        Site.grows_setDisk (s := s.useBundle worker h (base ++ [dir])) hensure.adds
      have hbind := bindWorkspaceProject_effect launchMode ans hhost
        ((hgrows worker).linkFree hlayout.free) hcan
      refine hbind.after rfl hensure.adds fun path hasks => ⟨hreaches, ?_⟩
      rcases hasks with ⟨hp, hworker, hon⟩ | ⟨hp, hno, hnew⟩
      · exact .inl ⟨hp, hworker, fun hfree => hon ((hgrows h).linkFree hfree)⟩
      · exact .inr ⟨hp, fun hd => hno ((hgrows worker).dirAt hd), hnew⟩

end Devnest
