import Devnest.ProjectBindings

/-!
# The tree of a snapshot

Export and import of a workspace that does not run act on a directory of the
worker's own disk; only without one do they turn to the execution host, over
SSH, and there they fail. A bring-up of a remote workspace leaves a directory
of that name on the disk of its worker, so a snapshot may act on an empty
directory of the control plane.

`snapshots_find_their_tree` gives the condition under which every snapshot
of a run acts on the directory that the last bring-up bound.
-/

namespace Devnest

open Posix Runs

/-- Every snapshot so far acted on what the last bring-up before it had bound. -/
def SnapshotsRight (s : Site) : Prop :=
  ∀ r ∈ s.snapshots, r.machine = r.bound.host ∧ r.path = r.bound.path

/-- On the execution host: the project directory is bound, or there is none. Elsewhere: the
worker has no directory of the workspace. -/
def Site.findsTree (s : Site) (ref : ProjectRef) (base : Path) (dir : String) (worker host : Nat) :
    Bool :=
  match s.log.head? with
  | none => true
  | some b => plainLayout ref base dir (s.disks worker) &&
      if worker = host then
        b.path == projectOf (base ++ [dir]) ||
          (s.disks host).lookup (projectOf (base ++ [dir])) != some .dir
      else
        !isDir (s.disks worker) (projectOf (base ++ [dir])) &&
          !isDir (s.disks worker) (base ++ [dir])

/-- Bring-ups meet no links, and snapshots find the bound tree. -/
def FindsTree (ref : ProjectRef) (base : Path) (s : Site) (st : SiteStep) : Prop :=
  (match workspaceProjectDirName ref with
    | .error _ => true
    | .ok dir =>
        match st with
        | .bringUp w h mode _ _ => plainLayout ref base dir (s.disks w) &&
            plainLayout ref base dir (s.disks (engineHost mode w h))
        | .exportSnapshot w h mode _ _ => s.findsTree ref base dir w (engineHost mode w h)
        | .importSnapshot w h mode _ _ => s.findsTree ref base dir w (engineHost mode w h)
        | _ => true) = true

instance (ref : ProjectRef) (base : Path) (s : Site) (st : SiteStep) :
    Decidable (FindsTree ref base s st) :=
  inferInstanceAs (Decidable (_ = true))

/-- The project directory is bound on `m`, by the container there or by the last bring-up. -/
def Site.BindsAt (s : Site) (bundle : Path) (m : Nat) : Prop :=
  s.containers m = some (projectOf bundle) ∨
    ∃ b, s.log.head? = some b ∧ b.host = m ∧ b.path = projectOf bundle

/-- What the bring-ups of a run leave. -/
structure SiteOk (bundle : Path) (s : Site) : Prop where
  paths : ∀ b ∈ s.log, b.path = projectOf bundle ∨ b.path = bundle
  containers : ∀ m p, s.containers m = some p → p = projectOf bundle ∨ p = bundle
  unused : s.log = [] → ∀ m, s.containers m = none
  latest : ∀ b, s.log.head? = some b → ∀ p, s.containers b.host = some p → p = b.path
  active : ∀ m, s.running = some m → ∃ b, s.log.head? = some b ∧ b.host = m
  dirs : ∀ m, s.BindsAt bundle m → DirAt (s.disks m) (projectOf bundle) ∧
    (m, bundle) ∈ s.bundles ∧ Canonical bundle
  right : SnapshotsRight s

section Keeps

variable {ref : ProjectRef} {base bundle : Path} {dir : String} {s s' : Site}

/-- A step that binds nothing. -/
theorem SiteOk.frame (h : SiteOk bundle s) (hlog : s'.log = s.log)
    (hcontainers : ∀ m p, s'.containers m = some p → s.containers m = some p)
    (hrunning : ∀ m, s'.running = some m → s.running = some m)
    (hbundles : s.bundles ⊆ s'.bundles)
    (hdirs : ∀ m, s.BindsAt bundle m → DirAt (s.disks m) (projectOf bundle) →
      (m, bundle) ∈ s.bundles → Canonical bundle → DirAt (s'.disks m) (projectOf bundle))
    (hright : SnapshotsRight s') : SiteOk bundle s' where
  paths := by rw [hlog]; exact h.paths
  containers := fun m p hp => h.containers m p (hcontainers m p hp)
  unused := by
    rw [hlog]
    intro hnil m
    cases hm : s'.containers m with
    | none => rfl
    | some p =>
        have hsome := hcontainers m p hm
        rw [h.unused hnil m] at hsome
        cases hsome
  latest := by
    rw [hlog]
    exact fun b hb p hp => h.latest b hb p (hcontainers b.host p hp)
  active := by
    rw [hlog]
    exact fun m hm => h.active m (hrunning m hm)
  dirs := by
    intro m hbinds
    have hbefore : s.BindsAt bundle m := by
      rcases hbinds with hc | ⟨b, hb, hrest⟩
      · exact .inl (hcontainers m _ hc)
      · rw [hlog] at hb
        exact .inr ⟨b, hb, hrest⟩
    obtain ⟨hdir, hused, hcan⟩ := h.dirs m hbefore
    exact ⟨hdirs m hbefore hdir hused hcan, hbundles hused, hcan⟩
  right := hright

theorem SiteOk.onlyGrows (h : SiteOk bundle s) (hgrows : OnlyGrows s s')
    (hsnapshots : s'.snapshots = s.snapshots) : SiteOk bundle s' := by
  refine h.frame hgrows.log (fun m p hp => by rwa [hgrows.containers] at hp)
    (fun m hm => by rwa [hgrows.running] at hm) hgrows.bundles
    (fun m _ hdir _ _ => (hgrows.grows m).dirAt hdir) ?_
  rw [SnapshotsRight, hsnapshots]
  exact h.right

theorem projectOf_ne (bundle : Path) : projectOf bundle ≠ bundle := by
  intro h
  have hlen := congrArg List.length h
  simp at hlen

/-- A container is bound as it was asked for or as it stood. -/
theorem bindContainer_cases (mode : ExecutionMode) (existing : Option Path) (path : Path) :
    bindContainer mode existing path = path ∨
      existing = some (bindContainer mode existing path) := by
  unfold bindContainer
  split
  · cases existing with
    | none => exact .inl rfl
    | some p => exact .inr rfl
  · exact .inl rfl

/-- A new binding of the project directory or of the bundle. -/
theorem SiteOk.bound {w m : Nat} {path : Path} (h : SiteOk bundle s) (hgrows : s.Grows s')
    (hbundles : s'.bundles = (w, bundle) :: (m, bundle) :: s.bundles) (hcan : Canonical bundle)
    (hpath : path = projectOf bundle ∨ path = bundle)
    (hdir : path = projectOf bundle → DirAt (s'.disks m) (projectOf bundle))
    (hlog : s'.log = ⟨w, m, path⟩ :: s.log)
    (hcontainers : s'.containers = Function.update s.containers m (some path))
    (hrunning : s'.running = some m) (hright : SnapshotsRight s') : SiteOk bundle s' := by
  have hhead : s'.log.head? = some ⟨w, m, path⟩ := by rw [hlog]; rfl
  have hat : s'.containers m = some path := by rw [hcontainers, Function.update_self]
  have hother : ∀ m', m' ≠ m → s'.containers m' = s.containers m' := by
    intro m' hm
    rw [hcontainers, Function.update_of_ne hm]
  refine ⟨?_, ?_, ?_, ?_, ?_, ?_, hright⟩
  · rw [hlog]
    intro b hb
    rcases List.mem_cons.mp hb with rfl | hb
    · exact hpath
    · exact h.paths b hb
  · intro m' p hp
    by_cases hm : m' = m
    · subst hm
      rw [hat] at hp
      exact Option.some.inj hp ▸ hpath
    · rw [hother m' hm] at hp
      exact h.containers m' p hp
  · intro hnil
    rw [hlog] at hnil
    cases hnil
  · intro b hb p hp
    rw [hhead] at hb
    obtain rfl := Option.some.inj hb
    rw [hat] at hp
    exact (Option.some.inj hp).symm
  · intro m' hm
    rw [hrunning] at hm
    exact ⟨_, hhead, Option.some.inj hm⟩
  · intro m' hbinds
    by_cases hm : m' = m
    · subst hm
      have hp : path = projectOf bundle := by
        rcases hbinds with hc | ⟨b, hb, -, hp⟩
        · rw [hat] at hc
          exact Option.some.inj hc
        · rw [hhead] at hb
          obtain rfl := Option.some.inj hb
          exact hp
      refine ⟨hdir hp, ?_, hcan⟩
      rw [hbundles]
      exact List.mem_cons_of_mem _ List.mem_cons_self
    · have hbefore : s.containers m' = some (projectOf bundle) := by
        rcases hbinds with hc | ⟨b, hb, hbm, -⟩
        · rwa [hother m' hm] at hc
        · rw [hhead] at hb
          obtain rfl := Option.some.inj hb
          exact absurd hbm.symm hm
      obtain ⟨hd, hused, hc⟩ := h.dirs m' (.inl hbefore)
      refine ⟨(hgrows m').dirAt hd, ?_, hc⟩
      rw [hbundles]
      exact List.mem_cons_of_mem _ (List.mem_cons_of_mem _ hused)

theorem SiteOk.bringUp {w : Nat} (h : SiteOk (base ++ [dir]) s) (host : Nat)
    (mode : ExecutionMode) (launchMode : Option String) (ans : BringUpAnswer)
    (hlayout : PlainLayout ref base dir (s.disks w))
    (hhost : PlainLayout ref base dir (s.disks (engineHost mode w host))) :
    SiteOk (base ++ [dir]) (bringUpWorkspaceRuntime ref s w host mode launchMode ans) := by
  have hcan := hlayout.canonical
  have heff := bringUp_effect host mode launchMode ans hlayout
  generalize engineHost mode w host = m at heff hhost
  generalize bringUpWorkspaceRuntime ref s w host mode launchMode ans = s' at heff
  have hgrows : s.Grows s' := heff.grows
  have hbundles : s.bundles ⊆ s'.bundles := by
    rw [heff.bundles]
    exact fun b hb => List.mem_cons_of_mem _ (List.mem_cons_of_mem _ hb)
  have hright : SnapshotsRight s' := by
    rw [SnapshotsRight, heff.snapshots]
    exact h.right
  rcases heff.bound with ⟨hlog, hcontainers, hrunning⟩ |
    ⟨path, ⟨-, hasks⟩, hlog, hcontainers, hrunning⟩
  · exact h.frame hlog (fun m p hp => by rwa [hcontainers] at hp)
      (fun m hm => by rwa [hrunning] at hm) hbundles
      (fun m _ hdir _ _ => (hgrows m).dirAt hdir) hright
  · simp only [Site.useBundle_containers, Site.useBundle_log] at hlog hcontainers
    have hasked : path = projectOf (base ++ [dir]) ∨ path = base ++ [dir] := by
      rcases hasks with ⟨hp, -, -⟩ | ⟨hp, -, -⟩
      · exact .inl hp
      · exact .inr hp
    have hcases := bindContainer_cases mode (s.containers m) path
    refine h.bound hgrows heff.bundles hcan ?_ ?_ hlog hcontainers hrunning hright
    · rcases hcases with hb | hb
      · rw [hb]
        exact hasked
      · exact h.containers m _ hb
    · intro hp
      rcases hcases with hb | hb
      · rcases hasks with ⟨-, -, hdir⟩ | ⟨hno, -, -⟩
        · exact hdir hhost.free
        · rw [← hb, hp] at hno
          exact absurd hno (projectOf_ne _)
      · rw [hp] at hb
        exact (hgrows m).dirAt (h.dirs m (.inl hb)).1

/-! ## Which tree -/

/-- What the search for the snapshot path leaves on the disk of the worker. -/
theorem snapshotPath_spec {w host : Nat} {mode : ExecutionMode} {ans : HostAnswer} {root : Path}
    (hlayout : PlainLayout ref base dir (s.disks w)) (hlocal : mode = .localDocker → host = w)
    (h : workspaceProjectPathForSnapshot ref s w host mode ans = (s', some root)) :
    root = (if isDir (s'.disks w) (projectOf (base ++ [dir])) then projectOf (base ++ [dir])
      else base ++ [dir]) ∧
    LinkFree (s'.disks w) (projectOf (base ++ [dir])) ∧
    (w = host → DirAt (s'.disks w) (base ++ [dir]) ∧
      (s'.disks w).lookup (projectOf (base ++ [dir]))
        = (s.disks w).lookup (projectOf (base ++ [dir]))) ∧
    (w ≠ host → s'.disks w = s.disks w) := by
  have hcan := hlayout.canonical
  have hfree : LinkFree (s.disks w) (base ++ [dir]) :=
    hlayout.free.of_prefix (List.prefix_append _ _)
  unfold workspaceProjectPathForSnapshot at h
  simp only [hlayout.name, hlayout.resolves, Site.useBundle_disks] at h
  obtain ⟨hensure, hremote⟩ := ensureWorkspaceProjectDir_spec mode ans (s.disks host) base dir true
  generalize ensureWorkspaceProjectDir mode ans (s.disks host) base dir true = out
    at h hensure hremote
  obtain ⟨disk, result⟩ := out
  cases result with
  | error e => cases h
  | ok bundle =>
      obtain rfl : bundle = base ++ [dir] := by
        by_cases hmode : mode = .localDocker
        · have hhost : LinkFree (s.disks host) (base ++ [dir]) := by rwa [hlocal hmode]
          exact (hensure.found hhost hcan bundle rfl).1
        · exact (hremote hmode bundle rfl).1
      simp only at h
      generalize hs₁ : (s.useBundle w host (base ++ [dir])).setDisk host disk = s₁ at h
      have hgrows : s.Grows s₁ := by
        subst hs₁
        exact Site.grows_setDisk (s := s.useBundle w host (base ++ [dir])) hensure.adds
      rw [realpath_of_linkFree hcan ((hgrows w).linkFree hfree)] at h
      simp only [Prod.mk.injEq, Option.some.injEq] at h
      obtain ⟨rfl, rfl⟩ := h
      refine ⟨rfl, (hgrows w).linkFree hlayout.free, ?_, ?_⟩
      · rintro rfl
        subst hs₁
        rw [Site.setDisk_self]
        refine ⟨(hensure.found hfree hcan _ rfl).2, hensure.only hfree hcan _ ?_⟩
        exact fun hpre => absurd hpre.length_le (by simp)
      · intro hne
        subst hs₁
        exact Function.update_of_ne hne disk s.disks

/-- The tree is the one the last bring-up bound. -/
def IsBound (path : Path) (worker : Nat) (b : Binding) : Prop := worker = b.host ∧ path = b.path

theorem snapshotTree_isBound {w host : Nat} {mode : ExecutionMode} {ans : HostAnswer}
    {root path : Path} {b : Binding} (h : SiteOk (base ++ [dir]) s)
    (hname : workspaceProjectDirName ref = .ok dir) (hlocal : mode = .localDocker → host = w)
    (hb : s.log.head? = some b) (hhost : b.host = host)
    (hfinds : s.findsTree ref base dir w host = true)
    (hpath : workspaceProjectPathForSnapshot ref s w host mode ans = (s', some root))
    (htree : snapshotTree s' w root = some path) : IsBound path w b := by
  simp only [Site.findsTree, hb, Bool.and_eq_true] at hfinds
  obtain ⟨hplain, hfinds⟩ := hfinds
  have hlayout : PlainLayout ref base dir (s.disks w) := .of_plainLayout hname hplain
  have hcan := hlayout.canonical
  have hgrows := (workspaceProjectPathForSnapshot_grows ref s w host mode ans).1.grows
  rw [hpath] at hgrows
  obtain ⟨hroot, hfree, hself, hother⟩ := snapshotPath_spec hlayout hlocal hpath
  have hresolve : realpath (s'.disks w) root = some root := by
    rw [hroot]
    split
    · exact realpath_of_linkFree (canonical_project hcan) hfree
    · exact realpath_of_linkFree hcan (hfree.of_prefix (List.prefix_append _ _))
  simp only [snapshotTree, hresolve, Option.filter_eq_some_iff, Option.some.injEq] at htree
  obtain ⟨rfl, hisdir⟩ := htree
  by_cases hw : w = host
  · subst hw
    obtain ⟨-, hsame⟩ := hself rfl
    rw [if_pos rfl] at hfinds
    refine ⟨hhost.symm, ?_⟩
    rcases h.paths b (List.mem_of_mem_head? hb) with hp | hp
    · have hdir := (h.dirs w (.inr ⟨b, hb, hhost, hp⟩)).1
      have hproject := ((hgrows w).dirAt hdir).isDir (canonical_project hcan)
      rw [if_pos hproject] at hroot
      exact hroot.trans hp.symm
    · have hno : ¬ isDir (s'.disks w) (projectOf (base ++ [dir])) = true := by
        intro hdir
        have hdir := (isDir_iff (canonical_project hcan) hfree).mp hdir
        have hlook := hdir _ (List.prefix_refl _) (by simp)
        rw [hsame] at hlook
        simp [hp, hlook] at hfinds
      rw [if_neg hno] at hroot
      exact hroot.trans hp.symm
  · rw [if_neg hw] at hfinds
    simp only [Bool.and_eq_true, Bool.not_eq_true'] at hfinds
    obtain ⟨hproject, hbundle⟩ := hfinds
    rw [hother hw, hproject, if_neg (by simp)] at hroot
    rw [hroot, hother hw, hbundle] at hisdir
    cases hisdir

theorem SiteOk.isBound {w m : Nat} {mode : ExecutionMode} {ans : HostAnswer} {root : Path}
    (h : SiteOk (base ++ [dir]) s) (hname : workspaceProjectDirName ref = .ok dir)
    (hlocal : mode = .localDocker → m = w) (hplaced : s.isPlacedOn m = true)
    (hfinds : s.findsTree ref base dir w m = true)
    (hpath : workspaceProjectPathForSnapshot ref s w m mode ans = (s', some root))
    {path : Path} {b : Binding} (htree : snapshotTree s' w root = some path)
    (hb : s'.log.head? = some b) : IsBound path w b := by
  have honly := (workspaceProjectPathForSnapshot_grows ref s w m mode ans).1
  rw [hpath] at honly
  rw [honly.log] at hb
  have hhost : b.host = m := by simpa [Site.isPlacedOn, hb] using hplaced
  exact snapshotTree_isBound h hname hlocal hb hhost hfinds hpath htree

/-! ## What a snapshot leaves -/

theorem SiteOk.noteSnapshot {m : Nat} {path : Path} (h : SiteOk bundle s)
    (hright : ∀ b, s.log.head? = some b → m = b.host ∧ path = b.path) :
    SiteOk bundle (s.noteSnapshot m path) := by
  unfold Site.noteSnapshot
  split
  · rename_i b rest hrun hlog
    refine h.frame rfl (fun _ _ hp => hp) (fun _ hm => hm) (fun _ hb => hb)
      (fun _ _ hdir _ _ => hdir) ?_
    intro r hr
    rcases List.mem_cons.mp hr with rfl | hr
    · exact hright b (by rw [hlog]; rfl)
    · exact h.right r hr
  · exact h

theorem SiteOk.exportSnapshot {w host : Nat} {mode : ExecutionMode}
    (h : SiteOk (base ++ [dir]) s) (hname : workspaceProjectDirName ref = .ok dir)
    (cid : Option String) (ans : SnapshotAnswer)
    (hplaced : s.isPlacedOn (engineHost mode w host) = true)
    (hfinds : s.findsTree ref base dir w (engineHost mode w host) = true) :
    SiteOk (base ++ [dir]) (exportWorkspaceFilesystemSnapshot ref s w host mode cid ans) := by
  have hlocal : mode = .localDocker → engineHost mode w host = w :=
    fun hm => by rw [engineHost, if_pos hm]
  unfold exportWorkspaceFilesystemSnapshot
  simp only
  generalize engineHost mode w host = m at *
  split
  · exact h
  · split
    · exact h
    · obtain ⟨honly, hsnapshots⟩ :=
        workspaceProjectPathForSnapshot_grows ref s w m mode ans.toHostAnswer
      split
      · rename_i s' hpath
        rw [hpath] at honly hsnapshots
        exact h.onlyGrows honly hsnapshots
      · rename_i s' root hpath
        rw [hpath] at honly hsnapshots
        have hok := h.onlyGrows honly hsnapshots
        split
        · exact hok
        · split
          · exact hok
          · rename_i path htree
            exact hok.noteSnapshot fun b hb => h.isBound hname hlocal hplaced hfinds hpath htree hb

/-- Changes on one machine that keep the project directory if it is bound there. -/
theorem SiteOk.setDisk {m : Nat} {fs : Fs} (h : SiteOk bundle s)
    (hdir : s.BindsAt bundle m → DirAt (s.disks m) (projectOf bundle) → (m, bundle) ∈ s.bundles →
      Canonical bundle → DirAt fs (projectOf bundle)) : SiteOk bundle (s.setDisk m fs) := by
  refine h.frame rfl (fun _ _ hp => hp) (fun _ hm => hm) (fun _ hb => hb) ?_ h.right
  intro m' hbinds hd hused hcan
  by_cases hm : m' = m
  · subst hm
    rw [Site.setDisk_self]
    exact hdir hbinds hd hused hcan
  · rw [Site.setDisk_of_ne s fs hm]
    exact hd

/-- The machine of the last bring-up has the project directory bound only if that bring-up
bound it. -/
theorem SiteOk.path_of_bindsAt {b : Binding} (h : SiteOk bundle s) (hb : s.log.head? = some b)
    (hbinds : s.BindsAt bundle b.host) : b.path = projectOf bundle := by
  rcases hbinds with hc | ⟨b', hb', -, hp⟩
  · exact (h.latest b hb _ hc).symm
  · rw [hb] at hb'
    obtain rfl := Option.some.inj hb'
    exact hp

theorem SiteOk.not_bindsAt_nil {m : Nat} (h : SiteOk bundle s) (hb : s.log.head? = none) :
    ¬ s.BindsAt bundle m := by
  rintro (hc | ⟨b, hb', -⟩)
  · rw [h.unused (List.head?_eq_none_iff.mp hb) m] at hc
    cases hc
  · rw [hb] at hb'
    cases hb'

theorem SiteOk.importSnapshot {w host : Nat} {mode : ExecutionMode}
    (h : SiteOk (base ++ [dir]) s) (hname : workspaceProjectDirName ref = .ok dir)
    (content : List (Path × Node)) (ans : SnapshotAnswer)
    (hplaced : s.isPlacedOn (engineHost mode w host) = true)
    (hfinds : s.findsTree ref base dir w (engineHost mode w host) = true) :
    SiteOk (base ++ [dir])
      (importWorkspaceFilesystemSnapshot ref s w host mode content ans) := by
  have hlocal : mode = .localDocker → engineHost mode w host = w :=
    fun hm => by rw [engineHost, if_pos hm]
  unfold importWorkspaceFilesystemSnapshot
  simp only
  generalize engineHost mode w host = m at *
  obtain ⟨honly, hsnapshots⟩ :=
    workspaceProjectPathForSnapshot_grows ref s w m mode ans.toHostAnswer
  split
  · rename_i s' hpath
    rw [hpath] at honly hsnapshots
    exact h.onlyGrows honly hsnapshots
  · rename_i s' root hpath
    rw [hpath] at honly hsnapshots
    have hok := h.onlyGrows honly hsnapshots
    split
    · exact hok
    · split
      · exact hok
      · -- the worker's own tree is replaced
        rename_i path htree
        refine SiteOk.noteSnapshot (hok.setDisk fun hbinds hdir _ _ => ?_) fun b hb =>
          h.isBound hname hlocal hplaced hfinds hpath htree hb
        cases hb : s'.log.head? with
        | none => exact absurd hbinds (hok.not_bindsAt_nil hb)
        | some b =>
            obtain ⟨rfl, rfl⟩ := h.isBound hname hlocal hplaced hfinds hpath htree hb
            rw [hok.path_of_bindsAt hb hbinds]
            exact (hdir.editBelow _).editBelow _

theorem SiteOk.userChanges (h : SiteOk bundle s) (changes : List (Path × Option Node)) :
    SiteOk bundle (siteStep ref s (.userChanges changes)) := by
  simp only [siteStep]
  split
  · exact h
  · rename_i m hrun
    split
    · exact h
    · rename_i p hp
      obtain ⟨bound, hbound, hwalk⟩ := Option.bind_eq_some_iff.mp hp
      refine h.setDisk fun hbinds hdir _ hcan => ?_
      -- the running container binds what the last bring-up bound
      obtain ⟨b, hb, rfl⟩ := h.active m hrun
      obtain rfl := h.latest b hb bound hbound
      rw [h.path_of_bindsAt hb hbinds, walk_of_dirAt (canonical_project hcan) hdir] at hwalk
      obtain rfl := Option.some.inj hwalk
      exact hdir.editBelow changes

/-- One step. -/
theorem SiteOk.step {st : SiteStep} (hname : workspaceProjectDirName ref = .ok dir)
    (h : SiteOk (base ++ [dir]) s) (hfinds : FindsTree ref base s st) :
    SiteOk (base ++ [dir]) (siteStep ref s st) := by
  unfold FindsTree at hfinds
  simp only [hname] at hfinds
  cases st with
  | bringUp w host mode launchMode ans =>
      simp only [Bool.and_eq_true] at hfinds
      exact h.bringUp host mode launchMode ans (.of_plainLayout hname hfinds.1)
        (.of_plainLayout hname hfinds.2)
  | stop =>
      refine h.frame rfl (fun _ _ hp => hp) (fun m hm => ?_) (fun _ hb => hb)
        (fun _ _ hdir _ _ => hdir) h.right
      cases hm
  | removeContainer m =>
      refine h.frame rfl (fun m' p hp => ?_) (fun m' hm => ?_) (fun _ hb => hb)
        (fun _ _ hdir _ _ => hdir) h.right
      · simp only [siteStep] at hp
        by_cases hm : m' = m
        · subst hm
          rw [Function.update_self] at hp
          cases hp
        · rwa [Function.update_of_ne hm] at hp
      · simp only [siteStep] at hm
        split at hm
        · cases hm
        · exact hm
  | userChanges changes => exact h.userChanges changes
  | exportSnapshot w host mode cid ans =>
      simp only [siteStep]
      split
      · rename_i hplaced
        exact h.exportSnapshot hname cid ans hplaced hfinds
      · exact h
  | importSnapshot w host mode content ans =>
      simp only [siteStep]
      split
      · rename_i hplaced
        exact h.importSnapshot hname content ans hplaced hfinds
      · exact h
  | elsewhere m changes =>
      exact h.setDisk fun _ hdir hused _ => dirAt_elsewhere changes hused hdir

end Keeps

theorem snapshots_of_bad_name {ref : ProjectRef} {s : Site} {e : String}
    (hname : workspaceProjectDirName ref = .error e) (st : SiteStep) :
    (siteStep ref s st).snapshots = s.snapshots := by
  have hpath : ∀ w host mode ans,
      workspaceProjectPathForSnapshot ref s w host mode ans = (s, none) := by
    intro w host mode ans
    simp [workspaceProjectPathForSnapshot, hname]
  cases st with
  | bringUp w host mode launchMode ans =>
      simp only [siteStep]
      rw [bringUp_eq_self host mode launchMode ans fun dir hdir => by
        rw [hname] at hdir
        cases hdir]
  | stop => rfl
  | removeContainer m => rfl
  | userChanges changes =>
      simp only [siteStep]
      split
      · rfl
      · split
        · rfl
        · rfl
  | exportSnapshot w host mode cid ans =>
      simp [siteStep, exportWorkspaceFilesystemSnapshot, hpath]
  | importSnapshot w host mode content ans =>
      simp [siteStep, importWorkspaceFilesystemSnapshot, hpath]
  | elsewhere m changes => rfl

/-- No bring-up and no snapshot yet. -/
def Site.IsUnused (s : Site) : Prop :=
  s.log = [] ∧ s.containers = (fun _ => none) ∧ s.running = none ∧ s.snapshots = []

theorem SiteOk.of_isUnused {bundle : Path} {s : Site} (h : s.IsUnused) : SiteOk bundle s := by
  obtain ⟨hlog, hcontainers, hrunning, hsnapshots⟩ := h
  refine ⟨?_, ?_, ?_, ?_, ?_, ?_, ?_⟩
  · simp [hlog]
  · simp [hcontainers]
  · simp [hcontainers]
  · simp [hlog]
  · simp [hrunning]
  · rintro m (hc | ⟨b, hb, -⟩)
    · simp [hcontainers] at hc
    · simp [hlog] at hb
  · simp [SnapshotsRight, hsnapshots]

/-- **The tree of a snapshot.** From any disks, in every run whose steps meet the condition,
every snapshot of the workspace that succeeds while it does not run has read or replaced the
directory that the last bring-up bound, on the machine it was bound on. -/
theorem snapshots_find_their_tree (ref : ProjectRef) (base : Path) (s : Site) (hs : s.IsUnused)
    (steps : List SiteStep) (h : Along (siteStep ref) (FindsTree ref base) s steps) :
    Always (siteStep ref) SnapshotsRight s steps := by
  cases hname : workspaceProjectDirName ref with
  | ok dir =>
      have halways : Always (siteStep ref) (SiteOk (base ++ [dir])) s steps :=
        always_of_along (SiteOk.of_isUnused hs) (fun _ _ hok hfinds => hok.step hname hfinds) h
      exact halways.mono fun _ hok => hok.right
  | error e =>
      have halways : Always (siteStep ref) (fun s => s.snapshots = []) s steps :=
        always_of_along hs.2.2.2 (fun _ st hnil _ => (snapshots_of_bad_name hname st).trans hnil) h
      refine halways.mono fun s hnil r hr => ?_
      rw [hnil] at hr
      cases hr

/-- A snapshot on the execution host, of a workspace that was brought up there. -/
def localSnapshot : List SiteStep :=
  [.bringUp 0 0 .localDocker (some "new") {}, .userChanges [(["a.txt"], some (.file "x"))], .stop,
    .exportSnapshot 0 0 .localDocker none {},
    .importSnapshot 0 0 .localDocker [(["b.txt"], .file "y")] {}]

theorem local_snapshot_finds_project :
    Along (siteStep sampleRef) (FindsTree sampleRef ["srv"]) emptySite localSnapshot ∧
      Always (siteStep sampleRef) SnapshotsRight emptySite localSnapshot := by
  have hfinds : Along (siteStep sampleRef) (FindsTree sampleRef ["srv"]) emptySite
      localSnapshot := by decide +kernel
  exact ⟨hfinds, snapshots_find_their_tree sampleRef ["srv"] emptySite ⟨rfl, rfl, rfl, rfl⟩
    localSnapshot hfinds⟩

/-- The worker that brought the remote workspace up takes the snapshot. -/
def remoteSnapshot : List SiteStep :=
  [.bringUp 0 9 .sshDocker (some "new") {}, .userChanges [(["a.txt"], some (.file "x"))], .stop,
    .exportSnapshot 0 9 .sshDocker none {}]

theorem remote_snapshot_reads_own_disk :
    (run (siteStep sampleRef) emptySite remoteSnapshot).snapshots
      = [⟨0, ["srv", "7", "project"], ⟨0, 9, ["srv", "7", "project"]⟩⟩] ∧
    ¬ Always (siteStep sampleRef) SnapshotsRight emptySite remoteSnapshot := by
  have hlog : (run (siteStep sampleRef) emptySite remoteSnapshot).snapshots
      = [⟨0, ["srv", "7", "project"], ⟨0, 9, ["srv", "7", "project"]⟩⟩] := by decide +kernel
  refine ⟨hlog, fun h => ?_⟩
  have hright := h.last
  rw [SnapshotsRight, hlog] at hright
  exact absurd hright (by decide)

end Devnest
