import Devnest.ProjectDirs

/-!
# One directory for a workspace

The container of a workspace should find the same host directory at its
project path after every bring-up. The path is worked out from directory
tests on the worker's disk, so on a remote host it is right only for workers
that happen to have a directory of the same name: a new launch leaves one on
the disk of its worker, and a resume by any other worker binds the bundle
root instead. (Over SSH a resume always fails.)

`bring_ups_bind_one_path` says what every bring-up has to find on the disk
of its worker. On the execution host itself the first bring-up is enough,
whatever the user does inside the bound directory.
-/

namespace Devnest

open Posix Runs

def isLink (fs : Fs) (p : Path) : Bool :=
  match fs.lookup p with
  | some (.link _) => true
  | _ => false

/-- The disk resolves the projects base to `base`, and neither the bundle nor its project
directory is a link there. -/
def plainLayout (ref : ProjectRef) (base : Path) (dir : String) (fs : Fs) : Bool :=
  realpath fs ref.base == some base && !isLink fs (base ++ [dir]) &&
    !isLink fs (projectOf (base ++ [dir]))

theorem isLink_false {fs : Fs} {p : Path} (h : isLink fs p = false) (t : String) :
    fs.lookup p ≠ some (.link t) := by
  intro hlink
  rw [isLink, hlink] at h
  cases h

theorem PlainLayout.of_plainLayout {ref : ProjectRef} {base : Path} {dir : String} {fs : Fs}
    (hname : workspaceProjectDirName ref = .ok dir) (h : plainLayout ref base dir fs = true) :
    PlainLayout ref base dir fs := by
  simp only [plainLayout, Bool.and_eq_true, beq_iff_eq, Bool.not_eq_true'] at h
  obtain ⟨⟨hbase, hbundle⟩, hproject⟩ := h
  have hfree := (realpath_clean hbase).1
  exact ⟨hname, hbase, (hfree.snoc (isLink_false hbundle)).snoc (isLink_false hproject)⟩

/-- The worker brought the workspace up on its own machine before. -/
def Site.broughtUpAt (s : Site) (m : Nat) : Bool :=
  s.log.any fun b => b.worker == m && b.host == m

/-- A bring-up finds the project directory on the disk of its worker, or makes it there as a
new launch, or runs on the execution host and not for the first time, or is a resume over SSH,
which fails. -/
def FindsProject (ref : ProjectRef) (base : Path) (s : Site) (st : SiteStep) : Prop :=
  (match workspaceProjectDirName ref with
    | .error _ => true
    | .ok dir =>
        match st with
        | .bringUp w h mode launchMode _ =>
            plainLayout ref base dir (s.disks w) &&
              (normalizedLaunchMode launchMode == some "new" ||
                isDir (s.disks w) (projectOf (base ++ [dir])) ||
                (engineHost mode w h == w && s.broughtUpAt w) ||
                (mode == .sshDocker && launchMode.isSome))
        | .importSnapshot _ _ _ _ _ => false
        | _ => true) = true

instance (ref : ProjectRef) (base : Path) (s : Site) (st : SiteStep) :
    Decidable (FindsProject ref base s st) :=
  inferInstanceAs (Decidable (_ = true))

/-- Bring-ups on one execution host bind one path. -/
def BindsOnePath (s : Site) : Prop :=
  ∀ b ∈ s.log, ∀ b' ∈ s.log, b.host = b'.host → b.path = b'.path

/-- All bindings are of the project directory, which is there wherever a machine has brought
the workspace up for itself. -/
structure BindsProject (bundle : Path) (s : Site) : Prop where
  log : ∀ b ∈ s.log, b.path = projectOf bundle
  containers : ∀ h p, s.containers h = some p → p = projectOf bundle
  dirs : ∀ b ∈ s.log, b.worker = b.host → DirAt (s.disks b.host) (projectOf bundle) ∧
    (b.host, bundle) ∈ s.bundles ∧ Canonical bundle

section Keeps

variable {ref : ProjectRef} {base bundle : Path} {dir : String} {s s' : Site}

theorem BindsProject.onePath (h : BindsProject bundle s) : BindsOnePath s := by
  intro b hb b' hb' _
  rw [h.log b hb, h.log b' hb']

/-- A step that binds nothing keeps the law if it keeps the directories. -/
theorem BindsProject.frame (h : BindsProject bundle s) (hlog : s'.log = s.log)
    (hcontainers : ∀ m p, s'.containers m = some p → s.containers m = some p)
    (hbundles : s.bundles ⊆ s'.bundles)
    (hdirs : ∀ m, DirAt (s.disks m) (projectOf bundle) → (m, bundle) ∈ s.bundles →
      Canonical bundle → DirAt (s'.disks m) (projectOf bundle)) : BindsProject bundle s' where
  log := by rw [hlog]; exact h.log
  containers := fun m p hp => h.containers m p (hcontainers m p hp)
  dirs := by
    rw [hlog]
    intro b hb hself
    obtain ⟨hdir, hused, hcan⟩ := h.dirs b hb hself
    exact ⟨hdirs b.host hdir hused hcan, hbundles hused, hcan⟩

theorem BindsProject.onlyGrows (h : BindsProject bundle s) (hgrows : OnlyGrows s s') :
    BindsProject bundle s' :=
  h.frame hgrows.log (fun m p hp => by rwa [hgrows.containers] at hp) hgrows.bundles
    fun m hdir _ _ => (hgrows.grows m).dirAt hdir

/-- Changes on one machine that keep the project directory. -/
theorem BindsProject.setDisk {m : Nat} {fs : Fs} (h : BindsProject bundle s)
    (hdir : DirAt (s.disks m) (projectOf bundle) → (m, bundle) ∈ s.bundles → Canonical bundle →
      DirAt fs (projectOf bundle)) : BindsProject bundle (s.setDisk m fs) := by
  refine h.frame rfl (fun _ _ hc => hc) (fun _ hb => hb) fun m' hd hused hcan => ?_
  by_cases hm : m' = m
  · subst hm
    rw [Site.setDisk_self]
    exact hdir hd hused hcan
  · rw [Site.setDisk_of_ne s fs hm]
    exact hd

theorem bindContainer_eq (mode : ExecutionMode) {existing : Option Path} {path : Path}
    (h : ∀ p, existing = some p → p = path) : bindContainer mode existing path = path := by
  unfold bindContainer
  split
  · cases existing with
    | none => rfl
    | some p => exact h p rfl
  · rfl

theorem BindsProject.bringUp {w : Nat} (h : BindsProject (base ++ [dir]) s) (host : Nat)
    (mode : ExecutionMode) (launchMode : Option String) (ans : BringUpAnswer)
    (hlayout : PlainLayout ref base dir (s.disks w))
    (hfinds : normalizedLaunchMode launchMode = some "new" ∨
      isDir (s.disks w) (projectOf (base ++ [dir])) = true ∨
      (engineHost mode w host = w ∧ s.broughtUpAt w = true) ∨
      (mode = .sshDocker ∧ launchMode.isSome = true)) :
    BindsProject (base ++ [dir]) (bringUpWorkspaceRuntime ref s w host mode launchMode ans) := by
  have hcan := hlayout.canonical
  have heff := bringUp_effect host mode launchMode ans hlayout
  generalize engineHost mode w host = m at heff hfinds
  generalize bringUpWorkspaceRuntime ref s w host mode launchMode ans = s' at heff
  have hgrows : s.Grows s' := heff.grows
  have hbundles : s.bundles ⊆ s'.bundles := by
    rw [heff.bundles]
    exact fun b hb => List.mem_cons_of_mem _ (List.mem_cons_of_mem _ hb)
  rcases heff.bound with ⟨hlog, hcontainers, -⟩ | ⟨path, ⟨hreaches, hasks⟩, hlog, hcontainers, -⟩
  · exact h.frame hlog (fun m p hp => by rwa [hcontainers] at hp) hbundles
      fun m hdir _ _ => (hgrows m).dirAt hdir
  · -- a path other than the project directory needs a worker that has none
    have hproject : path = projectOf (base ++ [dir]) ∧
        DirAt (s'.disks w) (projectOf (base ++ [dir])) := by
      rcases hasks with ⟨hp, hdir, -⟩ | ⟨-, hno, hnew⟩
      · exact ⟨hp, hdir⟩
      · exfalso
        rcases hfinds with hlaunch | hdir | ⟨-, hup⟩ | ⟨hssh, hsome⟩
        · exact hnew hlaunch
        · exact hno ((isDir_iff (canonical_project hcan) hlayout.free).mp hdir)
        · obtain ⟨b, hb, hself⟩ := List.any_eq_true.mp hup
          simp only [Bool.and_eq_true, beq_iff_eq] at hself
          have hdir := (h.dirs b hb (hself.1.trans hself.2.symm)).1
          rw [hself.2] at hdir
          exact hno hdir
        · obtain ⟨mode', rfl⟩ := Option.isSome_iff_exists.mp hsome
          have hall := hreaches hssh
          simp only [normalizedLaunchMode, Option.map_some, Option.all_some, beq_iff_eq] at hall
          exact hnew (congrArg some hall)
    obtain ⟨rfl, hdir⟩ := hproject
    have hbound : bindContainer mode (s.containers m) (projectOf (base ++ [dir]))
        = projectOf (base ++ [dir]) := bindContainer_eq mode (h.containers m)
    have hlog : s'.log = ⟨w, m, projectOf (base ++ [dir])⟩ :: s.log := by
      rw [hlog]
      exact congrArg (fun p => (⟨w, m, p⟩ : Binding) :: s.log) hbound
    have hcontainers : s'.containers
        = Function.update s.containers m (some (projectOf (base ++ [dir]))) := by
      rw [hcontainers]
      exact congrArg (fun p => Function.update s.containers m (some p)) hbound
    refine ⟨?_, ?_, ?_⟩
    · rw [hlog]
      intro b hb
      rcases List.mem_cons.mp hb with rfl | hb
      · rfl
      · exact h.log b hb
    · rw [hcontainers]
      intro m' p hp
      by_cases hm : m' = m
      · subst hm
        rw [Function.update_self] at hp
        exact (Option.some.inj hp).symm
      · rw [Function.update_of_ne hm] at hp
        exact h.containers m' p hp
    · rw [hlog]
      intro b hb hself
      rcases List.mem_cons.mp hb with rfl | hb
      · obtain rfl : w = m := hself
        refine ⟨hdir, ?_, hcan⟩
        rw [heff.bundles]
        exact List.mem_cons_self
      · obtain ⟨hd, hused, hc⟩ := h.dirs b hb hself
        exact ⟨(hgrows b.host).dirAt hd, hbundles hused, hc⟩

theorem BindsProject.userChanges (h : BindsProject bundle s)
    (changes : List (Path × Option Node)) :
    BindsProject bundle (siteStep ref s (.userChanges changes)) := by
  simp only [siteStep]
  split
  · exact h
  · rename_i m hrun
    split
    · exact h
    · rename_i p hp
      obtain ⟨bound, hbound, hwalk⟩ := Option.bind_eq_some_iff.mp hp
      obtain rfl := h.containers m bound hbound
      refine h.setDisk fun hdir _ hcan => ?_
      rw [walk_of_dirAt (canonical_project hcan) hdir] at hwalk
      obtain rfl := Option.some.inj hwalk
      exact hdir.editBelow changes

/-- Nobody else touches a bundle of the workspace or the way to it. -/
theorem dirAt_elsewhere {m : Nat} (changes : List (Path × Option Node))
    (hused : (m, bundle) ∈ s.bundles) (hdir : DirAt (s.disks m) (projectOf bundle)) :
    DirAt (editBelow [] (s.disks m) (changes.filter fun c => s.isElsewhere m c.1))
      (projectOf bundle) := by
  intro q hq hne
  rw [lookup_editBelow_of_ne]
  · exact hdir q hq hne
  · intro c hc _
    rintro rfl
    have helse := List.all_eq_true.mp (List.mem_filter.mp hc).2 _ hused
    simp only [bne_self_eq_false, Bool.false_or, Bool.and_eq_true, Bool.not_eq_true',
      List.nil_append] at helse hq
    rcases prefix_snoc.mp hq with hq | hq
    · rw [List.isPrefixOf_iff_prefix.mpr hq] at helse
      exact absurd helse.2 (by simp)
    · have hup : bundle <+: c.1 := hq ▸ List.prefix_append bundle [userProjectSubdir]
      rw [List.isPrefixOf_iff_prefix.mpr hup] at helse
      exact absurd helse.1 (by simp)

theorem exportSnapshot_grows (ref : ProjectRef) (s : Site) (w host : Nat) (mode : ExecutionMode)
    (cid : Option String) (ans : SnapshotAnswer) :
    OnlyGrows s (exportWorkspaceFilesystemSnapshot ref s w host mode cid ans) := by
  have hnote : ∀ {s' : Site} (m : Nat) (p : Path), OnlyGrows s s' →
      OnlyGrows s (s'.noteSnapshot m p) := by
    intro s' m p h
    unfold Site.noteSnapshot
    split
    · exact ⟨h.grows, h.bundles, h.log, h.containers, h.running⟩
    · exact h
  unfold exportWorkspaceFilesystemSnapshot
  simp only
  split
  · exact ⟨.refl s, fun _ hb => hb, rfl, rfl, rfl⟩
  · split
    · exact ⟨.refl s, fun _ hb => hb, rfl, rfl, rfl⟩
    · obtain ⟨honly, -⟩ := workspaceProjectPathForSnapshot_grows ref s w (engineHost mode w host)
        mode ans.toHostAnswer
      split
      · rename_i s' hout
        rwa [hout] at honly
      · rename_i s' root hout
        rw [hout] at honly
        split
        · exact honly
        · split
          · exact honly
          · exact hnote _ _ honly

/-- One step. -/
theorem BindsProject.step {st : SiteStep} (hname : workspaceProjectDirName ref = .ok dir)
    (h : BindsProject (base ++ [dir]) s) (hfinds : FindsProject ref base s st) :
    BindsProject (base ++ [dir]) (siteStep ref s st) := by
  unfold FindsProject at hfinds
  simp only [hname] at hfinds
  cases st with
  | bringUp w host mode launchMode ans =>
      simp only [Bool.and_eq_true, Bool.or_eq_true, beq_iff_eq] at hfinds
      obtain ⟨hlayout, hfound⟩ := hfinds
      refine h.bringUp host mode launchMode ans (.of_plainLayout hname hlayout) ?_
      rw [or_assoc, or_assoc] at hfound
      exact hfound
  | stop => exact h.frame rfl (fun _ _ hc => hc) (fun _ hb => hb) fun _ hdir _ _ => hdir
  | removeContainer m =>
      refine h.frame rfl (fun m' p hp => ?_) (fun _ hb => hb) fun _ hdir _ _ => hdir
      simp only [siteStep] at hp
      by_cases hm : m' = m
      · subst hm
        rw [Function.update_self] at hp
        cases hp
      · rwa [Function.update_of_ne hm] at hp
  | userChanges changes => exact h.userChanges changes
  | exportSnapshot w host mode cid ans =>
      simp only [siteStep]
      split
      · exact h.onlyGrows (exportSnapshot_grows ref s w host mode cid ans)
      · exact h
  | importSnapshot w host mode content ans => cases hfinds
  | elsewhere m changes =>
      exact h.setDisk fun hdir hused _ => dirAt_elsewhere changes hused hdir

end Keeps

/-- A workspace whose directory has no valid name is never brought up. -/
theorem log_of_bad_name {ref : ProjectRef} {s : Site} {e : String}
    (hname : workspaceProjectDirName ref = .error e) (st : SiteStep) :
    (siteStep ref s st).log = s.log := by
  cases st with
  | bringUp w host mode launchMode ans =>
      simp only [siteStep]
      rw [bringUp_eq_self host mode launchMode ans fun dir hdir => by
        rw [hname] at hdir
        cases hdir]
  | stop => rfl
  | removeContainer m => rfl
  | userChanges changes =>
      simp only [siteStep]
      split
      · rfl
      · split
        · rfl
        · rfl
  | exportSnapshot w host mode cid ans =>
      simp only [siteStep]
      split
      · exact (exportSnapshot_grows ref s w host mode cid ans).log
      · rfl
  | importSnapshot w host mode content ans =>
      simp [siteStep, importWorkspaceFilesystemSnapshot, workspaceProjectPathForSnapshot, hname]
  | elsewhere m changes => rfl

/-- The workspace was never brought up. -/
def Site.IsFresh (s : Site) : Prop := s.log = [] ∧ s.containers = (fun _ => none)

/-- **One directory.** From any disks, in every run whose bring-ups find the project directory
on the disk of their worker, all bring-ups of the workspace on one execution host bind the same
path. -/
theorem bring_ups_bind_one_path (ref : ProjectRef) (base : Path) (s : Site) (hs : s.IsFresh)
    (steps : List SiteStep) (h : Along (siteStep ref) (FindsProject ref base) s steps) :
    Always (siteStep ref) BindsOnePath s steps := by
  cases hname : workspaceProjectDirName ref with
  | ok dir =>
      have hfresh : BindsProject (base ++ [dir]) s := by
        refine ⟨?_, ?_, ?_⟩
        · simp [hs.1]
        · simp [hs.2]
        · simp [hs.1]
      have halways : Always (siteStep ref) (BindsProject (base ++ [dir])) s steps :=
        always_of_along hfresh (fun _ _ hok hfinds => hok.step hname hfinds) h
      exact halways.mono fun _ hok => hok.onePath
  | error e =>
      have halways : Always (siteStep ref) (fun s => s.log = []) s steps :=
        always_of_along hs.1 (fun _ st hlog _ => (log_of_bad_name hname st).trans hlog) h
      refine halways.mono fun s hlog b hb => ?_
      rw [hlog] at hb
      cases hb

/-- Workspace 7 under `/srv`. -/
def sampleRef : ProjectRef := { base := ["srv"], workspaceId := "7" }

/-- Empty disks. -/
def emptySite : Site := { disks := fun _ => ∅ }

/-- One machine: a new launch, files of the user, and a resume. -/
def localBringUps : List SiteStep :=
  [.bringUp 0 0 .localDocker (some "new") {}, .userChanges [(["a.txt"], some (.file "x"))], .stop,
    .bringUp 0 0 .localDocker (some "resume") {}]

theorem local_resume_keeps_directory :
    Along (siteStep sampleRef) (FindsProject sampleRef ["srv"]) emptySite localBringUps ∧
      Always (siteStep sampleRef) BindsOnePath emptySite localBringUps := by
  have hfinds : Along (siteStep sampleRef) (FindsProject sampleRef ["srv"]) emptySite
      localBringUps := by decide +kernel
  exact ⟨hfinds, bring_ups_bind_one_path sampleRef ["srv"] emptySite ⟨rfl, rfl⟩ localBringUps hfinds⟩

/-- Machine 9 runs the containers over SSM. The stopped one is removed there, and the resume is
the work of another worker. -/
def remoteBringUps : List SiteStep :=
  [.bringUp 0 9 .ssmDocker (some "new") {}, .stop, .removeContainer 9,
    .bringUp 1 9 .ssmDocker (some "resume") {}]

theorem other_worker_binds_bundle :
    (run (siteStep sampleRef) emptySite remoteBringUps).log
      = [⟨1, 9, ["srv", "7"]⟩, ⟨0, 9, ["srv", "7", "project"]⟩] ∧
    ¬ Always (siteStep sampleRef) BindsOnePath emptySite remoteBringUps := by
  have hlog : (run (siteStep sampleRef) emptySite remoteBringUps).log
      = [⟨1, 9, ["srv", "7"]⟩, ⟨0, 9, ["srv", "7", "project"]⟩] := by decide +kernel
  refine ⟨hlog, fun h => ?_⟩
  have hone := h.last
  rw [BindsOnePath, hlog] at hone
  exact absurd hone (by decide)

end Devnest
