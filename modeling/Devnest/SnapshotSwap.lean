import Devnest.SnapshotArchive

/-!
# Restores that fail

`_safe_snapshot_tar_extract` with one call that fails: a call of the swap, or
the extraction at any member. The destination, its backup and the temporary
directory are names of one directory, so a call on one of them leaves what lies
below the others alone (`SameOutside`).

`swapWith_fails` and `swapWith_moves` say what the swap does; the backup is put
back when the extracted tree cannot take its place. `extractMember_ends` says what
the extraction of one member does, for whatever is to be shown of it.
-/

namespace Devnest

open Posix

/-! ## A call that fails -/

/-- A removal that fails leaves some of the paths. The removal of the temporary directory is not
among the calls: it comes after another failure only. -/
inductive SwapCall where
  | mkdtemp
  | existsStale
  | rmtreeStale (left : List Path)
  | existsDest
  | renameAway
  | renameIn
  | existsBackup
  | rmtreeBackup (left : List Path)
  | existsTmp
  deriving DecidableEq

/-- `rmtree` with `ignore_errors` that cannot remove some paths, and so not the directory. -/
def rmtreeLeaving (left : List Path) (p : Path) (fs : Fs) : Fs :=
  if fs.lookup p = some .dir then
    editBelow p fs (((pathsBelow fs p).filter (!left.contains ·)).map fun r => (r, none))
  else fs

def removeStale (failing : Option SwapCall) (bak : Path) (fs : Fs) : Fs :=
  match failing with
  | some (.rmtreeStale left) => rmtreeLeaving left bak fs
  | _ => rmtree bak fs

def removeBackup (failing : Option SwapCall) (bak : Path) (fs : Fs) : Fs :=
  match failing with
  | some (.rmtreeBackup left) => rmtreeLeaving left bak fs
  | _ => rmtree bak fs

/-- The swap; an `OSError` goes to the rollback. -/
def swapWith (failing : Option SwapCall) (dest tmp : Path) (fs : Fs) : Fs × Bool :=
  if failing = some .existsStale then (rollback dest fs, false)
  else
    let fs := if existsAt fs (backupOf dest) then removeStale failing (backupOf dest) fs else fs
    if failing = some .existsDest then (rollback dest fs, false)
    else
      match
        if existsAt fs dest then
          if failing = some .renameAway then none else rename dest (backupOf dest) fs
        else some fs with
      | none => (rollback dest fs, false)
      | some fs =>
          match if failing = some .renameIn then none else rename tmp dest fs with
          | none => (rollback dest fs, false)
          | some fs =>
              if failing = some .existsBackup then (rollback dest fs, false)
              else
                let bak := backupOf dest
                (if existsAt fs bak then removeBackup failing bak fs else fs, true)

/-- What the extraction does: it comes to its end, or an error stops it at some member with part of
the member's work done. -/
inductive Extraction (ans : ImportAnswers) (ms : List TarMember) (tmp : Path) (d : Disk) :
    Disk × Option TarFault → Prop where
  | whole : Extraction ans ms tmp d (extractall ans.depth ms tmp d)
  | stopped (k : Nat) {d' d'' : Disk} (fault : TarFault)
      (before : extractFrom ans.depth ms tmp 0 (ms.take k) d = (d', none))
      (calls : FileCalls d' d'') : Extraction ans ms tmp d (d'', some fault)

/-- What the extraction or the swap leaves and raises. -/
def restoreResult (failing : Option SwapCall) (ans : ImportAnswers) (dest : Path) :
    Disk × Option TarFault → Fs × Option ImportFault
  | (d, some .os) | (d, some .extract) =>
      (d.fs, some (.issue ("snapshot:import:extract_failed:" ++ ans.error)))
  | (d, some _) => (d.fs, some .raised)
  | (d, none) =>
      match swapWith failing dest (tmpDir ans dest) d.fs with
      | (fs, true) => (fs, none)
      | (fs, false) => (fs, some (.issue ("snapshot:import:atomic_swap_failed:" ++ ans.error)))

/-- `_safe_snapshot_tar_extract` with the outcome of its extraction; the `finally` comes last. -/
def restoreWith (failing : Option SwapCall) (ans : ImportAnswers) (dest : Path)
    (ms : List TarMember) (fs : Fs) (out : Disk × Option TarFault) : Fs × Option ImportFault :=
  match validateTarMembers fs dest ms with
  | .error fault => (fs, some fault)
  | .ok () =>
      if failing = some .mkdtemp then (fs, some .raised)
      else
        let (fs, fault) := restoreResult failing ans dest out
        if failing = some .existsTmp then (fs, some .raised)
        else ((cleanup (tmpDir ans dest) { fs }).fs, fault)

theorem swapWith_none (dest tmp : Path) (fs : Fs) :
    swapWith none dest tmp fs = atomicSwap dest tmp fs := by
  unfold swapWith atomicSwap
  rfl

theorem cleanup_fs (tmp : Path) (d : Disk) :
    (cleanup tmp { fs := d.fs }).fs = (cleanup tmp d).fs := by
  unfold cleanup
  split
  · rfl
  · rfl

/-- Without a failing call it is the restore of the model. -/
theorem restoreWith_none (ans : ImportAnswers) (dest : Path) (ms : List TarMember) (d : Disk) :
    restoreWith none ans dest ms d.fs
        (extractall ans.depth ms (tmpDir ans dest) (d.put (tmpDir ans dest) .dir)) =
      ((safeSnapshotTarExtract ans dest ms d).1.fs, (safeSnapshotTarExtract ans dest ms d).2) := by
  unfold restoreWith safeSnapshotTarExtract
  cases validateTarMembers d.fs dest ms with
  | error fault => rfl
  | ok _ =>
      dsimp only
      rw [if_neg nofun, if_neg nofun]
      rcases extractall ans.depth ms (tmpDir ans dest) (d.put (tmpDir ans dest) .dir) with
        ⟨d', _ | fault⟩
      · dsimp only [restoreResult]
        rw [swapWith_none]
        rcases atomicSwap dest (tmpDir ans dest) d'.fs with ⟨fs', _ | _⟩
        · exact congrArg (·, _) (cleanup_fs _ { d' with fs := fs' })
        · exact congrArg (·, _) (cleanup_fs _ { d' with fs := fs' })
      · cases fault with
        | os => exact congrArg (·, _) (cleanup_fs _ d')
        | extract => exact congrArg (·, _) (cleanup_fs _ d')
        | key => exact congrArg (·, _) (cleanup_fs _ d')
        | recursion => exact congrArg (·, _) (cleanup_fs _ d')

/-! ## The extraction's calls -/

section Calls

variable {tmp : Path} {names : List String} {d d' : Disk} {ms : List TarMember}

theorem makeUpper_calls (tmp : Path) (names : List String) (d : Disk) :
    FileCalls d (makeUpper tmp names d).1 := by
  unfold makeUpper
  split
  · exact .refl
  · exact fileCalls_makedirs tmp _ d

theorem makedir_calls (tmp : Path) (names : List String) (d : Disk) :
    FileCalls d (makedir tmp names d).1 := by
  have hmkdir : FileCalls d (mkdir tmp names d).1 := FileCalls.refl.create tmp names .dir
  unfold makedir
  split
  next heq =>
    rw [heq] at hmkdir
    exact hmkdir
  · exact hmkdir

theorem makeSymlink_calls (tmp : Path) (names : List String) (linkname : String) (d : Disk) :
    FileCalls d (makeSymlink tmp names linkname d).1 := by
  have hunlink : FileCalls d (unlink tmp names d).1 := FileCalls.refl.unlink tmp names
  unfold makeSymlink
  split
  · split
    next heq =>
      rw [heq] at hunlink
      exact hunlink.symlink tmp names linkname
    · exact hunlink
  · exact FileCalls.refl.symlink tmp names linkname

theorem osError_disk (r : Disk × Option Errno) : (osError r).1 = r.1 := by
  obtain ⟨d, _ | e⟩ := r <;> rfl

/-- The calls for a member's own entry, where they end the extraction. -/
inductive EntryMade (tmp : Path) (names : List String) (m : TarMember) (d : Disk) :
    Disk × Option TarFault → Prop where
  | file {data : String} (htype : m.type = .reg data) :
      EntryMade tmp names m d (osError (openWrite tmp names d data))
  | directory (htype : m.type = .dir) : EntryMade tmp names m d (osError (makedir tmp names d))
  | special (htype : m.type = .special) : EntryMade tmp names m d (d, some .os)
  | symlink {t : String} {d' : Disk} (htype : m.type = .sym t)
      (hmade : makeSymlink tmp names t d = (d', none)) : EntryMade tmp names m d (d', none)
  | hardLink {linkname : String} {d' : Disk} (htype : m.type = .lnk linkname)
      (hmade : link tmp names d (sourceBase tmp linkname) (pathNames linkname) = (d', none)) :
      EntryMade tmp names m d (d', none)

/-- A link that is not made, and what is left; a hard link leaves nothing. -/
inductive LinkFails (tmp : Path) (names : List String) (m : TarMember) (d : Disk) : Disk → Prop where
  | symlink {t : String} {d' : Disk} {e : Errno} (htype : m.type = .sym t)
      (hfails : makeSymlink tmp names t d = (d', some e)) : LinkFails tmp names m d d'
  | hardLink {linkname : String} (htype : m.type = .lnk linkname) : LinkFails tmp names m d d

/-- The member a link names is extracted in its place: not at all if there is none, and once more
after an `OSError`. A fault may be renamed. -/
inductive Instead (ms : List TarMember) (tmp : Path) (cur depth i : Nat) (m : TarMember)
    (names : List String) : Disk → Disk × Option TarFault → Prop where
  | missing (d : Disk) (fault : TarFault) : Instead ms tmp cur depth i m names d (d, some fault)
  | member {j : Nat} {d d' : Disk} {fault fault' : Option TarFault}
      (hj : findLinkTarget ms i m = some j)
      (hres : extractMember ms tmp cur depth j names d = (d', fault))
      (hfault : fault' ≠ none → fault ≠ none) : Instead ms tmp cur depth i m names d (d', fault')
  | again {j : Nat} {d d' : Disk} {r : Disk × Option TarFault}
      (hj : findLinkTarget ms i m = some j)
      (hres : extractMember ms tmp cur depth j names d = (d', some .os))
      (hr : Instead ms tmp cur depth i m names d' r) : Instead ms tmp cur depth i m names d r

/-- How the extraction of a member ends. -/
inductive MemberEnd (ms : List TarMember) (tmp : Path) (cur depth i : Nat) (m : TarMember)
    (names : List String) (d : Disk) : Disk × Option TarFault → Prop where
  | noUpper {d' : Disk} {e : Errno} (hup : makeUpper tmp names d = (d', some e)) :
      MemberEnd ms tmp cur depth i m names d (d', some .os)
  | own {d' : Disk} {r : Disk × Option TarFault} (hup : makeUpper tmp names d = (d', none))
      (hmade : EntryMade tmp names m d' r) : MemberEnd ms tmp cur depth i m names d r
  | instead {d' d'' : Disk} {r : Disk × Option TarFault}
      (hup : makeUpper tmp names d = (d', none)) (hfails : LinkFails tmp names m d' d'')
      (hr : Instead ms tmp cur depth i m names d'' r) : MemberEnd ms tmp cur depth i m names d r

/-- **The calls of one member**, for every kind of member. -/
theorem extractMember_ends {cur depth i : Nat} {m : TarMember} (hm : ms[i]? = some m) :
    MemberEnd ms tmp cur depth i m names d (extractMember ms tmp cur (depth + 1) i names d) := by
  rw [extractMember, hm]
  dsimp -zeta only
  extract_lets named fallback
  have hnamed : ∀ d₁ : Disk, Instead ms tmp cur depth i m names d₁ (named d₁) := by
    intro d₁
    dsimp only [named]
    split
    · exact .missing d₁ .key
    next j hj => exact .member hj rfl id
  have hfallback : ∀ d₁ : Disk, Instead ms tmp cur depth i m names d₁ (fallback d₁) := by
    intro d₁
    dsimp only [fallback, named]
    cases hj : findLinkTarget ms i m with
    | none => exact .missing d₁ .extract
    | some j =>
        dsimp only
        split
        next heq => exact .member hj heq fun _ => Option.some_ne_none _
        · exact .member hj rfl id
  split
  next hup => exact .noUpper hup
  next d₁ hup =>
    split
    next htype => exact .own hup (.file htype)
    next htype => exact .own hup (.directory htype)
    next htype => exact .own hup (.special htype)
    next t htype =>
      split
      next hmade => exact .own hup (.symlink htype hmade)
      next hfails => exact .instead hup (.symlink htype hfails) (hfallback _)
    next linkname htype =>
      split
      · exact .instead hup (.hardLink htype) (hfallback d₁)
      · split
        · rcases link_cases tmp names d₁ (sourceBase tmp linkname) (pathNames linkname) with
            ⟨e, heq⟩ | ⟨q, y, node, p, x, -, -, -, -, -, -, -, heq⟩
          · rw [heq]
            exact .instead hup (.hardLink htype) (hfallback d₁)
          · rw [heq]
            exact .own hup (.hardLink htype heq)
        · split
          next d₂ heq =>
            -- the named member met an `OSError`, and is extracted once more
            dsimp only [named] at heq
            cases hj : findLinkTarget ms i m with
            | none => rw [hj] at heq; cases heq
            | some j =>
                rw [hj] at heq
                exact .instead hup (.hardLink htype) (.again hj heq (hfallback d₂))
          · exact .instead hup (.hardLink htype) (hnamed d₁)

theorem EntryMade.calls {m : TarMember} {r : Disk × Option TarFault}
    (h : EntryMade tmp names m d r) : FileCalls d r.1 := by
  cases h with
  | file htype =>
      rw [osError_disk]
      exact FileCalls.refl.write tmp names _
  | directory htype =>
      rw [osError_disk]
      exact makedir_calls tmp names d
  | special htype => exact .refl
  | @symlink t d' htype hmade =>
      have hcalls := makeSymlink_calls tmp names t d
      rwa [hmade] at hcalls
  | @hardLink linkname d' htype hmade =>
      have hcalls := FileCalls.refl (d := d).link tmp names (sourceBase tmp linkname)
        (pathNames linkname)
      rwa [hmade] at hcalls

theorem LinkFails.calls {m : TarMember} (h : LinkFails tmp names m d d') : FileCalls d d' := by
  cases h with
  | @symlink t d' e htype hfails =>
      have hcalls := makeSymlink_calls tmp names t d
      rwa [hfails] at hcalls
  | hardLink htype => exact .refl

theorem Instead.calls {cur depth i : Nat} {m : TarMember} {r : Disk × Option TarFault}
    (hnext : ∀ j d, FileCalls d (extractMember ms tmp cur depth j names d).1)
    (h : Instead ms tmp cur depth i m names d r) : FileCalls d r.1 := by
  induction h with
  | missing d fault => exact .refl
  | @member j d d' fault fault' hj hres hfault =>
      have hcalls := hnext j d
      rwa [hres] at hcalls
  | @again j d d' r hj hres hr ih =>
      have hcalls := hnext j d
      rw [hres] at hcalls
      exact hcalls.trans ih

theorem extractMember_calls (ms : List TarMember) (tmp : Path) (cur depth i : Nat)
    (names : List String) (d : Disk) :
    FileCalls d (extractMember ms tmp cur depth i names d).1 := by
  induction depth generalizing i d with
  | zero => exact .refl
  | succ depth ih =>
      cases hm : ms[i]? with
      | none =>
          rw [extractMember, hm]
          exact .refl
      | some m =>
          have hupper := makeUpper_calls tmp names d
          have hends : MemberEnd ms tmp cur depth i m names d _ := extractMember_ends hm
          generalize extractMember ms tmp cur (depth + 1) i names d = r at hends
          cases hends with
          | noUpper hup =>
              rw [hup] at hupper
              exact hupper
          | own hup hmade =>
              rw [hup] at hupper
              exact hupper.trans hmade.calls
          | instead hup hfails hr =>
              rw [hup] at hupper
              exact (hupper.trans hfails.calls).trans (hr.calls ih)

theorem extractFrom_calls (depth : Nat) (ms : List TarMember) (tmp : Path) (cur : Nat)
    (rest : List TarMember) (d : Disk) : FileCalls d (extractFrom depth ms tmp cur rest d).1 := by
  induction rest generalizing cur d with
  | nil => exact .refl
  | cons m rest ih =>
      have hmember := extractMember_calls ms tmp cur (depth + 1) cur (pathNames m.name) d
      rw [extractFrom]
      split
      next heq =>
        rw [heq] at hmember
        exact hmember.trans (ih _ _)
      next heq =>
        rw [heq] at hmember
        exact hmember.trans (ih _ _)
      · exact hmember

theorem Extraction.calls {ans : ImportAnswers} {out : Disk × Option TarFault}
    (h : Extraction ans ms tmp d out) : FileCalls d out.1 := by
  cases h with
  | whole => exact extractFrom_calls ans.depth ms tmp 0 ms d
  | stopped k fault before calls =>
      have hbefore := extractFrom_calls ans.depth ms tmp 0 (ms.take k) d
      rw [before] at hbefore
      exact hbefore.trans calls

end Calls

/-! ## Names of one directory -/

variable {fs fs' fs'' : Fs} {parent p q : Path} {x y name tmp : String}
  {failing : Option SwapCall}

/-- Nothing but what lies at and below the path is changed. -/
def SameOutside (p : Path) (fs fs' : Fs) : Prop := ∀ q, ¬ p <+: q → fs'.lookup q = fs.lookup q

theorem SameOutside.refl (p : Path) (fs : Fs) : SameOutside p fs fs := fun _ _ => rfl

theorem SameOutside.treeAt (h : SameOutside p fs fs') (hpq : Apart p q) :
    treeAt fs' q = treeAt fs q := by
  funext r
  exact h (q ++ r) (hpq.below r)

theorem SameOutside.dirAt (h : SameOutside (parent ++ [x]) fs fs') (hdir : DirAt fs parent) :
    DirAt fs' parent := by
  intro q hq hne
  rw [h q fun hp => ?_]
  · exact hdir q hq hne
  · have hlen := hp.length_le.trans hq.length_le
    rw [List.length_append, List.length_singleton] at hlen
    omega

theorem sameOutside_removeTree (p : Path) (fs : Fs) : SameOutside p fs (removeTree p fs) :=
  fun q hq => by rw [lookup_removeTree, if_neg hq]

theorem sameOutside_rmtree (p : Path) (fs : Fs) : SameOutside p fs (rmtree p fs) := by
  unfold rmtree
  split
  · exact sameOutside_removeTree p fs
  · exact .refl p fs

theorem sameOutside_rmtreeLeaving (left : List Path) (p : Path) (fs : Fs) :
    SameOutside p fs (rmtreeLeaving left p fs) := by
  unfold rmtreeLeaving
  split
  · intro q hq
    refine lookup_editBelow_of_ne fs _ fun c _ _ heq => hq ?_
    rw [heq]
    exact List.prefix_append p c.1
  · exact .refl p fs

theorem sameOutside_removeStale (failing : Option SwapCall) (p : Path) (fs : Fs) :
    SameOutside p fs (removeStale failing p fs) := by
  unfold removeStale
  split
  · exact sameOutside_rmtreeLeaving _ p fs
  · exact sameOutside_rmtree p fs

theorem sameOutside_removeBackup (failing : Option SwapCall) (p : Path) (fs : Fs) :
    SameOutside p fs (removeBackup failing p fs) := by
  unfold removeBackup
  split
  · exact sameOutside_rmtreeLeaving _ p fs
  · exact sameOutside_rmtree p fs

/-- What a removal that fails leaves. -/
theorem treeAt_rmtreeLeaving (left : List Path) (hdir : fs.lookup p = some .dir) {r : Path}
    (hr : r ≠ []) :
    treeAt (rmtreeLeaving left p fs) p r = if r ∈ left then treeAt fs p r else none := by
  unfold rmtreeLeaving treeAt
  rw [if_pos hdir, lookup_editBelow_fun (fun _ => none) fs (fun c hc => ?_) hr]
  · by_cases hleft : r ∈ left
    · rw [if_neg, if_pos hleft]
      intro hmem
      simp [hleft] at hmem
    · rw [if_neg hleft]
      split
      · rfl
      next hno =>
        rw [AList.lookup_eq_none]
        intro hmem
        refine hno (List.mem_map.mpr ⟨(r, none), ?_, rfl⟩)
        refine List.mem_map.mpr ⟨r, List.mem_filter.mpr ⟨?_, by simpa using hleft⟩, rfl⟩
        refine List.mem_map.mpr ⟨p ++ r, List.mem_filter.mpr ⟨hmem, ?_⟩, by simp⟩
        simp [hr]
  · obtain ⟨q, -, rfl⟩ := List.mem_map.mp hc
    rfl

theorem lookup_rmtreeLeaving (left : List Path) (p : Path) (fs : Fs) :
    (rmtreeLeaving left p fs).lookup p = fs.lookup p := by
  unfold rmtreeLeaving
  split
  · exact lookup_editBelow fs _ fun _ => rfl
  · rfl

/-- Whether a name of a directory is there, unless it is a link. -/
theorem existsAt_eq (hcan : Canonical (parent ++ [x])) (hdir : DirAt fs parent)
    (hlink : ∀ t, fs.lookup (parent ++ [x]) ≠ some (.link t)) :
    existsAt fs (parent ++ [x]) = (fs.lookup (parent ++ [x])).isSome := by
  have hwalk : walk true fs maxLinks [] ([] ++ (parent ++ [x])) = some ([] ++ (parent ++ [x])) :=
    walk_of_dirs (fun _ h => by cases h) hcan (fun q hne hq => hdir q hq hne) hlink
  rw [List.nil_append] at hwalk
  unfold existsAt pathExists
  rw [hwalk, Option.any_some]
  simp

theorem existsAt_of_dir (hcan : Canonical (parent ++ [x])) (hdir : DirAt fs parent)
    (hx : fs.lookup (parent ++ [x]) = some .dir) : existsAt fs (parent ++ [x]) = true := by
  rw [existsAt_eq hcan hdir (by rw [hx]; simp), hx]
  rfl

theorem existsAt_of_none (hcan : Canonical (parent ++ [x])) (hdir : DirAt fs parent)
    (hx : fs.lookup (parent ++ [x]) = none) : existsAt fs (parent ++ [x]) = false := by
  rw [existsAt_eq hcan hdir (by rw [hx]; simp), hx]
  rfl

/-! ## The swap -/

/-- What was at the backup's path does not stop the rename: nothing, or a directory of which
nothing below it is left. -/
def BackupGivesWay (failing : Option SwapCall) (bak : Path) (fs : Fs) : Prop :=
  (∀ r, treeAt fs bak r = none) ∨ (fs.lookup bak = some .dir ∧
    ∀ left, failing = some (.rmtreeStale left) → ∀ r ∈ left, r ≠ [] → treeAt fs bak r = none)

/-- The extracted tree comes to the destination's place. -/
def GoesThrough (failing : Option SwapCall) (bak : Path) (fs : Fs) : Prop :=
  failing ∉ [some .existsStale, some .existsDest, some .renameAway, some .renameIn] ∧
    BackupGivesWay failing bak fs

/-- The names of the destination and of the temporary directory, in one directory. -/
structure SwapNames (parent : Path) (name tmp : String) : Prop where
  names : Canonical (parent ++ [name])
  tmp_proper : properName tmp = true
  tmp_ne : tmp ≠ name
  tmp_ne_bak : tmp ≠ name ++ ".bak"

/-- The state between the extraction and the swap, and after a swap that is rolled back. -/
structure AtSwap (fs : Fs) (parent : Path) (name tmp : String) : Prop where
  dir : DirAt fs parent
  dest : fs.lookup (parent ++ [name]) = some .dir
  extracted : fs.lookup (parent ++ [tmp]) = some .dir

theorem backupOf_append (parent : Path) (name : String) :
    backupOf (parent ++ [name]) = parent ++ [name ++ ".bak"] := by
  simp [backupOf]

theorem bak_apart_dest (parent : Path) (name : String) :
    Apart (parent ++ [name ++ ".bak"]) (parent ++ [name]) := by
  refine apart_names parent fun heq => ?_
  have hlen : (name ++ ".bak").length = name.length + 4 := by
    rw [String.length_append]
    rfl
  rw [heq] at hlen
  omega

namespace SwapNames

variable (h : SwapNames parent name tmp)
include h

theorem parentNames : Canonical parent := fun n hn => h.names n (List.mem_append_left _ hn)

theorem bakNames : Canonical (parent ++ [name ++ ".bak"]) := by
  refine h.parentNames.snoc (properName_iff.mpr ?_)
  have hlen : (name ++ ".bak").length = name.length + 4 := by
    rw [String.length_append]
    rfl
  refine ⟨?_, ?_, ?_⟩
  · intro heq
    rw [heq] at hlen
    exact absurd hlen (by simp)
  · intro heq
    rw [heq] at hlen
    have : ".".length = 1 := rfl
    omega
  · intro heq
    rw [heq] at hlen
    have : "..".length = 2 := rfl
    omega

theorem tmpNames : Canonical (parent ++ [tmp]) := h.parentNames.snoc h.tmp_proper

theorem bak_apart_tmp : Apart (parent ++ [name ++ ".bak"]) (parent ++ [tmp]) :=
  apart_names parent h.tmp_ne_bak.symm

theorem tmp_apart_dest : Apart (parent ++ [tmp]) (parent ++ [name]) :=
  apart_names parent h.tmp_ne

end SwapNames

theorem dirAt_moveTree (hdir : DirAt fs parent) :
    DirAt (moveTree (parent ++ [x]) (parent ++ [y]) fs) parent := by
  intro q hq hne
  have hbelow : ∀ z : String, ¬ parent ++ [z] <+: q := by
    intro z hz
    have hlen := hz.length_le.trans hq.length_le
    rw [List.length_append, List.length_singleton] at hlen
    omega
  rw [lookup_moveTree_of_ne (hbelow y), if_neg (hbelow x)]
  exact hdir q hq hne

/-- The state of a tree's root. -/
theorem lookup_of_treeAt (h : treeAt fs' p = treeAt fs q) : fs'.lookup p = fs.lookup q := by
  have := congrFun h []
  rwa [treeAt, treeAt, List.append_nil, List.append_nil] at this

/-- The first step removes a stale backup, and nothing else. -/
theorem removeStale_spec (failing : Option SwapCall) (hcan : Canonical (parent ++ [x]))
    (hdir : DirAt fs parent) :
    SameOutside (parent ++ [x]) fs
        (if existsAt fs (parent ++ [x]) then removeStale failing (parent ++ [x]) fs else fs) ∧
      (GivesWay (if existsAt fs (parent ++ [x]) then removeStale failing (parent ++ [x]) fs else fs)
        (parent ++ [x]) ↔ BackupGivesWay failing (parent ++ [x]) fs) := by
  by_cases hbak : fs.lookup (parent ++ [x]) = some .dir
  · rw [if_pos (existsAt_of_dir hcan hdir hbak)]
    refine ⟨sameOutside_removeStale failing _ fs, ?_⟩
    have hthere : ¬ ∀ r, treeAt fs (parent ++ [x]) r = none := by
      intro hall
      have := hall []
      rw [treeAt, List.append_nil, hbak] at this
      cases this
    unfold removeStale BackupGivesWay
    split
    next left =>
      rw [GivesWay, lookup_rmtreeLeaving, hbak]
      constructor
      · intro hway
        refine .inr ⟨rfl, fun left' hleft r hr hne => ?_⟩
        cases hleft
        have := hway.2 r hne
        rw [show (rmtreeLeaving left (parent ++ [x]) fs).lookup (parent ++ [x] ++ r) = _ from
          treeAt_rmtreeLeaving left hbak hne, if_pos hr] at this
        exact this
      · intro hway
        refine ⟨.inr rfl, fun r hne => ?_⟩
        refine (treeAt_rmtreeLeaving left hbak hne).trans ?_
        split
        next hr => exact (hway.resolve_left hthere).2 left rfl r hr hne
        · rfl
    next hfail =>
      refine ⟨fun _ => .inr ⟨hbak, fun left heq => absurd heq (hfail left)⟩, fun _ => ?_⟩
      rw [rmtree, if_pos hbak]
      exact givesWay_of_free fun r => congrFun (treeAt_removeTree_self fs _) r
  · have hsame : (if existsAt fs (parent ++ [x]) then removeStale failing (parent ++ [x]) fs
        else fs) = fs := by
      split
      · unfold removeStale
        split
        · exact if_neg hbak
        · exact if_neg hbak
      · rfl
    rw [hsame]
    refine ⟨.refl _ fs, fun hway => .inl fun r => ?_, fun hway => ?_⟩
    · by_cases hr : r = []
      · rw [hr, treeAt, List.append_nil]
        exact hway.1.resolve_right hbak
      · exact hway.2 r hr
    · exact givesWay_of_free (hway.resolve_right fun hdir => hbak hdir.1)

theorem rollback_of_there (hcan : Canonical (parent ++ [name])) (hdir : DirAt fs parent)
    (hdest : fs.lookup (parent ++ [name]) = some .dir) : rollback (parent ++ [name]) fs = fs := by
  unfold rollback
  rw [existsAt_of_dir hcan hdir hdest]
  rfl

/-- The backup comes back to a destination that is gone. -/
theorem rollback_of_gone (h : SwapNames parent name tmp) (hdir : DirAt fs parent)
    (hdest : treeAt fs (parent ++ [name]) = fun _ => none)
    (hbak : fs.lookup (parent ++ [name ++ ".bak"]) = some .dir) :
    rollback (parent ++ [name]) fs =
      moveTree (parent ++ [name ++ ".bak"]) (parent ++ [name]) fs := by
  have hnone : fs.lookup (parent ++ [name]) = none := by
    have := congrFun hdest []
    rwa [treeAt, List.append_nil] at this
  unfold rollback
  rw [backupOf_append, existsAt_of_none h.names hdir hnone, existsAt_of_dir h.bakNames hdir hbak,
    rename_of_givesWay (givesWay_of_free fun r => congrFun hdest r) (bak_apart_dest parent name).1]
  rfl

section Swap

variable (h : SwapNames parent name tmp) (hat : AtSwap fs parent name tmp)
include h hat

/-- The state after the first step. -/
theorem swap_stale (failing : Option SwapCall) :
    ∃ fs', (if existsAt fs (backupOf (parent ++ [name])) then
        removeStale failing (backupOf (parent ++ [name])) fs else fs) = fs' ∧
      AtSwap fs' parent name tmp ∧ treeAt fs' (parent ++ [name]) = treeAt fs (parent ++ [name]) ∧
      treeAt fs' (parent ++ [tmp]) = treeAt fs (parent ++ [tmp]) ∧
      (GivesWay fs' (parent ++ [name ++ ".bak"]) ↔
        BackupGivesWay failing (parent ++ [name ++ ".bak"]) fs) := by
  rw [backupOf_append]
  obtain ⟨hsame, hway⟩ := removeStale_spec failing h.bakNames hat.dir
  have hdest := hsame.treeAt (bak_apart_dest parent name)
  have htmp := hsame.treeAt h.bak_apart_tmp
  refine ⟨_, rfl, ⟨hsame.dirAt hat.dir, ?_, ?_⟩, hdest, htmp, hway⟩
  · rw [lookup_of_treeAt hdest, hat.dest]
  · rw [lookup_of_treeAt htmp, hat.extracted]

/-- The state after the destination is renamed. -/
theorem swap_away (hway : GivesWay fs (parent ++ [name ++ ".bak"])) :
    ∃ fs', rename (parent ++ [name]) (backupOf (parent ++ [name])) fs = some fs' ∧
      DirAt fs' parent ∧ treeAt fs' (parent ++ [name]) = (fun _ => none) ∧
      treeAt fs' (parent ++ [name ++ ".bak"]) = treeAt fs (parent ++ [name]) ∧
      treeAt fs' (parent ++ [tmp]) = treeAt fs (parent ++ [tmp]) := by
  have hapart := bak_apart_dest parent name
  rw [backupOf_append, rename_of_givesWay hway hapart.2]
  exact ⟨_, rfl, dirAt_moveTree hat.dir, treeAt_moveTree_src hapart,
    treeAt_moveTree_dst hway hat.dest, treeAt_moveTree h.bak_apart_tmp h.tmp_apart_dest.symm⟩

/-- A swap that does not go through leaves the destination and the extracted tree in their
places. -/
theorem swapWith_fails (hno : ¬ GoesThrough failing (parent ++ [name ++ ".bak"]) fs) :
    ∃ fs', swapWith failing (parent ++ [name]) (parent ++ [tmp]) fs = (fs', false) ∧
      treeAt fs' (parent ++ [name]) = treeAt fs (parent ++ [name]) ∧
      AtSwap fs' parent name tmp := by
  have hback := rollback_of_there h.names hat.dir hat.dest
  unfold swapWith
  by_cases hexists : failing = some .existsStale
  · rw [if_pos hexists, hback]
    exact ⟨fs, rfl, rfl, hat⟩
  rw [if_neg hexists]
  obtain ⟨fs₁, hstep, hat₁, hdest₁, htmp₁, hway⟩ := swap_stale h hat failing
  have hback₁ := rollback_of_there h.names hat₁.dir hat₁.dest
  rw [hstep]
  dsimp only
  by_cases hexistsDest : failing = some .existsDest
  · rw [if_pos hexistsDest, hback₁]
    exact ⟨fs₁, rfl, hdest₁, hat₁⟩
  rw [if_neg hexistsDest, if_pos (existsAt_of_dir h.names hat₁.dir hat₁.dest)]
  by_cases haway : failing = some .renameAway
  · rw [if_pos haway]
    dsimp only
    rw [hback₁]
    exact ⟨fs₁, rfl, hdest₁, hat₁⟩
  rw [if_neg haway]
  by_cases hfree : GivesWay fs₁ (parent ++ [name ++ ".bak"])
  · have hin : failing = some .renameIn := by
      by_contra hin
      refine hno ⟨?_, hway.mp hfree⟩
      simp [hexists, hexistsDest, haway, hin]
    obtain ⟨fs₂, hmoved, hdir₂, hdest₂, hbak₂, htmp₂⟩ := swap_away h hat₁ hfree
    have hbakdir : fs₂.lookup (parent ++ [name ++ ".bak"]) = some .dir := by
      rw [lookup_of_treeAt hbak₂, hat₁.dest]
    rw [hmoved]
    dsimp only
    rw [if_pos hin]
    dsimp only
    rw [rollback_of_gone h hdir₂ hdest₂ hbakdir]
    -- the destination comes back from the backup
    have hdest₃ := treeAt_moveTree_dst (givesWay_of_free fun r => congrFun hdest₂ r) hbakdir
    have htmp₃ : treeAt (moveTree _ _ fs₂) (parent ++ [tmp]) = treeAt fs₂ (parent ++ [tmp]) :=
      treeAt_moveTree h.tmp_apart_dest.symm h.bak_apart_tmp
    refine ⟨_, rfl, hdest₃.trans (hbak₂.trans hdest₁), dirAt_moveTree hdir₂, ?_, ?_⟩
    · rw [lookup_of_treeAt hdest₃, hbakdir]
    · rw [lookup_of_treeAt htmp₃, lookup_of_treeAt htmp₂, hat₁.extracted]
  · rw [backupOf_append, rename_of_not_givesWay hfree]
    dsimp only
    rw [hback₁]
    exact ⟨fs₁, rfl, hdest₁, hat₁⟩

/-- A swap that goes through puts the extracted tree in the destination's place, also when the call
raises after that. -/
theorem swapWith_moves (hgo : GoesThrough failing (parent ++ [name ++ ".bak"]) fs) :
    ∃ fs', swapWith failing (parent ++ [name]) (parent ++ [tmp]) fs =
        (fs', !decide (failing = some .existsBackup)) ∧
      treeAt fs' (parent ++ [name]) = treeAt fs (parent ++ [tmp]) ∧
      treeAt fs' (parent ++ [tmp]) = (fun _ => none) ∧ DirAt fs' parent := by
  obtain ⟨hcall, hgives⟩ := hgo
  simp only [List.mem_cons, List.not_mem_nil, or_false, not_or] at hcall
  obtain ⟨hexists, hexistsDest, haway, hin⟩ := hcall
  obtain ⟨fs₁, hstep, hat₁, hdest₁, htmp₁, hway⟩ := swap_stale h hat failing
  obtain ⟨fs₂, hmoved, hdir₂, hdest₂, hbak₂, htmp₂⟩ := swap_away h hat₁ (hway.mpr hgives)
  have htmpdir : fs₂.lookup (parent ++ [tmp]) = some .dir := by
    rw [lookup_of_treeAt htmp₂, hat₁.extracted]
  have hfree : GivesWay fs₂ (parent ++ [name]) := givesWay_of_free fun r => congrFun hdest₂ r
  unfold swapWith
  rw [if_neg hexists, hstep]
  dsimp only
  rw [if_neg hexistsDest, if_pos (existsAt_of_dir h.names hat₁.dir hat₁.dest), if_neg haway, hmoved]
  dsimp only
  rw [if_neg hin, rename_of_givesWay hfree h.tmp_apart_dest.1]
  dsimp only
  generalize hfs₃ : moveTree (parent ++ [tmp]) (parent ++ [name]) fs₂ = fs₃
  have hdir₃ : DirAt fs₃ parent := by
    rw [← hfs₃]
    exact dirAt_moveTree hdir₂
  have hdest₃ : treeAt fs₃ (parent ++ [name]) = treeAt fs (parent ++ [tmp]) := by
    rw [← hfs₃, treeAt_moveTree_dst hfree htmpdir, htmp₂, htmp₁]
  have htmp₃ : treeAt fs₃ (parent ++ [tmp]) = fun _ => none := by
    rw [← hfs₃, treeAt_moveTree_src h.tmp_apart_dest.symm]
  by_cases hbackup : failing = some .existsBackup
  · have hdestdir : fs₃.lookup (parent ++ [name]) = some .dir := by
      rw [lookup_of_treeAt hdest₃, hat.extracted]
    rw [if_pos hbackup, rollback_of_there h.names hdir₃ hdestdir, decide_eq_true hbackup]
    exact ⟨fs₃, rfl, hdest₃, htmp₃, hdir₃⟩
  · rw [if_neg hbackup, decide_eq_false hbackup, backupOf_append]
    refine ⟨_, rfl, ?_⟩
    split
    · have hsame := sameOutside_removeBackup failing (parent ++ [name ++ ".bak"]) fs₃
      rw [hsame.treeAt (bak_apart_dest parent name), hsame.treeAt h.bak_apart_tmp]
      exact ⟨hdest₃, htmp₃, hsame.dirAt hdir₃⟩
    · exact ⟨hdest₃, htmp₃, hdir₃⟩

end Swap

/-! ## Restores -/

/-- The destination is a directory, and `mkdtemp` has a fresh name beside it: its prefix and eight
characters without a dot. -/
structure RestorePlace (fs : Fs) (parent : Path) (name tmp : String) : Prop where
  names : Canonical (parent ++ [name])
  dir : DirAt fs (parent ++ [name])
  temp : ∃ random : List Char, tmp.toList = ".devnest-restore-tmp-".toList ++ random ∧
    random.length = 8 ∧ '.' ∉ random ∧ '/' ∉ random
  fresh : ∀ r, treeAt fs (parent ++ [tmp]) r = none

/-- A call that raises has changed nothing, and one that returns has put the extracted tree in the
destination's place. -/
structure AllOrNothing (fs extracted : Fs) (dest tmp : Path) (out : Fs × Option ImportFault) :
    Prop where
  raises : out.2 ≠ none → treeAt out.1 dest = treeAt fs dest ∧ treeAt out.1 tmp = fun _ => none
  returns : out.2 = none → treeAt out.1 dest = treeAt extracted tmp

/-- Of the failing call and of what the extraction did. -/
def KeepsPromise (failing : Option SwapCall) (fs : Fs) (dest tmp : Path)
    (out : Disk × Option TarFault) : Prop :=
  failing = some .mkdtemp ∨
    (out.2 = none ∧ GoesThrough failing (backupOf dest) out.1.fs ∧
      (failing ∈ [some .existsBackup, some .existsTmp] →
        treeAt out.1.fs tmp = treeAt fs dest)) ∨
    (¬ (out.2 = none ∧ GoesThrough failing (backupOf dest) out.1.fs) ∧
      failing ≠ some .existsTmp ∧ treeAt out.1.fs dest = treeAt fs dest)

theorem RestorePlace.swapNames (h : RestorePlace fs parent name tmp) :
    SwapNames parent name tmp := by
  obtain ⟨random, htmp, hlen, hdot, -⟩ := h.temp
  have hlong : tmp.length = 29 := by
    rw [← String.length_toList, htmp, List.length_append, hlen]
    rfl
  refine ⟨h.names, properName_iff.mpr ⟨?_, ?_, ?_⟩, ?_, ?_⟩
  · rintro rfl
    cases hlong
  · rintro rfl
    cases hlong
  · rintro rfl
    cases hlong
  · rintro rfl
    have hgone := h.fresh []
    rw [treeAt, List.append_nil, h.dir _ (List.prefix_refl _) (by simp)] at hgone
    cases hgone
  · rintro rfl
    -- the dot of `.bak` would be one of the eight characters
    have hbak : ".bak".toList <:+ random := by
      have hend : ".bak".toList <:+ (name ++ ".bak").toList := by
        rw [String.toList_append]
        exact List.suffix_append _ _
      have hrandom : random <:+ (name ++ ".bak").toList := by
        rw [htmp]
        exact List.suffix_append _ _
      refine List.suffix_of_suffix_length_le hend hrandom ?_
      rw [hlen]
      decide
    exact hdot (hbak.mem (by decide))

/-- After `mkdtemp` and the extraction. -/
theorem RestorePlace.atSwap {d d' : Disk} (h : RestorePlace d.fs parent name tmp)
    (hcalls : FileCalls (d.put (parent ++ [tmp]) .dir) d') : AtSwap d'.fs parent name tmp := by
  have hkeeps := hcalls.keepsDirs
  have hold : KeepsDirs d.fs (d.put (parent ++ [tmp]) .dir).fs := by
    refine keepsDirs_put fun hdir => ?_
    have hgone := h.fresh []
    rw [treeAt, List.append_nil] at hgone
    rw [hgone] at hdir
    cases hdir
  have hdest := (hold.trans hkeeps).dirAt h.dir
  refine ⟨hdest.of_prefix (List.prefix_append _ _), hdest _ (List.prefix_refl _) (by simp), ?_⟩
  refine hkeeps _ ?_
  rw [puts_put d _ .dir, if_pos rfl]

theorem tmpDir_append (ans : ImportAnswers) (parent : Path) (name : String) :
    tmpDir ans (parent ++ [name]) = parent ++ [ans.tmpName] := by
  simp [tmpDir]

/-- Where the extraction and the swap leave the trees. -/
theorem restoreResult_cases (failing : Option SwapCall) (ans : ImportAnswers)
    (out : Disk × Option TarFault)
    (h : SwapNames parent name ans.tmpName) (hat : AtSwap out.1.fs parent name ans.tmpName) :
    ∃ fs' fault, restoreResult failing ans (parent ++ [name]) out = (fs', fault) ∧
      (((out.2 = none ∧ GoesThrough failing (parent ++ [name ++ ".bak"]) out.1.fs) ∧
          (fault = none ↔ failing ≠ some .existsBackup) ∧
          treeAt fs' (parent ++ [name]) = treeAt out.1.fs (parent ++ [ans.tmpName]) ∧
          treeAt fs' (parent ++ [ans.tmpName]) = (fun _ => none) ∧ DirAt fs' parent) ∨
        (¬ (out.2 = none ∧ GoesThrough failing (parent ++ [name ++ ".bak"]) out.1.fs) ∧
          fault ≠ none ∧ treeAt fs' (parent ++ [name]) = treeAt out.1.fs (parent ++ [name]) ∧
          AtSwap fs' parent name ans.tmpName)) := by
  obtain ⟨d, _ | fault⟩ := out
  · rw [restoreResult, tmpDir_append]
    by_cases hgo : GoesThrough failing (parent ++ [name ++ ".bak"]) d.fs
    · obtain ⟨fs', hswap, hdest, htmp, hdir⟩ := swapWith_moves h hat hgo
      rw [hswap]
      by_cases hbackup : failing = some .existsBackup
      · rw [decide_eq_true hbackup]
        exact ⟨fs', _, rfl, .inl ⟨⟨rfl, hgo⟩, ⟨nofun, fun hne => absurd hbackup hne⟩, hdest, htmp,
          hdir⟩⟩
      · rw [decide_eq_false hbackup]
        exact ⟨fs', _, rfl, .inl ⟨⟨rfl, hgo⟩, ⟨fun _ => hbackup, fun _ => rfl⟩, hdest, htmp, hdir⟩⟩
    · obtain ⟨fs', hswap, hdest, hat'⟩ := swapWith_fails h hat hgo
      rw [hswap]
      exact ⟨fs', _, rfl, .inr ⟨fun hcond => hgo hcond.2, nofun, hdest, hat'⟩⟩
  · have hraised : ∃ fault', restoreResult failing ans (parent ++ [name]) (d, some fault) =
        (d.fs, some fault') := by
      cases fault with
      | os => exact ⟨_, rfl⟩
      | extract => exact ⟨_, rfl⟩
      | key => exact ⟨_, rfl⟩
      | recursion => exact ⟨_, rfl⟩
    obtain ⟨fault', hraised⟩ := hraised
    exact ⟨d.fs, some fault', hraised, .inr ⟨fun hcond => absurd hcond.1 nofun, nofun, rfl, hat⟩⟩

/-- The `finally` removes what is left of the temporary directory. -/
theorem cleanup_trees (h : SwapNames parent name tmp) (hdir : DirAt fs parent)
    (htmp : fs.lookup (parent ++ [tmp]) = some .dir ∨
      treeAt fs (parent ++ [tmp]) = fun _ => none) :
    treeAt (cleanup (parent ++ [tmp]) { fs }).fs (parent ++ [name]) =
        treeAt fs (parent ++ [name]) ∧
      treeAt (cleanup (parent ++ [tmp]) { fs }).fs (parent ++ [tmp]) = fun _ => none := by
  unfold cleanup
  dsimp only
  rcases htmp with htmp | htmp
  · rw [if_pos (existsAt_of_dir h.tmpNames hdir htmp)]
    dsimp only
    rw [rmtree, if_pos htmp]
    exact ⟨treeAt_removeTree h.tmp_apart_dest, treeAt_removeTree_self fs _⟩
  · have hnone : fs.lookup (parent ++ [tmp]) = none := by
      have := congrFun htmp []
      rwa [treeAt, List.append_nil] at this
    rw [existsAt_of_none h.tmpNames hdir hnone]
    exact ⟨rfl, htmp⟩

/-- Whatever the archive and the failing call, the restore is all or nothing exactly when the call
that fails does not come after the swap, and an extraction that is not swapped in has left the
destination alone. -/
theorem restore_all_or_nothing_iff (failing : Option SwapCall) {ans : ImportAnswers}
    (hplace : RestorePlace fs parent name ans.tmpName) {ms : List TarMember}
    (haccepted : validateTarMembers fs (parent ++ [name]) ms = .ok ())
    {out : Disk × Option TarFault}
    (hout : Extraction ans ms (parent ++ [ans.tmpName])
      (Disk.put { fs } (parent ++ [ans.tmpName]) .dir) out) :
    AllOrNothing fs out.1.fs (parent ++ [name]) (parent ++ [ans.tmpName])
        (restoreWith failing ans (parent ++ [name]) ms fs out) ↔
      KeepsPromise failing fs (parent ++ [name]) (parent ++ [ans.tmpName]) out := by
  have hnames := hplace.swapNames
  obtain ⟨fs', fault, hresult, hcases⟩ :=
    restoreResult_cases failing ans out hnames (hplace.atSwap (d := { fs }) hout.calls)
  unfold restoreWith KeepsPromise
  rw [haccepted, backupOf_append, tmpDir_append]
  dsimp only
  by_cases hmk : failing = some .mkdtemp
  · rw [if_pos hmk]
    exact ⟨fun _ => .inl hmk, fun _ => ⟨fun _ => ⟨rfl, funext hplace.fresh⟩, nofun⟩⟩
  rw [if_neg hmk, hresult]
  dsimp only
  rcases hcases with ⟨hgo, hfault, hdest, htmp, hdir⟩ | ⟨hno, hfault, hdest, hat⟩
  · obtain ⟨hclean, hcleanTmp⟩ := cleanup_trees hnames hdir (.inr htmp)
    by_cases hfinal : failing = some .existsTmp
    · rw [if_pos hfinal]
      constructor
      · intro h
        exact .inr (.inl ⟨hgo.1, hgo.2, fun _ => hdest.symm.trans (h.raises nofun).1⟩)
      · rintro (h | ⟨-, -, h⟩ | ⟨h, -⟩)
        · exact absurd h hmk
        · exact ⟨fun _ => ⟨hdest.trans (h (by simp [hfinal])), htmp⟩, nofun⟩
        · exact absurd hgo h
    · rw [if_neg hfinal]
      constructor
      · intro h
        refine .inr (.inl ⟨hgo.1, hgo.2, fun hcall => ?_⟩)
        have hbackup : failing = some .existsBackup := by simpa [hfinal] using hcall
        have hraised : fault ≠ none := fun hnone => hfault.mp hnone hbackup
        exact hdest.symm.trans (hclean.symm.trans (h.raises hraised).1)
      · rintro (h | ⟨-, -, h⟩ | ⟨h, -⟩)
        · exact absurd h hmk
        · refine ⟨fun hraised => ⟨?_, hcleanTmp⟩, fun _ => hclean.trans hdest⟩
          have hbackup : failing = some .existsBackup := by
            by_contra hne
            exact hraised (hfault.mpr hne)
          exact hclean.trans (hdest.trans (h (by simp [hbackup])))
        · exact absurd hgo h
  · obtain ⟨hclean, hcleanTmp⟩ := cleanup_trees hnames hat.dir (.inl hat.extracted)
    by_cases hfinal : failing = some .existsTmp
    · rw [if_pos hfinal]
      constructor
      · -- the temporary directory stays
        intro h
        have hgone := congrFun (h.raises nofun).2 []
        rw [treeAt, List.append_nil, hat.extracted] at hgone
        cases hgone
      · rintro (h | ⟨h, h', -⟩ | ⟨-, h, -⟩)
        · exact absurd h hmk
        · exact absurd ⟨h, h'⟩ hno
        · exact absurd hfinal h
    · rw [if_neg hfinal]
      constructor
      · intro h
        exact .inr (.inr ⟨hno, hfinal, hdest.symm.trans (hclean.symm.trans (h.raises hfault).1)⟩)
      · rintro (h | ⟨h, h', -⟩ | ⟨-, -, h⟩)
        · exact absurd h hmk
        · exact absurd ⟨h, h'⟩ hno
        · refine ⟨fun _ => ⟨hclean.trans (hdest.trans h), hcleanTmp⟩, fun hnone => ?_⟩
          exact absurd hnone hfault

/-! ## An archive that writes into the destination -/

/-- A project directory with a file, and a backup that an earlier restore left. -/
def projectWithBackup : Fs :=
  ((((∅ : Fs).insert ["srv"] .dir).insert ["srv", "w"] .dir).insert ["srv", "w", "old"]
    (.file "1")).insert ["srv", "w.bak"] .dir

def restoreNames : ImportAnswers where
  tmpName := ".devnest-restore-tmp-k3v9_x0a"

theorem projectWithBackup_place :
    RestorePlace projectWithBackup ["srv"] "w" restoreNames.tmpName := by
  have hsrv : DirAt projectWithBackup ["srv"] := (dirAt_nil _).snoc (by decide +kernel)
  have hnames : Canonical (["srv"] ++ ["w"]) :=
    show ∀ name ∈ ["srv", "w"], properName name = true by decide
  refine ⟨hnames, hsrv.snoc (by decide +kernel),
    ⟨"k3v9_x0a".toList, by decide, by decide, by decide, by decide⟩, fun r => ?_⟩
  have hkeys : projectWithBackup.keys =
      [["srv", "w.bak"], ["srv", "w", "old"], ["srv", "w"], ["srv"]] := by decide +kernel
  rw [treeAt, AList.lookup_eq_none, AList.mem_keys, hkeys]
  simp [restoreNames]

theorem restore_with_stale_backup :
    AllOrNothing projectWithBackup
      (extractall 100 [⟨"new", .reg "2"⟩] ["srv", restoreNames.tmpName]
        (Disk.put { fs := projectWithBackup } ["srv", restoreNames.tmpName] .dir)).1.fs
      ["srv", "w"] ["srv", restoreNames.tmpName]
      (restoreWith none restoreNames ["srv", "w"] [⟨"new", .reg "2"⟩] projectWithBackup
        (extractall 100 [⟨"new", .reg "2"⟩] ["srv", restoreNames.tmpName]
          (Disk.put { fs := projectWithBackup } ["srv", restoreNames.tmpName] .dir))) := by
  refine (restore_all_or_nothing_iff none projectWithBackup_place (by decide +kernel)
    (show Extraction restoreNames _ _ _ _ from .whole)).mpr (.inr (.inl ⟨by decide +kernel, ⟨by decide, .inr
      ⟨by decide +kernel, nofun⟩⟩, fun h => absurd h (by decide)⟩))

/-- The archive makes a link to the destination, writes through it and then fails. -/
def linkIntoDestination : List TarMember :=
  [⟨"a", .sym "../w"⟩, ⟨"a/x", .reg "2"⟩, ⟨"f", .reg ""⟩, ⟨"f/g", .reg ""⟩]

/-- The call raises, and the destination has a file more. -/
theorem link_into_destination_is_written :
    ¬ ∀ (ans : ImportAnswers) (fs : Fs) (parent : Path) (name : String) (ms : List TarMember)
        (out : Disk × Option TarFault), RestorePlace fs parent name ans.tmpName →
      validateTarMembers fs (parent ++ [name]) ms = .ok () →
      Extraction ans ms (parent ++ [ans.tmpName])
        (Disk.put { fs } (parent ++ [ans.tmpName]) .dir) out →
      AllOrNothing fs out.1.fs (parent ++ [name]) (parent ++ [ans.tmpName])
        (restoreWith none ans (parent ++ [name]) ms fs out) := by
  intro h
  have hkept := h restoreNames projectWithBackup ["srv"] "w" linkIntoDestination _
    projectWithBackup_place (by decide +kernel) .whole
  have hraised := congrFun (hkept.raises (by decide +kernel)).1 ["x"]
  revert hraised
  decide +kernel

end Devnest
