import Devnest.ProjectDirs
import Devnest.WorkspaceUrls

/-!
# Pruning project directories at startup

With pruning on, `init_db` reads the workspace rows and then removes the
directories under the projects base that none of them names. Other processes
go on meanwhile: `create_workspace` commits a row and its job makes a
directory, and `_safe_snapshot_tar_extract` renames a project directory to
`.bak` and puts the restored tree in its place.

Two orders lose files: a workspace that is committed after the rows are read
is taken for an orphan, and a `.bak` between the two renames holds the only
copy. `prune_spares_live` says that nothing else is lost.
-/

namespace Devnest

open Runs

/-! ## The base directory -/

/-- A child of the projects base. -/
inductive Child where
  /-- A directory; `some w` when files of workspace `w` lie in here and nowhere else. -/
  | dir (holds : Option Nat)
  | file
  | link (toDir : Bool)
  deriving DecidableEq, Repr

/-- `project_storage_key` of a row; rows from before the column have none. -/
abbrev StorageKey := Option { key : String // IsUuidHex key }

/-- `_safe_snapshot_tar_extract` by the call it makes next. -/
inductive RestoreStage where
  | extract | dropBak | moveAside | promote | dropOld | rollBack | cleanUp | finished
  deriving DecidableEq, Repr

/-- An extraction whose destination is the bundle itself, so that it renames children of the
base. -/
structure RunningRestore where
  workspace : Nat
  dest : String
  tmp : String
  stage : RestoreStage := .extract
  /-- The destination was renamed to `.bak`, and neither it nor the restored tree has come in its
  place. -/
  aside : Bool := false
  deriving DecidableEq, Repr

def RunningRestore.bak (r : RunningRestore) : String := r.dest ++ ".bak"

/-- Where `init_db` stands. -/
inductive PrunePhase where
  | idle
  /-- With the directory names of the rows. -/
  | listed (live : List String)
  /-- With the names of `root.iterdir()` still to come. -/
  | visiting (live todo : List String)
  /-- In `shutil.rmtree` of a child. -/
  | removing (live todo : List String) (name : String)
  | finished
  deriving DecidableEq, Repr

/-- The list it has read. -/
def PrunePhase.live? : PrunePhase → Option (List String)
  | listed live | visiting live _ | removing live _ _ => some live
  | idle | finished => none

structure PruneState where
  rows : Table Nat StorageKey := ∅
  children : Table String Child := ∅
  restores : Table Nat RunningRestore := ∅
  phase : PrunePhase := .idle
  /-- The workspaces committed since `init_db` has read the rows. -/
  committedSince : List Nat := []

/-- `workspace_project_dir_name` of a row. -/
def rowDirName (w : Nat) (key : StorageKey) : Except String String :=
  workspaceProjectDirName
    { base := [], workspaceId := toString w, projectStorageKey := key.map Subtype.val }

/-- The project directory of an existing row. -/
def PruneState.dirName (st : PruneState) (w : Nat) : Option String :=
  (st.rows.lookup w).bind fun key => (rowDirName w key).toOption

/-! ## Steps -/

inductive PruneStep where
  /-- `create_workspace` commits. -/
  | commitWorkspace (w : Nat) (key : { key : String // IsUuidHex key })
  /-- The local `ensure_workspace_project_dir` of a job. -/
  | ensureDir (w : Nat)
  | readRows
  | listChildren
  | visit
  | remove
  /-- `init_db` raises, or its process ends. -/
  | stopInit
  /-- An extraction makes its destination and, if the members are `valid`, its directory `tmp`. -/
  | beginRestore (p w : Nat) (tmp : String) (valid : Bool)
  /-- Its next call, and whether that succeeds. -/
  | restore (p : Nat) (ok : Bool)
  /-- Its process ends. -/
  | crash (p : Nat)

section Steps

variable (st : PruneState)

/-- `mkdir(exist_ok=True)` for a project directory. -/
def PruneState.mkdir (w : Nat) (d : String) : PruneState :=
  match st.children.lookup d with
  | none => { st with children := st.children.insert d (.dir (some w)) }
  | some _ => st

/-- `rmtree(ignore_errors=True)`. -/
def PruneState.rmtree (name : String) (ok : Bool) : PruneState :=
  match st.children.lookup name, ok with
  | some (.dir _), true => { st with children := st.children.erase name }
  | _, _ => st

def PruneState.setRestore (p : Nat) (r : RunningRestore) : PruneState :=
  { st with restores := st.restores.insert p r }

def PruneState.setChildren (children : Table String Child) : PruneState :=
  { st with children := children }

/-- What was moved aside is superseded. -/
def supersede (children : Table String Child) (name : String) : Table String Child :=
  match children.lookup name with
  | some (.dir _) => children.insert name (.dir none)
  | _ => children

/-- `rename` of a directory; it fails onto anything but an empty directory. -/
def canRename (target : Option Child) (ok : Bool) : Bool :=
  ok && match target with
    | none | some (.dir _) => true
    | _ => false

/-- The next call of an extraction. -/
def PruneState.restoreNext (p : Nat) (r : RunningRestore) (ok : Bool) : PruneState :=
  match r.stage with
  | .extract => st.setRestore p { r with stage := if ok then .dropBak else .cleanUp }
  | .dropBak => (st.rmtree r.bak ok).setRestore p { r with stage := .moveAside }
  | .moveAside =>
      match st.children.lookup r.dest with
      | none => st.setRestore p { r with stage := .promote }
      | some child =>
          if canRename (st.children.lookup r.bak) ok then
            (st.setChildren ((st.children.erase r.dest).insert r.bak child)).setRestore p
              { r with stage := .promote, aside := true }
          else st.setRestore p { r with stage := .rollBack }
  | .promote =>
      match st.children.lookup r.tmp with
      | some (.dir _) =>
          if canRename (st.children.lookup r.dest) ok then
            (st.setChildren ((supersede (st.children.erase r.tmp) r.bak).insert r.dest
              (.dir (some r.workspace)))).setRestore p { r with stage := .dropOld, aside := false }
          else st.setRestore p { r with stage := .rollBack }
      | _ => st.setRestore p { r with stage := .rollBack }
  | .dropOld => (st.rmtree r.bak ok).setRestore p { r with stage := .cleanUp }
  | .rollBack =>
      match st.children.lookup r.dest, st.children.lookup r.bak, ok with
      | none, some child, true =>
          (st.setChildren ((st.children.erase r.bak).insert r.dest child)).setRestore p
            { r with stage := .cleanUp, aside := false }
      | _, _, _ => st.setRestore p { r with stage := .cleanUp }
  | .cleanUp => (st.rmtree r.tmp ok).setRestore p { r with stage := .finished }
  | .finished => st

def pruneStep : PruneStep → PruneState
  | .commitWorkspace w key =>
      if w ∈ st.rows then st
      else { st with
        rows := st.rows.insert w (some key)
        committedSince := w :: st.committedSince }
  | .ensureDir w =>
      match st.dirName w with
      | none => st
      | some d => st.mkdir w d
  | .readRows =>
      if st.phase = .idle then
        match st.rows.entries.mapM fun e => rowDirName e.1 e.2 with
        | .error _ => { st with phase := .finished }
        | .ok live => { st with phase := .listed live, committedSince := [] }
      else st
  | .listChildren =>
      match st.phase with
      | .listed live => { st with phase := .visiting live st.children.keys }
      | _ => st
  | .visit =>
      match st.phase with
      | .visiting _ [] => { st with phase := .finished }
      | .visiting live (name :: todo) =>
          match st.children.lookup name with
          | some (.dir _) =>
              if name ∈ live then { st with phase := .visiting live todo }
              else { st with phase := .removing live todo name }
          | some (.link true) =>
              -- `rmtree` refuses a symbolic link
              if name ∈ live then { st with phase := .visiting live todo }
              else { st with phase := .finished }
          | _ => { st with phase := .visiting live todo }
      | _ => st
  | .remove =>
      match st.phase with
      | .removing live todo name =>
          match st.children.lookup name with
          | some (.dir _) =>
              { st with children := st.children.erase name, phase := .visiting live todo }
          | _ => { st with phase := .finished }
      | _ => st
  | .stopInit => { st with phase := .finished }
  | .beginRestore p w tmp valid =>
      match st.dirName w with
      | none => st
      | some d =>
          let made := st.mkdir w d
          match made.children.lookup d with
          | some (.dir _) =>
              if !valid || tmp ∈ made.children || p ∈ st.restores then made
              else (made.setChildren (made.children.insert tmp (.dir none))).setRestore p
                { workspace := w, dest := d, tmp := tmp }
          | _ => st
  | .restore p ok =>
      match st.restores.lookup p with
      | none => st
      | some r => st.restoreNext p r ok
  | .crash p =>
      match st.restores.lookup p with
      | none => st
      | some r => st.setRestore p { r with stage := .finished }

end Steps

/-- The workspace a directory belongs to by its name. -/
def ownerOf (rows : Table Nat StorageKey) (name : String) : Option Nat :=
  (rows.entries.find? fun e => (rowDirName e.1 e.2).toOption = some name).map Sigma.fst

/-- The rows and the children of a quiet system: no extraction runs or has left anything. -/
def PruneState.quiet (rows : Table Nat StorageKey) (names : List (String × Child)) :
    PruneState where
  rows := rows
  children := names.foldl (fun t e => t.insert e.1
    (match e.2 with
      | .dir _ => .dir (ownerOf rows e.1)
      | c => c)) ∅

/-! ## What should hold -/

/-- A directory that is removed is not the project directory of an existing workspace and does
not hold the only copy of its files. -/
def SparesWorkspaces (st : PruneState) : PruneStep → Prop
  | .remove => ∀ live todo name holds, st.phase = .removing live todo name →
      st.children.lookup name = some (.dir holds) →
        ∀ w ∈ st.rows, st.dirName w ≠ some name ∧ holds ≠ some w
  | _ => True

/-- The directory that is removed is not that of a workspace committed since the rows were read,
and no extraction has moved its destination to it and come no further. -/
def PrunesApart (st : PruneState) : PruneStep → Prop
  | .remove => ∀ live todo name, st.phase = .removing live todo name →
      (∀ w ∈ st.committedSince, st.dirName w ≠ some name) ∧
        ∀ p r, st.restores.lookup p = some r → r.aside = true → r.bak ≠ name
  | _ => True

/-- The same, as a test. -/
def prunesApart (st : PruneState) : PruneStep → Bool
  | .remove =>
      match st.phase with
      | .removing _ _ name =>
          (st.committedSince.all fun w => st.dirName w ≠ some name) &&
            st.restores.entries.all fun e => !e.2.aside || e.2.bak ≠ name
      | _ => true
  | _ => true

theorem prunesApart_iff {st : PruneState} {i : PruneStep} :
    prunesApart st i = true ↔ PrunesApart st i := by
  cases i with
  | remove =>
      unfold prunesApart PrunesApart
      cases st.phase with
      | removing live todo name =>
          simp only [PrunePhase.removing.injEq, Bool.and_eq_true, List.all_eq_true, Bool.or_eq_true,
            Bool.not_eq_true', decide_eq_true_eq]
          constructor
          · rintro ⟨hsince, haside⟩ _ _ _ ⟨rfl, rfl, rfl⟩
            refine ⟨hsince, fun p r hr hmoved => ?_⟩
            exact (haside ⟨p, r⟩ (AList.mem_lookup_iff.mp hr)).resolve_left (by simp [hmoved])
          · intro h
            obtain ⟨hsince, haside⟩ := h live todo name ⟨rfl, rfl, rfl⟩
            refine ⟨hsince, fun e he => ?_⟩
            cases hmoved : e.2.aside with
            | false => exact .inl rfl
            | true => exact .inr (haside e.1 e.2 (AList.mem_lookup_iff.mpr he) hmoved)
      | idle | listed | visiting | finished => simp
  | _ => simp [prunesApart, PrunesApart]

instance (st : PruneState) (i : PruneStep) : Decidable (PrunesApart st i) :=
  decidable_of_iff _ prunesApart_iff

/-! ## Names -/

theorem mem_of_mem_stripChars {l : List Char} {c : Char} (hc : c ∈ PyText.stripChars l) : c ∈ l :=
  (List.dropWhile_suffix _).mem ((PyText.stripChars_isPrefix l).mem hc)

theorem mem_of_mem_strip {s : String} {c : Char} (h : c ∈ (PyText.strip s).toList) :
    c ∈ s.toList := by
  unfold PyText.strip at h
  rw [String.toList_ofList] at h
  exact mem_of_mem_stripChars h

/-- No project directory is named like a backup. -/
theorem rowDirName_no_k {w : Nat} {key : StorageKey} {name : String}
    (h : rowDirName w key = .ok name) : 'k' ∉ name.toList := by
  have hwid : 'k' ∉ (PyText.strip (toString w)).toList := fun hk =>
    absurd (PyText.isDigit_of_mem_toString (mem_of_mem_strip hk)) (by decide)
  unfold rowDirName workspaceProjectDirName validateWorkspaceIdForPath at h
  dsimp only at h
  split at h
  · cases key with
    | none =>
        obtain rfl := Except.ok.inj h
        exact hwid
    | some key =>
        obtain ⟨key, hlen, hchars⟩ := key
        have hkey : 'k' ∉ (PyText.strip key).toList := by
          intro hk
          rcases hchars 'k' (mem_of_mem_strip hk) with hdigit | ⟨-, hle⟩
          · exact absurd hdigit (by decide)
          · exact absurd hle (by decide)
        rw [Option.map_some] at h
        unfold validateWorkspaceStorageKeyForPath at h
        split at h
        next => obtain rfl := Except.ok.inj h; exact hwid
        next hsome =>
          obtain rfl := Option.some.inj hsome
          split at h
          · obtain rfl := Except.ok.inj h
            exact hwid
          · split at h
            · obtain rfl := Except.ok.inj h
              rw [String.toList_append, String.toList_append]
              simp only [List.mem_append, not_or]
              exact ⟨⟨hwid, by decide⟩, hkey⟩
            · cases h
  · cases h

section Prune

variable {st st' : PruneState} {w p : Nat} {n : String} {r : RunningRestore}

theorem dirName_ne_bak (h : st.dirName w = some n) (r : RunningRestore) : n ≠ r.bak := by
  rintro rfl
  obtain ⟨key, -, hname⟩ := Option.bind_eq_some_iff.mp h
  have hok : rowDirName w key = .ok r.bak := by
    cases hrow : rowDirName w key with
    | error e => rw [hrow] at hname; cases hname
    | ok name => rw [hrow] at hname; exact congrArg Except.ok (Option.some.inj hname)
  refine rowDirName_no_k hok ?_
  unfold RunningRestore.bak
  rw [String.toList_append]
  exact List.mem_append_right _ (by decide)

/-! ## Where the files of a workspace are -/

/-- In its project directory, or where an extraction has moved that. -/
def HeldAt (st : PruneState) (n : String) (w : Nat) : Prop :=
  st.dirName w = some n ∨ ∃ p r, st.restores.lookup p = some r ∧ r.aside = true ∧ r.bak = n ∧
    st.dirName w = some r.dest

structure PruneInv (st : PruneState) : Prop where
  holds : ∀ n w, st.children.lookup n = some (.dir (some w)) → HeldAt st n w
  dests : ∀ p r, st.restores.lookup p = some r → st.dirName r.workspace = some r.dest
  /-- Whoever is not new is in the list. -/
  live : ∀ w n, st.dirName w = some n → w ∉ st.committedSince → ∀ live,
    st.phase.live? = some live → n ∈ live
  unlisted : ∀ live todo name, st.phase = .removing live todo name → name ∉ live

theorem HeldAt.mono (h : HeldAt st n w)
    (hrows : ∀ w n, st.dirName w = some n → st'.dirName w = some n)
    (hrestores : ∀ p r, st.restores.lookup p = some r → r.aside = true → r.bak = n →
      ∃ r', st'.restores.lookup p = some r' ∧ r'.aside = true ∧ r'.dest = r.dest) :
    HeldAt st' n w := by
  rcases h with h | ⟨p, r, hr, haside, hbak, hname⟩
  · exact .inl (hrows w n h)
  · obtain ⟨r', hr', haside', hdest⟩ := hrestores p r hr haside hbak
    refine .inr ⟨p, r', hr', haside', ?_, ?_⟩
    · rw [← hbak]
      exact congrArg (· ++ ".bak") hdest
    · rw [hdest]
      exact hrows w r.dest hname

/-- One extraction goes on; what it has moved aside stays so, at `n` at least. -/
theorem HeldAt.setRestore (h : HeldAt st n w) {r' : RunningRestore} {children : Table String Child}
    (hr : st.restores.lookup p = some r) (hdest : r'.dest = r.dest)
    (haside : r.aside = true → r.bak = n → r'.aside = true) :
    HeldAt ((st.setChildren children).setRestore p r') n w := by
  refine h.mono (fun _ _ h => h) fun p' r₀ hr₀ haside₀ hbak => ?_
  show ∃ r'', (st.restores.insert p r').lookup p' = some r'' ∧ _
  rw [Table.lookup_insert_eq]
  by_cases hp : p' = p
  · subst hp
    obtain rfl := Option.some.inj (hr₀.symm.trans hr)
    rw [if_pos rfl]
    exact ⟨r', rfl, haside haside₀ hbak, hdest⟩
  · rw [if_neg hp]
    exact ⟨r₀, hr₀, haside₀, rfl⟩

theorem bak_inj {r r' : RunningRestore} (h : r.bak = r'.bak) : r.dest = r'.dest := by
  have hlist := congrArg String.toList h
  unfold RunningRestore.bak at hlist
  rw [String.toList_append, String.toList_append] at hlist
  exact String.toList_injective (List.append_cancel_right hlist)

theorem lookup_of_erase {t : Table String Child} {m : String} {c : Child}
    (h : (t.erase m).lookup n = some c) : n ≠ m ∧ t.lookup n = some c := by
  by_cases hn : n = m
  · rw [hn, AList.lookup_erase] at h
    cases h
  · rw [AList.lookup_erase_ne hn] at h
    exact ⟨hn, h⟩

theorem lookup_of_supersede {t : Table String Child} {m : String}
    (h : (supersede t m).lookup n = some (.dir (some w))) :
    n ≠ m ∧ t.lookup n = some (.dir (some w)) := by
  unfold supersede at h
  by_cases hn : n = m
  · subst hn
    split at h
    · rw [AList.lookup_insert] at h
      cases h
    next hno => exact absurd h (hno _)
  · split at h
    · rw [AList.lookup_insert_ne hn] at h
      exact ⟨hn, h⟩
    · exact ⟨hn, h⟩

theorem rmtree_eq (st : PruneState) (name : String) (ok : Bool) :
    ∃ children, st.rmtree name ok = st.setChildren children ∧
      ∀ n c, children.lookup n = some c → st.children.lookup n = some c := by
  unfold PruneState.rmtree
  split
  · exact ⟨_, rfl, fun n c h => (lookup_of_erase h).2⟩
  · exact ⟨st.children, rfl, fun _ _ h => h⟩

/-! ## The steps of an extraction -/

theorem PruneInv.restored (hI : PruneInv st) (hr : st.restores.lookup p = some r)
    {r' : RunningRestore} {children : Table String Child} (hworkspace : r'.workspace = r.workspace)
    (hdest : r'.dest = r.dest)
    (hchildren : ∀ n w, children.lookup n = some (.dir (some w)) →
      HeldAt ((st.setChildren children).setRestore p r') n w) :
    PruneInv ((st.setChildren children).setRestore p r') := by
  refine ⟨hchildren, fun p' r₀ hr₀ => ?_, hI.live, hI.unlisted⟩
  replace hr₀ : (st.restores.insert p r').lookup p' = some r₀ := hr₀
  rw [Table.lookup_insert_eq] at hr₀
  split at hr₀
  · obtain rfl := Option.some.inj hr₀
    rw [hworkspace, hdest]
    exact hI.dests p r hr
  · exact hI.dests p' r₀ hr₀

/-- A call that removes children at most. -/
theorem PruneInv.restored_of_fewer (hI : PruneInv st) (hr : st.restores.lookup p = some r)
    {r' : RunningRestore} {children : Table String Child} (hworkspace : r'.workspace = r.workspace)
    (hdest : r'.dest = r.dest) (haside : r'.aside = r.aside)
    (hfewer : ∀ n c, children.lookup n = some c → st.children.lookup n = some c) :
    PruneInv ((st.setChildren children).setRestore p r') :=
  hI.restored hr hworkspace hdest fun n w hn =>
    (hI.holds n w (hfewer n _ hn)).setRestore hr hdest fun h _ => haside.trans h

/-- A call that touches no child. -/
theorem PruneInv.restored_of_same (hI : PruneInv st) (hr : st.restores.lookup p = some r)
    (stage : RestoreStage) : PruneInv (st.setRestore p { r with stage := stage }) :=
  @PruneInv.restored_of_fewer st p r hI hr _ st.children rfl rfl rfl fun _ _ h => h

/-- The destination is renamed to `.bak`. -/
theorem PruneInv.movedAside (hI : PruneInv st) (hr : st.restores.lookup p = some r) {child : Child}
    (hchild : st.children.lookup r.dest = some child) :
    PruneInv ((st.setChildren ((st.children.erase r.dest).insert r.bak child)).setRestore p
      { r with stage := .promote, aside := true }) := by
  refine hI.restored hr rfl rfl fun n w hn => ?_
  rw [Table.lookup_insert_eq] at hn
  split at hn
  next hbak =>
    rw [Option.some.inj hn] at hchild
    rcases hI.holds r.dest w hchild with hname | ⟨p', r', -, -, hother, -⟩
    · refine .inr ⟨p, _, AList.lookup_insert _, rfl, hbak.symm, hname⟩
    · exact absurd hother.symm (dirName_ne_bak (hI.dests p r hr) r')
  next =>
    exact (hI.holds n w (lookup_of_erase hn).2).setRestore hr rfl fun _ _ => rfl

/-- The restored tree takes the destination's place. -/
theorem PruneInv.promoted (hI : PruneInv st) (hr : st.restores.lookup p = some r) :
    PruneInv ((st.setChildren ((supersede (st.children.erase r.tmp) r.bak).insert r.dest
      (.dir (some r.workspace)))).setRestore p { r with stage := .dropOld, aside := false }) := by
  refine hI.restored hr rfl rfl fun n w hn => ?_
  rw [Table.lookup_insert_eq] at hn
  split at hn
  next hdest =>
    injection Option.some.inj hn with hw
    obtain rfl := Option.some.inj hw
    rw [hdest]
    exact .inl (hI.dests p r hr)
  next =>
    obtain ⟨hbak, hn⟩ := lookup_of_supersede hn
    exact (hI.holds n w (lookup_of_erase hn).2).setRestore hr rfl fun _ h => absurd h.symm hbak

/-- What was moved aside is renamed back. -/
theorem PruneInv.rolledBack (hI : PruneInv st) (hr : st.restores.lookup p = some r) {child : Child}
    (hchild : st.children.lookup r.bak = some child) :
    PruneInv ((st.setChildren ((st.children.erase r.bak).insert r.dest child)).setRestore p
      { r with stage := .cleanUp, aside := false }) := by
  refine hI.restored hr rfl rfl fun n w hn => ?_
  rw [Table.lookup_insert_eq] at hn
  split at hn
  next hdest =>
    rw [Option.some.inj hn] at hchild
    rw [hdest]
    rcases hI.holds r.bak w hchild with hname | ⟨p', r', -, -, hbak, hname⟩
    · exact absurd rfl (dirName_ne_bak hname r)
    · rw [bak_inj hbak] at hname
      exact .inl hname
  next =>
    obtain ⟨hbak, hn⟩ := lookup_of_erase hn
    exact (hI.holds n w hn).setRestore hr rfl fun _ h => absurd h.symm hbak

theorem PruneInv.restoreNext (hI : PruneInv st) (hr : st.restores.lookup p = some r) (ok : Bool) :
    PruneInv (st.restoreNext p r ok) := by
  have hdrop : ∀ name stage,
      PruneInv ((st.rmtree name ok).setRestore p { r with stage := stage }) := by
    intro name stage
    obtain ⟨children, heq, hfewer⟩ := rmtree_eq st name ok
    rw [heq]
    exact hI.restored_of_fewer hr rfl rfl rfl hfewer
  unfold PruneState.restoreNext
  split
  · exact hI.restored_of_same hr _
  · exact hdrop _ _
  · split
    · exact hI.restored_of_same hr _
    next child hchild =>
      split
      · exact hI.movedAside hr hchild
      · exact hI.restored_of_same hr _
  · split
    · split
      · exact hI.promoted hr
      · exact hI.restored_of_same hr _
    · exact hI.restored_of_same hr _
  · exact hdrop _ _
  · split
    next child _ hchild => exact hI.rolledBack hr hchild
    · exact hI.restored_of_same hr _
  · exact hdrop _ _
  · exact hI

/-! ## The other steps -/

theorem PruneInv.mkdir (hI : PruneInv st) (hname : st.dirName w = some n) :
    PruneInv (st.mkdir w n) := by
  unfold PruneState.mkdir
  split
  · refine ⟨fun m v hm => ?_, hI.dests, hI.live, hI.unlisted⟩
    rw [Table.lookup_insert_eq] at hm
    split at hm
    next hmn =>
      injection Option.some.inj hm with hv
      obtain rfl := Option.some.inj hv
      rw [hmn]
      exact .inl hname
    next => exact hI.holds m v hm
  · exact hI

theorem PruneInv.commit (hI : PruneInv st) (hw : w ∉ st.rows) (key : StorageKey) :
    PruneInv { st with rows := st.rows.insert w key, committedSince := w :: st.committedSince } := by
  have hother : ∀ v n, st.dirName v = some n →
      (PruneState.dirName { st with
        rows := st.rows.insert w key, committedSince := w :: st.committedSince } v) = some n := by
    intro v n hv
    have hne : v ≠ w := by
      rintro rfl
      unfold PruneState.dirName at hv
      rw [AList.lookup_eq_none.mpr hw] at hv
      cases hv
    unfold PruneState.dirName at hv ⊢
    rw [AList.lookup_insert_ne hne]
    exact hv
  refine ⟨fun m v hm => ?_, fun p r hr => hother _ _ (hI.dests p r hr), fun v m hv hsince => ?_,
    hI.unlisted⟩
  · exact (hI.holds m v hm).mono hother fun p r hr haside _ => ⟨r, hr, haside, rfl⟩
  · obtain ⟨hne, hold⟩ := not_or.mp (List.mem_cons.not.mp hsince)
    refine hI.live v m ?_ hold
    unfold PruneState.dirName at hv ⊢
    rw [AList.lookup_insert_ne hne] at hv
    exact hv

/-- `init_db` goes on with the list it has. -/
theorem PruneInv.withPhase (hI : PruneInv st) {phase : PrunePhase}
    (hlive : ∀ live, phase.live? = some live → st.phase.live? = some live)
    (hunlisted : ∀ live todo name, phase = .removing live todo name → name ∉ live) :
    PruneInv { st with phase := phase } :=
  ⟨hI.holds, hI.dests, fun v m hv hsince live h => hI.live v m hv hsince live (hlive live h),
    hunlisted⟩

theorem PruneInv.finished (hI : PruneInv st) : PruneInv { st with phase := .finished } :=
  hI.withPhase (fun _ h => by cases h) fun _ _ _ h => by cases h

theorem PruneInv.visiting (hI : PruneInv st) {live todo : List String}
    (hlive : st.phase.live? = some live) : PruneInv { st with phase := .visiting live todo } :=
  hI.withPhase (fun _ h => by rw [hlive]; exact h) fun _ _ _ h => by cases h

theorem PruneInv.readRows (hI : PruneInv st) {live : List String}
    (h : st.rows.entries.mapM (fun e => rowDirName e.1 e.2) = .ok live) :
    PruneInv { st with phase := .listed live, committedSince := [] } := by
  refine ⟨hI.holds, hI.dests, fun v m hv _ live' hlive => ?_, fun _ _ _ h => by cases h⟩
  obtain rfl := Option.some.inj hlive
  obtain ⟨key, hkey, hname⟩ := Option.bind_eq_some_iff.mp hv
  obtain ⟨name, hok, hmem⟩ := mem_of_mapM_ok h (AList.mem_lookup_iff.mp hkey)
  rw [hok] at hname
  rw [← Option.some.inj hname]
  exact hmem

theorem PruneInv.beginRestore (hI : PruneInv st) (hname : st.dirName w = some n) {tmp : String}
    (hp : p ∉ st.restores) :
    PruneInv ((st.setChildren (st.children.insert tmp (.dir none))).setRestore p
      { workspace := w, dest := n, tmp := tmp }) := by
  refine ⟨fun m v hm => ?_, fun p' r hr => ?_, hI.live, hI.unlisted⟩
  · replace hm : (st.children.insert tmp (.dir none)).lookup m = some (.dir (some v)) := hm
    rw [Table.lookup_insert_eq] at hm
    split at hm
    · cases hm
    · refine (hI.holds m v hm).mono (fun _ _ h => h) fun p' r hr haside _ => ?_
      have hne : p' ≠ p := by
        rintro rfl
        exact hp (AList.lookup_isSome.mp (Option.isSome_of_eq_some hr))
      exact ⟨r, (AList.lookup_insert_ne hne).trans hr, haside, rfl⟩
  · replace hr : (st.restores.insert p { workspace := w, dest := n, tmp := tmp }).lookup p' =
      some r := hr
    rw [Table.lookup_insert_eq] at hr
    split at hr
    · obtain rfl := Option.some.inj hr
      exact hname
    · exact hI.dests p' r hr

theorem PruneInv.removed (hI : PruneInv st) {live todo : List String}
    (hlive : st.phase.live? = some live) :
    PruneInv { st with children := st.children.erase n, phase := .visiting live todo } := by
  have herased : PruneInv (st.setChildren (st.children.erase n)) :=
    ⟨fun m v hm => hI.holds m v (lookup_of_erase hm).2, hI.dests, hI.live, hI.unlisted⟩
  exact herased.visiting hlive

/-- **One step** keeps the invariant, whatever the order. -/
theorem PruneInv.step (hI : PruneInv st) (i : PruneStep) : PruneInv (pruneStep st i) := by
  cases i with
  | commitWorkspace w key =>
      unfold pruneStep
      dsimp only
      split
      · exact hI
      next hw => exact hI.commit hw (some key)
  | ensureDir w =>
      unfold pruneStep
      dsimp only
      split
      · exact hI
      next d hd => exact hI.mkdir hd
  | readRows =>
      unfold pruneStep
      dsimp only
      split
      · split
        · exact hI.finished
        next live hlive => exact hI.readRows hlive
      · exact hI
  | listChildren =>
      unfold pruneStep
      dsimp only
      split
      next live hphase => exact hI.visiting (by rw [hphase]; rfl)
      · exact hI
  | visit =>
      unfold pruneStep
      dsimp only
      split
      · exact hI.finished
      next live name todo hphase =>
        have hlive : st.phase.live? = some live := by rw [hphase]; rfl
        split
        · split
          · exact hI.visiting hlive
          next hnot =>
            refine hI.withPhase (fun _ h => by rw [hlive]; exact h) fun live' todo' name' h => ?_
            injection h with hl ht hn
            rw [← hl, ← hn]
            exact hnot
        · split
          · exact hI.visiting hlive
          · exact hI.finished
        · exact hI.visiting hlive
      · exact hI
  | remove =>
      unfold pruneStep
      dsimp only
      split
      next live todo name hphase =>
        split
        · exact hI.removed (by rw [hphase]; rfl)
        · exact hI.finished
      · exact hI
  | stopInit => exact hI.finished
  | beginRestore p w tmp valid =>
      unfold pruneStep
      dsimp only
      split
      · exact hI
      next d hd =>
        have hmade := hI.mkdir hd
        have hname : (st.mkdir w d).dirName w = some d := by
          unfold PruneState.mkdir
          split
          · exact hd
          · exact hd
        have hrestores : (st.mkdir w d).restores = st.restores := by
          unfold PruneState.mkdir
          split
          · rfl
          · rfl
        split
        · split
          · exact hmade
          next hcond =>
            refine hmade.beginRestore hname ?_
            rw [hrestores]
            intro hp
            simp [hp] at hcond
        · exact hI
  | restore p ok =>
      unfold pruneStep
      dsimp only
      split
      · exact hI
      next r hr => exact hI.restoreNext hr ok
  | crash p =>
      unfold pruneStep
      dsimp only
      split
      · exact hI
      next r hr => exact hI.restored_of_same hr .finished

/-- A removal apart from commits and renames takes nothing that lives. -/
theorem PruneInv.spares (hI : PruneInv st) (i : PruneStep) (h : PrunesApart st i) :
    SparesWorkspaces st i := by
  cases i with
  | remove =>
      intro live todo name holds hphase hchild w hw
      obtain ⟨hsince, haside⟩ := h live todo name hphase
      have hnot : ∀ w, st.dirName w ≠ some name := by
        intro w hname
        by_cases hnew : w ∈ st.committedSince
        · exact hsince w hnew hname
        · exact hI.unlisted live todo name hphase
            (hI.live w name hname hnew live (by rw [hphase]; rfl))
      refine ⟨hnot w, ?_⟩
      rintro rfl
      rcases hI.holds name w hchild with hname | ⟨p, r, hr, hmoved, hbak, -⟩
      · exact hnot w hname
      · exact haside p r hr hmoved hbak
  | _ => trivial

theorem quiet_children {rows : Table Nat StorageKey} {names : List (String × Child)}
    {t : Table String Child}
    (ht : ∀ n w, t.lookup n = some (.dir (some w)) → ownerOf rows n = some w) :
    ∀ n w, (names.foldl (fun t e => t.insert e.1
      (match e.2 with
        | .dir _ => .dir (ownerOf rows e.1)
        | c => c)) t).lookup n = some (.dir (some w)) → ownerOf rows n = some w := by
  induction names generalizing t with
  | nil => exact ht
  | cons e names ih =>
      refine ih fun n w hn => ?_
      rw [Table.lookup_insert_eq] at hn
      split at hn
      next hne =>
        rw [hne]
        split at hn
        · injection Option.some.inj hn
        next hother => exact absurd (Option.some.inj hn) (hother _)
      next => exact ht n w hn

theorem ownerOf_eq_some {rows : Table Nat StorageKey} (h : ownerOf rows n = some w) :
    ∃ key, rows.lookup w = some key ∧ (rowDirName w key).toOption = some n := by
  obtain ⟨e, he, rfl⟩ := Option.map_eq_some_iff.mp h
  have hname := List.find?_some he
  rw [decide_eq_true_eq] at hname
  exact ⟨e.2, AList.mem_lookup_iff.mpr (List.mem_of_find?_eq_some he), hname⟩

theorem pruneInv_quiet (rows : Table Nat StorageKey) (names : List (String × Child)) :
    PruneInv (PruneState.quiet rows names) := by
  refine ⟨fun n w hn => .inl ?_, ?_, ?_, ?_⟩
  · have hempty : ∀ n w, (∅ : Table String Child).lookup n = some (.dir (some w)) →
        ownerOf rows n = some w := by
      intro n w h
      rw [AList.lookup_empty] at h
      cases h
    obtain ⟨key, hlookup, hname⟩ := ownerOf_eq_some (quiet_children hempty n w hn)
    exact Option.bind_eq_some_iff.mpr ⟨key, hlookup, hname⟩
  · intro p r hr
    cases hr
  · intro w n _ _ live h
    cases h
  · intro live todo name h
    cases h

end Prune

/-- **When startup pruning spares what lives**: in a run in which no removal meets the directory
of a workspace committed since the rows were read, or a destination that an extraction has moved
aside, nothing is removed that is the project directory of a workspace or holds the only copy of
its files. -/
theorem prune_spares_live (rows : Table Nat StorageKey) (names : List (String × Child))
    (steps : List PruneStep) (h : Along pruneStep PrunesApart (.quiet rows names) steps) :
    Along pruneStep SparesWorkspaces (.quiet rows names) steps :=
  along_of_along (I := PruneInv) (pruneInv_quiet rows names) (fun _ i hI _ => hI.step i)
    (fun _ i hI hi => hI.spares i hi) h

/-! ## Three orders -/

def sampleKey : String := "0123456789abcdef0123456789abcdef"

theorem sampleKey_isUuidHex : IsUuidHex sampleKey := by decide +kernel

/-- A workspace with its directory; beside it lies a directory without a workspace. -/
def oneRow : Table Nat StorageKey := (∅ : Table Nat StorageKey).insert 1 none

/-- While `init_db` goes through the list, a workspace is created and gets its directory, and the
other one is restored. -/
def busyStartup : List PruneStep :=
  [.readRows, .listChildren, .commitWorkspace 3 ⟨sampleKey, sampleKey_isUuidHex⟩,
    .beginRestore 1 1 ".devnest-restore-tmp-a" true, .restore 1 true, .visit, .restore 1 true,
    .restore 1 true, .restore 1 true, .ensureDir 3, .restore 1 true, .restore 1 true, .remove,
    .visit, .visit]

theorem orphan_alone_is_removed :
    Along pruneStep SparesWorkspaces (.quiet oneRow [("1", .dir none), ("2", .dir none)])
        busyStartup ∧
      (run pruneStep (.quiet oneRow [("1", .dir none), ("2", .dir none)]) busyStartup).children.keys =
        ["3-0123456789abcdef0123456789abcdef", "1"] := by
  have hapart : Along pruneStep PrunesApart
      (.quiet oneRow [("1", .dir none), ("2", .dir none)]) busyStartup := by decide +kernel
  exact ⟨prune_spares_live oneRow [("1", .dir none), ("2", .dir none)] busyStartup hapart,
    by decide +kernel⟩

/-- A workspace is created, and gets its directory, after the rows are read. -/
def lateWorkspace : List PruneStep :=
  [.readRows, .commitWorkspace 1 ⟨sampleKey, sampleKey_isUuidHex⟩, .ensureDir 1, .listChildren,
    .visit]

/-- An extraction has moved the directory aside when the rows are read. -/
def betweenRenames : List PruneStep :=
  [.beginRestore 1 1 ".devnest-restore-tmp-a" true, .restore 1 true, .restore 1 true,
    .restore 1 true, .readRows, .listChildren, .visit]

theorem live_directory_and_only_copy_removed :
    ¬ Along pruneStep SparesWorkspaces (.quiet ∅ []) (lateWorkspace ++ [.remove]) ∧
      ¬ Along pruneStep SparesWorkspaces (.quiet oneRow [("1", .dir none)])
        (betweenRenames ++ [.remove]) := by
  constructor
  · intro h
    refine (h.at [] [] "1-0123456789abcdef0123456789abcdef" (some 1) ?_ ?_ 1 ?_).1 ?_
    all_goals decide +kernel
  · intro h
    refine (h.at ["1"] [".devnest-restore-tmp-a"] "1.bak" (some 1) ?_ ?_ 1 ?_).2 rfl
    all_goals decide +kernel

end Devnest
