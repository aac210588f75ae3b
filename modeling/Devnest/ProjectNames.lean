import Devnest.PosixTrees
import Devnest.ProjectDirs

/-!
# Project directory names

The directory of a workspace is named by its id, and its storage key after a
hyphen if it has one. Ids and keys share their alphabet, and the hyphen is in
it, so what tells two names apart is that an id is a run of digits: it is the
digits that the name starts with (`dirName_digits`).

`prune_orphaned_workspace_project_dirs` is here for one call on a disk that
nothing else changes. `Devnest.ProjectPrune` has the startup around it.
-/

namespace Devnest

open Posix

/-! ## Pruning -/

/-- `ValueError` of a name, or `OSError` of a removal. -/
inductive PruneError where
  | value (message : String)
  | os
  deriving DecidableEq, Repr

/-- The directory names of the rows, those with a blank id left out. -/
def liveDirNames (refs : List (String × Option String)) : Except String (List String) :=
  (refs.filter fun r => PyText.strip r.1 != "").mapM fun r =>
    workspaceProjectDirName { base := [], workspaceId := r.1, projectStorageKey := r.2 }

/-- `root.iterdir()`. -/
def iterdir (fs : Fs) (root : Path) : List String :=
  fs.keys.filterMap fun q => if q.dropLast = root then q.getLast? else none

/-- The loop over the children. `rmtree` refuses a link, and where `fails` has an answer it stops
after it has removed the paths there. -/
def pruneChildren (fails : Path → Option (List Path)) (live : List String) (root : Path) :
    List String → List Path → Fs → Fs × Except PruneError (List Path)
  | [], removed, fs => (fs, .ok removed)
  | name :: rest, removed, fs =>
      let child := root ++ [name]
      if !isDir fs child then pruneChildren fails live root rest removed fs
      else if name ∈ live then pruneChildren fails live root rest removed fs
      else if fs.lookup child ≠ some .dir then (fs, .error .os)
      else
        match fails child with
        | some gone => (editBelow child fs (gone.map fun p => (p, none)), .error .os)
        | none => pruneChildren fails live root rest (removed ++ [child]) (removeTree child fs)

/-- `prune_orphaned_workspace_project_dirs`; `expand` is `expanduser` and the working
directory. -/
def pruneOrphanedWorkspaceProjectDirs (expand : String → List String)
    (fails : Path → Option (List Path)) (projectsBase : String)
    (liveWorkspaceRefs : List (String × Option String)) (fs : Fs) :
    Fs × Except PruneError (List Path) :=
  if PyText.strip projectsBase = "" then (fs, .ok [])
  else
    match realpath fs (expand (PyText.strip projectsBase)) with
    | none => (fs, .ok [])
    | some root =>
        if !isDir fs root then (fs, .ok [])
        else
          match liveDirNames liveWorkspaceRefs with
          | .error message => (fs, .error (.value message))
          | .ok live => pruneChildren fails live root (iterdir fs root) [] fs

/-! ## Rows -/

/-- A workspace row. Its id is of an integer column, and far below what the pattern of a
directory name takes; its storage key is absent, blank or accepted. -/
structure ProjectRow where
  workspaceId : Nat
  projectStorageKey : Option String
  stored : workspaceId < 10 ^ 128
  accepted : (validateWorkspaceStorageKeyForPath projectStorageKey).isOk = true

def ProjectRow.ref (r : ProjectRow) : String × Option String :=
  (toString r.workspaceId, r.projectStorageKey)

def ProjectRow.dirName (r : ProjectRow) : Except String String :=
  workspaceProjectDirName
    { base := [], workspaceId := toString r.workspaceId, projectStorageKey := r.projectStorageKey }

/-- A name of one entry in a directory. -/
def IsComponent (name : String) : Prop := properName name = true ∧ '/' ∉ name.toList

/-! ## Names -/

variable {r : ProjectRow} {name : String} {n : Nat}

theorem isDigit_iff {c : Char} : c.isDigit = true ↔ '0' ≤ c ∧ c ≤ '9' := by
  simp [Char.isDigit, Char.le_def]

theorem isPathNameChar_of_isDigit {c : Char} (h : c.isDigit = true) : isPathNameChar c = true := by
  obtain ⟨hlow, hhigh⟩ := isDigit_iff.mp h
  simp [isPathNameChar, hlow, hhigh]

theorem safePathName_toString (h : n < 10 ^ 128) : safePathName (toString n) = true := by
  have hlen : (toString n).toList.length ≤ 128 := by
    rw [Nat.toString_eq_repr, Nat.repr_eq_ofList_toDigits, String.toList_ofList]
    exact (Nat.length_toDigits_le_iff (by decide) (by decide)).mpr h
  have hdigits : ∀ c ∈ (toString n).toList, c.isDigit = true :=
    fun c hc => PyText.isDigit_of_mem_toString hc
  unfold safePathName
  split
  next hnil => exact absurd (String.toList_eq_nil_iff.mp hnil) (PyText.toString_ne_empty n)
  next c cs hs =>
    rw [hs] at hlen hdigits
    simp only [Bool.and_eq_true, decide_eq_true_eq, List.all_eq_true, Bool.or_eq_true]
    refine ⟨⟨isPathNameChar_of_isDigit (hdigits c List.mem_cons_self), ?_⟩, fun d hd => ?_⟩
    · rw [List.length_cons] at hlen
      omega
    · exact .inl (.inl (.inl (isPathNameChar_of_isDigit (hdigits d (List.mem_cons_of_mem c hd)))))

/-- A key that is accepted is safe by itself. -/
theorem validateStorageKey_safe {key : Option String} {k : String}
    (h : validateWorkspaceStorageKeyForPath key = .ok (some k)) : safePathName k = true := by
  unfold validateWorkspaceStorageKeyForPath at h
  split at h
  · cases h
  · split at h
    · cases h
    · split at h
      next hsafe =>
        obtain rfl := Option.some.inj (Except.ok.inj h)
        exact hsafe
      · cases h

/-- The id, and the key after a hyphen if there is one. -/
theorem ProjectRow.dirName_eq (r : ProjectRow) :
    ∃ tail, r.dirName = .ok (toString r.workspaceId ++ tail) ∧
      (tail = "" ∨ ∃ key, tail = "-" ++ key ∧ safePathName key = true) := by
  have hid : validateWorkspaceIdForPath (toString r.workspaceId) = .ok (toString r.workspaceId) := by
    unfold validateWorkspaceIdForPath
    rw [PyText.strip_toString, if_pos (safePathName_toString r.stored)]
  have hkey := r.accepted
  unfold ProjectRow.dirName workspaceProjectDirName
  rw [hid]
  cases hk : validateWorkspaceStorageKeyForPath r.projectStorageKey with
  | error e =>
      rw [hk] at hkey
      cases hkey
  | ok key =>
      cases key with
      | none => exact ⟨"", by rw [String.append_empty]; rfl, .inl rfl⟩
      | some key =>
          refine ⟨"-" ++ key, ?_, .inr ⟨key, rfl, validateStorageKey_safe hk⟩⟩
          rw [← String.append_assoc]
          rfl

/-- The digits in front of a directory name are the id. -/
theorem dirName_digits (h : r.dirName = .ok name) :
    name.toList.takeWhile Char.isDigit = (toString r.workspaceId).toList := by
  obtain ⟨tail, hname, htail⟩ := r.dirName_eq
  obtain rfl : name = toString r.workspaceId ++ tail := Except.ok.inj (h.symm.trans hname)
  have hdigits : ∀ c ∈ (toString r.workspaceId).toList, c.isDigit = true :=
    fun c hc => PyText.isDigit_of_mem_toString hc
  rw [String.toList_append, List.takeWhile_append_of_pos hdigits]
  have hstop : tail.toList.takeWhile Char.isDigit = [] := by
    rcases htail with rfl | ⟨key, rfl, -⟩
    · rfl
    · rw [String.toList_append]
      rfl
  rw [hstop, List.append_nil]

theorem dirName_ne {a b : ProjectRow} (hab : a.workspaceId ≠ b.workspaceId) {m : String}
    (ha : a.dirName = .ok name) (hb : b.dirName = .ok m) : name ≠ m := by
  rintro rfl
  exact hab (PyText.toString_toList_inj ((dirName_digits ha).symm.trans (dirName_digits hb)))

theorem slash_not_mem_safe (h : safePathName name = true) : '/' ∉ name.toList := by
  unfold safePathName at h
  split at h
  · cases h
  next c cs hs =>
    simp only [Bool.and_eq_true, List.all_eq_true] at h
    rw [hs]
    intro hmem
    rcases List.mem_cons.mp hmem with rfl | hmem
    · exact absurd h.1.1 (by decide)
    · exact absurd (h.2 '/' hmem) (by decide)

theorem dirName_isComponent (h : r.dirName = .ok name) : IsComponent name := by
  refine ⟨workspaceProjectDirName_proper h, ?_⟩
  obtain ⟨tail, hname, htail⟩ := r.dirName_eq
  obtain rfl : name = toString r.workspaceId ++ tail := Except.ok.inj (h.symm.trans hname)
  have hid := slash_not_mem_safe (safePathName_toString r.stored)
  rw [String.toList_append, List.mem_append, not_or]
  refine ⟨hid, ?_⟩
  rcases htail with rfl | ⟨key, rfl, hsafe⟩
  · exact List.not_mem_nil
  · rw [String.toList_append, List.mem_append, not_or]
    exact ⟨by decide, slash_not_mem_safe hsafe⟩

/-! ## What pruning leaves -/

/-- No path lies at or below both of two entries of a directory. -/
theorem not_below_both {base q : Path} {m : String} (hne : name ≠ m) (h : base ++ [name] <+: q) :
    ¬ base ++ [m] <+: q := by
  intro h'
  have heq : base ++ [name] = base ++ [m] := by
    rcases List.prefix_or_prefix_of_prefix h h' with hp | hp
    · exact hp.eq_of_length_le (by simp)
    · exact (hp.eq_of_length_le (by simp)).symm
  exact hne (List.singleton_inj.mp (List.append_cancel_left heq))

/-- What the loop leaves of a child whose name is live. -/
structure Spares (root : Path) (name : String) (fs : Fs) (out : Fs × Except PruneError (List Path)) :
    Prop where
  tree : ∀ q, root ++ [name] <+: q → out.1.lookup q = fs.lookup q
  removed : ∀ paths, out.2 = .ok paths → root ++ [name] ∉ paths

variable {root : Path} {fs : Fs} {live names : List String} {fails : Path → Option (List Path)}

theorem pruneChildren_spares (hlive : name ∈ live) {removed : List Path}
    (hremoved : root ++ [name] ∉ removed) :
    Spares root name fs (pruneChildren fails live root names removed fs) := by
  induction names generalizing removed fs with
  | nil =>
      refine ⟨fun _ _ => rfl, fun paths h => ?_⟩
      obtain rfl := Except.ok.inj h
      exact hremoved
  | cons child rest ih =>
      rw [pruneChildren]
      split
      · exact ih hremoved
      split
      · exact ih hremoved
      next hdead =>
        have hne : name ≠ child := fun h => hdead (h ▸ hlive)
        split
        · refine ⟨fun _ _ => rfl, fun paths h => ?_⟩
          cases h
        split
        · refine ⟨fun q hq => ?_, fun paths h => ?_⟩
          · exact lookup_editBelow_of_ne _ _ fun c _ _ heq =>
              not_below_both hne hq (heq ▸ List.prefix_append _ _)
          · cases h
        · have hstill : root ++ [name] ∉ removed ++ [root ++ [child]] := by
            rw [List.mem_append, List.mem_singleton, not_or]
            exact ⟨hremoved, fun h => hne (List.singleton_inj.mp (List.append_cancel_left h))⟩
          have hrest : Spares root name (removeTree (root ++ [child]) fs) _ := ih hstill
          obtain ⟨htree, hgone⟩ := hrest
          refine ⟨fun q hq => ?_, hgone⟩
          rw [htree q hq, lookup_removeTree, if_neg (not_below_both hne hq)]

theorem liveDirNames_mem {refs : List (String × Option String)} (h : liveDirNames refs = .ok live)
    (hr : r.ref ∈ refs) (hname : r.dirName = .ok name) : name ∈ live := by
  unfold liveDirNames at h
  have hkept : r.ref ∈ refs.filter fun r => PyText.strip r.1 != "" := by
    refine List.mem_filter.mpr ⟨hr, ?_⟩
    show (PyText.strip (toString r.workspaceId) != "") = true
    rw [PyText.strip_toString, bne_iff_ne]
    exact PyText.toString_ne_empty r.workspaceId
  obtain ⟨m, hok, hm⟩ := mem_of_mapM_ok h hkept
  obtain rfl : name = m := Except.ok.inj (hname.symm.trans hok)
  exact hm

theorem prune_spares {expand : String → List String} {projectsBase : String}
    {refs : List (String × Option String)} (hr : r.ref ∈ refs) (hname : r.dirName = .ok name)
    (hroot : realpath fs (expand (PyText.strip projectsBase)) = some root) :
    Spares root name fs (pruneOrphanedWorkspaceProjectDirs expand fails projectsBase refs fs) := by
  have hsame : Spares root name fs (fs, .ok []) := by
    refine ⟨fun _ _ => rfl, fun paths h => ?_⟩
    obtain rfl := Except.ok.inj h
    exact List.not_mem_nil
  unfold pruneOrphanedWorkspaceProjectDirs
  split
  · exact hsame
  rw [hroot]
  dsimp only
  split
  · exact hsame
  cases hlive : liveDirNames refs with
  | error message =>
      refine ⟨fun _ _ => rfl, fun paths h => ?_⟩
      cases h
  | ok live => exact pruneChildren_spares (liveDirNames_mem hlive hr hname) List.not_mem_nil

/-- Two rows have two directories, with nothing in common, and a pruning that knows both spares
both. -/
structure DirsApart (a b : ProjectRow) (m n : String) : Prop where
  components : IsComponent m ∧ IsComponent n
  different : m ≠ n
  disjoint : ∀ base q : Path, base ++ [m] <+: q → ¬ base ++ [n] <+: q
  spared : ∀ expand fails projectsBase refs fs root, a.ref ∈ refs → b.ref ∈ refs →
    realpath fs (expand (PyText.strip projectsBase)) = some root →
      Spares root m fs (pruneOrphanedWorkspaceProjectDirs expand fails projectsBase refs fs) ∧
      Spares root n fs (pruneOrphanedWorkspaceProjectDirs expand fails projectsBase refs fs)

/-- Workspaces with different ids have separate project directories. -/
theorem project_dirs_separate (a b : ProjectRow) (h : a.workspaceId ≠ b.workspaceId) :
    ∃ m n, a.dirName = .ok m ∧ b.dirName = .ok n ∧ DirsApart a b m n := by
  obtain ⟨s, ha, -⟩ := a.dirName_eq
  obtain ⟨t, hb, -⟩ := b.dirName_eq
  refine ⟨_, _, ha, hb, ⟨dirName_isComponent ha, dirName_isComponent hb⟩, dirName_ne h ha hb,
    fun base q => not_below_both (dirName_ne h ha hb), ?_⟩
  intro expand fails projectsBase refs fs root hra hrb hroot
  exact ⟨prune_spares hra ha hroot, prune_spares hrb hb hroot⟩

/-- A row from before keys, and one whose key looks like more of an id. -/
def legacyRow : ProjectRow := ⟨11, none, by decide, rfl⟩

def keyedRow : ProjectRow := ⟨1, some "1-1", by decide, rfl⟩

theorem legacy_apart_from_keyed :
    ∃ m n, legacyRow.dirName = .ok m ∧ keyedRow.dirName = .ok n ∧ DirsApart legacyRow keyedRow m n :=
  project_dirs_separate legacyRow keyedRow (by decide)

end Devnest
