import Devnest.SnapshotSwap

/-!
# Export and import

The archive of a project tree, imported into a project directory as it stands
by then. Each member is one node of the tree, and the members that lie above it
are directories, so the extraction makes a part of the tree whatever the order
(`extractFrom_tree`); no member's path meets a link of the archive.

What can refuse the archive is the check of the names, against the directory
that is about to be replaced, and a backup that is no directory.
-/

namespace Devnest

open Posix

/-! ## Trees -/

/-- A project directory with what lies below it: names of the file system, directories above every
entry, and links that lead somewhere. -/
structure ProjectTree (fs : Fs) (root : Path) : Prop where
  root_ne : root ≠ []
  names : Canonical root
  dir : DirAt fs root
  shape : TreeShape (nodeBelow fs root)
  slashFree : ∀ p, nodeBelow fs root p ≠ none → ∀ name ∈ p, '/' ∉ name.toList
  targets : ∀ p t, fs.lookup (root ++ p) = some (.link t) → t ≠ ""

/-- The name that comes first in a stored path. -/
def firstName (mode : ExportMode) (p : Path) : String :=
  match mode with
  | .localWalk => p.head?.getD ""
  | .containerTar => "."

/-- The regular files below the destination are those of the exported tree, after an import without
an issue. -/
def Restores (src : Fs) (root dest : Path) (result : Disk × Option ImportFault) : Prop :=
  result.2 = none ∧ ∀ p data,
    result.1.fs.lookup (dest ++ p) = some (.file data) ↔ src.lookup (root ++ p) = some (.file data)

/-- What the check of the names asks for, and a backup that gives way. -/
structure Restorable (mode : ExportMode) (src : Fs) (root : Path) (fs : Fs) (dest : Path) :
    Prop where
  names : ∀ p ∈ exportedPaths mode src root, PyText.lstrip (firstName mode p) ≠ "" ∧
    PyText.startsWith (PyText.lstrip (firstName mode p)) ".." = false
  inside : ∀ p ∈ exportedPaths mode src root, ∃ target,
    realpath fs (below dest (PyText.strip (storedName mode p))) = some target ∧ dest <+: target
  backup : BackupGivesWay none (backupOf dest) fs

variable {src fs : Fs} {root dest parent p : Path} {name tmp : String} {mode : ExportMode}
  {ms : List TarMember} {ans : ImportAnswers} {d : Disk}

theorem nodeBelow_of_ne (hp : p ≠ []) : nodeBelow src root p = src.lookup (root ++ p) := if_neg hp

theorem mem_pathsBelow : p ∈ pathsBelow src root ↔ p ≠ [] ∧ src.lookup (root ++ p) ≠ none := by
  have hmem : ∀ q : Path, q ∈ src.keys ↔ src.lookup q ≠ none := by
    intro q
    rw [Ne, AList.lookup_eq_none, not_not]
    rfl
  unfold pathsBelow
  rw [List.mem_map]
  constructor
  · rintro ⟨q, hq, rfl⟩
    rw [List.mem_filter, Bool.and_eq_true, List.isPrefixOf_iff_prefix, bne_iff_ne] at hq
    obtain ⟨hkey, ⟨r, rfl⟩, hne⟩ := hq
    rw [List.drop_left]
    exact ⟨fun hnil => hne (by rw [hnil, List.append_nil]), (hmem _).mp hkey⟩
  · rintro ⟨hne, hthere⟩
    refine ⟨root ++ p, ?_, List.drop_left⟩
    rw [List.mem_filter, Bool.and_eq_true, List.isPrefixOf_iff_prefix, bne_iff_ne]
    exact ⟨(hmem _).mpr hthere, List.prefix_append root p, by simpa using hne⟩

/-- The exported paths are paths of the tree. -/
theorem exported_node (hp : p ∈ exportedPaths mode src root) : nodeBelow src root p ≠ none := by
  cases mode with
  | localWalk =>
      obtain ⟨hne, hthere⟩ := mem_pathsBelow.mp
        ((List.mem_insertionSort _).mp (List.mem_filter.mp hp).1)
      rwa [nodeBelow_of_ne hne]
  | containerTar =>
      rcases List.mem_cons.mp hp with rfl | hp
      · simp [nodeBelow]
      · obtain ⟨hne, hthere⟩ := mem_pathsBelow.mp hp
        rwa [nodeBelow_of_ne hne]

theorem ProjectTree.dirs_above (h : ProjectTree src root) {x : String}
    (hp : nodeBelow src root (p ++ [x]) ≠ none) : DirsTo (nodeBelow src root) p := by
  intro q hne hq
  refine h.shape.above (p ++ [x]) q hne (hq.trans (List.prefix_append _ _)) ?_ hp
  rintro rfl
  have hlen := hq.length_le
  rw [List.length_append, List.length_singleton] at hlen
  omega

/-- A regular file of the tree is exported. -/
theorem ProjectTree.file_exported (h : ProjectTree src root) {data : String}
    (hfile : src.lookup (root ++ p) = some (.file data)) : p ∈ exportedPaths mode src root := by
  have hne : p ≠ [] := by
    rintro rfl
    rw [List.append_nil, h.dir root (List.prefix_refl root) h.root_ne] at hfile
    cases hfile
  have hbelow : p ∈ pathsBelow src root := mem_pathsBelow.mpr ⟨hne, by rw [hfile]; simp⟩
  cases mode with
  | containerTar => exact List.mem_cons_of_mem _ hbelow
  | localWalk =>
      refine List.mem_filter.mpr ⟨(List.mem_insertionSort _).mpr hbelow, ?_⟩
      obtain ⟨init, x, rfl⟩ := (List.eq_nil_or_concat' p).resolve_left hne
      have hnode : nodeBelow src root (init ++ [x]) ≠ none := by
        rw [nodeBelow_of_ne (by simp), hfile]
        simp
      have hcan : Canonical (root ++ init ++ [x]) := by
        rw [List.append_assoc]
        intro n hn
        exact (List.mem_append.mp hn).elim (h.names n) (h.shape.names _ hnode n)
      have hwalk : walk true src maxLinks [] ([] ++ (root ++ init ++ [x])) =
          some ([] ++ (root ++ init ++ [x])) := by
        refine walk_of_dirs (fun _ hn => by cases hn) hcan (fun q hqne hq => ?_) fun t ht => ?_
        · rw [List.nil_append]
          rcases prefix_of_append hq with hq | ⟨r, hr, rfl⟩
          · exact h.dir q hq hqne
          · by_cases hrnil : r = []
            · rw [hrnil, List.append_nil] at hqne ⊢
              exact h.dir root (List.prefix_refl root) hqne
            · rw [← nodeBelow_of_ne hrnil]
              exact h.dirs_above hnode r hrnil hr
        · rw [List.nil_append, List.append_assoc, hfile] at ht
          cases ht
      rw [List.nil_append, List.append_assoc] at hwalk
      rw [isFile, hwalk, Option.any_some, hfile]

/-! ## Stored names -/

/-- The names of a stored path, `.` in front if the archive is that of `tar`. -/
def storedNames (mode : ExportMode) (p : Path) : List String :=
  match mode with
  | .localWalk => p
  | .containerTar => "." :: p

theorem storedName_eq (mode : ExportMode) (p : Path) :
    storedName mode p = PyText.join "/" (storedNames mode p) := by
  cases mode with
  | localWalk => rfl
  | containerTar => rfl

/-- Stored names without slashes are read back. -/
theorem components_join {names : List String} (hne : names ≠ [])
    (h : ∀ name ∈ names, '/' ∉ name.toList) : components (PyText.join "/" names) = names := by
  rw [components]
  exact PyText.splitChar_join hne h

theorem ProjectTree.storedNames (h : ProjectTree src root)
    (hp : p ∈ exportedPaths mode src root) :
    storedNames mode p ≠ [] ∧ (∀ name ∈ storedNames mode p, '/' ∉ name.toList) ∧
      (storedNames mode p).head?.getD "" = firstName mode p := by
  have hslash := h.slashFree p (exported_node hp)
  cases mode with
  | localWalk =>
      have hne := (mem_pathsBelow.mp ((List.mem_insertionSort _).mp (List.mem_filter.mp hp).1)).1
      exact ⟨hne, hslash, rfl⟩
  | containerTar =>
      refine ⟨List.cons_ne_nil _ _, fun name hname => ?_, rfl⟩
      rcases List.mem_cons.mp hname with rfl | hname
      · decide
      · exact hslash name hname

/-- A text is read as a path by its names. -/
theorem pathNames_stored (h : ProjectTree src root) (hp : p ∈ exportedPaths mode src root) :
    pathNames (storedName mode p) = storedNames mode p := by
  obtain ⟨hne, hslash, -⟩ := h.storedNames hp
  rw [pathNames, storedName_eq, components_join hne hslash, List.filter_eq_self]
  intro name hname
  have hcan := h.shape.names p (exported_node hp)
  have hproper : name ≠ "" := by
    cases mode with
    | localWalk => exact (properName_iff.mp (hcan name hname)).1
    | containerTar =>
        rcases List.mem_cons.mp hname with rfl | hname
        · decide
        · exact (properName_iff.mp (hcan name hname)).1
  exact bne_iff_ne.mpr hproper

/-- A joined path begins with its first name. -/
theorem joined_toList {x : String} (rest : List String) :
    ∃ t, (PyText.join "/" (x :: rest)).toList = x.toList ++ t ∧ (t = [] ∨ t.head? = some '/') := by
  cases rest with
  | nil => exact ⟨[], by rw [PyText.join, String.intercalate_singleton, List.append_nil], .inl rfl⟩
  | cons y rest =>
      refine ⟨'/' :: (PyText.join "/" (y :: rest)).toList, ?_, .inr rfl⟩
      rw [PyText.join, String.intercalate_cons_cons, String.toList_append, String.toList_append,
        List.append_assoc]
      rfl

/-- The first three checks of a stripped name look at the first name of the path. -/
theorem safeName_iff {x : String} (hx : '/' ∉ x.toList) (rest : List String) :
    ¬ (PyText.strip (PyText.join "/" (x :: rest)) = "" ∨
        PyText.startsWith (PyText.strip (PyText.join "/" (x :: rest))) "/" = true ∨
        PyText.startsWith (PyText.strip (PyText.join "/" (x :: rest))) ".." = true) ↔
      PyText.lstrip x ≠ "" ∧ PyText.startsWith (PyText.lstrip x) ".." = false := by
  obtain ⟨t, htext, ht⟩ := joined_toList (x := x) rest
  have hslash : PyText.isSpace '/' = false := by decide
  have hdots : ∀ c ∈ ['.', '.'], PyText.isSpace c = false := PyText.not_space_of_any (by decide)
  have hstarts : ∀ w : String, w ≠ "" → (∀ c ∈ w.toList, PyText.isSpace c = false) →
      (PyText.startsWith (PyText.strip (PyText.join "/" (x :: rest))) w = true ↔
        w.toList <+: (x.toList ++ t).dropWhile PyText.isSpace) := by
    intro w hw hspace
    rw [PyText.startsWith, List.isPrefixOf_iff_prefix, PyText.strip, String.toList_ofList, htext]
    exact PyText.prefix_stripChars_iff (fun h => hw (String.toList_eq_nil_iff.mp h)) hspace
  have hlstrip : PyText.lstrip x ≠ "" ↔ x.toList.dropWhile PyText.isSpace ≠ [] := by
    rw [PyText.lstrip, Ne, Ne, ← String.toList_eq_nil_iff, String.toList_ofList]
  rw [hstarts "/" (by decide) (PyText.not_space_of_any (by decide)),
    hstarts ".." (by decide) (PyText.not_space_of_any (by decide)), hlstrip]
  by_cases hblank : x.toList.dropWhile PyText.isSpace = []
  · -- nothing but spaces: the text is blank, or a slash comes first
    refine ⟨fun hsafe => absurd ?_ hsafe, fun h => absurd hblank h.1⟩
    rw [List.dropWhile_append, hblank, List.isEmpty_nil, if_pos rfl]
    rcases ht with rfl | ht
    · left
      rw [← String.toList_eq_nil_iff, PyText.strip, String.toList_ofList, htext, List.append_nil,
        PyText.stripChars, hblank]
      rfl
    · right
      left
      obtain ⟨t, rfl⟩ := List.head?_eq_some_iff.mp ht
      rw [List.dropWhile_cons_of_neg (by rw [hslash]; decide)]
      exact ⟨t, rfl⟩
  · rw [List.dropWhile_append, if_neg (by rwa [List.isEmpty_iff])]
    obtain ⟨c, y, hy⟩ := List.exists_cons_of_ne_nil hblank
    have hc : c ∈ x.toList := (List.dropWhile_suffix _).mem (hy ▸ List.mem_cons_self)
    have hspace : PyText.isSpace c = false := by
      have := List.head?_dropWhile_not PyText.isSpace x.toList
      rw [hy] at this
      exact this
    have hne : PyText.strip (PyText.join "/" (x :: rest)) ≠ "" := by
      rw [PyText.strip, Ne, ← String.toList_eq_nil_iff, String.toList_ofList, htext]
      exact PyText.stripChars_ne_nil (List.mem_append_left t hc) hspace
    have hroot : ¬ ['/'] <+: x.toList.dropWhile PyText.isSpace ++ t := by
      rw [hy]
      rintro ⟨u, hu⟩
      obtain rfl := (List.cons.inj hu).1
      exact hx hc
    have hup : "..".toList <+: x.toList.dropWhile PyText.isSpace ++ t ↔
        PyText.startsWith (PyText.lstrip x) ".." = true := by
      rw [show PyText.startsWith (PyText.lstrip x) ".." = "..".toList.isPrefixOf _ from rfl,
        List.isPrefixOf_iff_prefix, show "..".toList = ['.', '.'] from rfl, PyText.lstrip, hy,
        String.toList_ofList]
      refine ⟨fun h => ?_, fun h => h.trans (List.prefix_append _ _)⟩
      obtain ⟨u, hu⟩ := h
      cases y with
      | nil =>
          rcases ht with rfl | ht
          · cases hu
          · obtain ⟨t, rfl⟩ := List.head?_eq_some_iff.mp ht
            exact absurd (List.cons.inj (List.cons.inj hu).2).1 (by decide)
      | cons c' y =>
          obtain ⟨rfl, htail⟩ := List.cons.inj hu
          obtain ⟨rfl, -⟩ := List.cons.inj htail
          exact ⟨y, rfl⟩
    rw [hup, show "/".toList = ['/'] from rfl]
    refine ⟨fun hsafe => ⟨hblank, eq_false_of_ne_true fun h => hsafe (.inr (.inr h))⟩, ?_⟩
    rintro ⟨-, hdown⟩ (h | h | h)
    · exact hne h
    · exact hroot h
    · rw [hdown] at h
      cases h

/-! ## Validation -/

theorem forM_ok {α ε : Type} {f : α → Except ε Unit} {l : List α} :
    l.forM f = .ok () ↔ ∀ a ∈ l, f a = .ok () := by
  induction l with
  | nil => exact ⟨fun _ a ha => (by cases ha), fun _ => rfl⟩
  | cons a l ih =>
      rw [List.forall_mem_cons, ← ih]
      show (f a >>= fun _ => l.forM f) = .ok () ↔ _
      cases f a with
      | error e => exact ⟨nofun, fun h => by cases h.1⟩
      | ok _ => exact ⟨fun h => ⟨rfl, h⟩, fun h => h.2⟩

theorem tarMember_name (stored : String) (node : Node) : (tarMember stored node).name = stored := by
  cases node with
  | dir => rfl
  | file data => rfl
  | link target => rfl

/-- A member of a tree is neither a hard link nor special, so its name alone counts. -/
theorem validateTarMember_iff (fs : Fs) (dest : Path) (stored : String) (node : Node) :
    validateTarMember fs dest (tarMember stored node) = .ok () ↔
      ¬ (PyText.strip stored = "" ∨ PyText.startsWith (PyText.strip stored) "/" = true ∨
        PyText.startsWith (PyText.strip stored) ".." = true) ∧
      ∃ target, realpath fs (below dest (PyText.strip stored)) = some target ∧ dest <+: target := by
  unfold validateTarMember
  rw [tarMember_name]
  dsimp only
  by_cases hname : PyText.strip stored = "" ∨ PyText.startsWith (PyText.strip stored) "/" = true ∨
    PyText.startsWith (PyText.strip stored) ".." = true
  · rw [if_pos hname]
    exact ⟨nofun, fun h => absurd hname h.1⟩
  · have hspecial : (tarMember stored node).type ≠ .special := by
      cases node with
      | dir => nofun
      | file data => nofun
      | link target => nofun
    rw [if_neg hname, if_neg hspecial]
    cases realpath fs (below dest (PyText.strip stored)) with
    | none => exact ⟨nofun, fun ⟨_, target, h, _⟩ => by cases h⟩
    | some target =>
        dsimp only
        by_cases hin : dest <+: target
        · rw [List.isPrefixOf_iff_prefix.mpr hin]
          refine ⟨fun _ => ⟨hname, target, rfl, hin⟩, fun _ => ?_⟩
          cases node with
          | dir => rfl
          | file data => rfl
          | link target => rfl
        · rw [if_pos]
          · exact ⟨nofun, fun ⟨_, target', h, hin'⟩ => absurd (Option.some.inj h ▸ hin') hin⟩
          · rw [Bool.not_eq_true', ← Bool.not_eq_true, List.isPrefixOf_iff_prefix]
            exact hin

/-- The members are the nodes at the exported paths. -/
theorem Exports.mem_iff (h : Exports src root mode ms) {m : TarMember} :
    m ∈ ms ↔ ∃ p ∈ exportedPaths mode src root, ∃ node, nodeBelow src root p = some node ∧
      m = tarMember (storedName mode p) node := by
  have hmem : m ∈ exportedMembers mode src root ↔ ∃ p ∈ exportedPaths mode src root, ∃ node,
      nodeBelow src root p = some node ∧ m = tarMember (storedName mode p) node := by
    rw [exportedMembers, List.mem_filterMap]
    refine exists_congr fun p => and_congr_right fun _ => ?_
    rw [Option.map_eq_some_iff]
    exact exists_congr fun node => and_congr_right fun _ => eq_comm
  cases h with
  | localWalk => exact hmem
  | containerTar hperm => rw [hperm.mem_iff, hmem]

/-- An exported archive is accepted exactly when its names are. -/
theorem ProjectTree.validate_iff (h : ProjectTree src root) (hexp : Exports src root mode ms)
    (fs : Fs) (dest : Path) :
    validateTarMembers fs dest ms = .ok () ↔ ∀ p ∈ exportedPaths mode src root,
      (PyText.lstrip (firstName mode p) ≠ "" ∧
        PyText.startsWith (PyText.lstrip (firstName mode p)) ".." = false) ∧
      ∃ target, realpath fs (below dest (PyText.strip (storedName mode p))) = some target ∧
        dest <+: target := by
  have hmember : ∀ p ∈ exportedPaths mode src root, ∀ node,
      (validateTarMember fs dest (tarMember (storedName mode p) node) = .ok () ↔
        (PyText.lstrip (firstName mode p) ≠ "" ∧
          PyText.startsWith (PyText.lstrip (firstName mode p)) ".." = false) ∧
        ∃ target, realpath fs (below dest (PyText.strip (storedName mode p))) = some target ∧
          dest <+: target) := by
    intro p hp node
    obtain ⟨hne, hslash, hfirst⟩ := h.storedNames hp
    rw [validateTarMember_iff]
    refine and_congr_left' ?_
    obtain ⟨x, rest, hnames⟩ := List.exists_cons_of_ne_nil hne
    rw [hnames] at hslash hfirst
    rw [storedName_eq, hnames, ← hfirst]
    exact safeName_iff (hslash x List.mem_cons_self) rest
  rw [validateTarMembers, forM_ok]
  constructor
  · intro hall p hp
    obtain ⟨node, hnode⟩ := Option.ne_none_iff_exists'.mp (exported_node hp)
    exact (hmember p hp node).mp (hall _ (hexp.mem_iff.mpr ⟨p, hp, node, hnode, rfl⟩))
  · intro hall m hm
    obtain ⟨p, hp, node, hnode, rfl⟩ := hexp.mem_iff.mp hm
    exact (hmember p hp node).mpr (hall p hp)

/-! ## Extraction -/

/-- What has been extracted is part of the tree. -/
abbrev TreeAt (src : Fs) (root tmp : Path) (fs : Fs) : Prop :=
  PartOf (nodeBelow src root) tmp fs

/-- The names in front of a member's path. -/
def leadingDots (mode : ExportMode) : List String :=
  match mode with
  | .localWalk => []
  | .containerTar => ["."]

theorem leadingDots_dots (mode : ExportMode) : Dots (leadingDots mode) := by
  intro name hname
  cases mode with
  | localWalk => cases hname
  | containerTar => exact List.mem_singleton.mp hname

theorem storedNames_eq (mode : ExportMode) (p : Path) :
    storedNames mode p = leadingDots mode ++ p := by
  cases mode with
  | localWalk => rfl
  | containerTar => rfl

section Extract

variable {tmp : Path} {x : String} {node : Node} (h : ProjectTree src root)
include h

/-- The directories above a member are made, as far as they are missing. -/
theorem makeUpper_tree (hpart : TreeAt src root tmp d.fs)
    (hnode : nodeBelow src root (p ++ [x]) ≠ none) (mode : ExportMode) :
    ∃ d', makeUpper tmp (leadingDots mode ++ (p ++ [x])) d = (d', none) ∧
      TreeAt src root tmp d'.fs ∧ GrowsTo (nodeBelow src root) tmp d.fs d'.fs ∧
      ∀ q, q ≠ [] → q <+: p → d'.fs.lookup (tmp ++ q) = some .dir := by
  have hT : DirsTo (nodeBelow src root) p := h.dirs_above hnode
  have hcan : Canonical p := fun n hn =>
    h.shape.names _ hnode n (List.mem_append_left _ hn)
  have hdots := leadingDots_dots mode
  unfold makeUpper
  rw [← List.append_assoc, List.dropLast_concat]
  by_cases hex : pathExists tmp (leadingDots mode ++ p) d = true
  · rw [if_pos hex]
    exact ⟨d, rfl, hpart, .refl _ _ _,
      hpart.dirs hT ((pathExists_iff hpart hdots hcan hT).mp hex)⟩
  · rw [if_neg hex]
    obtain ⟨d', hmade, hpart', hgrows, hdir, -⟩ :=
      makedirsAt hpart hdots hcan hT (by simpa using hex)
    exact ⟨d', hmade, hpart', hgrows, hpart'.dirs hT (.inr (by rw [hdir]; simp))⟩

omit h in
/-- The directory itself is there. -/
theorem makedir_self (hpart : TreeAt src root tmp d.fs) : makedir tmp ["."] d = (d, none) := by
  have hdots : Dots ([] : List String) := fun _ hn => by cases hn
  have hwalk : walk true d.fs maxLinks tmp [] = some tmp := by
    have hwalked : walk true d.fs maxLinks tmp ([] ++ []) = some (tmp ++ []) :=
      walk_of_all_dirs hdots (fun _ hn => by cases hn) fun q hne hq =>
        absurd (List.prefix_nil.mp hq) hne
    rwa [List.append_nil, List.append_nil] at hwalked
  have hnode : dirNode d.fs tmp = true := by
    rw [dirNode, Bool.or_eq_true, List.isEmpty_iff, beq_iff_eq]
    by_cases hnil : tmp = []
    · exact .inl hnil
    · exact .inr (hpart.root tmp (List.prefix_refl tmp) hnil)
  have hentry : entry tmp ["."] d = some (tmp, ".") := by
    unfold entry
    rw [show (["."] : List String).getLast? = some "." from rfl]
    dsimp only
    rw [show (["."] : List String).dropLast = [] from rfl, hwalk]
    dsimp only
    rw [if_pos hnode]
  unfold makedir mkdir createEntry
  rw [hentry]
  rfl

/-- A link at its place is made anew. -/
theorem makeSymlink_tree {t : String} (hpart : TreeAt src root tmp d.fs)
    (hnode : nodeBelow src root (p ++ [x]) = some (.link t)) (mode : ExportMode)
    (hdirs : ∀ q, q ≠ [] → q <+: p → d.fs.lookup (tmp ++ q) = some .dir) :
    ∃ d', makeSymlink tmp (leadingDots mode ++ (p ++ [x])) t d = (d', none) ∧
      Puts (tmp ++ (p ++ [x])) (.link t) d.fs d'.fs := by
  have hdots := leadingDots_dots mode
  have hcan := h.shape.names (p ++ [x]) (by rw [hnode]; simp)
  have htarget : t ≠ "" := by
    rw [nodeBelow_of_ne (by simp)] at hnode
    exact h.targets _ t hnode
  have hmake : ∀ d₁ : Disk, DirAt d₁.fs tmp →
      (∀ q, q ≠ [] → q <+: p → d₁.fs.lookup (tmp ++ q) = some .dir) →
      d₁.fs.lookup (tmp ++ (p ++ [x])) = none →
      symlink tmp (leadingDots mode ++ (p ++ [x])) d₁ t =
        (d₁.put (tmp ++ (p ++ [x])) (.link t), none) := by
    intro d₁ hroot hdirs₁ hnone
    unfold symlink
    rw [if_neg htarget, createEntryAt hroot hdots hcan hdirs₁, if_pos hnone]
  unfold makeSymlink
  rw [entryExistsAt hpart.root hdots hcan hdirs]
  rcases hpart.part (p ++ [x]) (by simp) with hnone | hthere
  · rw [hnone]
    exact ⟨_, hmake d hpart.root hdirs hnone, puts_put d _ _⟩
  · rw [hnode] at hthere
    have hother : ∀ q, q ≠ tmp ++ (p ++ [x]) →
        (d.fs.erase (tmp ++ (p ++ [x]))).lookup q = d.fs.lookup q :=
      fun q hq => AList.lookup_erase_ne hq
    have hshort : ∀ q, q <+: tmp ++ p → q ≠ tmp ++ (p ++ [x]) := by
      rintro q hq rfl
      have hlen := hq.length_le
      simp only [List.length_append, List.length_singleton] at hlen
      omega
    rw [hthere, unlinkAt hpart.root hdots hcan hdirs hthere]
    dsimp only [Option.isSome_some]
    rw [if_pos rfl]
    refine ⟨_, hmake _ (fun q hq hne => ?_) (fun q hne hq => ?_) (AList.lookup_erase _ _), ?_⟩
    · exact (hother q (hshort q (hq.trans (List.prefix_append _ _)))).trans (hpart.root q hq hne)
    · have hpre : tmp ++ q <+: tmp ++ p := (List.prefix_append_right_inj tmp).mpr hq
      exact (hother _ (hshort _ hpre)).trans (hdirs q hne hq)
    · intro q
      rw [puts_put]
      split
      · rfl
      next hq => exact hother q hq

/-- One member: its node comes into the tree, and directories above it. -/
theorem extractMember_tree (hpart : TreeAt src root tmp d.fs) {i : Nat} (cur depth : Nat)
    (hp : p ∈ exportedPaths mode src root) (hnode : nodeBelow src root p = some node)
    (hm : ms[i]? = some (tarMember (storedName mode p) node)) :
    ∃ d', extractMember ms tmp cur (depth + 1) i (leadingDots mode ++ p) d = (d', none) ∧
      TreeAt src root tmp d'.fs ∧ GrowsTo (nodeBelow src root) tmp d.fs d'.fs ∧
      (p ≠ [] → d'.fs.lookup (tmp ++ p) = some node) := by
  rw [extractMember, hm]
  dsimp only
  rcases List.eq_nil_or_concat' p with rfl | ⟨p, x, rfl⟩
  · cases mode with
    | localWalk => exact absurd rfl (h.storedNames hp).1
    | containerTar =>
        have hdots : Dots ([] : List String) := fun _ hn => by cases hn
        have hupper : makeUpper tmp (leadingDots .containerTar ++ []) d = (d, none) := by
          have := (pathExists_iff (d := d) hpart hdots (p := []) (fun _ hn => by cases hn)
            fun q hne hq => absurd (List.prefix_nil.mp hq) hne).mpr (.inl rfl)
          unfold makeUpper
          exact if_pos this
        obtain rfl : node = .dir := by
          rw [nodeBelow, if_pos rfl] at hnode
          exact (Option.some.inj hnode).symm
        rw [hupper]
        dsimp only [tarMember]
        rw [show leadingDots .containerTar ++ [] = ["."] from rfl, makedir_self hpart]
        exact ⟨d, rfl, hpart, .refl _ _ _, fun hne => absurd rfl hne⟩
  · have hdots := leadingDots_dots mode
    have hthere : nodeBelow src root (p ++ [x]) ≠ none := by
      rw [hnode]
      simp
    have hcan := h.shape.names _ hthere
    obtain ⟨d₁, hupper, hpart₁, hgrows₁, hdirs⟩ := makeUpper_tree h hpart hthere mode
    have hbefore : ∀ q, q ≠ [] → q <+: p ++ [x] → q ≠ p ++ [x] →
        d₁.fs.lookup (tmp ++ q) = some .dir := fun q hne hq hqp =>
      hdirs q hne ((prefix_snoc.mp hq).resolve_right hqp)
    -- whatever puts the node there adds it to the tree
    have hput : ∀ d₂ : Disk, Puts (tmp ++ (p ++ [x])) node d₁.fs d₂.fs →
        TreeAt src root tmp d₂.fs ∧ GrowsTo (nodeBelow src root) tmp d.fs d₂.fs ∧
          (p ++ [x] ≠ [] → d₂.fs.lookup (tmp ++ (p ++ [x])) = some node) := by
      intro d₂ hputs
      obtain ⟨hpart₂, hgrows₂⟩ := hpart₁.put hputs (by simp) hnode hbefore
      exact ⟨hpart₂, hgrows₁.trans hgrows₂, fun _ => by rw [hputs, if_pos rfl]⟩
    rw [hupper]
    dsimp only
    cases node with
    | file data =>
        dsimp only [tarMember]
        rw [openWriteAt hdots hcan hdirs data fun old hold => ?_]
        · exact ⟨_, rfl, hput _ (puts_put d₁ _ _)⟩
        · rcases hpart₁.part (p ++ [x]) (by simp) with hnone | hsame
          · rw [hnone] at hold
            cases hold
          · rw [hsame, hnode] at hold
            exact ⟨data, (Option.some.inj hold).symm⟩
    | dir =>
        dsimp only [tarMember]
        unfold makedir mkdir
        rw [createEntryAt hpart₁.root hdots hcan hdirs]
        by_cases hnone : d₁.fs.lookup (tmp ++ (p ++ [x])) = none
        · rw [if_pos hnone]
          exact ⟨_, rfl, hput _ (puts_put d₁ _ _)⟩
        · rw [if_neg hnone]
          have hsame := (hpart₁.part (p ++ [x]) (by simp)).resolve_left hnone
          exact ⟨d₁, rfl, hpart₁, hgrows₁, fun _ => by rw [hsame, hnode]⟩
    | link t =>
        dsimp only [tarMember]
        obtain ⟨d₂, hlink, hputs⟩ := makeSymlink_tree h hpart₁ hnode mode hdirs
        rw [hlink]
        exact ⟨d₂, rfl, hput d₂ hputs⟩

/-- All members from one on: every one of them is in the tree. -/
theorem extractFrom_tree (depth : Nat) (before : List TarMember) {rest : List TarMember}
    (hms : ms = before ++ rest)
    (hmembers : ∀ m ∈ rest, ∃ p ∈ exportedPaths mode src root, ∃ node,
      nodeBelow src root p = some node ∧ m = tarMember (storedName mode p) node)
    (hpart : TreeAt src root tmp d.fs) :
    ∃ d', extractFrom depth ms tmp before.length rest d = (d', none) ∧
      TreeAt src root tmp d'.fs ∧ GrowsTo (nodeBelow src root) tmp d.fs d'.fs ∧
      ∀ p ∈ exportedPaths mode src root, ∀ node, nodeBelow src root p = some node → p ≠ [] →
        tarMember (storedName mode p) node ∈ rest → d'.fs.lookup (tmp ++ p) = some node := by
  induction rest generalizing before d with
  | nil => exact ⟨d, rfl, hpart, .refl _ _ _, fun _ _ _ _ _ hm => by cases hm⟩
  | cons m rest ih =>
      obtain ⟨p, hp, node, hnode, rfl⟩ := hmembers m List.mem_cons_self
      have hindex : ms[before.length]? = some (tarMember (storedName mode p) node) := by
        rw [hms, List.getElem?_append_right (Nat.le_refl _), Nat.sub_self]
        rfl
      obtain ⟨d₁, hmember, hpart₁, hgrows₁, hplaced⟩ := extractMember_tree h hpart before.length
        depth hp hnode hindex
      obtain ⟨d₂, hrest, hpart₂, hgrows₂, hall⟩ := ih
        (before ++ [tarMember (storedName mode p) node])
        (by rw [hms, List.append_assoc]; rfl)
        (fun m hm => hmembers m (List.mem_cons_of_mem _ hm)) hpart₁
      rw [List.length_append, List.length_singleton] at hrest
      refine ⟨d₂, ?_, hpart₂, hgrows₁.trans hgrows₂, fun q hq node' hnode' hne hmem => ?_⟩
      · rw [extractFrom, tarMember_name, pathNames_stored h hp, storedNames_eq, hmember]
        exact hrest
      · rcases List.mem_cons.mp hmem with heq | hmem
        · have hpq : q = p := by
            have hname : pathNames (tarMember (storedName mode q) node').name =
                pathNames (tarMember (storedName mode p) node).name := by rw [heq]
            rw [tarMember_name, tarMember_name, pathNames_stored h hq, pathNames_stored h hp,
              storedNames_eq, storedNames_eq] at hname
            exact List.append_cancel_left hname
          subst hpq
          obtain rfl : node = node' := Option.some.inj (hnode.symm.trans hnode')
          rw [hgrows₂.keeps ((hplaced hne).trans hnode.symm), hnode]
        · exact hall q hq node' hnode' hne hmem

end Extract

/-- The whole archive, extracted into a fresh directory. -/
theorem ProjectTree.extractall_tree (h : ProjectTree src root) (hexp : Exports src root mode ms)
    (hplace : RestorePlace d.fs parent name ans.tmpName) :
    ∃ d', extractall ans.depth ms (parent ++ [ans.tmpName])
        (d.put (parent ++ [ans.tmpName]) .dir) = (d', none) ∧
      TreeAt src root (parent ++ [ans.tmpName]) d'.fs ∧
      (∀ q, ¬ parent ++ [ans.tmpName] <+: q → d'.fs.lookup q = d.fs.lookup q) ∧
      ∀ p data, src.lookup (root ++ p) = some (.file data) →
        d'.fs.lookup (parent ++ [ans.tmpName] ++ p) = some (.file data) := by
  have hat := hplace.atSwap (.refl (d := d.put (parent ++ [ans.tmpName]) .dir))
  have hfree : ∀ p, p ≠ [] → (d.put (parent ++ [ans.tmpName]) .dir).fs.lookup
      (parent ++ [ans.tmpName] ++ p) = none := by
    intro p hne
    rw [puts_put d _ .dir, if_neg (by simpa using hne)]
    exact hplace.fresh p
  have hpart : TreeAt src root (parent ++ [ans.tmpName])
      (d.put (parent ++ [ans.tmpName]) .dir).fs := by
    refine ⟨hat.dir.snoc hat.extracted, fun p hne => .inl (hfree p hne), fun p q hne hq _ hp => ?_⟩
    have hpne : p ≠ [] := by
      rintro rfl
      exact hne (List.prefix_nil.mp hq)
    exact absurd (hfree p hpne) hp
  obtain ⟨d', hall, hpart', hgrows, hplaced⟩ := extractFrom_tree h ans.depth []
    (List.nil_append ms).symm (fun m hm => hexp.mem_iff.mp hm) hpart
  refine ⟨d', hall, hpart', fun q hq => ?_, fun p data hfile => ?_⟩
  · rw [hgrows.outside hq, puts_put d _ .dir, if_neg]
    rintro rfl
    exact hq (List.prefix_refl _)
  · have hp : p ∈ exportedPaths mode src root := h.file_exported hfile
    have hne : p ≠ [] := by
      rintro rfl
      rw [List.append_nil, h.dir root (List.prefix_refl root) h.root_ne] at hfile
      cases hfile
    have hnode : nodeBelow src root p = some (.file data) := by rw [nodeBelow_of_ne hne, hfile]
    exact hplaced p hp _ hnode hne (hexp.mem_iff.mpr ⟨p, hp, _, hnode, rfl⟩)

/-! ## Import -/

/-- A restore whose extraction comes to its end returns when the backup gives way. -/
theorem restore_of_extracted {d' : Disk} (hplace : RestorePlace d.fs parent name ans.tmpName)
    (haccepted : validateTarMembers d.fs (parent ++ [name]) ms = .ok ())
    (hall : extractall ans.depth ms (parent ++ [ans.tmpName])
      (d.put (parent ++ [ans.tmpName]) .dir) = (d', none)) :
    ((safeSnapshotTarExtract ans (parent ++ [name]) ms d).2 = none ↔
        BackupGivesWay none (parent ++ [name ++ ".bak"]) d'.fs) ∧
      ((safeSnapshotTarExtract ans (parent ++ [name]) ms d).2 = none →
        treeAt (safeSnapshotTarExtract ans (parent ++ [name]) ms d).1.fs (parent ++ [name]) =
          treeAt d'.fs (parent ++ [ans.tmpName])) := by
  have hcalls := extractFrom_calls ans.depth ms (parent ++ [ans.tmpName]) 0 ms
    (d.put (parent ++ [ans.tmpName]) .dir)
  rw [show extractFrom ans.depth ms (parent ++ [ans.tmpName]) 0 ms _ = _ from hall] at hcalls
  have hnames := hplace.swapNames
  have hrun := restoreWith_none ans (parent ++ [name]) ms d
  obtain ⟨fs', fault, hresult, hcases⟩ := restoreResult_cases none ans (d', none) hnames
    (hplace.atSwap hcalls)
  rw [tmpDir_append, hall] at hrun
  unfold restoreWith at hrun
  rw [haccepted, tmpDir_append, hresult] at hrun
  dsimp only at hrun
  rw [if_neg nofun, if_neg nofun] at hrun
  obtain ⟨hfs, hfault⟩ := Prod.mk.inj hrun
  rw [← hfs, ← hfault]
  rcases hcases with ⟨hgo, hnone, hdest, htmp, hdir⟩ | ⟨hno, hraised, -, -⟩
  · have hclean := (cleanup_trees hnames hdir (.inr htmp)).1
    exact ⟨⟨fun _ => hgo.2.2, fun _ => hnone.mpr nofun⟩, fun _ => hclean.trans hdest⟩
  · refine ⟨⟨fun h => absurd h hraised, fun h => ?_⟩, fun h => absurd h hraised⟩
    exact absurd ⟨rfl, by decide, h⟩ hno

/-- A project tree comes back from its archive exactly when the first name of every stored path is
one the check of the names lets through, every stored name leads inside the directory as it stands
before the import, and what is at the backup's path gives way. -/
theorem export_import_iff (h : ProjectTree src root) (hexp : Exports src root mode ms)
    (hplace : RestorePlace d.fs parent name ans.tmpName) :
    Restores src root (parent ++ [name]) (importSnapshotArchive ans (parent ++ [name]) ms d) ↔
      Restorable mode src root d.fs (parent ++ [name]) := by
  obtain ⟨d', hall, hpart, hframe, hfiles⟩ := h.extractall_tree hexp hplace
  have hbak : treeAt d'.fs (parent ++ [name ++ ".bak"]) =
      treeAt d.fs (parent ++ [name ++ ".bak"]) :=
    SameOutside.treeAt hframe hplace.swapNames.bak_apart_tmp.symm
  have hgives : BackupGivesWay none (parent ++ [name ++ ".bak"]) d'.fs ↔
      BackupGivesWay none (parent ++ [name ++ ".bak"]) d.fs := by
    rw [BackupGivesWay, BackupGivesWay, hbak, lookup_of_treeAt hbak]
  have himport : importSnapshotArchive ans (parent ++ [name]) ms d =
      safeSnapshotTarExtract ans (parent ++ [name]) ms d :=
    if_pos (hplace.dir.isDir hplace.names)
  rw [himport]
  constructor
  · rintro ⟨hnone, -⟩
    have haccepted : validateTarMembers d.fs (parent ++ [name]) ms = .ok () := by
      cases hv : validateTarMembers d.fs (parent ++ [name]) ms with
      | ok _ => rfl
      | error fault =>
          unfold safeSnapshotTarExtract at hnone
          rw [hv] at hnone
          cases hnone
    have hchecks := (h.validate_iff hexp d.fs (parent ++ [name])).mp haccepted
    have hway := (restore_of_extracted hplace haccepted hall).1.mp hnone
    refine ⟨fun p hp => (hchecks p hp).1, fun p hp => (hchecks p hp).2, ?_⟩
    rw [backupOf_append]
    exact hgives.mp hway
  · rintro ⟨hnames, hinside, hbackup⟩
    rw [backupOf_append] at hbackup
    have haccepted := (h.validate_iff hexp d.fs (parent ++ [name])).mpr
      fun p hp => ⟨hnames p hp, hinside p hp⟩
    obtain ⟨hreturns, htree⟩ := restore_of_extracted hplace haccepted hall
    have hnone := hreturns.mpr (hgives.mpr hbackup)
    refine ⟨hnone, fun p data => ?_⟩
    rw [show AList.lookup (parent ++ [name] ++ p) _ = _ from congrFun (htree hnone) p]
    refine ⟨fun hfile => ?_, hfiles p data⟩
    have hne : p ≠ [] := by
      rintro rfl
      have hroot := hpart.root _ (List.prefix_refl _) (by simp)
      rw [treeAt, List.append_nil, hroot] at hfile
      cases hfile
    rw [treeAt] at hfile
    rcases hpart.part p hne with hnothing | hsame
    · rw [hnothing] at hfile
      cases hfile
    · rw [← nodeBelow_of_ne hne, ← hsame, hfile]

/-! ## A name with two dots in front -/

/-- A project directory with one file. -/
def oneFile (x : String) : Fs := ((∅ : Fs).insert ["p"] .dir).insert ["p", x] (.file "1")

/-- A tree is checked entry by entry. -/
theorem ProjectTree.of_entries (hne : root ≠ []) (hnames : Canonical root) (hdir : DirAt src root)
    (hentries : ∀ p ∈ pathsBelow src root,
      (∀ q ∈ p.inits, q ≠ [] → q ≠ p → nodeBelow src root q = some .dir) ∧
        (∀ n ∈ p, properName n = true ∧ '/' ∉ n.toList) ∧
          src.lookup (root ++ p) ≠ some (.link "")) : ProjectTree src root := by
  have hlisted : ∀ p, nodeBelow src root p ≠ none → p = [] ∨ p ∈ pathsBelow src root := by
    intro p hp
    by_cases hroot : p = []
    · exact .inl hroot
    · rw [nodeBelow_of_ne hroot] at hp
      exact .inr (mem_pathsBelow.mpr ⟨hroot, hp⟩)
  refine ⟨hne, hnames, hdir, ⟨fun p q hq hqp hneq hp => ?_, fun p hp => ?_⟩, fun p hp => ?_,
    fun p t ht hempty => ?_⟩
  · rcases hlisted p hp with rfl | hmem
    · exact absurd (List.prefix_nil.mp hqp) hq
    · exact (hentries p hmem).1 q ((List.mem_inits q p).mpr hqp) hq hneq
  · rcases hlisted p hp with rfl | hmem
    · exact fun n hn => by cases hn
    · exact fun n hn => ((hentries p hmem).2.1 n hn).1
  · rcases hlisted p hp with rfl | hmem
    · exact fun n hn => by cases hn
    · exact fun n hn => ((hentries p hmem).2.1 n hn).2
  · subst hempty
    have hp : p ≠ [] := by
      rintro rfl
      rw [List.append_nil, hdir root (List.prefix_refl root) hne] at ht
      cases ht
    exact (hentries p (mem_pathsBelow.mpr ⟨hp, by simp [ht]⟩)).2.2 ht

theorem dotsProject_tree : ProjectTree (oneFile "..data") ["p"] := by
  refine .of_entries (List.cons_ne_nil _ _) ?_ ((dirAt_nil _).snoc (by decide +kernel))
    (by decide +kernel)
  show ∀ n ∈ ["p"], properName n = true
  decide

/-- A file, a directory with a file, and a link to the first. -/
def linkedProject : Fs :=
  (((((∅ : Fs).insert ["p"] .dir).insert ["p", "a"] (.file "1")).insert ["p", "d"] .dir).insert
    ["p", "d", "b"] (.file "2")).insert ["p", "l"] (.link "a")

theorem linkedProject_tree : ProjectTree linkedProject ["p"] := by
  refine .of_entries (List.cons_ne_nil _ _) ?_ ((dirAt_nil _).snoc (by decide +kernel))
    (by decide +kernel)
  show ∀ n ∈ ["p"], properName n = true
  decide

theorem linked_project_comes_back :
    Restores linkedProject ["p"] ["srv", "w"] (importSnapshotArchive restoreNames ["srv", "w"]
      (exportedMembers .localWalk linkedProject ["p"]) { fs := projectWithBackup }) := by
  have hplace : RestorePlace (Disk.fs { fs := projectWithBackup }) ["srv"] "w"
      restoreNames.tmpName := projectWithBackup_place
  have hinside : ∀ p ∈ exportedPaths .localWalk linkedProject ["p"],
      (realpath projectWithBackup
        (below ["srv", "w"] (PyText.strip (storedName .localWalk p)))).any
          (["srv", "w"].isPrefixOf ·) = true := by decide +kernel
  refine (export_import_iff linkedProject_tree .localWalk hplace).mpr
    ⟨by decide +kernel, fun p hp => ?_, .inr ⟨by decide +kernel, nofun⟩⟩
  obtain ⟨target, htarget, hprefix⟩ := (Option.any_eq_true _ _).mp (hinside p hp)
  exact ⟨target, htarget, List.isPrefixOf_iff_prefix.mp hprefix⟩

/-- The local walk stores `..data` under this name, and the import refuses it. -/
theorem two_dots_are_refused :
    ¬ ∀ (src : Fs) (root : Path) (mode : ExportMode) (ms : List TarMember) (d : Disk)
        (parent : Path) (name : String) (ans : ImportAnswers), ProjectTree src root →
      Exports src root mode ms → RestorePlace d.fs parent name ans.tmpName →
      Restores src root (parent ++ [name]) (importSnapshotArchive ans (parent ++ [name]) ms d) := by
  intro h
  have hback := h (oneFile "..data") ["p"] .localWalk _ { fs := projectWithBackup } ["srv"] "w"
    restoreNames dotsProject_tree .localWalk projectWithBackup_place
  have hnone := hback.1
  revert hnone
  decide +kernel

end Devnest
