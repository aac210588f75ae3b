import Devnest.PyText
import Devnest.Table

/-!
# A file system with symbolic links

A file system maps absolute paths, as lists of names, to nodes. `walk`
resolves a path name by name: a symbolic link is replaced by its target,
`..` leaves the directory reached so far. The kernel's resolution is strict
(every name but the last must lead to a directory); `realpath` is not and
takes a name that does not exist as it stands.

What later modules use: a path without links resolves to itself, what a
resolution yields has no links, and `mkdirs` only adds directories.
-/

namespace Posix

/-- An absolute path: the names from the root. -/
abbrev Path := List String

inductive Node where
  | dir
  | file (data : String)
  | link (target : String)
  deriving DecidableEq, Repr

abbrev Fs := Table Path Node

/-- `s.split("/")`. -/
def components (s : String) : List String :=
  (PyText.splitChar '/' s.toList).map String.ofList

/-- A name that names an entry, not `.` or `..`. -/
def properName (name : String) : Bool := name != "" && name != "." && name != ".."

/-- Where the names of a path lead up to the first link. -/
inductive Stop where
  | arrived (p : Path)
  | link (cur : Path) (target : String) (rest : List String)
  | missing
  deriving DecidableEq, Repr

def scan (strict : Bool) (fs : Fs) (cur : Path) : List String → Stop
  | [] => .arrived cur
  | name :: rest =>
      if name = "" ∨ name = "." then scan strict fs cur rest
      else if name = ".." then scan strict fs cur.dropLast rest
      else
        match fs.lookup (cur ++ [name]) with
        | some (.link target) => .link cur target rest
        | some .dir => scan strict fs (cur ++ [name]) rest
        | _ => if strict && !rest.isEmpty then .missing else scan strict fs (cur ++ [name]) rest

/-- Follow at most `links` links. -/
def walk (strict : Bool) (fs : Fs) : Nat → Path → List String → Option Path
  | 0, cur, todo =>
      match scan strict fs cur todo with
      | .arrived p => some p
      | _ => none
  | links + 1, cur, todo =>
      match scan strict fs cur todo with
      | .arrived p => some p
      | .missing => none
      | .link cur target rest =>
          walk strict fs links (if PyText.startsWith target "/" then [] else cur)
            (components target ++ rest)

/-- How many links a resolution follows before `ELOOP`. -/
def maxLinks : Nat := 40

/-- `os.path.realpath`; `none` is a loop. -/
def realpath (fs : Fs) (p : List String) : Option Path := walk false fs maxLinks [] p

/-- The root has no entry of its own. -/
def dirNode (fs : Fs) (p : Path) : Bool := p.isEmpty || fs.lookup p == some .dir

/-- `os.path.isdir`, links followed. -/
def isDir (fs : Fs) (p : List String) : Bool := (walk true fs maxLinks [] p).any (dirNode fs)

/-- `mkdir -p` from the directory `cur` on, and whether it ends well; what it has made by then
stays. -/
def mkdirs (fs : Fs) (cur : Path) : List String → Fs × Bool
  | [] => (fs, true)
  | name :: rest =>
      match fs.lookup (cur ++ [name]) with
      | none => mkdirs (fs.insert (cur ++ [name]) .dir) (cur ++ [name]) rest
      | some .dir => mkdirs fs (cur ++ [name]) rest
      | some (.file _) => (fs, false)
      | some (.link _) =>
          match walk true fs maxLinks cur [name] with
          | some q => if dirNode fs q then mkdirs fs q rest else (fs, false)
          | none => (fs, false)

/-- A change at a path: a new node, or none. -/
def edit (fs : Fs) (p : Path) : Option Node → Fs
  | some node => fs.insert p node
  | none => fs.erase p

/-- Changes at paths relative to `p`, which itself stays. -/
def editBelow (p : Path) (fs : Fs) (changes : List (Path × Option Node)) : Fs :=
  changes.foldl (fun fs c => if c.1 = [] then fs else edit fs (p ++ c.1) c.2) fs

/-- Remove all below `p`. -/
def clearBelow (p : Path) (fs : Fs) : Fs :=
  editBelow p fs ((fs.keys.filter (p.isPrefixOf ·)).map fun q => (q.drop p.length, none))

/-! ## Paths without links -/

def Canonical (p : Path) : Prop := ∀ name ∈ p, properName name = true

/-- No link at the path or above it. -/
def LinkFree (fs : Fs) (p : Path) : Prop :=
  ∀ q, q <+: p → q ≠ [] → ∀ t, fs.lookup q ≠ some (.link t)

/-- A directory, as are all above it. -/
def DirAt (fs : Fs) (p : Path) : Prop := ∀ q, q <+: p → q ≠ [] → fs.lookup q = some .dir

variable {fs fs' : Fs} {p q cur : Path} {name : String} {todo : List String} {strict : Bool}

theorem linkFree_nil (fs : Fs) : LinkFree fs [] :=
  fun _ hq hne => absurd (List.prefix_nil.mp hq) hne

theorem dirAt_nil (fs : Fs) : DirAt fs [] :=
  fun _ hq hne => absurd (List.prefix_nil.mp hq) hne

theorem LinkFree.of_prefix (h : LinkFree fs p) (hq : q <+: p) : LinkFree fs q :=
  fun r hr => h r (hr.trans hq)

theorem DirAt.of_prefix (h : DirAt fs p) (hq : q <+: p) : DirAt fs q :=
  fun r hr => h r (hr.trans hq)

theorem DirAt.linkFree (h : DirAt fs p) : LinkFree fs p := by
  intro q hq hne t
  rw [h q hq hne]
  simp

theorem prefix_snoc : q <+: cur ++ [name] ↔ q <+: cur ∨ q = cur ++ [name] := by
  rw [List.prefix_concat_iff]
  exact or_comm

theorem LinkFree.snoc (h : LinkFree fs cur)
    (hname : ∀ t, fs.lookup (cur ++ [name]) ≠ some (.link t)) : LinkFree fs (cur ++ [name]) := by
  intro q hq hne t
  rcases prefix_snoc.mp hq with hq | rfl
  · exact h q hq hne t
  · exact hname t

theorem DirAt.snoc (h : DirAt fs cur) (hname : fs.lookup (cur ++ [name]) = some .dir) :
    DirAt fs (cur ++ [name]) := by
  intro q hq hne
  rcases prefix_snoc.mp hq with hq | rfl
  · exact h q hq hne
  · exact hname

theorem Canonical.snoc (h : Canonical cur) (hname : properName name = true) :
    Canonical (cur ++ [name]) := by
  intro x hx
  rcases List.mem_append.mp hx with hx | hx
  · exact h x hx
  · rw [List.mem_singleton.mp hx]
    exact hname

theorem properName_iff : properName name = true ↔ name ≠ "" ∧ name ≠ "." ∧ name ≠ ".." := by
  simp [properName, and_assoc]

/-- What `scan` does at a proper name. -/
theorem scan_cons_cases (strict : Bool) (fs : Fs) (cur : Path) (hname : properName name = true)
    (rest : List String) :
    (∃ t, fs.lookup (cur ++ [name]) = some (.link t) ∧
      scan strict fs cur (name :: rest) = .link cur t rest) ∨
    (scan strict fs cur (name :: rest) = .missing ∧ strict = true ∧
      fs.lookup (cur ++ [name]) ≠ some .dir) ∨
    (scan strict fs cur (name :: rest) = scan strict fs (cur ++ [name]) rest ∧
      (∀ t, fs.lookup (cur ++ [name]) ≠ some (.link t)) ∧
      (strict = true → rest ≠ [] → fs.lookup (cur ++ [name]) = some .dir)) := by
  obtain ⟨hne, hdot, hdots⟩ := properName_iff.mp hname
  rw [scan, if_neg (by simp [hne, hdot]), if_neg hdots]
  split
  · rename_i t hnode
    exact .inl ⟨t, hnode, rfl⟩
  · rename_i hnode
    exact .inr (.inr ⟨rfl, by simp [hnode], fun _ _ => hnode⟩)
  · rename_i hlink hdir
    split
    · rename_i hstrict
      simp only [Bool.and_eq_true] at hstrict
      exact .inr (.inl ⟨rfl, hstrict.1, hdir⟩)
    · rename_i hloose
      refine .inr (.inr ⟨rfl, hlink, fun hs hne => absurd ?_ hloose⟩)
      cases rest with
      | nil => exact absurd rfl hne
      | cons x xs => simp [hs]

theorem prefix_append_cons (cur : Path) (name : String) (rest : List String) :
    cur ++ [name] <+: cur ++ name :: rest := by
  rw [List.append_cons cur name rest]
  exact List.prefix_append _ _

theorem linkFree_head {rest : List String} (h : LinkFree fs (cur ++ name :: rest)) (t : String) :
    fs.lookup (cur ++ [name]) ≠ some (.link t) :=
  h _ (prefix_append_cons cur name rest) (by simp) t

/-- A path without links leads to itself. -/
theorem scan_of_linkFree (hcan : Canonical todo) (h : LinkFree fs (cur ++ todo)) :
    scan false fs cur todo = .arrived (cur ++ todo) := by
  induction todo generalizing cur with
  | nil => simp [scan]
  | cons name rest ih =>
      have hrest : Canonical rest := fun x hx => hcan x (List.mem_cons_of_mem _ hx)
      rcases scan_cons_cases false fs cur (hcan name List.mem_cons_self) rest with
        ⟨t, hlink, -⟩ | ⟨-, hstrict, -⟩ | ⟨hscan, -, -⟩
      · exact absurd hlink (linkFree_head h t)
      · cases hstrict
      · rw [List.append_cons] at h ⊢
        rw [hscan]
        exact ih hrest h

theorem realpath_of_linkFree (hcan : Canonical p) (h : LinkFree fs p) : realpath fs p = some p := by
  have hscan : scan false fs [] p = .arrived p := scan_of_linkFree hcan h
  unfold realpath maxLinks
  rw [walk, hscan]

/-- The path reached has no links and no `..`. -/
def Stop.Clean (fs : Fs) : Stop → Prop
  | .arrived q => LinkFree fs q ∧ Canonical q
  | .link q _ _ => LinkFree fs q ∧ Canonical q
  | .missing => True

theorem scan_clean (hcur : LinkFree fs cur) (hcan : Canonical cur) :
    (scan strict fs cur todo).Clean fs := by
  induction todo generalizing cur with
  | nil => exact ⟨hcur, hcan⟩
  | cons name rest ih =>
      by_cases hskip : name = "" ∨ name = "."
      · rw [scan, if_pos hskip]
        exact ih hcur hcan
      · by_cases hup : name = ".."
        · rw [scan, if_neg hskip, if_pos hup]
          exact ih (hcur.of_prefix (List.dropLast_prefix cur))
            fun x hx => hcan x ((List.dropLast_prefix cur).subset hx)
        · have hname : properName name = true :=
            properName_iff.mpr ⟨fun h => hskip (.inl h), fun h => hskip (.inr h), hup⟩
          rcases scan_cons_cases strict fs cur hname rest with
            ⟨t, -, hscan⟩ | ⟨hscan, -⟩ | ⟨hscan, hlink, -⟩
          · rw [hscan]
            exact ⟨hcur, hcan⟩
          · rw [hscan]
            trivial
          · rw [hscan]
            exact ih (hcur.snoc hlink) (hcan.snoc hname)

/-- What a resolution yields has no links. -/
theorem walk_clean {links : Nat} (hcur : LinkFree fs cur) (hcan : Canonical cur)
    (h : walk strict fs links cur todo = some q) : LinkFree fs q ∧ Canonical q := by
  induction links generalizing cur todo with
  | zero =>
      have hclean : (scan strict fs cur todo).Clean fs := scan_clean hcur hcan
      rw [walk] at h
      split at h
      · rename_i p hscan
        cases h
        rwa [hscan] at hclean
      · cases h
  | succ links ih =>
      have hclean : (scan strict fs cur todo).Clean fs := scan_clean hcur hcan
      rw [walk] at h
      split at h
      · rename_i p hscan
        cases h
        rwa [hscan] at hclean
      · cases h
      · rename_i cur' target rest hscan
        rw [hscan] at hclean
        split at h
        · exact ih (linkFree_nil fs) (fun _ hx => by cases hx) h
        · exact ih hclean.1 hclean.2 h

theorem realpath_clean {names : List String} (h : realpath fs names = some q) :
    LinkFree fs q ∧ Canonical q :=
  walk_clean (linkFree_nil fs) (fun _ hx => by cases hx) h

/-! ## Directories -/

/-- The kernel's resolution of a path without links. -/
theorem scan_strict_linkFree (hcan : Canonical todo) (h : LinkFree fs (cur ++ todo))
    (hcur : DirAt fs cur) :
    (scan true fs cur todo = .missing ∧ ¬ DirAt fs (cur ++ todo)) ∨
    (scan true fs cur todo = .arrived (cur ++ todo) ∧
      (DirAt fs (cur ++ todo) ↔ dirNode fs (cur ++ todo) = true)) := by
  induction todo generalizing cur with
  | nil =>
      refine .inr ⟨by simp [scan], ?_⟩
      rw [List.append_nil]
      refine ⟨fun hdir => ?_, fun _ => hcur⟩
      unfold dirNode
      cases hp : cur with
      | nil => rfl
      | cons x xs =>
          rw [← hp, hdir cur (List.prefix_refl cur) (by simp [hp])]
          simp
  | cons name rest ih =>
      have hrest : Canonical rest := fun x hx => hcan x (List.mem_cons_of_mem _ hx)
      rcases scan_cons_cases true fs cur (hcan name List.mem_cons_self) rest with
        ⟨t, hlink, -⟩ | ⟨hscan, -, hno⟩ | ⟨hscan, -, hdir⟩
      · exact absurd hlink (linkFree_head h t)
      · exact .inl ⟨hscan, fun hd => hno (hd _ (prefix_append_cons cur name rest) (by simp))⟩
      · rw [hscan]
        cases rest with
        | nil =>
            refine .inr ⟨by simp [scan], fun hd => ?_, fun hd => ?_⟩
            · simp [dirNode, hd _ (List.prefix_refl _) (by simp)]
            · exact hcur.snoc (by simpa [dirNode] using hd)
        | cons x xs =>
            have hnext : DirAt fs (cur ++ [name]) := hcur.snoc (hdir rfl (by simp))
            rw [List.append_cons cur name (x :: xs)] at h ⊢
            exact ih hrest h hnext

theorem isDir_iff (hcan : Canonical p) (h : LinkFree fs p) : isDir fs p = true ↔ DirAt fs p := by
  unfold isDir maxLinks
  rw [walk]
  have hcases := scan_strict_linkFree hcan h (dirAt_nil fs)
  rw [List.nil_append] at hcases
  rcases hcases with ⟨hscan, hno⟩ | ⟨hscan, hiff⟩
  · rw [hscan]
    refine ⟨fun hfalse => ?_, fun hd => absurd hd hno⟩
    cases hfalse
  · rw [hscan]
    exact hiff.symm

theorem walk_of_dirAt {links : Nat} (hcan : Canonical p) (h : DirAt fs p) :
    walk true fs links [] p = some p := by
  have hcases := scan_strict_linkFree hcan h.linkFree (dirAt_nil fs)
  rw [List.nil_append] at hcases
  rcases hcases with ⟨-, hno⟩ | ⟨hscan, -⟩
  · exact absurd h hno
  · cases links with
    | zero => rw [walk, hscan]
    | succ links => rw [walk, hscan]

theorem DirAt.isDir (hcan : Canonical p) (h : DirAt fs p) : isDir fs p = true :=
  (isDir_iff hcan h.linkFree).mpr h

/-- Nothing but new directories. -/
def AddsDirs (fs fs' : Fs) : Prop :=
  ∀ q, fs'.lookup q = fs.lookup q ∨ (fs.lookup q = none ∧ fs'.lookup q = some .dir)

theorem AddsDirs.refl (fs : Fs) : AddsDirs fs fs := fun _ => .inl rfl

theorem AddsDirs.trans {fs'' : Fs} (h : AddsDirs fs fs') (h' : AddsDirs fs' fs'') :
    AddsDirs fs fs'' := by
  intro q
  rcases h q with hq | ⟨hnone, hdir⟩
  · rcases h' q with hq' | ⟨hnone', hdir'⟩
    · exact .inl (hq'.trans hq)
    · exact .inr ⟨hq ▸ hnone', hdir'⟩
  · rcases h' q with hq' | ⟨hnone', -⟩
    · exact .inr ⟨hnone, hq'.trans hdir⟩
    · rw [hdir] at hnone'
      cases hnone'

theorem AddsDirs.dirAt (h : AddsDirs fs fs') (hp : DirAt fs p) : DirAt fs' p := by
  intro q hq hne
  have hdir := hp q hq hne
  rcases h q with hsame | ⟨hnone, -⟩
  · rw [hsame, hdir]
  · rw [hdir] at hnone
    cases hnone

theorem AddsDirs.linkFree (h : AddsDirs fs fs') (hp : LinkFree fs p) : LinkFree fs' p := by
  intro q hq hne t
  rcases h q with hsame | ⟨-, hdir⟩
  · rw [hsame]
    exact hp q hq hne t
  · rw [hdir]
    simp

theorem addsDirs_insert (hnone : fs.lookup p = none) : AddsDirs fs (fs.insert p .dir) := by
  intro q
  rw [Table.lookup_insert_eq]
  split
  · rename_i hq
    exact .inr ⟨hq ▸ hnone, rfl⟩
  · exact .inl rfl

theorem mkdirs_adds (fs : Fs) (cur : Path) (todo : List String) :
    AddsDirs fs (mkdirs fs cur todo).1 := by
  induction todo generalizing fs cur with
  | nil => exact AddsDirs.refl fs
  | cons name rest ih =>
      rw [mkdirs]
      split
      · rename_i hnone
        exact (addsDirs_insert hnone).trans (ih _ _)
      · exact ih _ _
      · exact AddsDirs.refl fs
      · split
        · split
          · exact ih _ _
          · exact AddsDirs.refl fs
        · exact AddsDirs.refl fs

theorem mkdirs_dirAt (hfree : LinkFree fs (cur ++ todo)) (hcur : DirAt fs cur)
    (h : (mkdirs fs cur todo).2 = true) : DirAt (mkdirs fs cur todo).1 (cur ++ todo) := by
  induction todo generalizing fs cur with
  | nil =>
      rw [List.append_nil]
      exact hcur
  | cons name rest ih =>
      have hlink := linkFree_head hfree
      rw [List.append_cons] at hfree ⊢
      rw [mkdirs] at h ⊢
      split at h
      · rename_i hnone
        have hadds := addsDirs_insert hnone
        refine ih (hadds.linkFree hfree) ((hadds.dirAt hcur).snoc ?_) h
        simp
      · rename_i hdir
        exact ih hfree (hcur.snoc hdir) h
      · cases h
      · rename_i t hnode
        exact absurd hnode (hlink t)

/-- Without links only the named path and what is above it can change. -/
theorem lookup_mkdirs (hfree : LinkFree fs (cur ++ todo)) (hq : ¬ q <+: cur ++ todo) :
    (mkdirs fs cur todo).1.lookup q = fs.lookup q := by
  induction todo generalizing fs cur with
  | nil => rfl
  | cons name rest ih =>
      have hlink := linkFree_head hfree
      have hne : q ≠ cur ++ [name] := by
        rintro rfl
        exact hq (prefix_append_cons cur name rest)
      rw [List.append_cons] at hfree hq
      rw [mkdirs]
      split
      · rename_i hnone
        rw [ih ((addsDirs_insert hnone).linkFree hfree) hq, AList.lookup_insert_ne hne]
      · exact ih hfree hq
      · rfl
      · rename_i t hnode
        exact absurd hnode (hlink t)

/-! ## Resolutions that agree -/

/-- The same links. -/
def SameLinks (fs fs' : Fs) : Prop :=
  ∀ p t, fs'.lookup p = some (.link t) ↔ fs.lookup p = some (.link t)

theorem AddsDirs.sameLinks (h : AddsDirs fs fs') : SameLinks fs fs' := by
  intro p t
  rcases h p with hp | ⟨hnone, hdir⟩
  · rw [hp]
  · rw [hnone, hdir]
    simp

theorem AddsDirs.none_of_none (h : AddsDirs fs fs') (hp : fs'.lookup p = none) :
    fs.lookup p = none := by
  rcases h p with hsame | ⟨hnone, -⟩
  · rw [← hsame, hp]
  · exact hnone

theorem AddsDirs.node_eq {node : Node} (h : AddsDirs fs fs') (hp : fs'.lookup p = some node)
    (hne : node ≠ .dir) : fs.lookup p = some node := by
  rcases h p with hsame | ⟨-, hdir⟩
  · rw [← hsame, hp]
  · rw [hdir] at hp
    exact absurd (Option.some.inj hp).symm hne

theorem AddsDirs.dirNode (h : AddsDirs fs fs') (hp : dirNode fs p = true) :
    dirNode fs' p = true := by
  unfold Posix.dirNode at hp ⊢
  rw [Bool.or_eq_true, beq_iff_eq] at hp ⊢
  refine hp.imp_right fun hdir => ?_
  rcases h p with hsame | ⟨hnone, -⟩
  · rw [hsame, hdir]
  · rw [hnone] at hdir
    cases hdir

theorem AddsDirs.erase (h : AddsDirs fs fs') (p : Path) : AddsDirs (fs.erase p) (fs'.erase p) := by
  intro q
  by_cases hq : q = p
  · rw [hq, AList.lookup_erase, AList.lookup_erase]
    exact .inl rfl
  · rw [AList.lookup_erase_ne hq, AList.lookup_erase_ne hq]
    exact h q

theorem scan_improper (hname : properName name = false) (cur : Path) :
    ∃ cur', ∀ strict fs rest, scan strict fs cur (name :: rest) = scan strict fs cur' rest := by
  by_cases hskip : name = "" ∨ name = "."
  · exact ⟨cur, fun strict fs rest => by rw [scan, if_pos hskip]⟩
  · have hup : name = ".." := by
      by_contra hup
      rw [properName_iff.mpr ⟨fun h => hskip (.inl h), fun h => hskip (.inr h), hup⟩] at hname
      cases hname
    exact ⟨cur.dropLast, fun strict fs rest => by rw [scan, if_neg hskip, if_pos hup]⟩

theorem scan_link {t : String} (hname : properName name = true)
    (hlink : fs.lookup (cur ++ [name]) = some (.link t)) (rest : List String) :
    scan strict fs cur (name :: rest) = .link cur t rest := by
  obtain ⟨hne, hdot, hup⟩ := properName_iff.mp hname
  rw [scan, if_neg (not_or.mpr ⟨hne, hdot⟩), if_neg hup, hlink]

/-- At a proper name that is no link. -/
theorem scan_next {rest : List String} (hname : properName name = true)
    (hlink : ∀ t, fs.lookup (cur ++ [name]) ≠ some (.link t))
    (hdir : strict = true → rest ≠ [] → fs.lookup (cur ++ [name]) = some .dir) :
    scan strict fs cur (name :: rest) = scan strict fs (cur ++ [name]) rest := by
  obtain ⟨hne, hdot, hup⟩ := properName_iff.mp hname
  rw [scan, if_neg (not_or.mpr ⟨hne, hdot⟩), if_neg hup]
  split
  next t hnode => exact absurd hnode (hlink t)
  · rfl
  next hno =>
    rw [if_neg]
    intro hcond
    rw [Bool.and_eq_true, Bool.not_eq_true', List.isEmpty_eq_false_iff] at hcond
    exact hno (hdir hcond.1 hcond.2)

theorem scan_false_next (hname : properName name = true)
    (hlink : ∀ t, fs.lookup (cur ++ [name]) ≠ some (.link t)) (rest : List String) :
    scan false fs cur (name :: rest) = scan false fs (cur ++ [name]) rest :=
  scan_next hname hlink nofun

/-- Where a proper name that is no link is no directory, the kernel goes on at the end only. -/
theorem scan_blocked {rest : List String} (hname : properName name = true)
    (hlink : ∀ t, fs.lookup (cur ++ [name]) ≠ some (.link t))
    (hdir : fs.lookup (cur ++ [name]) ≠ some .dir) (hrest : rest ≠ []) :
    scan true fs cur (name :: rest) = .missing := by
  obtain ⟨hne, hdot, hup⟩ := properName_iff.mp hname
  rw [scan, if_neg (not_or.mpr ⟨hne, hdot⟩), if_neg hup]
  split
  next t hnode => exact absurd hnode (hlink t)
  next hnode => exact absurd hnode hdir
  · rw [if_pos]
    rw [Bool.and_eq_true, Bool.not_eq_true', List.isEmpty_eq_false_iff]
    exact ⟨rfl, hrest⟩

/-- The three ways on at a proper name, for the kernel. -/
theorem scan_true_cases (fs : Fs) (cur : Path) (name : String) (rest : List String) :
    (∃ t, fs.lookup (cur ++ [name]) = some (.link t)) ∨
    ((∀ t, fs.lookup (cur ++ [name]) ≠ some (.link t)) ∧
      fs.lookup (cur ++ [name]) ≠ some .dir ∧ rest ≠ []) ∨
    ((∀ t, fs.lookup (cur ++ [name]) ≠ some (.link t)) ∧
      (rest ≠ [] → fs.lookup (cur ++ [name]) = some .dir)) := by
  by_cases hlink : ∃ t, fs.lookup (cur ++ [name]) = some (.link t)
  · exact .inl hlink
  · rw [not_exists] at hlink
    by_cases hdir : rest ≠ [] → fs.lookup (cur ++ [name]) = some .dir
    · exact .inr (.inr ⟨hlink, hdir⟩)
    · rw [Classical.not_imp] at hdir
      exact .inr (.inl ⟨hlink, hdir.2, hdir.1⟩)

/-- `realpath` depends on the links only. -/
theorem scan_sameLinks (h : SameLinks fs fs') (cur : Path) (todo : List String) :
    scan false fs' cur todo = scan false fs cur todo := by
  induction todo generalizing cur with
  | nil => rfl
  | cons name rest ih =>
      cases hname : properName name with
      | false =>
          obtain ⟨cur', hscan⟩ := scan_improper hname cur
          rw [hscan, hscan]
          exact ih cur'
      | true =>
          by_cases hlink : ∃ t, fs.lookup (cur ++ [name]) = some (.link t)
          · obtain ⟨t, hlink⟩ := hlink
            rw [scan_link hname hlink, scan_link hname ((h _ t).mpr hlink)]
          · rw [not_exists] at hlink
            rw [scan_false_next hname hlink,
              scan_false_next hname fun t ht => hlink t ((h _ t).mp ht)]
            exact ih _

theorem walk_sameLinks (h : SameLinks fs fs') (links : Nat) (cur : Path) (todo : List String) :
    walk false fs' links cur todo = walk false fs links cur todo := by
  induction links generalizing cur todo with
  | zero => rw [walk, walk, scan_sameLinks h]
  | succ links ih =>
      rw [walk, walk, scan_sameLinks h]
      cases scan false fs cur todo with
      | arrived p => rfl
      | missing => rfl
      | link p target rest => exact ih _ _

/-- A resolution of the kernel that follows another wherever it gets on. -/
theorem walk_of_scan {strict : Bool}
    (hscan : ∀ cur todo, scan true fs cur todo = .missing ∨
      scan strict fs' cur todo = scan true fs cur todo)
    {links : Nat} (h : walk true fs links cur todo = some q) :
    walk strict fs' links cur todo = some q := by
  induction links generalizing cur todo with
  | zero =>
      rcases hscan cur todo with hmissing | heq
      · rw [walk, hmissing] at h
        cases h
      · rw [walk, heq]
        rwa [walk] at h
  | succ links ih =>
      rcases hscan cur todo with hmissing | heq
      · rw [walk, hmissing] at h
        cases h
      · rw [walk] at h ⊢
        rw [heq]
        cases hstop : scan true fs cur todo with
        | arrived p =>
            rw [hstop] at h
            exact h
        | missing =>
            rw [hstop] at h
            cases h
        | link p target rest =>
            rw [hstop] at h
            exact ih h

/-- What the kernel resolves, `realpath` resolves to the same. -/
theorem walk_loose {links : Nat} (h : walk true fs links cur todo = some q) :
    walk false fs links cur todo = some q := by
  refine walk_of_scan (fun cur todo => ?_) h
  induction todo generalizing cur with
  | nil => exact .inr rfl
  | cons name rest ih =>
      cases hname : properName name with
      | false =>
          obtain ⟨cur', hscan⟩ := scan_improper hname cur
          rw [hscan, hscan]
          exact ih cur'
      | true =>
          rcases scan_true_cases fs cur name rest with
            ⟨t, hlink⟩ | ⟨hlink, hdir, hrest⟩ | ⟨hlink, hdir⟩
          · rw [scan_link hname hlink, scan_link hname hlink]
            exact .inr rfl
          · exact .inl (scan_blocked hname hlink hdir hrest)
          · rw [scan_next hname hlink fun _ => hdir, scan_false_next hname hlink]
            exact ih _

/-- New directories do not change what the kernel has resolved. -/
theorem AddsDirs.walk_some (h : AddsDirs fs fs') {links : Nat}
    (hwalk : walk true fs links cur todo = some q) : walk true fs' links cur todo = some q := by
  refine walk_of_scan (fun cur todo => ?_) hwalk
  induction todo generalizing cur with
  | nil => exact .inr rfl
  | cons name rest ih =>
      cases hname : properName name with
      | false =>
          obtain ⟨cur', hscan⟩ := scan_improper hname cur
          rw [hscan, hscan]
          exact ih cur'
      | true =>
          rcases scan_true_cases fs cur name rest with
            ⟨t, hlink⟩ | ⟨hlink, hdir, hrest⟩ | ⟨hlink, hdir⟩
          · rw [scan_link hname hlink, scan_link hname ((h.sameLinks _ t).mpr hlink)]
            exact .inr rfl
          · exact .inl (scan_blocked hname hlink hdir hrest)
          · have hlink' : ∀ t, fs'.lookup (cur ++ [name]) ≠ some (.link t) :=
              fun t ht => hlink t ((h.sameLinks _ t).mp ht)
            have hdir' : rest ≠ [] → fs'.lookup (cur ++ [name]) = some .dir := by
              intro hrest
              rcases h (cur ++ [name]) with hsame | ⟨hnone, -⟩
              · rw [hsame, hdir hrest]
              · rw [hdir hrest] at hnone
                cases hnone
            rw [scan_next hname hlink fun _ => hdir, scan_next hname hlink' fun _ => hdir']
            exact ih _

/-- Without an entry the kernel resolves less, and nothing else, unless it arrives at the entry
itself. -/
theorem scan_erase (fs : Fs) (p cur : Path) (todo : List String) :
    scan true (fs.erase p) cur todo = .missing ∨ scan true (fs.erase p) cur todo = .arrived p ∨
      scan true fs cur todo = scan true (fs.erase p) cur todo := by
  induction todo generalizing cur with
  | nil => exact .inr (.inr rfl)
  | cons name rest ih =>
      cases hname : properName name with
      | false =>
          obtain ⟨cur', hscan⟩ := scan_improper hname cur
          rw [hscan, hscan]
          exact ih cur'
      | true =>
          by_cases hcur : cur ++ [name] = p
          · have hnone : (fs.erase p).lookup (cur ++ [name]) = none := by
              rw [hcur]
              exact AList.lookup_erase p fs
            by_cases hrest : rest = []
            · rw [hrest, scan_next hname (by rw [hnone]; nofun) fun _ hne => absurd rfl hne, hcur]
              exact .inr (.inl rfl)
            · exact .inl (scan_blocked hname (by rw [hnone]; nofun) (by rw [hnone]; nofun) hrest)
          · have hsame : (fs.erase p).lookup (cur ++ [name]) = fs.lookup (cur ++ [name]) :=
              AList.lookup_erase_ne hcur
            rcases scan_true_cases fs cur name rest with
              ⟨t, hlink⟩ | ⟨hlink, hdir, hrest⟩ | ⟨hlink, hdir⟩
            · rw [scan_link hname hlink, scan_link hname (hsame.trans hlink)]
              exact .inr (.inr rfl)
            · exact .inl (scan_blocked hname (by rwa [hsame]) (by rwa [hsame]) hrest)
            · rw [scan_next hname hlink fun _ => hdir,
                scan_next hname (by rwa [hsame]) fun _ => by rwa [hsame]]
              exact ih _

theorem walk_erase {links : Nat} (h : walk true (fs.erase p) links cur todo = some q) :
    q = p ∨ walk true fs links cur todo = some q := by
  induction links generalizing cur todo with
  | zero =>
      rw [walk] at h ⊢
      rcases scan_erase fs p cur todo with hmissing | harrived | heq
      · rw [hmissing] at h
        cases h
      · rw [harrived] at h
        exact .inl (Option.some.inj h).symm
      · rw [heq]
        exact .inr h
  | succ links ih =>
      rw [walk] at h ⊢
      rcases scan_erase fs p cur todo with hmissing | harrived | heq
      · rw [hmissing] at h
        cases h
      · rw [harrived] at h
        exact .inl (Option.some.inj h).symm
      · rw [heq]
        cases hstop : scan true (fs.erase p) cur todo with
        | arrived r =>
            rw [hstop] at h
            exact .inr h
        | missing =>
            rw [hstop] at h
            cases h
        | link r target rest =>
            rw [hstop] at h
            exact ih h

/-! ## Changes below a directory -/

theorem lookup_edit_of_ne (fs : Fs) {n : Option Node} (h : q ≠ p) :
    (edit fs p n).lookup q = fs.lookup q := by
  cases n with
  | some node => exact AList.lookup_insert_ne h
  | none => exact AList.lookup_erase_ne h

theorem lookup_editBelow_of_ne (fs : Fs) (changes : List (Path × Option Node))
    (h : ∀ c ∈ changes, c.1 ≠ [] → q ≠ p ++ c.1) :
    (editBelow p fs changes).lookup q = fs.lookup q := by
  induction changes generalizing fs with
  | nil => rfl
  | cons c changes ih =>
      refine (ih _ fun c' hc' => h c' (List.mem_cons_of_mem _ hc')).trans ?_
      show (if c.1 = [] then fs else edit fs (p ++ c.1) c.2).lookup q = fs.lookup q
      by_cases hne : c.1 = []
      · rw [if_pos hne]
      · rw [if_neg hne]
        exact lookup_edit_of_ne fs (h c List.mem_cons_self hne)

theorem lookup_editBelow (fs : Fs) (changes : List (Path × Option Node))
    (h : p <+: q → q = p) : (editBelow p fs changes).lookup q = fs.lookup q := by
  refine lookup_editBelow_of_ne fs changes fun c _ hne => ?_
  rintro rfl
  have hnil := h (List.prefix_append p c.1)
  exact hne (List.self_eq_append_right.mp hnil.symm)

theorem DirAt.editBelow (changes : List (Path × Option Node)) (h : DirAt fs p) :
    DirAt (editBelow p fs changes) p := by
  intro q hq hne
  rw [lookup_editBelow fs changes fun hp => hq.eq_of_length_le hp.length_le]
  exact h q hq hne

end Posix
