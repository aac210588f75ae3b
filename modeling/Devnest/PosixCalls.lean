import Devnest.PosixFs

/-!
# System calls and the paths they touch

A disk is a file system with the record of the paths that calls have created,
overwritten or hard-linked. `mkdir`, `symlink`, `link` and `unlink` act on the
entry of the last name; `open` for writing follows a link there as everywhere
else. Paths are relative to a directory `base`.

A path that meets no link leads where its names say (`walk_of_plain`). Every
call records what it changes (`Records`), and `EntryIn` and `OpensIn` bound the
record by where the paths lead in a tree that has only directories less.
-/

namespace Posix

structure Disk where
  fs : Fs
  touched : List Path := []

/-- `EEXIST`, or any other error of the system. -/
inductive Errno where
  | exist
  | other
  deriving DecidableEq, Repr

def Disk.put (d : Disk) (p : Path) (node : Node) : Disk :=
  { fs := d.fs.insert p node, touched := p :: d.touched }

/-! ## Calls -/

section Calls

variable (base : Path) (names : List String) (d : Disk)

/-- The directory of the last name, with that name. -/
def entry : Option (Path × String) :=
  match names.getLast? with
  | none => none
  | some last =>
      match walk true d.fs maxLinks base names.dropLast with
      | none => none
      | some p => if dirNode d.fs p then some (p, last) else none

/-- `os.path.exists`. -/
def pathExists : Bool :=
  (walk true d.fs maxLinks base names).any fun p => p.isEmpty || (d.fs.lookup p).isSome

/-- A new entry; nothing is made where one is. -/
def createEntry (node : Node) : Disk × Option Errno :=
  match entry base names d with
  | none => (d, some .other)
  | some (p, last) =>
      if !properName last then (d, some .exist)
      else match d.fs.lookup (p ++ [last]) with
        | some _ => (d, some .exist)
        | none => (d.put (p ++ [last]) node, none)

/-- `os.mkdir`. -/
def mkdir : Disk × Option Errno := createEntry base names d .dir

/-- `os.symlink`. -/
def symlink (target : String) : Disk × Option Errno :=
  if target = "" then (d, some .other) else createEntry base names d (.link target)

/-- `os.path.lexists`. -/
def entryExists : Bool :=
  match entry base names d with
  | none => false
  | some (p, last) => !properName last || (d.fs.lookup (p ++ [last])).isSome

/-- `os.unlink`. -/
def unlink : Disk × Option Errno :=
  match entry base names d with
  | none => (d, some .other)
  | some (p, last) =>
      if !properName last then (d, some .other)
      else match d.fs.lookup (p ++ [last]) with
        | none | some .dir => (d, some .other)
        | some _ =>
            ({ fs := d.fs.erase (p ++ [last]), touched := (p ++ [last]) :: d.touched }, none)

/-- `open(path, "wb")` and the data written, which follows a link at the last name, and makes its
target. -/
def openWrite (data : String) : Disk × Option Errno :=
  match walk true d.fs maxLinks base names with
  | none => (d, some .other)
  | some p =>
      if p.isEmpty then (d, some .other)
      else match d.fs.lookup p with
        | some .dir | some (.link _) => (d, some .other)
        | some (.file _) | none => (d.put p (.file data), none)

/-- `os.link`: the source's last name is not followed, and both paths are touched. -/
def link (sourceBase : Path) (source : List String) : Disk × Option Errno :=
  match entry sourceBase source d with
  | none => (d, some .other)
  | some (q, last) =>
      if !properName last then (d, some .other)
      else match d.fs.lookup (q ++ [last]) with
        | none | some .dir => (d, some .other)
        | some node =>
            match createEntry base names d node with
            | (d', none) => ({ d' with touched := (q ++ [last]) :: d'.touched }, none)
            | (d', some e) => (d', some e)

end Calls

/-- `os.makedirs(path)`, on the names in reverse: the directories above first, then `mkdir`. -/
def makedirs (base : Path) : List String → Disk → Disk × Option Errno
  | [], d => (d, none)
  | last :: above, d =>
      if pathExists base above.reverse d then mkdir base (above.reverse ++ [last]) d
      else match makedirs base above d with
        | (d', some .other) => (d', some .other)
        | (d', _) => if last = "." then (d', none) else mkdir base (above.reverse ++ [last]) d'

/-! ## Plain paths -/

/-- The names that count, where `..` does not. -/
def proper (names : List String) : Path := names.filter properName

/-- No `..`, and no link on the way. -/
structure Plain (fs : Fs) (base : Path) (names : List String) : Prop where
  down : ∀ name ∈ names, name ≠ ".."
  free : LinkFree fs (base ++ proper names)

variable {fs : Fs} {base p : Path} {names : List String} {d d' d'' : Disk}

@[simp] theorem proper_nil : proper [] = [] := rfl

theorem proper_append (l l' : List String) : proper (l ++ l') = proper l ++ proper l' :=
  List.filter_append ..

/-- A plain path leads where its names say, or nowhere. -/
theorem scan_of_plain {strict : Bool} {cur : Path} {todo : List String}
    (hnames : ∀ name ∈ todo, name ≠ "..") (hfree : LinkFree fs (cur ++ proper todo)) :
    scan strict fs cur todo = .missing ∨
      scan strict fs cur todo = .arrived (cur ++ proper todo) := by
  induction todo generalizing cur with
  | nil =>
      right
      simp [scan]
  | cons name rest ih =>
      have hup : name ≠ ".." := hnames name List.mem_cons_self
      have hrest : ∀ x ∈ rest, x ≠ ".." := fun x hx => hnames x (List.mem_cons_of_mem _ hx)
      by_cases hskip : name = "" ∨ name = "."
      · have hno : properName name = false := by
          rcases hskip with rfl | rfl <;> rfl
        have hproper : proper (name :: rest) = proper rest := by simp [proper, hno]
        rw [scan, if_pos hskip, hproper]
        rw [hproper] at hfree
        exact ih hrest hfree
      · have hname : properName name = true :=
          properName_iff.mpr ⟨fun h => hskip (.inl h), fun h => hskip (.inr h), hup⟩
        have hproper : proper (name :: rest) = name :: proper rest := by simp [proper, hname]
        rw [hproper] at hfree ⊢
        rcases scan_cons_cases strict fs cur hname rest with
          ⟨t, hlink, -⟩ | ⟨hscan, -⟩ | ⟨hscan, -, -⟩
        · exact absurd hlink (linkFree_head hfree t)
        · exact .inl hscan
        · rw [List.append_cons cur name (proper rest)] at hfree ⊢
          rw [hscan]
          exact ih hrest hfree

theorem walk_of_plain (h : Plain fs base names) {q : Path}
    (hwalk : walk true fs maxLinks base names = some q) : q = base ++ proper names := by
  unfold maxLinks at hwalk
  rw [walk] at hwalk
  rcases scan_of_plain h.down h.free with hscan | hscan
  · rw [hscan] at hwalk
    cases hwalk
  · rw [hscan] at hwalk
    exact (Option.some.inj hwalk).symm

/-! ## What a call does -/

theorem entry_eq_some {x : String} :
    entry base names d = some (p, x) ↔
      ∃ l, names = l ++ [x] ∧ walk true d.fs maxLinks base l = some p ∧ dirNode d.fs p = true := by
  unfold entry
  constructor
  · intro he
    split at he
    · cases he
    next last hlast =>
      split at he
      · cases he
      next q hwalk =>
        split at he
        next hdir =>
          obtain ⟨rfl, rfl⟩ := Prod.mk.inj (Option.some.inj he)
          exact ⟨names.dropLast, (List.dropLast_append_getLast? _ hlast).symm, hwalk, hdir⟩
        · cases he
  · rintro ⟨l, rfl, hwalk, hdir⟩
    rw [List.getLast?_concat, List.dropLast_concat]
    dsimp only
    rw [hwalk]
    exact if_pos hdir

/-- It fails and changes nothing, or puts the node where nothing was. -/
theorem createEntry_cases (base : Path) (names : List String) (d : Disk) (node : Node) :
    (∃ e, createEntry base names d node = (d, some e)) ∨
      ∃ p x, entry base names d = some (p, x) ∧ properName x = true ∧
        d.fs.lookup (p ++ [x]) = none ∧
        createEntry base names d node = (d.put (p ++ [x]) node, none) := by
  unfold createEntry
  cases he : entry base names d with
  | none => exact .inl ⟨.other, rfl⟩
  | some px =>
      obtain ⟨p, x⟩ := px
      dsimp only
      cases hx : properName x with
      | false => exact .inl ⟨.exist, rfl⟩
      | true =>
          cases hnode : d.fs.lookup (p ++ [x]) with
          | none => exact .inr ⟨p, x, rfl, hx, hnode, rfl⟩
          | some node' => exact .inl ⟨.exist, rfl⟩

theorem symlink_eq (base : Path) (names : List String) (d : Disk) (target : String) :
    symlink base names d target = (d, some .other) ∨
      symlink base names d target = createEntry base names d (.link target) := by
  unfold symlink
  split
  · exact .inl rfl
  · exact .inr rfl

/-- It fails, as there is nothing but perhaps a directory, or removes the entry. -/
theorem unlink_cases (base : Path) (names : List String) (d : Disk) :
    (∃ e, unlink base names d = (d, some e) ∧
        ∀ p x, entry base names d = some (p, x) → properName x = true →
          d.fs.lookup (p ++ [x]) = none ∨ d.fs.lookup (p ++ [x]) = some .dir) ∨
      ∃ p x node, entry base names d = some (p, x) ∧ properName x = true ∧
        d.fs.lookup (p ++ [x]) = some node ∧ node ≠ .dir ∧
        unlink base names d =
          ({ fs := d.fs.erase (p ++ [x]), touched := (p ++ [x]) :: d.touched }, none) := by
  unfold unlink
  cases he : entry base names d with
  | none => exact .inl ⟨.other, rfl, nofun⟩
  | some px =>
      obtain ⟨p, x⟩ := px
      dsimp only
      cases hx : properName x with
      | false =>
          refine .inl ⟨.other, rfl, fun p' x' he' hx' => ?_⟩
          obtain ⟨rfl, rfl⟩ := Prod.mk.inj (Option.some.inj he')
          rw [hx] at hx'
          cases hx'
      | true =>
          have hhere : ∀ n, d.fs.lookup (p ++ [x]) = n → (n = none ∨ n = some .dir) →
              ∀ p' x', some (p, x) = some (p', x') → properName x' = true →
                d.fs.lookup (p' ++ [x']) = none ∨ d.fs.lookup (p' ++ [x']) = some .dir := by
            intro n hn hno p' x' he' _
            obtain ⟨rfl, rfl⟩ := Prod.mk.inj (Option.some.inj he')
            rwa [hn]
          cases hnode : d.fs.lookup (p ++ [x]) with
          | none => exact .inl ⟨.other, rfl, hhere _ hnode (.inl rfl)⟩
          | some node =>
              cases node with
              | dir => exact .inl ⟨.other, rfl, hhere _ hnode (.inr rfl)⟩
              | file data => exact .inr ⟨p, x, _, rfl, hx, hnode, nofun, rfl⟩
              | link target => exact .inr ⟨p, x, _, rfl, hx, hnode, nofun, rfl⟩

theorem openWrite_cases (base : Path) (names : List String) (d : Disk) (data : String) :
    (∃ e, openWrite base names d data = (d, some e)) ∨
      ∃ p, walk true d.fs maxLinks base names = some p ∧ dirNode d.fs p = false ∧
        openWrite base names d data = (d.put p (.file data), none) := by
  unfold openWrite
  cases hwalk : walk true d.fs maxLinks base names with
  | none => exact .inl ⟨.other, rfl⟩
  | some p =>
      dsimp only
      cases hroot : p.isEmpty with
      | true => exact .inl ⟨.other, rfl⟩
      | false =>
          cases hnode : d.fs.lookup p with
          | none => exact .inr ⟨p, rfl, by simp [dirNode, hroot, hnode], rfl⟩
          | some node =>
              cases node with
              | dir => exact .inl ⟨.other, rfl⟩
              | link target => exact .inl ⟨.other, rfl⟩
              | file old => exact .inr ⟨p, rfl, by simp [dirNode, hroot, hnode], rfl⟩

theorem link_cases (base : Path) (names : List String) (d : Disk) (sourceBase : Path)
    (source : List String) :
    (∃ e, link base names d sourceBase source = (d, some e)) ∨
      ∃ q y node p x, entry sourceBase source d = some (q, y) ∧ properName y = true ∧
        d.fs.lookup (q ++ [y]) = some node ∧ node ≠ .dir ∧
        entry base names d = some (p, x) ∧ properName x = true ∧
        d.fs.lookup (p ++ [x]) = none ∧
        link base names d sourceBase source =
          ({ fs := (d.put (p ++ [x]) node).fs,
             touched := (q ++ [y]) :: (p ++ [x]) :: d.touched }, none) := by
  unfold link
  cases he : entry sourceBase source d with
  | none => exact .inl ⟨.other, rfl⟩
  | some qy =>
      obtain ⟨q, y⟩ := qy
      dsimp only
      cases hy : properName y with
      | false => exact .inl ⟨.other, rfl⟩
      | true =>
          rw [if_neg (by simp)]
          split
          · exact .inl ⟨.other, rfl⟩
          · exact .inl ⟨.other, rfl⟩
          next node hno hnode =>
            rcases createEntry_cases base names d node with
              ⟨e, hfail⟩ | ⟨p, x, hp, hx, hnone, hmade⟩
            · rw [hfail]
              exact .inl ⟨e, rfl⟩
            · rw [hmade]
              exact .inr ⟨q, y, node, p, x, rfl, hy, hnode, hno, hp, hx, hnone, rfl⟩

/-- A call records what it changes. -/
structure Records (d d' : Disk) : Prop where
  keeps : ∀ p ∈ d.touched, p ∈ d'.touched
  changes : ∀ p, p ∉ d'.touched → d'.fs.lookup p = d.fs.lookup p

theorem Records.refl (d : Disk) : Records d d := ⟨fun _ h => h, fun _ _ => rfl⟩

theorem Records.trans (h : Records d d') (h' : Records d' d'') : Records d d'' :=
  ⟨fun p hp => h'.keeps p (h.keeps p hp),
    fun p hp => (h'.changes p hp).trans (h.changes p fun hp' => hp (h'.keeps p hp'))⟩

theorem records_put (d : Disk) (p : Path) (node : Node) : Records d (d.put p node) :=
  ⟨fun _ h => List.mem_cons_of_mem p h,
    fun _ hq => AList.lookup_insert_ne (List.ne_of_not_mem_cons hq)⟩

theorem records_createEntry (base : Path) (names : List String) (d : Disk) (node : Node) :
    Records d (createEntry base names d node).1 := by
  rcases createEntry_cases base names d node with ⟨e, heq⟩ | ⟨p, x, -, -, -, heq⟩
  · rw [heq]
    exact .refl d
  · rw [heq]
    exact records_put d _ node

theorem records_unlink (base : Path) (names : List String) (d : Disk) :
    Records d (unlink base names d).1 := by
  rcases unlink_cases base names d with ⟨e, heq, -⟩ | ⟨p, x, node, -, -, -, -, heq⟩
  · rw [heq]
    exact .refl d
  · rw [heq]
    exact ⟨fun _ h => List.mem_cons_of_mem _ h,
      fun _ hq => AList.lookup_erase_ne (List.ne_of_not_mem_cons hq)⟩

theorem records_openWrite (base : Path) (names : List String) (d : Disk) (data : String) :
    Records d (openWrite base names d data).1 := by
  rcases openWrite_cases base names d data with ⟨e, heq⟩ | ⟨p, -, -, heq⟩
  · rw [heq]
    exact .refl d
  · rw [heq]
    exact records_put d p _

theorem records_link (base : Path) (names : List String) (d : Disk) (sourceBase : Path)
    (source : List String) : Records d (link base names d sourceBase source).1 := by
  rcases link_cases base names d sourceBase source with
    ⟨e, heq⟩ | ⟨q, y, node, p, x, -, -, -, -, -, -, -, heq⟩
  · rw [heq]
    exact .refl d
  · rw [heq]
    have hput := records_put d (p ++ [x]) node
    exact ⟨fun r h => List.mem_cons_of_mem _ (hput.keeps r h),
      fun r hr => hput.changes r fun h => hr (List.mem_cons_of_mem _ h)⟩

/-! ## Calls that stay in a set of paths -/

/-- What is new in the record lies in the set. -/
def TouchesIn (I : Path → Prop) (d d' : Disk) : Prop := ∀ p ∈ d'.touched, p ∈ d.touched ∨ I p

/-- The entry a path names, as `realpath` finds it, lies in the set, unless what is there rules the
call out. -/
def EntryIn (I : Path → Prop) (P : Option Node → Prop) (fs : Fs) (base : Path)
    (names : List String) : Prop :=
  ∀ l x p, names = l ++ [x] → properName x = true → walk false fs maxLinks base l = some p →
    P (fs.lookup (p ++ [x])) → I (p ++ [x])

/-- The file a path leads to lies in the set. -/
def OpensIn (I : Path → Prop) (fs : Fs) (base : Path) (names : List String) : Prop :=
  ∀ p, walk false fs maxLinks base names = some p → dirNode fs p = false → I p

variable {I : Path → Prop} {x : String}

theorem TouchesIn.refl (I : Path → Prop) (d : Disk) : TouchesIn I d d := fun _ h => .inl h

theorem TouchesIn.trans (h : TouchesIn I d d') (h' : TouchesIn I d' d'') : TouchesIn I d d'' :=
  fun p hp => (h' p hp).elim (h p) .inr

theorem touchesIn_put (node : Node) (hp : I p) : TouchesIn I d (d.put p node) := by
  intro q hq
  rcases List.mem_cons.mp hq with rfl | hq
  · exact .inr hp
  · exact .inl hq

/-- An entry is where `realpath` finds it in a tree that has only directories less. -/
theorem entry_loose (h : AddsDirs fs d.fs) (he : entry base names d = some (p, x)) :
    ∃ l, names = l ++ [x] ∧ walk false fs maxLinks base l = some p := by
  obtain ⟨l, hnames, hwalk, -⟩ := entry_eq_some.mp he
  exact ⟨l, hnames, (walk_sameLinks h.sameLinks _ _ _).symm.trans (walk_loose hwalk)⟩

theorem entry_adds (h : AddsDirs fs d.fs) (he : entry base names { fs } = some (p, x)) :
    entry base names d = some (p, x) := by
  obtain ⟨l, hnames, hwalk, hdir⟩ := entry_eq_some.mp he
  exact entry_eq_some.mpr ⟨l, hnames, h.walk_some hwalk, h.dirNode hdir⟩

theorem createEntry_in {node : Node} (hin : EntryIn I (· = none) fs base names)
    (h : AddsDirs fs d.fs) : TouchesIn I d (createEntry base names d node).1 := by
  rcases createEntry_cases base names d node with ⟨e, heq⟩ | ⟨p, x, he, hx, hnone, heq⟩
  · rw [heq]
    exact .refl I d
  · obtain ⟨l, hnames, hwalk⟩ := entry_loose h he
    rw [heq]
    exact touchesIn_put _ (hin l x p hnames hx hwalk (h.none_of_none hnone))

theorem mkdir_in (hin : EntryIn I (· = none) fs base names) (h : AddsDirs fs d.fs) :
    TouchesIn I d (mkdir base names d).1 ∧ AddsDirs fs (mkdir base names d).1.fs := by
  refine ⟨createEntry_in hin h, h.trans ?_⟩
  unfold mkdir
  rcases createEntry_cases base names d .dir with ⟨e, heq⟩ | ⟨p, x, -, -, hnone, heq⟩
  · rw [heq]
    exact .refl _
  · rw [heq]
    exact addsDirs_insert hnone

theorem makedirs_in {above : List String}
    (hin : ∀ pre, pre <+: above.reverse → EntryIn I (· = none) fs base pre)
    (h : AddsDirs fs d.fs) :
    TouchesIn I d (makedirs base above d).1 ∧ AddsDirs fs (makedirs base above d).1.fs := by
  induction above generalizing d with
  | nil => exact ⟨.refl I d, h⟩
  | cons last above ih =>
      rw [List.reverse_cons] at hin
      have hlast := hin _ (List.prefix_refl _)
      rw [makedirs]
      split
      · exact mkdir_in hlast h
      · obtain ⟨hup, hadds⟩ := ih (fun pre hp => hin pre (hp.trans (List.prefix_append _ _))) h
        split
        next d' hd =>
          rw [hd] at hup hadds
          exact ⟨hup, hadds⟩
        next d' e _ hd =>
          rw [hd] at hup hadds
          split
          · exact ⟨hup, hadds⟩
          · obtain ⟨hmade, hadds'⟩ := mkdir_in hlast hadds
            exact ⟨hup.trans hmade, hadds'⟩

theorem openWrite_in {data : String} (hin : OpensIn I fs base names) (h : AddsDirs fs d.fs) :
    TouchesIn I d (openWrite base names d data).1 := by
  rcases openWrite_cases base names d data with ⟨e, heq⟩ | ⟨p, hwalk, hdir, heq⟩
  · rw [heq]
    exact .refl I d
  · rw [heq]
    refine touchesIn_put _ (hin p ?_ ?_)
    · exact (walk_sameLinks h.sameLinks _ _ _).symm.trans (walk_loose hwalk)
    · rw [← Bool.not_eq_true] at hdir ⊢
      exact fun hp => hdir (h.dirNode hp)

theorem link_in {sourceBase : Path} {source : List String}
    (hin : EntryIn I (· = none) fs base names)
    (hsource : EntryIn I (fun n => n ≠ none ∧ n ≠ some .dir) fs sourceBase source)
    (h : AddsDirs fs d.fs) : TouchesIn I d (link base names d sourceBase source).1 := by
  rcases link_cases base names d sourceBase source with
    ⟨e, heq⟩ | ⟨q, y, node, p, x, hs, hy, hnode, hne, he, hx, hnone, heq⟩
  · rw [heq]
    exact .refl I d
  · obtain ⟨l, hnames, hwalk⟩ := entry_loose h he
    obtain ⟨l', hnames', hwalk'⟩ := entry_loose h hs
    have hq : I (q ++ [y]) := by
      refine hsource l' y q hnames' hy hwalk' ?_
      rw [h.node_eq hnode hne]
      exact ⟨nofun, fun heq => hne (Option.some.inj heq)⟩
    rw [heq]
    intro r hr
    rcases List.mem_cons.mp hr with rfl | hr
    · exact .inr hq
    · have hp := hin l x p hnames hx hwalk (h.none_of_none hnone)
      exact touchesIn_put node hp r hr

end Posix
