import Devnest.PosixCalls

/-!
# Trees that grow call by call

A tree is what lies below a directory: a node for each relative path. A file
system holds a part of a tree `T` at `base` when every node below `base` is
one of `T` and lies below directories. Calls on paths of `T` whose parents are
directories there add the node of `T` and nothing else, in whatever order they
come (`createEntryAt`, `makedirsAt`, `openWriteAt`).

`removeTree` and `moveTree` act on all that lies at and below a path.
-/

namespace Posix

variable {fs fs' fs'' : Fs} {base : Path} {d : Disk} {T : Path → Option Node} {p q : Path}
  {x : String} {pre : List String}

/-! ## Resolution below directories -/

/-- Names that are all `.`; an archive made with `tar -C dir .` has them in front. -/
def Dots (pre : List String) : Prop := ∀ name ∈ pre, name = "."

theorem scan_dots (hpre : Dots pre) (strict : Bool) (fs : Fs) (cur : Path) (todo : List String) :
    scan strict fs cur (pre ++ todo) = scan strict fs cur todo := by
  induction pre with
  | nil => rfl
  | cons name pre ih =>
      rw [List.cons_append, scan, if_pos (.inr (hpre name List.mem_cons_self))]
      exact ih fun n hn => hpre n (List.mem_cons_of_mem name hn)

theorem proper_dots (hpre : Dots pre) : proper pre = [] := by
  rw [proper, List.filter_eq_nil_iff]
  intro name hname
  rw [hpre name hname]
  decide

theorem proper_of_canonical (hp : Canonical p) : proper p = p := List.filter_eq_self.mpr hp

theorem proper_dots_append (hpre : Dots pre) (hp : Canonical p) : proper (pre ++ p) = p := by
  rw [proper_append, proper_dots hpre, proper_of_canonical hp]
  rfl

theorem canonical_ne_up (hpre : Dots pre) (hp : Canonical p) : ∀ name ∈ pre ++ p, name ≠ ".." := by
  intro name hname
  rcases List.mem_append.mp hname with hname | hname
  · rw [hpre name hname]
    decide
  · exact (properName_iff.mp (hp name hname)).2.2

/-- A path below a directory, over directories, up to its last name. -/
theorem scan_of_dirs {strict : Bool} {cur todo : Path} (hcan : Canonical (todo ++ [x]))
    (hdirs : ∀ q, q ≠ [] → q <+: todo → fs.lookup (cur ++ q) = some .dir)
    (hlast : ∀ t, fs.lookup (cur ++ (todo ++ [x])) ≠ some (.link t)) :
    scan strict fs cur (todo ++ [x]) = .arrived (cur ++ (todo ++ [x])) := by
  induction todo generalizing cur with
  | nil =>
      have hx : properName x = true := hcan x (List.mem_append_right _ List.mem_cons_self)
      rw [List.nil_append] at hlast ⊢
      rcases scan_cons_cases strict fs cur hx [] with ⟨t, hlink, -⟩ | ⟨hscan, hs, -⟩ | ⟨hscan, -, -⟩
      · exact absurd hlink (hlast t)
      · obtain ⟨hne, hdot, hup⟩ := properName_iff.mp hx
        rw [scan, if_neg (not_or.mpr ⟨hne, hdot⟩), if_neg hup] at hscan
        split at hscan
        · cases hscan
        · cases hscan
        · simp [scan] at hscan
      · rw [hscan, scan]
  | cons name todo ih =>
      have hname := properName_iff.mp (hcan name List.mem_cons_self)
      have hdir : fs.lookup (cur ++ [name]) = some .dir :=
        hdirs [name] (List.cons_ne_nil _ _) ⟨todo, rfl⟩
      rw [List.cons_append] at hlast ⊢
      rw [scan, if_neg (not_or.mpr ⟨hname.1, hname.2.1⟩), if_neg hname.2.2, hdir]
      dsimp only
      rw [List.append_cons cur name (todo ++ [x])] at hlast ⊢
      have hrest : Canonical (todo ++ [x]) := fun n hn => hcan n (List.mem_cons_of_mem name hn)
      refine ih hrest (fun q hne hq => ?_) hlast
      have hbelow := hdirs (name :: q) (List.cons_ne_nil _ _) (List.cons_prefix_cons.mpr ⟨rfl, hq⟩)
      rwa [List.append_cons] at hbelow

theorem walk_of_dirs (hpre : Dots pre) (hcan : Canonical (p ++ [x]))
    (hdirs : ∀ q, q ≠ [] → q <+: p → fs.lookup (base ++ q) = some .dir)
    (hlast : ∀ t, fs.lookup (base ++ (p ++ [x])) ≠ some (.link t)) :
    walk true fs maxLinks base (pre ++ (p ++ [x])) = some (base ++ (p ++ [x])) := by
  unfold maxLinks
  rw [walk, scan_dots hpre, scan_of_dirs hcan hdirs hlast]

theorem walk_of_all_dirs (hpre : Dots pre) (hcan : Canonical p)
    (hdirs : ∀ q, q ≠ [] → q <+: p → fs.lookup (base ++ q) = some .dir) :
    walk true fs maxLinks base (pre ++ p) = some (base ++ p) := by
  rcases List.eq_nil_or_concat' p with rfl | ⟨init, x, rfl⟩
  · unfold maxLinks
    rw [walk, scan_dots hpre, scan, List.append_nil]
  · refine walk_of_dirs hpre hcan (fun q hne hq => hdirs q hne (hq.trans (List.prefix_append _ _)))
      fun t ht => ?_
    rw [hdirs _ (by simp) (List.prefix_refl _)] at ht
    cases ht

/-- Where the directory of the last name is one. -/
theorem entry_of_dirs (hpre : Dots pre) (hcan : Canonical (p ++ [x])) (hbase : DirAt d.fs base)
    (hdirs : ∀ q, q ≠ [] → q <+: p → d.fs.lookup (base ++ q) = some .dir) :
    entry base (pre ++ (p ++ [x])) d = some (base ++ p, x) := by
  have hinit : Canonical p := fun n hn => hcan n (List.mem_append_left _ hn)
  unfold entry
  rw [← List.append_assoc, List.getLast?_concat, List.dropLast_concat]
  dsimp only
  rw [walk_of_all_dirs hpre hinit hdirs]
  dsimp only
  rw [if_pos]
  unfold dirNode
  cases p with
  | nil =>
      rw [List.append_nil]
      cases hb : base with
      | nil => rfl
      | cons n l =>
          rw [← hb, hbase base (List.prefix_refl base) (by simp [hb])]
          simp
  | cons n l =>
      rw [hdirs (n :: l) (List.cons_ne_nil _ _) (List.prefix_refl _)]
      simp

/-! ## Parts of a tree -/

/-- The nodes above a node are directories, and the names are proper. -/
structure TreeShape (T : Path → Option Node) : Prop where
  above : ∀ p q, q ≠ [] → q <+: p → q ≠ p → T p ≠ none → T q = some .dir
  names : ∀ p, T p ≠ none → Canonical p

/-- Below `base` there are nodes of `T` only, each below directories. -/
structure PartOf (T : Path → Option Node) (base : Path) (fs : Fs) : Prop where
  root : DirAt fs base
  part : ∀ p, p ≠ [] → fs.lookup (base ++ p) = none ∨ fs.lookup (base ++ p) = T p
  closed : ∀ p q, q ≠ [] → q <+: p → q ≠ p → fs.lookup (base ++ p) ≠ none →
    fs.lookup (base ++ q) = some .dir

/-- New nodes are those of `T`, and nothing else changes. -/
def GrowsTo (T : Path → Option Node) (base : Path) (fs fs' : Fs) : Prop :=
  ∀ q, fs'.lookup q = fs.lookup q ∨ ∃ p, p ≠ [] ∧ q = base ++ p ∧ fs'.lookup q = T p

theorem GrowsTo.refl (T : Path → Option Node) (base : Path) (fs : Fs) : GrowsTo T base fs fs :=
  fun _ => .inl rfl

theorem GrowsTo.trans (h : GrowsTo T base fs fs') (h' : GrowsTo T base fs' fs'') :
    GrowsTo T base fs fs'' := by
  intro q
  rcases h' q with hq' | hq'
  · rw [hq']
    exact h q
  · exact .inr hq'

/-- What is there of `T` stays. -/
theorem GrowsTo.keeps (h : GrowsTo T base fs fs') (hp : fs.lookup (base ++ p) = T p) :
    fs'.lookup (base ++ p) = T p := by
  rcases h (base ++ p) with hq | ⟨p', -, heq, hq⟩
  · rw [hq, hp]
  · rw [hq, List.append_cancel_left heq]

theorem GrowsTo.outside (h : GrowsTo T base fs fs') (hq : ¬ base <+: q) :
    fs'.lookup q = fs.lookup q := by
  rcases h q with hq' | ⟨p, -, rfl, -⟩
  · exact hq'
  · exact absurd (List.prefix_append base p) hq

/-- The node at one path, and nothing else. -/
def Puts (p : Path) (node : Node) (fs fs' : Fs) : Prop :=
  ∀ q, fs'.lookup q = if q = p then some node else fs.lookup q

theorem puts_put (d : Disk) (p : Path) (node : Node) : Puts p node d.fs (d.put p node).fs :=
  fun q => Table.lookup_insert_eq d.fs p q node

/-- One more node of the tree, below directories. -/
theorem PartOf.put (h : PartOf T base fs) {node : Node} (hputs : Puts (base ++ p) node fs fs')
    (hne : p ≠ []) (hnode : T p = some node)
    (hdirs : ∀ q, q ≠ [] → q <+: p → q ≠ p → fs.lookup (base ++ q) = some .dir) :
    PartOf T base fs' ∧ GrowsTo T base fs fs' := by
  have hgrows : GrowsTo T base fs fs' := by
    intro q
    rw [hputs q]
    split
    next hq => exact .inr ⟨p, hne, hq, hnode.symm⟩
    next => exact .inl rfl
  have hother : ∀ q, q ≠ p → fs'.lookup (base ++ q) = fs.lookup (base ++ q) := fun q hq => by
    rw [hputs, if_neg fun heq => hq (List.append_cancel_left heq)]
  have hthere : fs'.lookup (base ++ p) = some node := by rw [hputs, if_pos rfl]
  refine ⟨⟨fun q hq hqne => ?_, fun q hqne => ?_, fun p' q hqne hq hqp hp' => ?_⟩, hgrows⟩
  · rw [hputs, if_neg]
    · exact h.root q hq hqne
    · intro heq
      have hlen := hq.length_le
      rw [heq, List.length_append] at hlen
      exact hne (List.length_eq_zero_iff.mp (by omega))
  · by_cases hqp : q = p
    · rw [hqp, hthere, hnode]
      exact .inr rfl
    · rw [hother q hqp]
      exact h.part q hqne
  · by_cases hqp' : q = p
    · -- the new node lies above one that is there, so it is a directory already
      rw [hqp'] at hq hqp ⊢
      rw [hother p' fun heq => hqp heq.symm] at hp'
      have hdir := h.closed p' p hne hq hqp hp'
      rcases h.part p hne with hnone | hT
      · rw [hdir] at hnone
        cases hnone
      · rw [hthere, ← hnode, ← hT, hdir]
    · rw [hother q hqp']
      by_cases hpp : p' = p
      · rw [hpp] at hq hqp
        exact hdirs q hqne hq hqp
      · rw [hother p' hpp] at hp'
        exact h.closed p' q hqne hq hqp hp'

/-! ## Calls on paths of the tree -/

/-- All directories of the tree above a path, and it. -/
def DirsTo (T : Path → Option Node) (p : Path) : Prop := ∀ q, q ≠ [] → q <+: p → T q = some .dir

theorem PartOf.dirs (h : PartOf T base fs) (hT : DirsTo T p)
    (hp : p = [] ∨ fs.lookup (base ++ p) ≠ none) :
    ∀ q, q ≠ [] → q <+: p → fs.lookup (base ++ q) = some .dir := by
  intro q hne hq
  have hpne : p ≠ [] := by
    rintro rfl
    exact hne (List.prefix_nil.mp hq)
  have hthere := hp.resolve_left hpne
  by_cases hqp : q = p
  · rw [hqp, ← hT p hpne (List.prefix_refl p)]
    exact (h.part p hpne).resolve_left hthere
  · exact h.closed p q hne hq hqp hthere

theorem prefix_of_append (hq : q <+: base ++ p) : q <+: base ∨ ∃ r, r <+: p ∧ q = base ++ r := by
  rcases List.prefix_or_prefix_of_prefix hq (List.prefix_append base p) with hq' | ⟨r, rfl⟩
  · exact .inl hq'
  · exact .inr ⟨r, (List.prefix_append_right_inj base).mp hq, rfl⟩

theorem PartOf.linkFree (h : PartOf T base fs) (hT : DirsTo T p) : LinkFree fs (base ++ p) := by
  intro q hq hne t
  rcases prefix_of_append hq with hq | ⟨q', hq', rfl⟩
  · rw [h.root q hq hne]
    simp
  · by_cases hnil : q' = []
    · rw [hnil, List.append_nil] at hne ⊢
      rw [h.root base (List.prefix_refl base) hne]
      simp
    · rcases h.part q' hnil with hnone | hsome
      · rw [hnone]
        simp
      · rw [hsome, hT q' hnil hq']
        simp

theorem pathExists_iff (h : PartOf T base d.fs) (hpre : Dots pre) (hcan : Canonical p)
    (hT : DirsTo T p) :
    pathExists base (pre ++ p) d = true ↔ p = [] ∨ d.fs.lookup (base ++ p) ≠ none := by
  constructor
  · intro hex
    unfold pathExists at hex
    by_cases hp : p = []
    · exact .inl hp
    · right
      intro hnone
      have hproper : proper (pre ++ p) = p := proper_dots_append hpre hcan
      have hplain : Plain d.fs base (pre ++ p) := by
        refine ⟨canonical_ne_up hpre hcan, ?_⟩
        rw [hproper]
        exact h.linkFree hT
      cases hw : walk true d.fs maxLinks base (pre ++ p) with
      | none =>
          rw [hw] at hex
          cases hex
      | some q =>
          have hq := walk_of_plain hplain hw
          rw [hproper] at hq
          rw [hw, Option.any_some, hq, hnone] at hex
          simp [hp] at hex
  · intro hp
    unfold pathExists
    rw [walk_of_all_dirs hpre hcan (h.dirs hT hp), Option.any_some]
    by_cases hnil : p = []
    · rw [hnil, List.append_nil]
      cases hb : base with
      | nil => rfl
      | cons n l =>
          rw [← hb, h.root base (List.prefix_refl base) (by simp [hb])]
          simp
    · rw [h.dirs hT hp p hnil (List.prefix_refl p)]
      simp

section Calls

variable (hroot : DirAt d.fs base) (hpre : Dots pre) (hcan : Canonical (p ++ [x]))
  (hdirs : ∀ q, q ≠ [] → q <+: p → d.fs.lookup (base ++ q) = some .dir)

include hroot hpre hcan hdirs

theorem createEntryAt (node : Node) :
    createEntry base (pre ++ (p ++ [x])) d node =
      if d.fs.lookup (base ++ (p ++ [x])) = none then (d.put (base ++ (p ++ [x])) node, none)
      else (d, some .exist) := by
  have hx : properName x = true := hcan x (List.mem_append_right _ List.mem_cons_self)
  unfold createEntry
  rw [entry_of_dirs hpre hcan hroot hdirs]
  dsimp only
  rw [hx, List.append_assoc]
  cases hl : d.fs.lookup (base ++ (p ++ [x])) with
  | none => rfl
  | some node' => rfl

theorem entryExistsAt :
    entryExists base (pre ++ (p ++ [x])) d = (d.fs.lookup (base ++ (p ++ [x]))).isSome := by
  have hx : properName x = true := hcan x (List.mem_append_right _ List.mem_cons_self)
  unfold entryExists
  rw [entry_of_dirs hpre hcan hroot hdirs]
  dsimp only
  rw [hx, List.append_assoc]
  rfl

theorem unlinkAt {t : String} (hlink : d.fs.lookup (base ++ (p ++ [x])) = some (.link t)) :
    unlink base (pre ++ (p ++ [x])) d =
      ({ fs := d.fs.erase (base ++ (p ++ [x])), touched := (base ++ (p ++ [x])) :: d.touched },
        none) := by
  have hx : properName x = true := hcan x (List.mem_append_right _ List.mem_cons_self)
  unfold unlink
  rw [entry_of_dirs hpre hcan hroot hdirs]
  dsimp only
  rw [hx, List.append_assoc, hlink]
  rfl

omit hroot in
theorem openWriteAt (data : String)
    (hfile : ∀ node, d.fs.lookup (base ++ (p ++ [x])) = some node → ∃ old, node = .file old) :
    openWrite base (pre ++ (p ++ [x])) d data =
      (d.put (base ++ (p ++ [x])) (.file data), none) := by
  have hlast : ∀ t, d.fs.lookup (base ++ (p ++ [x])) ≠ some (.link t) := by
    intro t hlink
    obtain ⟨old, ho⟩ := hfile _ hlink
    cases ho
  unfold openWrite
  rw [walk_of_dirs hpre hcan hdirs hlast]
  dsimp only
  rw [if_neg (by simp)]
  cases hl : d.fs.lookup (base ++ (p ++ [x])) with
  | none => rfl
  | some node =>
      obtain ⟨old, rfl⟩ := hfile node hl
      rfl

end Calls

/-- `makedirs` of a path of directories that is not there yet. -/
theorem makedirsAt (h : PartOf T base d.fs) (hpre : Dots pre) (hcan : Canonical p)
    (hT : DirsTo T p) (hno : pathExists base (pre ++ p) d = false) :
    ∃ d', makedirs base (pre ++ p).reverse d = (d', none) ∧ PartOf T base d'.fs ∧
      GrowsTo T base d.fs d'.fs ∧ d'.fs.lookup (base ++ p) = some .dir ∧
      ∀ q, ¬ q <+: base ++ p → d'.fs.lookup q = d.fs.lookup q := by
  -- by induction on the path: the directories above are made first, then its last name
  induction p using List.reverseRecOn generalizing d with
  | nil =>
      rw [(pathExists_iff h hpre hcan hT).mpr (.inl rfl)] at hno
      cases hno
  | append_singleton p x ih =>
      have hnone : d.fs.lookup (base ++ (p ++ [x])) = none := by
        by_contra hthere
        rw [(pathExists_iff h hpre hcan hT).mpr (.inr hthere)] at hno
        cases hno
      have hup : p <+: p ++ [x] := List.prefix_append _ _
      have hcanUp : Canonical p := fun n hn => hcan n (List.mem_append_left _ hn)
      have hTUp : DirsTo T p := fun q hne hq => hT q hne (hq.trans hup)
      have hmk : ∀ d₁ : Disk, PartOf T base d₁.fs → (p = [] ∨ d₁.fs.lookup (base ++ p) ≠ none) →
          d₁.fs.lookup (base ++ (p ++ [x])) = none →
          mkdir base (pre ++ (p ++ [x])) d₁ = (d₁.put (base ++ (p ++ [x])) .dir, none) ∧
          PartOf T base (d₁.put (base ++ (p ++ [x])) .dir).fs ∧
          GrowsTo T base d₁.fs (d₁.put (base ++ (p ++ [x])) .dir).fs := by
        intro d₁ h₁ hp₁ hnone₁
        have hdirs := h₁.dirs hTUp hp₁
        refine ⟨?_, h₁.put (puts_put d₁ _ .dir) (by simp) (hT _ (by simp) (List.prefix_refl _))
          fun q hne hq hqp => hdirs q hne ((prefix_snoc.mp hq).resolve_right hqp)⟩
        unfold mkdir
        rw [createEntryAt h₁.root hpre hcan hdirs, if_pos hnone₁]
      have hframe : ∀ (d₁ : Disk) (q : Path), ¬ q <+: base ++ (p ++ [x]) →
          (d₁.put (base ++ (p ++ [x])) .dir).fs.lookup q = d₁.fs.lookup q := by
        intro d₁ q hq
        rw [puts_put d₁ _ .dir q, if_neg]
        rintro rfl
        exact hq (List.prefix_refl _)
      have hthere : ∀ d₁ : Disk,
          (d₁.put (base ++ (p ++ [x])) .dir).fs.lookup (base ++ (p ++ [x])) = some .dir :=
        fun d₁ => by rw [puts_put d₁ _ .dir, if_pos rfl]
      rw [← List.append_assoc, List.reverse_append, List.reverse_singleton, List.singleton_append,
        makedirs, List.reverse_reverse, List.append_assoc]
      by_cases hex : pathExists base (pre ++ p) d = true
      · rw [if_pos hex]
        obtain ⟨hmkdir, hpart, hgrows⟩ := hmk d h ((pathExists_iff h hpre hcanUp hTUp).mp hex) hnone
        exact ⟨_, hmkdir, hpart, hgrows, hthere d, hframe d⟩
      · have hno' : pathExists base (pre ++ p) d = false := by simpa using hex
        rw [if_neg hex]
        obtain ⟨d', hmade, hpart, hgrows, hdir, hsame⟩ := ih h hcanUp hTUp hno'
        have hnone' : d'.fs.lookup (base ++ (p ++ [x])) = none := by
          rw [hsame _ fun hq => ?_, hnone]
          have hlen := hq.length_le
          simp only [List.length_append, List.length_singleton] at hlen
          omega
        have hdot : x ≠ "." :=
          (properName_iff.mp (hcan x (List.mem_append_right _ List.mem_cons_self))).2.1
        rw [hmade]
        dsimp only
        rw [if_neg hdot]
        obtain ⟨hmkdir, hpart', hgrows'⟩ := hmk d' hpart (.inr (by rw [hdir]; simp)) hnone'
        refine ⟨_, hmkdir, hpart', hgrows.trans hgrows', hthere d', fun q hq => ?_⟩
        rw [hframe d' q hq]
        exact hsame q fun hq' => hq (hq'.trans ((List.prefix_append_right_inj base).mpr hup))

/-! ## Any sequence of calls -/

/-- What a program does to a disk by calls that make, open and unlink entries. -/
inductive FileCalls (d : Disk) : Disk → Prop where
  | refl : FileCalls d d
  | create {d' : Disk} (h : FileCalls d d') (base : Path) (names : List String) (node : Node) :
      FileCalls d (createEntry base names d' node).1
  | unlink {d' : Disk} (h : FileCalls d d') (base : Path) (names : List String) :
      FileCalls d (unlink base names d').1
  | write {d' : Disk} (h : FileCalls d d') (base : Path) (names : List String) (data : String) :
      FileCalls d (openWrite base names d' data).1
  | link {d' : Disk} (h : FileCalls d d') (base : Path) (names : List String) (sourceBase : Path)
      (source : List String) : FileCalls d (link base names d' sourceBase source).1

theorem FileCalls.trans {d' d'' : Disk} (h : FileCalls d d') (h' : FileCalls d' d'') :
    FileCalls d d'' := by
  induction h' with
  | refl => exact h
  | create _ base names node ih => exact ih.create base names node
  | unlink _ base names ih => exact ih.unlink base names
  | write _ base names data ih => exact ih.write base names data
  | link _ base names sourceBase source ih => exact ih.link base names sourceBase source

theorem FileCalls.symlink {d' : Disk} (h : FileCalls d d') (base : Path) (names : List String)
    (target : String) : FileCalls d (symlink base names d' target).1 := by
  unfold Posix.symlink
  split
  · exact h
  · exact h.create base names (.link target)

theorem fileCalls_makedirs (base : Path) (above : List String) (d : Disk) :
    FileCalls d (makedirs base above d).1 := by
  induction above generalizing d with
  | nil => exact .refl
  | cons last above ih =>
      rw [makedirs]
      split
      · exact FileCalls.refl.create base _ .dir
      · have hup := ih d
        split
        next d' hd =>
          rw [hd] at hup
          exact hup
        next d' e _ hd =>
          rw [hd] at hup
          split
          · exact hup
          · exact hup.create base _ .dir

/-- No call removes or replaces a directory. -/
def KeepsDirs (fs fs' : Fs) : Prop := ∀ p, fs.lookup p = some .dir → fs'.lookup p = some .dir

theorem KeepsDirs.trans (h : KeepsDirs fs fs') (h' : KeepsDirs fs' fs'') : KeepsDirs fs fs'' :=
  fun p hp => h' p (h p hp)

theorem KeepsDirs.dirAt (h : KeepsDirs fs fs') (hp : DirAt fs p) : DirAt fs' p :=
  fun q hq hne => h q (hp q hq hne)

theorem keepsDirs_put {node : Node} (hp : d.fs.lookup p ≠ some .dir) :
    KeepsDirs d.fs (d.put p node).fs := by
  intro q hq
  have hne : q ≠ p := by
    rintro rfl
    exact hp hq
  rw [puts_put d p node q, if_neg hne]
  exact hq

theorem keepsDirs_createEntry (base : Path) (names : List String) (d : Disk) (node : Node) :
    KeepsDirs d.fs (createEntry base names d node).1.fs := by
  rcases createEntry_cases base names d node with ⟨e, heq⟩ | ⟨p, x, -, -, hnone, heq⟩
  · rw [heq]
    exact fun _ h => h
  · rw [heq]
    exact keepsDirs_put (by rw [hnone]; simp)

/-- Directories stay over any sequence of calls. -/
theorem FileCalls.keepsDirs {d' : Disk} (h : FileCalls d d') : KeepsDirs d.fs d'.fs := by
  induction h with
  | refl => exact fun _ h => h
  | create _ base names node ih => exact ih.trans (keepsDirs_createEntry base names _ node)
  | @unlink d' _ base names ih =>
      refine ih.trans ?_
      rcases unlink_cases base names d' with ⟨e, heq, -⟩ | ⟨p, x, node, -, -, hnode, hne, heq⟩
      · rw [heq]
        exact fun _ h => h
      · rw [heq]
        intro q hq
        refine (AList.lookup_erase_ne ?_).trans hq
        rintro rfl
        exact hne (Option.some.inj (hnode.symm.trans hq))
  | @write d' _ base names data ih =>
      refine ih.trans ?_
      rcases openWrite_cases base names d' data with ⟨e, heq⟩ | ⟨p, -, hdir, heq⟩
      · rw [heq]
        exact fun _ h => h
      · rw [heq]
        refine keepsDirs_put fun hp => ?_
        rw [dirNode, hp] at hdir
        simp at hdir
  | @link d' _ base names sourceBase source ih =>
      refine ih.trans ?_
      rcases link_cases base names d' sourceBase source with
        ⟨e, heq⟩ | ⟨q, y, node, p, x, -, -, -, -, -, -, hnone, heq⟩
      · rw [heq]
        exact fun _ h => h
      · rw [heq]
        exact keepsDirs_put (by rw [hnone]; simp)

/-- What changes over any sequence of calls is on record. -/
theorem FileCalls.records {d' : Disk} (h : FileCalls d d') : Records d d' := by
  induction h with
  | refl => exact .refl d
  | create _ base names node ih => exact ih.trans (records_createEntry base names _ node)
  | unlink _ base names ih => exact ih.trans (records_unlink base names _)
  | write _ base names data ih => exact ih.trans (records_openWrite base names _ data)
  | link _ base names sourceBase source ih =>
      exact ih.trans (records_link base names _ sourceBase source)

/-! ## Whole trees -/

/-- All that lies at and below a path is gone. -/
def removeTree (p : Path) (fs : Fs) : Fs := (clearBelow p fs).erase p

/-- All that lies at and below a directory lies at and below another. -/
def moveTree (src dst : Path) (fs : Fs) : Fs :=
  editBelow dst ((removeTree src fs).insert dst .dir)
    ((fs.keys.filter (src.isPrefixOf ·)).map fun q => (q.drop src.length, fs.lookup q))

/-- `rename` of a directory: onto nothing or an empty directory, not below itself. -/
def rename (src dst : Path) (fs : Fs) : Option Fs :=
  if src.isPrefixOf dst || fs.keys.any (fun q => dst.isPrefixOf q && q != dst) then none
  else match fs.lookup dst with
    | some (.file _) | some (.link _) => none
    | some .dir | none => some (moveTree src dst fs)

/-- Changes that agree with a function. -/
theorem lookup_editBelow_fun (f : Path → Option Node) (fs : Fs)
    {changes : List (Path × Option Node)} (hf : ∀ c ∈ changes, c.2 = f c.1) {r : Path}
    (hr : r ≠ []) :
    (editBelow p fs changes).lookup (p ++ r) =
      if r ∈ changes.map Prod.fst then f r else fs.lookup (p ++ r) := by
  induction changes generalizing fs with
  | nil => rfl
  | cons c changes ih =>
      have hrest : ∀ c ∈ changes, c.2 = f c.1 := fun c' hc' => hf c' (List.mem_cons_of_mem c hc')
      have hstep : (editBelow p fs (c :: changes)).lookup (p ++ r) =
          if r ∈ changes.map Prod.fst then f r
          else (if c.1 = [] then fs else edit fs (p ++ c.1) c.2).lookup (p ++ r) := ih _ hrest
      rw [hstep, List.map_cons]
      by_cases hlater : r ∈ changes.map Prod.fst
      · rw [if_pos hlater, if_pos (List.mem_cons_of_mem _ hlater)]
      · rw [if_neg hlater]
        by_cases hc : c.1 = r
        · rw [if_pos (List.mem_cons.mpr (.inl hc.symm)), if_neg (by rw [hc]; exact hr),
            hf c List.mem_cons_self, hc]
          cases f r with
          | none => exact AList.lookup_erase _ fs
          | some node => exact AList.lookup_insert fs
        · rw [if_neg fun hmem => hlater ((List.mem_cons.mp hmem).resolve_left fun h => hc h.symm)]
          by_cases hnil : c.1 = []
          · rw [if_pos hnil]
          · rw [if_neg hnil]
            exact lookup_edit_of_ne fs fun heq => hc (List.append_cancel_left heq).symm

theorem lookup_clearBelow (fs : Fs) {r : Path} (hr : r ≠ []) :
    (clearBelow p fs).lookup (p ++ r) = none := by
  unfold clearBelow
  rw [lookup_editBelow_fun (fun _ => none) fs (fun c hc => ?_) hr]
  · split
    · rfl
    · rename_i hno
      rw [AList.lookup_eq_none]
      intro hmem
      refine hno (List.mem_map.mpr ⟨(r, none), ?_, rfl⟩)
      refine List.mem_map.mpr ⟨p ++ r, List.mem_filter.mpr ⟨hmem, ?_⟩, by simp⟩
      exact List.isPrefixOf_iff_prefix.mpr (List.prefix_append p r)
  · obtain ⟨q, -, rfl⟩ := List.mem_map.mp hc
    rfl

theorem lookup_removeTree (fs : Fs) (p q : Path) :
    (removeTree p fs).lookup q = if p <+: q then none else fs.lookup q := by
  unfold removeTree
  by_cases hp : p <+: q
  · rw [if_pos hp]
    obtain ⟨r, rfl⟩ := hp
    by_cases hr : r = []
    · rw [hr, List.append_nil]
      exact AList.lookup_erase _ _
    · rw [AList.lookup_erase_ne (by simpa using hr)]
      exact lookup_clearBelow fs hr
  · rw [if_neg hp]
    have hne : q ≠ p := by
      rintro rfl
      exact hp (List.prefix_refl q)
    rw [AList.lookup_erase_ne hne]
    unfold clearBelow
    refine lookup_editBelow_of_ne fs _ fun c _ _ heq => hp ?_
    rw [heq]
    exact List.prefix_append _ _

/-- `rename` puts a directory where nothing is, or an empty directory. -/
def GivesWay (fs : Fs) (p : Path) : Prop :=
  (fs.lookup p = none ∨ fs.lookup p = some .dir) ∧ ∀ r, r ≠ [] → fs.lookup (p ++ r) = none

theorem givesWay_of_free (h : ∀ r, fs.lookup (p ++ r) = none) : GivesWay fs p :=
  ⟨.inl (List.append_nil p ▸ h []), fun r _ => h r⟩

theorem rename_of_givesWay (h : GivesWay fs p) (hpq : ¬ q <+: p) :
    rename q p fs = some (moveTree q p fs) := by
  have hempty : (fs.keys.any fun r => p.isPrefixOf r && r != p) = false := by
    rw [List.any_eq_false]
    intro r hr hcond
    rw [Bool.and_eq_true, List.isPrefixOf_iff_prefix, bne_iff_ne] at hcond
    obtain ⟨⟨r, rfl⟩, hne⟩ := hcond
    exact AList.lookup_eq_none.mp (h.2 r (by simpa using hne)) hr
  have hout : q.isPrefixOf p = false := by
    rw [← Bool.not_eq_true, List.isPrefixOf_iff_prefix]
    exact hpq
  unfold rename
  rw [hempty, hout]
  rcases h.1 with hp | hp
  · rw [hp]
    rfl
  · rw [hp]
    rfl

theorem rename_of_not_givesWay (h : ¬ GivesWay fs p) : rename q p fs = none := by
  by_contra hsome
  refine h ?_
  unfold rename at hsome
  split at hsome
  · exact absurd rfl hsome
  next hcond =>
    rw [Bool.or_eq_true, not_or, List.any_eq_true, not_exists] at hcond
    refine ⟨?_, fun r hr => ?_⟩
    · split at hsome
      · exact absurd rfl hsome
      · exact absurd rfl hsome
      next hp => exact .inr hp
      next hp => exact .inl hp
    · rw [AList.lookup_eq_none]
      intro hmem
      refine hcond.2 (p ++ r) ⟨hmem, ?_⟩
      rw [Bool.and_eq_true, List.isPrefixOf_iff_prefix, bne_iff_ne]
      exact ⟨List.prefix_append p r, by simpa using hr⟩

theorem lookup_moveTree (hnone : ∀ r, r ≠ [] → fs.lookup (p ++ r) = none)
    (hsrc : fs.lookup q = some .dir) (r : Path) :
    (moveTree q p fs).lookup (p ++ r) = fs.lookup (q ++ r) := by
  unfold moveTree
  by_cases hr : r = []
  · rw [hr, List.append_nil, List.append_nil, hsrc, lookup_editBelow _ _ fun _ => rfl]
    exact AList.lookup_insert _
  · rw [lookup_editBelow_fun (fun r => fs.lookup (q ++ r)) _ (fun c hc => ?_) hr]
    · split
      · rfl
      · rename_i hno
        have hgone : fs.lookup (q ++ r) = none := by
          rw [AList.lookup_eq_none]
          intro hmem
          refine hno (List.mem_map.mpr ⟨(r, fs.lookup (q ++ r)), ?_, rfl⟩)
          refine List.mem_map.mpr ⟨q ++ r, List.mem_filter.mpr ⟨hmem, ?_⟩, by simp⟩
          exact List.isPrefixOf_iff_prefix.mpr (List.prefix_append q r)
        rw [AList.lookup_insert_ne (by simpa using hr), lookup_removeTree, hgone]
        split
        · rfl
        · exact hnone r hr
    · obtain ⟨q', hq', rfl⟩ := List.mem_map.mp hc
      obtain ⟨r', rfl⟩ := List.isPrefixOf_iff_prefix.mp (List.mem_filter.mp hq').2
      dsimp only
      rw [List.drop_left]

theorem lookup_moveTree_of_ne {r : Path} (hr : ¬ p <+: r) :
    (moveTree q p fs).lookup r = if q <+: r then none else fs.lookup r := by
  have hne : r ≠ p := by
    rintro rfl
    exact hr (List.prefix_refl r)
  unfold moveTree
  rw [lookup_editBelow_of_ne _ _ fun c _ _ heq => hr (by rw [heq]; exact List.prefix_append _ _),
    AList.lookup_insert_ne hne, lookup_removeTree]

/-! ## What lies below a path -/

def treeAt (fs : Fs) (p : Path) : Path → Option Node := fun r => fs.lookup (p ++ r)

/-- Neither path lies below the other. -/
def Apart (p q : Path) : Prop := ¬ p <+: q ∧ ¬ q <+: p

theorem Apart.symm (h : Apart p q) : Apart q p := ⟨h.2, h.1⟩

theorem Apart.below (h : Apart p q) (r : Path) : ¬ p <+: q ++ r := fun hp =>
  (List.prefix_or_prefix_of_prefix hp (List.prefix_append q r)).elim h.1 h.2

/-- Two names in one directory. -/
theorem apart_names (parent : Path) {y : String} (h : x ≠ y) :
    Apart (parent ++ [x]) (parent ++ [y]) := by
  have hne : ∀ {a b : String}, a ≠ b → ¬ parent ++ [a] <+: parent ++ [b] := by
    intro a b hab hp
    rw [List.prefix_append_right_inj, List.cons_prefix_cons] at hp
    exact hab hp.1
  exact ⟨hne h, hne h.symm⟩

theorem treeAt_removeTree_self (fs : Fs) (p : Path) :
    treeAt (removeTree p fs) p = fun _ => none := by
  funext r
  rw [treeAt, lookup_removeTree, if_pos (List.prefix_append p r)]

theorem treeAt_removeTree (h : Apart p q) : treeAt (removeTree p fs) q = treeAt fs q := by
  funext r
  rw [treeAt, lookup_removeTree, if_neg (h.below r)]
  rfl

theorem treeAt_moveTree_dst (h : GivesWay fs p) (hsrc : fs.lookup q = some .dir) :
    treeAt (moveTree q p fs) p = treeAt fs q := by
  funext r
  exact lookup_moveTree h.2 hsrc r

theorem treeAt_moveTree_src (h : Apart p q) : treeAt (moveTree q p fs) q = fun _ => none := by
  funext r
  rw [treeAt, lookup_moveTree_of_ne (h.below r), if_pos (List.prefix_append q r)]

theorem treeAt_moveTree {r : Path} (hp : Apart p r) (hq : Apart q r) :
    treeAt (moveTree q p fs) r = treeAt fs r := by
  funext below
  rw [treeAt, lookup_moveTree_of_ne (hp.below below), if_neg (hq.below below)]
  rfl

end Posix
