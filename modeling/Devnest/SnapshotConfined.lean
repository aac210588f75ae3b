import Devnest.SnapshotSwap
import Mathlib.Logic.Relation

/-!
# Where a restore writes

The extraction opens and makes paths in the tree that the members before have
built, through whatever links are there by then. A member that is extracted
under a name makes the directories above it that are missing, then its own
entry, or the file a link of its name leads to; a link that cannot be made is
replaced by the member it names, and so on.

When all these places lie in the temporary directory or the destination, in the
tree each member finds (`Confined`), the whole restore creates, overwrites and
links nothing elsewhere (`restore_stays_inside`). An archive without symbolic
links and without `..` always meets the condition (`confined_of_plain`).
-/

namespace Devnest

open Posix

variable {fs fs' : Fs} {d d' : Disk} {tmp dest : Path} {names : List String}
  {ms : List TarMember} {m : TarMember} {cur i depth : Nat}

/-! ## Members that stay inside -/

/-- In the temporary directory or in the destination. -/
def Inside (tmp dest p : Path) : Prop := tmp <+: p ∨ dest <+: p

/-- The entries a member writes, and for a hard link also the one it links to. -/
def WritesInside (tmp dest : Path) (fs : Fs) (names : List String) : MemberType → Prop
  | .reg _ => OpensIn (Inside tmp dest) fs tmp names
  | .dir => EntryIn (Inside tmp dest) (· = none) fs tmp names
  | .sym _ => EntryIn (Inside tmp dest) (· ≠ some .dir) fs tmp names
  | .lnk linkname => EntryIn (Inside tmp dest) (· = none) fs tmp names ∧
      EntryIn (Inside tmp dest) (fun n => n ≠ none ∧ n ≠ some .dir) fs (sourceBase tmp linkname)
        (pathNames linkname)
  | .special => True

/-- So do the directories above it that are missing. -/
structure PutsInside (tmp dest : Path) (fs : Fs) (names : List String) (m : TarMember) : Prop where
  upper : ∀ pre, pre <+: names.dropLast → EntryIn (Inside tmp dest) (· = none) fs tmp pre
  writes : WritesInside tmp dest fs names m.type

/-- A link stands where the path names an entry. -/
def LinkAt (tmp : Path) (fs : Fs) (names : List String) : Prop :=
  ∃ p x t, entry tmp names { fs } = some (p, x) ∧ properName x = true ∧
    fs.lookup (p ++ [x]) = some (.link t)

/-- What stands where the path names an entry is removed. -/
def Unlinks (tmp : Path) (names : List String) (fs fs' : Fs) : Prop :=
  ∃ l x p node, names = l ++ [x] ∧ walk false fs maxLinks tmp l = some p ∧
    fs.lookup (p ++ [x]) = some node ∧ node ≠ .dir ∧ fs' = fs.erase (p ++ [x])

/-- A tree in which another member may be extracted in place of this one: `makelink` removes what
stands at a symbolic link's place first. -/
inductive Retried (tmp : Path) (names : List String) (m : TarMember) (fs : Fs) : Fs → Prop where
  | kept (h : (∀ t, m.type ≠ .sym t) ∨ ¬ LinkAt tmp fs names) : Retried tmp names m fs fs
  | unlinked {fs' : Fs} (h : Unlinks tmp names fs fs') : Retried tmp names m fs fs'
  | again {fs' fs'' : Fs} (h : Retried tmp names m fs fs') (h' : Unlinks tmp names fs' fs'') :
      Retried tmp names m fs fs''

/-- `makelink` may extract the second member in place of the first. -/
def Names (ms : List TarMember) (i j : Nat) : Prop :=
  ∃ m, ms[i]? = some m ∧ findLinkTarget ms i m = some j

/-- The member, and each that may be extracted in its place, stays inside in the tree it finds. -/
structure Confined (ms : List TarMember) (tmp dest : Path) (i : Nat) (m : TarMember) (fs : Fs) :
    Prop where
  own : PutsInside tmp dest fs (pathNames m.name) m
  others : ∀ j mj fs', Relation.TransGen (Names ms) i j → ms[j]? = some mj →
    Retried tmp (pathNames m.name) m fs fs' → PutsInside tmp dest fs' (pathNames m.name) mj

/-! ## The calls of a member -/

theorem makeUpper_in
    (hin : ∀ pre, pre <+: names.dropLast → EntryIn (Inside tmp dest) (· = none) fs tmp pre)
    (h : AddsDirs fs d.fs) :
    TouchesIn (Inside tmp dest) d (makeUpper tmp names d).1 ∧
      AddsDirs fs (makeUpper tmp names d).1.fs := by
  unfold makeUpper
  split
  · exact ⟨.refl _ d, h⟩
  · refine makedirs_in (fun pre hpre => hin pre ?_) h
    rwa [List.reverse_reverse] at hpre

theorem makedir_in (hin : EntryIn (Inside tmp dest) (· = none) fs tmp names)
    (h : AddsDirs fs d.fs) :
    TouchesIn (Inside tmp dest) d (makedir tmp names d).1 ∧
      AddsDirs fs (makedir tmp names d).1.fs := by
  have hmkdir := mkdir_in hin h
  unfold makedir
  split
  next heq =>
    rw [heq] at hmkdir
    exact hmkdir
  · exact hmkdir

/-- The ways a symbolic link is made, or not. -/
inductive LinkMade (tmp : Path) (names : List String) (d : Disk) :
    Disk × Option Errno → Prop where
  | made {p : Path} {x : String} {d' : Disk} (he : entry tmp names d = some (p, x))
      (hx : properName x = true) (hnode : d.fs.lookup (p ++ [x]) ≠ some .dir)
      (ht : ∀ q ∈ d'.touched, q ∈ d.touched ∨ q = p ++ [x]) : LinkMade tmp names d (d', none)
  | kept (e : Errno) (h : ∀ p x, entry tmp names d = some (p, x) → properName x = true →
      d.fs.lookup (p ++ [x]) = none ∨ d.fs.lookup (p ++ [x]) = some .dir) :
      LinkMade tmp names d (d, some e)
  | removed {p : Path} {x : String} {node : Node} (e : Errno)
      (he : entry tmp names d = some (p, x)) (hx : properName x = true)
      (hnode : d.fs.lookup (p ++ [x]) = some node) (hne : node ≠ .dir) :
      LinkMade tmp names d
        ({ fs := d.fs.erase (p ++ [x]), touched := (p ++ [x]) :: d.touched }, some e)

theorem entry_erase {p q : Path} {x y : String} {touched : List Path}
    (he : entry tmp names { fs := d.fs.erase (p ++ [x]), touched } = some (q, y)) :
    entry tmp names d = some (q, y) := by
  obtain ⟨l, hnames, hwalk, hdir⟩ := entry_eq_some.mp he
  have hgone : q ≠ p ++ [x] := by
    rintro rfl
    simp [dirNode] at hdir
  refine entry_eq_some.mpr ⟨l, hnames, (walk_erase hwalk).resolve_left hgone, ?_⟩
  rwa [dirNode, AList.lookup_erase_ne hgone] at hdir

theorem makeSymlink_made (tmp : Path) (names : List String) (t : String) (d : Disk) :
    LinkMade tmp names d (makeSymlink tmp names t d) := by
  -- a link in a place that is free
  have hsym : (∀ p x, entry tmp names d = some (p, x) → properName x = true →
      d.fs.lookup (p ++ [x]) = none ∨ d.fs.lookup (p ++ [x]) = some .dir) →
      LinkMade tmp names d (symlink tmp names d t) := by
    intro hfree
    rcases symlink_eq tmp names d t with heq | heq
    · rw [heq]
      exact .kept _ hfree
    · rw [heq]
      rcases createEntry_cases tmp names d (.link t) with ⟨e, hfail⟩ | ⟨p, x, he, hx, hnone, hmade⟩
      · rw [hfail]
        exact .kept e hfree
      · rw [hmade]
        refine .made he hx (by rw [hnone]; simp) fun q hq => ?_
        exact (List.mem_cons.mp hq).symm
  unfold makeSymlink
  split
  · rcases unlink_cases tmp names d with ⟨e, heq, hfree⟩ | ⟨p, x, node, he, hx, hnode, hne, heq⟩
    · rw [heq]
      exact .kept e hfree
    · rw [heq]
      dsimp only
      have hdir : d.fs.lookup (p ++ [x]) ≠ some .dir := by
        rw [hnode]
        exact fun h => hne (Option.some.inj h)
      rcases symlink_eq tmp names _ t with hsym | hsym
      · rw [hsym]
        exact .removed _ he hx hnode hne
      · rw [hsym]
        rcases createEntry_cases tmp names _ (.link t) with ⟨e, hfail⟩ | ⟨q, y, he', -, -, hmade⟩
        · rw [hfail]
          exact .removed e he hx hnode hne
        · rw [hmade]
          obtain ⟨rfl, rfl⟩ := Prod.mk.inj (Option.some.inj ((entry_erase he').symm.trans he))
          refine .made he hx hdir fun r hr => ?_
          rcases List.mem_cons.mp hr with rfl | hr
          · exact .inr rfl
          · exact (List.mem_cons.mp hr).symm
  next hno =>
    refine hsym fun p x he hx => .inl ?_
    rw [entryExists, he] at hno
    simpa [hx] using hno

/-! ## One member -/

/-- The tree is one of these with new directories. -/
def CoveredBy (T : Fs → Prop) (d : Disk) : Prop := ∃ fs, T fs ∧ AddsDirs fs d.fs

/-- What is touched lies inside, and a failure leaves one of these trees. -/
structure StaysCovered (tmp dest : Path) (T : Fs → Prop) (d : Disk) (r : Disk × Option TarFault) :
    Prop where
  touches : TouchesIn (Inside tmp dest) d r.1
  covered : r.2 ≠ none → CoveredBy T r.1

variable {T T' : Fs → Prop} {r : Disk × Option TarFault}

theorem CoveredBy.mono (hT : ∀ fs, T fs → T' fs) (h : CoveredBy T d) : CoveredBy T' d := by
  obtain ⟨fs, hfs, hadds⟩ := h
  exact ⟨fs, hT fs hfs, hadds⟩

theorem StaysCovered.mono (hT : ∀ fs, T fs → T' fs) (h : StaysCovered tmp dest T d r) :
    StaysCovered tmp dest T' d r :=
  ⟨h.touches, fun hr => (h.covered hr).mono hT⟩

theorem StaysCovered.after (hd : TouchesIn (Inside tmp dest) d d')
    (h : StaysCovered tmp dest T d' r) :
    StaysCovered tmp dest T d r :=
  ⟨hd.trans h.touches, h.covered⟩

theorem stays_of_none (h : TouchesIn (Inside tmp dest) d d') :
    StaysCovered tmp dest T d (d', none) := ⟨h, fun hno => absurd rfl hno⟩

theorem stays_osError {r : Disk × Option Errno} (h : TouchesIn (Inside tmp dest) d r.1)
    (hcov : r.2 ≠ none → CoveredBy T r.1) : StaysCovered tmp dest T d (osError r) := by
  obtain ⟨d', _ | e⟩ := r
  · exact stays_of_none h
  · exact ⟨h, fun _ => hcov (Option.some_ne_none _)⟩

/-- Where a symbolic link is made, when the place of the member lies inside. -/
theorem linkPlace_inside (hwrites : EntryIn (Inside tmp dest) (· ≠ some .dir) fs tmp names)
    (hadds : AddsDirs fs d.fs) {p : Path} {x : String} (he : entry tmp names d = some (p, x))
    (hx : properName x = true) (hdir : d.fs.lookup (p ++ [x]) ≠ some .dir) :
    Inside tmp dest (p ++ [x]) := by
  obtain ⟨l, hnames, hwalk⟩ := entry_loose hadds he
  refine hwrites l x p hnames hx hwalk fun hold => hdir ?_
  have hkeeps := hadds (p ++ [x])
  rw [hold] at hkeeps
  exact hkeeps.elim id fun h => h.2

theorem EntryMade.stays (hwrites : WritesInside tmp dest fs names m.type) (hadds : AddsDirs fs d.fs)
    (h : EntryMade tmp names m d r) : StaysCovered tmp dest (· = fs) d r := by
  have hself : ∀ d₁ : Disk, AddsDirs fs d₁.fs → CoveredBy (· = fs) d₁ := fun d₁ h => ⟨fs, rfl, h⟩
  cases h with
  | @file data htype =>
      rw [htype] at hwrites
      refine stays_osError (openWrite_in hwrites hadds) fun hfail => ?_
      rcases openWrite_cases tmp names d data with ⟨e, heq⟩ | ⟨p, -, -, heq⟩
      · rw [heq]
        exact hself d hadds
      · rw [heq] at hfail
        exact absurd rfl hfail
  | directory htype =>
      rw [htype] at hwrites
      obtain ⟨hmade, hmadeadds⟩ := makedir_in hwrites hadds
      exact stays_osError hmade fun _ => hself _ hmadeadds
  | special htype => exact ⟨.refl _ d, fun _ => hself d hadds⟩
  | @symlink t d' htype hmade =>
      rw [htype] at hwrites
      have hlink := makeSymlink_made tmp names t d
      rw [hmade] at hlink
      cases hlink with
      | made he hx hnode ht =>
          refine stays_of_none fun q hq => (ht q hq).imp_right ?_
          rintro rfl
          exact linkPlace_inside hwrites hadds he hx hnode
  | @hardLink linkname d' htype hmade =>
      rw [htype] at hwrites
      have hlinked := link_in hwrites.1 hwrites.2 hadds
      rw [hmade] at hlinked
      exact stays_of_none hlinked

/-- A link that is not made touches its own place only, and its tree is one in which another
member may take that place. -/
theorem LinkFails.stays (hwrites : WritesInside tmp dest fs names m.type)
    (hadds : AddsDirs fs d.fs) (hkept : (∀ t, m.type ≠ .sym t) ∨ ¬ LinkAt tmp fs names → T fs)
    (hunlinked : ∀ fs', Unlinks tmp names fs fs' → T fs') (h : LinkFails tmp names m d d') :
    TouchesIn (Inside tmp dest) d d' ∧ CoveredBy T d' := by
  cases h with
  | @symlink t d' e htype hfails =>
      rw [htype] at hwrites
      have hlink := makeSymlink_made tmp names t d
      rw [hfails] at hlink
      cases hlink with
      | kept e hfree =>
          refine ⟨.refl _ d, fs, hkept (.inr ?_), hadds⟩
          rintro ⟨p, x, t, he, hx, hat⟩
          have hat' := (hadds.sameLinks (p ++ [x]) t).mpr hat
          rcases hfree p x (entry_adds hadds he) hx with hnone | hdir
          · rw [hat'] at hnone
            cases hnone
          · rw [hat'] at hdir
            cases hdir
      | @removed p x node e he hx hnode hne =>
          obtain ⟨l, hnames, hwalk⟩ := entry_loose hadds he
          refine ⟨fun q hq => ?_, fs.erase (p ++ [x]), hunlinked _ ⟨l, x, p, node, hnames, hwalk,
            hadds.node_eq hnode hne, hne, rfl⟩, hadds.erase (p ++ [x])⟩
          rcases List.mem_cons.mp hq with rfl | hq
          · refine .inr (linkPlace_inside hwrites hadds he hx ?_)
            rw [hnode]
            exact fun h => hne (Option.some.inj h)
          · exact .inl hq
  | hardLink htype =>
      exact ⟨.refl _ d, fs, hkept (.inl fun t => by rw [htype]; exact MemberType.noConfusion), hadds⟩

theorem Instead.stays (hnext : ∀ j d', findLinkTarget ms i m = some j → CoveredBy T d' →
      StaysCovered tmp dest T d' (extractMember ms tmp cur depth j names d'))
    (h : Instead ms tmp cur depth i m names d r) (hcov : CoveredBy T d) :
    StaysCovered tmp dest T d r := by
  induction h with
  | missing d fault => exact ⟨.refl _ d, fun _ => hcov⟩
  | @member j d d' fault fault' hj hres hfault =>
      have hstays := hnext j d hj hcov
      rw [hres] at hstays
      exact ⟨hstays.touches, fun hne => hstays.covered (hfault hne)⟩
  | @again j d d' r hj hres hr ih =>
      have hstays := hnext j d hj hcov
      rw [hres] at hstays
      exact .after hstays.touches (ih (hstays.covered (Option.some_ne_none _)))

/-- A member that stays inside in the tree it finds, when those that may take its place do. -/
theorem extractMember_stays (hm : ms[i]? = some m) (hputs : PutsInside tmp dest fs names m)
    (hadds : AddsDirs fs d.fs) (hkept : (∀ t, m.type ≠ .sym t) ∨ ¬ LinkAt tmp fs names → T fs)
    (hunlinked : ∀ fs', Unlinks tmp names fs fs' → T fs')
    (hnext : ∀ j d', findLinkTarget ms i m = some j → CoveredBy T d' →
      StaysCovered tmp dest T d' (extractMember ms tmp cur depth j names d')) :
    StaysCovered tmp dest (fun fs' => fs' = fs ∨ T fs') d
      (extractMember ms tmp cur (depth + 1) i names d) := by
  obtain ⟨hup, hupadds⟩ := makeUpper_in hputs.upper hadds
  have hends : MemberEnd ms tmp cur depth i m names d _ := extractMember_ends hm
  generalize extractMember ms tmp cur (depth + 1) i names d = r at hends
  cases hends with
  | noUpper heq =>
      rw [heq] at hup hupadds
      exact ⟨hup, fun _ => ⟨fs, .inl rfl, hupadds⟩⟩
  | own heq hmade =>
      rw [heq] at hup hupadds
      exact .after hup ((hmade.stays hputs.writes hupadds).mono fun _ => .inl)
  | instead heq hfails hr =>
      rw [heq] at hup hupadds
      obtain ⟨htouches, hcov⟩ := hfails.stays hputs.writes hupadds hkept hunlinked
      exact .after (hup.trans htouches) ((hr.stays hnext hcov).mono fun _ => .inr)

/-- In trees where every member that may be reached stays inside. -/
theorem extractMember_retry {R : Nat → Prop} (hR : ∀ i j, R i → Names ms i j → R j)
    (hT : ∀ i m fs, R i → ms[i]? = some m → T fs → PutsInside tmp dest fs names m)
    (hclosed : ∀ fs fs', T fs → Unlinks tmp names fs fs' → T fs') (hi : R i)
    (hcov : CoveredBy T d) :
    StaysCovered tmp dest T d (extractMember ms tmp cur depth i names d) := by
  induction depth generalizing i d with
  | zero => exact ⟨.refl _ d, fun _ => hcov⟩
  | succ depth ih =>
      cases hm : ms[i]? with
      | none =>
          rw [extractMember, hm]
          exact ⟨.refl _ d, fun _ => hcov⟩
      | some m =>
          obtain ⟨fs, hfs, hadds⟩ := hcov
          refine (extractMember_stays hm (hT i m fs hi hm hfs) hadds (fun _ => hfs)
            (hclosed fs · hfs) fun j d' hj hcov => ih (hR i j hi ⟨m, hm, hj⟩) hcov).mono ?_
          rintro fs' (rfl | hfs')
          · exact hfs
          · exact hfs'

/-- **A confined member stays inside.** -/
theorem extractMember_confined (hm : ms[i]? = some m) (h : Confined ms tmp dest i m d.fs) :
    TouchesIn (Inside tmp dest) d
      (extractMember ms tmp i (depth + 1) i (pathNames m.name) d).1 :=
  (extractMember_stays hm h.own (.refl d.fs) .kept (fun _ => .unlinked) fun _ _ hj hcov =>
    extractMember_retry (R := Relation.TransGen (Names ms) i) (fun _ _ hi hn => hi.tail hn)
      (fun j mj fs' hj hmj hfs' => h.others j mj fs' hj hmj hfs') (fun _ _ => .again)
      (.single ⟨m, hm, hj⟩) hcov).touches

/-! ## All members -/

theorem extractFrom_snoc_fault {fault : TarFault} {l : List TarMember}
    (h : extractFrom depth ms tmp cur l d = (d', some fault)) :
    extractFrom depth ms tmp cur (l ++ [m]) d = (d', some fault) := by
  induction l generalizing cur d with
  | nil => cases h
  | cons m' l ih =>
      rw [extractFrom] at h
      rw [List.cons_append, extractFrom]
      split
      next heq =>
        rw [heq] at h
        exact ih h
      next heq =>
        rw [heq] at h
        exact ih h
      next hno hno' =>
        split at h
        next heq => exact absurd heq (hno _)
        next heq => exact absurd heq (hno' _)
        · exact h

theorem extractFrom_snoc {l : List TarMember}
    (h : extractFrom depth ms tmp cur l d = (d', none)) :
    (extractFrom depth ms tmp cur (l ++ [m]) d).1 =
      (extractMember ms tmp (cur + l.length) (depth + 1) (cur + l.length) (pathNames m.name)
        d').1 := by
  induction l generalizing cur d with
  | nil =>
      obtain ⟨rfl, -⟩ := Prod.mk.inj h
      rw [List.nil_append, extractFrom]
      split
      next heq =>
        simp only [List.length_nil, Nat.add_zero, heq]
        rfl
      next heq =>
        simp only [List.length_nil, Nat.add_zero, heq]
        rfl
      · rfl
  | cons m' l ih =>
      rw [extractFrom] at h
      rw [List.cons_append, extractFrom, List.length_cons, ← Nat.add_assoc, Nat.add_right_comm]
      split
      next heq =>
        rw [heq] at h
        exact ih h
      next heq =>
        rw [heq] at h
        exact ih h
      next hno hno' =>
        split at h
        next heq => exact absurd heq (hno _)
        next heq => exact absurd heq (hno' _)
        next hfault _ =>
          rw [h] at hno
          exact absurd rfl (hno d')

/-- When every member is confined in the tree the members before it left. -/
theorem extractFrom_confined
    (h : ∀ k m d', ms[k]? = some m → extractFrom depth ms tmp 0 (ms.take k) d = (d', none) →
      Confined ms tmp dest k m d'.fs) (k : Nat) :
    TouchesIn (Inside tmp dest) d (extractFrom depth ms tmp 0 (ms.take k) d).1 := by
  induction k with
  | zero => exact .refl _ d
  | succ k ih =>
      cases hm : ms[k]? with
      | none =>
          have hlen : ms.length ≤ k := List.getElem?_eq_none_iff.mp hm
          rw [List.take_of_length_le (hlen.trans (Nat.le_succ k))]
          rwa [List.take_of_length_le hlen] at ih
      | some m =>
          have hk : k < ms.length := (List.getElem?_eq_some_iff.mp hm).1
          have htake : ms.take (k + 1) = ms.take k ++ [m] := by
            rw [List.take_add_one, hm]
            rfl
          rw [htake]
          rcases hbefore : extractFrom depth ms tmp 0 (ms.take k) d with ⟨d', _ | fault⟩
          · rw [hbefore] at ih
            rw [extractFrom_snoc hbefore, Nat.zero_add, List.length_take,
              Nat.min_eq_left hk.le]
            exact ih.trans (extractMember_confined hm (h k m d' hm hbefore))
          · rw [hbefore] at ih
            rw [extractFrom_snoc_fault hbefore]
            exact ih

/-! ## The whole restore -/

/-- What is created, overwritten or hard-linked lies inside, and what is there elsewhere was there
before. -/
structure StaysInside (tmp dest : Path) (fs : Fs) (d : Disk) : Prop where
  touched : ∀ p ∈ d.touched, Inside tmp dest p
  elsewhere : ∀ p node, ¬ Inside tmp dest p → d.fs.lookup p = some node → fs.lookup p = some node

theorem lookup_rmtree {p q : Path} {node : Node} (h : (rmtree p fs).lookup q = some node) :
    fs.lookup q = some node := by
  unfold rmtree at h
  split at h
  · rw [lookup_removeTree] at h
    split at h
    · cases h
    · exact h
  · exact h

theorem StaysInside.cleanup (h : StaysInside tmp dest fs d) :
    StaysInside tmp dest fs (cleanup tmp d) := by
  unfold Devnest.cleanup
  split
  · exact ⟨h.touched, fun p node hp hnode => h.elsewhere p node hp (lookup_rmtree hnode)⟩
  · exact h

/-- After the extraction. -/
theorem staysInside_of_calls (hcalls : FileCalls (Disk.put { fs } tmp .dir) d)
    (hin : TouchesIn (Inside tmp dest) (Disk.put { fs } tmp .dir) d) :
    StaysInside tmp dest fs d := by
  have hself : Inside tmp dest tmp := .inl (List.prefix_refl tmp)
  have htouched : ∀ p ∈ d.touched, Inside tmp dest p := by
    intro p hp
    rcases hin p hp with hold | hp
    · rw [List.mem_singleton.mp hold]
      exact hself
    · exact hp
  refine ⟨htouched, fun p node hp hnode => ?_⟩
  rw [hcalls.records.changes p fun hmem => hp (htouched p hmem), puts_put _ tmp .dir,
    if_neg (by rintro rfl; exact hp hself)] at hnode
  exact hnode

section Swap

variable {parent : Path} {name t : String}

/-- The swap puts nothing elsewhere: the backup is gone in the end. -/
theorem atomicSwap_elsewhere (h : SwapNames parent name t) (hat : AtSwap fs parent name t)
    {q : Path} {node : Node} (hdest : ¬ parent ++ [name] <+: q) (htmp : ¬ parent ++ [t] <+: q)
    (hq : (atomicSwap (parent ++ [name]) (parent ++ [t]) fs).1.lookup q = some node) :
    fs.lookup q = some node := by
  obtain ⟨fs₁, hstale, hat₁, -, -, -⟩ := swap_stale h hat none
  rw [show removeStale none (backupOf (parent ++ [name])) fs =
    rmtree (backupOf (parent ++ [name])) fs from rfl] at hstale
  have hfs₁ : fs₁.lookup q = some node → fs.lookup q = some node := by
    intro hnode
    rw [← hstale] at hnode
    split at hnode
    · exact lookup_rmtree hnode
    · exact hnode
  refine hfs₁ ?_
  have hback := rollback_of_there h.names hat₁.dir hat₁.dest
  unfold atomicSwap at hq
  rw [hstale] at hq
  dsimp only at hq
  rw [if_pos (existsAt_of_dir h.names hat₁.dir hat₁.dest), backupOf_append] at hq
  by_cases hfree : GivesWay fs₁ (parent ++ [name ++ ".bak"])
  · have hapart := bak_apart_dest parent name
    rw [rename_of_givesWay hfree hapart.2] at hq
    dsimp only at hq
    generalize hfs₂ : moveTree (parent ++ [name]) (parent ++ [name ++ ".bak"]) fs₁ = fs₂ at hq
    have hbak₂ : treeAt fs₂ (parent ++ [name ++ ".bak"]) = treeAt fs₁ (parent ++ [name]) := by
      rw [← hfs₂, treeAt_moveTree_dst hfree hat₁.dest]
    have hgone : GivesWay fs₂ (parent ++ [name]) := by
      rw [← hfs₂]
      exact givesWay_of_free fun r => congrFun (treeAt_moveTree_src hapart) r
    rw [rename_of_givesWay hgone h.tmp_apart_dest.1] at hq
    dsimp only at hq
    generalize hfs₃ : moveTree (parent ++ [t]) (parent ++ [name]) fs₂ = fs₃ at hq
    have hbak₃ : fs₃.lookup (parent ++ [name ++ ".bak"]) = some .dir := by
      have hsame : treeAt fs₃ (parent ++ [name ++ ".bak"]) =
          treeAt fs₂ (parent ++ [name ++ ".bak"]) := by
        rw [← hfs₃, treeAt_moveTree hapart.symm h.bak_apart_tmp.symm]
      rw [lookup_of_treeAt hsame, lookup_of_treeAt hbak₂, hat₁.dest]
    have hdir₃ : DirAt fs₃ parent := by
      rw [← hfs₃, ← hfs₂]
      exact dirAt_moveTree (dirAt_moveTree hat₁.dir)
    rw [if_pos (existsAt_of_dir h.bakNames hdir₃ hbak₃), rmtree, if_pos hbak₃,
      lookup_removeTree] at hq
    split at hq
    · cases hq
    next hbak =>
      rwa [← hfs₃, lookup_moveTree_of_ne hdest, if_neg htmp, ← hfs₂, lookup_moveTree_of_ne hbak,
        if_neg hdest] at hq
  · rw [rename_of_not_givesWay hfree] at hq
    dsimp only at hq
    rwa [hback] at hq

variable {ans : ImportAnswers}

/-- **A restore whose members are confined writes nowhere else.** -/
theorem restore_stays_inside (hplace : RestorePlace fs parent name ans.tmpName)
    (hconfined : ∀ k m d', ms[k]? = some m →
      extractFrom ans.depth ms (parent ++ [ans.tmpName]) 0 (ms.take k)
        (Disk.put { fs } (parent ++ [ans.tmpName]) .dir) = (d', none) →
      Confined ms (parent ++ [ans.tmpName]) (parent ++ [name]) k m d'.fs) :
    StaysInside (parent ++ [ans.tmpName]) (parent ++ [name]) fs
      (safeSnapshotTarExtract ans (parent ++ [name]) ms { fs }).1 := by
  have hin := extractFrom_confined hconfined ms.length
  have hcalls := extractFrom_calls ans.depth ms (parent ++ [ans.tmpName]) 0 ms
    (Disk.put { fs } (parent ++ [ans.tmpName]) .dir)
  rw [List.take_length] at hin
  unfold safeSnapshotTarExtract
  rw [tmpDir_append, extractall]
  dsimp only
  cases validateTarMembers fs (parent ++ [name]) ms with
  | error fault => exact ⟨fun p hp => absurd hp List.not_mem_nil, fun _ _ _ h => h⟩
  | ok _ =>
      dsimp only
      rcases hout : extractFrom ans.depth ms (parent ++ [ans.tmpName]) 0 ms
        (Disk.put { fs } (parent ++ [ans.tmpName]) .dir) with ⟨d, _ | fault⟩
      · rw [hout] at hin hcalls
        have hstay := staysInside_of_calls hcalls hin
        have hat := hplace.atSwap (d := { fs }) hcalls
        have hswapped : ∀ q node, ¬ Inside (parent ++ [ans.tmpName]) (parent ++ [name]) q →
            (atomicSwap (parent ++ [name]) (parent ++ [ans.tmpName]) d.fs).1.lookup q = some node →
            fs.lookup q = some node := by
          intro q node hq hnode
          refine hstay.elsewhere q node hq (atomicSwap_elsewhere hplace.swapNames hat ?_ ?_ hnode)
          · exact fun hdest => hq (.inr hdest)
          · exact fun htmp => hq (.inl htmp)
        dsimp only
        rcases hswap : atomicSwap (parent ++ [name]) (parent ++ [ans.tmpName]) d.fs with
          ⟨fs', _ | _⟩
        · rw [hswap] at hswapped
          exact StaysInside.cleanup (d := { d with fs := fs' }) ⟨hstay.touched, hswapped⟩
        · rw [hswap] at hswapped
          exact StaysInside.cleanup (d := { d with fs := fs' }) ⟨hstay.touched, hswapped⟩
      · rw [hout] at hin hcalls
        have hstay := (staysInside_of_calls hcalls hin).cleanup
        cases fault with
        | os => exact hstay
        | extract => exact hstay
        | key => exact hstay
        | recursion => exact hstay

end Swap

theorem entryIn_name {P : Option Node → Prop} (x : String) :
    EntryIn (Inside tmp dest) P fs tmp [x] := by
  rintro l y p hl - hwalk -
  obtain ⟨rfl, -⟩ | ⟨-, hy⟩ := List.append_eq_singleton_iff.mp hl.symm
  · unfold maxLinks at hwalk
    rw [walk, scan] at hwalk
    obtain rfl := Option.some.inj hwalk
    exact .inl (List.prefix_append _ _)
  · cases hy

/-- A link to a new file, and the file written through it. -/
def linkInside : List TarMember := [⟨"a", .sym "b"⟩, ⟨"a", .reg "2"⟩]

theorem link_inside_stays :
    StaysInside (["srv"] ++ [restoreNames.tmpName]) (["srv"] ++ ["w"]) projectWithBackup
      (safeSnapshotTarExtract restoreNames (["srv"] ++ ["w"]) linkInside
        { fs := projectWithBackup }).1 := by
  have hname : pathNames "a" = ["a"] := by decide
  have hnone : ∀ i j, i < 2 → ¬ Names linkInside i j := by
    rintro i j hi ⟨m, hm, hj⟩
    match i, hi with
    | 0, _ =>
        obtain rfl := Option.some.inj hm
        have hnone : findLinkTarget linkInside 0 ⟨"a", .sym "b"⟩ = none := by decide +kernel
        rw [hnone] at hj
        cases hj
    | 1, _ =>
        obtain rfl := Option.some.inj hm
        cases hj
  have hothers : ∀ i j, i < 2 → ¬ Relation.TransGen (Names linkInside) i j := by
    intro i j hi hij
    obtain ⟨k, hk, -⟩ := Relation.TransGen.head'_iff.mp hij
    exact hnone i k hi hk
  have hupper : ∀ (fs : Fs) (dest : Path) pre, pre <+: ["a"].dropLast →
      EntryIn (Inside (["srv"] ++ [restoreNames.tmpName]) dest) (· = none) fs
        (["srv"] ++ [restoreNames.tmpName]) pre := by
    rintro fs dest pre hpre l x p rfl
    exact absurd (List.prefix_nil.mp hpre) (by simp)
  refine restore_stays_inside projectWithBackup_place fun k m d' hm hd => ?_
  match k with
  | 0 =>
      obtain rfl := Option.some.inj hm
      refine ⟨?_, fun j _ _ hj => absurd hj (hothers 0 j (by decide))⟩
      rw [hname]
      exact ⟨hupper _ _, (entryIn_name "a" : EntryIn _ (· ≠ some .dir) _ _ ["a"])⟩
  | 1 =>
      obtain rfl := Option.some.inj hm
      refine ⟨?_, fun j _ _ hj => absurd hj (hothers 1 j (by decide))⟩
      rw [hname]
      refine ⟨hupper _ _, fun p hwalk _ => ?_⟩
      obtain rfl := (congrArg Prod.fst hd).symm
      have hb : some p = some ["srv", restoreNames.tmpName, "b"] :=
        hwalk.symm.trans (by decide +kernel)
      obtain rfl := Option.some.inj hb
      exact .inl ⟨["b"], rfl⟩
  | k + 2 => cases hm

/-! ## Archives without symbolic links -/

/-- No symbolic link, no `..`, and no absolute path to a hard link's source. -/
structure PlainMember (m : TarMember) : Prop where
  noSym : ∀ t, m.type ≠ .sym t
  name : ".." ∉ pathNames m.name
  source : ∀ linkname, m.type = .lnk linkname →
    PyText.startsWith linkname "/" = false ∧ ".." ∉ pathNames linkname

/-- No link at or below the path. -/
def NoLinks (base : Path) (fs : Fs) : Prop := ∀ p, base <+: p → ∀ t, fs.lookup p ≠ some (.link t)

variable {base p cur' : Path} {node : Node} {links : Nat}

/-- Without links and `..` a path leads down. -/
theorem scan_below (h : NoLinks base fs) {cur : Path} (hcur : base <+: cur)
    (hup : ".." ∉ names) : ∃ p, scan false fs cur names = .arrived p ∧ base <+: p := by
  induction names generalizing cur with
  | nil => exact ⟨cur, rfl, hcur⟩
  | cons name rest ih =>
      rw [List.mem_cons, not_or] at hup
      by_cases hskip : name = "" ∨ name = "."
      · rw [scan, if_pos hskip]
        exact ih hcur hup.2
      · have hname : properName name = true :=
          properName_iff.mpr ⟨fun hn => hskip (.inl hn), fun hn => hskip (.inr hn), Ne.symm hup.1⟩
        have hnext := hcur.trans (List.prefix_append cur [name])
        rw [scan_false_next hname (h _ hnext)]
        exact ih hnext hup.2

theorem walk_below (h : NoLinks base fs) (hup : ".." ∉ names)
    (hwalk : walk false fs maxLinks base names = some p) : base <+: p := by
  obtain ⟨q, hscan, hq⟩ := scan_below h (List.prefix_refl base) hup
  unfold maxLinks at hwalk
  rw [walk, hscan] at hwalk
  rwa [← Option.some.inj hwalk]

theorem entryIn_below {P : Option Node → Prop} (h : NoLinks tmp fs) (hup : ".." ∉ names) :
    EntryIn (Inside tmp tmp) P fs tmp names := by
  rintro l x p rfl - hwalk -
  have hl : ".." ∉ l := fun hmem => hup (List.mem_append_left _ hmem)
  exact .inl ((walk_below h hl hwalk).trans (List.prefix_append p [x]))

theorem NoLinks.insert (h : NoLinks base fs) (hnode : ∀ t, node ≠ .link t) (p : Path) :
    NoLinks base (fs.insert p node) := by
  intro q hq t
  rw [Table.lookup_insert_eq]
  split
  · exact fun heq => hnode t (Option.some.inj heq)
  · exact h q hq t

theorem NoLinks.erase (h : NoLinks base fs) (p : Path) : NoLinks base (fs.erase p) := by
  intro q hq t
  by_cases hqp : q = p
  · rw [hqp, AList.lookup_erase]
    exact fun hnone => absurd hnone (by simp)
  · rw [AList.lookup_erase_ne hqp]
    exact h q hq t

theorem Retried.noLinks (h : Retried tmp names m fs fs') (hfs : NoLinks tmp fs) :
    NoLinks tmp fs' := by
  induction h with
  | kept h => exact hfs
  | unlinked h =>
      obtain ⟨l, x, p, node, -, -, -, -, rfl⟩ := h
      exact hfs.erase _
  | again h h' ih =>
      obtain ⟨l, x, p, node, -, -, -, -, rfl⟩ := h'
      exact ih.erase _

theorem putsInside_of_plain (hup : ".." ∉ names) (hm : PlainMember m) (h : NoLinks tmp fs) :
    PutsInside tmp tmp fs names m := by
  refine ⟨fun pre hpre => entryIn_below h fun hmem => hup ?_, ?_⟩
  · exact (List.dropLast_prefix names).subset (hpre.subset hmem)
  · cases htype : m.type with
    | reg data => exact fun p hwalk _ => .inl (walk_below h hup hwalk)
    | dir => exact (entryIn_below h hup : EntryIn _ (· = none) fs tmp names)
    | sym t => exact absurd htype (hm.noSym t)
    | lnk linkname =>
        obtain ⟨habs, hsource⟩ := hm.source linkname htype
        refine ⟨entryIn_below h hup, ?_⟩
        rw [sourceBase, habs]
        exact entryIn_below h hsource
    | special => trivial

/-- **A plain archive stays in the temporary directory.** -/
theorem confined_of_plain (hms : ∀ m ∈ ms, PlainMember m) (hm : ms[i]? = some m)
    (h : NoLinks tmp fs) : Confined ms tmp tmp i m fs :=
  ⟨putsInside_of_plain (hms m (List.mem_of_getElem? hm)).name (hms m (List.mem_of_getElem? hm)) h,
    fun _ mj _ _ hmj hfs' => putsInside_of_plain (hms m (List.mem_of_getElem? hm)).name
      (hms mj (List.mem_of_getElem? hmj)) (hfs'.noLinks h)⟩

theorem createEntry_noLinks (h : NoLinks base d.fs) (hnode : ∀ t, node ≠ .link t) :
    NoLinks base (createEntry tmp names d node).1.fs := by
  rcases createEntry_cases tmp names d node with ⟨e, heq⟩ | ⟨p, x, -, -, -, heq⟩
  · rw [heq]
    exact h
  · rw [heq]
    exact h.insert hnode _

theorem makedirs_noLinks (above : List String) (h : NoLinks base d.fs) :
    NoLinks base (makedirs tmp above d).1.fs := by
  induction above generalizing d with
  | nil => exact h
  | cons last above ih =>
      rw [makedirs]
      split
      · exact createEntry_noLinks h fun _ => Node.noConfusion
      · have hup := ih h
        split
        next heq =>
          rw [heq] at hup
          exact hup
        next heq =>
          rw [heq] at hup
          split
          · exact hup
          · exact createEntry_noLinks hup fun _ => Node.noConfusion

theorem makeUpper_noLinks (tmp : Path) (names : List String) (h : NoLinks base d.fs) :
    NoLinks base (makeUpper tmp names d).1.fs := by
  unfold makeUpper
  split
  · exact h
  · exact makedirs_noLinks _ h

/-- The entry of a plain member is no link: a hard link leads to an entry below the directory. -/
theorem EntryMade.noLinks (hm : PlainMember m) (hd : NoLinks tmp d.fs)
    (h : EntryMade tmp names m d r) : NoLinks tmp r.1.fs := by
  cases h with
  | @file data htype =>
      rw [osError_disk]
      rcases openWrite_cases tmp names d data with ⟨e, heq⟩ | ⟨p, -, -, heq⟩
      · rw [heq]
        exact hd
      · rw [heq]
        exact hd.insert (fun t ht => by cases ht) p
  | directory htype =>
      have hmade : NoLinks tmp (mkdir tmp names d).1.fs :=
        createEntry_noLinks hd fun _ => Node.noConfusion
      rw [osError_disk]
      unfold makedir
      split
      next heq =>
        rw [heq] at hmade
        exact hmade
      · exact hmade
  | special htype => exact hd
  | symlink htype hmade => exact absurd htype (hm.noSym _)
  | @hardLink linkname d' htype hmade =>
      rcases link_cases tmp names d (sourceBase tmp linkname) (pathNames linkname) with
        ⟨e, heq⟩ | ⟨q, y, node, p, x, hq, -, hnode, -, -, -, -, heq⟩
      · rw [heq] at hmade
        cases hmade
      · rw [heq] at hmade
        obtain ⟨rfl, -⟩ := Prod.mk.inj hmade
        obtain ⟨habs, hsource⟩ := hm.source linkname htype
        rw [sourceBase, habs] at hq
        obtain ⟨l, hnames, hwalk⟩ := entry_loose (.refl d.fs) hq
        have hl : ".." ∉ l := by
          intro hmem
          rw [hnames] at hsource
          exact hsource (List.mem_append_left _ hmem)
        have hbelow := (walk_below hd hl hwalk).trans (List.prefix_append q [y])
        refine hd.insert (fun t => ?_) _
        rintro rfl
        exact hd _ hbelow t hnode

theorem Instead.noLinks (hnext : ∀ j d, NoLinks tmp d.fs →
      NoLinks tmp (extractMember ms tmp cur depth j names d).1.fs)
    (h : Instead ms tmp cur depth i m names d r) (hd : NoLinks tmp d.fs) : NoLinks tmp r.1.fs := by
  induction h with
  | missing d fault => exact hd
  | @member j d d' fault fault' hj hres hfault =>
      have hnone := hnext j d hd
      rwa [hres] at hnone
  | @again j d d' r hj hres hr ih =>
      have hnone := hnext j d hd
      rw [hres] at hnone
      exact ih hnone

/-- A plain member makes no link, whatever is extracted in its place. -/
theorem extractMember_noLinks (hms : ∀ m ∈ ms, PlainMember m) (cur depth i : Nat)
    (names : List String) (h : NoLinks tmp d.fs) :
    NoLinks tmp (extractMember ms tmp cur depth i names d).1.fs := by
  induction depth generalizing i d with
  | zero => exact h
  | succ depth ih =>
      cases hm : ms[i]? with
      | none =>
          rw [extractMember, hm]
          exact h
      | some m =>
          have hplain := hms m (List.mem_of_getElem? hm)
          have hupper := makeUpper_noLinks tmp names h
          have hends : MemberEnd ms tmp cur depth i m names d _ := extractMember_ends hm
          generalize extractMember ms tmp cur (depth + 1) i names d = r at hends
          cases hends with
          | noUpper hup =>
              rw [hup] at hupper
              exact hupper
          | own hup hmade =>
              rw [hup] at hupper
              exact hmade.noLinks hplain hupper
          | instead hup hfails hr =>
              rw [hup] at hupper
              cases hfails with
              | symlink htype hfails => exact absurd htype (hplain.noSym _)
              | hardLink htype => exact hr.noLinks (fun j _ => ih j) hupper

theorem extractFrom_noLinks (hms : ∀ m ∈ ms, PlainMember m) (depth cur : Nat)
    (rest : List TarMember) (h : NoLinks tmp d.fs) :
    NoLinks tmp (extractFrom depth ms tmp cur rest d).1.fs := by
  induction rest generalizing cur d with
  | nil => exact h
  | cons m rest ih =>
      have hmember := extractMember_noLinks hms cur (depth + 1) cur (pathNames m.name) h
      rw [extractFrom]
      split
      next heq =>
        rw [heq] at hmember
        exact ih _ hmember
      next heq =>
        rw [heq] at hmember
        exact ih _ hmember
      · exact hmember

/-- All that a plain archive touches is in the temporary directory. -/
theorem plain_touched (hms : ∀ m ∈ ms, PlainMember m) (hnone : NoLinks tmp fs) (depth : Nat) :
    ∀ p ∈ (extractall depth ms tmp (Disk.put { fs } tmp .dir)).1.touched, tmp <+: p := by
  have hstart : NoLinks tmp (Disk.put { fs } tmp .dir).fs :=
    hnone.insert (fun t ht => by cases ht) tmp
  have hin : TouchesIn (Inside tmp tmp) (Disk.put { fs } tmp .dir)
      (extractFrom depth ms tmp 0 (ms.take ms.length) (Disk.put { fs } tmp .dir)).1 := by
    refine extractFrom_confined (fun k m d' hm hd => confined_of_plain hms hm ?_) ms.length
    have hfree := extractFrom_noLinks hms depth 0 (ms.take k) hstart
    rwa [hd] at hfree
  rw [List.take_length] at hin
  intro p hp
  rcases hin p hp with hold | hinside | hinside
  · rw [List.mem_singleton.mp hold]
  · exact hinside
  · exact hinside

section Restore

variable {parent : Path} {name : String} {ans : ImportAnswers}

theorem RestorePlace.noLinks {t : String} (h : RestorePlace fs parent name t) :
    NoLinks (parent ++ [t]) fs := by
  rintro p ⟨r, rfl⟩ target hlink
  have hnone := h.fresh r
  rw [treeAt, hlink] at hnone
  cases hnone

theorem safeSnapshotTarExtract_touched (ans : ImportAnswers) (dest : Path)
    (ms : List TarMember) (fs : Fs) :
    ∀ p ∈ (safeSnapshotTarExtract ans dest ms { fs }).1.touched,
      p ∈ (extractall ans.depth ms (tmpDir ans dest)
        (Disk.put { fs } (tmpDir ans dest) .dir)).1.touched := by
  have hclean : ∀ d : Disk, (cleanup (tmpDir ans dest) d).touched = d.touched := by
    intro d
    unfold cleanup
    split
    · rfl
    · rfl
  unfold safeSnapshotTarExtract
  dsimp only
  cases validateTarMembers fs dest ms with
  | error fault => exact fun p hp => absurd hp List.not_mem_nil
  | ok _ =>
      dsimp only
      rcases extractall ans.depth ms (tmpDir ans dest) (Disk.put { fs } (tmpDir ans dest) .dir) with
        ⟨d, _ | fault⟩
      · dsimp only
        rcases atomicSwap dest (tmpDir ans dest) d.fs with ⟨fs', _ | _⟩
        · rw [hclean]
          exact fun p hp => hp
        · rw [hclean]
          exact fun p hp => hp
      · cases fault with
        | os => exact fun p hp => by rwa [hclean] at hp
        | extract => exact fun p hp => by rwa [hclean] at hp
        | key => exact fun p hp => by rwa [hclean] at hp
        | recursion => exact fun p hp => by rwa [hclean] at hp

/-- **A plain archive is written into the temporary directory only, and its restore is all or
nothing.** -/
theorem plain_restore_all_or_nothing (hplace : RestorePlace fs parent name ans.tmpName)
    (hms : ∀ m ∈ ms, PlainMember m) :
    (∀ p ∈ (safeSnapshotTarExtract ans (parent ++ [name]) ms { fs }).1.touched,
        parent ++ [ans.tmpName] <+: p) ∧
      AllOrNothing fs
        (extractall ans.depth ms (parent ++ [ans.tmpName])
          (Disk.put { fs } (parent ++ [ans.tmpName]) .dir)).1.fs
        (parent ++ [name]) (parent ++ [ans.tmpName])
        ((safeSnapshotTarExtract ans (parent ++ [name]) ms { fs }).1.fs,
          (safeSnapshotTarExtract ans (parent ++ [name]) ms { fs }).2) := by
  have hnames := hplace.swapNames
  have htouched := plain_touched hms hplace.noLinks ans.depth
  have hcalls := extractFrom_calls ans.depth ms (parent ++ [ans.tmpName]) 0 ms
    (Disk.put { fs } (parent ++ [ans.tmpName]) .dir)
  have hsafe := safeSnapshotTarExtract_touched ans (parent ++ [name]) ms fs
  rw [tmpDir_append] at hsafe
  refine ⟨fun p hp => htouched p (hsafe p hp), ?_⟩
  have hrestore := restoreWith_none ans (parent ++ [name]) ms { fs }
  rw [tmpDir_append] at hrestore
  rw [← hrestore]
  generalize hout : extractall ans.depth ms (parent ++ [ans.tmpName])
    (Disk.put { fs } (parent ++ [ans.tmpName]) .dir) = out at htouched
  rw [show extractFrom ans.depth ms (parent ++ [ans.tmpName]) 0 ms _ = out from hout] at hcalls
  -- the extraction leaves the destination alone
  have hdest : treeAt out.1.fs (parent ++ [name]) = treeAt fs (parent ++ [name]) := by
    funext r
    have hapart := hnames.tmp_apart_dest.below r
    rw [treeAt, hcalls.records.changes _ fun hmem => hapart (htouched _ hmem),
      puts_put _ _ .dir, if_neg]
    · rfl
    · intro heq
      exact hapart (by rw [heq])
  obtain ⟨fs', fault, hresult, hcases⟩ :=
    restoreResult_cases none ans out hnames (hplace.atSwap (d := { fs }) hcalls)
  unfold restoreWith
  cases validateTarMembers fs (parent ++ [name]) ms with
  | error fault =>
      exact ⟨fun _ => ⟨rfl, funext hplace.fresh⟩, fun hnone => absurd hnone (Option.some_ne_none _)⟩
  | ok _ =>
      have hnoFault : ∀ call : SwapCall, none ≠ some call :=
        fun call => (Option.some_ne_none call).symm
      dsimp only
      rw [if_neg (hnoFault _), hresult, if_neg (hnoFault _), tmpDir_append]
      rcases hcases with ⟨-, hfault, hmoved, htmp, hdir⟩ | ⟨-, hfault, hkept, hat⟩
      · obtain ⟨hclean, -⟩ := cleanup_trees hnames hdir (.inr htmp)
        obtain rfl := hfault.mpr (hnoFault _)
        exact ⟨fun hno => absurd rfl hno, fun _ => hclean.trans hmoved⟩
      · obtain ⟨hclean, hgone⟩ := cleanup_trees hnames hat.dir (.inl hat.extracted)
        exact ⟨fun _ => ⟨hclean.trans (hkept.trans hdest), hgone⟩,
          fun hnone => absurd hnone hfault⟩

theorem plain_file_restored :
    (∀ p ∈ (safeSnapshotTarExtract restoreNames (["srv"] ++ ["w"]) [⟨"sub/new", .reg "2"⟩]
          { fs := projectWithBackup }).1.touched, ["srv"] ++ [restoreNames.tmpName] <+: p) ∧
      AllOrNothing projectWithBackup
        (extractall 100 [⟨"sub/new", .reg "2"⟩] (["srv"] ++ [restoreNames.tmpName])
          (Disk.put { fs := projectWithBackup } (["srv"] ++ [restoreNames.tmpName]) .dir)).1.fs
        (["srv"] ++ ["w"]) (["srv"] ++ [restoreNames.tmpName])
        ((safeSnapshotTarExtract restoreNames (["srv"] ++ ["w"]) [⟨"sub/new", .reg "2"⟩]
            { fs := projectWithBackup }).1.fs,
          (safeSnapshotTarExtract restoreNames (["srv"] ++ ["w"]) [⟨"sub/new", .reg "2"⟩]
            { fs := projectWithBackup }).2) := by
  refine plain_restore_all_or_nothing projectWithBackup_place fun m hm => ?_
  obtain rfl := List.mem_singleton.mp hm
  exact ⟨nofun, by decide, nofun⟩

end Restore

end Devnest
