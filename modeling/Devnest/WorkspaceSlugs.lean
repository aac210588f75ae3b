import Devnest.Routing
import Mathlib.Data.List.Chain
import Mathlib.Data.Nat.Find

/-!
# Slugs that can be used

`allocate_unique_workspace_url_slug` and its sibling for users try the slug of
the name, then that with `-2`, `-3` and so on. The slug is cut to the 128
characters of the column before a number is put behind it, and the cut can fall
right after a hyphen. `get_workspace_by_url_slug` slugifies what it is given,
so it finds a slug only if slugifying leaves it alone (`slugify_candidate_iff`).

`slugs_usable_iff` has the exact condition.
-/

namespace Devnest

/-! ## The search -/

/-- The loop of the allocators, with the next number and the candidate. -/
def searchSlug (taken : List String) (base : String) : Nat → Nat → String → Option String
  | 0, _, _ => none
  | fuel + 1, n, candidate =>
      if candidate ∈ taken then searchSlug taken base fuel (n + 1) (base ++ "-" ++ toString n)
      else some candidate

/-- The texts it tries. -/
def slugCandidate (base : String) : Nat → String
  | 0 => base
  | k + 1 => base ++ "-" ++ toString (k + 2)

/-- The first that is not taken is number `k`. -/
def FirstFree (taken : List String) (base : String) (k : Nat) : Prop :=
  slugCandidate base k ∉ taken ∧ ∀ j < k, slugCandidate base j ∈ taken

variable {taken : List String} {base : String}

/-- From candidate `i` on the search ends at the first that is free. -/
theorem searchSlug_of_firstFree {k : Nat} (h : FirstFree taken base k) {i fuel : Nat} (hi : i ≤ k)
    (hfuel : k < i + fuel) :
    searchSlug taken base fuel (i + 2) (slugCandidate base i) = some (slugCandidate base k) := by
  induction fuel generalizing i with
  | zero => omega
  | succ fuel ih =>
      rw [searchSlug]
      by_cases heq : i = k
      · rw [heq, if_neg h.1]
      · have hlt : i < k := by omega
        rw [if_pos (h.2 i hlt)]
        exact ih (i := i + 1) hlt (by omega)

/-- What a search that ends has found. -/
theorem firstFree_of_searchSlug {slug : String} {i fuel : Nat}
    (h : searchSlug taken base fuel (i + 2) (slugCandidate base i) = some slug)
    (hi : ∀ j < i, slugCandidate base j ∈ taken) :
    ∃ k, FirstFree taken base k ∧ slug = slugCandidate base k := by
  induction fuel generalizing i with
  | zero => cases h
  | succ fuel ih =>
      rw [searchSlug] at h
      split at h
      next hmem =>
        refine ih (i := i + 1) h fun j hj => ?_
        rcases Nat.lt_succ_iff_lt_or_eq.mp hj with hj | rfl
        · exact hi j hj
        · exact hmem
      next hfree => exact ⟨i, ⟨hfree, hi⟩, (Option.some.inj h).symm⟩

theorem mem_slugCandidates {c : String} {n : Nat} (h : c ∈ slugCandidates base n) :
    ∃ k ≤ n, c = slugCandidate base k := by
  rcases List.mem_cons.mp h with rfl | h
  · exact ⟨0, Nat.zero_le n, rfl⟩
  · obtain ⟨i, hi, rfl⟩ := List.mem_map.mp h
    exact ⟨i + 1, List.mem_range.mp hi, rfl⟩

/-- There is always a first free candidate, among one more than there are taken slugs. -/
theorem exists_firstFree (taken : List String) (base : String) :
    ∃ k ≤ taken.length, FirstFree taken base k := by
  obtain ⟨c, hc, hfree⟩ := exists_free_candidate taken base
  obtain ⟨k, hk, rfl⟩ := mem_slugCandidates hc
  have hex : ∃ k, slugCandidate base k ∉ taken := ⟨k, hfree⟩
  classical
  refine ⟨Nat.find hex, (Nat.find_min' hex hfree).trans hk, Nat.find_spec hex, fun j hj => ?_⟩
  by_contra hno
  exact Nat.find_min hex hj hno

theorem slugCandidates_eq (base : String) (n : Nat) :
    slugCandidates base n = (List.range (n + 1)).map (slugCandidate base) := by
  rw [List.range_succ_eq_map, List.map_cons, List.map_map]
  rfl

/-- The loop ends, with one round more than there are taken slugs at most, at the first free
slug. -/
theorem searchSlug_eq (taken : List String) (base : String) {fuel : Nat}
    (h : taken.length < fuel) :
    searchSlug taken base fuel 2 base = some (firstFreeSlug taken base) := by
  obtain ⟨k, hk, hfirst⟩ := exists_firstFree taken base
  have hfound : (List.range (taken.length + 1)).find? (fun i => slugCandidate base i ∉ taken) =
      some k := by
    rw [List.find?_range_eq_some]
    refine ⟨by simpa using hfirst.1, List.mem_range.mpr (by omega), fun j hj => ?_⟩
    simpa using hfirst.2 j hj
  have hfree : firstFreeSlug taken base = slugCandidate base k := by
    unfold firstFreeSlug
    rw [slugCandidates_eq, List.find?_map]
    exact congrArg (fun o => (Option.map (slugCandidate base) o).getD base) hfound
  rw [hfree]
  exact searchSlug_of_firstFree (i := 0) hfirst (Nat.zero_le k) (by omega)

/-! ## What slugifying leaves alone -/

/-- No two hyphens in a row. -/
def NoRuns (l : List Char) : Prop := l.IsChain fun a b => ¬ (a = '-' ∧ b = '-')

theorem NoRuns.of_isInfix {l l' : List Char} (hl : NoRuns l) (h : l' <:+: l) : NoRuns l' := by
  obtain ⟨before, after, rfl⟩ := h
  exact (List.IsChain.left_of_append hl).right_of_append

theorem subRuns_noRuns (b : Bool) (l : List Char) :
    NoRuns (PyText.subRuns (· = '-') '-' b l) ∧
      (b = true → (PyText.subRuns (· = '-') '-' b l).head? ≠ some '-') := by
  induction l generalizing b with
  | nil => exact ⟨List.isChain_nil, fun _ => by simp [PyText.subRuns]⟩
  | cons c l ih =>
      rw [PyText.subRuns]
      by_cases hc : c = '-'
      · rw [if_neg (by simp [hc])]
        cases b with
        | true => exact ⟨(ih true).1, fun _ => (ih true).2 rfl⟩
        | false =>
            rw [if_neg Bool.false_ne_true]
            refine ⟨List.isChain_cons.mpr ⟨fun d hd hdash => ?_, (ih true).1⟩, fun h => by cases h⟩
            exact (ih true).2 rfl (hdash.2 ▸ hd)
      · rw [if_pos (by simp [hc])]
        refine ⟨List.isChain_cons.mpr ⟨fun d _ hdash => hc hdash.1, (ih false).1⟩, fun _ h => ?_⟩
        exact hc (Option.some.inj h)

theorem subRuns_of_noRuns {b : Bool} {l : List Char} (h : NoRuns l)
    (hb : b = true → l.head? ≠ some '-') : PyText.subRuns (· = '-') '-' b l = l := by
  induction l generalizing b with
  | nil => rfl
  | cons c l ih =>
      obtain ⟨hhead, htail⟩ := List.isChain_cons.mp h
      rw [PyText.subRuns]
      by_cases hc : c = '-'
      · rw [if_neg (by simp [hc])]
        cases b with
        | true => exact absurd (congrArg some hc) (hb rfl)
        | false =>
            rw [if_neg Bool.false_ne_true, hc]
            exact congrArg _ (ih htail fun _ hl => hhead '-' hl ⟨hc, rfl⟩)
      · rw [if_pos (by simp [hc])]
        exact congrArg _ (ih htail fun hf => by cases hf)

theorem length_subRuns_le (p : Char → Bool) (r : Char) (b : Bool) (l : List Char) :
    (PyText.subRuns p r b l).length ≤ l.length := by
  induction l generalizing b with
  | nil => exact Nat.le_refl 0
  | cons c l ih =>
      rw [PyText.subRuns]
      split
      · simpa using ih false
      split
      · exact (ih true).trans (Nat.le_succ _)
      · simpa using ih true

/-- `strip("-")` on the characters. -/
def trimDash (l : List Char) : List Char :=
  ((l.dropWhile (· = '-')).reverse.dropWhile (· = '-')).reverse

theorem trimDash_isPrefix (l : List Char) : trimDash l <+: l.dropWhile (· = '-') := by
  have hsuf := List.dropWhile_suffix (· = '-') (l := (l.dropWhile (· = '-')).reverse)
  rwa [← List.reverse_prefix, List.reverse_reverse] at hsuf

theorem trimDash_isInfix (l : List Char) : trimDash l <:+: l :=
  (trimDash_isPrefix l).isInfix.trans (List.dropWhile_suffix _).isInfix

theorem trimDash_eq_self {l : List Char} (hhead : l.head? ≠ some '-')
    (hlast : l.getLast? ≠ some '-') : trimDash l = l := by
  have hself : ∀ {l : List Char}, l.head? ≠ some '-' → l.dropWhile (· = '-') = l := by
    intro l h
    cases l with
    | nil => rfl
    | cons c l => rw [List.dropWhile_cons_of_neg (by simpa using h)]
  unfold trimDash
  rw [hself hhead, hself (by rwa [List.head?_reverse]), List.reverse_reverse]

theorem getLast_trimDash (l : List Char) : (trimDash l).getLast? ≠ some '-' := by
  unfold trimDash
  rw [List.getLast?_reverse]
  intro h
  have hno := List.head?_dropWhile_not (· = '-') (l.dropWhile (· = '-')).reverse
  rw [h] at hno
  simp at hno

theorem head_trimDash (l : List Char) : (trimDash l).head? ≠ some '-' := by
  intro h
  obtain ⟨t, ht⟩ := trimDash_isPrefix l
  have hhead : (l.dropWhile (· = '-')).head? = some '-' := by
    rw [← ht, List.head?_append, h]
    rfl
  have hno := List.head?_dropWhile_not (· = '-') l
  rw [hhead] at hno
  simp at hno

/-- Slugifying a slug only collapses, trims and cuts it. -/
theorem slugify_of_isSlug {s : String} (h : IsSlug s) :
    slugifyWorkspaceName s =
      String.ofList ((trimDash (PyText.subRuns (· = '-') '-' false s.toList)).take 128) := by
  have hspace : ∀ {l : List Char}, (∀ c ∈ l, isSlugChar c = true) →
      PyText.subRuns PyText.isSpace '-' false l = l := by
    intro l hl
    induction l with
    | nil => rfl
    | cons c l ih =>
        rw [PyText.subRuns, if_pos (by simp [(isSlugChar_cases (hl c List.mem_cons_self)).1])]
        exact congrArg (c :: ·) (ih fun d hd => hl d (List.mem_cons_of_mem c hd))
  unfold slugifyWorkspaceName
  dsimp only
  rw [h.lower_strip, hspace h.2, List.filter_eq_self.mpr h.2]
  simp only [PyText.take, PyText.stripChar, String.toList_ofList]
  rfl

theorem slugify_eq_self_iff {s : String} (h : IsSlug s) :
    slugifyWorkspaceName s = s ↔
      s.length ≤ 128 ∧ NoRuns s.toList ∧ s.toList.head? ≠ some '-' ∧
        s.toList.getLast? ≠ some '-' := by
  rw [slugify_of_isSlug h, ← String.length_toList]
  constructor
  · intro heq
    have hlist : (trimDash (PyText.subRuns (· = '-') '-' false s.toList)).take 128 = s.toList := by
      have htext := congrArg String.toList heq
      rwa [String.toList_ofList] at htext
    have hruns := (subRuns_noRuns false s.toList).1
    have hlen := (trimDash_isInfix (PyText.subRuns (· = '-') '-' false s.toList)).length_le.trans
      (length_subRuns_le _ _ _ _)
    generalize PyText.subRuns (· = '-') '-' false s.toList = l at *
    have h128 : s.toList.length ≤ 128 := by
      rw [← hlist, List.length_take]
      exact Nat.min_le_left _ _
    have hwhole : trimDash l = s.toList := by
      rw [← hlist, List.take_of_length_le]
      omega
    refine ⟨h128, ?_, ?_, ?_⟩
    · rw [← hwhole]
      exact hruns.of_isInfix (trimDash_isInfix l)
    · rw [← hwhole]
      exact head_trimDash l
    · rw [← hwhole]
      exact getLast_trimDash l
  · rintro ⟨hlen, hruns, hhead, hlast⟩
    rw [subRuns_of_noRuns hruns (fun hf => by cases hf), trimDash_eq_self hhead hlast,
      List.take_of_length_le hlen, String.ofList_toList]

/-- What the slug of a name is, whatever its last character. -/
structure IsBase (base : String) : Prop where
  slug : IsSlug base
  runs : NoRuns base.toList
  head : base.toList.head? ≠ some '-'

theorem slugOr_isBase {fallback : String} (h : IsBase fallback) (raw : String) :
    IsBase (slugOr fallback raw) := by
  refine ⟨slugOr_isSlug h.slug raw, ?_, ?_⟩
  · unfold slugOr
    split_ifs
    · unfold slugifyWorkspaceName
      simp only [PyText.take, PyText.stripChar, String.toList_ofList]
      exact ((subRuns_noRuns _ _).1.of_isInfix (trimDash_isInfix _)).of_isInfix
        (List.take_prefix _ _).isInfix
    · exact h.runs
  · unfold slugOr
    split_ifs
    · unfold slugifyWorkspaceName
      simp only [PyText.take, PyText.stripChar, String.toList_ofList]
      rw [List.head?_take, if_neg (by decide)]
      exact head_trimDash _
    · exact h.head

theorem isSlug_slugCandidate (h : IsSlug base) (k : Nat) : IsSlug (slugCandidate base k) := by
  cases k with
  | zero => exact h
  | succ k => exact isSlug_suffix h (k + 2)

/-- A candidate is found again exactly when it fits the column and no hyphen ends the base. -/
theorem slugify_candidate_iff (h : IsBase base) (k : Nat) :
    slugifyWorkspaceName (slugCandidate base k) = slugCandidate base k ↔
      (slugCandidate base k).length ≤ 128 ∧ base.toList.getLast? ≠ some '-' := by
  rw [slugify_eq_self_iff (isSlug_slugCandidate h.slug k)]
  refine and_congr_right fun _ => ?_
  cases k with
  | zero => exact ⟨fun hc => hc.2.2, fun hc => ⟨h.runs, h.head, hc⟩⟩
  | succ k =>
      have hdigits : ∀ c ∈ (toString (k + 2)).toList, c ≠ '-' := by
        rintro c hc rfl
        exact PyText.dash_not_mem_toString (k + 2) hc
      have htext : (slugCandidate base (k + 1)).toList =
          base.toList ++ '-' :: (toString (k + 2)).toList := by
        rw [slugCandidate, String.toList_append, String.toList_append, List.append_assoc]
        rfl
      have htail : NoRuns ('-' :: (toString (k + 2)).toList) := by
        refine List.isChain_cons.mpr ⟨fun d hd hdash => ?_, ?_⟩
        · exact hdigits d (List.mem_of_mem_head? hd) hdash.2
        · exact List.Pairwise.isChain
            (List.pairwise_of_forall_mem_list fun c hc _ _ hdash => hdigits c hc hdash.1)
      rw [htext]
      constructor
      · rintro ⟨hruns, -, -⟩ hlast
        exact (List.isChain_append.mp hruns).2.2 '-' hlast '-' rfl ⟨rfl, rfl⟩
      · intro hlast
        refine ⟨List.isChain_append.mpr ⟨h.runs, htail, fun c hc d hd hdash => ?_⟩, ?_, fun hend => ?_⟩
        · exact hlast (hdash.1 ▸ hc)
        · cases hb : base.toList with
          | nil => exact absurd (String.toList_eq_nil_iff.mp hb) h.slug.1
          | cons c l =>
              have hhead := h.head
              rw [hb] at hhead
              exact hhead
        · have hne : (toString (k + 2)).toList ≠ [] :=
            fun hnil => PyText.toString_ne_empty (k + 2) (String.toList_eq_nil_iff.mp hnil)
          rw [List.append_cons, List.getLast?_append_of_ne_nil _ hne] at hend
          exact hdigits '-' (List.mem_of_getLast? hend) rfl

/-! ## Looking a slug up -/

/-- `func.lower` of the database, which leaves slugs alone. -/
structure SqlLower where
  lower : String → String
  slug : ∀ s, IsSlug s → lower s = s

/-- `get_workspace`, its row only. -/
def getWorkspace (rows : List WorkspaceAddress) (workspaceId ownerUserId : Nat) :
    Option WorkspaceAddress :=
  match rows.find? fun w => w.workspaceId = workspaceId && w.ownerUserId = ownerUserId with
  | none => none
  | some w => if w.status = .deleted then none else some w

/-- The rows of the query. -/
def slugMatches (sql : SqlLower) (ownerUserId : Nat) (want : String) (w : WorkspaceAddress) :
    Bool :=
  w.ownerUserId = ownerUserId && sql.lower w.urlSlug = PyText.lower want && w.status ≠ .deleted

/-- `get_workspace_by_url_slug`, over the rows in the order in which the database has them. -/
def getWorkspaceByUrlSlug (sql : SqlLower) (rows : List WorkspaceAddress) (ownerUserId : Nat)
    (urlSlug : String) : Option WorkspaceAddress :=
  let want := slugifyWorkspaceName urlSlug
  if want = "" then none
  else (rows.find? (slugMatches sql ownerUserId want)).bind fun w =>
    getWorkspace rows w.workspaceId ownerUserId

/-! ## What should hold -/

/-- Once a workspace is stored under the slug, the slug leads to it. -/
def LeadsBack (sql : SqlLower) (d : Directory) (owner : Nat) (slug : String) : Prop :=
  ∀ w : WorkspaceAddress, w.ownerUserId = owner → w.urlSlug = slug → w.status ≠ .deleted →
    (∀ v ∈ d.workspaces, v.workspaceId ≠ w.workspaceId) →
      ∀ rows, rows.Perm (w :: d.workspaces) → getWorkspaceByUrlSlug sql rows owner slug = some w

/-- The search for a workspace slug ends, with a slug that can be used. -/
def UsableUrlSlug (sql : SqlLower) (d : Directory) (owner : Nat) (name : String) : Prop :=
  ∃ slug, (∃ fuel, searchSlug (takenUrlSlugs d owner) (slugOr "workspace" name) fuel 2
      (slugOr "workspace" name) = some slug) ∧
    slug ≠ "" ∧ slug.length ≤ 128 ∧ slug ∉ takenUrlSlugs d owner ∧ LeadsBack sql d owner slug

def takenSubdomains (d : Directory) : List String := d.users.filterMap (·.routeSubdomainSlug)

/-- So does that for the slug of a user. -/
def UsableSubdomain (d : Directory) (username : String) : Prop :=
  ∃ slug, (∃ fuel, searchSlug (takenSubdomains d) (slugOr "user" username) fuel 2
      (slugOr "user" username) = some slug) ∧
    slug ∉ takenSubdomains d ∧ slug.length ≤ 128

/-- The cut does not leave a hyphen at the end, and the first free candidate fits the column and
is no other workspace's slug in other letters. -/
structure UrlSlugFits (sql : SqlLower) (d : Directory) (owner : Nat) (name : String) : Prop where
  cut : (slugOr "workspace" name).toList.getLast? ≠ some '-'
  free : ∃ k, FirstFree (takenUrlSlugs d owner) (slugOr "workspace" name) k ∧
    (slugCandidate (slugOr "workspace" name) k).length ≤ 128 ∧
    ∀ v ∈ d.workspaces, v.ownerUserId = owner → v.status ≠ .deleted →
      sql.lower v.urlSlug ≠ slugCandidate (slugOr "workspace" name) k

def SubdomainFits (d : Directory) (username : String) : Prop :=
  ∃ k, FirstFree (takenSubdomains d) (slugOr "user" username) k ∧
    (slugCandidate (slugOr "user" username) k).length ≤ 128

/-! ## When it does -/

variable {sql : SqlLower} {d : Directory} {owner : Nat} {slug name : String}
  {w : WorkspaceAddress}

theorem isBase_workspace : IsBase "workspace" := by
  refine ⟨by decide, ?_, by decide⟩
  unfold NoRuns
  decide

theorem getWorkspace_of_mem {rows : List WorkspaceAddress} (hmem : w ∈ rows)
    (hown : w.ownerUserId = owner) (halive : w.status ≠ .deleted)
    (honly : ∀ v ∈ rows, v.workspaceId = w.workspaceId → v = w) :
    getWorkspace rows w.workspaceId owner = some w := by
  unfold getWorkspace
  cases hf : rows.find? fun v => v.workspaceId = w.workspaceId && v.ownerUserId = owner with
  | none =>
      have hno := List.find?_eq_none.mp hf w hmem
      simp [hown] at hno
  | some v =>
      have hv := List.find?_some hf
      simp only [Bool.and_eq_true, decide_eq_true_eq] at hv
      obtain rfl := honly v (List.mem_of_find?_eq_some hf) hv.1
      dsimp only
      rw [if_neg halive]

/-- A slug leads back if slugifying leaves it alone and no other row has it in other letters. -/
theorem leadsBack_of_fixed (hslug : IsSlug slug) (hfix : slugifyWorkspaceName slug = slug)
    (hother : ∀ v ∈ d.workspaces, v.ownerUserId = owner → v.status ≠ .deleted →
      sql.lower v.urlSlug ≠ slug) : LeadsBack sql d owner slug := by
  intro w hown hurl halive hfresh rows hperm
  have hmem : w ∈ rows := hperm.mem_iff.mpr List.mem_cons_self
  have hlower : PyText.lower slug = slug := by
    rw [PyText.lower, lowerChars_slug hslug.2, String.ofList_toList]
  have hrow : ∀ v ∈ rows, slugMatches sql owner slug v = true → v = w := by
    intro v hv hmatch
    simp only [slugMatches, Bool.and_eq_true, decide_eq_true_eq, hlower] at hmatch
    rcases List.mem_cons.mp (hperm.mem_iff.mp hv) with rfl | hold
    · rfl
    · exact absurd hmatch.1.2 (hother v hold hmatch.1.1 hmatch.2)
  unfold getWorkspaceByUrlSlug
  dsimp only
  rw [hfix, if_neg hslug.1]
  cases hf : rows.find? (slugMatches sql owner slug) with
  | none =>
      have hno := List.find?_eq_none.mp hf w hmem
      simp [slugMatches, hown, hurl, halive, sql.slug slug hslug, hlower] at hno
  | some v =>
      obtain rfl := hrow v (List.mem_of_find?_eq_some hf) (List.find?_some hf)
      refine getWorkspace_of_mem hmem hown halive fun u hu hid => ?_
      rcases List.mem_cons.mp (hperm.mem_iff.mp hu) with rfl | hold
      · rfl
      · exact absurd hid (hfresh u hold)

/-- An id that no row has. -/
theorem exists_fresh_id (rows : List WorkspaceAddress) : ∃ n, ∀ v ∈ rows, v.workspaceId < n := by
  induction rows with
  | nil => exact ⟨0, fun v hv => by cases hv⟩
  | cons v rows ih =>
      obtain ⟨n, hn⟩ := ih
      refine ⟨max n (v.workspaceId + 1), fun u hu => ?_⟩
      rcases List.mem_cons.mp hu with rfl | hu
      · omega
      · have hlt := hn u hu
        omega

theorem fixed_of_leadsBack (hslug : IsSlug slug) (h : LeadsBack sql d owner slug) :
    slugifyWorkspaceName slug = slug ∧ ∀ v ∈ d.workspaces, v.ownerUserId = owner →
      v.status ≠ .deleted → sql.lower v.urlSlug ≠ slug := by
  obtain ⟨n, hless⟩ := exists_fresh_id d.workspaces
  have hfresh : ∀ v ∈ d.workspaces, v.workspaceId ≠ n := fun v hv => (hless v hv).ne
  let w : WorkspaceAddress :=
    { workspaceId := n, ownerUserId := owner, urlSlug := slug, status := .running }
  have halive : w.status ≠ .deleted := WorkspaceStatus.noConfusion
  have hback := h w rfl rfl halive hfresh
  have hfix : slugifyWorkspaceName slug = slug := by
    have hget := hback _ (List.Perm.refl _)
    unfold getWorkspaceByUrlSlug at hget
    dsimp only at hget
    split at hget
    · cases hget
    next hne =>
      -- the row found is the new one, so its slug is the text looked for
      obtain ⟨v, hv, hfound⟩ := Option.bind_eq_some_iff.mp hget
      have hmatch := List.find?_some hv
      simp only [slugMatches, Bool.and_eq_true, decide_eq_true_eq] at hmatch
      have hid : v.workspaceId = n := by
        unfold getWorkspace at hfound
        split at hfound
        · cases hfound
        next u hu =>
          split at hfound
          · cases hfound
          · obtain rfl := Option.some.inj hfound
            have hsame := List.find?_some hu
            simp only [Bool.and_eq_true, decide_eq_true_eq] at hsame
            exact hsame.1.symm
      have hnew : v = w := by
        rcases List.mem_cons.mp (List.mem_of_find?_eq_some hv) with rfl | hold
        · rfl
        · exact absurd hid (hfresh v hold)
      have hwant : IsSlug (slugifyWorkspaceName slug) := ⟨hne, fun c hc => slugify_chars hc⟩
      rw [hnew, PyText.lower, lowerChars_slug hwant.2, String.ofList_toList] at hmatch
      exact (hmatch.1.2.symm.trans (sql.slug slug hslug))
  refine ⟨hfix, fun v hv hown halive hlower => ?_⟩
  have hperm : (v :: w :: d.workspaces.erase v).Perm (w :: d.workspaces) :=
    (List.Perm.swap w v _).trans ((List.perm_cons_erase hv).symm.cons w)
  have hget := hback _ hperm
  unfold getWorkspaceByUrlSlug at hget
  dsimp only at hget
  rw [hfix, if_neg hslug.1, List.find?_cons_of_pos, Option.bind_some] at hget
  · unfold getWorkspace at hget
    split at hget
    · cases hget
    next u hu =>
      split at hget
      · cases hget
      · obtain rfl := Option.some.inj hget
        have hsame := List.find?_some hu
        simp only [Bool.and_eq_true, decide_eq_true_eq] at hsame
        exact hfresh v hv hsame.1.symm
  · simp only [slugMatches, Bool.and_eq_true, decide_eq_true_eq]
    refine ⟨⟨hown, ?_⟩, halive⟩
    rw [hlower, PyText.lower, lowerChars_slug hslug.2, String.ofList_toList]

theorem usableUrlSlug_iff (sql : SqlLower) (d : Directory) (owner : Nat) (name : String) :
    UsableUrlSlug sql d owner name ↔ UrlSlugFits sql d owner name := by
  have hbase : IsBase (slugOr "workspace" name) := slugOr_isBase isBase_workspace name
  constructor
  · rintro ⟨slug, ⟨fuel, hsearch⟩, -, hlen, -, hback⟩
    obtain ⟨k, hfirst, rfl⟩ := firstFree_of_searchSlug (i := 0) hsearch fun j hj => by omega
    obtain ⟨hfix, hother⟩ := fixed_of_leadsBack (isSlug_slugCandidate hbase.slug k) hback
    exact ⟨((slugify_candidate_iff hbase k).mp hfix).2, k, hfirst, hlen, hother⟩
  · rintro ⟨hcut, k, hfirst, hlen, hother⟩
    have hslug := isSlug_slugCandidate hbase.slug k
    refine ⟨_, ⟨k + 1, searchSlug_of_firstFree (i := 0) hfirst (Nat.zero_le k) (by omega)⟩,
      hslug.1, hlen, hfirst.1, ?_⟩
    exact leadsBack_of_fixed hslug ((slugify_candidate_iff hbase k).mpr ⟨hlen, hcut⟩) hother

theorem usableSubdomain_iff (d : Directory) (username : String) :
    UsableSubdomain d username ↔ SubdomainFits d username := by
  constructor
  · rintro ⟨slug, ⟨fuel, hsearch⟩, -, hlen⟩
    obtain ⟨k, hfirst, rfl⟩ := firstFree_of_searchSlug (i := 0) hsearch fun j hj => by omega
    exact ⟨k, hfirst, hlen⟩
  · rintro ⟨k, hfirst, hlen⟩
    exact ⟨_, ⟨k + 1, searchSlug_of_firstFree (i := 0) hfirst (Nat.zero_le k) (by omega)⟩,
      hfirst.1, hlen⟩

/-- The allocators give slugs that can be used exactly when the cut and the number leave them so. -/
theorem slugs_usable_iff (sql : SqlLower) (d : Directory) (owner : Nat) (name username : String) :
    UsableUrlSlug sql d owner name ∧ UsableSubdomain d username ↔
      UrlSlugFits sql d owner name ∧ SubdomainFits d username :=
  and_congr (usableUrlSlug_iff sql d owner name) (usableSubdomain_iff d username)

/-- A name whose slug is cut right after a hyphen. -/
def cutName : String := String.ofList (List.replicate 127 'a' ++ [' ', 'b'])

theorem cut_after_hyphen_is_lost :
    ¬ ∀ (sql : SqlLower) (d : Directory) (owner : Nat) (name username : String),
      UsableUrlSlug sql d owner name ∧ UsableSubdomain d username := by
  intro h
  have hfits := (usableUrlSlug_iff ⟨id, fun _ _ => rfl⟩ .empty 1 cutName).mp
    (h ⟨id, fun _ _ => rfl⟩ .empty 1 cutName "user").1
  exact hfits.cut (by decide +kernel)

end Devnest
