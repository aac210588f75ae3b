import Mathlib.Data.List.Perm.Subperm
import Mathlib.Data.List.Nodup
import Devnest.PyText
import Devnest.Runs
import Devnest.Rows

/-!
# Workspace addresses

In tenant mode a workspace is reached at `<user slug>.<base domain>` under
`/workspaces/<workspace slug>`. This module has the slugs and who assigns
them: `slugify_workspace_name`, the two allocators, the public identity of a
workspace, and the parsers of the host and of the path.

The directory is what registrations and creations make of them.
`named_run` is its invariant: slugs are plain, and a user slug belongs to one
user. A workspace slug is free when it is given, among the owner's workspaces
that are not deleted; a deleted workspace can come back, and then two of them
have one slug. `wellNamed_run` is what the invariant says in tenant mode
behind the gateway.
-/

namespace Devnest

/-! ## Settings -/

structure RoutingSettings where
  devnestBaseDomain : Option String := none
  devnestPublicBaseDomain : Option String := none
  devnestWorkspaceDomainMode : Option String := none
  devnestTenantSubdomainRoutingEnabled : Bool := false
  devnestGatewayEnabled : Bool := false
  devnestGatewayAuthEnabled : Bool := false
  deriving DecidableEq, Repr

/-- `(domain or "").strip().strip(".")`. -/
def cleanDomain (domain : Option String) : String := PyText.stripChar '.' (PyText.stripOr domain)

def effectivePublicBaseDomain (s : RoutingSettings) : String :=
  if cleanDomain s.devnestPublicBaseDomain ≠ "" then cleanDomain s.devnestPublicBaseDomain
  else cleanDomain s.devnestBaseDomain

def tenantWorkspaceUrlsEnabled (s : RoutingSettings) : Bool :=
  let mode := PyText.lower (PyText.stripOr s.devnestWorkspaceDomainMode)
  if mode = "legacy" then false
  else if mode = "tenant" then true
  else s.devnestTenantSubdomainRoutingEnabled

/-! ## Slugs -/

def isSlugChar (c : Char) : Bool := PyText.isLetter c || ('0' ≤ c && c ≤ '9') || c = '-'

/-- `slugify_workspace_name`. -/
def slugifyWorkspaceName (raw : String) : String :=
  let s := (PyText.lower (PyText.strip raw)).toList
  let s := PyText.subRuns PyText.isSpace '-' false s
  let s := s.filter isSlugChar
  let s := PyText.subRuns (· = '-') '-' false s
  PyText.take 128 (PyText.stripChar '-' (String.ofList s))

/-- The texts the allocators try, in order: the base, then `base-2`,
`base-3` and so on. -/
def slugCandidates (base : String) (n : Nat) : List String :=
  base :: (List.range n).map fun i => base ++ "-" ++ toString (i + 2)

/-- The first candidate that is not taken. One more candidate than there are
taken slugs is enough. -/
def firstFreeSlug (taken : List String) (base : String) : String :=
  ((slugCandidates base taken.length).find? (· ∉ taken)).getD base

def slugOr (fallback raw : String) : String :=
  if slugifyWorkspaceName raw ≠ "" then slugifyWorkspaceName raw else fallback

/-! ## Users and workspaces -/

structure UserAuth where
  userAuthId : Nat
  routeSubdomainSlug : Option String
  deriving DecidableEq, Repr

/-- A workspace as the gateway sees it. -/
structure WorkspaceAddress where
  workspaceId : Nat
  ownerUserId : Nat
  urlSlug : String
  projectStorageKey : Option String := none
  status : WorkspaceStatus
  publicHost : Option String := none
  gatewayPathPrefix : Option String := none
  deriving DecidableEq, Repr

structure Directory where
  users : List UserAuth
  workspaces : List WorkspaceAddress
  deriving DecidableEq, Repr

namespace Directory

def empty : Directory := ⟨[], []⟩

def user (d : Directory) (id : Nat) : Option UserAuth := d.users.find? (·.userAuthId = id)

def workspace (d : Directory) (id : Nat) : Option WorkspaceAddress :=
  d.workspaces.find? (·.workspaceId = id)

def running (d : Directory) : List WorkspaceAddress := d.workspaces.filter (·.status = .running)

/-- The same rows, in the order in which a query without `ORDER BY` meets them. -/
def SameRows (d d' : Directory) : Prop :=
  d'.users.Perm d.users ∧ d'.workspaces.Perm d.workspaces

end Directory

/-- `allocate_unique_route_subdomain_slug`. -/
def allocateUniqueRouteSubdomainSlug (d : Directory) (preferredUsername : String) : String :=
  firstFreeSlug (d.users.filterMap (·.routeSubdomainSlug)) (slugOr "user" preferredUsername)

/-- The slugs of an owner's workspaces that are not deleted. -/
def takenUrlSlugs (d : Directory) (ownerUserId : Nat) : List String :=
  (d.workspaces.filter fun w => w.ownerUserId = ownerUserId && w.status ≠ .deleted).map (·.urlSlug)

/-- `allocate_unique_workspace_url_slug`. -/
def allocateUniqueWorkspaceUrlSlug (d : Directory) (ownerUserId : Nat) (displayName : String) :
    String :=
  firstFreeSlug (takenUrlSlugs d ownerUserId) (slugOr "workspace" displayName)

/-- `_gateway_unique_public_host`. -/
def gatewayUniquePublicHost (workspaceId : Nat) (baseDomain : Option String)
    (projectStorageKey : Option String) : String :=
  let dom := PyText.stripChar '.' (PyText.strip (match baseDomain with
    | none => "app.devnest.local"
    | some b => if b = "" then "app.devnest.local" else b))
  let suffix := PyText.lower (PyText.stripOr projectStorageKey)
  let label := "ws-" ++ toString workspaceId ++ (if suffix ≠ "" then "-" ++ suffix else "")
  label ++ "." ++ dom

/-- `_assign_workspace_gateway_public_identity`. -/
def assignWorkspaceGatewayPublicIdentity (s : RoutingSettings) (d : Directory)
    (ws : WorkspaceAddress) : WorkspaceAddress :=
  if !s.devnestGatewayEnabled then ws
  else
    match d.user ws.ownerUserId with
    | none => ws
    | some owner =>
        let sub := PyText.lower (PyText.stripOr owner.routeSubdomainSlug)
        let slug := PyText.lower (PyText.strip ws.urlSlug)
        if tenantWorkspaceUrlsEnabled s && sub ≠ "" && slug ≠ "" then
          { ws with publicHost := some (sub ++ "." ++ effectivePublicBaseDomain s)
                    gatewayPathPrefix := some ("/workspaces/" ++ slug) }
        else
          { ws with
            publicHost := some (gatewayUniquePublicHost ws.workspaceId s.devnestBaseDomain
              ws.projectStorageKey)
            gatewayPathPrefix := none }

/-! ## The directory over time -/

inductive DirectoryEvent where
  | register (username : String)
  | create (ownerUserId : Nat) (name : String) (projectStorageKey : Option String)
  | setStatus (workspaceId : Nat) (status : WorkspaceStatus)
  deriving DecidableEq, Repr

/-- The row of a new workspace. -/
def newWorkspace (s : RoutingSettings) (d : Directory) (ownerUserId : Nat) (name : String)
    (projectStorageKey : Option String) : WorkspaceAddress :=
  assignWorkspaceGatewayPublicIdentity s d
    { workspaceId := d.workspaces.length + 1
      ownerUserId := ownerUserId
      urlSlug := allocateUniqueWorkspaceUrlSlug d ownerUserId name
      projectStorageKey := projectStorageKey
      status := .pending }

/-- Registrations, creations by a registered user, and changes of status, also
of a workspace that was DELETED: its slug may have been given away. -/
def Directory.step (s : RoutingSettings) (d : Directory) : DirectoryEvent → Directory
  | .register username =>
      { d with users := d.users ++
          [⟨d.users.length + 1, some (allocateUniqueRouteSubdomainSlug d username)⟩] }
  | .create ownerUserId name projectStorageKey =>
      if (d.user ownerUserId).isSome then
        { d with workspaces := d.workspaces
            ++ [newWorkspace s d ownerUserId name projectStorageKey] }
      else d
  | .setStatus workspaceId status =>
      { d with workspaces := d.workspaces.map fun w =>
          if w.workspaceId = workspaceId then { w with status := status } else w }

/-! ## Parsing an address -/

/-- `(host or "").strip().split(":")[0].lower()`. -/
def cleanHost (host : String) : String :=
  String.ofList (PyText.lowerChars ((PyText.stripChars host.toList).takeWhile (· ≠ ':')))

/-- `(base_domain or "").strip().lower().strip(".")`. -/
def lowerDomain (baseDomain : String) : String :=
  PyText.stripChar '.' (PyText.lower (PyText.strip baseDomain))

/-- `s[: -len(suffix)]` when `s` ends with `suffix`. -/
def withoutSuffix (s suffix : String) : Option String :=
  if suffix.toList <:+ s.toList then
    some (String.ofList (s.toList.take (s.toList.length - suffix.toList.length)))
  else none

/-- `parse_workspace_host`. -/
def parseWorkspaceHost (host baseDomain : String) : Option String :=
  let h := cleanHost host
  let dom := lowerDomain baseDomain
  if h = "" || dom = "" then none
  else
    (withoutSuffix h ("." ++ dom)).bind fun label =>
      let label := PyText.stripChar '.' (PyText.strip label)
      if label = "" || '.' ∈ label.toList then none else some label

/-- The characters after `/workspaces/`, up to the next slash. -/
def pathSegment (path : List Char) : Option (List Char) :=
  if "/workspaces/".toList <+: path then
    let segment := (path.drop 12).takeWhile (· ≠ '/')
    if segment = [] then none else some segment
  else none

/-- `extract_workspace_slug_from_path`; `urlparsePath` is `urlparse(raw).path`, for
a URI that does not start with a slash. -/
def extractWorkspaceSlugFromPath (urlparsePath : String → String) (pathOrUri : String) :
    Option String :=
  let raw := PyText.strip pathOrUri
  let path := raw.toList.takeWhile (· ≠ '?')
  let path := match path with
    | [] => []
    | c :: _ =>
        if c = '/' then path
        else if urlparsePath raw = "" then ['/'] else (urlparsePath raw).toList
  (pathSegment path).bind fun segment =>
    let slug := PyText.lower (PyText.strip (String.ofList segment))
    if slug = "" then none else some slug

/-! ## What a slug is made of -/

/-- A non-empty text of lower-case letters, digits and hyphens. -/
def IsSlug (s : String) : Prop := s ≠ "" ∧ ∀ c ∈ s.toList, isSlugChar c = true

instance (s : String) : Decidable (IsSlug s) :=
  decidable_of_iff (s ≠ "" ∧ s.toList.all isSlugChar = true) (by simp [IsSlug])

theorem isSlugChar_lt {c : Char} (h : isSlugChar c = true) : c.toNat < 123 := by
  simp only [isSlugChar, PyText.isLetter, Bool.or_eq_true, Bool.and_eq_true, decide_eq_true_eq]
    at h
  rcases h with (⟨-, h⟩ | ⟨-, h⟩) | rfl
  · have hz : c.toNat ≤ 122 := h
    omega
  · have hz : c.toNat ≤ 57 := h
    omega
  · decide

theorem isSlugChar_cases {c : Char} (h : isSlugChar c = true) :
    PyText.isSpace c = false ∧ PyText.lowerChar c = [c] ∧ c ≠ '.' ∧ c ≠ ':' ∧ c ≠ '/' ∧ c ≠ '?' := by
  have hall : ∀ n ∈ List.range 123, isSlugChar (Char.ofNat n) = true →
      PyText.isSpace (Char.ofNat n) = false ∧ PyText.lowerChar (Char.ofNat n) = [Char.ofNat n]
        ∧ Char.ofNat n ≠ '.' ∧ Char.ofNat n ≠ ':' ∧ Char.ofNat n ≠ '/' ∧ Char.ofNat n ≠ '?' := by
    decide +kernel
  have hc := hall c.toNat (List.mem_range.mpr (isSlugChar_lt h))
  rw [Char.ofNat_toNat] at hc
  exact hc h

theorem lowerChars_slug {l : List Char} (h : ∀ c ∈ l, isSlugChar c = true) :
    PyText.lowerChars l = l := by
  induction l with
  | nil => rfl
  | cons c l ih =>
      rw [PyText.lowerChars, List.flatMap_cons, (isSlugChar_cases (h c (List.mem_cons_self ..))).2.1]
      exact congrArg (c :: ·) (ih fun d hd => h d (List.mem_cons_of_mem _ hd))

theorem stripChars_slug {l : List Char} (h : ∀ c ∈ l, isSlugChar c = true) :
    PyText.stripChars l = l :=
  PyText.stripChars_of_no_space fun c hc => (isSlugChar_cases (h c hc)).1

/-- Lowering and stripping leave a slug alone. -/
theorem IsSlug.lower_strip {s : String} (h : IsSlug s) : PyText.lower (PyText.strip s) = s := by
  rw [PyText.lower, PyText.strip, String.toList_ofList, stripChars_slug h.2, lowerChars_slug h.2,
    String.ofList_toList]

theorem mem_stripChar {c d : Char} {s : String} (h : d ∈ (PyText.stripChar c s).toList) :
    d ∈ s.toList := by
  rw [PyText.stripChar, String.toList_ofList] at h
  have hleft : d ∈ (s.toList.dropWhile (· = c)).reverse :=
    (List.dropWhile_suffix _).subset (List.mem_reverse.mp h)
  exact (List.dropWhile_suffix _).subset (List.mem_reverse.mp hleft)

theorem slugify_chars {raw : String} {c : Char} (h : c ∈ (slugifyWorkspaceName raw).toList) :
    isSlugChar c = true := by
  unfold slugifyWorkspaceName at h
  simp only [PyText.take, String.toList_ofList] at h
  have hstrip := mem_stripChar (List.mem_of_mem_take h)
  rw [String.toList_ofList] at hstrip
  rcases PyText.mem_subRuns hstrip with rfl | ⟨hc, -⟩
  · decide
  · exact (List.mem_filter.mp hc).2

theorem slugOr_isSlug {fallback : String} (h : IsSlug fallback) (raw : String) :
    IsSlug (slugOr fallback raw) := by
  unfold slugOr
  split_ifs with hne
  · exact ⟨hne, fun c hc => slugify_chars hc⟩
  · exact h

/-! ## The allocators find a free slug -/

theorem isSlug_suffix {base : String} (h : IsSlug base) (n : Nat) :
    IsSlug (base ++ "-" ++ toString n) := by
  refine ⟨fun he => ?_, fun c hc => ?_⟩
  · have hl := congrArg String.toList he
    simp [String.toList_append] at hl
  · simp only [String.toList_append, List.mem_append] at hc
    rcases hc with (hc | hc) | hc
    · exact h.2 c hc
    · obtain rfl : c = '-' := by simpa using hc
      decide
    · have hd := PyText.isDigit_of_mem_toString hc
      simp only [Char.isDigit, Bool.and_eq_true, decide_eq_true_eq] at hd
      have hdig : ('0' ≤ c && c ≤ '9') = true := by
        simpa [Char.le_def] using hd
      simp [isSlugChar, hdig]

theorem slugCandidates_nodup (base : String) (n : Nat) : (slugCandidates base n).Nodup := by
  have hinj : ∀ i j : Nat, base ++ "-" ++ toString (i + 2) = base ++ "-" ++ toString (j + 2) →
      i = j := by
    intro i j h
    have hl := congrArg String.toList h
    simp only [String.toList_append, List.append_cancel_left_eq] at hl
    have hij := PyText.toString_toList_inj hl
    omega
  refine List.nodup_cons.mpr ⟨?_, ?_⟩
  · intro hmem
    obtain ⟨i, -, hi⟩ := List.mem_map.mp hmem
    have hl := congrArg (fun s => s.toList.length) hi
    simp [String.toList_append] at hl
  · exact (List.nodup_range).map_on fun i _ j _ h => hinj i j h

/-- Among one more candidate than there are taken slugs one is free. -/
theorem exists_free_candidate (taken : List String) (base : String) :
    ∃ c ∈ slugCandidates base taken.length, c ∉ taken := by
  by_contra! hall
  have hsub : slugCandidates base taken.length ⊆ taken := fun c hc => hall c hc
  have hle := (List.subperm_of_subset (slugCandidates_nodup base taken.length) hsub).length_le
  rw [slugCandidates, List.length_cons, List.length_map, List.length_range] at hle
  omega

theorem firstFreeSlug_spec (taken : List String) (base : String) :
    firstFreeSlug taken base ∉ taken
      ∧ firstFreeSlug taken base ∈ slugCandidates base taken.length := by
  obtain ⟨c, hc, hfree⟩ := exists_free_candidate taken base
  unfold firstFreeSlug
  cases hf : (slugCandidates base taken.length).find? (· ∉ taken) with
  | none =>
      have hnone := List.find?_eq_none.mp hf c hc
      simp [hfree] at hnone
  | some c =>
      exact ⟨by simpa using List.find?_some hf, List.mem_of_find?_eq_some hf⟩

theorem firstFreeSlug_isSlug {taken : List String} {base : String} (h : IsSlug base) :
    IsSlug (firstFreeSlug taken base) := by
  rcases List.mem_cons.mp (firstFreeSlug_spec taken base).2 with hb | hs
  · rw [hb]
    exact h
  · obtain ⟨i, -, hi⟩ := List.mem_map.mp hs
    rw [← hi]
    exact isSlug_suffix h (i + 2)

/-! ## The directory keeps its names apart -/

/-- A workspace carries the address of its owner. -/
def AddressedBy (s : RoutingSettings) (w : WorkspaceAddress) (sub : String) : Prop :=
  w.publicHost = some (sub ++ "." ++ effectivePublicBaseDomain s)
    ∧ w.gatewayPathPrefix = some ("/workspaces/" ++ w.urlSlug)

/-- The names alone, whatever the settings make of them and in whatever order
the rows are. -/
structure Directory.Named (d : Directory) : Prop where
  userIds : (d.users.map (·.userAuthId)).Perm (List.range' 1 d.users.length)
  userSlug : ∀ u ∈ d.users, ∃ sub, u.routeSubdomainSlug = some sub ∧ IsSlug sub
  userSlugs : (d.users.map (·.routeSubdomainSlug)).Nodup
  workspaceIds : (d.workspaces.map (·.workspaceId)).Perm (List.range' 1 d.workspaces.length)
  urlSlug : ∀ w ∈ d.workspaces, IsSlug w.urlSlug

structure Directory.WellNamed (s : RoutingSettings) (d : Directory) : Prop where
  named : d.Named
  address : ∀ w ∈ d.workspaces, ∃ u ∈ d.users, ∃ sub, u.userAuthId = w.ownerUserId
    ∧ u.routeSubdomainSlug = some sub ∧ AddressedBy s w sub

theorem Directory.Named.sameRows {d d' : Directory} (h : d.Named) (hsame : d.SameRows d') :
    d'.Named := by
  obtain ⟨husers, hworkspaces⟩ := hsame
  constructor
  · rw [husers.length_eq]
    exact (husers.map _).trans h.userIds
  · exact fun u hu => h.userSlug u (husers.mem_iff.mp hu)
  · exact (husers.map _).nodup_iff.mpr h.userSlugs
  · rw [hworkspaces.length_eq]
    exact (hworkspaces.map _).trans h.workspaceIds
  · exact fun w hw => h.urlSlug w (hworkspaces.mem_iff.mp hw)

theorem Directory.WellNamed.sameRows {s : RoutingSettings} {d d' : Directory} (h : d.WellNamed s)
    (hsame : d.SameRows d') : d'.WellNamed s := by
  refine ⟨h.named.sameRows hsame, fun w hw => ?_⟩
  obtain ⟨u, hu, rest⟩ := h.address w (hsame.2.mem_iff.mp hw)
  exact ⟨u, hsame.1.mem_iff.mpr hu, rest⟩

/-- The public identity that a workspace got when it was created, whatever the mode. -/
def HasIdentity (s : RoutingSettings) (w : WorkspaceAddress) (sub : String) : Prop :=
  if s.devnestGatewayEnabled = false then w.publicHost = none
  else if tenantWorkspaceUrlsEnabled s = true then AddressedBy s w sub
  else w.publicHost = some (gatewayUniquePublicHost w.workspaceId s.devnestBaseDomain
    w.projectStorageKey)

/-- Every workspace has an owner, and its identity by the owner's slug. -/
def Directory.Identified (s : RoutingSettings) (d : Directory) : Prop :=
  ∀ w ∈ d.workspaces, ∃ u ∈ d.users, ∃ sub, u.userAuthId = w.ownerUserId
    ∧ u.routeSubdomainSlug = some sub ∧ HasIdentity s w sub

theorem named_empty : Directory.empty.Named := by
  constructor <;> simp [Directory.empty]

/-- One more row gets the next id. -/
theorem ids_append {l : List Nat} {n : Nat} (h : l.Perm (List.range' 1 n)) :
    (l ++ [n + 1]).Perm (List.range' 1 (n + 1)) := by
  have hrange : List.range' 1 (n + 1) = List.range' 1 n ++ [n + 1] := by
    rw [List.range'_concat]
    simp [Nat.add_comm]
  rw [hrange]
  exact h.append_right _

section Step

variable {s : RoutingSettings} {d : Directory}

/-- Ids grow with the rows. -/
theorem named_register (h : d.Named) (username : String) :
    (d.step s (.register username)).Named := by
  have hfree := firstFreeSlug_spec (d.users.filterMap (·.routeSubdomainSlug)) (slugOr "user" username)
  have hslug : IsSlug (allocateUniqueRouteSubdomainSlug d username) :=
    firstFreeSlug_isSlug (slugOr_isSlug (by decide) username)
  constructor
  · simp only [Directory.step, List.map_append, List.length_append, List.map_cons,
      List.map_nil, List.length_singleton]
    exact ids_append h.userIds
  · intro u hu
    rcases List.mem_append.mp hu with hu | hu
    · exact h.userSlug u hu
    · rw [List.mem_singleton.mp hu]
      exact ⟨_, rfl, hslug⟩
  · simp only [Directory.step, List.map_append, List.map_cons, List.map_nil]
    refine List.nodup_append.mpr ⟨h.userSlugs, List.nodup_singleton _, ?_⟩
    intro a ha b hb hab
    rw [List.mem_singleton.mp hb] at hab
    obtain ⟨u, hu, rfl⟩ := List.mem_map.mp ha
    exact hfree.1 (List.mem_filterMap.mpr ⟨u, hu, hab⟩)
  · exact h.workspaceIds
  · exact h.urlSlug

/-- A new workspace has an id and a slug of its own; the identity touches neither. -/
theorem newWorkspace_spec (s : RoutingSettings) (d : Directory) (owner : Nat) (name : String)
    (key : Option String) :
    let w := newWorkspace s d owner name key
    w.workspaceId = d.workspaces.length + 1 ∧ w.ownerUserId = owner ∧ w.projectStorageKey = key
      ∧ w.urlSlug = allocateUniqueWorkspaceUrlSlug d owner name ∧ IsSlug w.urlSlug := by
  have hslug : IsSlug (allocateUniqueWorkspaceUrlSlug d owner name) :=
    firstFreeSlug_isSlug (slugOr_isSlug (by decide) name)
  unfold newWorkspace assignWorkspaceGatewayPublicIdentity
  dsimp only
  split_ifs
  · exact ⟨rfl, rfl, rfl, rfl, hslug⟩
  · cases d.user owner with
    | none => exact ⟨rfl, rfl, rfl, rfl, hslug⟩
    | some u =>
        dsimp only
        split_ifs
        · exact ⟨rfl, rfl, rfl, rfl, hslug⟩
        · exact ⟨rfl, rfl, rfl, rfl, hslug⟩

/-- The identity of a new workspace, by the slug of its owner. -/
theorem newWorkspace_identity (h : d.Named) {owner : Nat} {u : UserAuth}
    (howner : d.user owner = some u) (name : String) (key : Option String) :
    ∃ sub, u.routeSubdomainSlug = some sub ∧ HasIdentity s (newWorkspace s d owner name key) sub := by
  have hslug : IsSlug (allocateUniqueWorkspaceUrlSlug d owner name) :=
    firstFreeSlug_isSlug (slugOr_isSlug (by decide) name)
  obtain ⟨sub, hsub, hsubslug⟩ := h.userSlug u (List.mem_of_find?_eq_some howner)
  have hsubeq : PyText.lower (PyText.stripOr u.routeSubdomainSlug) = sub := by
    rw [hsub]
    exact hsubslug.lower_strip
  refine ⟨sub, hsub, ?_⟩
  unfold HasIdentity newWorkspace assignWorkspaceGatewayPublicIdentity
  dsimp only
  cases hgw : s.devnestGatewayEnabled with
  | false => rfl
  | true =>
      have hboth : (sub ≠ "" && allocateUniqueWorkspaceUrlSlug d owner name ≠ "") = true := by
        simp [hsubslug.1, hslug.1]
      simp only [Bool.not_true, Bool.false_eq_true, if_false, howner, hsubeq, hslug.lower_strip,
        Bool.and_assoc, hboth, Bool.and_true, Bool.true_eq_false]
      cases tenantWorkspaceUrlsEnabled s with
      | true => exact ⟨rfl, rfl⟩
      | false => rfl

theorem named_create (h : d.Named) (owner : Nat) (name : String) (key : Option String) :
    (d.step s (.create owner name key)).Named := by
  simp only [Directory.step]
  split_ifs with howner
  · obtain ⟨hid, -, -, -, hslug⟩ := newWorkspace_spec s d owner name key
    constructor
    · exact h.userIds
    · exact h.userSlug
    · exact h.userSlugs
    · simp only [List.map_append, List.length_append, List.map_cons, List.map_nil,
        List.length_singleton, hid]
      exact ids_append h.workspaceIds
    · intro w' hw'
      rcases List.mem_append.mp hw' with hw' | hw'
      · exact h.urlSlug w' hw'
      · rw [List.mem_singleton.mp hw']
        exact hslug
  · exact h

theorem identified_create (h : d.Named) (hid : d.Identified s) (owner : Nat) (name : String)
    (key : Option String) : (d.step s (.create owner name key)).Identified s := by
  simp only [Directory.step]
  split_ifs with howner
  · obtain ⟨u, hu⟩ := Option.isSome_iff_exists.mp howner
    obtain ⟨sub, hsub, hident⟩ := newWorkspace_identity (s := s) h hu name key
    intro w hw
    rcases List.mem_append.mp hw with hw | hw
    · exact hid w hw
    · rw [List.mem_singleton.mp hw]
      refine ⟨u, List.mem_of_find?_eq_some hu, sub, ?_, hsub, hident⟩
      rw [(newWorkspace_spec s d owner name key).2.1]
      simpa using List.find?_some hu
  · exact hid

/-- A change of status changes no name. -/
theorem setStatus_same {wid : Nat} {status : WorkspaceStatus} {w' : WorkspaceAddress}
    (hw' : w' ∈ (d.step s (.setStatus wid status)).workspaces) :
    ∃ w ∈ d.workspaces, w' = { w with status := w'.status } := by
  obtain ⟨w, hw, rfl⟩ := List.mem_map.mp hw'
  refine ⟨w, hw, ?_⟩
  split_ifs <;> rfl

theorem named_setStatus (h : d.Named) (wid : Nat) (status : WorkspaceStatus) :
    (d.step s (.setStatus wid status)).Named := by
  constructor
  · exact h.userIds
  · exact h.userSlug
  · exact h.userSlugs
  · have hids : (d.step s (.setStatus wid status)).workspaces.map (·.workspaceId)
        = d.workspaces.map (·.workspaceId) := by
      rw [Directory.step, List.map_map]
      refine List.map_congr_left fun w _ => ?_
      simp only [Function.comp]
      split_ifs <;> rfl
    rw [hids, Directory.step, List.length_map]
    exact h.workspaceIds
  · intro w' hw'
    obtain ⟨w, hw, heq⟩ := setStatus_same hw'
    rw [heq]
    exact h.urlSlug w hw

theorem identified_setStatus (h : d.Identified s) (wid : Nat) (status : WorkspaceStatus) :
    (d.step s (.setStatus wid status)).Identified s := by
  intro w' hw'
  obtain ⟨w, hw, heq⟩ := setStatus_same hw'
  rw [heq]
  exact h w hw

end Step

/-- Every directory that registrations, creations and changes of status make
keeps its names apart, and gives each workspace its identity. -/
theorem named_run (s : RoutingSettings) (events : List DirectoryEvent) :
    (Runs.run (Directory.step s) .empty events).Named
      ∧ (Runs.run (Directory.step s) .empty events).Identified s := by
  refine Runs.Reachable.invariant (Q := fun d : Directory => d.Named ∧ d.Identified s)
    ⟨events, rfl⟩ ⟨named_empty, fun w hw => by cases hw⟩ fun d e ⟨h, hid⟩ => ?_
  cases e with
  | register username =>
      refine ⟨named_register h username, fun w hw => ?_⟩
      obtain ⟨u, hu, rest⟩ := hid w hw
      exact ⟨u, List.mem_append_left _ hu, rest⟩
  | create owner name key => exact ⟨named_create h owner name key, identified_create h hid owner name key⟩
  | setStatus wid status => exact ⟨named_setStatus h wid status, identified_setStatus hid wid status⟩

/-- In tenant mode behind the gateway the identity is the owner's address. -/
theorem wellNamed_run {s : RoutingSettings} (hgw : s.devnestGatewayEnabled = true)
    (htenant : tenantWorkspaceUrlsEnabled s = true) (events : List DirectoryEvent) :
    (Runs.run (Directory.step s) .empty events).WellNamed s := by
  obtain ⟨h, hid⟩ := named_run s events
  refine ⟨h, fun w hw => ?_⟩
  obtain ⟨u, hu, sub, howner, hsub, hident⟩ := hid w hw
  rw [HasIdentity, if_neg (by simp [hgw]), if_pos htenant] at hident
  exact ⟨u, hu, sub, howner, hsub, hident⟩

section Lookup

variable {d : Directory}

theorem Directory.Named.user_ext (h : d.Named) {u u' : UserAuth} (hu : u ∈ d.users)
    (hu' : u' ∈ d.users) (hslug : u.routeSubdomainSlug = u'.routeSubdomainSlug) : u = u' :=
  List.inj_on_of_nodup_map h.userSlugs hu hu' hslug

theorem Directory.Named.user_id_ext (h : d.Named) {u u' : UserAuth} (hu : u ∈ d.users)
    (hu' : u' ∈ d.users) (hid : u.userAuthId = u'.userAuthId) : u = u' := by
  refine List.inj_on_of_nodup_map (f := (·.userAuthId)) ?_ hu hu' hid
  exact h.userIds.nodup_iff.mpr List.nodup_range'

theorem Directory.Named.workspace_ext (h : d.Named) {w w' : WorkspaceAddress}
    (hw : w ∈ d.workspaces) (hw' : w' ∈ d.workspaces) (hid : w.workspaceId = w'.workspaceId) :
    w = w' := by
  refine List.inj_on_of_nodup_map (f := (·.workspaceId)) ?_ hw hw' hid
  exact h.workspaceIds.nodup_iff.mpr List.nodup_range'

theorem Directory.mem_running {w : WorkspaceAddress} :
    w ∈ d.running ↔ w ∈ d.workspaces ∧ w.status = .running := by
  simp [Directory.running]

theorem Directory.SameRows.mem_running {d' : Directory} (h : d.SameRows d')
    {w : WorkspaceAddress} : w ∈ d'.running ↔ w ∈ d.running := by
  rw [Directory.mem_running, Directory.mem_running, h.2.mem_iff]

/-- The order can put any row that a query matches before the others. -/
theorem Directory.exists_first {w : WorkspaceAddress} (hw : w ∈ d.workspaces)
    {p : WorkspaceAddress → Bool} (hp : p w = true) :
    ∃ d', d.SameRows d' ∧ d'.workspaces.find? p = some w := by
  refine ⟨⟨d.users, w :: d.workspaces.erase w⟩, ⟨List.Perm.refl _, ?_⟩, List.find?_cons_of_pos hp⟩
  exact (List.perm_cons_erase hw).symm

/-- A slug finds its user. -/
theorem Directory.Named.find_user (h : d.Named) {u : UserAuth} (hu : u ∈ d.users) {sub : String}
    (hsub : u.routeSubdomainSlug = some sub) :
    d.users.find? (·.routeSubdomainSlug = some sub) = some u := by
  cases hf : d.users.find? (·.routeSubdomainSlug = some sub) with
  | none =>
      have hnone := List.find?_eq_none.mp hf u hu
      simp [hsub] at hnone
  | some u' =>
      have hslug' : u'.routeSubdomainSlug = some sub := by simpa using List.find?_some hf
      rw [h.user_ext (List.mem_of_find?_eq_some hf) hu (hslug'.trans hsub.symm)]

end Lookup

end Devnest
