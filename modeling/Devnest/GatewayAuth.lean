import Mathlib.Data.List.Sort
import Devnest.Routing

/-!
# Who is authorised and who is routed

A request to a workspace is read twice. The gateway's routers, written by
route-admin, match its host and a prefix of its path; the router then asks the
backend (`gateway_forward_auth`), which reads host and path with its own
parsers, legacy workspace hosts first. `Agrees` says that the two always mean
the same workspace.

They do exactly when the names in the directory are apart (`NamesApart`): no
running workspace's host reads as the legacy host of another, and no running
workspace's slug is that of another one of its owner (a deleted one that came
back can have it), or extends it by a text with a letter, which the routers can
be kept from seeing by writing it in upper case.
-/

namespace Devnest

/-! ## The auth endpoint -/

/-- `^ws-(\d+)(?:-[a-z0-9-]+)?\.` and its group. Labels are ASCII here, as the
routers' hosts are. -/
def matchWsHost (host : List Char) : Option (List Char) :=
  match host with
  | 'w' :: 's' :: '-' :: r =>
      let digits := r.takeWhile Char.isDigit
      if digits = [] then none
      else
        match r.dropWhile Char.isDigit with
        | '.' :: _ => some digits
        | '-' :: t =>
            if t.takeWhile isSlugChar = [] then none
            else if (t.dropWhile isSlugChar).head? = some '.' then some digits
            else none
        | _ => none
  | _ => none

/-- `_workspace_id_from_host`. -/
def workspaceIdFromHost (host baseDomain : String) : Option Nat :=
  let hostClean := cleanHost host
  match matchWsHost hostClean.toList with
  | some digits => PyText.parseDigits digits
  | none =>
      let dom := lowerDomain baseDomain
      if dom = "" then none
      else
        (withoutSuffix hostClean ("." ++ dom)).bind fun label =>
          if label ≠ "" ∧ label.toList.all Char.isDigit = true then
            PyText.parseDigits label.toList
          else none

/-- The rows of the query for a workspace of an owner by its slug. -/
def hasUrlSlug (ownerUserId : Nat) (slug : String) (w : WorkspaceAddress) : Bool :=
  w.ownerUserId = ownerUserId && PyText.lower w.urlSlug = PyText.lower slug && w.status ≠ .deleted

/-- `_resolve_workspace_id_from_gateway_request`, over the rows in the order in
which the database has them. -/
def resolveWorkspaceIdFromGatewayRequest (s : RoutingSettings) (urlparsePath : String → String)
    (d : Directory) (forwardedHost forwardedUri : String) : Option Nat :=
  match workspaceIdFromHost forwardedHost (cleanDomain s.devnestBaseDomain) with
  | some wid => some wid
  | none =>
      if !tenantWorkspaceUrlsEnabled s then none
      else
        (parseWorkspaceHost forwardedHost (effectivePublicBaseDomain s)).bind fun sub =>
          (extractWorkspaceSlugFromPath urlparsePath
              (if forwardedUri = "" then "/" else forwardedUri)).bind fun slug =>
            (d.users.find? (·.routeSubdomainSlug = some sub)).bind fun user =>
              (d.workspaces.find? (hasUrlSlug user.userAuthId slug)).map (·.workspaceId)

inductive WorkspaceSessionStatus where
  | active
  | revoked
  | expired
  deriving DecidableEq, Repr

structure WorkspaceSession where
  sessionTokenHash : String
  workspaceId : Nat
  status : WorkspaceSessionStatus
  expiresAt : Int
  deriving DecidableEq, Repr

/-- The headers, cookie and path the endpoint reads. -/
structure ForwardAuthCall where
  xForwardedHost : Option String
  host : String
  xForwardedUri : Option String
  urlPath : String
  sessionHeader : Option String
  sessionCookie : Option String
  deriving DecidableEq, Repr

/-- 200, for the workspace that was resolved, or 401. -/
inductive AuthResponse where
  | allowed (workspaceId : Option Nat)
  | denied (content : String)
  deriving DecidableEq, Repr

/-- `a or b` on texts. -/
def optionOrText (a : Option String) (b : String) : String :=
  if a.getD "" ≠ "" then a.getD "" else b

def missingSessionText : String :=
  "workspace session required: send X-DevNest-Workspace-Session or attach cookie "
    ++ "(HttpOnly devnest_ws_session from POST /workspaces/attach/\x7bid\x7d)"

/-- The endpoint after the workspace is known. -/
def checkSession (hash : String → String) (d : Directory) (sessions : List WorkspaceSession)
    (now : Int) (call : ForwardAuthCall) (workspaceId : Nat) : AuthResponse :=
  let token := if PyText.stripOr call.sessionHeader ≠ "" then PyText.stripOr call.sessionHeader
    else PyText.stripOr call.sessionCookie
  if token = "" then .denied missingSessionText
  else
    match sessions.find? (·.sessionTokenHash = hash token) with
    | none => .denied "invalid workspace session token"
    | some session =>
        if session.workspaceId ≠ workspaceId then .denied "session workspace mismatch"
        else if session.status ≠ .active then .denied "workspace session is not active"
        else if session.expiresAt ≤ now then .denied "workspace session expired"
        else
          match d.workspace workspaceId with
          | none => .denied "workspace not found"
          | some w =>
              if w.status ≠ .running then
                .denied ("workspace is not running (" ++ w.status.value ++ ")")
              else .allowed (some workspaceId)

/-- `gateway_forward_auth`. -/
def gatewayForwardAuth (s : RoutingSettings) (hash urlparsePath : String → String) (d : Directory)
    (sessions : List WorkspaceSession) (now : Int) (call : ForwardAuthCall) : AuthResponse :=
  if !s.devnestGatewayAuthEnabled then .allowed none
  else
    let forwardedHost := PyText.strip (optionOrText call.xForwardedHost call.host)
    let forwardedUri := PyText.strip (optionOrText call.xForwardedUri call.urlPath)
    match resolveWorkspaceIdFromGatewayRequest s urlparsePath d forwardedHost forwardedUri with
    | none => .denied "workspace host not recognized"
    | some workspaceId => checkSession hash d sessions now call workspaceId

/-! ## Route-admin -/

structure RegisteredRoute where
  workspaceId : String
  publicHost : String
  target : String
  pathPrefix : String
  deriving DecidableEq, Repr

/-- The row `register_route` keeps. -/
def registerRoute (workspaceId publicHost target : String) (pathPrefix : Option String) :
    RegisteredRoute where
  workspaceId := PyText.strip workspaceId
  publicHost := PyText.strip publicHost
  target := target
  pathPrefix := PyText.stripOr pathPrefix

inductive TraefikEntryPoint where
  | web
  | websecure
  deriving DecidableEq, Repr

structure Rule where
  host : String
  pathPrefix : Option String
  deriving DecidableEq, Repr

def Rule.text (r : Rule) : String :=
  "Host(`" ++ r.host ++ "`)" ++ match r.pathPrefix with
    | none => ""
    | some p => " && PathPrefix(`" ++ p ++ "`)"

/-- A router of the file, with the address its service forwards to. -/
structure Router where
  name : String
  rule : Rule
  entryPoint : TraefikEntryPoint
  middlewares : List String
  target : String
  deriving DecidableEq, Repr

/-- The routers `_persist_locked` writes for one row. -/
def routersOf (authEnabled httpsOn : Bool) (row : RegisteredRoute) : List Router :=
  let name := "devnest-reg-" ++ row.workspaceId
  let pathPrefix := PyText.strip row.pathPrefix
  let rule : Rule := ⟨row.publicHost, if pathPrefix ≠ "" then some pathPrefix else none⟩
  let mids := (if authEnabled then ["devnest-workspace-auth@file"] else [])
    ++ if pathPrefix ≠ "" then [name ++ "-stripprefix"] else []
  if httpsOn then
    [⟨name, rule, .websecure, mids, row.target⟩, ⟨name ++ "-http", rule, .web, mids, row.target⟩]
  else [⟨name, rule, .web, mids, row.target⟩]

/-- The routers of the file `_persist_locked` writes. -/
def persistLocked (authEnabled httpsOn : Bool) (routes : List RegisteredRoute) : List Router :=
  (routes.insertionSort fun a b => a.workspaceId ≤ b.workspaceId).flatMap
    (routersOf authEnabled httpsOn)

/-- Exactly the running workspaces are registered, each with its target. -/
def registeredRoutes (target : Nat → String) (d : Directory) : List RegisteredRoute :=
  d.running.map fun w => registerRoute (toString w.workspaceId) (w.publicHost.getD "")
    (target w.workspaceId) w.gatewayPathPrefix

/-! ## The gateway -/

/-- A request as the gateway matches it: the host without its port, and the
path, which starts with a slash. -/
structure HttpRequest where
  host : String
  path : String
  entryPoint : TraefikEntryPoint
  rooted : path.toList.head? = some '/'

/-- A host matches in any case, a path prefix as a text. -/
def Rule.Matches (r : Rule) (req : HttpRequest) : Prop :=
  PyText.lower req.host = PyText.lower r.host
    ∧ ∀ p, r.pathPrefix = some p → p.toList <+: req.path.toList

def Router.Matches (r : Router) (req : HttpRequest) : Prop :=
  r.entryPoint = req.entryPoint ∧ r.rule.Matches req

/-- The router with the longest rule among those that match. -/
def Routed (routers : List Router) (req : HttpRequest) (r : Router) : Prop :=
  r ∈ routers ∧ r.Matches req
    ∧ ∀ r' ∈ routers, r'.Matches req → r'.rule.text.toList.length ≤ r.rule.text.toList.length

/-- The call a router's auth middleware makes for the request. -/
def authCall (req : HttpRequest) (sessionHeader sessionCookie : Option String) : ForwardAuthCall where
  xForwardedHost := some req.host
  host := req.host
  xForwardedUri := some req.path
  urlPath := "/internal/gateway/auth"
  sessionHeader := sessionHeader
  sessionCookie := sessionCookie

/-- Who is authorised is who is routed: whatever the order in which the
database has the rows, the request, the sessions and the time, a request that
is allowed for a workspace and matched by a router goes to that workspace's
target. -/
def Agrees (s : RoutingSettings) (hash urlparsePath : String → String) (httpsOn : Bool)
    (target : Nat → String) (d : Directory) : Prop :=
  ∀ (rows : Directory) (req : HttpRequest) (sessions : List WorkspaceSession) (now : Int)
    (header cookie : Option String) (wid : Nat) (r : Router), d.SameRows rows →
    gatewayForwardAuth s hash urlparsePath rows sessions now (authCall req header cookie)
        = .allowed (some wid) →
      Routed (persistLocked s.devnestGatewayAuthEnabled httpsOn (registeredRoutes target d)) req r →
        r.target = target wid

/-! ## Both readings of a host -/

/-- Lowering first makes no difference to the clean host. -/
theorem cleanHost_toList (host : String) : (cleanHost host).toList
    = (PyText.stripChars (PyText.lowerChars host.toList)).takeWhile (· ≠ ':') := by
  rw [cleanHost, String.toList_ofList, PyText.stripChars_lowerChars,
    PyText.takeWhile_colon_lowerChars]

theorem cleanHost_congr {h h' : String} (hl : PyText.lower h = PyText.lower h') :
    cleanHost h = cleanHost h' := by
  have hlist : PyText.lowerChars h.toList = PyText.lowerChars h'.toList := by
    simpa [PyText.lower] using congrArg String.toList hl
  apply String.toList_injective
  rw [cleanHost_toList, cleanHost_toList, hlist]

theorem cleanHost_strip (h : String) : cleanHost (PyText.strip h) = cleanHost h := by
  simp only [cleanHost, PyText.strip, String.toList_ofList, PyText.stripChars_stripChars]

theorem workspaceIdFromHost_congr {h h' : String} (hc : cleanHost h = cleanHost h')
    (dom : String) : workspaceIdFromHost h dom = workspaceIdFromHost h' dom := by
  simp only [workspaceIdFromHost, hc]

theorem parseWorkspaceHost_congr {h h' : String} (hc : cleanHost h = cleanHost h')
    (dom : String) : parseWorkspaceHost h dom = parseWorkspaceHost h' dom := by
  simp only [parseWorkspaceHost, hc]

/-- The clean host of a tenant address starts with the slug's label. -/
theorem cleanHost_address {sub : String} (h : IsSlug sub) (base : String) :
    ∃ r, (cleanHost (sub ++ "." ++ base)).toList = sub.toList ++ '.' :: r := by
  have hne : sub.toList ++ ['.'] ≠ [] := by simp
  have hspace : ∀ c ∈ sub.toList ++ ['.'], PyText.isSpace c = false := by
    intro c hc
    rcases List.mem_append.mp hc with hc | hc
    · exact (isSlugChar_cases (h.2 c hc)).1
    · rw [List.mem_singleton.mp hc]
      decide
  have hcolon : ∀ c ∈ sub.toList ++ ['.'], decide (c ≠ ':') = true := by
    intro c hc
    rcases List.mem_append.mp hc with hc | hc
    · simpa using (isSlugChar_cases (h.2 c hc)).2.2.2.1
    · rw [List.mem_singleton.mp hc]
      decide
  obtain ⟨t, -, ht⟩ := PyText.stripChars_append base.toList hne hspace
  have htext : (sub ++ "." ++ base).toList = sub.toList ++ ['.'] ++ base.toList := by
    rw [String.toList_append, String.toList_append]
    rfl
  refine ⟨PyText.lowerChars (t.takeWhile (· ≠ ':')), ?_⟩
  rw [cleanHost, String.toList_ofList, htext, ht, List.takeWhile_append_of_pos hcolon,
    PyText.lowerChars_append, PyText.lowerChars_append, lowerChars_slug h.2, List.append_assoc]
  rfl

theorem withoutSuffix_append {t suffix p : String} (h : withoutSuffix t suffix = some p) :
    t.toList = p.toList ++ suffix.toList := by
  unfold withoutSuffix at h
  split_ifs at h with hsuf
  obtain rfl : _ = p := Option.some.inj h
  obtain ⟨u, hu⟩ := hsuf
  rw [String.toList_ofList, ← hu]
  simp

/-- A tenant host is read as its slug, or not at all. -/
theorem parseWorkspaceHost_label {host base label sub : String} {r : List Char} (h : IsSlug sub)
    (hclean : (cleanHost host).toList = sub.toList ++ '.' :: r)
    (hparse : parseWorkspaceHost host base = some label) : label = sub := by
  have hdot : '.' ∉ sub.toList := fun hmem => (isSlugChar_cases (h.2 _ hmem)).2.2.1 rfl
  have hsub : sub.toList ≠ [] := fun he => h.1 (String.toList_injective (by simpa using he))
  unfold parseWorkspaceHost at hparse
  simp only at hparse
  split_ifs at hparse
  obtain ⟨p, hp, hparse⟩ := Option.bind_eq_some_iff.mp hparse
  split_ifs at hparse with hbad
  obtain rfl : _ = label := Option.some.inj hparse
  -- what stands before the suffix starts with the slug, and goes on with a dot
  have hpre : ∃ t, p.toList = sub.toList ++ t ∧ (t = [] ∨ ∃ t', t = '.' :: t') := by
    have happ := withoutSuffix_append hp
    rw [hclean, String.toList_append] at happ
    rcases List.append_eq_append_iff.mp happ with ⟨t, hpt, ht⟩ | ⟨t, hst, ht⟩
    · refine ⟨t, hpt, ?_⟩
      cases t with
      | nil => exact .inl rfl
      | cons c t =>
          obtain ⟨rfl, -⟩ : '.' = c ∧ _ := by simpa using ht
          exact .inr ⟨t, rfl⟩
    · cases t with
      | nil => exact ⟨[], by simpa using hst.symm, .inl rfl⟩
      | cons c t =>
          obtain ⟨rfl, -⟩ : '.' = c ∧ _ := by simpa using ht
          exact absurd (by simp [hst]) hdot
  obtain ⟨t, hpt, ht⟩ := hpre
  obtain ⟨t₁, ht₁, hstrip⟩ := PyText.stripChars_append t hsub
    fun c hc => (isSlugChar_cases (h.2 c hc)).1
  obtain ⟨t₂, ht₂, hlabel⟩ := PyText.stripChar_append '.' t₁ hsub
    fun c hc => (isSlugChar_cases (h.2 c hc)).2.2.1
  rw [PyText.strip, hpt, hstrip] at hbad ⊢
  have hnil : t₂ = [] := by
    cases t₂ with
    | nil => rfl
    | cons c t₂ =>
        have hpre := ht₂.trans ht₁
        rcases ht with rfl | ⟨t', rfl⟩
        · simp at hpre
        · obtain ⟨rfl, -⟩ : c = '.' ∧ _ := by simpa using hpre
          rw [Bool.or_eq_true, decide_eq_true_eq, decide_eq_true_eq, hlabel, not_or] at hbad
          exact absurd (by simp) hbad.2
  apply String.toList_injective
  rw [hlabel, hnil, List.append_nil]

/-! ## Both readings of a path -/

/-- The path under which the routers know a slug. -/
def workspacePath (slug : List Char) : List Char := "/workspaces/".toList ++ slug

theorem workspacePath_cons (slug : List Char) :
    workspacePath slug = '/' :: ("workspaces/".toList ++ slug) := rfl

theorem workspacePath_append (a b : List Char) :
    workspacePath (a ++ b) = workspacePath a ++ b := (List.append_assoc ..).symm

theorem pathSegment_workspacePath {l : List Char} (h : l.takeWhile (· ≠ '/') ≠ []) :
    pathSegment (workspacePath l) = some (l.takeWhile (· ≠ '/')) := by
  have hdrop : (workspacePath l).drop 12 = l := rfl
  have hpre : "/workspaces/".toList <+: workspacePath l := List.prefix_append _ _
  rw [pathSegment, if_pos hpre]
  simp only [hdrop, if_neg h]

theorem workspacesDir_plain {c : Char} (hc : c ∈ "/workspaces/".toList) :
    PyText.isSpace c = false ∧ c ≠ '?' := by
  have hall : ("/workspaces/".toList.all fun c => !PyText.isSpace c && c != '?') = true := by
    decide +kernel
  simpa using List.all_eq_true.mp hall c hc

theorem workspacePath_plain {slug : List Char} (h : ∀ c ∈ slug, isSlugChar c = true) :
    ∀ c ∈ workspacePath slug, PyText.isSpace c = false ∧ c ≠ '?' := by
  intro c hc
  rcases List.mem_append.mp hc with hc | hc
  · exact workspacesDir_plain hc
  · exact ⟨(isSlugChar_cases (h c hc)).1, (isSlugChar_cases (h c hc)).2.2.2.2.2⟩

/-- The endpoint's reading of a stripped path under `/workspaces/`. -/
theorem extract_workspacePath (urlparsePath : String → String) {raw l : List Char}
    (hraw : PyText.stripChars raw = raw) (hpath : raw.takeWhile (· ≠ '?') = workspacePath l)
    (hseg : l.takeWhile (· ≠ '/') ≠ []) :
    extractWorkspaceSlugFromPath urlparsePath (String.ofList raw)
      = let slug := PyText.lower (PyText.strip (String.ofList (l.takeWhile (· ≠ '/'))))
        if slug = "" then none else some slug := by
  unfold extractWorkspaceSlugFromPath
  simp only [PyText.strip, String.toList_ofList, hraw, hpath, workspacePath_cons]
  rw [if_true, ← workspacePath_cons, pathSegment_workspacePath hseg, Option.bind_some]

/-- What the endpoint makes of a path below a slug: the slug, and the lower
case of some of what follows it. -/
theorem extract_below {slug : List Char} (t : List Char) (urlparsePath : String → String)
    (hne : slug ≠ []) (h : ∀ c ∈ slug, isSlugChar c = true) :
    ∃ t', t' <+: t ∧ extractWorkspaceSlugFromPath urlparsePath
      (String.ofList (PyText.stripChars (workspacePath slug ++ t)))
        = some (String.ofList (slug ++ PyText.lowerChars t')) := by
  have hplain := workspacePath_plain h
  have hwne : workspacePath slug ≠ [] := by
    rw [workspacePath_cons]
    exact List.cons_ne_nil _ _
  obtain ⟨t₁, ht₁, hstrip⟩ := PyText.stripChars_append t hwne fun c hc => (hplain c hc).1
  have hquery : (workspacePath slug ++ t₁).takeWhile (· ≠ '?')
      = workspacePath (slug ++ t₁.takeWhile (· ≠ '?')) := by
    have hpos : ∀ c ∈ workspacePath slug, decide (c ≠ '?') = true := fun c hc => by
      simpa using (hplain c hc).2
    rw [List.takeWhile_append_of_pos hpos]
    exact List.append_assoc ..
  have hseg : (slug ++ t₁.takeWhile (· ≠ '?')).takeWhile (· ≠ '/')
      = slug ++ (t₁.takeWhile (· ≠ '?')).takeWhile (· ≠ '/') :=
    List.takeWhile_append_of_pos fun c hc => by
      simpa using (isSlugChar_cases (h c hc)).2.2.2.2.1
  obtain ⟨t₄, ht₄, hstrip₄⟩ := PyText.stripChars_append
    ((t₁.takeWhile (· ≠ '?')).takeWhile (· ≠ '/')) hne fun c hc => (isSlugChar_cases (h c hc)).1
  refine ⟨t₄, ?_, ?_⟩
  · exact (ht₄.trans (List.takeWhile_prefix _)).trans ((List.takeWhile_prefix _).trans ht₁)
  · have hraw : PyText.stripChars (workspacePath slug ++ t₁) = workspacePath slug ++ t₁ := by
      rw [← hstrip, PyText.stripChars_stripChars]
    have hlower : PyText.lower (PyText.strip (String.ofList
        (slug ++ (t₁.takeWhile (· ≠ '?')).takeWhile (· ≠ '/'))))
        = String.ofList (slug ++ PyText.lowerChars t₄) := by
      rw [PyText.lower, PyText.strip, String.toList_ofList, String.toList_ofList, hstrip₄,
        PyText.lowerChars_append, lowerChars_slug h]
    have hnonempty : String.ofList (slug ++ PyText.lowerChars t₄) ≠ "" := by
      intro he
      have hl := congrArg String.toList he
      rw [String.toList_ofList] at hl
      exact hne (List.append_eq_nil_iff.mp hl).1
    rw [hstrip, extract_workspacePath urlparsePath hraw hquery (by rw [hseg]; simp [hne]), hseg]
    simp only [hlower, if_neg hnonempty]

/-! ## Upper case keeps a slug from the routers -/

def shout (c : Char) : Char := if PyText.isLetter c then c.toUpper else c

theorem shout_spec {c : Char} (h : isSlugChar c = true) :
    PyText.lowerChar (shout c) = [c] ∧ PyText.isSpace (shout c) = false ∧ shout c ≠ '?'
      ∧ shout c ≠ '/' ∧ (isSlugChar (shout c) = true → shout c = c ∧ PyText.isLetter c = false) := by
  have hall : ∀ n ∈ List.range 123, isSlugChar (Char.ofNat n) = true →
      PyText.lowerChar (shout (Char.ofNat n)) = [Char.ofNat n]
        ∧ PyText.isSpace (shout (Char.ofNat n)) = false ∧ shout (Char.ofNat n) ≠ '?'
        ∧ shout (Char.ofNat n) ≠ '/' ∧ (isSlugChar (shout (Char.ofNat n)) = true →
          shout (Char.ofNat n) = Char.ofNat n ∧ PyText.isLetter (Char.ofNat n) = false) := by
    decide +kernel
  have hc := hall c.toNat (List.mem_range.mpr (isSlugChar_lt h))
  rw [Char.ofNat_toNat] at hc
  exact hc h

theorem lowerChars_shout {l : List Char} (h : ∀ c ∈ l, isSlugChar c = true) :
    PyText.lowerChars (l.map shout) = l := by
  induction l with
  | nil => rfl
  | cons c l ih =>
      rw [List.map_cons, PyText.lowerChars, List.flatMap_cons,
        (shout_spec (h c (List.mem_cons_self ..))).1]
      exact congrArg (c :: ·) (ih fun d hd => h d (List.mem_cons_of_mem _ hd))

/-- A slug that is a prefix of a shouted text stops before its first letter. -/
theorem prefix_shout {ext rest : List Char} (hpre : ext <+: rest.map shout)
    (hext : ∀ c ∈ ext, isSlugChar c = true) (hrest : ∀ c ∈ rest, isSlugChar c = true) :
    ext <+: rest ∧ ∀ c ∈ ext, PyText.isLetter c = false := by
  induction ext generalizing rest with
  | nil => exact ⟨List.nil_prefix, by simp⟩
  | cons e ext ih =>
      cases rest with
      | nil => simp at hpre
      | cons c rest =>
          rw [List.map_cons, List.cons_prefix_cons] at hpre
          obtain ⟨rfl, hpre⟩ := hpre
          obtain ⟨hsame, hletter⟩ := (shout_spec (hrest c (List.mem_cons_self ..))).2.2.2.2
            (hext _ (List.mem_cons_self ..))
          obtain ⟨hpre', hall⟩ := ih hpre (fun d hd => hext d (List.mem_cons_of_mem _ hd))
            fun d hd => hrest d (List.mem_cons_of_mem _ hd)
          rw [hsame]
          refine ⟨List.cons_prefix_cons.mpr ⟨rfl, hpre'⟩, fun d hd => ?_⟩
          rcases List.mem_cons.mp hd with rfl | hd
          · exact hletter
          · exact hall d hd

/-- Without letters, a prefix of the lower case is a prefix of the text. -/
theorem prefix_of_lowerChars {ext t : List Char} (hpre : ext <+: PyText.lowerChars t)
    (hext : ∀ c ∈ ext, PyText.isLetter c = false) : ext <+: t := by
  induction t generalizing ext with
  | nil => simpa [PyText.lowerChars] using hpre
  | cons c t ih =>
      cases ext with
      | nil => exact List.nil_prefix
      | cons e ext =>
          rw [PyText.lowerChars, List.flatMap_cons] at hpre
          rcases PyText.lowerChar_cases c with hc | ⟨d, l, hc, hd, -⟩
          · rw [hc, List.singleton_append, List.cons_prefix_cons] at hpre
            exact List.cons_prefix_cons.mpr ⟨hpre.1,
              ih hpre.2 fun d hd => hext d (List.mem_cons_of_mem _ hd)⟩
          · rw [hc, List.cons_append, List.cons_prefix_cons] at hpre
            have hletter := hext e (List.mem_cons_self ..)
            rw [hpre.1, hd] at hletter
            cases hletter

/-- The endpoint reads a shouted path as the slug itself. -/
theorem extract_shout {slug rest : List Char} (urlparsePath : String → String) (hne : slug ≠ [])
    (h : ∀ c ∈ slug, isSlugChar c = true) (hrest : ∀ c ∈ rest, isSlugChar c = true) :
    extractWorkspaceSlugFromPath urlparsePath
      (String.ofList (PyText.stripChars (workspacePath (slug ++ rest.map shout))))
        = some (String.ofList (slug ++ rest)) := by
  have hmem : ∀ c ∈ slug ++ rest.map shout, PyText.isSpace c = false ∧ c ≠ '?' ∧ c ≠ '/' := by
    intro c hc
    rcases List.mem_append.mp hc with hc | hc
    · have hs := isSlugChar_cases (h c hc)
      exact ⟨hs.1, hs.2.2.2.2.2, hs.2.2.2.2.1⟩
    · obtain ⟨d, hd, rfl⟩ := List.mem_map.mp hc
      have hs := shout_spec (hrest d hd)
      exact ⟨hs.2.1, hs.2.2.1, hs.2.2.2.1⟩
  have hpath : ∀ c ∈ workspacePath (slug ++ rest.map shout), PyText.isSpace c = false ∧ c ≠ '?' := by
    intro c hc
    rcases List.mem_append.mp hc with hc | hc
    · exact workspacesDir_plain hc
    · exact ⟨(hmem c hc).1, (hmem c hc).2.1⟩
  have hraw : PyText.stripChars (workspacePath (slug ++ rest.map shout))
      = workspacePath (slug ++ rest.map shout) :=
    PyText.stripChars_of_no_space fun c hc => (hpath c hc).1
  have hquery : (workspacePath (slug ++ rest.map shout)).takeWhile (· ≠ '?')
      = workspacePath (slug ++ rest.map shout) :=
    List.takeWhile_eq_self_iff.mpr fun c hc => by simpa using (hpath c hc).2
  have hseg : (slug ++ rest.map shout).takeWhile (· ≠ '/') = slug ++ rest.map shout :=
    List.takeWhile_eq_self_iff.mpr fun c hc => by simpa using (hmem c hc).2.2
  have hlower : PyText.lower (PyText.strip (String.ofList (slug ++ rest.map shout)))
      = String.ofList (slug ++ rest) := by
    rw [PyText.lower, PyText.strip, String.toList_ofList, String.toList_ofList,
      PyText.stripChars_of_no_space fun c hc => (hmem c hc).1, PyText.lowerChars_append,
      lowerChars_slug h, lowerChars_shout hrest]
  have hnonempty : String.ofList (slug ++ rest) ≠ "" := by
    intro he
    have hl := congrArg String.toList he
    rw [String.toList_ofList] at hl
    exact hne (List.append_eq_nil_iff.mp hl).1
  rw [hraw, extract_workspacePath urlparsePath hraw hquery (by rw [hseg]; simp [hne]), hseg]
  simp only [hlower, if_neg hnonempty]

/-! ## When the names are apart -/

/-- The host a workspace is registered under. -/
def rowHost (w : WorkspaceAddress) : String := PyText.strip (w.publicHost.getD "")

/-- The host of the workspace reads as a legacy host of the id. -/
def ReadsAsLegacy (s : RoutingSettings) (v : WorkspaceAddress) (id : Nat) : Prop :=
  workspaceIdFromHost (rowHost v) (cleanDomain s.devnestBaseDomain) = some id

/-- The host of the workspace reads as a tenant host. -/
def ReadsAsTenant (s : RoutingSettings) (v : WorkspaceAddress) : Prop :=
  workspaceIdFromHost (rowHost v) (cleanDomain s.devnestBaseDomain) = none
    ∧ (parseWorkspaceHost (rowHost v) (effectivePublicBaseDomain s)).isSome = true

/-- The slug of `w` is that of `v`, of the same owner, or goes on from it with a
text that has a letter, and no other running workspace of the owner has a slug
that goes on from that of `v` with the signs before that letter. -/
def Shadows (d : Directory) (v w : WorkspaceAddress) : Prop :=
  v.ownerUserId = w.ownerUserId ∧ ∃ rest, w.urlSlug.toList = v.urlSlug.toList ++ rest
    ∧ (rest = [] ∨ ∃ c ∈ rest, PyText.isLetter c = true)
    ∧ ∀ u ∈ d.running, u.ownerUserId = v.ownerUserId → ∀ ext,
      u.urlSlug.toList = v.urlSlug.toList ++ ext → ext <+: rest →
        (∀ c ∈ ext, PyText.isLetter c = false) → ext = []

/-- No running workspace can be mistaken for another one with a different
target: its host does not read as the other's legacy host, and its slug does
not shadow the other's. -/
def NamesApart (s : RoutingSettings) (target : Nat → String) (d : Directory) : Prop :=
  ∀ v ∈ d.running, ∀ w ∈ d.running,
    ReadsAsLegacy s v w.workspaceId ∨ (ReadsAsTenant s v ∧ Shadows d v w) →
      target v.workspaceId = target w.workspaceId

section Agreement

variable {s : RoutingSettings} {d : Directory}

/-- The query finds the workspaces whose slug this is. -/
theorem Directory.Named.hasUrlSlug_iff (h : d.Named) {u : WorkspaceAddress}
    (hu : u ∈ d.workspaces) {owner : Nat} {slug : String} (hslug : IsSlug slug) :
    hasUrlSlug owner slug u = true
      ↔ u.ownerUserId = owner ∧ u.urlSlug = slug ∧ u.status ≠ .deleted := by
  have hlower : ∀ {t}, IsSlug t → PyText.lower t = t := fun ht => by
    rw [PyText.lower, lowerChars_slug ht.2, String.ofList_toList]
  simp only [hasUrlSlug, Bool.and_eq_true, decide_eq_true_eq, hlower hslug,
    hlower (h.urlSlug u hu), and_assoc]

/-- A running workspace: its owner's slug, its own, and its address. -/
theorem running_address (h : d.WellNamed s) {w : WorkspaceAddress} (hw : w ∈ d.running) :
    IsSlug w.urlSlug ∧ ∃ u ∈ d.users, ∃ sub, u.userAuthId = w.ownerUserId
      ∧ u.routeSubdomainSlug = some sub ∧ IsSlug sub ∧ AddressedBy s w sub := by
  have hmem := (Directory.mem_running.mp hw).1
  obtain ⟨u, hu, sub, hid, hsub, haddr⟩ := h.address w hmem
  obtain ⟨sub', hsub', hslug⟩ := h.named.userSlug u hu
  obtain rfl : sub' = sub := Option.some.inj (hsub'.symm.trans hsub)
  exact ⟨h.named.urlSlug w hmem, u, hu, sub', hid, hsub, hslug, haddr⟩

/-- The host of a workspace starts with its owner's slug. -/
theorem cleanHost_rowHost {w : WorkspaceAddress} {sub : String} (hslug : IsSlug sub)
    (haddr : AddressedBy s w sub) :
    ∃ r, (cleanHost (rowHost w)).toList = sub.toList ++ '.' :: r := by
  rw [rowHost, cleanHost_strip, haddr.1]
  exact cleanHost_address hslug _

/-- Workspaces of one owner share their host. -/
theorem rowHost_owner (h : d.WellNamed s) {v w : WorkspaceAddress} (hv : v ∈ d.running)
    (hw : w ∈ d.running) (hown : v.ownerUserId = w.ownerUserId) : rowHost v = rowHost w := by
  obtain ⟨-, u, hu, sub, hid, hsub, -, haddr⟩ := running_address h hv
  obtain ⟨-, u', hu', sub', hid', hsub', -, haddr'⟩ := running_address h hw
  obtain rfl : u = u' := h.named.user_id_ext hu hu' (by rw [hid, hid', hown])
  obtain rfl : sub = sub' := Option.some.inj (hsub.symm.trans hsub')
  rw [rowHost, rowHost, haddr.1, haddr'.1]

/-- A label before a dot is determined. -/
theorem label_ext {a b r t : List Char} (ha : '.' ∉ a) (hb : '.' ∉ b)
    (h : a ++ '.' :: r = b ++ '.' :: t) : a = b := by
  have htake : ∀ {l u : List Char}, '.' ∉ l → (l ++ '.' :: u).takeWhile (· ≠ '.') = l := by
    intro l u hl
    have hpos : ∀ c ∈ l, decide (c ≠ '.') = true := by
      intro c hc
      rw [decide_eq_true_eq]
      rintro rfl
      exact hl hc
    rw [List.takeWhile_append_of_pos hpos]
    simp
  rw [← htake ha, h, htake hb]

theorem IsSlug.no_dot {t : String} (h : IsSlug t) : '.' ∉ t.toList := fun hmem =>
  (isSlugChar_cases (h.2 _ hmem)).2.2.1 rfl

theorem IsSlug.ne_nil {t : String} (h : IsSlug t) : t.toList ≠ [] := fun he =>
  h.1 (String.toList_injective (by simpa using he))

/-- Workspaces under one host have one owner. -/
theorem owner_of_rowHost (h : d.WellNamed s) {v w : WorkspaceAddress} (hv : v ∈ d.running)
    (hw : w ∈ d.running) (hhost : PyText.lower (rowHost v) = PyText.lower (rowHost w)) :
    v.ownerUserId = w.ownerUserId := by
  obtain ⟨-, u, hu, sub, hid, hsub, hslug, haddr⟩ := running_address h hv
  obtain ⟨-, u', hu', sub', hid', hsub', hslug', haddr'⟩ := running_address h hw
  obtain ⟨r, hr⟩ := cleanHost_rowHost hslug haddr
  obtain ⟨r', hr'⟩ := cleanHost_rowHost hslug' haddr'
  rw [cleanHost_congr hhost, hr'] at hr
  have hlabel : sub'.toList = sub.toList := label_ext hslug'.no_dot hslug.no_dot hr
  obtain rfl : sub' = sub := String.toList_injective hlabel
  obtain rfl : u = u' := h.named.user_ext hu hu' (hsub.trans hsub'.symm)
  rw [← hid, ← hid']

/-! ### Routers -/

/-- The rule of a registered workspace. -/
def ruleFor (w : WorkspaceAddress) : Rule := ⟨rowHost w, some ("/workspaces/" ++ w.urlSlug)⟩

theorem workspacePath_toList (slug : String) :
    ("/workspaces/" ++ slug).toList = workspacePath slug.toList := String.toList_append ..

/-- The row of a workspace, as it is registered. -/
def rowFor (target : Nat → String) (w : WorkspaceAddress) : RegisteredRoute :=
  registerRoute (toString w.workspaceId) (w.publicHost.getD "") (target w.workspaceId)
    w.gatewayPathPrefix

theorem strip_workspacePath {slug : String} (h : IsSlug slug) :
    PyText.strip ("/workspaces/" ++ slug) = "/workspaces/" ++ slug := by
  apply String.toList_injective
  rw [PyText.strip, String.toList_ofList, workspacePath_toList,
    PyText.stripChars_of_no_space fun c hc => (workspacePath_plain h.2 c hc).1]

/-- The entry points that are used. -/
def entryPoints (https : Bool) : List TraefikEntryPoint := if https then [.websecure, .web] else [.web]

/-- Every router of a workspace has its rule and target, and there is one on
each entry point. -/
theorem routersOf_rowFor (a https : Bool) (target : Nat → String) {w : WorkspaceAddress}
    {sub : String} (hslug : IsSlug w.urlSlug) (haddr : AddressedBy s w sub) :
    (∀ r ∈ routersOf a https (rowFor target w), r.rule = ruleFor w
        ∧ r.target = target w.workspaceId ∧ r.entryPoint ∈ entryPoints https)
      ∧ ∀ e ∈ entryPoints https, ∃ r ∈ routersOf a https (rowFor target w), r.rule = ruleFor w
        ∧ r.target = target w.workspaceId ∧ r.entryPoint = e := by
  have hpre : PyText.strip (rowFor target w).pathPrefix = "/workspaces/" ++ w.urlSlug := by
    rw [rowFor, registerRoute, haddr.2]
    simp only [PyText.stripOr, Option.getD_some, strip_workspacePath hslug]
  have hne : "/workspaces/" ++ w.urlSlug ≠ "" := by
    intro he
    have hl := congrArg String.toList he
    rw [workspacePath_toList, workspacePath_cons] at hl
    cases hl
  cases https with
  | false =>
      simp only [routersOf, hpre, hne, ne_eq, not_false_eq_true, if_true, Bool.false_eq_true,
        if_false, entryPoints]
      simp [ruleFor, rowHost, rowFor, registerRoute]
  | true =>
      simp only [routersOf, hpre, hne, ne_eq, not_false_eq_true, if_true, entryPoints]
      simp [ruleFor, rowHost, rowFor, registerRoute]

theorem mem_persistLocked {a https : Bool} {target : Nat → String} {r : Router} :
    r ∈ persistLocked a https (registeredRoutes target d)
      ↔ ∃ w ∈ d.running, r ∈ routersOf a https (rowFor target w) := by
  simp only [persistLocked, registeredRoutes, List.mem_flatMap, List.mem_insertionSort,
    List.mem_map]
  constructor
  · rintro ⟨_, ⟨w, hw, rfl⟩, hr⟩
    exact ⟨w, hw, hr⟩
  · rintro ⟨w, hw, hr⟩
    exact ⟨_, ⟨w, hw, rfl⟩, hr⟩

theorem ruleFor_matches {w : WorkspaceAddress} {req : HttpRequest} : (ruleFor w).Matches req
    ↔ PyText.lower req.host = PyText.lower (rowHost w)
      ∧ workspacePath w.urlSlug.toList <+: req.path.toList := by
  simp only [Rule.Matches, ruleFor, Option.some.injEq, forall_eq', workspacePath_toList]

/-- Under one host a longer slug makes a longer rule. -/
theorem ruleFor_length_le {v w : WorkspaceAddress} (h : rowHost v = rowHost w) :
    (ruleFor v).text.toList.length ≤ (ruleFor w).text.toList.length
      ↔ v.urlSlug.toList.length ≤ w.urlSlug.toList.length := by
  simp only [Rule.text, ruleFor, h, String.toList_append, List.length_append]
  omega

/-- The router of a request belongs to a workspace on its path, the one with
the longest slug among those of its owner. -/
theorem routed_workspace {a https : Bool} {target : Nat → String} (h : d.WellNamed s)
    {req : HttpRequest} {r : Router}
    (hr : Routed (persistLocked a https (registeredRoutes target d)) req r) :
    ∃ v ∈ d.running, r.target = target v.workspaceId
      ∧ PyText.lower req.host = PyText.lower (rowHost v)
      ∧ workspacePath v.urlSlug.toList <+: req.path.toList
      ∧ ∀ u ∈ d.running, u.ownerUserId = v.ownerUserId →
        workspacePath u.urlSlug.toList <+: req.path.toList →
          u.urlSlug.toList.length ≤ v.urlSlug.toList.length := by
  obtain ⟨hmem, ⟨hentry, hmatch⟩, hlongest⟩ := hr
  obtain ⟨v, hv, hrv⟩ := mem_persistLocked.mp hmem
  obtain ⟨hslug, -, -, sub, -, -, -, haddr⟩ := running_address h hv
  obtain ⟨hrule, htarget, hpoint⟩ := (routersOf_rowFor a https target hslug haddr).1 r hrv
  rw [hrule, ruleFor_matches] at hmatch
  refine ⟨v, hv, htarget, hmatch.1, hmatch.2, fun u hu hown hpath => ?_⟩
  obtain ⟨hslugu, -, -, subu, -, -, -, haddru⟩ := running_address h hu
  obtain ⟨r', hr', hrule', -, hpoint'⟩ :=
    (routersOf_rowFor a https target hslugu haddru).2 _ hpoint
  have hhost := rowHost_owner h hu hv hown
  have hle := hlongest r' (mem_persistLocked.mpr ⟨u, hu, hr'⟩)
    ⟨hpoint'.trans hentry, by rw [hrule', ruleFor_matches, hhost]; exact ⟨hmatch.1, hpath⟩⟩
  rwa [hrule, hrule', ruleFor_length_le hhost] at hle

/-- A workspace on the path of a request is routed if no other one of its
owner with a longer slug is. -/
theorem routed_intro (a https : Bool) (target : Nat → String) (req : HttpRequest) (h : d.WellNamed s)
    {v : WorkspaceAddress} (hv : v ∈ d.running) (hweb : req.entryPoint = .web)
    (hhost : req.host = rowHost v) (hpath : workspacePath v.urlSlug.toList <+: req.path.toList)
    (hlongest : ∀ u ∈ d.running, u.ownerUserId = v.ownerUserId →
      workspacePath u.urlSlug.toList <+: req.path.toList →
        u.urlSlug.toList.length ≤ v.urlSlug.toList.length) :
    ∃ r, Routed (persistLocked a https (registeredRoutes target d)) req r
      ∧ r.target = target v.workspaceId := by
  obtain ⟨hslug, -, -, sub, -, -, -, haddr⟩ := running_address h hv
  have hpoint : TraefikEntryPoint.web ∈ entryPoints https := by cases https <;> simp [entryPoints]
  obtain ⟨r, hr, hrule, htarget, hentry⟩ :=
    (routersOf_rowFor a https target hslug haddr).2 _ hpoint
  refine ⟨r, ⟨mem_persistLocked.mpr ⟨v, hv, hr⟩, ⟨hentry.trans hweb.symm, ?_⟩, ?_⟩, htarget⟩
  · rw [hrule, ruleFor_matches, hhost]
    exact ⟨rfl, hpath⟩
  · intro r' hr' hmatch'
    obtain ⟨u, hu, hru⟩ := mem_persistLocked.mp hr'
    obtain ⟨hslugu, -, -, subu, -, -, -, haddru⟩ := running_address h hu
    obtain ⟨hrule', -, -⟩ := (routersOf_rowFor a https target hslugu haddru).1 r' hru
    have hm := hmatch'.2
    rw [hrule', ruleFor_matches, hhost] at hm
    have hown := owner_of_rowHost h hu hv hm.1.symm
    rw [hrule, hrule', ruleFor_length_le (rowHost_owner h hu hv hown)]
    exact hlongest u hu hown hm.2

/-! ### The endpoint's answer -/

variable {hash urlparsePath : String → String}

/-- The workspace the endpoint resolves for a request. -/
def resolved (s : RoutingSettings) (urlparsePath : String → String) (d : Directory)
    (req : HttpRequest) : Option Nat :=
  resolveWorkspaceIdFromGatewayRequest s urlparsePath d (PyText.strip req.host)
    (PyText.strip req.path)

theorem gatewayForwardAuth_eq (hauth : s.devnestGatewayAuthEnabled = true)
    (sessions : List WorkspaceSession) (now : Int) (req : HttpRequest) (header cookie : Option String) :
    gatewayForwardAuth s hash urlparsePath d sessions now (authCall req header cookie)
      = match resolved s urlparsePath d req with
        | none => .denied "workspace host not recognized"
        | some wid => checkSession hash d sessions now (authCall req header cookie) wid := by
  have hhost : optionOrText (some req.host) req.host = req.host := by
    simp [optionOrText]
  have hpath : optionOrText (some req.path) "/internal/gateway/auth" = req.path := by
    have hne : req.path ≠ "" := by
      intro he
      have hrooted := req.rooted
      rw [he] at hrooted
      simp at hrooted
    simp [optionOrText, hne]
  simp only [gatewayForwardAuth, hauth, Bool.not_true, Bool.false_eq_true, if_false, authCall,
    hhost, hpath, resolved]

/-- An allowed request was resolved, and its workspace is running. -/
theorem allowed_resolved (hauth : s.devnestGatewayAuthEnabled = true)
    {sessions : List WorkspaceSession} {now : Int} {req : HttpRequest} {header cookie : Option String}
    {wid : Nat}
    (h : gatewayForwardAuth s hash urlparsePath d sessions now (authCall req header cookie)
      = .allowed (some wid)) :
    resolved s urlparsePath d req = some wid ∧ ∃ w ∈ d.running, w.workspaceId = wid := by
  rw [gatewayForwardAuth_eq hauth] at h
  cases hres : resolved s urlparsePath d req with
  | none =>
      rw [hres] at h
      cases h
  | some id =>
      rw [hres] at h
      simp only [checkSession] at h
      generalize (if PyText.stripOr (authCall req header cookie).sessionHeader ≠ "" then
        PyText.stripOr (authCall req header cookie).sessionHeader
        else PyText.stripOr (authCall req header cookie).sessionCookie) = token at h
      split_ifs at h
      split at h
      · cases h
      · split_ifs at h
        split at h
        · cases h
        · rename_i w hw
          split_ifs at h with hrunning
          cases h
          refine ⟨rfl, w, Directory.mem_running.mpr ⟨List.mem_of_find?_eq_some hw, ?_⟩, ?_⟩
          · simpa using hrunning
          · simpa using List.find?_some hw

/-- A request that resolves to a running workspace is allowed with a session
of it. -/
theorem allowed_intro (hauth : s.devnestGatewayAuthEnabled = true) (h : d.WellNamed s)
    {req : HttpRequest} {w : WorkspaceAddress} (hw : w ∈ d.running)
    (hres : resolved s urlparsePath d req = some w.workspaceId) :
    gatewayForwardAuth s hash urlparsePath d [⟨hash "t", w.workspaceId, .active, 1⟩] 0
      (authCall req (some "t") none) = .allowed (some w.workspaceId) := by
  have htoken : PyText.stripOr (some "t") = "t" := by decide
  have hfind : d.workspace w.workspaceId = some w := by
    have hmem := (Directory.mem_running.mp hw).1
    unfold Directory.workspace
    cases hf : d.workspaces.find? (·.workspaceId = w.workspaceId) with
    | none =>
        have hnone := List.find?_eq_none.mp hf w hmem
        simp at hnone
    | some w' =>
        rw [h.named.workspace_ext (List.mem_of_find?_eq_some hf) hmem (by simpa using List.find?_some hf)]
  have hrunning := (Directory.mem_running.mp hw).2
  rw [gatewayForwardAuth_eq hauth, hres]
  simp [checkSession, authCall, htoken, hfind, hrunning]

/-- What a tenant host and a slug resolve to. -/
theorem resolve_tenant (htenant : tenantWorkspaceUrlsEnabled s = true) (h : d.WellNamed s)
    {v : WorkspaceAddress} (hv : v ∈ d.running) {host uri slug : String}
    (hhost : cleanHost host = cleanHost (rowHost v)) (hreads : ReadsAsTenant s v)
    (huri : uri ≠ "") (hslug : extractWorkspaceSlugFromPath urlparsePath uri = some slug) :
    resolveWorkspaceIdFromGatewayRequest s urlparsePath d host uri
      = (d.workspaces.find? (hasUrlSlug v.ownerUserId slug)).map (·.workspaceId) := by
  obtain ⟨-, u, hu, sub, hid, hsub, hsubslug, haddr⟩ := running_address h hv
  obtain ⟨label, hlabel⟩ := Option.isSome_iff_exists.mp hreads.2
  obtain ⟨r, hr⟩ := cleanHost_rowHost hsubslug haddr
  obtain rfl : label = sub := parseWorkspaceHost_label hsubslug hr hlabel
  have huser := h.named.find_user hu hsub
  rw [resolveWorkspaceIdFromGatewayRequest, workspaceIdFromHost_congr hhost, hreads.1]
  simp only [htenant, Bool.not_true, Bool.false_eq_true, if_false, if_neg huri, hslug,
    parseWorkspaceHost_congr hhost, hlabel, Option.bind_some, huser, hid]

/-- The slug that a path below `v` resolves to goes on from that of `v` with
the lower case of something that follows it in the path. -/
theorem resolved_below (htenant : tenantWorkspaceUrlsEnabled s = true) (h : d.WellNamed s)
    {v w : WorkspaceAddress} (hv : v ∈ d.running) (hw : w ∈ d.running) {req : HttpRequest}
    (hhost : cleanHost (PyText.strip req.host) = cleanHost (rowHost v))
    (hreads : ReadsAsTenant s v) {t : List Char}
    (ht : workspacePath v.urlSlug.toList ++ t = req.path.toList)
    (hres : resolved s urlparsePath d req = some w.workspaceId) :
    v.ownerUserId = w.ownerUserId ∧ ∃ t', t' <+: t
      ∧ w.urlSlug.toList = v.urlSlug.toList ++ PyText.lowerChars (PyText.lowerChars t') := by
  have hslugv := (running_address h hv).1
  have hslugw := (running_address h hw).1
  obtain ⟨t', ht', hext⟩ := extract_below t urlparsePath hslugv.ne_nil hslugv.2
  have huri : PyText.strip req.path
      = String.ofList (PyText.stripChars (workspacePath v.urlSlug.toList ++ t)) := by
    rw [ht, PyText.strip]
  have hne : PyText.strip req.path ≠ "" := by
    intro he
    rw [← huri, he] at hext
    simp [extractWorkspaceSlugFromPath, PyText.strip, pathSegment, PyText.stripChars] at hext
  rw [resolved, resolve_tenant htenant h hv hhost hreads hne (huri ▸ hext)] at hres
  obtain ⟨w', hfind, hid⟩ := Option.map_eq_some_iff.mp hres
  obtain rfl : w' = w := h.named.workspace_ext (List.mem_of_find?_eq_some hfind)
    (Directory.mem_running.mp hw).1 hid
  have hprop := List.find?_some hfind
  simp only [hasUrlSlug, Bool.and_eq_true, decide_eq_true_eq] at hprop
  refine ⟨hprop.1.1.symm, t', ht', ?_⟩
  have hlower := congrArg String.toList hprop.1.2
  rw [PyText.lower, PyText.lower, String.toList_ofList, String.toList_ofList,
    lowerChars_slug hslugw.2, String.toList_ofList, PyText.lowerChars_append,
    lowerChars_slug hslugv.2] at hlower
  exact hlower

theorem agrees_of_namesApart (hauth : s.devnestGatewayAuthEnabled = true)
    (htenant : tenantWorkspaceUrlsEnabled s = true) (h : d.WellNamed s) {https : Bool}
    {target : Nat → String} (hapart : NamesApart s target d) :
    Agrees s hash urlparsePath https target d := by
  intro rows req sessions now header cookie wid r hsame hallow hrouted
  obtain ⟨v, hv, htarget, hhost, ⟨t, ht⟩, hlongest⟩ := routed_workspace h hrouted
  obtain ⟨hres, w, hwrows, rfl⟩ := allowed_resolved hauth hallow
  have hw := hsame.mem_running.mp hwrows
  have hclean : cleanHost (PyText.strip req.host) = cleanHost (rowHost v) := by
    rw [cleanHost_strip]
    exact cleanHost_congr hhost
  rw [htarget]
  cases hleg : workspaceIdFromHost (rowHost v) (cleanDomain s.devnestBaseDomain) with
  | some n =>
      rw [resolved, resolveWorkspaceIdFromGatewayRequest, workspaceIdFromHost_congr hclean,
        hleg] at hres
      obtain rfl : n = w.workspaceId := Option.some.inj hres
      exact hapart v hv w hw (.inl hleg)
  | none =>
      have hreads : ReadsAsTenant s v := by
        refine ⟨hleg, ?_⟩
        cases hp : parseWorkspaceHost (rowHost v) (effectivePublicBaseDomain s) with
        | some label => rfl
        | none =>
            rw [resolved, resolveWorkspaceIdFromGatewayRequest, workspaceIdFromHost_congr hclean,
              hleg] at hres
            simp [htenant, parseWorkspaceHost_congr hclean, hp] at hres
      obtain ⟨hown, t', ht', hslug⟩ := resolved_below htenant (h.sameRows hsame)
        (hsame.mem_running.mpr hv) hwrows hclean hreads ht hres
      -- what is on the path below `v` without letters is on the path as it is written
      have hbelow : ∀ {u ext}, u ∈ d.running → u.ownerUserId = v.ownerUserId →
          u.urlSlug.toList = v.urlSlug.toList ++ ext →
          ext <+: PyText.lowerChars (PyText.lowerChars t') →
          (∀ c ∈ ext, PyText.isLetter c = false) → ext = [] := by
        intro u ext hu hownu hu' hpre hletter
        have hext : ext <+: t := (prefix_of_lowerChars (prefix_of_lowerChars hpre hletter)
          hletter).trans ht'
        have hpath : workspacePath u.urlSlug.toList <+: req.path.toList := by
          obtain ⟨t'', ht''⟩ := hext
          refine ⟨t'', ?_⟩
          rw [hu', ← ht, ← ht'', workspacePath_append, List.append_assoc]
        have hle := hlongest u hu hownu hpath
        rw [hu', List.length_append] at hle
        exact List.eq_nil_of_length_eq_zero (by omega)
      refine hapart v hv w hw (.inr ⟨hreads, hown, _, hslug, ?_,
        fun u hu hownu ext hu' hpre hext => hbelow hu hownu hu' hpre hext⟩)
      by_cases hletter : ∃ c ∈ PyText.lowerChars (PyText.lowerChars t'), PyText.isLetter c = true
      · exact .inr hletter
      · exact .inl (hbelow hw hown.symm hslug List.prefix_rfl fun c hc => by
          simpa using fun hc' => hletter ⟨c, hc, hc'⟩)

/-- A request for the host of a workspace, on the plain entry point. -/
def requestFor (v : WorkspaceAddress) (l : List Char) : HttpRequest where
  host := rowHost v
  path := String.ofList (workspacePath l)
  entryPoint := .web
  rooted := by
    rw [String.toList_ofList]
    rfl

theorem workspacePath_prefix_iff {a b : List Char} :
    workspacePath a <+: workspacePath b ↔ a <+: b := List.prefix_append_right_inj _

/-- A prefix of two texts ends in the first, or goes on into the second. -/
theorem prefix_append_cases {a b t : List Char} (h : t <+: a ++ b) :
    t <+: a ∨ ∃ ext, t = a ++ ext ∧ ext <+: b := by
  rcases List.prefix_or_prefix_of_prefix h (List.prefix_append a b) with hpre | ⟨ext, rfl⟩
  · exact .inl hpre
  · exact .inr ⟨ext, rfl, (List.prefix_append_right_inj a).mp h⟩

theorem namesApart_of_agrees (hauth : s.devnestGatewayAuthEnabled = true)
    (htenant : tenantWorkspaceUrlsEnabled s = true) (h : d.WellNamed s) {https : Bool}
    {target : Nat → String} (hagrees : Agrees s hash urlparsePath https target d) :
    NamesApart s target d := by
  intro v hv w hw hconf
  have hslugv := (running_address h hv).1
  have hslugw := (running_address h hw).1
  have hpathlist : ∀ l, (requestFor v l).path.toList = workspacePath l := fun l =>
    String.toList_ofList
  rcases hconf with hleg | ⟨hreads, hown, rest, hrest, -, hbetween⟩
  · -- the plain address of `v`, with a session of `w`
    have hres : resolved s urlparsePath d (requestFor v v.urlSlug.toList) = some w.workspaceId := by
      have hclean : cleanHost (PyText.strip (requestFor v v.urlSlug.toList).host)
          = cleanHost (rowHost v) := cleanHost_strip _
      rw [resolved, resolveWorkspaceIdFromGatewayRequest, workspaceIdFromHost_congr hclean, hleg]
    obtain ⟨r, hrouted, htarget⟩ := routed_intro s.devnestGatewayAuthEnabled https target
      (requestFor v v.urlSlug.toList) h hv rfl rfl (by rw [hpathlist]) (by
        intro u _ _ hu
        rw [hpathlist, workspacePath_prefix_iff] at hu
        exact hu.length_le)
    rw [← htarget]
    exact hagrees d _ _ _ _ _ _ _ ⟨List.Perm.refl _, List.Perm.refl _⟩
      (allowed_intro hauth h hw hres) hrouted
  · -- the slug of `w`, with what goes on from that of `v` in upper case, and the row of `w` first
    obtain ⟨hwmem, hwrun⟩ := Directory.mem_running.mp hw
    have hmatch : hasUrlSlug v.ownerUserId w.urlSlug w = true :=
      (h.named.hasUrlSlug_iff hwmem hslugw).mpr ⟨hown.symm, rfl, by simp [hwrun]⟩
    obtain ⟨rows, hsame, hfirst⟩ := Directory.exists_first hwmem hmatch
    have hrows := h.sameRows hsame
    have hvrows := hsame.mem_running.mpr hv
    have hrestslug : ∀ c ∈ rest, isSlugChar c = true := fun c hc =>
      hslugw.2 c (by rw [hrest]; exact List.mem_append_right _ hc)
    have hext := extract_shout urlparsePath hslugv.ne_nil hslugv.2 hrestslug
    rw [← hrest, String.ofList_toList] at hext
    have hres : resolved s urlparsePath rows (requestFor v (v.urlSlug.toList ++ rest.map shout))
        = some w.workspaceId := by
      have huri : PyText.strip (requestFor v (v.urlSlug.toList ++ rest.map shout)).path
          = String.ofList (PyText.stripChars
            (workspacePath (v.urlSlug.toList ++ rest.map shout))) := by
        rw [PyText.strip, hpathlist]
      have hne : PyText.strip (requestFor v (v.urlSlug.toList ++ rest.map shout)).path ≠ "" := by
        intro he
        rw [← huri, he] at hext
        simp [extractWorkspaceSlugFromPath, PyText.strip, pathSegment, PyText.stripChars] at hext
      have hclean : cleanHost (PyText.strip
          (requestFor v (v.urlSlug.toList ++ rest.map shout)).host) = cleanHost (rowHost v) :=
        cleanHost_strip _
      rw [resolved, resolve_tenant htenant hrows hvrows hclean hreads hne (huri ▸ hext), hfirst]
      rfl
    obtain ⟨r, hrouted, htarget⟩ := routed_intro s.devnestGatewayAuthEnabled https target
      (requestFor v (v.urlSlug.toList ++ rest.map shout)) h hv rfl rfl
      (by rw [hpathlist, workspacePath_prefix_iff]; exact List.prefix_append _ _) (by
        intro u hu hownu hpre
        rw [hpathlist, workspacePath_prefix_iff] at hpre
        rcases prefix_append_cases hpre with hshort | ⟨ext, hu', hpre'⟩
        · exact hshort.length_le
        · have hextslug : ∀ c ∈ ext, isSlugChar c = true := fun c hc =>
            (running_address h hu).1.2 c (by rw [hu']; exact List.mem_append_right _ hc)
          obtain ⟨hext', hletter⟩ := prefix_shout hpre' hextslug hrestslug
          rw [hu', hbetween u hu hownu ext hu' hext' hletter, List.append_nil])
    rw [← htarget]
    exact hagrees rows _ _ _ _ _ _ _ hsame
      (allowed_intro hauth hrows (hsame.mem_running.mpr hw) hres) hrouted

end Agreement

/-- In tenant mode with gateway auth, who is authorised is who is routed
exactly when the names of the directory are apart. -/
theorem authorised_is_routed_iff (s : RoutingSettings) (hgw : s.devnestGatewayEnabled = true)
    (hauth : s.devnestGatewayAuthEnabled = true) (htenant : tenantWorkspaceUrlsEnabled s = true)
    (hash urlparsePath : String → String) (https : Bool) (target : Nat → String)
    (events : List DirectoryEvent) :
    Agrees s hash urlparsePath https target (Runs.run (Directory.step s) .empty events)
      ↔ NamesApart s target (Runs.run (Directory.step s) .empty events) := by
  have hnamed := wellNamed_run hgw htenant events
  exact ⟨namesApart_of_agrees hauth htenant hnamed, agrees_of_namesApart hauth htenant hnamed⟩

/-- Tenant addresses under one domain. -/
def sampleRouting : RoutingSettings where
  devnestBaseDomain := some "app.devnest.local"
  devnestWorkspaceDomainMode := some "tenant"
  devnestGatewayEnabled := true
  devnestGatewayAuthEnabled := true

/-- Two users with one running workspace each. -/
def twoTenants (first second : String) : List DirectoryEvent :=
  [.register first, .register second, .create 1 "proj" none, .create 2 "site" none,
    .setStatus 1 .running, .setStatus 2 .running]

def sampleTarget (id : Nat) : String := "http://10.0.0." ++ toString id ++ ":8080"

/-- Workspaces of users with ordinary names are told apart. -/
theorem ordinary_names_agree :
    Agrees sampleRouting id id true sampleTarget
      (Runs.run (Directory.step sampleRouting) .empty (twoTenants "alice" "bob")) := by
  refine (authorised_is_routed_iff sampleRouting rfl rfl (by decide +kernel) id id true
    sampleTarget (twoTenants "alice" "bob")).mpr ?_
  have hlegacy : ∀ v ∈ (Runs.run (Directory.step sampleRouting) .empty
      (twoTenants "alice" "bob")).running,
      workspaceIdFromHost (rowHost v) (cleanDomain sampleRouting.devnestBaseDomain) = none := by
    decide +kernel
  have howner : ∀ v ∈ (Runs.run (Directory.step sampleRouting) .empty
      (twoTenants "alice" "bob")).running, v.ownerUserId = v.workspaceId := by
    decide +kernel
  intro v hv w hw hconf
  rcases hconf with hleg | ⟨-, hown, -⟩
  · rw [ReadsAsLegacy, hlegacy v hv] at hleg
    cases hleg
  · rw [← howner v hv, ← howner w hw, hown]

/-- A user called `ws-1` has the host that reads as the legacy host of
workspace 1. A session of that workspace, which is another user's, opens the
workspace of `ws-1`. -/
theorem legacy_name_opens_workspace :
    ¬ Agrees sampleRouting id id true sampleTarget
      (Runs.run (Directory.step sampleRouting) .empty (twoTenants "alice" "ws-1")) := by
  intro hagrees
  have hapart := namesApart_of_agrees rfl (by decide +kernel)
    (wellNamed_run rfl (by decide +kernel) (twoTenants "alice" "ws-1")) hagrees
  have hconf : ∃ v ∈ (Runs.run (Directory.step sampleRouting) .empty
      (twoTenants "alice" "ws-1")).running, ∃ w ∈ (Runs.run (Directory.step sampleRouting) .empty
      (twoTenants "alice" "ws-1")).running, workspaceIdFromHost (rowHost v)
        (cleanDomain sampleRouting.devnestBaseDomain) = some w.workspaceId
        ∧ sampleTarget v.workspaceId ≠ sampleTarget w.workspaceId := by
    decide +kernel
  obtain ⟨v, hv, w, hw, hleg, hne⟩ := hconf
  exact hne (hapart v hv w hw (.inl hleg))

end Devnest
