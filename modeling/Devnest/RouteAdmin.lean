import Mathlib.Data.List.Sort
import Mathlib.Data.String.Basic
import Devnest.GatewayAuth
import Devnest.Runs
import Devnest.Table

/-!
# Route-admin

Route-admin keeps the gateway's routes twice: in a table in memory, which
`GET /routes` lists, and in the file that Traefik reads. `_persist_locked`
writes the table as routers and services; after a restart
`_hydrate_routes_from_disk_locked` reads the table back from their names and
rules.

`routes_survive_restart` says for which requests the table comes back as it
was, and `failed_requests_are_atomic` which requests leave table and file
alone when the file cannot be written.
-/

namespace Devnest

open PyText Runs

/-! ## Settings -/

/-- The environment variables of the process. -/
structure RouteAdminEnv where
  devnestGatewayAuthEnabled : Bool := false
  devnestTlsEnabled : Bool := false
  devnestGatewayPublicScheme : Option String := none
  devnestBaseDomain : Option String := none

namespace RouteAdminEnv

variable (env : RouteAdminEnv)

def envSchemeHttps : Bool := lower (stripOr env.devnestGatewayPublicScheme) = "https"

def workspaceHttpsEnabled : Bool := env.devnestTlsEnabled || env.envSchemeHttps

def baseDomain : String := lower (stripOr env.devnestBaseDomain)

def useDnsWildcardAcme : Bool :=
  env.workspaceHttpsEnabled && env.baseDomain ≠ "" && !isIn "sslip.io" env.baseDomain

end RouteAdminEnv

/-! ## The routes file -/

/-- The `tls` block of a router: empty, or the `letsencrypt-dns` resolver for the domain and its
wildcard. -/
inductive TlsBlock where
  | selfSigned
  | dnsWildcard (main : String) (sans : List String)
  deriving DecidableEq, Repr

def tlsRouterOptions (env : RouteAdminEnv) : TlsBlock :=
  if env.useDnsWildcardAcme then .dnsWildcard ("*." ++ env.baseDomain) [env.baseDomain]
  else .selfSigned

/-- A router as the file has it. -/
structure RouterDef where
  rule : String
  entryPoint : TraefikEntryPoint
  service : String
  middlewares : List String
  tls : Option TlsBlock
  deriving DecidableEq, Repr

/-- The `http` part of the file: routers, the URL of each service and the prefix that each
middleware strips. -/
structure HttpDoc where
  routers : Table String RouterDef := ∅
  services : Table String String := ∅
  middlewares : Table String String := ∅
  deriving DecidableEq

inductive RoutesFile where
  /-- `{}`, for a table without routes. -/
  | empty
  | http (doc : HttpDoc)
  deriving DecidableEq

/-! ## The table -/

/-- `_routes`: each row is kept under its workspace. -/
structure RouteTable where
  rows : Table String RegisteredRoute
  keyed : ∀ {w r}, rows.lookup w = some r → r.workspaceId = w

namespace RouteTable

def empty : RouteTable := ⟨∅, fun h => by simp at h⟩

def set (t : RouteTable) (r : RegisteredRoute) : RouteTable where
  rows := t.rows.insert r.workspaceId r
  keyed := by
    intro w x h
    rw [Table.lookup_insert_eq] at h
    split at h
    · rename_i hw
      rw [← Option.some.inj h, hw]
    · exact t.keyed h

def pop (t : RouteTable) (w : String) : RouteTable where
  rows := t.rows.erase w
  keyed := by
    intro v x h
    by_cases hv : v = w
    · rw [hv, AList.lookup_erase] at h
      cases h
    · rw [AList.lookup_erase_ne hv] at h
      exact t.keyed h

def get (t : RouteTable) (w : String) : Option RegisteredRoute := t.rows.lookup w

/-- The rows in the order of their ids. -/
def sorted (t : RouteTable) : List RegisteredRoute :=
  (Table.rows t.rows).insertionSort fun a b => a.workspaceId ≤ b.workspaceId

end RouteTable

/-! ## Writing the file -/

def routerName (workspaceId : String) : String := "devnest-reg-" ++ workspaceId

/-- The router that mirrors a workspace's on plain HTTP. -/
def mirrorName (workspaceId : String) : String := routerName workspaceId ++ "-http"

def upstreamName (workspaceId : String) : String := routerName workspaceId ++ "-upstream"

section Persist

variable (env : RouteAdminEnv)

def ruleOf (row : RegisteredRoute) : Rule where
  host := row.publicHost
  pathPrefix := if strip row.pathPrefix ≠ "" then some (strip row.pathPrefix) else none

def routerDef (row : RegisteredRoute) (entryPoint : TraefikEntryPoint) (withTls : Bool) :
    RouterDef where
  rule := (ruleOf row).text
  entryPoint := entryPoint
  service := upstreamName row.workspaceId
  middlewares := (if env.devnestGatewayAuthEnabled then ["devnest-workspace-auth@file"] else [])
    ++ if strip row.pathPrefix ≠ "" then [routerName row.workspaceId ++ "-stripprefix"] else []
  tls := if withTls then some (tlsRouterOptions env) else none

/-- One turn of the loop of `_persist_locked`. -/
def persistRow (doc : HttpDoc) (row : RegisteredRoute) : HttpDoc where
  routers :=
    if env.workspaceHttpsEnabled then
      (doc.routers.insert (routerName row.workspaceId) (routerDef env row .websecure true)).insert
        (mirrorName row.workspaceId) (routerDef env row .web false)
    else doc.routers.insert (routerName row.workspaceId) (routerDef env row .web false)
  services := doc.services.insert (upstreamName row.workspaceId) row.target
  middlewares :=
    if strip row.pathPrefix ≠ "" then
      doc.middlewares.insert (routerName row.workspaceId ++ "-stripprefix") (strip row.pathPrefix)
    else doc.middlewares

def httpDoc (rows : List RegisteredRoute) : HttpDoc := rows.foldl (persistRow env) {}

/-- What `_persist_locked` writes. -/
def routesFile (t : RouteTable) : RoutesFile :=
  if t.rows.entries = [] then .empty else .http (httpDoc env t.sorted)

end Persist

/-- The file operations of `_persist_locked`, in order. The last one puts the new file in the
place of the old one. -/
inductive PersistCall where
  | mkdir | mkstemp | fdopen | write | replace
  deriving DecidableEq, Repr

/-- The file that `_persist_locked` leaves, or the first operation that raises. -/
def RouteAdminEnv.persistLocked (env : RouteAdminEnv) (raises : PersistCall → Bool) (t : RouteTable) :
    Except PersistCall RoutesFile :=
  match [.mkdir, .mkstemp, .fdopen, .write, .replace].find? raises with
  | some call => .error call
  | none => .ok (routesFile env t)

/-! ## Reading the file -/

/-- `_SAFE_WID`; its `$` also matches before a last line break. -/
def isSafeWid (s : String) : Bool :=
  let l := if s.toList.getLast? = some '\n' then s.toList.dropLast else s.toList
  l ≠ [] && l.length ≤ 128 && l.all fun c => c.isAlphanum || c = '.' || c = '_' || c = '-'

def widFromRouterName (rname : String) : Option String :=
  if !startsWith rname "devnest-reg-" then none
  else
    let rest := String.ofList (rname.toList.drop "devnest-reg-".toList.length)
    let rest := (withoutSuffix rest "-http").getD rest
    if rest = "" || !isSafeWid rest then none else some rest

/-- The rest of the text after `p`. -/
def afterText (p : String) (l : List Char) : Option (List Char) :=
  if p.toList.isPrefixOf l then some (l.drop p.toList.length) else none

/-- The text between back quotes in a matcher, and what comes after it. -/
def matchCall (name : String) (l : List Char) : Option (List Char × List Char) :=
  (afterText (name ++ "(`") l).bind fun l =>
    let text := l.takeWhile (· ≠ '`')
    if text = [] then none
    else (afterText "`)" (l.dropWhile (· ≠ '`'))).map fun rest => (text, rest)

/-- `_HOST_RULE_PREFIX` and `_HOST_RULE`: the host and the path prefix of a rule. -/
def matchHostRule (rule : List Char) : Option (List Char × List Char) :=
  (matchCall "Host" rule).bind fun host =>
    if host.2.all isSpace then some (host.1, [])
    else (afterText "&&" (host.2.dropWhile isSpace)).bind fun rest =>
      (matchCall "PathPrefix" (rest.dropWhile isSpace)).bind fun pathPrefix =>
        if pathPrefix.2.all isSpace then some (host.1, pathPrefix.1) else none

def withScheme (t : String) : String := if isIn "://" t then t else "http://" ++ t

/-- `_normalize_target`, here and in the gateway client; `none` is a `ValueError`. -/
def normalizeTarget (raw : String) : Option String :=
  let t := strip raw
  if t = "" then none
  else if startsWith (withScheme t) "http://" || startsWith (withScheme t) "https://" then
    some (withScheme t)
  else none

/-- The row of `wid` that the file has, if it is complete. -/
def hydrateRow (doc : HttpDoc) (names : List String) (wid : String) : Option RegisteredRoute :=
  let rname :=
    if (doc.routers.lookup (routerName wid)).isSome then some (routerName wid)
    else if (doc.routers.lookup (mirrorName wid)).isSome then some (mirrorName wid)
    else names.find? fun n => widFromRouterName n = some wid
  (rname.bind doc.routers.lookup).bind fun router =>
    (matchHostRule (stripChars router.rule.toList)).bind fun rule =>
      (doc.services.lookup (upstreamName wid)).bind fun url =>
        (normalizeTarget url).map fun target =>
          { workspaceId := wid
            publicHost := String.ofList (stripChars rule.1)
            target := target
            pathPrefix := String.ofList (stripChars rule.2) }

/-- `_hydrate_routes_from_disk_locked` on an empty table. -/
def hydrateRoutes : Option RoutesFile → RouteTable
  | none | some .empty => .empty
  | some (.http doc) =>
      ((doc.routers.keys.filterMap widFromRouterName).filterMap
        (hydrateRow doc doc.routers.keys)).foldl RouteTable.set .empty

/-! ## Requests -/

structure RouteRegisterBody where
  workspaceId : String
  publicHost : String
  target : String
  pathPrefix : Option String := none
  nodeKey : Option String := none
  executionNodeId : Option Int := none
  deriving DecidableEq, Repr

/-- The lengths that the model of the body allows. -/
def RouteRegisterBody.isValid (b : RouteRegisterBody) : Bool :=
  1 ≤ b.workspaceId.length && b.workspaceId.length ≤ 128 &&
  1 ≤ b.publicHost.length && b.publicHost.length ≤ 512 &&
  1 ≤ b.target.length && b.target.length ≤ 1024 &&
  (b.pathPrefix.all fun p => p.length ≤ 512) && (b.nodeKey.all fun k => k.length ≤ 256) &&
  b.executionNodeId.all fun n => (1 : Int) ≤ n

inductive RouteRequest where
  | post (body : RouteRegisterBody)
  | delete (workspaceId : String)
  deriving DecidableEq, Repr

inductive RouteResponse where
  | row (r : RegisteredRoute)
  | noContent
  | badRequest (detail : String)
  | unprocessable
  /-- A file operation raised. -/
  | serverError (call : PersistCall)
  deriving DecidableEq, Repr

/-- The row of an accepted body, or why it is refused. -/
def RouteRegisterBody.toRow (b : RouteRegisterBody) : Except RouteResponse RegisteredRoute :=
  if !b.isValid then .error .unprocessable
  else if !isSafeWid (strip b.workspaceId) then .error (.badRequest "invalid workspace_id")
  else match normalizeTarget b.target with
    | none => .error (.badRequest
        (if strip b.target = "" then "target is empty" else "target must be http(s) URL or host:port"))
    | some target => .ok
        { workspaceId := strip b.workspaceId
          publicHost := strip b.publicHost
          target := target
          pathPrefix := stripOr b.pathPrefix }

/-- What the process and its disk hold. -/
structure RouteAdminState where
  routes : RouteTable := .empty
  file : Option RoutesFile := none

section Requests

variable (env : RouteAdminEnv) (raises : PersistCall → Bool)

/-- The end of both requests: the table has been changed, and is written. -/
def persistRoutes (st : RouteAdminState) (routes : RouteTable) (answer : RouteResponse) :
    RouteAdminState × RouteResponse :=
  match env.persistLocked raises routes with
  | .error call => ({ st with routes := routes }, .serverError call)
  | .ok file => ({ routes := routes, file := some file }, answer)

def RouteAdminEnv.registerRoute (st : RouteAdminState) (body : RouteRegisterBody) :
    RouteAdminState × RouteResponse :=
  match body.toRow with
  | .error answer => (st, answer)
  | .ok row => persistRoutes env raises st (st.routes.set row) (.row row)

def RouteAdminEnv.deregisterRoute (st : RouteAdminState) (workspaceId : String) :
    RouteAdminState × RouteResponse :=
  if strip workspaceId = "" then (st, .badRequest "empty workspace_id")
  else persistRoutes env raises st (st.routes.pop (strip workspaceId)) .noContent

def handleRoutes (st : RouteAdminState) : RouteRequest → RouteAdminState × RouteResponse
  | .post body => env.registerRoute raises st body
  | .delete workspaceId => env.deregisterRoute raises st workspaceId

/-- `GET /routes`. -/
def listRoutes (st : RouteAdminState) : List RegisteredRoute := st.routes.sorted

end Requests

/-! ## Names -/

section Names

theorem withoutSuffix_append_self (w s : String) : withoutSuffix (w ++ s) s = some w := by
  unfold withoutSuffix
  rw [if_pos (by rw [String.toList_append]; exact List.suffix_append _ _), String.toList_append,
    List.length_append, Nat.add_sub_cancel, List.take_left, String.ofList_toList]

theorem routerName_inj {v w : String} (h : routerName v = routerName w) : v = w :=
  String.append_right_inj _ |>.mp h

theorem upstreamName_inj {v w : String} (h : upstreamName v = upstreamName w) : v = w :=
  routerName_inj (String.append_left_inj _ |>.mp h)

/-- A mirror has the name of a workspace's own router if that is so called. -/
theorem mirrorName_eq (w : String) : mirrorName w = routerName (w ++ "-http") := by
  rw [mirrorName, routerName, routerName, String.append_assoc]

/-- The id in a router's name, with one `-http` taken off. -/
theorem widFromRouterName_routerName (rest : String) :
    widFromRouterName (routerName rest) =
      if (withoutSuffix rest "-http").getD rest = "" ||
        !isSafeWid ((withoutSuffix rest "-http").getD rest) then none
      else some ((withoutSuffix rest "-http").getD rest) := by
  have hstart : startsWith (routerName rest) "devnest-reg-" = true := by
    rw [startsWith, List.isPrefixOf_iff_prefix, routerName, String.toList_append]
    exact List.prefix_append _ _
  have hdrop : String.ofList ((routerName rest).toList.drop "devnest-reg-".toList.length) = rest := by
    rw [routerName, String.toList_append, List.drop_left, String.ofList_toList]
  rw [widFromRouterName, hstart, hdrop]
  rfl

theorem ne_empty_of_isSafeWid {w : String} (h : isSafeWid w = true) : w ≠ "" := by
  rintro rfl
  cases h

/-- The name of a workspace is read back, unless it ends like a mirror's. -/
theorem widFromRouterName_own {w : String} (hsafe : isSafeWid w = true)
    (hplain : withoutSuffix w "-http" = none) : widFromRouterName (routerName w) = some w := by
  have hne := ne_empty_of_isSafeWid hsafe
  rw [widFromRouterName_routerName, hplain, Option.getD_none]
  simp [hne, hsafe]

theorem widFromRouterName_mirror {w : String} (hsafe : isSafeWid w = true) :
    widFromRouterName (mirrorName w) = some w := by
  have hne := ne_empty_of_isSafeWid hsafe
  rw [mirrorName_eq, widFromRouterName_routerName, withoutSuffix_append_self, Option.getD_some]
  simp [hne, hsafe]

/-- What a router's name is read as: its own workspace, or the one it seems to mirror. -/
theorem widFromRouterName_some {v w : String} (h : widFromRouterName (routerName v) = some w) :
    v = w ++ "-http" ∨ (v = w ∧ withoutSuffix w "-http" = none) := by
  rw [widFromRouterName_routerName] at h
  split at h
  · cases h
  · obtain rfl := Option.some.inj h
    cases hv : withoutSuffix v "-http" with
    | none => exact .inr ⟨rfl, hv⟩
    | some u =>
        refine .inl (String.toList_injective ?_)
        rw [Option.getD_some, String.toList_append]
        exact withoutSuffix_append hv

/-- Mirrors sort after the workspace they mirror. -/
theorem lt_append_http (w : String) : w < w ++ "-http" := by
  rw [String.lt_iff_toList_lt, String.toList_append]
  induction w.toList with
  | nil => exact List.nil_lt_cons _ _
  | cons c l ih => exact List.cons_lt_cons_iff.mpr (.inr ⟨rfl, ih⟩)

theorem ne_append_http (w : String) : w ≠ w ++ "-http" := ne_of_lt (lt_append_http w)

end Names

/-! ## What the file has -/

section Doc

variable {env : RouteAdminEnv}

theorem persistRow_services (doc : HttpDoc) (row : RegisteredRoute) (w : String) :
    (persistRow env doc row).services.lookup (upstreamName w) =
      if w = row.workspaceId then some row.target else doc.services.lookup (upstreamName w) := by
  rw [persistRow, Table.lookup_insert_eq]
  by_cases hw : w = row.workspaceId
  · rw [if_pos (congrArg upstreamName hw), if_pos hw]
  · rw [if_neg fun h => hw (upstreamName_inj h), if_neg hw]

/-- A row that is written later leaves the router of another workspace alone. -/
theorem persistRow_routers_of_lt (doc : HttpDoc) {row : RegisteredRoute} {w : String}
    (hlt : w < row.workspaceId) :
    (persistRow env doc row).routers.lookup (routerName w) = doc.routers.lookup (routerName w) := by
  have hown : routerName w ≠ routerName row.workspaceId := fun h => ne_of_lt hlt (routerName_inj h)
  have hmirror : routerName w ≠ mirrorName row.workspaceId := by
    intro h
    rw [mirrorName_eq] at h
    have hafter := hlt.trans (lt_append_http row.workspaceId)
    rw [← routerName_inj h] at hafter
    exact lt_irrefl w hafter
  rw [persistRow]
  dsimp only
  split
  · rw [Table.lookup_insert_eq, if_neg hmirror, Table.lookup_insert_eq, if_neg hown]
  · rw [Table.lookup_insert_eq, if_neg hown]

/-- The router that a workspace's own name stands for. -/
def ownRouter (env : RouteAdminEnv) (row : RegisteredRoute) : RouterDef :=
  routerDef env row (if env.workspaceHttpsEnabled then .websecure else .web)
    env.workspaceHttpsEnabled

theorem persistRow_routers_own (doc : HttpDoc) (row : RegisteredRoute) :
    (persistRow env doc row).routers.lookup (routerName row.workspaceId) =
      some (ownRouter env row) := by
  have hmirror : routerName row.workspaceId ≠ mirrorName row.workspaceId := by
    rw [mirrorName_eq]
    exact fun h => ne_append_http _ (routerName_inj h)
  rw [persistRow, ownRouter]
  dsimp only
  split
  · rename_i h
    rw [Table.lookup_insert_eq, if_neg hmirror, Table.lookup_insert_eq, if_pos rfl, h]
  · rename_i h
    rw [Table.lookup_insert_eq, if_pos rfl, Bool.eq_false_iff.mpr h]

/-- The names that writing a row adds. -/
theorem persistRow_routers_isSome (doc : HttpDoc) (row : RegisteredRoute) (name : String) :
    ((persistRow env doc row).routers.lookup name).isSome = true ↔
      name = routerName row.workspaceId ∨
        (env.workspaceHttpsEnabled = true ∧ name = mirrorName row.workspaceId) ∨
        (doc.routers.lookup name).isSome = true := by
  rw [persistRow]
  dsimp only
  by_cases hs : env.workspaceHttpsEnabled = true
  · rw [if_pos hs, Table.lookup_insert_eq, Table.lookup_insert_eq]
    by_cases hm : name = mirrorName row.workspaceId
    · simp [hm, hs]
    · rw [if_neg hm]
      by_cases ho : name = routerName row.workspaceId
      · simp [ho]
      · simp [hm, ho]
  · rw [if_neg hs, Table.lookup_insert_eq]
    by_cases ho : name = routerName row.workspaceId <;> simp [ho, hs]

variable {rows : List RegisteredRoute} {doc : HttpDoc}

theorem foldl_services_of_notMem {w : String} (h : ∀ r ∈ rows, r.workspaceId ≠ w) :
    (rows.foldl (persistRow env) doc).services.lookup (upstreamName w) =
      doc.services.lookup (upstreamName w) := by
  induction rows generalizing doc with
  | nil => rfl
  | cons r rows ih =>
      rw [List.foldl_cons, ih fun x hx => h x (List.mem_cons_of_mem _ hx), persistRow_services,
        if_neg (h r List.mem_cons_self).symm]

theorem foldl_services_of_mem (hsorted : rows.Pairwise fun a b => a.workspaceId < b.workspaceId)
    {row : RegisteredRoute} (hrow : row ∈ rows) :
    (rows.foldl (persistRow env) doc).services.lookup (upstreamName row.workspaceId) =
      some row.target := by
  induction rows generalizing doc with
  | nil => cases hrow
  | cons r rows ih =>
      obtain ⟨hlt, hsorted⟩ := List.pairwise_cons.mp hsorted
      rw [List.foldl_cons]
      rcases List.mem_cons.mp hrow with rfl | hrow
      · rw [foldl_services_of_notMem fun x hx => (ne_of_lt (hlt x hx)).symm, persistRow_services,
          if_pos rfl]
      · exact ih hsorted hrow

theorem foldl_routers_of_lt {w : String} (h : ∀ r ∈ rows, w < r.workspaceId) :
    (rows.foldl (persistRow env) doc).routers.lookup (routerName w) =
      doc.routers.lookup (routerName w) := by
  induction rows generalizing doc with
  | nil => rfl
  | cons r rows ih =>
      rw [List.foldl_cons, ih fun x hx => h x (List.mem_cons_of_mem _ hx),
        persistRow_routers_of_lt _ (h r List.mem_cons_self)]

/-- The rows are written in order, so a mirror that is called like a workspace's own router is
written before it. -/
theorem foldl_routers_own (hsorted : rows.Pairwise fun a b => a.workspaceId < b.workspaceId)
    {row : RegisteredRoute} (hrow : row ∈ rows) :
    (rows.foldl (persistRow env) doc).routers.lookup (routerName row.workspaceId) =
      some (ownRouter env row) := by
  induction rows generalizing doc with
  | nil => cases hrow
  | cons r rows ih =>
      obtain ⟨hlt, hsorted⟩ := List.pairwise_cons.mp hsorted
      rw [List.foldl_cons]
      rcases List.mem_cons.mp hrow with rfl | hrow
      · rw [foldl_routers_of_lt hlt, persistRow_routers_own]
      · exact ih hsorted hrow

theorem foldl_routers_isSome (name : String) :
    ((rows.foldl (persistRow env) doc).routers.lookup name).isSome = true ↔
      (∃ r ∈ rows, name = routerName r.workspaceId ∨
        (env.workspaceHttpsEnabled = true ∧ name = mirrorName r.workspaceId)) ∨
      (doc.routers.lookup name).isSome = true := by
  induction rows generalizing doc with
  | nil => simp
  | cons r rows ih =>
      rw [List.foldl_cons, ih, persistRow_routers_isSome]
      simp only [List.mem_cons, exists_eq_or_imp]
      grind

end Doc

/-! ### The rows of a table, in order -/

theorem RouteTable.mem_sorted {t : RouteTable} {r : RegisteredRoute} :
    r ∈ t.sorted ↔ t.get r.workspaceId = some r := by
  rw [RouteTable.sorted, List.mem_insertionSort, Table.mem_rows_iff]
  constructor
  · rintro ⟨w, hw⟩
    rw [t.keyed hw]
    exact hw
  · exact fun h => ⟨_, h⟩

theorem RouteTable.sorted_pairwise (t : RouteTable) :
    t.sorted.Pairwise fun a b => a.workspaceId < b.workspaceId := by
  have hle : t.sorted.Pairwise fun a b => a.workspaceId ≤ b.workspaceId := by
    refine @List.pairwise_insertionSort _ (fun a b : RegisteredRoute => a.workspaceId ≤ b.workspaceId)
      _ ⟨fun a b => le_total _ _⟩ ⟨fun a b c => le_trans⟩ _
  have hne : t.sorted.Pairwise fun a b => a.workspaceId ≠ b.workspaceId := by
    have hperm : t.sorted.Perm (Table.rows t.rows) := List.perm_insertionSort _ _
    refine (hperm.pairwise_iff fun {_ _} h => h.symm).mpr (List.pairwise_map.mpr ?_)
    refine List.Pairwise.imp_of_mem ?_ (List.pairwise_map.mp t.rows.nodupKeys)
    intro a b ha hb hab heq
    rw [t.keyed (AList.mem_lookup_iff.mpr ha), t.keyed (AList.mem_lookup_iff.mpr hb)] at heq
    exact hab heq
  exact hle.imp₂ (fun _ _ h h' => lt_of_le_of_ne h h') hne

/-! ## Rules -/

section Rules

theorem afterText_append (p : String) (l : List Char) : afterText p (p.toList ++ l) = some l := by
  rw [afterText, if_pos (List.isPrefixOf_iff_prefix.mpr (List.prefix_append _ _)), List.drop_left]

/-- A matcher is read as it was written, if its text is one. -/
theorem matchCall_append {name : String} {text rest : List Char} (hne : text ≠ [])
    (hquote : '`' ∉ text) :
    matchCall name ((name ++ "(`").toList ++ (text ++ ("`)".toList ++ rest))) =
      some (text, rest) := by
  have hstop : ∀ c ∈ text, decide (c ≠ '`') = true := fun c hc =>
    decide_eq_true fun h => hquote (h ▸ hc)
  have hquotes : "`)".toList = ['`', ')'] := rfl
  have htake : (text ++ ("`)".toList ++ rest)).takeWhile (· ≠ '`') = text := by
    rw [List.takeWhile_append_of_pos hstop, hquotes]
    simp
  have hdrop : (text ++ ("`)".toList ++ rest)).dropWhile (· ≠ '`') = "`)".toList ++ rest := by
    rw [List.dropWhile_append_of_pos hstop, hquotes]
    simp
  rw [matchCall, afterText_append]
  dsimp only [Option.bind_some]
  rw [htake, if_neg hne, hdrop, afterText_append, Option.map_some]

/-- Back quotes with nothing between them are no matcher. -/
theorem matchCall_blank (name : String) (rest : List Char) :
    matchCall name ((name ++ "(`").toList ++ ("`)".toList ++ rest)) = none := by
  rw [matchCall, afterText_append]
  rfl

theorem matchCall_some {name : String} {l text rest : List Char}
    (h : matchCall name l = some (text, rest)) : '`' ∉ text ∧ text ≠ [] := by
  obtain ⟨l', -, h⟩ := Option.bind_eq_some_iff.mp h
  dsimp only at h
  split at h
  · cases h
  · rename_i hne
    obtain ⟨rest', -, h⟩ := Option.map_eq_some_iff.mp h
    obtain ⟨rfl, -⟩ := Prod.mk.inj h
    refine ⟨fun hmem => ?_, hne⟩
    have hp := List.mem_takeWhile_imp hmem
    simp at hp

/-- What a rule is read as has no back quotes. -/
theorem matchHostRule_some {rule h p : List Char} (hm : matchHostRule rule = some (h, p)) :
    '`' ∉ h ∧ '`' ∉ p := by
  obtain ⟨⟨host, rest⟩, hhost, hm⟩ := Option.bind_eq_some_iff.mp hm
  have hquote := (matchCall_some hhost).1
  dsimp only at hm
  split at hm
  · obtain ⟨rfl, rfl⟩ := Prod.mk.inj (Option.some.inj hm)
    exact ⟨hquote, by simp⟩
  · obtain ⟨rest', -, hm⟩ := Option.bind_eq_some_iff.mp hm
    obtain ⟨⟨pathPrefix, rest''⟩, hpath, hm⟩ := Option.bind_eq_some_iff.mp hm
    dsimp only at hm
    split at hm
    · obtain ⟨rfl, rfl⟩ := Prod.mk.inj (Option.some.inj hm)
      exact ⟨hquote, (matchCall_some hpath).1⟩
    · cases hm

/-- The characters of a rule. -/
theorem ruleText_toList (rule : Rule) : rule.text.toList =
    "Host(`".toList ++ (rule.host.toList ++ ("`)".toList ++ match rule.pathPrefix with
      | none => []
      | some p => " && PathPrefix(`".toList ++ (p.toList ++ "`)".toList))) := by
  rw [Rule.text]
  cases rule.pathPrefix with
  | none => simp [String.toList_append]
  | some p => simp [String.toList_append]

/-- Nothing is trimmed off a rule: it starts with a letter and ends with a bracket. -/
theorem stripChars_ruleText (rule : Rule) : stripChars rule.text.toList = rule.text.toList := by
  have hends : ∃ l, rule.text.toList = 'H' :: (l ++ [')']) := by
    rw [ruleText_toList]
    cases rule.pathPrefix with
    | none => exact ⟨"ost(`".toList ++ (rule.host.toList ++ ['`']), by simp⟩
    | some p =>
        exact ⟨"ost(`".toList ++ (rule.host.toList ++ ("`)".toList ++ (" && PathPrefix(`".toList ++
          (p.toList ++ ['`'])))), by simp⟩
  obtain ⟨l, hl⟩ := hends
  rw [hl]
  refine stripChars_eq_self (by rw [List.dropWhile_cons_of_neg (by decide)]) ?_
  rw [List.reverse_cons, List.reverse_append, List.reverse_singleton, List.singleton_append,
    List.cons_append, List.dropWhile_cons_of_neg (by decide)]

theorem matchHostRule_of_call {rule host rest : List Char}
    (h : matchCall "Host" rule = some (host, rest)) :
    matchHostRule rule =
      if rest.all isSpace then some (host, [])
      else (afterText "&&" (rest.dropWhile isSpace)).bind fun rest =>
        (matchCall "PathPrefix" (rest.dropWhile isSpace)).bind fun pathPrefix =>
          if pathPrefix.2.all isSpace then some (host, pathPrefix.1) else none := by
  rw [matchHostRule, h]
  rfl

theorem matchHostRule_text {rule : Rule} (hne : rule.host ≠ "") (hhost : '`' ∉ rule.host.toList)
    (hpath : ∀ p ∈ rule.pathPrefix, p ≠ "" ∧ '`' ∉ p.toList) :
    matchHostRule rule.text.toList =
      some (rule.host.toList, (rule.pathPrefix.getD "").toList) := by
  have hne' : rule.host.toList ≠ [] := fun h => hne (String.toList_injective h)
  rw [ruleText_toList]
  cases hp : rule.pathPrefix with
  | none =>
      have hcall := @matchCall_append "Host" rule.host.toList [] hne' hhost
      exact matchHostRule_of_call hcall
  | some p =>
      obtain ⟨hpne, hpquote⟩ := hpath p hp
      have hpne' : p.toList ≠ [] := fun h => hpne (String.toList_injective h)
      have hcall := @matchCall_append "Host" rule.host.toList
        (" && PathPrefix(`".toList ++ (p.toList ++ "`)".toList)) hne' hhost
      have hnext : (" && PathPrefix(`".toList ++ (p.toList ++ "`)".toList)).dropWhile isSpace =
          "&&".toList ++ (" PathPrefix(`".toList ++ (p.toList ++ "`)".toList)) := rfl
      have hpath : matchCall "PathPrefix"
          ((" PathPrefix(`".toList ++ (p.toList ++ "`)".toList)).dropWhile isSpace) =
            some (p.toList, []) := @matchCall_append "PathPrefix" p.toList [] hpne' hpquote
      refine (matchHostRule_of_call hcall).trans ?_
      rw [hnext, afterText_append, Option.bind_some, hpath, Option.bind_some]
      rfl

end Rules

/-! ## Rows -/

/-- A row as an accepted body makes it: trimmed, with a target that is an HTTP URL. -/
structure Registered (r : RegisteredRoute) : Prop where
  wid : isSafeWid r.workspaceId = true
  publicHost : strip r.publicHost = r.publicHost
  pathPrefix : strip r.pathPrefix = r.pathPrefix
  target : normalizeTarget r.target = some r.target

theorem strip_append_strip {c : Char} {l : List Char} {s : String} (hc : isSpace c = false)
    (hs : strip s ≠ "") : stripChars (c :: (l ++ (strip s).toList)) = c :: (l ++ (strip s).toList) := by
  have hchars : (strip s).toList = stripChars s.toList := String.toList_ofList
  have hne : stripChars s.toList ≠ [] := fun h => hs (String.toList_injective (hchars.trans h))
  have hend : (stripChars s.toList).reverse.dropWhile isSpace = (stripChars s.toList).reverse := by
    rw [stripChars, List.reverse_reverse, List.dropWhile_idempotent isSpace]
  refine stripChars_eq_self (List.dropWhile_cons_of_neg (by simp [hc])) ?_
  rw [hchars, List.reverse_cons, List.reverse_append, List.append_assoc, List.dropWhile_append, hend]
  rw [if_neg (by simpa using hne)]

theorem strip_withScheme {raw : String} (hne : strip raw ≠ "") :
    strip (withScheme (strip raw)) = withScheme (strip raw) := by
  unfold withScheme
  split
  · exact strip_strip raw
  · have hhttp : "http://".toList = 'h' :: "ttp://".toList := rfl
    refine String.toList_injective ?_
    rw [strip, String.toList_ofList, String.toList_append, hhttp, List.cons_append]
    exact strip_append_strip (by decide) hne

theorem isIn_withScheme (t : String) : isIn "://" (withScheme t) = true := by
  unfold withScheme
  split
  · assumption
  · have hhttp : "://".toList <:+: "http://".toList := by decide
    rw [isIn, decide_eq_true_eq, String.toList_append]
    exact hhttp.trans (List.prefix_append _ _).isInfix

theorem withScheme_withScheme (t : String) : withScheme (withScheme t) = withScheme t := by
  rw [withScheme, if_pos (isIn_withScheme t)]

theorem withScheme_ne_empty (t : String) : withScheme t ≠ "" := by
  intro h
  have hcolon := isIn_withScheme t
  rw [h] at hcolon
  cases hcolon

theorem normalizeTarget_some {raw target : String} (h : normalizeTarget raw = some target) :
    strip raw ≠ "" ∧ target = withScheme (strip raw) ∧
      (startsWith target "http://" || startsWith target "https://") = true := by
  unfold normalizeTarget at h
  dsimp only at h
  split at h
  · cases h
  · rename_i hne
    split at h
    · rename_i hscheme
      have heq := Option.some.inj h
      rw [heq] at hscheme
      exact ⟨hne, heq.symm, hscheme⟩
    · cases h

/-- A normal target is its own normal form. -/
theorem normalizeTarget_normal {raw target : String} (h : normalizeTarget raw = some target) :
    normalizeTarget target = some target := by
  obtain ⟨hne, heq, hscheme⟩ := normalizeTarget_some h
  have hstrip : strip target = target := by
    rw [heq]
    exact strip_withScheme hne
  have hsame : withScheme target = target := by
    rw [heq]
    exact withScheme_withScheme _
  unfold normalizeTarget
  dsimp only
  rw [hstrip, hsame, if_neg (heq ▸ withScheme_ne_empty _), if_pos hscheme]

theorem RouteRegisterBody.toRow_registered {b : RouteRegisterBody} {r : RegisteredRoute}
    (h : b.toRow = .ok r) : Registered r := by
  unfold RouteRegisterBody.toRow at h
  split at h
  · cases h
  · split at h
    · cases h
    · rename_i hsafe
      split at h
      · cases h
      · rename_i target htarget
        obtain rfl := Except.ok.inj h
        exact ⟨by simpa using hsafe, strip_strip _, strip_strip _, normalizeTarget_normal htarget⟩

/-- The row's rule and names can be read back. -/
def encodes (env : RouteAdminEnv) (r : RegisteredRoute) : Bool :=
  r.publicHost ≠ "" && '`' ∉ r.publicHost.toList && '`' ∉ r.pathPrefix.toList &&
    (env.workspaceHttpsEnabled || withoutSuffix r.workspaceId "-http" = none)

/-- What is read back from the router and the service of a row. -/
def decodeRow (r : RegisteredRoute) : Option RegisteredRoute :=
  (matchHostRule (ruleOf r).text.toList).bind fun rule =>
    (normalizeTarget r.target).map fun target =>
      { workspaceId := r.workspaceId
        publicHost := String.ofList (stripChars rule.1)
        target := target
        pathPrefix := String.ofList (stripChars rule.2) }

theorem decodeRow_eq {r : RegisteredRoute} (h : Registered r) (hne : r.publicHost ≠ "")
    (hhost : '`' ∉ r.publicHost.toList) (hpath : '`' ∉ r.pathPrefix.toList) :
    decodeRow r = some r := by
  have hprefix : ((ruleOf r).pathPrefix.getD "") = r.pathPrefix := by
    rw [ruleOf, h.pathPrefix]
    by_cases hp : r.pathPrefix = "" <;> simp [hp]
  have hrule := @matchHostRule_text (ruleOf r) hne hhost (by
    intro p hp
    rw [ruleOf, h.pathPrefix] at hp
    dsimp only at hp
    split at hp
    · rename_i hpne
      rw [← Option.some.inj hp]
      exact ⟨hpne, hpath⟩
    · cases hp)
  rw [decodeRow, hrule, hprefix, h.target, Option.bind_some, Option.map_some]
  have hhost : String.ofList (stripChars (ruleOf r).host.toList) = r.publicHost := h.publicHost
  have hpath : String.ofList (stripChars r.pathPrefix.toList) = r.pathPrefix := h.pathPrefix
  rw [hhost, hpath]

/-- A row that comes back has a host, and no back quotes. -/
theorem decodeRow_self {r : RegisteredRoute} (h : decodeRow r = some r) :
    r.publicHost ≠ "" ∧ '`' ∉ r.publicHost.toList ∧ '`' ∉ r.pathPrefix.toList := by
  obtain ⟨⟨host, pathPrefix⟩, hrule, h⟩ := Option.bind_eq_some_iff.mp h
  obtain ⟨target, -, h⟩ := Option.map_eq_some_iff.mp h
  obtain ⟨hhost, hpath⟩ := matchHostRule_some hrule
  have hsub : ∀ {c : Char} {l : List Char}, c ∈ stripChars l → c ∈ l := fun hc =>
    List.dropWhile_sublist _ |>.subset ((List.dropWhile_sublist _).subset
      (List.mem_reverse.mp hc) |> List.mem_reverse.mp)
  refine ⟨fun hne => ?_, fun hq => ?_, fun hq => ?_⟩
  · rw [ruleText_toList, matchHostRule] at hrule
    obtain ⟨⟨text, rest⟩, hcall, -⟩ := Option.bind_eq_some_iff.mp hrule
    have hempty : (ruleOf r).host = "" := hne
    rw [hempty] at hcall
    cases (matchCall_blank "Host" _).symm.trans hcall
  · rw [← h] at hq
    exact hhost (hsub (by simpa using hq))
  · rw [← h] at hq
    exact hpath (hsub (by simpa using hq))

/-! ## Reading back -/

section Hydrate

variable {env : RouteAdminEnv}

@[simp] theorem RouteTable.get_empty (w : String) : RouteTable.empty.get w = none := rfl

@[simp] theorem RouteTable.get_set (t : RouteTable) (r : RegisteredRoute) (w : String) :
    (t.set r).get w = if w = r.workspaceId then some r else t.get w :=
  Table.lookup_insert_eq _ _ _ _

theorem RouteTable.get_pop (t : RouteTable) (v w : String) :
    (t.pop v).get w = if w = v then none else t.get w := by
  split
  · rename_i h
    rw [h]
    exact AList.lookup_erase _ _
  · rename_i h
    exact AList.lookup_erase_ne h

theorem foldl_set_get {f : String → Option RegisteredRoute}
    (hf : ∀ {w r}, f w = some r → r.workspaceId = w) (ids : List String) (t : RouteTable)
    (w : String) :
    ((ids.filterMap f).foldl RouteTable.set t).get w =
      if w ∈ ids then (f w).or (t.get w) else t.get w := by
  induction ids generalizing t with
  | nil => rfl
  | cons v ids ih =>
      cases hv : f v with
      | none =>
          rw [List.filterMap_cons_none hv, ih]
          by_cases hw : w = v
          · subst hw
            simp [hv]
          · simp [hw]
      | some r =>
          have hid := hf hv
          rw [List.filterMap_cons_some hv, List.foldl_cons, ih, RouteTable.get_set, hid]
          by_cases hw : w = v
          · subst hw
            simp [hv]
          · simp [hw]

theorem hydrateRow_some {doc : HttpDoc} {names : List String} {w : String} {r : RegisteredRoute}
    (h : hydrateRow doc names w = some r) :
    r.workspaceId = w ∧ (doc.services.lookup (upstreamName w)).isSome = true := by
  obtain ⟨_, -, h⟩ := Option.bind_eq_some_iff.mp h
  obtain ⟨_, -, h⟩ := Option.bind_eq_some_iff.mp h
  obtain ⟨url, hurl, h⟩ := Option.bind_eq_some_iff.mp h
  obtain ⟨_, -, rfl⟩ := Option.map_eq_some_iff.mp h
  exact ⟨rfl, by rw [hurl]; rfl⟩

/-- A row of the table is read from its own router and service. -/
theorem hydrateRow_own {t : RouteTable} {r : RegisteredRoute} (hr : t.get r.workspaceId = some r)
    (names : List String) :
    hydrateRow (httpDoc env t.sorted) names r.workspaceId = decodeRow r := by
  have hmem := RouteTable.mem_sorted.mpr hr
  have hrouter : (httpDoc env t.sorted).routers.lookup (routerName r.workspaceId) =
      some (ownRouter env r) := foldl_routers_own t.sorted_pairwise hmem
  have hservice : (httpDoc env t.sorted).services.lookup (upstreamName r.workspaceId) =
      some r.target := foldl_services_of_mem t.sorted_pairwise hmem
  have hrule : stripChars (ownRouter env r).rule.toList = (ruleOf r).text.toList :=
    stripChars_ruleText _
  unfold hydrateRow
  dsimp only
  rw [hrouter, Option.isSome_some, if_pos rfl, Option.bind_some, hrouter, Option.bind_some, hrule,
    hservice]
  rfl

/-- Some router of the file is read as the workspace's. -/
def IsNamed (env : RouteAdminEnv) (t : RouteTable) (w : String) : Prop :=
  ∃ name, ((httpDoc env t.sorted).routers.lookup name).isSome = true ∧
    widFromRouterName name = some w

theorem mem_wids {doc : HttpDoc} {w : String} :
    w ∈ doc.routers.keys.filterMap widFromRouterName ↔
      ∃ name, (doc.routers.lookup name).isSome = true ∧ widFromRouterName name = some w := by
  simp only [List.mem_filterMap, AList.lookup_isSome, AList.mem_keys]

theorem hydrate_get_of_none {t : RouteTable} {w : String} (hw : t.get w = none) :
    (hydrateRoutes (some (routesFile env t))).get w = none := by
  unfold routesFile
  split
  · rfl
  · rw [hydrateRoutes, foldl_set_get fun h => (hydrateRow_some h).1]
    have hrow : hydrateRow (httpDoc env t.sorted) (httpDoc env t.sorted).routers.keys w = none := by
      cases h : hydrateRow (httpDoc env t.sorted) (httpDoc env t.sorted).routers.keys w with
      | none => rfl
      | some r =>
          have hservice := (hydrateRow_some h).2
          have hnone : (httpDoc env t.sorted).services.lookup (upstreamName w) = none := by
            refine foldl_services_of_notMem fun r hr hid => ?_
            have hget := RouteTable.mem_sorted.mp hr
            rw [hid, hw] at hget
            cases hget
          rw [hnone] at hservice
          cases hservice
    rw [hrow]
    simp

/-- **Reading back**: a row comes back as its rule and its service say, if a router is read as
its own. -/
theorem hydrate_get_of_some {t : RouteTable} {r : RegisteredRoute}
    (hr : t.get r.workspaceId = some r) :
    (IsNamed env t r.workspaceId →
      (hydrateRoutes (some (routesFile env t))).get r.workspaceId = decodeRow r) ∧
    (¬ IsNamed env t r.workspaceId →
      (hydrateRoutes (some (routesFile env t))).get r.workspaceId = none) := by
  have hne : t.rows.entries ≠ [] := List.ne_nil_of_mem (AList.mem_lookup_iff.mp hr)
  have hget : (hydrateRoutes (some (routesFile env t))).get r.workspaceId =
      if r.workspaceId ∈ (httpDoc env t.sorted).routers.keys.filterMap widFromRouterName then
        decodeRow r else none := by
    rw [routesFile, if_neg hne, hydrateRoutes, foldl_set_get fun h => (hydrateRow_some h).1,
      hydrateRow_own hr]
    simp
  rw [hget]
  exact ⟨fun h => if_pos (mem_wids.mpr h), fun h => if_neg fun hmem => h (mem_wids.mp hmem)⟩

theorem httpDoc_isSome {t : RouteTable} (name : String) :
    ((httpDoc env t.sorted).routers.lookup name).isSome = true ↔
      ∃ r, t.get r.workspaceId = some r ∧ (name = routerName r.workspaceId ∨
        (env.workspaceHttpsEnabled = true ∧ name = mirrorName r.workspaceId)) := by
  rw [httpDoc, foldl_routers_isSome]
  simp only [RouteTable.mem_sorted]
  constructor
  · rintro (⟨r, hr, hname⟩ | h)
    · exact ⟨r, hr, hname⟩
    · simp at h
  · rintro ⟨r, hr, hname⟩
    exact .inl ⟨r, hr, hname⟩

/-- With mirrors every workspace is named. -/
theorem isNamed_of_encodes {t : RouteTable} {r : RegisteredRoute}
    (hr : t.get r.workspaceId = some r) (hreg : Registered r)
    (h : env.workspaceHttpsEnabled = true ∨ withoutSuffix r.workspaceId "-http" = none) :
    IsNamed env t r.workspaceId := by
  rcases h with hs | hplain
  · exact ⟨mirrorName r.workspaceId, (httpDoc_isSome _).mpr ⟨r, hr, .inr ⟨hs, rfl⟩⟩,
      widFromRouterName_mirror hreg.wid⟩
  · exact ⟨routerName r.workspaceId, (httpDoc_isSome _).mpr ⟨r, hr, .inl rfl⟩,
      widFromRouterName_own hreg.wid hplain⟩

/-- Without mirrors, an id that ends like one is read as another workspace's, unless a third
workspace is called after it. -/
theorem not_isNamed {t : RouteTable} {r : RegisteredRoute} {u : String}
    (hs : env.workspaceHttpsEnabled = false) (hid : withoutSuffix r.workspaceId "-http" = some u)
    (hlast : t.get (r.workspaceId ++ "-http") = none) : ¬ IsNamed env t r.workspaceId := by
  rintro ⟨name, hname, hwid⟩
  obtain ⟨x, hx, rfl | ⟨hon, -⟩⟩ := (httpDoc_isSome name).mp hname
  · rcases widFromRouterName_some hwid with hmirror | ⟨-, hplain⟩
    · rw [hmirror, hlast] at hx
      cases hx
    · rw [hid] at hplain
      cases hplain
  · rw [hs] at hon
    cases hon

end Hydrate

/-! ## What a request does -/

section Requests

variable {env : RouteAdminEnv} {raises : PersistCall → Bool} {st : RouteAdminState}
  {body : RouteRegisterBody}

theorem handleRoutes_post_error {answer : RouteResponse} (h : body.toRow = .error answer) :
    handleRoutes env raises st (.post body) = (st, answer) := by
  show env.registerRoute raises st body = (st, answer)
  unfold RouteAdminEnv.registerRoute
  rw [h]

theorem handleRoutes_post_ok {row : RegisteredRoute} (h : body.toRow = .ok row) :
    handleRoutes env raises st (.post body) =
      persistRoutes env raises st (st.routes.set row) (.row row) := by
  show env.registerRoute raises st body = _
  unfold RouteAdminEnv.registerRoute
  rw [h]

theorem handleRoutes_delete (workspaceId : String) :
    handleRoutes env raises st (.delete workspaceId) =
      if strip workspaceId = "" then (st, .badRequest "empty workspace_id")
      else persistRoutes env raises st (st.routes.pop (strip workspaceId)) .noContent := rfl

/-- A refused body is the caller's fault. -/
theorem RouteRegisterBody.toRow_error {answer : RouteResponse} (h : body.toRow = .error answer)
    (call : PersistCall) : answer ≠ .serverError call := by
  unfold RouteRegisterBody.toRow at h
  split at h
  · cases h
    exact nofun
  · split at h
    · cases h
      exact nofun
    · split at h
      · cases h
        exact nofun
      · cases h

theorem persistRoutes_ok {t : RouteTable} {answer : RouteResponse}
    (h : [PersistCall.mkdir, .mkstemp, .fdopen, .write, .replace].any raises = false) :
    persistRoutes env raises st t answer = ({ routes := t, file := some (routesFile env t) }, answer) := by
  have hnone : [PersistCall.mkdir, .mkstemp, .fdopen, .write, .replace].find? raises = none := by
    rw [List.find?_eq_none]
    intro call hc hr
    exact (List.any_eq_false.mp h call hc) hr
  rw [persistRoutes, RouteAdminEnv.persistLocked, hnone]

theorem persistRoutes_raises {t : RouteTable} {answer : RouteResponse}
    (h : [PersistCall.mkdir, .mkstemp, .fdopen, .write, .replace].any raises = true) :
    ∃ call, persistRoutes env raises st t answer = ({ st with routes := t }, .serverError call) := by
  obtain ⟨call, hcall⟩ := Option.isSome_iff_exists.mp (List.find?_isSome.mpr (List.any_eq_true.mp h))
  exact ⟨call, by rw [persistRoutes, RouteAdminEnv.persistLocked, hcall]⟩

end Requests

/-! ## Restarts -/

/-- The file, read into an empty table, gives the table in memory. -/
def Restored (st : RouteAdminState) : Prop :=
  ∀ w, (hydrateRoutes st.file).get w = st.routes.get w

/-- A request whose file operations succeed. -/
def acceptStep (env : RouteAdminEnv) (st : RouteAdminState) (req : RouteRequest) :
    RouteAdminState := (handleRoutes env (fun _ => false) st req).1

/-- If the request adds a row, the row can be read back. -/
def survivesRestart (env : RouteAdminEnv) : RouteRequest → Bool
  | .post body => body.toRow.toOption.all (encodes env)
  | .delete _ => true

section Restarts

variable {env : RouteAdminEnv}

/-- Every row can be read back. -/
def AllEncoded (env : RouteAdminEnv) (t : RouteTable) : Prop :=
  ∀ w r, t.get w = some r → Registered r ∧ encodes env r = true

theorem encodes_iff {r : RegisteredRoute} : encodes env r = true ↔
    (r.publicHost ≠ "" ∧ '`' ∉ r.publicHost.toList ∧ '`' ∉ r.pathPrefix.toList) ∧
      (env.workspaceHttpsEnabled = true ∨ withoutSuffix r.workspaceId "-http" = none) := by
  simp only [encodes, Bool.and_eq_true, Bool.or_eq_true, decide_eq_true_eq, and_assoc]

theorem AllEncoded.restored {t : RouteTable} (h : AllEncoded env t) :
    Restored ⟨t, some (routesFile env t)⟩ := by
  intro w
  show (hydrateRoutes (some (routesFile env t))).get w = t.get w
  cases hw : t.get w with
  | none => exact hydrate_get_of_none hw
  | some r =>
      obtain ⟨hreg, henc⟩ := h w r hw
      obtain ⟨⟨hne, hhost, hpath⟩, hid⟩ := encodes_iff.mp henc
      obtain rfl : r.workspaceId = w := t.keyed hw
      rw [(hydrate_get_of_some hw).1 (isNamed_of_encodes hw hreg hid)]
      exact decodeRow_eq hreg hne hhost hpath

/-- A row that cannot be read back is missing after a restart. -/
theorem encodes_of_restored {t : RouteTable} (h : AllEncoded env t) {row : RegisteredRoute}
    (hr : Restored ⟨t.set row, some (routesFile env (t.set row))⟩) : encodes env row = true := by
  have hget : (t.set row).get row.workspaceId = some row := by rw [RouteTable.get_set, if_pos rfl]
  have hback := (hr row.workspaceId).trans hget
  obtain ⟨hnamed, hunnamed⟩ := @hydrate_get_of_some env _ _ hget
  by_cases hn : IsNamed env (t.set row) row.workspaceId
  · refine encodes_iff.mpr ⟨decodeRow_self ((hnamed hn).symm.trans hback), ?_⟩
    by_contra hid
    obtain ⟨hs, hplain⟩ := not_or.mp hid
    obtain ⟨u, hu⟩ := Option.ne_none_iff_exists'.mp hplain
    refine not_isNamed (Bool.eq_false_iff.mpr hs) hu ?_ hn
    -- no other workspace is called after it: that one's id would end like a mirror's too
    rw [RouteTable.get_set, if_neg (ne_append_http _).symm]
    cases hx : t.get (row.workspaceId ++ "-http") with
    | none => rfl
    | some x =>
        obtain ⟨-, hxid⟩ := encodes_iff.mp (h _ x hx).2
        rw [t.keyed hx, withoutSuffix_append_self] at hxid
        rcases hxid with hon | hnone
        · exact absurd hon hs
        · simp at hnone
  · rw [hunnamed hn] at hback
    cases hback

theorem AllEncoded.set {t : RouteTable} (h : AllEncoded env t) {row : RegisteredRoute}
    (hreg : Registered row) (henc : encodes env row = true) : AllEncoded env (t.set row) := by
  intro w r hr
  rw [RouteTable.get_set] at hr
  split at hr
  · rw [← Option.some.inj hr]
    exact ⟨hreg, henc⟩
  · exact h w r hr

theorem AllEncoded.pop {t : RouteTable} (h : AllEncoded env t) (v : String) :
    AllEncoded env (t.pop v) := by
  intro w r hr
  rw [RouteTable.get_pop] at hr
  split at hr
  · cases hr
  · exact h w r hr

theorem acceptStep_post_error {st : RouteAdminState} {body : RouteRegisterBody}
    {answer : RouteResponse} (h : body.toRow = .error answer) :
    acceptStep env st (.post body) = st := by
  rw [acceptStep, handleRoutes_post_error h]

theorem acceptStep_post_ok {st : RouteAdminState} {body : RouteRegisterBody}
    {row : RegisteredRoute} (h : body.toRow = .ok row) : acceptStep env st (.post body) =
      ⟨st.routes.set row, some (routesFile env (st.routes.set row))⟩ := by
  rw [acceptStep, handleRoutes_post_ok h, persistRoutes_ok rfl]

theorem acceptStep_delete (st : RouteAdminState) (workspaceId : String) :
    acceptStep env st (.delete workspaceId) =
      if strip workspaceId = "" then st
      else ⟨st.routes.pop (strip workspaceId),
        some (routesFile env (st.routes.pop (strip workspaceId)))⟩ := by
  rw [acceptStep, handleRoutes_delete]
  split
  · rfl
  · rw [persistRoutes_ok rfl]

theorem acceptStep_allEncoded {st : RouteAdminState} {req : RouteRequest}
    (h : AllEncoded env st.routes) (hreq : survivesRestart env req = true) :
    AllEncoded env (acceptStep env st req).routes := by
  cases req with
  | post body =>
      rw [survivesRestart] at hreq
      cases hrow : body.toRow with
      | error answer =>
          rw [acceptStep_post_error hrow]
          exact h
      | ok row =>
          rw [hrow] at hreq
          rw [acceptStep_post_ok hrow]
          exact h.set (RouteRegisterBody.toRow_registered hrow) hreq
  | delete workspaceId =>
      rw [acceptStep_delete]
      split
      · exact h
      · exact h.pop _

/-- One request keeps the file and the table together exactly when its row can be read back. -/
theorem acceptStep_restored {st : RouteAdminState} {req : RouteRequest}
    (h : AllEncoded env st.routes) (hst : Restored st) :
    Restored (acceptStep env st req) ↔ survivesRestart env req = true := by
  cases req with
  | post body =>
      rw [survivesRestart]
      cases hrow : body.toRow with
      | error answer =>
          rw [acceptStep_post_error hrow]
          exact iff_of_true hst rfl
      | ok row =>
          have hreg := RouteRegisterBody.toRow_registered hrow
          rw [acceptStep_post_ok hrow]
          exact ⟨encodes_of_restored h, fun henc => (h.set hreg henc).restored⟩
  | delete workspaceId =>
      refine iff_of_true ?_ rfl
      rw [acceptStep_delete]
      split
      · exact hst
      · exact (h.pop _).restored

/-- **Restarts**: the table survives a restart after each request of a run exactly when no
request adds a row without a host, with a back quote, or, without HTTPS, with an id that
ends in `-http`. -/
theorem routes_survive_restart (env : RouteAdminEnv) (reqs : List RouteRequest) :
    Always (acceptStep env) Restored {} reqs ↔ ∀ req ∈ reqs, survivesRestart env req = true := by
  have hempty : AllEncoded env RouteTable.empty := by
    intro w r h
    cases h
  rw [← along_input]
  exact always_iff_along hempty (fun _ _ h hreq => acceptStep_allEncoded h hreq) (fun _ => rfl)
    fun _ _ h hst => acceptStep_restored h hst

/-- A workspace that is called like another one's mirror. -/
def mirrorLikePost : RouteRequest :=
  .post { workspaceId := "a-http", publicHost := "a.app.devnest.local", target := "10.0.0.7:8080" }

theorem mirror_like_id_is_lost :
    ¬ ∀ (env : RouteAdminEnv) (reqs : List RouteRequest),
      Always (acceptStep env) Restored {} reqs := by
  intro h
  have hback := (h {} [mirrorLikePost]).2 "a-http"
  have hlost : (hydrateRoutes (acceptStep {} {} mirrorLikePost).file).get "a-http" = none := by
    decide +kernel
  have hkept : ((acceptStep {} {} mirrorLikePost).routes.get "a-http").isSome = true := by
    decide +kernel
  rw [← hback, hlost] at hkept
  cases hkept

end Restarts

/-! ## Failing file operations -/

theorem RouteTable.sorted_congr {t t' : RouteTable} (h : ∀ w, t.get w = t'.get w) :
    t.sorted = t'.sorted := by
  have hnodup : ∀ t : RouteTable, t.sorted.Nodup := fun t => by
    refine t.sorted_pairwise.imp fun {a b} hlt heq => ?_
    rw [heq] at hlt
    exact lt_irrefl _ hlt
  refine List.Perm.eq_of_pairwise (fun a b _ _ hab hba => absurd (hab.trans hba) (lt_irrefl _))
    t.sorted_pairwise t'.sorted_pairwise ?_
  refine (List.perm_ext_iff_of_nodup (hnodup t) (hnodup t')).mpr fun r => ?_
  rw [mem_sorted, mem_sorted, h]

/-- Two tables with the same routes are written as the same file. -/
theorem routesFile_congr (env : RouteAdminEnv) {t t' : RouteTable} (h : ∀ w, t.get w = t'.get w) :
    routesFile env t = routesFile env t' := by
  have hsorted := RouteTable.sorted_congr h
  have hempty : ∀ t : RouteTable, t.rows.entries = [] ↔ t.sorted = [] := by
    intro t
    have hperm : t.sorted.Perm (Table.rows t.rows) := List.perm_insertionSort _ _
    rw [← List.map_eq_nil_iff, ← List.perm_nil]
    exact ⟨fun hp => hperm.trans hp |>.eq_nil, fun hnil => hperm.symm.trans (by rw [hnil])⟩
  unfold routesFile
  rw [hsorted]
  by_cases ht : t'.sorted = []
  · rw [if_pos ((hempty t).mpr (hsorted.trans ht)), if_pos ((hempty t').mpr ht)]
  · rw [if_neg fun h => ht (hsorted.symm.trans ((hempty t).mp h)),
      if_neg fun h => ht ((hempty t').mp h)]

/-- If an operation raises, `GET /routes` and the file are what they were. -/
def Atomic (env : RouteAdminEnv) (st : RouteAdminState)
    (i : RouteRequest × (PersistCall → Bool)) : Prop :=
  ∀ call, (handleRoutes env i.2 st i.1).2 = .serverError call →
    listRoutes (handleRoutes env i.2 st i.1).1 = listRoutes st ∧
      (handleRoutes env i.2 st i.1).1.file = st.file

/-- The file describes the routes in memory. -/
def Consistent (env : RouteAdminEnv) (st : RouteAdminState) : Prop :=
  (listRoutes st = [] ∧ st.file = none) ∨ st.file = some (routesFile env st.routes)

/-- One request, with the operations that raise. -/
def routeStep (env : RouteAdminEnv) (st : RouteAdminState)
    (i : RouteRequest × (PersistCall → Bool)) : RouteAdminState := (handleRoutes env i.2 st i.1).1

/-- The request is refused, or leaves the table as it is. -/
def changesNothing (st : RouteAdminState) : RouteRequest → Bool
  | .post body => body.toRow.toOption.all fun row => st.routes.get row.workspaceId = some row
  | .delete workspaceId => strip workspaceId = "" || st.routes.get (strip workspaceId) = none

/-- No operation raises, or there is nothing to write. -/
def harmless (st : RouteAdminState) (i : RouteRequest × (PersistCall → Bool)) : Bool :=
  !([.mkdir, .mkstemp, .fdopen, .write, .replace].any i.2) || changesNothing st i.1

section Failures

variable {env : RouteAdminEnv} {raises : PersistCall → Bool}

/-- A change that is not written is listed, so it must be none. -/
theorem sorted_eq_iff {t t' : RouteTable} : t'.sorted = t.sorted ↔ ∀ w, t'.get w = t.get w := by
  refine ⟨fun h w => ?_, RouteTable.sorted_congr⟩
  have hmem : ∀ r, t'.get r.workspaceId = some r ↔ t.get r.workspaceId = some r := fun r => by
    rw [← RouteTable.mem_sorted, ← RouteTable.mem_sorted, h]
  cases hw : t.get w with
  | some r =>
      obtain rfl : r.workspaceId = w := t.keyed hw
      exact (hmem r).mpr hw
  | none =>
      cases hw' : t'.get w with
      | none => rfl
      | some r =>
          obtain rfl : r.workspaceId = w := t'.keyed hw'
          rw [(hmem r).mp hw'] at hw
          cases hw

theorem get_set_eq_iff {t : RouteTable} {row : RegisteredRoute} :
    (∀ w, (t.set row).get w = t.get w) ↔ t.get row.workspaceId = some row := by
  constructor
  · intro h
    rw [← h, RouteTable.get_set, if_pos rfl]
  · intro h w
    rw [RouteTable.get_set]
    split
    · rename_i hw
      rw [hw, h]
    · rfl

theorem get_pop_eq_iff {t : RouteTable} {v : String} :
    (∀ w, (t.pop v).get w = t.get w) ↔ t.get v = none := by
  constructor
  · intro h
    rw [← h, RouteTable.get_pop, if_pos rfl]
  · intro h w
    rw [RouteTable.get_pop]
    split
    · rename_i hw
      rw [hw, h]
    · rfl

/-- The end of a request is atomic exactly when it succeeds or changes nothing. -/
theorem persistRoutes_atomic {st : RouteAdminState} {t : RouteTable} {answer : RouteResponse}
    (hanswer : ∀ call, answer ≠ .serverError call) :
    (∀ call, (persistRoutes env raises st t answer).2 = .serverError call →
      listRoutes (persistRoutes env raises st t answer).1 = listRoutes st ∧
        (persistRoutes env raises st t answer).1.file = st.file) ↔
    ([PersistCall.mkdir, .mkstemp, .fdopen, .write, .replace].any raises = false ∨
      ∀ w, t.get w = st.routes.get w) := by
  cases hr : [PersistCall.mkdir, .mkstemp, .fdopen, .write, .replace].any raises with
  | false =>
      rw [persistRoutes_ok hr]
      exact iff_of_true (fun call h => absurd h (hanswer call)) (.inl rfl)
  | true =>
      obtain ⟨call, hcall⟩ := @persistRoutes_raises env raises st t answer hr
      rw [hcall]
      constructor
      · exact fun h => .inr (sorted_eq_iff.mp (h call rfl).1)
      · rintro (h | h)
        · cases h
        · exact fun _ _ => ⟨sorted_eq_iff.mpr h, rfl⟩

theorem atomic_iff_harmless (st : RouteAdminState) (i : RouteRequest × (PersistCall → Bool)) :
    Atomic env st i ↔ harmless st i = true := by
  obtain ⟨req, raises⟩ := i
  rw [Atomic, harmless, Bool.or_eq_true, Bool.not_eq_true']
  cases req with
  | post body =>
      rw [changesNothing]
      cases hrow : body.toRow with
      | error answer =>
          rw [handleRoutes_post_error hrow]
          exact iff_of_true (fun call h => absurd h (body.toRow_error hrow call)) (.inr rfl)
      | ok row =>
          rw [handleRoutes_post_ok hrow, Except.toOption, Option.all_some, decide_eq_true_eq,
            ← get_set_eq_iff]
          exact persistRoutes_atomic (by exact nofun)
  | delete workspaceId =>
      rw [changesNothing, handleRoutes_delete]
      by_cases hw : strip workspaceId = ""
      · rw [if_pos hw, decide_eq_true hw]
        exact iff_of_true (by exact nofun) (.inr rfl)
      · rw [if_neg hw, decide_eq_false hw, Bool.false_or, decide_eq_true_eq, ← get_pop_eq_iff]
        exact persistRoutes_atomic (by exact nofun)

theorem persistRoutes_consistent {st : RouteAdminState} {t : RouteTable} {answer : RouteResponse}
    (h : Consistent env st)
    (hi : [PersistCall.mkdir, .mkstemp, .fdopen, .write, .replace].any raises = false ∨
      ∀ w, t.get w = st.routes.get w) :
    Consistent env (persistRoutes env raises st t answer).1 := by
  cases hr : [PersistCall.mkdir, .mkstemp, .fdopen, .write, .replace].any raises with
  | false =>
      rw [persistRoutes_ok hr]
      exact .inr rfl
  | true =>
      obtain ⟨call, hcall⟩ := @persistRoutes_raises env raises st t answer hr
      have hsame : ∀ w, t.get w = st.routes.get w := by
        rcases hi with hi | hi
        · rw [hr] at hi
          cases hi
        · exact hi
      rw [hcall]
      rcases h with ⟨hempty, hfile⟩ | hfile
      · exact .inl ⟨(RouteTable.sorted_congr hsame).trans hempty, hfile⟩
      · exact .inr (hfile.trans (congrArg some (routesFile_congr env hsame).symm))

theorem consistent_step {st : RouteAdminState} {i : RouteRequest × (PersistCall → Bool)}
    (h : Consistent env st) (hi : harmless st i = true) : Consistent env (routeStep env st i) := by
  obtain ⟨req, raises⟩ := i
  rw [harmless, Bool.or_eq_true, Bool.not_eq_true'] at hi
  rw [routeStep]
  cases req with
  | post body =>
      rw [changesNothing] at hi
      cases hrow : body.toRow with
      | error answer =>
          rw [handleRoutes_post_error hrow]
          exact h
      | ok row =>
          rw [hrow, Except.toOption, Option.all_some, decide_eq_true_eq, ← get_set_eq_iff] at hi
          rw [handleRoutes_post_ok hrow]
          exact persistRoutes_consistent h hi
  | delete workspaceId =>
      rw [changesNothing] at hi
      rw [handleRoutes_delete]
      by_cases hw : strip workspaceId = ""
      · rw [if_pos hw]
        exact h
      · rw [decide_eq_false hw, Bool.false_or, decide_eq_true_eq, ← get_pop_eq_iff] at hi
        rw [if_neg hw]
        exact persistRoutes_consistent h hi

/-- **Failing file operations**: a request leaves table and file alone exactly when no operation
raises or it changes nothing; and the file describes the table in every state of a run of such
requests. -/
theorem failed_requests_are_atomic (env : RouteAdminEnv) :
    (∀ st i, Atomic env st i ↔ harmless st i = true) ∧
      ∀ steps, Along (routeStep env) (fun st i => harmless st i = true) {} steps →
        Always (routeStep env) (Consistent env) {} steps := by
  refine ⟨atomic_iff_harmless, fun steps hsteps => ?_⟩
  exact always_of_along (.inl ⟨rfl, rfl⟩) (fun _ _ h hi => consistent_step h hi) hsteps

/-- The disk is full when a workspace is registered. -/
def failedPost : RouteRequest × (PersistCall → Bool) :=
  (.post { workspaceId := "7", publicHost := "7.app.devnest.local", target := "10.0.0.7:8080" },
    fun call => call = .write)

/-- It is registered, deleted without a file operation that raises, and deleted once more when
the disk is full. -/
theorem repeated_delete_is_atomic :
    Along (routeStep {}) (fun st i => harmless st i = true) {}
        [(failedPost.1, fun _ => false), (.delete "7", fun _ => false), (.delete "7", failedPost.2)] ∧
      Always (routeStep {}) (Consistent {}) {}
        [(failedPost.1, fun _ => false), (.delete "7", fun _ => false), (.delete "7", failedPost.2)] := by
  have hsteps : Along (routeStep {}) (fun st i => harmless st i = true) {}
      [(failedPost.1, fun _ => false), (.delete "7", fun _ => false),
        (.delete "7", failedPost.2)] := by decide +kernel
  exact ⟨hsteps, (failed_requests_are_atomic {}).2 _ hsteps⟩

/-- The route is listed, and there is no file. -/
theorem failed_post_is_listed :
    ¬ ∀ (env : RouteAdminEnv) (st : RouteAdminState) (i : RouteRequest × (PersistCall → Bool)),
      Atomic env st i := by
  intro h
  have hlisted := (h {} {} failedPost .write (by decide +kernel)).1
  have hone : (listRoutes (handleRoutes {} failedPost.2 {} failedPost.1).1).length = 1 := by
    decide +kernel
  rw [hlisted] at hone
  cases hone

end Failures

end Devnest
