import Devnest.Attempts
import Devnest.RouteAdmin

/-!
# Reconciling routes

`execute_reconcile_runtime_job` again, with route-admin and the gateway
client in place of their replies: what the client sends, what route-admin
makes of it, and what the comparison of the next reconcile says about the
row. Three normalizers have to agree on every target: the client's, the
one of route-admin and `normalize_http_target`.

`reconcile_repairs_routes`: a job that ends `SUCCEEDED` with all its calls
answered leaves the table right.
-/

namespace Devnest

open PyText

/-! ## Calls to route-admin -/

/-- The calls of a reconcile. It makes each at most once: `tryDeregister` when it has stopped a
runtime, the others when it looks at the routes. -/
inductive RouteCall where
  | tryDeregister | list | register | deregister
  deriving DecidableEq, Repr

/-- Route-admin, and what goes wrong on the way to it and back. -/
structure RouteAdminLink where
  env : RouteAdminEnv := {}
  raises : RouteCall → PersistCall → Bool := fun _ _ => false
  /-- The request does not arrive. -/
  unsent : RouteCall → Option String := fun _ => none
  /-- The request is handled, and its answer does not arrive. -/
  unanswered : RouteCall → Option String := fun _ => none

def RouteResponse.statusCode : RouteResponse → Nat
  | .row _ => 200
  | .noContent => 204
  | .badRequest _ => 400
  | .unprocessable => 422
  | .serverError _ => 500

/-- The row as `GET /routes` has it. -/
def RegisteredRoute.listed (r : RegisteredRoute) : RouteRow where
  workspaceId := r.workspaceId
  target := some r.target
  publicHost := some r.publicHost
  pathPrefix := some r.pathPrefix

def listedRow (st : RouteAdminState) (wid : Nat) : Option RouteRow :=
  routeRowForWorkspace ((listRoutes st).map RegisteredRoute.listed) wid

/-- What calls leave at route-admin, and what they come to. -/
structure RoutePass where
  reply : GatewayReply Unit
  routes : RouteAdminState

/-- The same with `what` before the message. -/
def GatewayReply.labelled {α : Type} (what : String) : GatewayReply α → GatewayReply α
  | .clientError e => .clientError (what ++ e)
  | reply => reply

section Client

variable (link : RouteAdminLink)

/-- A request and `raise_for_status`. -/
def sendRequest (call : RouteCall) (what : String) (st : RouteAdminState) (req : RouteRequest) :
    RoutePass :=
  match link.unsent call with
  | some e => ⟨.clientError ("route-admin unreachable: " ++ e), st⟩
  | none =>
      let r := handleRoutes link.env (link.raises call) st req
      match link.unanswered call with
      | some e => ⟨.clientError ("route-admin unreachable: " ++ e), r.1⟩
      | none =>
          if r.2.statusCode < 300 then ⟨.ok (), r.1⟩
          else ⟨.clientError ("route-admin " ++ what ++ " failed: " ++ toString r.2.statusCode), r.1⟩

/-- What `register_route` of the client sends; `none` is a `ValueError` before it sends
anything. -/
def registerPayload (workspaceId internalEndpoint publicHost : String)
    (pathPrefix nodeKey : Option String) (executionNodeId : Option Int) : Option RouteRegisterBody :=
  let wid := strip workspaceId
  let host := strip publicHost
  if wid = "" || host = "" then none
  else (normalizeTarget internalEndpoint).bind fun target =>
    let payload : RouteRegisterBody :=
      { workspaceId := wid, publicHost := host, target := target
        pathPrefix := stripOrNone pathPrefix, nodeKey := stripOrNone nodeKey
        executionNodeId := executionNodeId }
    if payload.isValid then some payload else none

def clientRegisterRoute (st : RouteAdminState) (payload : Option RouteRegisterBody) :
    RoutePass :=
  match payload with
  | none => ⟨.crashed, st⟩
  | some body => sendRequest link .register "POST /routes" st (.post body)

def clientDeregisterRoute (call : RouteCall) (st : RouteAdminState) (workspaceId : String) :
    RoutePass :=
  let wid := strip workspaceId
  if wid = "" then ⟨.crashed, st⟩
  else sendRequest link call ("DELETE /routes/" ++ wid) st (.delete wid)

def clientGetRegisteredRoutes (st : RouteAdminState) : GatewayReply (List RouteRow) :=
  match (link.unsent .list).or (link.unanswered .list) with
  | some e => .clientError ("route-admin unreachable: " ++ e)
  | none => .ok ((listRoutes st).map RegisteredRoute.listed)

end Client

/-! ## The branches -/

/-- How a reconcile ends, for the session and for the routes. -/
structure RouteEffect where
  exit : Exit
  routes : RouteAdminState
  /-- A call failed, and nothing was made of it. -/
  swallowed : Bool := false

section Branches

variable (cfg : Settings) (clk : Clock) (inp : ReconcileInput) (link : RouteAdminLink)

/-- List the routes, and delete the row of the workspace if there is one. -/
def orphanPass (st : RouteAdminState) (wid : Nat) : RoutePass :=
  match clientGetRegisteredRoutes link st with
  | .crashed => ⟨.crashed, st⟩
  | .clientError e => ⟨.clientError ("reconcile:gateway_list_failed:" ++ e), st⟩
  | .ok routes =>
      if routeRowForWorkspace routes wid = none then ⟨.ok (), st⟩
      else
        let p := clientDeregisterRoute link .deregister st (toString wid)
        ⟨p.reply.labelled "reconcile:gateway_deregister_failed:", p.routes⟩

/-- The public host of `_strict_register_route`, and the one the row is compared with. -/
def expectedPublicHost (s : Session) : String :=
  orText (stripOr s.ws.publicHost) (gatewayDefaultPublicHost s.wid cfg.devnestBaseDomain)

/-- `_strict_register_route`. -/
def strictRegisterPayload (s : Session) (upstream : String) : Option RouteRegisterBody :=
  registerPayload (toString s.wid) upstream (expectedPublicHost cfg s)
    (stripOrNone s.ws.gatewayPathPrefix) (s.rt.bind fun rt => stripOrNone rt.nodeId)
    (s.ws.executionNodeId.map Int.ofNat)

/-- List the routes, and register the workspace if its row is missing or differs. -/
def repairPass (st : RouteAdminState) (s : Session) (upstream : String) : RoutePass :=
  match clientGetRegisteredRoutes link st with
  | .crashed => ⟨.crashed, st⟩
  | .clientError e => ⟨.clientError ("reconcile:gateway_list_failed:" ++ e), st⟩
  | .ok routes =>
      if gatewayRouteNeedsRepair (routeRowForWorkspace routes s.wid) upstream
          (some (expectedPublicHost cfg s)) (stripOrNone s.ws.gatewayPathPrefix) then
        let p := clientRegisterRoute link st (strictRegisterPayload cfg s upstream)
        ⟨p.reply.labelled "reconcile:gateway_register_failed:", p.routes⟩
      else ⟨.ok (), st⟩

/-- The end of a branch. -/
def settleExit (s : Session) : GatewayReply Unit → Exit
  | .crashed => .crashed s
  | .clientError message => .returned (failReconcile cfg clk s message)
  | .ok () => .returned { s with job := markJobSucceeded clk s.job }

def settleRoutes (s : Session) (p : RoutePass) : RouteEffect where
  exit := settleExit cfg clk s p.reply
  routes := p.routes

def reconcileOrphanRouteOn (st : RouteAdminState) (s : Session) : RouteEffect :=
  if !cfg.devnestGatewayEnabled then
    ⟨.returned { s with job := markJobSucceeded clk s.job }, st, false⟩
  else settleRoutes cfg clk s (orphanPass link st s.wid)

def reconcileErrorCleanupOn (st : RouteAdminState) (s : Session) : RouteEffect :=
  match inp.orch.stopWorkspaceRuntime with
  | .crashed => ⟨.crashed s, st, false⟩
  | .raised m =>
      ⟨.returned (failReconcile cfg clk s ("reconcile:error_cleanup_stop_failed:" ++ m)), st, false⟩
  | .returned res =>
      if res.success then
        reconcileOrphanRouteOn cfg clk link st { s with rt := some (applyRuntimeStop s.rt res) }
      else reconcileOrphanRouteOn cfg clk link st s

/-- The end of a stop that worked: `_gateway_try_deregister`, and then
`_best_effort_remove_orphan_gateway_route`. Both swallow what route-admin answers. -/
def settleStopped (st : RouteAdminState) (s : Session) : RouteEffect :=
  if !cfg.devnestGatewayEnabled then ⟨.returned s, st, false⟩
  else
    let p := clientDeregisterRoute link .tryDeregister st (toString s.wid)
    let q := orphanPass link p.routes s.wid
    { exit := if q.reply = .crashed then .crashed s else .returned s
      routes := q.routes
      swallowed := p.reply ≠ .ok () || q.reply ≠ .ok () }

def reconcileStoppedOn (st : RouteAdminState) (s : Session) : RouteEffect :=
  match inp.orch.checkWorkspaceRuntimeHealth with
  | .crashed => ⟨.crashed s, st, false⟩
  | .raised e =>
      ⟨.returned (failReconcile cfg clk s ("reconcile:health_check_failed:" ++ e.message)), st, false⟩
  | .returned health =>
      if health.success then
        match inp.orch.stopWorkspaceRuntime with
        | .crashed => ⟨.crashed s, st, false⟩
        | .raised m => ⟨.returned (failReconcile cfg clk s ("reconcile:stop_failed:" ++ m)), st, false⟩
        | .returned res =>
            let s' := finalizeStopResult cfg clk s res
            if s'.job.status = .succeeded then settleStopped cfg link st s' else ⟨.returned s', st, false⟩
      else reconcileOrphanRouteOn cfg clk link st s

def reconcileRunningRouteOn (st : RouteAdminState) (s : Session) (rt : WorkspaceRuntime) :
    RouteEffect :=
  let upstream := traefikUpstreamForWorkspaceGateway s.ws rt
  if !cfg.devnestGatewayEnabled || upstream = "" then
    ⟨.returned { s with job := markJobSucceeded clk s.job }, st, false⟩
  else settleRoutes cfg clk s (repairPass cfg link st s upstream)

/-- The session once the runtime row is synced, or how the branch ends before. -/
def syncRunning (s : Session) : Except Exit (Session × WorkspaceRuntime) :=
  match inp.orch.checkWorkspaceRuntimeHealth with
  | .crashed => .error (.crashed s)
  | .raised e =>
      .error (.returned (failReconcile cfg clk s ("reconcile:health_check_failed:" ++ e.message)))
  | .returned health =>
      if !health.success then
        .error (.returned (failReconcile cfg clk s
          (orText (formatIssues health.issues) "reconcile:runtime_not_healthy")))
      else match remoteGatewayRouteTargetForNode inp.port s health.nodeId health.gatewayRouteTarget
          health.internalEndpoint with
        | .error e => .error (.raised (.bringUp e) s)
        | .ok target =>
            let rt := applyRuntimeBringupLike cfg s.rt
              { health.facts with
                appliedCpuLimitCores := none, appliedMemoryLimitMib := none
                appliedPidsLimit := none, appliedSecurityOptions := none }
              s.job.requestedConfigVersion target
            let endpoint := (target.filter (· ≠ "")).or (health.internalEndpoint.filter (· ≠ ""))
            .ok ({ s with rt := some rt
                          ws := { s.ws with endpointRef := endpoint.or s.ws.endpointRef } }, rt)

def reconcileRunningOn (st : RouteAdminState) (s : Session) : RouteEffect :=
  match syncRunning cfg clk inp s with
  | .error exit => ⟨exit, st, false⟩
  | .ok (s, rt) => reconcileRunningRouteOn cfg clk link st s rt

/-- `execute_reconcile_runtime_job`. -/
def executeReconcileRuntimeJobOn (st : RouteAdminState) (s : Session) : RouteEffect :=
  if !inp.lockAcquired then
    ⟨.returned (failReconcile cfg clk s "reconcile:advisory_lock_contended"), st, false⟩
  else
    let c := processDurableCleanupTasksForWorkspace s.wid s.ws.status inp.orch.cleanupStop
      { rt := s.rt, tasks := s.tasks, trace := s.trace }
    let s := { s with
      rt := repairRuntimeCapacityLedger s.ws.status c.rt, tasks := c.tasks, trace := c.trace }
    if s.ws.status.isBusy then
      ⟨.returned (failReconcile cfg clk s
        ("reconcile:workspace_busy (status=" ++ s.ws.status.value ++ ")")), st, false⟩
    else match s.ws.status with
      | .deleted => reconcileOrphanRouteOn cfg clk link st s
      | .error => reconcileErrorCleanupOn cfg clk inp link st s
      | .stopped => reconcileStoppedOn cfg clk inp link st s
      | _ => reconcileRunningOn cfg clk inp link st s

end Branches

/-! ## The job with its gateway

To the session it is the job of before, with the replies that the client gives. -/

section Connection

variable {cfg : Settings} {clk : Clock} {inp : ReconcileInput} {link : RouteAdminLink}

/-- The replies of a client that finds `st`. -/
def gatewayOf (link : RouteAdminLink) (st : RouteAdminState) (wid : Nat)
    (payload : Option RouteRegisterBody) : GatewayClient where
  getRegisteredRoutes := clientGetRegisteredRoutes link st
  registerRoute := (clientRegisterRoute link st payload).reply
  deregisterRoute := (clientDeregisterRoute link .deregister st (toString wid)).reply

/-- What the replies of a client make of the two passes. -/
def orphanReply (gateway : GatewayClient) (wid : Nat) : GatewayReply Unit :=
  match gateway.getRegisteredRoutes with
  | .crashed => .crashed
  | .clientError e => .clientError ("reconcile:gateway_list_failed:" ++ e)
  | .ok routes =>
      if routeRowForWorkspace routes wid = none then .ok ()
      else gateway.deregisterRoute.labelled "reconcile:gateway_deregister_failed:"

def repairReply (cfg : Settings) (gateway : GatewayClient) (s : Session) (upstream : String) :
    GatewayReply Unit :=
  match gateway.getRegisteredRoutes with
  | .crashed => .crashed
  | .clientError e => .clientError ("reconcile:gateway_list_failed:" ++ e)
  | .ok routes =>
      if gatewayRouteNeedsRepair (routeRowForWorkspace routes s.wid) upstream
          (some (expectedPublicHost cfg s)) (stripOrNone s.ws.gatewayPathPrefix) then
        gateway.registerRoute.labelled "reconcile:gateway_register_failed:"
      else .ok ()

theorem orphanPass_reply (st : RouteAdminState) (wid : Nat) (payload : Option RouteRegisterBody) :
    (orphanPass link st wid).reply = orphanReply (gatewayOf link st wid payload) wid := by
  unfold orphanPass orphanReply gatewayOf
  dsimp only
  cases clientGetRegisteredRoutes link st with
  | crashed => rfl
  | clientError e => rfl
  | ok routes =>
      dsimp only
      by_cases hnone : routeRowForWorkspace routes wid = none
      · rw [if_pos hnone, if_pos hnone]
      · rw [if_neg hnone, if_neg hnone]

theorem repairPass_reply (st : RouteAdminState) (s : Session) (upstream : String) :
    (repairPass cfg link st s upstream).reply =
      repairReply cfg (gatewayOf link st s.wid (strictRegisterPayload cfg s upstream)) s upstream := by
  unfold repairPass repairReply gatewayOf
  dsimp only
  cases clientGetRegisteredRoutes link st with
  | crashed => rfl
  | clientError e => rfl
  | ok routes =>
      dsimp only
      by_cases hneeds : gatewayRouteNeedsRepair (routeRowForWorkspace routes s.wid) upstream
          (some (expectedPublicHost cfg s)) (stripOrNone s.ws.gatewayPathPrefix) = true
      · rw [if_pos hneeds, if_pos hneeds]
      · rw [if_neg hneeds, if_neg hneeds]

theorem reconcileOrphanRoute_eq (hgw : cfg.devnestGatewayEnabled = true) (s : Session) :
    reconcileOrphanRoute cfg clk inp s = settleExit cfg clk s (orphanReply inp.gateway s.wid) := by
  unfold reconcileOrphanRoute orphanReply
  rw [hgw, Bool.not_true, if_neg Bool.false_ne_true]
  cases inp.gateway.getRegisteredRoutes with
  | crashed => rfl
  | clientError e => rfl
  | ok routes =>
      dsimp only
      cases routeRowForWorkspace routes s.wid with
      | none => rfl
      | some row =>
          rw [if_neg (Option.some_ne_none row)]
          cases inp.gateway.deregisterRoute <;> rfl

theorem reconcileRunningRoute_eq (s : Session) (rt : WorkspaceRuntime) :
    reconcileRunningRoute cfg clk inp s rt =
      if !cfg.devnestGatewayEnabled || traefikUpstreamForWorkspaceGateway s.ws rt = "" then
        .returned { s with job := markJobSucceeded clk s.job }
      else settleExit cfg clk s
        (repairReply cfg inp.gateway s (traefikUpstreamForWorkspaceGateway s.ws rt)) := by
  unfold reconcileRunningRoute repairReply
  dsimp only
  refine if_congr Iff.rfl rfl ?_
  cases inp.gateway.getRegisteredRoutes with
  | crashed => rfl
  | clientError e => rfl
  | ok routes =>
      dsimp only
      by_cases hneeds : gatewayRouteNeedsRepair (routeRowForWorkspace routes s.wid)
          (traefikUpstreamForWorkspaceGateway s.ws rt) (some (expectedPublicHost cfg s))
          (stripOrNone s.ws.gatewayPathPrefix) = true
      · rw [if_pos hneeds]
        unfold expectedPublicHost at hneeds
        rw [if_pos hneeds]
        cases inp.gateway.registerRoute <;> rfl
      · rw [if_neg hneeds]
        unfold expectedPublicHost at hneeds
        rw [if_neg hneeds]
        rfl

theorem GatewayReply.labelled_crashed {α : Type} {what : String} {r : GatewayReply α} :
    r.labelled what = .crashed ↔ r = .crashed := by
  cases r with
  | ok a => exact iff_of_false (by exact nofun) (by exact nofun)
  | clientError e => exact iff_of_false (by exact nofun) (by exact nofun)
  | crashed => exact Iff.rfl

theorem bestEffortRemoveOrphanGatewayRouteCrashes_eq (s : Session) :
    bestEffortRemoveOrphanGatewayRouteCrashes cfg inp s =
      (cfg.devnestGatewayEnabled && decide (orphanReply inp.gateway s.wid = .crashed)) := by
  unfold bestEffortRemoveOrphanGatewayRouteCrashes orphanReply
  refine congrArg _ ?_
  cases inp.gateway.getRegisteredRoutes with
  | crashed => rfl
  | clientError e => rfl
  | ok routes =>
      dsimp only
      rw [Bool.eq_iff_iff, Bool.and_eq_true, decide_eq_true_eq, decide_eq_true_eq]
      by_cases hnone : routeRowForWorkspace routes s.wid = none
      · rw [hnone, if_pos rfl]
        exact iff_of_false (fun h => Bool.false_ne_true h.1) (by exact nofun)
      · rw [if_neg hnone, GatewayReply.labelled_crashed]
        exact and_iff_right (Option.isSome_iff_ne_none.mpr hnone)

theorem reconcileOrphanRouteOn_exit (st : RouteAdminState) (s : Session) :
    (reconcileOrphanRouteOn cfg clk link st s).exit =
      reconcileOrphanRoute cfg clk { inp with gateway := gatewayOf link st s.wid none } s := by
  by_cases hgw : cfg.devnestGatewayEnabled = true
  · rw [reconcileOrphanRoute_eq hgw]
    unfold reconcileOrphanRouteOn
    rw [hgw, Bool.not_true, if_neg Bool.false_ne_true]
    exact congrArg (settleExit cfg clk s) (orphanPass_reply st s.wid none)
  · unfold reconcileOrphanRouteOn reconcileOrphanRoute
    rw [Bool.eq_false_iff.mpr hgw]
    rfl

theorem reconcileErrorCleanupOn_exit (st : RouteAdminState) (s : Session) :
    (reconcileErrorCleanupOn cfg clk inp link st s).exit =
      reconcileErrorCleanup cfg clk { inp with gateway := gatewayOf link st s.wid none } s := by
  unfold reconcileErrorCleanupOn reconcileErrorCleanup
  dsimp only
  cases inp.orch.stopWorkspaceRuntime with
  | crashed => rfl
  | raised m => rfl
  | returned res =>
      dsimp only
      split
      · exact @reconcileOrphanRouteOn_exit cfg clk inp link st
          { s with rt := some (applyRuntimeStop s.rt res) }
      · exact reconcileOrphanRouteOn_exit st s

theorem finalizeStopResult_wid (s : Session) (res : WorkspaceStopResult) :
    (finalizeStopResult cfg clk s res).wid = s.wid := by
  unfold finalizeStopResult
  split
  · rfl
  · exact (ensureDurableCleanupTask_fields s .stopIncomplete).1

/-- After a stop, route-admin is asked in the state that the first call leaves. -/
theorem settleStopped_exit (st : RouteAdminState) (s : Session) :
    ∃ gateway, (settleStopped cfg link st s).exit =
      if bestEffortRemoveOrphanGatewayRouteCrashes cfg { inp with gateway := gateway } s then
        .crashed s
      else .returned s := by
  refine ⟨gatewayOf link (clientDeregisterRoute link .tryDeregister st (toString s.wid)).routes s.wid
    none, ?_⟩
  rw [bestEffortRemoveOrphanGatewayRouteCrashes_eq]
  unfold settleStopped
  cases cfg.devnestGatewayEnabled with
  | false => rfl
  | true =>
      rw [Bool.not_true, if_neg Bool.false_ne_true, Bool.true_and]
      dsimp only
      rw [orphanPass_reply _ s.wid none]
      refine if_congr ?_ rfl rfl
      rw [decide_eq_true_eq]

theorem reconcileStoppedOn_exit (st : RouteAdminState) (s : Session) :
    ∃ gateway, (reconcileStoppedOn cfg clk inp link st s).exit =
      reconcileStopped cfg clk { inp with gateway := gateway } s := by
  unfold reconcileStoppedOn reconcileStopped
  dsimp only
  cases inp.orch.checkWorkspaceRuntimeHealth with
  | crashed => exact ⟨{}, rfl⟩
  | raised e => exact ⟨{}, rfl⟩
  | returned health =>
      dsimp only
      split
      · cases inp.orch.stopWorkspaceRuntime with
        | crashed => exact ⟨{}, rfl⟩
        | raised m => exact ⟨{}, rfl⟩
        | returned res =>
            dsimp only
            by_cases hjob : (finalizeStopResult cfg clk s res).job.status = .succeeded
            · obtain ⟨gateway, hexit⟩ :=
                @settleStopped_exit cfg inp link st (finalizeStopResult cfg clk s res)
              refine ⟨gateway, ?_⟩
              rw [if_pos hjob, hexit, decide_eq_true hjob, Bool.true_and,
                bestEffortRemoveOrphanGatewayRouteCrashes_eq,
                bestEffortRemoveOrphanGatewayRouteCrashes_eq, finalizeStopResult_wid]
            · refine ⟨{}, ?_⟩
              rw [if_neg hjob, decide_eq_false hjob, Bool.false_and]
              rfl
      · exact ⟨_, reconcileOrphanRouteOn_exit st s⟩

theorem reconcileRunningRouteOn_exit (st : RouteAdminState) (s : Session) (rt : WorkspaceRuntime) :
    ∃ gateway, (reconcileRunningRouteOn cfg clk link st s rt).exit =
      reconcileRunningRoute cfg clk { inp with gateway := gateway } s rt := by
  refine ⟨gatewayOf link st s.wid
    (strictRegisterPayload cfg s (traefikUpstreamForWorkspaceGateway s.ws rt)), ?_⟩
  rw [reconcileRunningRoute_eq]
  unfold reconcileRunningRouteOn
  dsimp only
  split
  · rfl
  · exact congrArg (settleExit cfg clk s) (repairPass_reply st s _)

theorem reconcileRunningOn_exit (st : RouteAdminState) (s : Session) :
    ∃ gateway, (reconcileRunningOn cfg clk inp link st s).exit =
      reconcileRunning cfg clk { inp with gateway := gateway } s := by
  unfold reconcileRunningOn reconcileRunning syncRunning
  dsimp only
  cases inp.orch.checkWorkspaceRuntimeHealth with
  | crashed => exact ⟨{}, rfl⟩
  | raised e => exact ⟨{}, rfl⟩
  | returned health =>
      dsimp only
      cases health.success with
      | false => exact ⟨{}, rfl⟩
      | true =>
          simp only [Bool.not_true, Bool.false_eq_true, if_false]
          cases remoteGatewayRouteTargetForNode inp.port s health.nodeId health.gatewayRouteTarget
            health.internalEndpoint with
          | error e => exact ⟨{}, rfl⟩
          | ok target => exact reconcileRunningRouteOn_exit st _ _

/-- The job ends as the job of before, for some replies of route-admin. -/
theorem executeReconcileRuntimeJobOn_exit (st : RouteAdminState) (s : Session) :
    ∃ gateway, (executeReconcileRuntimeJobOn cfg clk inp link st s).exit =
      executeReconcileRuntimeJob cfg clk { inp with gateway := gateway } s := by
  unfold executeReconcileRuntimeJobOn executeReconcileRuntimeJob
  dsimp only
  split
  · exact ⟨{}, rfl⟩
  · split
    · exact ⟨{}, rfl⟩
    · cases s.ws.status with
      | deleted => exact ⟨_, reconcileOrphanRouteOn_exit st _⟩
      | error => exact ⟨_, reconcileErrorCleanupOn_exit st _⟩
      | stopped => exact reconcileStoppedOn_exit st _
      | running => exact reconcileRunningOn_exit st _
      | creating => exact reconcileRunningOn_exit st _
      | pending => exact reconcileRunningOn_exit st _
      | starting => exact reconcileRunningOn_exit st _
      | stopping => exact reconcileRunningOn_exit st _
      | restarting => exact reconcileRunningOn_exit st _
      | updating => exact reconcileRunningOn_exit st _
      | deleting => exact reconcileRunningOn_exit st _

end Connection

/-! ## The normalizers agree -/

theorem normalizeHttpTarget_eq (raw : String) :
    normalizeHttpTarget (some raw) = ((normalizeTarget raw).map (rstripChar '/')).getD "" := by
  have hnil : rstripChar '/' "" = "" := rfl
  show (if strip raw = "" then ""
    else if startsWith (withScheme (strip raw)) "http://" ||
        startsWith (withScheme (strip raw)) "https://" then rstripChar '/' (withScheme (strip raw))
      else "") = _
  unfold normalizeTarget
  dsimp only
  split
  · rfl
  · split
    · rfl
    · rfl

/-- The comparison cannot tell a target from what the client makes of it. -/
theorem normalizeHttpTarget_normal {raw target : String} (h : normalizeTarget raw = some target) :
    normalizeHttpTarget (some target) = normalizeHttpTarget (some raw) := by
  rw [normalizeHttpTarget_eq, normalizeHttpTarget_eq, normalizeTarget_normal h, h]

theorem stripOr_stripOrNone (p : Option String) : stripOr (stripOrNone p) = stripOr p := by
  unfold stripOrNone
  split
  · rename_i h
    rw [h]
    rfl
  · exact strip_strip _

/-! ## The table -/

section Table

/-- `GET /routes` lists one row for each workspace that has one. -/
theorem find_sorted (t : RouteTable) (w : String) :
    t.sorted.find? (fun r => r.workspaceId = w) = t.get w := by
  cases hf : t.sorted.find? fun r => r.workspaceId = w with
  | some r =>
      have hw : r.workspaceId = w := by simpa using List.find?_some hf
      rw [← hw]
      exact (RouteTable.mem_sorted.mp (List.mem_of_find?_eq_some hf)).symm
  | none =>
      cases hr : t.get w with
      | none => rfl
      | some r =>
          have hw : r.workspaceId = w := t.keyed hr
          have hmem : r ∈ t.sorted := RouteTable.mem_sorted.mpr (hw ▸ hr)
          have hne := List.find?_eq_none.mp hf r hmem
          exact absurd hw (by simpa using hne)

theorem listedRow_eq (st : RouteAdminState) (wid : Nat) :
    listedRow st wid = (st.routes.get (toString wid)).map RegisteredRoute.listed := by
  unfold listedRow routeRowForWorkspace
  rw [List.find?_map]
  exact congrArg _ (find_sorted st.routes (toString wid))

variable {env : RouteAdminEnv} {raises : PersistCall → Bool} {st : RouteAdminState}

/-- The table has been changed whether or not it could be written. -/
theorem persistRoutes_routes (t : RouteTable) (answer : RouteResponse) :
    (persistRoutes env raises st t answer).1.routes = t := by
  unfold persistRoutes
  split
  · rfl
  · rfl

theorem handleRoutes_delete_routes {w : String} (hw : strip w = w) (hne : w ≠ "") :
    (handleRoutes env raises st (.delete w)).1.routes = st.routes.pop w := by
  rw [handleRoutes_delete, hw, if_neg hne, persistRoutes_routes]

/-- A refused body leaves the table alone. -/
theorem handleRoutes_post_routes (body : RouteRegisterBody) :
    (handleRoutes env raises st (.post body)).1.routes =
      (body.toRow.toOption.map st.routes.set).getD st.routes := by
  cases hrow : body.toRow with
  | error answer =>
      rw [handleRoutes_post_error hrow]
      rfl
  | ok row =>
      rw [handleRoutes_post_ok hrow, persistRoutes_routes]
      rfl

theorem RouteRegisterBody.toRow_refused {body : RouteRegisterBody} {answer : RouteResponse}
    (h : body.toRow = .error answer) : 300 ≤ answer.statusCode := by
  unfold RouteRegisterBody.toRow at h
  split at h
  · obtain rfl := Except.error.inj h
    decide
  · split at h
    · obtain rfl := Except.error.inj h
      decide
    · split at h
      · have hanswer := Except.error.inj h
        rw [← hanswer]
        show 300 ≤ 400
        omega
      · cases h

theorem RouteRegisterBody.toRow_ok {body : RouteRegisterBody} {row : RegisteredRoute}
    (h : body.toRow = .ok row) :
    row.workspaceId = strip body.workspaceId ∧ row.publicHost = strip body.publicHost ∧
      normalizeTarget body.target = some row.target ∧ row.pathPrefix = stripOr body.pathPrefix := by
  unfold RouteRegisterBody.toRow at h
  split at h
  · cases h
  · split at h
    · cases h
    · split at h
      · cases h
      · rename_i target htarget
        obtain rfl := Except.ok.inj h
        exact ⟨rfl, rfl, htarget, rfl⟩

end Table

/-! ## The calls -/

section Calls

variable {link : RouteAdminLink} {st : RouteAdminState} {call : RouteCall} {what : String}

/-- The routes of the other workspaces are the same. -/
def KeepsOtherRoutes (wid : Nat) (st st' : RouteAdminState) : Prop :=
  ∀ w, w ≠ toString wid → st'.routes.get w = st.routes.get w

/-- A request is handled once, or not at all; if it succeeds it has been handled. -/
theorem sendRequest_cases (req : RouteRequest) :
    ((sendRequest link call what st req).routes = st ∧
      (sendRequest link call what st req).reply ≠ .ok ()) ∨
    ((sendRequest link call what st req).routes =
        (handleRoutes link.env (link.raises call) st req).1 ∧
      ((sendRequest link call what st req).reply = .ok () →
        (handleRoutes link.env (link.raises call) st req).2.statusCode < 300)) := by
  unfold sendRequest
  split
  · exact .inl ⟨rfl, by simp⟩
  · refine .inr ?_
    dsimp only
    split
    · exact ⟨rfl, by simp⟩
    · split
      · rename_i hstatus
        exact ⟨rfl, fun _ => hstatus⟩
      · exact ⟨rfl, by simp⟩

theorem clientDeregisterRoute_keeps (wid : Nat) :
    KeepsOtherRoutes wid st (clientDeregisterRoute link call st (toString wid)).routes := by
  intro w hw
  unfold clientDeregisterRoute
  rw [strip_toString, if_neg (toString_ne_empty wid)]
  rcases @sendRequest_cases link st call ("DELETE /routes/" ++ toString wid)
    (.delete (toString wid)) with ⟨hst, -⟩ | ⟨hst, -⟩
  · rw [hst]
  · rw [hst, handleRoutes_delete_routes (strip_toString wid) (toString_ne_empty wid),
      RouteTable.get_pop, if_neg hw]

theorem clientDeregisterRoute_ok {wid : Nat}
    (h : (clientDeregisterRoute link call st (toString wid)).reply = .ok ()) :
    (clientDeregisterRoute link call st (toString wid)).routes.routes.get (toString wid) = none := by
  unfold clientDeregisterRoute at h ⊢
  rw [strip_toString, if_neg (toString_ne_empty wid)] at h ⊢
  rcases @sendRequest_cases link st call ("DELETE /routes/" ++ toString wid)
    (.delete (toString wid)) with ⟨-, hfail⟩ | ⟨hst, -⟩
  · exact absurd h hfail
  · rw [hst, handleRoutes_delete_routes (strip_toString wid) (toString_ne_empty wid),
      RouteTable.get_pop, if_pos rfl]

/-- What the client sends for a workspace. -/
theorem registerPayload_some {wid : Nat} {endpoint host : String} {pathPrefix nodeKey : Option String}
    {nodeId : Option Int} {body : RouteRegisterBody}
    (h : registerPayload (toString wid) endpoint host pathPrefix nodeKey nodeId = some body) :
    body.workspaceId = toString wid ∧ body.publicHost = strip host ∧
      normalizeTarget endpoint = some body.target ∧ body.pathPrefix = stripOrNone pathPrefix := by
  unfold registerPayload at h
  rw [strip_toString] at h
  dsimp only at h
  split at h
  · cases h
  · obtain ⟨target, htarget, h⟩ := Option.bind_eq_some_iff.mp h
    split at h
    · obtain rfl := Option.some.inj h
      exact ⟨rfl, rfl, htarget, rfl⟩
    · cases h

/-- The row that route-admin makes of it. -/
structure RowFor (wid : Nat) (endpoint host : String) (pathPrefix : Option String)
    (row : RegisteredRoute) : Prop where
  workspaceId : row.workspaceId = toString wid
  publicHost : row.publicHost = strip host
  target : normalizeTarget endpoint = some row.target
  pathPrefix : row.pathPrefix = stripOr pathPrefix

theorem rowFor_of_payload {wid : Nat} {endpoint host : String} {pathPrefix nodeKey : Option String}
    {nodeId : Option Int} {body : RouteRegisterBody} {row : RegisteredRoute}
    (h : registerPayload (toString wid) endpoint host pathPrefix nodeKey nodeId = some body)
    (hrow : body.toRow = .ok row) : RowFor wid endpoint host pathPrefix row := by
  obtain ⟨hwid, hhost, htarget, hprefix⟩ := registerPayload_some h
  obtain ⟨hrwid, hrhost, hrtarget, hrpre⟩ := RouteRegisterBody.toRow_ok hrow
  constructor
  · rw [hrwid, hwid, strip_toString]
  · rw [hrhost, hhost, strip_strip]
  · rw [htarget, ← hrtarget, normalizeTarget_normal htarget]
  · rw [hrpre, hprefix, stripOr_stripOrNone]

/-- Such a row needs no repair. -/
theorem RowFor.settled {wid : Nat} {endpoint host : String} {pathPrefix : Option String}
    {row : RegisteredRoute} (h : RowFor wid endpoint host pathPrefix row) :
    gatewayRouteNeedsRepair (some row.listed) endpoint (some host) pathPrefix = false := by
  have htarget : normalizeHttpTarget row.listed.target = normalizeHttpTarget (some endpoint) :=
    normalizeHttpTarget_normal h.target
  have hhost : stripOr row.listed.publicHost = stripOr (some host) := by
    show strip row.publicHost = strip host
    rw [h.publicHost, strip_strip]
  have hprefix : stripOr row.listed.pathPrefix = stripOr pathPrefix := by
    show strip row.pathPrefix = stripOr pathPrefix
    rw [h.pathPrefix]
    exact strip_strip _
  unfold gatewayRouteNeedsRepair
  split
  · rfl
  · dsimp only
    rw [htarget, hhost, hprefix]
    simp

theorem clientRegisterRoute_keeps {wid : Nat} {endpoint host : String}
    {pathPrefix nodeKey : Option String} {nodeId : Option Int} :
    KeepsOtherRoutes wid st (clientRegisterRoute link st
      (registerPayload (toString wid) endpoint host pathPrefix nodeKey nodeId)).routes := by
  intro w hw
  unfold clientRegisterRoute
  split
  · rfl
  · rename_i body hbody
    rcases @sendRequest_cases link st .register "POST /routes" (.post body) with ⟨hst, -⟩ | ⟨hst, -⟩
    · rw [hst]
    · rw [hst, handleRoutes_post_routes]
      cases hrow : body.toRow with
      | error answer => rfl
      | ok row =>
          show (st.routes.set row).get w = st.routes.get w
          rw [RouteTable.get_set, (rowFor_of_payload hbody hrow).workspaceId, if_neg hw]

theorem clientRegisterRoute_ok {wid : Nat} {endpoint host : String}
    {pathPrefix nodeKey : Option String} {nodeId : Option Int}
    (h : (clientRegisterRoute link st
      (registerPayload (toString wid) endpoint host pathPrefix nodeKey nodeId)).reply = .ok ()) :
    ∃ row, RowFor wid endpoint host pathPrefix row ∧ (clientRegisterRoute link st
      (registerPayload (toString wid) endpoint host pathPrefix nodeKey nodeId)).routes.routes.get
        (toString wid) = some row := by
  unfold clientRegisterRoute at h ⊢
  split at h
  · cases h
  · rename_i body hbody
    rcases @sendRequest_cases link st .register "POST /routes" (.post body) with
      ⟨-, hfail⟩ | ⟨hst, hstatus⟩
    · exact absurd h hfail
    · cases hrow : body.toRow with
      | error answer =>
          have hlt := hstatus h
          rw [handleRoutes_post_error hrow] at hlt
          exact absurd hlt (Nat.not_lt.mpr (RouteRegisterBody.toRow_refused hrow))
      | ok row =>
          have hfor := rowFor_of_payload hbody hrow
          refine ⟨row, hfor, ?_⟩
          rw [hst, handleRoutes_post_routes, hrow]
          show (st.routes.set row).get (toString wid) = some row
          rw [RouteTable.get_set, if_pos hfor.workspaceId.symm]

end Calls

/-! ## The passes -/

section Passes

variable {cfg : Settings} {link : RouteAdminLink} {st : RouteAdminState}

theorem GatewayReply.labelled_ok {α : Type} {what : String} {r : GatewayReply α} {a : α} :
    r.labelled what = .ok a ↔ r = .ok a := by
  cases r with
  | ok b => exact Iff.rfl
  | clientError e => exact iff_of_false (by exact nofun) (by exact nofun)
  | crashed => exact iff_of_false (by exact nofun) (by exact nofun)

/-- The routes are listed as they are, or not at all. -/
theorem clientGetRegisteredRoutes_cases (link : RouteAdminLink) (st : RouteAdminState) :
    (∃ e, clientGetRegisteredRoutes link st = .clientError e) ∨
      clientGetRegisteredRoutes link st = .ok ((listRoutes st).map RegisteredRoute.listed) := by
  unfold clientGetRegisteredRoutes
  split
  · exact .inl ⟨_, rfl⟩
  · exact .inr rfl

theorem orphanPass_cases (link : RouteAdminLink) (st : RouteAdminState) (wid : Nat) :
    (∃ e, orphanPass link st wid = ⟨.clientError e, st⟩) ∨
    (listedRow st wid = none ∧ orphanPass link st wid = ⟨.ok (), st⟩) ∨
    (listedRow st wid ≠ none ∧ orphanPass link st wid =
      ⟨(clientDeregisterRoute link .deregister st (toString wid)).reply.labelled
          "reconcile:gateway_deregister_failed:",
        (clientDeregisterRoute link .deregister st (toString wid)).routes⟩) := by
  unfold orphanPass
  rcases clientGetRegisteredRoutes_cases link st with ⟨e, he⟩ | hlist
  · exact .inl ⟨_, by rw [he]⟩
  · rw [hlist]
    dsimp only
    by_cases hrow : listedRow st wid = none
    · exact .inr (.inl ⟨hrow, if_pos hrow⟩)
    · exact .inr (.inr ⟨hrow, if_neg hrow⟩)

theorem orphanPass_keeps (wid : Nat) : KeepsOtherRoutes wid st (orphanPass link st wid).routes := by
  rcases orphanPass_cases link st wid with ⟨e, hp⟩ | ⟨-, hp⟩ | ⟨-, hp⟩
  · rw [hp]
    exact fun _ _ => rfl
  · rw [hp]
    exact fun _ _ => rfl
  · rw [hp]
    dsimp only
    exact clientDeregisterRoute_keeps wid

/-- A pass that succeeds leaves no row of the workspace. -/
theorem orphanPass_ok {wid : Nat} (h : (orphanPass link st wid).reply = .ok ()) :
    (orphanPass link st wid).routes.routes.get (toString wid) = none := by
  rcases orphanPass_cases link st wid with ⟨e, hp⟩ | ⟨hnone, hp⟩ | ⟨-, hp⟩
  · rw [hp] at h
    cases h
  · rw [hp]
    rw [listedRow_eq] at hnone
    exact Option.map_eq_none_iff.mp hnone
  · rw [hp] at h ⊢
    dsimp only at h ⊢
    exact clientDeregisterRoute_ok (GatewayReply.labelled_ok.mp h)

/-- The comparison of a reconcile, on the row that is listed. -/
def routeNeedsRepair (cfg : Settings) (st : RouteAdminState) (s : Session) (upstream : String) :
    Bool :=
  gatewayRouteNeedsRepair (listedRow st s.wid) upstream (some (expectedPublicHost cfg s))
    (stripOrNone s.ws.gatewayPathPrefix)

theorem repairPass_cases (cfg : Settings) (link : RouteAdminLink) (st : RouteAdminState)
    (s : Session) (upstream : String) :
    (∃ e, repairPass cfg link st s upstream = ⟨.clientError e, st⟩) ∨
    (routeNeedsRepair cfg st s upstream = false ∧ repairPass cfg link st s upstream = ⟨.ok (), st⟩) ∨
    (routeNeedsRepair cfg st s upstream = true ∧ repairPass cfg link st s upstream =
      ⟨(clientRegisterRoute link st (strictRegisterPayload cfg s upstream)).reply.labelled
          "reconcile:gateway_register_failed:",
        (clientRegisterRoute link st (strictRegisterPayload cfg s upstream)).routes⟩) := by
  unfold repairPass
  rcases clientGetRegisteredRoutes_cases link st with ⟨e, he⟩ | hlist
  · exact .inl ⟨_, by rw [he]⟩
  · rw [hlist]
    dsimp only
    by_cases hneeds : routeNeedsRepair cfg st s upstream = true
    · exact .inr (.inr ⟨hneeds, if_pos hneeds⟩)
    · exact .inr (.inl ⟨Bool.eq_false_iff.mpr hneeds, if_neg hneeds⟩)

/-- The client registers the workspace as the comparison expects it. -/
theorem strictRegister_ok {s : Session} {upstream : String}
    (h : (clientRegisterRoute link st (strictRegisterPayload cfg s upstream)).reply = .ok ()) :
    ∃ row, RowFor s.wid upstream (expectedPublicHost cfg s) (stripOrNone s.ws.gatewayPathPrefix) row ∧
      listedRow (clientRegisterRoute link st (strictRegisterPayload cfg s upstream)).routes s.wid =
        some row.listed := by
  rw [listedRow_eq]
  unfold strictRegisterPayload at h ⊢
  obtain ⟨row, hfor, hget⟩ := clientRegisterRoute_ok h
  rw [hget]
  exact ⟨row, hfor, rfl⟩

theorem repairPass_keeps (s : Session) (upstream : String) :
    KeepsOtherRoutes s.wid st (repairPass cfg link st s upstream).routes := by
  rcases repairPass_cases cfg link st s upstream with ⟨e, hp⟩ | ⟨-, hp⟩ | ⟨-, hp⟩
  · rw [hp]
    exact fun _ _ => rfl
  · rw [hp]
    exact fun _ _ => rfl
  · rw [hp]
    dsimp only
    exact clientRegisterRoute_keeps

/-- A pass that succeeds leaves a row that needs no repair. -/
theorem repairPass_ok {s : Session} {upstream : String}
    (h : (repairPass cfg link st s upstream).reply = .ok ()) :
    routeNeedsRepair cfg (repairPass cfg link st s upstream).routes s upstream = false := by
  rcases repairPass_cases cfg link st s upstream with ⟨e, hp⟩ | ⟨hneeds, hp⟩ | ⟨-, hp⟩
  · rw [hp] at h
    cases h
  · rw [hp]
    exact hneeds
  · rw [hp] at h ⊢
    dsimp only at h ⊢
    obtain ⟨row, hfor, hlisted⟩ := strictRegister_ok (GatewayReply.labelled_ok.mp h)
    unfold routeNeedsRepair
    rw [hlisted]
    exact hfor.settled

/-- Where nothing needs repair a pass makes no other call than `GET /routes`. -/
theorem repairPass_idle {s : Session} {upstream : String}
    (h : routeNeedsRepair cfg st s upstream = false) :
    (repairPass cfg link st s upstream).routes = st := by
  rcases repairPass_cases cfg link st s upstream with ⟨e, hp⟩ | ⟨-, hp⟩ | ⟨hneeds, -⟩
  · rw [hp]
  · rw [hp]
  · rw [h] at hneeds
    cases hneeds

end Passes

/-! ## The job -/

/-- What a reconcile has to leave at route-admin: a row that the next one does not repair, or
none if the workspace is not running; and the others' rows as they were. -/
structure RoutesRight (cfg : Settings) (st st' : RouteAdminState) (s : Session) : Prop where
  running : s.ws.status = .running → ∀ rt, s.rt = some rt →
    traefikUpstreamForWorkspaceGateway s.ws rt ≠ "" →
      routeNeedsRepair cfg st' s (traefikUpstreamForWorkspaceGateway s.ws rt) = false ∧
        ∀ link, (repairPass cfg link st' s (traefikUpstreamForWorkspaceGateway s.ws rt)).routes = st'
  settled : s.ws.status = .stopped ∨ s.ws.status = .error ∨ s.ws.status = .deleted →
    listedRow st' s.wid = none
  others : KeepsOtherRoutes s.wid st st'

/-- If the job has succeeded and no call failed, the routes are right. -/
def RouteEffect.Repairs (cfg : Settings) (st : RouteAdminState) (r : RouteEffect) : Prop :=
  ∀ s, r.exit = .returned s → s.job.status = .succeeded → r.swallowed = false →
    RoutesRight cfg st r.routes s

section Job

variable {cfg : Settings} {clk : Clock} {inp : ReconcileInput} {link : RouteAdminLink}
variable {st : RouteAdminState}

theorem repairs_of_failed {s : Session} {message : String} {routes : RouteAdminState}
    {swallowed : Bool} :
    RouteEffect.Repairs cfg st
      ⟨.returned (failReconcile cfg clk s message), routes, swallowed⟩ := by
  intro s' hs' hjob
  rw [← Exit.returned.inj hs'] at hjob
  exact absurd hjob (failReconcile_not_succeeded cfg clk s message)

theorem repairs_of_crashed {s : Session} {routes : RouteAdminState} {swallowed : Bool} :
    RouteEffect.Repairs cfg st ⟨.crashed s, routes, swallowed⟩ := by
  intro s' hs'
  cases hs'

/-- The end of a branch: only the pass that succeeds counts. -/
theorem settleRoutes_repairs {s : Session} {p : RoutePass}
    (h : p.reply = .ok () → RoutesRight cfg st p.routes s) :
    (settleRoutes cfg clk s p).Repairs cfg st := by
  intro s' hs' hjob _
  unfold settleRoutes at hs'
  cases hp : p.reply with
  | ok =>
      rw [hp] at hs'
      obtain ⟨hrun, hset, hothers⟩ := h hp
      rw [← Exit.returned.inj hs']
      exact ⟨hrun, hset, hothers⟩
  | clientError e =>
      rw [hp] at hs'
      rw [← Exit.returned.inj hs'] at hjob
      exact absurd hjob (failReconcile_not_succeeded cfg clk s e)
  | crashed =>
      rw [hp] at hs'
      cases hs'

theorem orphanPass_right {s : Session} (hst : s.ws.status ≠ .running) {st' : RouteAdminState}
    (hkeeps : KeepsOtherRoutes s.wid st st')
    (h : (orphanPass link st' s.wid).reply = .ok ()) :
    RoutesRight cfg st (orphanPass link st' s.wid).routes s where
  running hrun := absurd hrun hst
  settled _ := by
    rw [listedRow_eq, orphanPass_ok h]
    rfl
  others w hw := (orphanPass_keeps s.wid w hw).trans (hkeeps w hw)

theorem reconcileOrphanRouteOn_repairs (hgw : cfg.devnestGatewayEnabled = true) {s : Session}
    (hst : s.ws.status ≠ .running) : (reconcileOrphanRouteOn cfg clk link st s).Repairs cfg st := by
  unfold reconcileOrphanRouteOn
  rw [hgw]
  exact settleRoutes_repairs (orphanPass_right hst fun _ _ => rfl)

theorem reconcileErrorCleanupOn_repairs (hgw : cfg.devnestGatewayEnabled = true) {s : Session}
    (hst : s.ws.status = .error) : (reconcileErrorCleanupOn cfg clk inp link st s).Repairs cfg st := by
  have hne : s.ws.status ≠ .running := by
    rw [hst]
    exact nofun
  unfold reconcileErrorCleanupOn
  split
  · exact repairs_of_crashed
  · exact repairs_of_failed
  · split
    · exact reconcileOrphanRouteOn_repairs hgw hne
    · exact reconcileOrphanRouteOn_repairs hgw hne

theorem settleStopped_repairs (hgw : cfg.devnestGatewayEnabled = true) {s : Session}
    (hst : s.ws.status ≠ .running) : (settleStopped cfg link st s).Repairs cfg st := by
  intro s' hs' _ hswallowed
  unfold settleStopped at hs' hswallowed ⊢
  rw [hgw, Bool.not_true, if_neg Bool.false_ne_true] at hs' hswallowed ⊢
  dsimp only at hs' hswallowed ⊢
  have hkeeps : KeepsOtherRoutes s.wid st
      (clientDeregisterRoute link .tryDeregister st (toString s.wid)).routes :=
    clientDeregisterRoute_keeps s.wid
  generalize (clientDeregisterRoute link .tryDeregister st (toString s.wid)).routes = st' at *
  have hreply : (orphanPass link st' s.wid).reply = .ok () := by
    by_contra hne
    simp [hne] at hswallowed
  rw [hreply] at hs'
  rw [← Exit.returned.inj hs']
  exact orphanPass_right hst hkeeps hreply

theorem finalizeStopResult_not_running (s : Session) (res : WorkspaceStopResult) :
    (finalizeStopResult cfg clk s res).ws.status ≠ .running := by
  unfold finalizeStopResult
  split
  · exact nofun
  · exact nofun

theorem reconcileStoppedOn_repairs (hgw : cfg.devnestGatewayEnabled = true) {s : Session}
    (hst : s.ws.status = .stopped) : (reconcileStoppedOn cfg clk inp link st s).Repairs cfg st := by
  have hne : s.ws.status ≠ .running := by
    rw [hst]
    exact nofun
  unfold reconcileStoppedOn
  split
  · exact repairs_of_crashed
  · exact repairs_of_failed
  · split
    · split
      · exact repairs_of_crashed
      · exact repairs_of_failed
      · rename_i res _
        dsimp only
        split
        · exact settleStopped_repairs hgw (finalizeStopResult_not_running s res)
        · rename_i hjob
          intro s' hs' hsucceeded
          rw [← Exit.returned.inj hs'] at hsucceeded
          exact absurd hsucceeded hjob
    · exact reconcileOrphanRouteOn_repairs hgw hne

theorem repairPass_right {s : Session} {rt : WorkspaceRuntime} (hst : s.ws.status = .running)
    (hrt : s.rt = some rt)
    (h : (repairPass cfg link st s (traefikUpstreamForWorkspaceGateway s.ws rt)).reply = .ok ()) :
    RoutesRight cfg st (repairPass cfg link st s (traefikUpstreamForWorkspaceGateway s.ws rt)).routes
      s where
  running _ rt' hrt' _ := by
    rw [hrt] at hrt'
    rw [← Option.some.inj hrt']
    have hneeds := repairPass_ok h
    exact ⟨hneeds, fun link' => repairPass_idle hneeds⟩
  settled hset := by
    rw [hst] at hset
    rcases hset with hset | hset | hset
    · cases hset
    · cases hset
    · cases hset
  others := repairPass_keeps s _

theorem reconcileRunningRouteOn_repairs (hgw : cfg.devnestGatewayEnabled = true) {s : Session}
    {rt : WorkspaceRuntime} (hst : s.ws.status = .running) (hrt : s.rt = some rt) :
    (reconcileRunningRouteOn cfg clk link st s rt).Repairs cfg st := by
  unfold reconcileRunningRouteOn
  rw [hgw]
  dsimp only
  rw [Bool.not_true, Bool.false_or]
  split
  · rename_i hempty
    intro s' hs' _ _
    rw [← Exit.returned.inj hs']
    -- a workspace without an upstream gets no route
    refine ⟨fun _ rt' hrt' hne => ?_, fun hset => ?_, fun _ _ => rfl⟩
    · change s.rt = some rt' at hrt'
      rw [hrt] at hrt'
      rw [← Option.some.inj hrt'] at hne
      exact absurd (of_decide_eq_true hempty) hne
    · change s.ws.status = _ ∨ s.ws.status = _ ∨ s.ws.status = _ at hset
      rw [hst] at hset
      rcases hset with hset | hset | hset
      · cases hset
      · cases hset
      · cases hset
  · exact settleRoutes_repairs (repairPass_right hst hrt)

/-- The sync changes the runtime row and `endpoint_ref`, or ends the branch. -/
inductive SyncEnd (cfg : Settings) (clk : Clock) (s : Session) :
    Except Exit (Session × WorkspaceRuntime) → Prop
  | failed {message : String} : SyncEnd cfg clk s (.error (.returned (failReconcile cfg clk s message)))
  | raised {e : OrchestratorException} : SyncEnd cfg clk s (.error (.raised e s))
  | crashed : SyncEnd cfg clk s (.error (.crashed s))
  | synced {s' : Session} {rt : WorkspaceRuntime} (hst : s'.ws.status = s.ws.status)
      (hrt : s'.rt = some rt) : SyncEnd cfg clk s (.ok (s', rt))

theorem syncRunning_end (s : Session) : SyncEnd cfg clk s (syncRunning cfg clk inp s) := by
  unfold syncRunning
  split
  · exact .crashed
  · exact .failed
  · split
    · exact .failed
    · split
      · exact .raised
      · exact .synced rfl rfl

theorem reconcileRunningOn_repairs (hgw : cfg.devnestGatewayEnabled = true) {s : Session}
    (hst : s.ws.status = .running) : (reconcileRunningOn cfg clk inp link st s).Repairs cfg st := by
  have hend := @syncRunning_end cfg clk inp s
  unfold reconcileRunningOn
  generalize syncRunning cfg clk inp s = r at hend ⊢
  cases hend with
  | failed => exact repairs_of_failed
  | raised =>
      intro s' hs'
      cases hs'
  | crashed => exact repairs_of_crashed
  | synced hst' hrt => exact reconcileRunningRouteOn_repairs hgw (hst'.trans hst) hrt

/-- **Reconcile and the gateway**: a job that ends `SUCCEEDED`, and whose calls to route-admin
have all succeeded, leaves the routes right. -/
theorem reconcile_repairs_routes (cfg : Settings) (clk : Clock) (inp : ReconcileInput)
    (link : RouteAdminLink) (st : RouteAdminState) (s : Session)
    (hgw : cfg.devnestGatewayEnabled = true) :
    (executeReconcileRuntimeJobOn cfg clk inp link st s).Repairs cfg st := by
  unfold executeReconcileRuntimeJobOn
  split
  · exact repairs_of_failed
  · dsimp only
    split
    · exact repairs_of_failed
    · rename_i hbusy
      split
      · rename_i hst
        exact reconcileOrphanRouteOn_repairs hgw (by rw [hst]; exact nofun)
      · rename_i hst
        exact reconcileErrorCleanupOn_repairs hgw hst
      · rename_i hst
        exact reconcileStoppedOn_repairs hgw hst
      · rename_i hdel herr hstop
        refine reconcileRunningOn_repairs hgw ?_
        show s.ws.status = .running
        cases hst : s.ws.status with
        | running => rfl
        | deleted => exact absurd hst hdel
        | error => exact absurd hst herr
        | stopped => exact absurd hst hstop
        | creating => rw [hst] at hbusy; exact absurd rfl hbusy
        | pending => rw [hst] at hbusy; exact absurd rfl hbusy
        | starting => rw [hst] at hbusy; exact absurd rfl hbusy
        | stopping => rw [hst] at hbusy; exact absurd rfl hbusy
        | restarting => rw [hst] at hbusy; exact absurd rfl hbusy
        | updating => rw [hst] at hbusy; exact absurd rfl hbusy
        | deleting => rw [hst] at hbusy; exact absurd rfl hbusy

/-- A running workspace whose route has an old target. -/
def staleRoutes : RouteAdminState where
  routes := RouteTable.empty.set
    { workspaceId := "7", publicHost := "ws-7.app.devnest.local", target := "http://10.0.0.6:8080"
      pathPrefix := "" }

def staleSession : Session where
  wid := 7
  ws := { ownerUserId := 1, status := .running }
  job := { workspaceId := 7, jobType := .reconcileRuntime, status := .running, requestedByUserId := 1
           requestedConfigVersion := 1, createdAt := 0 }
  rt := some {}
  tasks := {}
  config := none
  snapshots := ∅
  executionNodes := ∅
  topologies := []
  trace := []

def movedContainer : WorkspaceBringUpResult :=
  { sampleUp with internalEndpoint := some " 10.0.0.7:8080/ " }

def movedInput : ReconcileInput where
  orch := { checkWorkspaceRuntimeHealth := .returned movedContainer }

def Exit.hasSucceeded : Exit → Bool
  | .returned s => s.job.status = .succeeded
  | _ => false

theorem stale_route_repaired :
    ∃ s, (executeReconcileRuntimeJobOn { devnestGatewayEnabled := true } { now := 0 } movedInput {}
        staleRoutes staleSession).exit = .returned s ∧ s.job.status = .succeeded ∧
      RoutesRight { devnestGatewayEnabled := true } staleRoutes
        (executeReconcileRuntimeJobOn { devnestGatewayEnabled := true } { now := 0 } movedInput {}
          staleRoutes staleSession).routes s := by
  have hend : (executeReconcileRuntimeJobOn { devnestGatewayEnabled := true } { now := 0 }
      movedInput {} staleRoutes staleSession).exit.hasSucceeded = true := by decide +kernel
  have hcalls : (executeReconcileRuntimeJobOn { devnestGatewayEnabled := true } { now := 0 }
      movedInput {} staleRoutes staleSession).swallowed = false := by decide +kernel
  have hright := reconcile_repairs_routes { devnestGatewayEnabled := true } { now := 0 } movedInput {}
    staleRoutes staleSession rfl
  cases hexit : (executeReconcileRuntimeJobOn { devnestGatewayEnabled := true } { now := 0 }
      movedInput {} staleRoutes staleSession).exit with
  | returned s =>
      rw [hexit] at hend
      have hjob : s.job.status = .succeeded := of_decide_eq_true hend
      exact ⟨s, rfl, hjob, hright s hexit hjob hcalls⟩
  | raised e s =>
      rw [hexit] at hend
      cases hend
  | crashed s =>
      rw [hexit] at hend
      cases hend

end Job

end Devnest
