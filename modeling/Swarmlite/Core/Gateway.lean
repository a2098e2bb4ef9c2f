import Swarmlite.Core.Model
import Swarmlite.Stack.Generate

/-!
# Published routes and the gateway config — `swarmlite-core/src/gateway.rs`

A stack's *fragment* is its gateway spec together with the addresses of its
routed services. Fragments are stored in `gatewayRoutes` and the gateway
config is rendered from them alone, so traffic follows the stored fragment and
not the desired state. Two functions rewrite fragments:

- `replaceStackRoute` recomputes one stack's fragment unconditionally;
- `refreshReadyStackRoutes` does it for every stack whose running routed tasks
  all sit on nodes that have reported since the controller started.

Mirroring notes:
- The JSON document of `config` and `config_with_deployment` is the structure
  `GatewayConfig`, field by field; a field that the source omits from the JSON
  is `none` or `false` here.
- The deployment endpoint's `host:port` is computed by the `url` crate from the
  advertised URL and enters as an argument (`deployAddress`).
-/

namespace Swarmlite

open Ordered

/-! ## Services and their routes -/

/-- `service_id`: the key of the service table. -/
def serviceId (stack service : String) : String := stack ++ "." ++ service

def servicePorts (state : ClusterState) (service : ServiceRecord) : Keys Nat :=
  match state.stackRecords.get? service.stack with
  | some stack => routedServicePorts stack.gateway service.name
  | none => Table.empty

def isServiceHttpRouted (state : ClusterState) (service : ServiceRecord) : Bool :=
  (state.stackRecords.get? service.stack).any fun stack =>
    !(httpRoutedServicePorts stack.gateway service.name).rows.isEmpty

/-- The upstream key of a rule whose backend is a service. -/
def HttpRouteRule.portKey (rule : HttpRouteRule) : Option ServicePortKey :=
  rule.backend.service.map fun service => .new service rule.backend.port rule.backend.protocol

/-- The upstream keys a gateway spec asks for, HTTP rules before TCP routes. -/
def StackGatewaySpec.portKeys (gateway : StackGatewaySpec) : List ServicePortKey :=
  gateway.httpRules.filterMap HttpRouteRule.portKey
    ++ gateway.tcpRoutes.map fun route => .tcp route.backend.service route.backend.port

/-! ## Fragments -/

/-- The task is the one its restart operation is currently working on. -/
def currentlyRestarting (state : ClusterState) (taskId : String) : Bool :=
  state.serviceOperations.rows.any fun op =>
    op.restartingTask taskId
      && (op.tasks.find? fun target => !target.completed).any fun target => target.taskId = taskId

/-- A task traffic may be sent to. -/
def servesTraffic (state : ClusterState) (serviceId : String) (task : TaskRecord) : Bool :=
  task.serviceId = serviceId && task.desired = .running && task.observed = .healthy
    && !currentlyRestarting state task.id

/-- The published TCP port of a task behind a target port. -/
def TaskRecord.publishedPort (task : TaskRecord) (target : Nat) : Option Nat :=
  (task.ports.find? fun port => port.target = target && port.protocol = "tcp").bind
    PortBinding.published

/-- `address:port` of a task for a target port, once its node has reported. -/
def upstreamAddress (state : ClusterState) (target : Nat) (task : TaskRecord) : Option String :=
  (state.nodes.get? task.nodeId).bind fun node =>
    (task.publishedPort target).map fun port => formatHost node.address ++ ":" ++ toString port

/-- The addresses behind one upstream key, sorted and without repetition. -/
def keyUpstreams (state : ClusterState) (stackName : String) (key : ServicePortKey) : List String :=
  (Keys.ofElems ((state.tasks.rows.filter (servesTraffic state (serviceId stackName key.service)))
    |>.filterMap (upstreamAddress state key.targetPort))).rows

def stackFragment (state : ClusterState) (stackName : String) : Option RecoveredStackGateway :=
  (state.stackRecords.get? stackName).bind fun stack =>
    if stack.gateway.hasRoutes then
      some {
        gateway := stack.gateway
        upstreams := stack.gateway.portKeys.foldl
          (fun upstreams key => upstreams.put key (keyUpstreams state stackName key)) Table.empty }
    else none

/-- Store a stack's recomputed fragment; a stack without routes has none. -/
def storeFragment (routes : Map String RecoveredStackGateway) (stackName : String)
    (fragment : Option RecoveredStackGateway) : Map String RecoveredStackGateway × Bool :=
  match fragment with
  | some next =>
    if routes.lookup stackName ≠ some next then (routes.put stackName next, true)
    else (routes, false)
  | none => (routes.erase stackName, routes.contains stackName)

def replaceStackRoute (state : ClusterState) (stackName : String) : ClusterState × Bool :=
  let stored := storeFragment state.gatewayRoutes stackName (stackFragment state stackName)
  ({ state with gatewayRoutes := stored.1 }, stored.2)

/-- The service ids a gateway spec routes to. -/
def routedServiceIds (stackName : String) (gateway : StackGatewaySpec) : List String :=
  ((gateway.httpRules.filterMap fun rule => rule.backend.service)
    ++ gateway.tcpRoutes.map fun route => route.backend.service).map (serviceId stackName)

/-- Every running task of a routed service sits on a node that has reported. -/
def allRunningTasksReported (state : ClusterState) (stack : StackRecord) : Bool :=
  state.tasks.rows.all fun task =>
    !((routedServiceIds stack.name stack.gateway).contains task.serviceId
      && task.desired = .running) || state.nodes.contains task.nodeId

/-- One round of the loop of `refresh_ready_stack_routes`. Nothing in it reads the
stored fragments, so only they are carried along. -/
def refreshStackRoute (state : ClusterState) (acc : Map String RecoveredStackGateway × Bool)
    (stack : StackRecord) : Map String RecoveredStackGateway × Bool :=
  if allRunningTasksReported state stack then
    let stored := storeFragment acc.1 stack.name (stackFragment state stack.name)
    (stored.1, acc.2 || stored.2)
  else acc

def refreshReadyStackRoutes (state : ClusterState) : ClusterState × Bool :=
  let stored := state.stackRecords.rows.foldl (refreshStackRoute state) (state.gatewayRoutes, false)
  ({ state with gatewayRoutes := stored.1 }, stored.2)

/-! ## What the two refreshes store -/

theorem storeFragment_lookup (routes : Map String RecoveredStackGateway) (stackName : String)
    (fragment : Option RecoveredStackGateway) (name : String) :
    (storeFragment routes stackName fragment).1.lookup name
      = if name = stackName then fragment else routes.lookup name := by
  unfold storeFragment
  split
  next next =>
    split
    · rw [Map.lookup_put]
    next hsame =>
      have hsto : routes.lookup stackName = some next := not_not.mp hsame
      split
      next hname => rw [hname, hsto]
      · rfl
  · rw [Map.lookup_erase]

theorem replaceStackRoute_lookup (state : ClusterState) (stackName name : String) :
    (replaceStackRoute state stackName).1.gatewayRoutes.lookup name
      = if name = stackName then stackFragment state stackName
        else state.gatewayRoutes.lookup name :=
  storeFragment_lookup ..

/-- Exactly the ready stacks of the list have their fragment recomputed. -/
theorem foldl_refreshStackRoute_lookup (state : ClusterState) (name : String) :
    ∀ (records : List StackRecord) (acc : Map String RecoveredStackGateway × Bool),
      (records.foldl (refreshStackRoute state) acc).1.lookup name
        = if ∃ stack ∈ records, stack.name = name ∧ allRunningTasksReported state stack = true
          then stackFragment state name else acc.1.lookup name
  | [], acc => by simp
  | stack :: rest, acc => by
    have hstep : (refreshStackRoute state acc stack).1.lookup name
        = if stack.name = name ∧ allRunningTasksReported state stack = true
          then stackFragment state name else acc.1.lookup name := by
      unfold refreshStackRoute
      by_cases hrea : allRunningTasksReported state stack = true
      · rw [if_pos hrea]
        show (storeFragment acc.1 stack.name (stackFragment state stack.name)).1.lookup name = _
        rw [storeFragment_lookup]
        by_cases hname : stack.name = name
        · rw [if_pos hname.symm, if_pos ⟨hname, hrea⟩, hname]
        · rw [if_neg (fun h => hname h.symm), if_neg (fun h => hname h.1)]
      · rw [if_neg hrea, if_neg (fun h => hrea h.2)]
    rw [List.foldl_cons, foldl_refreshStackRoute_lookup state name rest, hstep]
    by_cases hrest : ∃ s ∈ rest, s.name = name ∧ allRunningTasksReported state s = true
    · simp [hrest]
    · simp [hrest]

/-- **A ready stack gets a fresh fragment, every other one keeps its own.** -/
theorem refreshReadyStackRoutes_lookup (state : ClusterState) (name : String) :
    (refreshReadyStackRoutes state).1.gatewayRoutes.lookup name
      = if ∃ stack ∈ state.stackRecords, stack.name = name ∧
            allRunningTasksReported state stack = true
        then stackFragment state name else state.gatewayRoutes.lookup name :=
  foldl_refreshStackRoute_lookup state name state.stackRecords.rows (state.gatewayRoutes, false)

/-! ## What a fragment lists -/

theorem stackFragment_gateway {state : ClusterState} {stackName : String}
    {fragment : RecoveredStackGateway} (h : stackFragment state stackName = some fragment) :
    ∃ stack, state.stackRecords.get? stackName = some stack ∧ fragment.gateway = stack.gateway := by
  unfold stackFragment at h
  obtain ⟨stack, hsta, hif⟩ := Option.bind_eq_some_iff.mp h
  split at hif
  · cases hif
    exact ⟨stack, hsta, rfl⟩
  · cases hif

/-! ## The gateway config -/

structure TcpProxyRoute where
  id : String
  listen : String
  upstreams : List String
deriving DecidableEq

structure AccessLog where
  format : Option GatewayAccessLogFormat
  sampling : Option (Option Nat × Option Nat)
deriving DecidableEq

structure LoggingDocument where
  level : Option GatewayLogLevel
  access : Option AccessLog
deriving DecidableEq

structure GatewayConfig where
  server : HttpServer
  accessLogged : Bool
  http : GatewayHttpConfig
  metrics : Option (Option Bool)
  gracePeriodSeconds : Option Nat
  tcpRoutes : List TcpProxyRoute
  storageController : String
  logging : Option LoggingDocument
deriving DecidableEq

def duration (seconds : Nat) : String := toString seconds ++ "s"

def cacheRuntimeConfig (cache : GatewayCacheConfig) : CacheRuntimeConfig :=
  { maxSizeBytes := cache.maxSizeBytes.getD (2 ^ 30)
    lowWaterPercent := some (cache.lowWaterPercent.getD 90)
    admissionWindow := some (duration (cache.admission.windowSeconds.getD (5 * 60)))
    cacheAfterRequests := some (cache.admission.cacheAfterRequests.getD 3)
    touchWindow := some (duration (cache.sqlite.touchWindowSeconds.getD (5 * 60)))
    cacheSizeKib := cache.sqlite.cacheSizeKib
    mmapSizeBytes := cache.sqlite.mmapSizeBytes.getD (256 * 2 ^ 20)
    readConnections := cache.sqlite.readConnections.getD 4
    busyTimeout := some (duration (cache.sqlite.busyTimeoutSeconds.getD 5))
    cleanupInterval := duration (cache.sqlite.cleanupIntervalSeconds.getD (5 * 60))
    journalSizeLimit := cache.sqlite.journalSizeLimitBytes.getD (64 * 2 ^ 20) }

/-- Cache handlers get the cluster's cache settings; the rest is untouched. -/
def applyCacheRuntimeConfig (cache : GatewayCacheConfig) : Handler → Handler
  | .cache spec _ => .cache spec (cacheRuntimeConfig cache)
  | handler => handler

def gatewayProbeRoute : Route :=
  { id := "swarmlite-gateway-owner-probe"
    matchers := [{
      host := []
      protocol := some "http"
      pathRegexp := some "^/\\.well-known/swarmlite/gateway-owner$" }]
    handle := [.gatewayProbe]
    terminal := true }

def loggingConfig (gateway : ClusterGatewayConfig) : Option LoggingDocument :=
  let accessEnabled := gateway.logging.access.enabled == some true
  if gateway.logging.runtimeLevel.isNone && !accessEnabled then none
  else
    some {
      level := gateway.logging.runtimeLevel
      access :=
        if accessEnabled then
          some {
            format := gateway.logging.access.format
            sampling :=
              if gateway.logging.access.sampling.enabled == some true then
                some (gateway.logging.access.sampling.first,
                  gateway.logging.access.sampling.thereafter)
              else none }
        else none }

/-- The addresses a stored fragment gives for a key; none for an unknown key. -/
def routeUpstreams (routes : Map String RecoveredStackGateway) (stackName : String)
    (key : ServicePortKey) : List String :=
  ((routes.lookup stackName).bind fun fragment => fragment.upstreams.lookup key).getD []

/-- The HTTP server of the stored fragments. -/
def generateServer (routes : Map String RecoveredStackGateway) (listen : List String) :
    HttpServer :=
  generate (routes.rows.map fun entry => (entry.1, entry.2.gateway)) listen
    fun stackName service port protocol =>
      routeUpstreams routes stackName (.new service port protocol)

def tcpProxyRoutes (routes : Map String RecoveredStackGateway) : List TcpProxyRoute :=
  routes.rows.flatMap fun entry =>
    entry.2.gateway.tcpRoutes.map fun route =>
      { id := entry.1 ++ ":" ++ toString route.listen
        listen := ":" ++ toString route.listen
        upstreams :=
          (entry.2.upstreams.lookup (.tcp route.backend.service route.backend.port)).getD [] }

def config (routes : Map String RecoveredStackGateway) (gateway : ClusterGatewayConfig)
    (controller : String) : GatewayConfig :=
  let server := generateServer routes gateway.listen
  let withCache (route : Route) : Route :=
    { route with handle := route.handle.map (applyCacheRuntimeConfig gateway.cache) }
  { server := { server with routes := (gatewayProbeRoute :: server.routes).map withCache }
    accessLogged := gateway.logging.access.enabled == some true
    http := gateway.http
    metrics := if gateway.metrics.enabled == some true then some gateway.metrics.perHost else none
    gracePeriodSeconds := gateway.shutdownGracePeriodSeconds
    tcpRoutes := tcpProxyRoutes routes
    storageController := controller
    logging := loggingConfig gateway }

def deployPattern : String := "^/v1/deploy(/|$)"

/-- The routes of the deployment endpoint, which precede every stack's. -/
def deploymentRoutes (domain : Option String) (deployAddress : String) : List Route :=
  let denied : List Route :=
    match domain with
    | none => []
    | some _ =>
      [{ id := "swarmlite-system-deploy-http-denied"
         matchers := [{ host := [], protocol := some "http", pathRegexp := some deployPattern }]
         handle := [.staticResponse 403 none (some "Deployment requires HTTPS.\n")]
         terminal := true }]
  let proxy : Route :=
    { id := "swarmlite-system-deploy"
      matchers := [{
        host := domain.toList
        protocol := some (if domain.isSome then "https" else "http")
        pathRegexp := some deployPattern }]
      handle := [.reverseProxy [deployAddress] [] (some (.dialTimeout 5000000000)) none]
      terminal := true }
  let unmatched : Route :=
    { id := "swarmlite-system-deploy-unmatched"
      matchers := [{ host := [], protocol := none, pathRegexp := some deployPattern }]
      handle := [.staticResponse 404 none none]
      terminal := true }
  denied ++ [proxy, unmatched]

def configWithDeployment (routes : Map String RecoveredStackGateway)
    (gateway : ClusterGatewayConfig) (controller deployAddress : String) : GatewayConfig :=
  let value := config routes gateway controller
  { value with
    server := { value.server with
      routes := deploymentRoutes gateway.deployDomain deployAddress ++ value.server.routes
      skipCertificates :=
        value.server.skipCertificates.filter fun host => some host != gateway.deployDomain } }

end Swarmlite
