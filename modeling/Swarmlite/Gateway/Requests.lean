import Swarmlite.Core.Gateway
import Swarmlite.Stack.Validate

/-!
# Requests at the gateway, and the deployment endpoint — `swarmlite-core/src/gateway.rs`

The config is handed to Caddy, which tries the routes in their order, runs the handlers
of those that match and stops at the first terminal one. `handledBy` is that evaluation;
what it needs to know about a request is its protocol, host and path.

The deployment endpoint lives on every gateway under one path. Its routes precede those
of the stacks, and the last of them matches the whole namespace whatever the host and the
protocol; so a request in the namespace never gets as far as a stack's route, and which of
the system routes answers it depends on the request alone.

Mirroring notes:
- `Caddy` holds what is not in this repository: regular expressions, of which only the
  meaning of the deployment pattern is assumed. A `path_regexp` sees the path of the
  request after Caddy has cleaned it (`HttpRequest.path`).
- A host is matched label by label, without regard to case; the label `*` of a pattern
  stands for any one label.
- The `url` crate decides whether a text is a domain (`isDomain`).
-/

namespace Swarmlite

open Ordered

variable {route : Route}

/-- What the matchers of a route look at. -/
structure HttpRequest where
  protocol : String
  host : String
  path : String

/-- The paths of the deployment endpoint. -/
def inDeployNamespace (path : String) : Bool :=
  path = "/v1/deploy" || Text.startsWith "/v1/deploy/" path

structure Caddy where
  pathRegexp : String → String → Bool
  deployPattern_eq : pathRegexp deployPattern = inDeployNamespace

/-! ## Matching -/

def labelsMatch : List (List Char) → List (List Char) → Bool
  | [], [] => true
  | pattern :: patterns, label :: labels =>
    (pattern = ['*'] || pattern = label) && labelsMatch patterns labels
  | _, _ => false

def hostMatches (pattern host : String) : Bool :=
  labelsMatch (hostLabels (Text.toAsciiLowercase pattern))
    (hostLabels (Text.toAsciiLowercase host))

section Matching

variable (caddy : Caddy) (request : HttpRequest)

def RequestMatcher.accepts (matcher : RequestMatcher) : Bool :=
  (matcher.host.isEmpty || matcher.host.any fun pattern => hostMatches pattern request.host)
    && matcher.protocol.all (· = request.protocol)
    && matcher.pathRegexp.all fun pattern => caddy.pathRegexp pattern request.path

/-- A route without matchers takes every request. -/
def Route.accepts (route : Route) : Bool :=
  route.matchers.isEmpty || route.matchers.any fun matcher => matcher.accepts caddy request

/-- The routes whose handlers run for the request. -/
def handledBy : List Route → List Route
  | [] => []
  | route :: routes =>
    if route.accepts caddy request then
      if route.terminal then [route] else route :: handledBy routes
    else handledBy routes

end Matching

variable {caddy : Caddy} {request : HttpRequest} {resolveService : ServiceResolver}
  {routes : Map String RecoveredStackGateway} {gateway : ClusterGatewayConfig}
  {domain : Option String}

/-- Without a wildcard label, a pattern matches only its own labels. -/
theorem labelsMatch_eq : ∀ {patterns labels : List (List Char)}, ['*'] ∉ patterns →
    labelsMatch patterns labels = true → patterns = labels
  | [], [], _, _ => rfl
  | [], _ :: _, _, h => nomatch h
  | _ :: _, [], _, h => nomatch h
  | pattern :: patterns, label :: labels, hpla, h => by
    rw [labelsMatch, Bool.and_eq_true, Bool.or_eq_true, decide_eq_true_eq, decide_eq_true_eq] at h
    obtain ⟨hfir, hrest⟩ := h
    rcases hfir with hstar | hlab
    · exact absurd (hstar ▸ List.mem_cons_self ..) hpla
    · rw [hlab, labelsMatch_eq (fun hmem => hpla (List.mem_cons_of_mem _ hmem)) hrest]

/-- A host is its labels with dots between them. -/
theorem hostLabels_injective {a b : String} (h : hostLabels a = hostLabels b) : a = b := by
  have hjoi : ['.'].intercalate (hostLabels a) = ['.'].intercalate (hostLabels b) := by rw [h]
  unfold hostLabels at hjoi
  rw [List.intercalate_splitOn, List.intercalate_splitOn] at hjoi
  exact String.toList_inj.mp hjoi

/-- A normal name without a wildcard matches exactly the host of that name. -/
theorem eq_of_hostMatches {hostname host : String} (hnor : HostnameNormal hostname)
    (hpla : isWildcard hostname = false) (h : hostMatches hostname host = true) :
    Text.toAsciiLowercase host = hostname := by
  unfold hostMatches at h
  rw [hnor.lower] at h
  exact (hostLabels_injective (labelsMatch_eq (hnor.plain hpla) h)).symm

/-- Where every route is terminal, the first that accepts the request handles it. -/
theorem handledBy_of_find {rest : List Route} :
    ∀ {routes : List Route}, (∀ r ∈ routes, r.terminal = true) →
      routes.find? (fun r => r.accepts caddy request) = some route →
      handledBy caddy request (routes ++ rest) = [route]
  | [], _, h => nomatch h
  | first :: routes, hterminal, h => by
    rw [List.cons_append, handledBy]
    by_cases hacc : first.accepts caddy request = true
    · rw [List.find?_cons_of_pos hacc] at h
      cases h
      rw [if_pos hacc, if_pos (hterminal _ (List.mem_cons_self ..))]
    · rw [List.find?_cons_of_neg hacc] at h
      rw [if_neg hacc]
      exact handledBy_of_find (fun r hr => hterminal r (List.mem_cons_of_mem _ hr)) h

/-! ## The deploy domain -/

/-- Only an exact DNS name is accepted. -/
def normalizeDeployDomain (isDomain : String → Bool) (value : String) : Option String :=
  if 253 < Text.byteLength value || !Text.contains "." value || !isDomain value
      || (hostLabels value).any invalidLabel then none
  else some (Text.toAsciiLowercase value)

/-- The labels of the lower case are the lower cases of the labels. -/
theorem star_not_mem_lowercase {value : String} (h : (hostLabels value).any invalidLabel = false) :
    ['*'] ∉ hostLabels (Text.toAsciiLowercase value) := by
  unfold hostLabels Text.toAsciiLowercase
  rw [String.toList_ofList, Text.splitOn_map fun _ => Text.lowered_eq_iff (by decide)]
  intro hstar
  obtain ⟨label, hlab, hlow⟩ := List.mem_map.mp hstar
  obtain ⟨c, rfl, hc⟩ := List.map_eq_singleton_iff.mp hlow
  rw [Text.lowered_eq_iff (by decide)] at hc
  exact star_not_mem h (hc ▸ hlab)

theorem normalizeDeployDomain_exact {isDomain : String → Bool} {value domain host : String}
    (h : normalizeDeployDomain isDomain value = some domain)
    (hmat : hostMatches domain host = true) : Text.toAsciiLowercase host = domain := by
  unfold normalizeDeployDomain at h
  split at h
  · cases h
  next hche =>
    cases h
    simp only [Bool.or_eq_true, not_or, Bool.not_eq_true] at hche
    unfold hostMatches at hmat
    rw [Text.toAsciiLowercase_idem] at hmat
    exact (hostLabels_injective (labelsMatch_eq (star_not_mem_lowercase hche.2) hmat)).symm

/-! ## The deployment endpoint is reserved -/

/-- The first handler of a stack's route; no system route starts with it. -/
inductive StackHandler : List Handler → Prop
  | serve (rest : List Handler) : StackHandler (.encode :: rest)
  | redirect (location : String) : StackHandler [.staticResponse 308 (some location) none]

theorem servedRoutes_handler {stackName : String} {gateway : StackGatewaySpec}
    {spec : HttpRouteSpec} {routeIndex : Nat} {protocol : String}
    (h : route ∈ servedRoutes stackName gateway spec routeIndex resolveService protocol) :
    StackHandler route.handle := by
  unfold servedRoutes at h
  rcases List.mem_append.mp h with h | h
  · split at h
    · cases h
    · dsimp only at h
      split at h
      · cases h
      · rw [List.mem_singleton.mp h]
        exact .redirect _
  · obtain ⟨expanded, -, rfl⟩ := List.mem_map.mp h
    exact .serve _

theorem stackRoutes_handler {stack : String × StackGatewaySpec}
    (h : route ∈ stackRoutes resolveService stack) : StackHandler route.handle := by
  unfold stackRoutes at h
  obtain ⟨entry, -, h⟩ := List.mem_flatMap.mp h
  unfold httpRouteRoutes at h
  rcases List.mem_append.mp h with h | h
  · rcases List.mem_append.mp h with h | h
    · split at h
      · rw [List.mem_singleton.mp h]
        exact .redirect _
      · cases h
    · split at h
      · exact servedRoutes_handler h
      · cases h
  · split at h
    · exact servedRoutes_handler h
    · cases h

theorem StackHandler.applyCache {handle : List Handler} (h : StackHandler handle)
    (cache : GatewayCacheConfig) : StackHandler (handle.map (applyCacheRuntimeConfig cache)) := by
  cases h with
  | serve rest => exact .serve _
  | redirect location => exact .redirect location

/-- The routes of the config are the owner probe, the routes of the stacks and the route
for what is left over. -/
theorem mem_config_routes {controller : String}
    (h : route ∈ (config routes gateway controller).server.routes) :
    route.handle = [.gatewayProbe] ∨ StackHandler route.handle ∨ route.matchers = [] := by
  unfold config generateServer generate at h
  obtain ⟨found, hfou, rfl⟩ := List.mem_map.mp h
  rcases List.mem_cons.mp hfou with hpro | hfou
  · rw [hpro]
    exact .inl rfl
  · rcases List.mem_append.mp hfou with hsta | hlast
    · obtain ⟨stack, -, hrou⟩ := List.mem_flatMap.mp hsta
      exact .inr (.inl ((stackRoutes_handler hrou).applyCache _))
    · rw [List.mem_singleton.mp hlast]
      exact .inr (.inr rfl)

/-- The routes of the deployment endpoint: the refusal of plain HTTP, the proxy and the
rest of the namespace. -/
inductive SystemRoute (domain : Option String) (deployAddress : String) (route : Route) : Prop
  | denied (h : route.handle = [.staticResponse 403 none (some "Deployment requires HTTPS.\n")])
  | proxy (protocol : String)
      (hmatchers : route.matchers
        = [{ host := domain.toList, protocol := some protocol, pathRegexp := some deployPattern }])
      (h : route.handle
        = [.reverseProxy [deployAddress] [] (some (.dialTimeout 5000000000)) none])
  | unmatched (h : route.handle = [.staticResponse 404 none none])

theorem mem_deploymentRoutes {deployAddress : String}
    (h : route ∈ deploymentRoutes domain deployAddress) :
    route.terminal = true ∧ route.matchers ≠ [] ∧ SystemRoute domain deployAddress route := by
  rcases List.mem_append.mp h with h | h
  · cases domain with
    | none => cases h
    | some name =>
      rw [List.mem_singleton.mp h]
      exact ⟨rfl, List.cons_ne_nil _ _, .denied rfl⟩
  · rcases List.mem_cons.mp h with rfl | h
    · exact ⟨rfl, List.cons_ne_nil _ _, .proxy _ rfl rfl⟩
    · rw [List.mem_singleton.mp h]
      exact ⟨rfl, List.cons_ne_nil _ _, .unmatched rfl⟩

theorem deploymentRoutes_not_mem {controller deployAddress : String}
    (h : route ∈ deploymentRoutes domain deployAddress) :
    route ∉ (config routes gateway controller).server.routes := by
  intro hmem
  obtain ⟨-, hmat, hrou⟩ := mem_deploymentRoutes h
  rcases mem_config_routes hmem with hpro | hsta | hnone
  · rcases hrou with heq | ⟨_, _, heq⟩ | heq <;> rw [heq] at hpro <;> cases hpro
  · rcases hrou with heq | ⟨_, _, heq⟩ | heq <;> rw [heq] at hsta <;> cases hsta
  · exact hmat hnone

section Namespace

variable (hpath : inDeployNamespace request.path = true)
include hpath

/-- In the namespace, the matcher of a system route looks at the host and the protocol. -/
theorem accepts_system {host : List String} {protocol : Option String}
    (h : route.matchers = [{ host, protocol, pathRegexp := some deployPattern }]) :
    route.accepts caddy request
      = ((host.isEmpty || host.any fun pattern => hostMatches pattern request.host)
        && protocol.all (· = request.protocol)) := by
  have hpat : caddy.pathRegexp deployPattern request.path = true := by
    rw [caddy.deployPattern_eq, hpath]
  unfold Route.accepts
  rw [h, List.any_cons, List.any_nil, Bool.or_false, List.isEmpty_cons, Bool.false_or]
  unfold RequestMatcher.accepts
  rw [Option.all_some, hpat, Bool.and_true]

/-- The last system route matches the whole namespace. -/
theorem find_deployment (domain : Option String) (deployAddress : String) :
    ∃ route, (deploymentRoutes domain deployAddress).find?
      (fun route => route.accepts caddy request) = some route := by
  rw [← Option.isSome_iff_exists, List.find?_isSome]
  refine ⟨_, List.mem_append_right _ (List.mem_cons_of_mem _ (List.mem_singleton_self _)), ?_⟩
  exact (accepts_system hpath rfl).trans rfl

/-- Plain HTTP is refused by the first system route once there is a domain. -/
theorem find_deployment_http (domain deployAddress : String) (hhttp : request.protocol = "http")
    (h : (deploymentRoutes (some domain) deployAddress).find?
      (fun route => route.accepts caddy request) = some route) :
    route.handle = [.staticResponse 403 none (some "Deployment requires HTTPS.\n")] := by
  unfold deploymentRoutes at h
  rw [List.singleton_append, List.find?_cons_of_pos] at h
  · cases h
    rfl
  · rw [accepts_system hpath rfl, hhttp]
    rfl

/-- What is forwarded is addressed to the domain. -/
theorem accepts_proxy {domain deployAddress : String}
    (hrou : SystemRoute (some domain) deployAddress route)
    (hacc : route.accepts caddy request = true) (hdia : route.dials ≠ []) :
    hostMatches domain request.host = true := by
  unfold Route.dials at hdia
  cases hrou with
  | denied h => exact absurd (by rw [h]; rfl) hdia
  | proxy protocol hmat _ =>
    rw [accepts_system hpath hmat, Bool.and_eq_true] at hacc
    simpa using hacc.1
  | unmatched h => exact absurd (by rw [h]; rfl) hdia

end Namespace

/-- **The deployment namespace is reserved.** Whatever the stacks declare, a request in it
is handled by one system route, and this is no route of the rest of the config. With a
deploy domain, plain HTTP is refused, only requests to exactly that host are forwarded, and
the domain's certificate is managed. -/
theorem deployment_namespace_reserved (caddy : Caddy) (routes : Map String RecoveredStackGateway)
    (gateway : ClusterGatewayConfig) (controller deployAddress : String) :
    (∀ domain, gateway.deployDomain = some domain →
      domain ∉ (configWithDeployment routes gateway controller
        deployAddress).server.skipCertificates) ∧
    ∀ request : HttpRequest, inDeployNamespace request.path = true →
      ∃ route ∈ deploymentRoutes gateway.deployDomain deployAddress,
        handledBy caddy request
            (configWithDeployment routes gateway controller deployAddress).server.routes = [route] ∧
        route ∉ (config routes gateway controller).server.routes ∧
        ∀ domain, gateway.deployDomain = some domain →
          (request.protocol = "http" →
            route.handle = [.staticResponse 403 none (some "Deployment requires HTTPS.\n")]) ∧
          (request.protocol = "https" → route.dials ≠ [] →
            hostMatches domain request.host = true ∧
              ∀ isDomain value, normalizeDeployDomain isDomain value = some domain →
                Text.toAsciiLowercase request.host = domain) := by
  refine ⟨?_, ?_⟩
  · intro domain hdom hskip
    have hoth := (List.mem_filter.mp hskip).2
    rw [hdom, bne_self_eq_false] at hoth
    cases hoth
  · intro request hpath
    have hfou : ∃ route, (deploymentRoutes gateway.deployDomain deployAddress).find?
        (fun route => route.accepts caddy request) = some route := find_deployment hpath ..
    obtain ⟨route, hfind⟩ := hfou
    have hmem := List.mem_of_find?_eq_some hfind
    have hter : ∀ r ∈ deploymentRoutes gateway.deployDomain deployAddress,
        r.terminal = true := fun r hr => (mem_deploymentRoutes hr).1
    refine ⟨route, hmem, handledBy_of_find hter hfind, deploymentRoutes_not_mem hmem, ?_⟩
    intro domain hdom
    rw [hdom] at hfind hmem
    refine ⟨fun hhttp => find_deployment_http hpath domain deployAddress hhttp hfind, ?_⟩
    intro _ hdia
    have hhost := accepts_proxy hpath (mem_deploymentRoutes hmem).2.2 (List.find?_some hfind) hdia
    exact ⟨hhost, fun _ _ hnor => normalizeDeployDomain_exact hnor hhost⟩

/-- No other expression matches anything. -/
def plainCaddy : Caddy where
  pathRegexp pattern path := pattern == deployPattern && inDeployNamespace path
  deployPattern_eq := by
    funext path
    rw [beq_self_eq_true, Bool.true_and]

/-- A stack that serves everything on the deploy domain. -/
def squatterRoutes : Map String RecoveredStackGateway :=
  Map.put Table.empty "squatter" {
    gateway := {
      tls := .serve
      http := .serve
      httpRoutes := [{ hostnames := ["deploy.x.io"], rules := [{ backend := {
        host := some "10.0.0.9", port := 80 } }] }] }
    upstreams := Table.empty }

def deployGateway : ClusterGatewayConfig := { image := "caddy", deployDomain := some "deploy.x.io" }

def plainRequest : HttpRequest := { protocol := "http", host := "deploy.x.io", path := "/v1/deploy/a" }

theorem deployment_namespace_reserved_plain :
    (handledBy plainCaddy plainRequest
        (config squatterRoutes deployGateway "").server.routes).map Route.dials
      = [["10.0.0.9:80"]] ∧
    (handledBy plainCaddy plainRequest (configWithDeployment squatterRoutes deployGateway ""
        "10.0.0.1:7").server.routes).map Route.handle
      = [[.staticResponse 403 none (some "Deployment requires HTTPS.\n")]] := by
  refine ⟨by decide +kernel, ?_⟩
  obtain ⟨route, -, hhan, -, hdom⟩ := (deployment_namespace_reserved plainCaddy
    squatterRoutes deployGateway "" "10.0.0.1:7").2 plainRequest (by decide +kernel)
  rw [hhan, List.map_singleton, (hdom "deploy.x.io" rfl).1 rfl]

end Swarmlite
