import Swarmlite.Stack.Spec

/-!
# Route generation — `swarmlite-stack/src/lib.rs`, `generate`

`generate` turns the gateway specs of all stacks into the ordered route list
of one HTTP server. The source builds JSON; here every route and handler is a
constructor with exactly the values the JSON object carries, so two servers are
equal here iff the JSON documents are.

Mirroring notes:
- `expanded.sort_by_key(..)` is an insertion sort with the source's key; the
  key contains the rule and match positions, so it never ties and stability
  does not matter.
- The accumulator `routes: &mut Vec<Route>` is list concatenation.
-/

namespace Swarmlite

open Ordered

/-! ## The generated document -/

/-- The `transport` object of a `reverse_proxy` handler. -/
inductive ProxyTransport where
  | tls (serverName : String)
  | h2c
  | dialTimeout (nanos : Nat)
deriving DecidableEq

/-- The storage settings of a cache handler. -/
structure CacheRuntimeConfig where
  maxSizeBytes : Nat
  lowWaterPercent : Option Nat := none
  admissionWindow : Option String := none
  cacheAfterRequests : Option Nat := none
  touchWindow : Option String := none
  cacheSizeKib : Option Nat := none
  mmapSizeBytes : Nat
  readConnections : Nat
  busyTimeout : Option String := none
  cleanupInterval : String
  journalSizeLimit : Nat
deriving DecidableEq

inductive Handler where
  | encode
  | cache (spec : HttpCacheSpec) (runtime : CacheRuntimeConfig)
  | rewriteUri (uri : String)
  | stripPathPrefix (path : String)
  | rewritePathRegexp (find replace : String)
  | reverseProxy (upstreams trustedProxies : List String) (transport : Option ProxyTransport)
      (hostHeader : Option String)
  | staticResponse (statusCode : Nat) (location body : Option String)
  | gatewayProbe
deriving DecidableEq

structure RequestMatcher where
  host : List String
  protocol : Option String
  pathRegexp : Option String
deriving DecidableEq

structure Route where
  id : String
  matchers : List RequestMatcher
  handle : List Handler
  terminal : Bool
deriving DecidableEq

structure HttpServer where
  listen : List String
  routes : List Route
  disableRedirects : Bool
  skipCertificates : List String
deriving DecidableEq

/-! ## Names and patterns -/

def formatHost (host : String) : String :=
  if Text.contains ":" host && !Text.startsWith "[" host then "[" ++ host ++ "]" else host

def sanitizeId (value : String) : String :=
  String.ofList (value.toList.map fun c =>
    if isAsciiAlphanumeric c || c == '-' || c == '_' || c == '.' then c else '-')

/-- `regex::escape`. -/
def regexEscape (text : String) : String :=
  String.ofList (text.toList.flatMap fun c =>
    if "\\.+*?()|[]\x7b\x7d^$#&-~".toList.contains c then ['\\', c] else [c])

def caseFlag (pathMatch : HttpPathMatch) : String :=
  if pathMatch.ignoreCase then "(?i)" else ""

def pathPattern (pathMatch : HttpPathMatch) : String :=
  match pathMatch.kind with
  | .exact => caseFlag pathMatch ++ "^" ++ regexEscape pathMatch.path ++ "$"
  | .pathPrefix =>
    if pathMatch.path = "/" then caseFlag pathMatch ++ "^/.*$"
    else caseFlag pathMatch ++ "^" ++ regexEscape pathMatch.path ++ "(?:/.*)?$"
  | .regex => caseFlag pathMatch ++ pathMatch.path

/-! ## Handlers -/

def staticResponse (statusCode : Nat) : Handler := .staticResponse statusCode none none

def cacheHandler (cache : HttpCacheSpec) : Handler :=
  .cache cache
    { maxSizeBytes := 1073741824, mmapSizeBytes := 268435456, readConnections := 4,
      cleanupInterval := "5m", journalSizeLimit := 67108864 }

def rewriteHandlers (rewrite : Option HttpPathRewrite) (pathMatch : Option HttpPathMatch) :
    List Handler :=
  match rewrite with
  | none => []
  | some rewrite =>
    match rewrite.replacePath with
    | some path => [.rewriteUri path]
    | none =>
      match pathMatch with
      | none => []
      | some pathMatch =>
        if rewrite.stripPrefix then [.stripPathPrefix pathMatch.path]
        else
          match rewrite.replacePrefix with
          | some replacement =>
            [.rewritePathRegexp (caseFlag pathMatch ++ "^" ++ regexEscape pathMatch.path)
              (if replacement = "/" then "" else Text.trimEndMatches '/' replacement)]
          | none => []

/-- `resolve_service`: the addresses behind (stack, service, port, protocol). -/
abbrev ServiceResolver := String → String → Nat → HttpBackendProtocol → List String

def proxyTransport (protocol : HttpBackendProtocol) (upstreamName : String) :
    Option ProxyTransport :=
  match protocol with
  | .http => none
  | .https => some (.tls upstreamName)
  | .h2c => some .h2c

def hostHeader (backend : HttpBackend) (upstreamName : String) : Option String :=
  if backend.preserveHost then
    if backend.protocol = .https then some "\x7bhttp.request.host\x7d" else none
  else some upstreamName

/-- The proxy handler of a backend whose addresses are known; without addresses
the route answers 503. -/
def proxyHandlers (backend : HttpBackend) (trustedProxies upstreams : List String)
    (upstreamName : String) : List Handler :=
  if upstreams.isEmpty then [staticResponse 503]
  else
    [.reverseProxy upstreams trustedProxies (proxyTransport backend.protocol upstreamName)
      (hostHeader backend upstreamName)]

def hostDial (backend : HttpBackend) (host : String) : String :=
  formatHost host ++ ":" ++ toString backend.port

def backendHandlers (stackName : String) (backend : HttpBackend) (trustedProxies : List String)
    (resolveService : ServiceResolver) : List Handler :=
  match backend.service, backend.host with
  | some serviceName, none =>
    proxyHandlers backend trustedProxies
      (resolveService stackName serviceName backend.port backend.protocol) serviceName
  | none, some host => proxyHandlers backend trustedProxies [hostDial backend host] host
  | _, _ => [staticResponse 503]

/-! ## Routes -/

structure ProxyRouteConfig where
  stackName : String
  routeIndex : Nat
  hostnames : List String
  rules : List HttpRouteRule
  trustedProxies : List String
  requestProtocol : String

/-- One rule with one of its matches, or without a match for a fallback rule. -/
structure ExpandedRule where
  ruleIndex : Nat
  pathMatch : Option (Nat × HttpPathMatch)
  rule : HttpRouteRule

def expandRule (ruleIndex : Nat) (rule : HttpRouteRule) : List ExpandedRule :=
  if rule.pathMatches.isEmpty then [⟨ruleIndex, none, rule⟩]
  else rule.pathMatches.zipIdx.map fun entry => ⟨ruleIndex, some (entry.2, entry.1), rule⟩

/-- Exact matches first, then prefixes, then expressions, then the fallback. -/
def ExpandedRule.priority (expanded : ExpandedRule) : Nat :=
  match expanded.pathMatch with
  | some (_, pathMatch) =>
    match pathMatch.kind with
    | .exact => 0
    | .pathPrefix => 1
    | .regex => 2
  | none => 3

/-- The length compared in reverse among prefixes; `0` for everything else. -/
def ExpandedRule.prefixLength (expanded : ExpandedRule) : Nat :=
  match expanded.pathMatch with
  | some (_, pathMatch) =>
    match pathMatch.kind with
    | .pathPrefix => Text.byteLength pathMatch.path
    | _ => 0
  | none => 0

def ExpandedRule.matchIndex (expanded : ExpandedRule) : Nat :=
  (expanded.pathMatch.map Prod.fst).getD 0

/-- The sort key `(priority, Reverse(prefix_length), rule_index, match_index)`. -/
def ExpandedRule.before (a b : ExpandedRule) : Bool :=
  a.priority < b.priority || (a.priority == b.priority &&
    (b.prefixLength < a.prefixLength || (a.prefixLength == b.prefixLength &&
      (a.ruleIndex < b.ruleIndex || (a.ruleIndex == b.ruleIndex && a.matchIndex ≤ b.matchIndex)))))

def expandRules (rules : List HttpRouteRule) : List ExpandedRule :=
  (rules.zipIdx.flatMap fun entry => expandRule entry.2 entry.1).insertionSort
    fun a b => a.before b = true

def proxyRoute (config : ProxyRouteConfig) (resolveService : ServiceResolver)
    (expanded : ExpandedRule) : Route :=
  let pathMatch := expanded.pathMatch.map Prod.snd
  { id := "swarmlite-" ++ sanitizeId config.stackName ++ "-route-"
      ++ toString (config.routeIndex + 1) ++ "-rule-" ++ toString (expanded.ruleIndex + 1)
      ++ "-match-" ++ toString (expanded.matchIndex + 1) ++ "-" ++ config.requestProtocol
    matchers := [{
      host := config.hostnames
      protocol := some config.requestProtocol
      pathRegexp := pathMatch.map pathPattern }]
    handle := [Handler.encode] ++ (expanded.rule.cache.map cacheHandler).toList
      ++ rewriteHandlers expanded.rule.rewrite pathMatch
      ++ backendHandlers config.stackName expanded.rule.backend config.trustedProxies resolveService
    terminal := true }

def buildProxyRoutes (config : ProxyRouteConfig) (resolveService : ServiceResolver) : List Route :=
  (expandRules config.rules).map (proxyRoute config resolveService)

def redirectRoute (stackName : String) (routeIndex : Nat) (idSuffix : String)
    (hostnames : List String) (requestProtocol targetProtocol targetHost : String) : Route :=
  { id := "swarmlite-" ++ sanitizeId stackName ++ "-route-" ++ toString (routeIndex + 1)
      ++ "-" ++ idSuffix
    matchers := [{ host := hostnames, protocol := some requestProtocol, pathRegexp := none }]
    handle := [.staticResponse 308
      (some (targetProtocol ++ "://" ++ targetHost ++ "\x7bhttp.request.uri\x7d")) none]
    terminal := true }

/-- The canonical-host redirect and the proxy routes of one request protocol. -/
def servedRoutes (stackName : String) (gateway : StackGatewaySpec) (route : HttpRouteSpec)
    (routeIndex : Nat) (resolveService : ServiceResolver) (protocol : String) : List Route :=
  let trustedProxies := route.trustedProxies.getD gateway.trustedProxies
  let proxyHostnames := (route.canonicalHostname.map fun hostname => [hostname]).getD route.hostnames
  let canonicalRedirect :=
    match route.canonicalHostname with
    | none => []
    | some canonical =>
      let aliases := route.hostnames.filter fun hostname => hostname != canonical
      if aliases.isEmpty then []
      else
        [redirectRoute stackName routeIndex ("canonical-" ++ protocol) aliases protocol protocol
          (formatHost canonical)]
  canonicalRedirect ++ buildProxyRoutes
    { stackName, routeIndex, hostnames := proxyHostnames, rules := route.rules, trustedProxies,
      requestProtocol := protocol } resolveService

def httpRouteRoutes (stackName : String) (gateway : StackGatewaySpec)
    (resolveService : ServiceResolver) (route : HttpRouteSpec) (routeIndex : Nat) : List Route :=
  let tls := route.tls.getD gateway.tls
  let http := route.http.getD gateway.http
  let redirects :=
    if http = .redirect then
      [redirectRoute stackName routeIndex "redirect" route.hostnames "http" "https"
        ((route.canonicalHostname.map formatHost).getD "\x7bhttp.request.host\x7d")]
    else []
  let served (protocol : String) :=
    servedRoutes stackName gateway route routeIndex resolveService protocol
  redirects ++ (if tls = .serve then served "https" else [])
    ++ (if http = .serve then served "http" else [])

def stackRoutes (resolveService : ServiceResolver) (stack : String × StackGatewaySpec) :
    List Route :=
  stack.2.httpRoutes.zipIdx.flatMap fun entry =>
    httpRouteRoutes stack.1 stack.2 resolveService entry.1 entry.2

/-- Hostnames without TLS, for which no certificate is managed. -/
def skipCertificates (gateway : StackGatewaySpec) : List String :=
  gateway.httpRoutes.flatMap fun route =>
    if route.tls.getD gateway.tls = .disabled then route.hostnames else []

def generate (gateways : List (String × StackGatewaySpec)) (listen : List String)
    (resolveService : ServiceResolver) : HttpServer :=
  { listen
    routes := gateways.flatMap (stackRoutes resolveService)
      ++ [{ id := "swarmlite-unmatched", matchers := [], handle := [staticResponse 404],
            terminal := true }]
    disableRedirects := true
    skipCertificates := (Keys.ofElems (gateways.flatMap fun stack => skipCertificates stack.2)).rows }

/-- The addresses a handler forwards to. -/
def Handler.dials : Handler → List String
  | .reverseProxy upstreams _ _ _ => upstreams
  | _ => []

def Route.dials (route : Route) : List String := route.handle.flatMap Handler.dials

end Swarmlite
