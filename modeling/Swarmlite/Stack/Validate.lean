import Swarmlite.Lib.Loop
import Swarmlite.Stack.Spec

/-!
# Validation of gateway specs — `swarmlite-stack/src/lib.rs`

`validate_and_normalize` is the last step of parsing a stack: it checks the routes
against each other and against the services, and rewrites names, hosts and paths to
their normal form. What it accepts is what the controller sees.

The lemmas at the end are about the hostnames of an accepted spec: they are lower case,
no two routes share one, and a label `*` stands only in front of a wildcard.

Mirroring notes:
- The source rewrites the spec in place; here each function returns the new value.
- `with_context` puts its text before the error's, as `{:#}` prints the chain.
- Addresses, durations, integers and regular expressions are parsed by libraries
  (`StackLibraries`); no label of an address is `*`.
- `sort` and `dedup` of the hostnames are the rows of a set.
-/

namespace Swarmlite

open Ordered Loop

/-- The labels of a host. -/
def hostLabels (host : String) : List (List Char) := host.toList.splitOn '.'

/-- An address as the standard library parses and prints it. -/
structure IpAddress where
  text : String
  isIpv4 : Bool

structure StackLibraries where
  parseIpAddr : String → Except String IpAddress
  parseU8 : String → Except String Nat
  parseDuration : String → Except String Nat
  compileRegex : String → Except String Unit
  address_plain : ∀ {value address}, parseIpAddr value = .ok address → ['*'] ∉ hostLabels value

/-- Libraries that know no address. -/
def plainLibraries : StackLibraries where
  parseIpAddr _ := .error "invalid IP address syntax"
  parseU8 _ := .error "invalid digit found in string"
  parseDuration _ := .error "invalid duration"
  compileRegex _ := .ok ()
  address_plain h := nomatch h

def withContext {α : Type} (context : String) (result : Except String α) : Except String α :=
  result.mapError fun error => context ++ ": " ++ error

theorem withContext_ok {α : Type} {context : String} {result : Except String α} {value : α}
    (h : withContext context result = .ok value) : result = .ok value := by
  cases result with
  | error error => cases h
  | ok found => exact h

/-! ## Hosts and proxies -/

def privateProxyRanges : List String :=
  ["192.168.0.0/16", "172.16.0.0/12", "10.0.0.0/8", "127.0.0.1/8", "fd00::/8", "::1"]

section Libraries

variable (libraries : StackLibraries)

def normalizeTrustedProxy (normalized : Keys String) (entry : String) :
    Except String (Keys String) := do
  let proxy := Text.trim entry
  if proxy = "private_ranges" then return privateProxyRanges.foldl Table.insert normalized
  let parts := (Text.splitOnce "/" proxy).elim (proxy, none) fun parts => (parts.1, some parts.2)
  let address ← withContext (Text.quoted proxy ++ " is not an IP address or CIDR range")
    (libraries.parseIpAddr parts.1)
  match parts.2 with
  | none => return normalized.insert address.text
  | some mask =>
    let bits ← withContext (Text.quoted proxy ++ " has an invalid CIDR prefix")
      (libraries.parseU8 mask)
    let maximum := if address.isIpv4 then 32 else 128
    ensure (bits ≤ maximum)
      (Text.quoted proxy ++ " has a CIDR prefix greater than " ++ toString maximum)
    return normalized.insert (address.text ++ "/" ++ toString bits)

def normalizeTrustedProxies (proxies : List String) : Except String (List String) := do
  let normalized ← proxies.foldlM (normalizeTrustedProxy libraries) Table.empty
  return normalized.rows

def invalidLabel (label : List Char) : Bool :=
  label.isEmpty || 63 < Text.byteLength (String.ofList label) || label.head? == some '-'
    || label.getLast? == some '-' || !label.all fun c => isAsciiAlphanumeric c || c == '-'

def normalizeHostname (value : String) (allowWildcard : Bool) : Except String String :=
  let value := Text.toAsciiLowercase (Text.trim value)
  if value.isEmpty || 253 < Text.byteLength value then
    .error "hostname must contain between 1 and 253 characters"
  else if (libraries.parseIpAddr value).isOk then .ok value
  else if !allowWildcard && Text.startsWith "*." value then
    .error "backend host must not contain a wildcard"
  else
    let name := if allowWildcard then (Text.dropPrefix? "*." value).getD value else value
    if name.isEmpty || name.toList.getLast? == some '.' || (hostLabels name).any invalidLabel then
      .error ("invalid DNS hostname " ++ Text.quoted value)
    else .ok value

/-! ## Rules -/

def validateRewritePath (path : String) : Except String Unit := do
  ensure (Text.startsWith "/" path) "path must start with /"
  ensure (!(Text.contains "?" path || Text.contains "#" path || path.toList.any Text.isControl))
    "path must not contain a query, fragment, or control character"

def normalizePathMatch (pathMatch : HttpPathMatch) : Except String HttpPathMatch := do
  ensure (!(pathMatch.path.isEmpty || 2048 < Text.byteLength pathMatch.path))
    "path must contain between 1 and 2048 characters"
  ensure (!pathMatch.path.toList.any Text.isControl) "path must not contain control characters"
  match pathMatch.kind with
  | .exact =>
    validateRewritePath pathMatch.path
    return pathMatch
  | .pathPrefix =>
    validateRewritePath pathMatch.path
    if 1 < Text.byteLength pathMatch.path then
      return { pathMatch with path := Text.trimEndMatches '/' pathMatch.path }
    else return pathMatch
  | .regex =>
    withContext ("invalid RE2-compatible path regex " ++ Text.quoted pathMatch.path)
      (libraries.compileRegex pathMatch.path)
    return pathMatch

def validateRewrite (rewrite : Option HttpPathRewrite) (pathMatches : List HttpPathMatch) :
    Except String Unit :=
  match rewrite with
  | none => .ok ()
  | some rewrite => do
    ensure (rewrite.stripPrefix.toNat + rewrite.replacePrefix.isSome.toNat
        + rewrite.replacePath.isSome.toNat == 1)
      "exactly one of strip_prefix, replace_prefix, or replace_path must be set"
    if rewrite.stripPrefix || rewrite.replacePrefix.isSome then
      ensure (!pathMatches.isEmpty) "prefix rewrites require at least one path match"
      ensure (pathMatches.all fun pathMatch => pathMatch.kind = .pathPrefix)
        "strip_prefix and replace_prefix require type=prefix"
    rewrite.replacePrefix.forM validateRewritePath
    rewrite.replacePath.forM validateRewritePath

def validHttpHeaderName (name : String) : Bool :=
  !name.isEmpty && name.toList.all fun c =>
    isAsciiAlphanumeric c || "!#$%&'*+-.^_`|~".toList.contains c

def validateCacheQuery : List String → List String → Except String Unit
  | _, [] => .ok ()
  | seen, parameter :: parameters => do
    ensure (!parameter.isEmpty) "cache key.query_parameters contains an empty parameter name"
    ensure (!seen.contains parameter)
      ("cache key.query_parameters contains duplicate parameter " ++ Text.quoted parameter)
    validateCacheQuery (parameter :: seen) parameters

def validateCacheKey (key : HttpCacheKeySpec) : Except String Unit := do
  key.headers.forM fun header =>
    ensure (validHttpHeaderName header) ("cache key header " ++ Text.quoted header ++ " is invalid")
  match key.queryParameters with
  | none => return ()
  | some parameters =>
    ensure (!key.disableQuery)
      "cache key.disable_query and key.query_parameters cannot be combined"
    ensure (!parameters.isEmpty) "cache key.query_parameters must not be empty"
    validateCacheQuery [] parameters

/-- The two body limits of a cache. -/
def validateCacheBytes (field : String) (bytes : Option Nat) : Except String Unit := do
  ensure (bytes != some 0) ("cache " ++ field ++ " must be positive")
  ensure (bytes.all (· < 2 ^ 63)) ("cache " ++ field ++ " is too large")

def validateCache (cache : Option HttpCacheSpec) : Except String Unit :=
  match cache with
  | none => .ok ()
  | some cache => do
    cache.ttl.forM fun ttl => do
      let duration ← withContext ("cache ttl " ++ Text.quoted ttl ++ " is invalid")
        (libraries.parseDuration ttl)
      ensure (duration != 0) "cache ttl must be positive"
    validateCacheBytes "max_cacheable_body_bytes" cache.maxCacheableBodyBytes
    validateCacheBytes "max_request_body_bytes" cache.maxRequestBodyBytes
    cache.allowedHttpVerbs.forM fun methods => do
      ensure (!methods.isEmpty) "cache allowed_http_verbs must not be empty"
      methods.forM fun method =>
        ensure (validHttpHeaderName method && Text.toAsciiLowercase method != "connect")
          ("cache method " ++ Text.quoted method ++ " is unsupported")
    cache.key.forM validateCacheKey
    cache.statusCodes.forM fun statuses => do
      ensure (!statuses.isEmpty) "cache status_codes must not be empty"
      statuses.forM fun status =>
        ensure (200 ≤ status && status ≤ 599 && status != 304)
          ("cache status code " ++ toString status ++ " is unsupported")

/-! ## Backends -/

def declaredTcpTargets (service : ServiceSpec) : List Nat :=
  (Keys.ofElems (((service.expose ++ service.ports).filter fun port => port.protocol = "tcp").map
    ServicePort.target)).rows

/-- The port of a service backend; a service with one TCP port needs none. -/
def backendPort (service : String) (targets : List Nat) (port : Nat) : Except String Nat :=
  if port = 0 then
    match targets with
    | [target] => .ok target
    | [] => .error ("service " ++ Text.quoted service
        ++ " declares no TCP target ports; backend.port is required")
    | _ => .error ("service " ++ Text.quoted service ++ " declares multiple TCP target ports: "
        ++ ", ".intercalate (targets.map toString) ++ "; backend.port is required")
  else if targets.contains port then .ok port
  else .error ("service " ++ Text.quoted service ++ " does not declare TCP target port "
    ++ toString port ++ " in expose or ports")

def normalizeBackend (services : Map String ServiceSpec) (backend : HttpBackend) :
    Except String HttpBackend :=
  match backend.service, backend.host with
  | some service, none => do
    let service := Text.trim service
    match services.lookup service with
    | none => .error ("service " ++ Text.quoted service ++ " does not exist in this stack")
    | some spec =>
      let port ← backendPort service (declaredTcpTargets spec) backend.port
      return { backend with service := some service, port }
  | none, some host => do
    ensure (backend.port != 0) "port is required for a host backend"
    let host ← normalizeHostname libraries host false
    return { backend with host := some host }
  | some _, some _ => .error "service and host are mutually exclusive"
  | none, none => .error "one of service or host is required"

/-! ## Routes -/

/-- `tcp_routes[index]` of the spec. -/
def normalizeTcpRoute (services : Map String ServiceSpec) (index : Nat) (ports : Keys Nat)
    (route : TcpRouteSpec) : Except String (TcpRouteSpec × Keys Nat) := do
  let name := "tcp_routes[" ++ toString index ++ "]"
  ensure (!(route.listen = 0 || route.listen = 80 || route.listen = 443
      || (2019 ≤ route.listen && route.listen ≤ 2021)))
    (name ++ ".listen must be a non-reserved port in 1..=65535")
  ensure (!ports.contains route.listen)
    ("TCP listen port " ++ toString route.listen ++ " appears in more than one route")
  let service := Text.trim route.backend.service
  match services.lookup service with
  | none => .error (name ++ " refers to unknown service " ++ Text.quoted service)
  | some spec =>
    ensure spec.job.isNone (name ++ " cannot target a job")
    ensure (route.backend.port != 0 && (spec.expose ++ spec.ports).any fun port =>
        port.target = route.backend.port && port.protocol = "tcp")
      (name ++ " target port must be declared as a TCP expose/ports port")
    return ({ route with backend := { route.backend with service } }, ports.insert route.listen)

def normalizeTcpRoutes (services : Map String ServiceSpec) :
    Nat → Keys Nat → List TcpRouteSpec → Except String (List TcpRouteSpec)
  | _, _, [] => .ok []
  | index, ports, route :: routes => do
    let (route, ports) ← normalizeTcpRoute services index ports route
    let routes ← normalizeTcpRoutes services (index + 1) ports routes
    return route :: routes

/-- The hostnames of a route; those seen before belong to earlier routes or stand
earlier in this one. -/
def normalizeHostnames (context : String) :
    List String → List String → Except String (List String × List String)
  | seen, [] => .ok ([], seen)
  | seen, hostname :: hostnames => do
    let hostname ← withContext context (normalizeHostname libraries hostname true)
    ensure (!seen.contains hostname)
      ("hostname " ++ Text.quoted hostname ++ " appears in more than one route")
    let (hostnames, seen) ← normalizeHostnames context (hostname :: seen) hostnames
    return (hostname :: hostnames, seen)

def normalizeRule (services : Map String ServiceSpec) (name : String) (rule : HttpRouteRule) :
    Except String HttpRouteRule := do
  let pathMatches ← rule.pathMatches.mapM fun pathMatch =>
    withContext ("invalid " ++ name ++ " match") (normalizePathMatch libraries pathMatch)
  withContext ("invalid " ++ name ++ ".rewrite") (validateRewrite rule.rewrite pathMatches)
  withContext ("invalid " ++ name ++ ".cache") (validateCache libraries rule.cache)
  let backend ← withContext ("invalid " ++ name ++ ".backend")
    (normalizeBackend libraries services rule.backend)
  return { rule with pathMatches, backend }

def normalizeRules (services : Map String ServiceSpec) (name : String) :
    Nat → Bool → List HttpRouteRule → Except String (List HttpRouteRule)
  | _, _, [] => .ok []
  | index, fallbackSeen, rule :: rules => do
    ensure (!(rule.pathMatches.isEmpty && fallbackSeen))
      (name ++ " contains more than one fallback rule")
    let rule ← normalizeRule libraries services (name ++ ".rules[" ++ toString index ++ "]") rule
    let rules ← normalizeRules services name (index + 1)
      (fallbackSeen || rule.pathMatches.isEmpty) rules
    return rule :: rules

/-- `http_routes[index]` of the spec, with the hostnames seen so far. -/
def normalizeHttpRoute (services : Map String ServiceSpec) (gateway : StackGatewaySpec)
    (index : Nat) (seen : List String) (route : HttpRouteSpec) :
    Except String (HttpRouteSpec × List String) := do
  let name := "http_routes[" ++ toString index ++ "]"
  ensure (!route.hostnames.isEmpty) (name ++ ".hostnames must not be empty")
  let (hostnames, seen) ← normalizeHostnames libraries
    (name ++ ".hostnames contains an invalid host") seen route.hostnames
  let hostnames := (Keys.ofElems hostnames).rows
  let canonicalHostname ← route.canonicalHostname.mapM fun canonical => do
    let canonical ← withContext (name ++ ".canonical_hostname contains an invalid host")
      (normalizeHostname libraries canonical false)
    ensure (hostnames.contains canonical)
      (name ++ ".canonical_hostname must appear in hostnames")
    return canonical
  let tls := route.tls.getD gateway.tls
  let http := route.http.getD gateway.http
  ensure (!(tls = .disabled && http = .disabled)) (name ++ " disables both TLS and HTTP")
  ensure (!(http = .redirect && tls ≠ .serve)) (name ++ ".http=redirect requires tls=serve")
  let trustedProxies ← route.trustedProxies.mapM fun proxies =>
    withContext ("invalid " ++ name ++ ".trusted_proxies")
      (normalizeTrustedProxies libraries proxies)
  ensure (!route.rules.isEmpty) (name ++ ".rules must not be empty")
  let rules ← normalizeRules libraries services name 0 false route.rules
  return ({ route with hostnames, canonicalHostname, trustedProxies, rules }, seen)

def normalizeHttpRoutes (services : Map String ServiceSpec) (gateway : StackGatewaySpec) :
    Nat → List String → List HttpRouteSpec → Except String (List HttpRouteSpec)
  | _, _, [] => .ok []
  | index, seen, route :: routes => do
    let (route, seen) ← normalizeHttpRoute libraries services gateway index seen route
    let routes ← normalizeHttpRoutes services gateway (index + 1) seen routes
    return route :: routes

def validateAndNormalize (services : Map String ServiceSpec) (gateway : StackGatewaySpec) :
    Except String StackGatewaySpec := do
  let trustedProxies ← withContext "invalid trusted_proxies"
    (normalizeTrustedProxies libraries gateway.trustedProxies)
  let tcpRoutes ← normalizeTcpRoutes services 0 Table.empty gateway.tcpRoutes
  let httpRoutes ← normalizeHttpRoutes libraries services gateway 0 [] gateway.httpRoutes
  return { gateway with trustedProxies, tcpRoutes, httpRoutes }

end Libraries

/-! ## The hostnames of an accepted spec -/

theorem star_not_mem {name : String} (h : (hostLabels name).any invalidLabel = false) :
    ['*'] ∉ hostLabels name := by
  intro hstar
  exact List.any_eq_false.mp h _ hstar (by decide)

/-- A wildcard for one label, in front of a name. -/
def isWildcard (hostname : String) : Bool := Text.startsWith "*." hostname

/-- The normal form of a hostname. -/
structure HostnameNormal (hostname : String) : Prop where
  lower : Text.toAsciiLowercase hostname = hostname
  plain : isWildcard hostname = false → ['*'] ∉ hostLabels hostname

/-- What validation establishes about the hostnames of one route. -/
structure HostsNormal (route : HttpRouteSpec) : Prop where
  nonempty : route.hostnames ≠ []
  normal : ∀ hostname ∈ route.hostnames, HostnameNormal hostname
  canonical : ∀ hostname, route.canonicalHostname = some hostname → hostname ∈ route.hostnames

section Hostnames

variable {libraries : StackLibraries} {services : Map String ServiceSpec}
  {gateway : StackGatewaySpec}

theorem normalizeHostname_normal {value hostname : String} {allowWildcard : Bool}
    (h : normalizeHostname libraries value allowWildcard = .ok hostname) :
    HostnameNormal hostname := by
  have hlow := Text.toAsciiLowercase_idem (Text.trim value)
  unfold normalizeHostname at h
  dsimp only at h
  generalize Text.toAsciiLowercase (Text.trim value) = lowered at h hlow
  split at h
  · cases h
  split at h
  next hadd =>
    cases h
    refine ⟨hlow, fun _ => ?_⟩
    cases hpar : libraries.parseIpAddr hostname with
    | error error =>
      rw [hpar] at hadd
      cases hadd
    | ok address => exact libraries.address_plain hpar
  · split at h
    · cases h
    · generalize hname : (if allowWildcard = true then
        (Text.dropPrefix? "*." lowered).getD lowered else lowered) = name at h
      split at h
      · cases h
      next hlab =>
        cases h
        refine ⟨hlow, fun hpla => ?_⟩
        -- without the wildcard in front, the labels checked are those of the whole value
        have hwho : (Text.dropPrefix? "*." hostname).getD hostname = hostname := by
          unfold Text.dropPrefix?
          rw [show Text.startsWith "*." hostname = false from hpla]
          rfl
        rw [hwho, ite_self] at hname
        subst hname
        simp only [Bool.or_eq_true, not_or, Bool.not_eq_true] at hlab
        exact star_not_mem hlab.2

/-- The hostnames are normal and were not seen before; all of them are seen after. -/
theorem normalizeHostnames_ok {context : String} {hostnames seen : List String}
    {out : List String × List String}
    (h : normalizeHostnames libraries context seen hostnames = .ok out) :
    out.1.length = hostnames.length ∧
      (∀ hostname ∈ out.1, HostnameNormal hostname ∧ hostname ∉ seen ∧ hostname ∈ out.2) ∧
      ∀ hostname ∈ seen, hostname ∈ out.2 := by
  induction hostnames generalizing seen out with
  | nil =>
    cases h
    exact ⟨rfl, fun _ hmem => absurd hmem List.not_mem_nil, fun _ hmem => hmem⟩
  | cons hostname hostnames ih =>
    rw [normalizeHostnames] at h
    obtain ⟨first, hfir, h⟩ := bind_ok h
    obtain ⟨_, hnew, h⟩ := bind_ok h
    obtain ⟨rest, hrest, h⟩ := bind_ok h
    cases h
    obtain ⟨hlen, hnor, hseen⟩ := ih hrest
    have hnew : first ∉ seen := by simpa using ensure_ok hnew
    refine ⟨congrArg (· + 1) hlen, fun found hfou => ?_,
      fun found hfou => hseen found (List.mem_cons_of_mem _ hfou)⟩
    rcases List.mem_cons.mp hfou with heq | hfou
    · subst heq
      exact ⟨normalizeHostname_normal (withContext_ok hfir), hnew, hseen _ (List.mem_cons_self ..)⟩
    · obtain ⟨hpla, huns, hout⟩ := hnor found hfou
      exact ⟨hpla, fun hmem => huns (List.mem_cons_of_mem _ hmem), hout⟩

theorem normalizeHttpRoute_ok {index : Nat} {seen : List String}
    {route : HttpRouteSpec} {out : HttpRouteSpec × List String}
    (h : normalizeHttpRoute libraries services gateway index seen route = .ok out) :
    HostsNormal out.1 ∧ (∀ hostname ∈ out.1.hostnames, hostname ∉ seen ∧ hostname ∈ out.2) ∧
      ∀ hostname ∈ seen, hostname ∈ out.2 := by
  unfold normalizeHttpRoute at h
  obtain ⟨_, hsome, h⟩ := bind_ok h
  obtain ⟨named, hnam, h⟩ := bind_ok h
  obtain ⟨canonical, hcan, h⟩ := bind_ok h
  obtain ⟨_, -, h⟩ := bind_ok h
  obtain ⟨_, -, h⟩ := bind_ok h
  obtain ⟨_, -, h⟩ := bind_ok h
  obtain ⟨_, -, h⟩ := bind_ok h
  obtain ⟨_, -, h⟩ := bind_ok h
  cases h
  obtain ⟨hlen, hnor, hseen⟩ := normalizeHostnames_ok hnam
  have hrows {hostname : String} : hostname ∈ (Keys.ofElems named.1).rows ↔ hostname ∈ named.1 := by
    rw [Table.mem_rows, Keys.mem_ofElems]
  refine ⟨⟨fun hemp => ?_, fun hostname hhost => (hnor hostname (hrows.mp hhost)).1,
    fun hostname heq => ?_⟩, fun hostname hhost => (hnor hostname (hrows.mp hhost)).2, hseen⟩
  · have hemp : (Keys.ofElems named.1).rows = [] := hemp
    have hnil : named.1 = [] := List.eq_nil_iff_forall_not_mem.mpr fun hostname hhost =>
      List.not_mem_nil (hemp ▸ hrows.mpr hhost)
    rw [hnil] at hlen
    rw [List.length_eq_zero_iff.mp hlen.symm] at hsome
    exact absurd (ensure_ok hsome) (by decide)
  · subst heq
    cases hrou : route.canonicalHostname with
    | none =>
      rw [hrou] at hcan
      cases hcan
    | some declared =>
      rw [hrou, Option.mapM_some] at hcan
      obtain ⟨found, hfou, heq⟩ := map_ok hcan
      cases heq
      obtain ⟨_, -, hfou⟩ := bind_ok hfou
      obtain ⟨_, hcon, hfou⟩ := bind_ok hfou
      cases hfou
      simpa using ensure_ok hcon

theorem normalizeHttpRoutes_ok :
    ∀ {routes : List HttpRouteSpec} {index : Nat} {seen : List String} {out : List HttpRouteSpec},
      normalizeHttpRoutes libraries services gateway index seen routes = .ok out →
      (∀ route ∈ out, HostsNormal route ∧ ∀ hostname ∈ route.hostnames, hostname ∉ seen) ∧
        out.Pairwise fun a b => a.hostnames.Disjoint b.hostnames
  | [], _, _, out, h => by
    cases h
    exact ⟨fun _ hmem => absurd hmem List.not_mem_nil, List.Pairwise.nil⟩
  | route :: routes, index, seen, out, h => by
    unfold normalizeHttpRoutes at h
    obtain ⟨first, hfir, h⟩ := bind_ok h
    obtain ⟨rest, hrest, h⟩ := bind_ok h
    cases h
    obtain ⟨hnor, hnew, hseen⟩ := normalizeHttpRoute_ok hfir
    obtain ⟨hall, hdis⟩ := normalizeHttpRoutes_ok hrest
    refine ⟨fun found hfou => ?_, List.pairwise_cons.mpr ⟨fun found hfou => ?_, hdis⟩⟩
    · rcases List.mem_cons.mp hfou with heq | hfou
      · subst heq
        exact ⟨hnor, fun hostname hhost => (hnew hostname hhost).1⟩
      · obtain ⟨hhos, huns⟩ := hall found hfou
        exact ⟨hhos, fun hostname hhost hmem => huns hostname hhost (hseen hostname hmem)⟩
    · intro hostname hhost hoth
      exact (hall found hfou).2 hostname hoth (hnew hostname hhost).2

/-- **The hostnames of an accepted spec are normal, and no two routes share one.** -/
theorem validateAndNormalize_hosts {raw gateway : StackGatewaySpec}
    (h : validateAndNormalize libraries services raw = .ok gateway) :
    (∀ route ∈ gateway.httpRoutes, HostsNormal route) ∧
      gateway.httpRoutes.Pairwise fun a b => a.hostnames.Disjoint b.hostnames := by
  unfold validateAndNormalize at h
  obtain ⟨_, -, h⟩ := bind_ok h
  obtain ⟨_, -, h⟩ := bind_ok h
  obtain ⟨routes, hrou, h⟩ := bind_ok h
  cases h
  obtain ⟨hall, hdis⟩ := normalizeHttpRoutes_ok hrou
  exact ⟨fun route hrout => (hall route hrout).1, hdis⟩

end Hostnames

end Swarmlite
