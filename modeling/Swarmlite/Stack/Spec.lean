import Mathlib.Data.String.Basic
import Swarmlite.Lib.Table
import Swarmlite.Lib.Text

/-!
# Stack specifications — `swarmlite-stack/src/lib.rs`, `jobs.rs`, `compose.rs`

What a stack file becomes once it is parsed: service specs and the gateway
spec. Every field is kept, because the controller compares whole specs
(`previous.spec != *next`) to decide whether a service changed, and a field
left out would turn a change into a non-change.

Mirroring notes:
- `u16`, `u32` and `u64` are `Nat`, `i64` is `Int`; where the source checks
  for overflow the check is written out at that place.
- `BTreeMap` and `BTreeSet` are the ordered tables of `Lib.Table`.
- The cron expression and time zone of a job are opaque strings: the only
  thing the controller computes from them is `next_after`, which is an
  external function of the model (`Externals.nextAfter`).
-/

namespace Swarmlite

open Ordered

/-! ## Names -/

/-- `char::is_ascii_alphanumeric`. -/
def isAsciiAlphanumeric (c : Char) : Bool :=
  ('a' ≤ c && c ≤ 'z') || ('A' ≤ c && c ≤ 'Z') || ('0' ≤ c && c ≤ '9')

/-- The test of `validate_stack_name`, also applied to job names. Service names
are the keys of the `services` mapping and are not checked at all. -/
def validateStackName (name : String) : Bool :=
  !name.toList.isEmpty
    && name.toList.all fun c => isAsciiAlphanumeric c || c == '-' || c == '_' || c == '.'

def validateStackNameError : String :=
  "stack name may contain only letters, numbers, '.', '-' and '_'"

/-! ## Services -/

inductive PullPolicy where
  | always
  | missing
  | never
deriving DecidableEq

/-- An image without a digest whose tag is `latest` or absent. -/
def imageUsesLatestTag (image : String) : Bool :=
  if Text.contains "@" image then false
  else
    let name := ((Text.rsplitOnce '/' image).map Prod.snd).getD image
    match Text.rsplitOnce ':' name with
    | some (_, tag) => tag == "latest"
    | none => true

/-- Whether an apply asks the nodes to look for a newer image under the same
reference. -/
def PullPolicy.refreshesCachedImage (policy : PullPolicy) (image : String) : Bool :=
  match policy with
  | .always => true
  | .missing => imageUsesLatestTag image
  | .never => false

structure ServicePort where
  target : Nat
  published : Option Nat
  protocol : String
deriving DecidableEq

structure ServiceConfigMount where
  source : String
  target : String
  uid : Option Nat
  gid : Option Nat
  mode : Nat
  digest : String
deriving DecidableEq

structure HealthcheckSpec where
  test : List String
  intervalNanos : Option Int
  timeoutNanos : Option Int
  retries : Option Int
  startPeriodNanos : Option Int
  startIntervalNanos : Option Int
deriving DecidableEq

structure ContainerRuntimeSpec where
  user : Option String := none
  readOnly : Bool := false
  capAdd : List String := []
  capDrop : List String := []
  noNewPrivileges : Bool := false
  tmpfs : Map String String := Table.empty
  pidsLimit : Option Int := none
  nanoCpus : Option Int := none
  memoryBytes : Option Int := none
  memorySwapBytes : Option Int := none
deriving DecidableEq

/-- Schedule policy of a job; a job without a schedule only runs on request. -/
structure JobSpec where
  schedule : Option String
  timeZone : String
  suspend : Bool
  timeoutSeconds : Option Nat
deriving DecidableEq

structure ServiceSpec where
  image : String
  pullPolicy : PullPolicy := .missing
  command : List String := []
  entrypoint : List String := []
  environment : List String := []
  expose : List ServicePort := []
  ports : List ServicePort := []
  volumes : List String := []
  configs : List ServiceConfigMount := []
  containerLabels : Map String String := Table.empty
  serviceLabels : Map String String := Table.empty
  healthcheck : Option HealthcheckSpec := none
  replicas : Nat := 1
  constraints : List String := []
  maxReplicasPerNode : Option Nat := none
  maxSurge : Nat := 1
  stopGracePeriodSeconds : Nat := 10
  stopSignal : Option String := none
  container : ContainerRuntimeSpec := {}
  job : Option JobSpec := none
deriving DecidableEq

/-- `service_config_digests`: the distinct config digests, in order. -/
def serviceConfigDigests (spec : ServiceSpec) : List String :=
  (Keys.ofElems (spec.configs.map ServiceConfigMount.digest)).rows

/-! ## Gateway routes -/

inductive GatewayTlsMode where
  | serve
  | disabled
deriving DecidableEq

inductive GatewayHttpMode where
  | redirect
  | serve
  | disabled
deriving DecidableEq

inductive HttpPathMatchType where
  | exact
  | pathPrefix
  | regex
deriving DecidableEq

inductive HttpBackendProtocol where
  | http
  | https
  | h2c
deriving DecidableEq

structure HttpPathMatch where
  path : String
  kind : HttpPathMatchType := .pathPrefix
  ignoreCase : Bool := false
deriving DecidableEq

structure HttpPathRewrite where
  stripPrefix : Bool := false
  replacePrefix : Option String := none
  replacePath : Option String := none
deriving DecidableEq

structure HttpCacheKeySpec where
  disableQuery : Bool := false
  headers : List String := []
  queryParameters : Option (List String) := none
deriving DecidableEq

structure HttpCacheSpec where
  ttl : Option String := none
  allowedHttpVerbs : Option (List String) := none
  maxCacheableBodyBytes : Option Nat := none
  maxRequestBodyBytes : Option Nat := none
  key : Option HttpCacheKeySpec := none
  statusCodes : Option (List Nat) := none
deriving DecidableEq

/-- A backend names a service of the stack or an external host. The parser
accepts exactly one of the two. -/
structure HttpBackend where
  service : Option String := none
  host : Option String := none
  port : Nat
  protocol : HttpBackendProtocol := .http
  preserveHost : Bool := true
deriving DecidableEq

structure HttpRouteRule where
  pathMatches : List HttpPathMatch := []
  rewrite : Option HttpPathRewrite := none
  cache : Option HttpCacheSpec := none
  backend : HttpBackend
deriving DecidableEq

structure HttpRouteSpec where
  hostnames : List String
  canonicalHostname : Option String := none
  tls : Option GatewayTlsMode := none
  http : Option GatewayHttpMode := none
  trustedProxies : Option (List String) := none
  rules : List HttpRouteRule
deriving DecidableEq

structure TcpBackend where
  service : String
  port : Nat
deriving DecidableEq

structure TcpRouteSpec where
  listen : Nat
  backend : TcpBackend
deriving DecidableEq

structure StackGatewaySpec where
  tls : GatewayTlsMode := .serve
  http : GatewayHttpMode := .redirect
  trustedProxies : List String := []
  httpRoutes : List HttpRouteSpec := []
  tcpRoutes : List TcpRouteSpec := []
deriving DecidableEq

def StackGatewaySpec.hasRoutes (gateway : StackGatewaySpec) : Bool :=
  !gateway.httpRoutes.isEmpty || !gateway.tcpRoutes.isEmpty

def StackGatewaySpec.listens (gateway : StackGatewaySpec) : List Nat :=
  gateway.tcpRoutes.map TcpRouteSpec.listen

/-- The ports the gateways need themselves, and the one that is none. -/
def reservedPort (listen : Nat) : Bool :=
  listen = 0 || listen = 80 || listen = 443 || (2019 ≤ listen && listen ≤ 2021)

/-- The rules of all HTTP routes, in order. -/
def StackGatewaySpec.httpRules (gateway : StackGatewaySpec) : List HttpRouteRule :=
  gateway.httpRoutes.flatMap HttpRouteSpec.rules

/-- The target ports under which HTTP routes reach a service. -/
def httpRoutedServicePorts (gateway : StackGatewaySpec) (serviceName : String) : Keys Nat :=
  Keys.ofElems (gateway.httpRules.filterMap fun rule =>
    if rule.backend.service = some serviceName then some rule.backend.port else none)

/-- The target ports under which any route reaches a service. -/
def routedServicePorts (gateway : StackGatewaySpec) (serviceName : String) : Keys Nat :=
  Keys.ofElems ((httpRoutedServicePorts gateway serviceName).rows
    ++ gateway.tcpRoutes.filterMap fun route =>
      if route.backend.service = serviceName then some route.backend.port else none)

/-- The controller's input: the parsed services and the normalised routes. -/
structure ParsedStack where
  services : Map String ServiceSpec := Table.empty
  gateway : StackGatewaySpec := {}
deriving DecidableEq

end Swarmlite
