import Mathlib.Data.List.Find
import Swarmlite.Gateway.Requests

/-!
# Which declared route answers a request — `swarmlite-stack/src/lib.rs`, `generate`

`generate` puts the routes of all stacks one after another, and Caddy takes the first that
matches. `attributedRoutes` is the same list with the declared route each generated route
stems from, so "the route of whom" is a question about positions and not about names.

A declared route gives several generated ones: redirects, and a proxy route for each path
match of each rule and protocol. `DeclaredRoute.answers` says directly from the spec whether
one of them accepts a request, and the owner of a request is the first declared route that
answers it (`ownerOf_eq`).

Hostnames are compared for equality when a stack is applied, so `api.x.io` and `*.x.io` may
belong to different stacks, and nothing sorts the exact name before the wildcard. A request
for an exact host therefore stays with the route that declares it exactly when no route with
a wildcard for that host answers it first.
-/

namespace Swarmlite

open Ordered Loop

/-! ## Declared routes -/

/-- An HTTP route of a stack, with its position in the stack's spec. -/
structure DeclaredRoute where
  stack : String
  gateway : StackGatewaySpec
  index : Nat
  route : HttpRouteSpec
deriving DecidableEq

def declaredRoutes (gateways : List (String × StackGatewaySpec)) : List DeclaredRoute :=
  gateways.flatMap fun stack =>
    stack.2.httpRoutes.zipIdx.map fun entry => ⟨stack.1, stack.2, entry.2, entry.1⟩

def DeclaredRoute.generated (resolveService : ServiceResolver) (declared : DeclaredRoute) :
    List Route :=
  httpRouteRoutes declared.stack declared.gateway resolveService declared.route declared.index

/-- The route that takes what no stack takes. -/
def unmatchedRoute : Route :=
  { id := "swarmlite-unmatched", matchers := [], handle := [staticResponse 404], terminal := true }

/-- The generated routes, each with the declared route it belongs to. -/
def attributedRoutes (resolveService : ServiceResolver)
    (gateways : List (String × StackGatewaySpec)) : List (Option DeclaredRoute × Route) :=
  ((declaredRoutes gateways).flatMap fun declared =>
    (declared.generated resolveService).map fun route => (some declared, route))
    ++ [(none, unmatchedRoute)]

section Requests

variable (caddy : Caddy) (request : HttpRequest)

/-- The declared route of the first generated route that accepts the request, if it is not
the unmatched route. -/
def ownerOf (resolveService : ServiceResolver) (gateways : List (String × StackGatewaySpec)) :
    Option DeclaredRoute :=
  ((attributedRoutes resolveService gateways).find? fun entry =>
    entry.2.accepts caddy request).bind Prod.fst

/-! ## What a declared route answers -/

def covers (hostnames : List String) : Bool :=
  hostnames.any fun hostname => hostMatches hostname request.host

def HttpRouteRule.takes (rule : HttpRouteRule) : Bool :=
  rule.pathMatches.isEmpty
    || rule.pathMatches.any fun pathMatch => caddy.pathRegexp (pathPattern pathMatch) request.path

/-- Over a served protocol, an alias is redirected to the canonical name, and what is
addressed to the route's names goes by the rules. -/
def HttpRouteSpec.serves (route : HttpRouteSpec) : Bool :=
  match route.canonicalHostname with
  | none => covers request route.hostnames && route.rules.any fun rule => rule.takes caddy request
  | some canonical =>
    covers request (route.hostnames.filter fun hostname => hostname != canonical)
      || covers request [canonical] && route.rules.any fun rule => rule.takes caddy request

def DeclaredRoute.answers (declared : DeclaredRoute) : Bool :=
  let tls := declared.route.tls.getD declared.gateway.tls
  let http := declared.route.http.getD declared.gateway.http
  http = .redirect && request.protocol = "http" && covers request declared.route.hostnames
    || tls = .serve && request.protocol = "https" && declared.route.serves caddy request
    || http = .serve && request.protocol = "http" && declared.route.serves caddy request

/-- One of the route's wildcards covers the host of the request. -/
def DeclaredRoute.wildcardCovers (declared : DeclaredRoute) : Bool :=
  declared.route.hostnames.any fun hostname =>
    isWildcard hostname && hostMatches hostname request.host

end Requests

variable {caddy : Caddy} {request : HttpRequest}

variable {protocol : String} {resolveService : ServiceResolver} {first second : String}

theorem accepts_single {route : Route} {host : List String} {pathRegexp : Option String}
    (h : route.matchers = [{ host, protocol := some protocol, pathRegexp }]) (hhost : host ≠ []) :
    route.accepts caddy request = (covers request host && request.protocol = protocol
      && pathRegexp.all fun pattern => caddy.pathRegexp pattern request.path) := by
  unfold Route.accepts
  rw [h, List.any_cons, List.any_nil, Bool.or_false, List.isEmpty_cons, Bool.false_or]
  unfold RequestMatcher.accepts covers
  rw [Option.all_some, List.isEmpty_eq_false_iff.mpr hhost, Bool.false_or]
  congr 2
  exact decide_eq_decide.mpr eq_comm

theorem any_redirectRoute {stackName idSuffix targetProtocol targetHost : String}
    {routeIndex : Nat} {hostnames : List String} (hhos : hostnames ≠ []) :
    [redirectRoute stackName routeIndex idSuffix hostnames protocol targetProtocol targetHost].any
        (fun route => route.accepts caddy request)
      = (covers request hostnames && request.protocol = protocol) := by
  rw [List.any_cons, List.any_nil, Bool.or_false, accepts_single rfl hhos]
  exact Bool.and_true _

theorem any_expandRule (p : Option HttpPathMatch → Bool) (ruleIndex : Nat) (rule : HttpRouteRule) :
    ((expandRule ruleIndex rule).any fun expanded => p (expanded.pathMatch.map Prod.snd))
      = if rule.pathMatches.isEmpty then p none
          else rule.pathMatches.any fun pathMatch => p (some pathMatch) := by
  unfold expandRule
  split
  · exact Bool.or_false _
  · rw [List.any_map]
    conv_rhs => rw [← List.zipIdx_map_fst 0 rule.pathMatches, List.any_map]
    rfl

/-- Sorting the matches by precedence does not change whether one of them applies. -/
theorem any_expandRules (p : Option HttpPathMatch → Bool) (rules : List HttpRouteRule) :
    ((expandRules rules).any fun expanded => p (expanded.pathMatch.map Prod.snd))
      = rules.any fun rule => if rule.pathMatches.isEmpty then p none
          else rule.pathMatches.any fun pathMatch => p (some pathMatch) := by
  unfold expandRules
  rw [(List.perm_insertionSort ..).any_eq, List.any_flatMap]
  simp only [any_expandRule]
  conv_rhs => rw [← List.zipIdx_map_fst 0 rules, List.any_map]
  rfl

theorem any_buildProxyRoutes {cfg : ProxyRouteConfig} (hhos : cfg.hostnames ≠ []) :
    (buildProxyRoutes cfg resolveService).any (fun route => route.accepts caddy request)
      = (covers request cfg.hostnames && request.protocol = cfg.requestProtocol
        && cfg.rules.any fun rule => rule.takes caddy request) := by
  have hrule (rule : HttpRouteRule) : rule.takes caddy request
      = if rule.pathMatches.isEmpty then true else rule.pathMatches.any fun pathMatch =>
          caddy.pathRegexp (pathPattern pathMatch) request.path := by
    unfold HttpRouteRule.takes
    cases rule.pathMatches.isEmpty <;> rfl
  have hrou (expanded : ExpandedRule) :
      (proxyRoute cfg resolveService expanded).accepts caddy request
        = (covers request cfg.hostnames && request.protocol = cfg.requestProtocol
          && (expanded.pathMatch.map Prod.snd).all fun pathMatch =>
            caddy.pathRegexp (pathPattern pathMatch) request.path) := by
    rw [accepts_single rfl hhos, Option.all_map]
  unfold buildProxyRoutes
  rw [List.any_map]
  simp only [Function.comp_def, hrou, hrule]
  rw [← List.and_any_distrib_left]
  exact congrArg _ (any_expandRules (fun pathMatch => pathMatch.all fun pathMatch =>
    caddy.pathRegexp (pathPattern pathMatch) request.path) cfg.rules)

theorem any_servedRoutes {stackName : String} {gateway : StackGatewaySpec} {route : HttpRouteSpec}
    {routeIndex : Nat} (hhos : route.hostnames ≠ []) :
    (servedRoutes stackName gateway route routeIndex resolveService protocol).any
        (fun route => route.accepts caddy request)
      = (request.protocol = protocol && route.serves caddy request) := by
  unfold servedRoutes HttpRouteSpec.serves
  rw [List.any_append]
  cases route.canonicalHostname with
  | none =>
    rw [any_buildProxyRoutes hhos]
    show (false || _) = _
    rw [Bool.false_or]
    dsimp only [Option.map_none, Option.getD_none]
    ac_rfl
  | some canonical =>
    rw [any_buildProxyRoutes (List.cons_ne_nil _ _)]
    dsimp only [Option.map_some, Option.getD_some]
    split
    next hnone =>
      rw [List.isEmpty_iff.mp hnone]
      show (false || _) = (_ && (false || _))
      rw [Bool.false_or, Bool.false_or]
      ac_rfl
    next hsome =>
      rw [any_redirectRoute (fun hnil => hsome (List.isEmpty_iff.mpr hnil)),
        Bool.and_right_comm, ← Bool.and_or_distrib_right, Bool.and_comm]

/-- **What the spec says about a request is what the generated routes do with it.** -/
theorem any_generated {declared : DeclaredRoute} (hhos : declared.route.hostnames ≠ []) :
    (declared.generated resolveService).any (fun route => route.accepts caddy request)
      = declared.answers caddy request := by
  have hif {c : Prop} [Decidable c] (routes : List Route) :
      (if c then routes else []).any (fun route => route.accepts caddy request)
        = (decide c && routes.any fun route => route.accepts caddy request) := by
    split
    next h => rw [decide_eq_true h, Bool.true_and]
    next h => rw [decide_eq_false h, Bool.false_and, List.any_nil]
  unfold DeclaredRoute.generated httpRouteRoutes DeclaredRoute.answers
  dsimp only
  rw [List.any_append, List.any_append, hif, hif, hif, any_redirectRoute hhos,
    any_servedRoutes hhos, any_servedRoutes hhos]
  ac_rfl

/-! ## The owner of a request -/

/-- The first entry of a tagged concatenation that satisfies `p` belongs to the first block
that has one. -/
theorem find_tagged {α β : Type} (block : α → List β) (p : β → Bool) (last : β)
    (hlast : p last = true) (l : List α) :
    (((l.flatMap fun a => (block a).map fun b => (some a, b)) ++ [(none, last)]).find?
        fun entry : Option α × β => p entry.2).bind Prod.fst
      = l.find? fun a => (block a).any p := by
  induction l with
  | nil => simp [hlast]
  | cons a l ih =>
    rw [List.flatMap_cons, List.append_assoc, List.find?_append, List.find?_map]
    cases hfir : (block a).find? p with
    | some b =>
      have hany : (block a).any p = true := by
        rw [List.any_eq_true]
        exact ⟨b, List.mem_of_find?_eq_some hfir, List.find?_some hfir⟩
      rw [List.find?_cons_of_pos (p := fun a => (block a).any p) hany]
      show (((block a).find? p).map _ |>.or _).bind Prod.fst = _
      rw [hfir]
      rfl
    | none =>
      have hany : ¬ (block a).any p = true := by
        simpa using List.find?_eq_none.mp hfir
      rw [List.find?_cons_of_neg (p := fun a => (block a).any p) hany, ← ih]
      show (((block a).find? p).map _ |>.or _).bind Prod.fst = _
      rw [hfir]
      rfl

/-- The search ends at an element, or finds nothing, when nothing before it satisfies `p`,
and it does or nothing after it does. -/
theorem find_middle {α : Type} {p : α → Bool} {before after : List α} {x : α}
    (hbef : x ∉ before) (haft : x ∉ after) :
    ((before ++ x :: after).find? p = some x ∨ (before ++ x :: after).find? p = none) ↔
      (∀ y ∈ before, p y = false) ∧ (p x = true ∨ ∀ y ∈ after, p y = false) := by
  rw [List.find?_append]
  cases hfir : before.find? p with
  | some y =>
    have hmem := List.mem_of_find?_eq_some hfir
    constructor
    · intro hfou
      rcases hfou with hfou | hfou
      · exact absurd (Option.some.inj hfou ▸ hmem) hbef
      · cases hfou
    · intro hsil
      exact absurd (List.find?_some hfir) (by rw [hsil.1 y hmem]; exact Bool.false_ne_true)
  | none =>
    have hnone : ∀ y ∈ before, p y = false := by simpa using List.find?_eq_none.mp hfir
    rw [Option.none_or]
    by_cases hself : p x = true
    · rw [List.find?_cons_of_pos hself]
      exact ⟨fun _ => ⟨hnone, .inl hself⟩, fun _ => .inl rfl⟩
    · rw [List.find?_cons_of_neg hself]
      constructor
      · intro hfou
        refine ⟨hnone, .inr ?_⟩
        rcases hfou with hfou | hfou
        · exact absurd (List.mem_of_find?_eq_some hfou) haft
        · simpa using List.find?_eq_none.mp hfou
      · intro hsil
        refine .inr (List.find?_eq_none.mpr fun y hmem => ?_)
        rw [hsil.2.resolve_left hself y hmem]
        exact Bool.false_ne_true

section Owner

variable {resolveService : ServiceResolver} {gateways : List (String × StackGatewaySpec)}

theorem ownerOf_eq (hhos : ∀ declared ∈ declaredRoutes gateways, declared.route.hostnames ≠ []) :
    ownerOf caddy request resolveService gateways
      = (declaredRoutes gateways).find? fun declared => declared.answers caddy request := by
  have hfind := find_tagged (fun declared : DeclaredRoute => declared.generated resolveService)
    (fun route => route.accepts caddy request) unmatchedRoute rfl (declaredRoutes gateways)
  exact hfind.trans (List.find?_congr fun declared hmem => any_generated (hhos declared hmem))

/-- The specs passed validation, each with its own services. -/
def Validated (gateways : List (String × StackGatewaySpec)) : Prop :=
  ∀ stack ∈ gateways, ∃ libraries services raw,
    validateAndNormalize libraries services raw = .ok stack.2

/-- No hostname is declared by two of the stacks. -/
def DisjointHosts (gateways : List (String × StackGatewaySpec)) : Prop :=
  gateways.Pairwise fun a b => ∀ route ∈ a.2.httpRoutes, ∀ other ∈ b.2.httpRoutes,
    route.hostnames.Disjoint other.hostnames

variable {declared : DeclaredRoute}

theorem Validated.hosts (h : Validated gateways)
    (hdec : declared ∈ declaredRoutes gateways) : HostsNormal declared.route := by
  obtain ⟨stack, hsta, hrou⟩ := List.mem_flatMap.mp hdec
  obtain ⟨entry, hent, rfl⟩ := List.mem_map.mp hrou
  obtain ⟨libraries, services, raw, hok⟩ := h stack hsta
  exact (validateAndNormalize_hosts hok).1 _ (List.fst_mem_of_mem_zipIdx hent)

/-- No two declared routes share a hostname: within a stack by validation, between stacks
by ownership. -/
theorem Validated.pairwise (h : Validated gateways) (hdis : DisjointHosts gateways) :
    (declaredRoutes gateways).Pairwise fun a b =>
      a.route.hostnames.Disjoint b.route.hostnames := by
  unfold declaredRoutes
  rw [List.pairwise_flatMap]
  refine ⟨fun stack hsta => ?_, hdis.imp fun hpair declared hdec other hoth => ?_⟩
  · obtain ⟨libraries, services, raw, hok⟩ := h stack hsta
    rw [List.pairwise_map]
    have hrou := (validateAndNormalize_hosts hok).2
    rw [← List.zipIdx_map_fst 0 stack.2.httpRoutes, List.pairwise_map] at hrou
    exact hrou
  · obtain ⟨entry, hent, rfl⟩ := List.mem_map.mp hdec
    obtain ⟨entry', hent', rfl⟩ := List.mem_map.mp hoth
    exact hpair _ (List.fst_mem_of_mem_zipIdx hent) _ (List.fst_mem_of_mem_zipIdx hent')

/-- A route answers only hosts that one of its hostnames covers. -/
theorem covers_of_answers (hnor : HostsNormal declared.route)
    (h : declared.answers caddy request = true) :
    covers request declared.route.hostnames = true := by
  have hser (hser : declared.route.serves caddy request = true) :
      covers request declared.route.hostnames = true := by
    unfold HttpRouteSpec.serves at hser
    split at hser
    · exact (Bool.and_eq_true_iff.mp hser).1
    next canonical hcan =>
      unfold covers at hser ⊢
      rw [List.any_eq_true]
      rcases Bool.or_eq_true_iff.mp hser with hali | hrule
      · obtain ⟨hostname, hmem, hmat⟩ := List.any_eq_true.mp hali
        exact ⟨hostname, (List.mem_filter.mp hmem).1, hmat⟩
      · obtain ⟨hostname, hmem, hmat⟩ := List.any_eq_true.mp (Bool.and_eq_true_iff.mp hrule).1
        rw [List.mem_singleton.mp hmem] at hmat
        exact ⟨canonical, hnor.canonical canonical hcan, hmat⟩
  unfold DeclaredRoute.answers at h
  rcases Bool.or_eq_true_iff.mp h with h | h
  · rcases Bool.or_eq_true_iff.mp h with h | h
    · exact (Bool.and_eq_true_iff.mp h).2
    · exact hser (Bool.and_eq_true_iff.mp h).2
  · exact hser (Bool.and_eq_true_iff.mp h).2

/-- A route that does not declare the host itself answers for it by a wildcard. -/
theorem wildcardCovers_of_answers (hnor : HostsNormal declared.route)
    (hlow : Text.toAsciiLowercase request.host = request.host)
    (hoth : request.host ∉ declared.route.hostnames)
    (h : declared.answers caddy request = true) : declared.wildcardCovers request = true := by
  obtain ⟨hostname, hmem, hmat⟩ := List.any_eq_true.mp (covers_of_answers hnor h)
  unfold DeclaredRoute.wildcardCovers
  rw [List.any_eq_true]
  refine ⟨hostname, hmem, ?_⟩
  rw [hmat, Bool.and_true]
  by_contra hplain
  have hexa := eq_of_hostMatches (hnor.normal hostname hmem) (Bool.not_eq_true _ ▸ hplain) hmat
  rw [hlow] at hexa
  exact hoth (hexa ▸ hmem)

/-- The other routes do not declare the host. -/
theorem host_not_mem (hval : Validated gateways) (hdis : DisjointHosts gateways)
    {before after : List DeclaredRoute}
    (hord : declaredRoutes gateways = before ++ declared :: after) {host : String}
    (hhost : host ∈ declared.route.hostnames) {other : DeclaredRoute}
    (hoth : other ∈ before ∨ other ∈ after) : host ∉ other.route.hostnames := by
  have hpair := hval.pairwise hdis
  rw [hord, List.pairwise_append] at hpair
  obtain ⟨-, haft, hbef⟩ := hpair
  intro hmem
  rcases hoth with hoth | hoth
  · exact hbef other hoth declared (List.mem_cons_self ..) hmem hhost
  · exact (List.pairwise_cons.mp haft).1 other hoth hhost hmem

end Owner

/-! ## A wildcard in front of an exact name -/

/-- One hostname, served over HTTPS by an external backend. -/
def hostGateway (hostname : String) : StackGatewaySpec :=
  { httpRoutes := [{
      hostnames := [hostname]
      rules := [{ backend := { host := some "10.0.0.9", port := 80 } }] }] }

def hostRoute (stack hostname : String) : DeclaredRoute :=
  { stack
    gateway := hostGateway hostname
    index := 0
    route := {
      hostnames := [hostname]
      rules := [{ backend := { host := some "10.0.0.9", port := 80 } }] } }

def hostStacks (first second : String) : List (String × StackGatewaySpec) :=
  [("a", hostGateway first), ("b", hostGateway second)]

theorem hostStacks_validated
    (hfir : validateAndNormalize plainLibraries Table.empty (hostGateway first)
      = .ok (hostGateway first))
    (hsec : validateAndNormalize plainLibraries Table.empty (hostGateway second)
      = .ok (hostGateway second)) : Validated (hostStacks first second) := by
  intro stack hsta
  rcases List.mem_cons.mp hsta with rfl | hsta
  · exact ⟨plainLibraries, Table.empty, _, hfir⟩
  · rw [List.mem_singleton.mp hsta]
    exact ⟨plainLibraries, Table.empty, _, hsec⟩

theorem hostStacks_disjoint (h : first ≠ second) :
    DisjointHosts (hostStacks first second) := by
  refine List.pairwise_pair.mpr fun route hrou other hoth => ?_
  rw [List.mem_singleton.mp hrou, List.mem_singleton.mp hoth]
  exact List.disjoint_singleton.mpr fun hmem => h (List.mem_singleton.mp hmem).symm

def apiRequest : HttpRequest := { protocol := "https", host := "api.x.io", path := "/" }

end Swarmlite
