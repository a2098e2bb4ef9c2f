import Mathlib.Data.List.Pairwise
import Swarmlite.Controller.Generations
import Swarmlite.Controller.Prepared

/-!
# Who owns hostnames and ports

A stack claims the hostnames and TCP ports of its desired gateway spec and of the fragment
that is served for it. Two tables therefore say who owns what, and a request is checked
against both: ports against every entry of either, hostnames against one spec for each
stack, the served one if there is one. That one spec is enough because a fragment never
differs from the record of its stack (`Reachable.routesFollow`).

No edit adds a claim except the request of an apply, and it has passed the check
(`Edits.claims`). So claims stay apart in every run that starts with claims apart
(`routes_owned`). A new database has none. A database made from a gateway's snapshot has
those of the snapshot: its validation finds a port that is listed twice, but it does not
look at hostnames, so two stacks of a snapshot may claim the same one.
-/

namespace Swarmlite

open Ordered Relation Loop

/-! ## Claims -/

def StackGatewaySpec.hostnames (gateway : StackGatewaySpec) : List String :=
  gateway.httpRoutes.flatMap HttpRouteSpec.hostnames

/-- The stack asks for the routes of the spec, or has them. -/
inductive Claims (s : ClusterState) (name : String) : StackGatewaySpec → Prop
  | desired {spec : StackGatewaySpec} (h : gatewaySpec s name = some spec) : Claims s name spec
  | served {fragment : RecoveredStackGateway} (h : s.gatewayRoutes.lookup name = some fragment) :
      Claims s name fragment.gateway

/-- The specs have no hostname and no port in common. -/
structure Apart (a b : StackGatewaySpec) : Prop where
  hostnames : a.hostnames.Disjoint b.hostnames
  listens : a.listens.Disjoint b.listens

theorem Apart.symm {a b : StackGatewaySpec} (h : Apart a b) : Apart b a :=
  ⟨fun _ hb ha => h.hostnames ha hb, fun _ hb ha => h.listens ha hb⟩

/-- No hostname and no port is claimed by two stacks. -/
def Owned (s : ClusterState) : Prop :=
  ∀ name other spec spec', name ≠ other → Claims s name spec → Claims s other spec' →
    Apart spec spec'

/-! ## The check of a request -/

variable {s s' : ClusterState} {name : String} {spec : StackGatewaySpec} {cause : Cause}
  {env : Env} {world : World} {event : Event} {gateway : StackGatewaySpec}
  {snap : GatewayRecoverySnapshot}

theorem mem_reservedSpecs (h : Claims s name spec) : (name, spec) ∈ reservedSpecs s := by
  unfold reservedSpecs
  rw [List.mem_append]
  cases h with
  | desired h =>
    unfold gatewaySpec at h
    obtain ⟨stack, hsta, rfl⟩ := Option.map_eq_some_iff.mp h
    refine .inl (List.mem_map.mpr ⟨stack, Table.mem_of_get? hsta, ?_⟩)
    rw [Table.key_of_get? hsta]
  | served h => exact .inr (List.mem_map.mpr ⟨_, Map.lookup_eq_some.mp h, rfl⟩)

/-- One round of the loop that adds the stacks which serve nothing. -/
theorem mem_or_insert {owners : Map String StackGatewaySpec} (stack : StackRecord)
    (h : (name, spec) ∈ owners) :
    (name, spec) ∈ if owners.contains stack.name then owners
      else owners.put stack.name stack.gateway := by
  split
  · exact h
  next hfree =>
    refine Table.mem_insert.mpr (.inr ⟨h, fun hname => hfree ?_⟩)
    exact Table.contains_iff.mpr ⟨_, h, hname⟩

theorem mem_foldl_or_insert {name : String} {spec : StackGatewaySpec} :
    ∀ {records : List StackRecord} {owners : Map String StackGatewaySpec}, (name, spec) ∈ owners →
      (name, spec) ∈ records.foldl (fun owners stack =>
        if owners.contains stack.name then owners else owners.put stack.name stack.gateway) owners
  | [], _, h => h
  | stack :: records, _, h => @mem_foldl_or_insert _ _ records _ (mem_or_insert stack h)

/-- A stack that serves nothing owns what its record asks for. -/
theorem record_mem_foldl_or_insert {stack : StackRecord} :
    ∀ {records : List StackRecord} {owners : Map String StackGatewaySpec},
      records.Pairwise (fun a b => a.name < b.name) → stack ∈ records →
      owners.contains stack.name = false →
      (stack.name, stack.gateway) ∈ records.foldl (fun owners stack =>
        if owners.contains stack.name then owners else owners.put stack.name stack.gateway) owners
  | first :: records, owners, hsor, hmem, hfree => by
    obtain ⟨hfir, hsor⟩ := List.pairwise_cons.mp hsor
    rw [List.foldl_cons]
    rcases List.mem_cons.mp hmem with rfl | hmem
    · refine mem_foldl_or_insert ?_
      rw [hfree]
      exact Table.mem_insert.mpr (.inl rfl)
    · refine record_mem_foldl_or_insert hsor hmem ?_
      split
      · exact hfree
      unfold Map.put
      rw [Table.contains_insert, hfree, Bool.or_false]
      exact decide_eq_false (ne_of_gt (hfir stack hmem))

/-- **Every claim is among the owners**, as long as the served specs follow the desired. -/
theorem mem_hostnameOwners (hfol : RoutesFollow s name) (h : Claims s name spec) :
    (name, spec) ∈ hostnameOwners s := by
  have hser : ∀ {owner : String} {gateway : StackGatewaySpec},
      (owner, gateway) ∈ s.gatewayRoutes.rows.foldl (fun owners entry =>
        Map.put owners entry.1 entry.2.gateway) (Table.empty : Map String StackGatewaySpec) ↔
      ∃ entry ∈ s.gatewayRoutes.rows, entry.1 = owner ∧ entry.2.gateway = gateway := by
    intro owner gateway
    refine (Map.mem_foldl_put (fun entry : String × RecoveredStackGateway => entry.1)
      (fun entry => entry.2.gateway) (s.gatewayRoutes.sorted.imp fun h => ne_of_lt h)
      fun _ _ => rfl).trans (or_iff_right Table.mem_empty)
  have hfra : ∀ {fragment : RecoveredStackGateway},
      s.gatewayRoutes.lookup name = some fragment → (name, fragment.gateway) ∈ hostnameOwners s :=
    fun hloo => mem_foldl_or_insert (hser.mpr ⟨_, Map.lookup_eq_some.mp hloo, rfl, rfl⟩)
  cases h with
  | served hloo => exact hfra hloo
  | desired hspec =>
    cases hloo : s.gatewayRoutes.lookup name with
    | some fragment =>
      rw [← hfol fragment spec hloo hspec]
      exact hfra hloo
    | none =>
      obtain ⟨stack, hsta, rfl⟩ := Option.map_eq_some_iff.mp hspec
      obtain rfl := Table.key_of_get? hsta
      refine record_mem_foldl_or_insert s.stackRecords.sorted (Table.mem_of_get? hsta) ?_
      refine Table.contains_eq_false.mpr fun entry hent hname => ?_
      obtain ⟨row, hrow, hrowN, -⟩ := hser.mp hent
      have hfou : s.gatewayRoutes.lookup stack.name = some row.2 :=
        Map.lookup_eq_some.mpr (by rw [← hname, ← hrowN]; exact hrow)
      rw [hloo] at hfou
      cases hfou

/-- What a request asks for is claimed by no other stack. -/
theorem validateGatewayHostnameOwnership_ok {stackName : String}
    (hfol : ∀ name, RoutesFollow s name)
    (h : validateGatewayHostnameOwnership s stackName gateway = .ok ()) {other : String}
    (hoth : other ≠ stackName) (hcla : Claims s other spec) :
    Apart gateway spec := by
  unfold validateGatewayHostnameOwnership at h
  dsimp only at h
  split at h
  · cases h
  next hport =>
    split at h
    · cases h
    next hhost =>
      refine ⟨fun hostname hreq hown => ?_, fun listen hreq hown => ?_⟩
      · have hnone := List.findSome?_eq_none_iff.mp hhost _ (mem_hostnameOwners (hfol other) hcla)
        rw [if_neg hoth, Option.map_eq_none_iff, List.find?_eq_none] at hnone
        exact hnone hostname hown (List.contains_iff_mem.mpr hreq)
      · have hnone := List.findSome?_eq_none_iff.mp hport _ (mem_reservedSpecs hcla)
        rw [if_neg hoth, Option.map_eq_none_iff, List.find?_eq_none] at hnone
        obtain ⟨route, hrou, rfl⟩ := List.mem_map.mp hown
        exact hnone route hrou (List.contains_iff_mem.mpr hreq)

/-! ## What adds a claim -/

/-- A fragment was served before, or is what the record asks for. -/
theorem Edit.served (hedit : Edit cause s s')
    {fragment : RecoveredStackGateway} (h : s'.gatewayRoutes.lookup name = some fragment) :
    s.gatewayRoutes.lookup name = some fragment ∨ gatewaySpec s name = some fragment.gateway := by
  have hfre : stackFragment s name = some fragment →
      gatewaySpec s name = some fragment.gateway := by
    intro hfra
    obtain ⟨stack, hsta, heq⟩ := stackFragment_gateway hfra
    unfold gatewaySpec
    rw [hsta, heq]
    rfl
  cases hedit with
  | observe hobs => exact .inl (by rwa [hobs.rest] at h)
  | bookkeep hobs => exact .inl (by rwa [(hobs "").rest] at h)
  | schedule live hmove => exact .inl (by rwa [hmove.sameFrame.rest] at h)
  | refreshRoutes s =>
    rw [refreshReadyStackRoutes_lookup] at h
    split at h
    · exact .inr (hfre h)
    · exact .inl h
  | restore ids hnew hres => exact .inl (by rwa [hres.rest] at h)
  | adopt hado => cases hado with | intro => exact .inl h
  | reroute s req =>
    rw [replaceStackRoute_lookup] at h
    split at h
    next hname =>
      subst hname
      exact .inr (hfre h)
    · exact .inl h
  | retry s s' stackName now hret =>
    obtain ⟨stack, dep, -, -, -, -, rfl⟩ := retryStack_ok hret
    exact .inl h
  | _ => exact .inl h

/-- **Only the request of an apply adds a claim.** -/
theorem Edit.claims (hedit : Edit cause s s') (h : Claims s' name spec) : Claims s name spec ∨
      ∃ req, cause = .apply req ∧ req.stackName = name ∧
    spec = req.parsed.gateway := by
  cases h with
  | desired hspec =>
    rcases hedit.gatewaySpec_eq name with hsame | ⟨req, hcau, hname, hnew⟩
    · exact .inl (.desired (hsame ▸ hspec))
    · rw [hnew] at hspec
      exact .inr ⟨req, hcau, hname, (Option.some.inj hspec).symm⟩
  | served hloo =>
    rcases hedit.served hloo with hser | hspec
    · exact .inl (.served hser)
    · exact .inl (.desired hspec)

theorem Edits.claims (hedi : Edits cause s s') (h : Claims s' name spec) : Claims s name spec ∨
      ∃ req, cause = .apply req ∧ req.stackName = name ∧
    spec = req.parsed.gateway := by
  induction hedi with
  | refl => exact .inl h
  | tail _ hedit ih =>
    rcases hedit.claims h with hmid | hnew
    · exact ih hmid
    · exact .inr hnew

/-- A committed apply passed its checks. -/
theorem validateApplyLocked_of_step (plat : Platform)
    (hfre : FreshIds env world) {req : ApplyRequest}
    (hcau : world.cause env event = .apply req) :
    (world.step plat env event).server = world.server ∨
      validateApplyLocked world.server.inner req.stackName req.parsed.gateway
        req.replace = .ok () := by
  refine (step_apply plat hcau).imp id fun happ => ?_
  obtain ⟨_, _, hche, -⟩ := applyGuarded_state hfre.injective hfre.tasks hfre.unclaimed happ
  unfold checkApply at hche
  obtain ⟨_, -, hche⟩ := bind_ok hche
  obtain ⟨_, -, hche⟩ := bind_ok hche
  obtain ⟨_, hval, -⟩ := bind_ok hche
  exact hval

theorem validateApplyLocked_ok {inner : Inner} {stackName : String}
    {replace : Bool} (h : validateApplyLocked inner stackName gateway replace = .ok ()) :
    validateGatewayHostnameOwnership inner.state stackName gateway = .ok () ∧
      ∀ route ∈ gateway.tcpRoutes, ∀ listen ∈ inner.cluster.gateway.listen,
        listenPort listen ≠ some route.listen := by
  unfold validateApplyLocked at h
  obtain ⟨_, -, h⟩ := bind_ok h
  obtain ⟨_, -, h⟩ := bind_ok h
  obtain ⟨_, hown, h⟩ := bind_ok h
  refine ⟨hown, fun route hrou listen hlis heq => ?_⟩
  split at h
  · cases h
  next hnone =>
    refine List.find?_eq_none.mp hnone route hrou ?_
    exact List.any_eq_true.mpr ⟨listen, hlis, decide_eq_true heq⟩

/-- A claim after an event was one before it, or the request that made it was checked. -/
theorem step_claims (plat : Platform)
    (hfre : FreshIds env world) (hres : ∀ cfg, event ≠ .restart cfg)
    (h : Claims (world.step plat env event).state name spec) :
    Claims world.state name spec ∨ ∃ req, world.cause env event = .apply req ∧
      req.stackName = name ∧
      validateApplyLocked world.server.inner name spec req.replace = .ok () := by
  rcases (step_effect plat hfre hres).edits.claims h with hold | ⟨req, hcau, rfl, rfl⟩
  · exact .inl hold
  · rcases validateApplyLocked_of_step plat hfre hcau with hsame | hval
    · refine .inl ?_
      unfold World.state at h ⊢
      rwa [hsame] at h
    · exact .inr ⟨req, hcau, rfl, hval⟩

/-- **An event keeps claims apart.** -/
theorem step_owned (plat : Platform) (hwor : Reachable plat world) (hfre : FreshIds env world)
    (hres : ∀ cfg, event ≠ .restart cfg) (h : Owned world.state) :
    Owned (world.step plat env event).state := by
  have hche : ∀ {name other : String} {spec spec' : StackGatewaySpec} {replace : Bool},
      name ≠ other → validateApplyLocked world.server.inner name spec replace = .ok () →
      Claims world.state other spec' → Apart spec spec' :=
    fun hne hval hcla => validateGatewayHostnameOwnership_ok hwor.routesFollow
      (validateApplyLocked_ok hval).1 hne.symm hcla
  intro name other spec spec' hne hname hoth
  rcases step_claims plat hfre hres hname with hname | ⟨req, hcau, hsta, hval⟩
  · rcases step_claims plat hfre hres hoth with hoth | ⟨_, _, _, hval'⟩
    · exact h name other spec spec' hne hname hoth
    · exact (hche hne.symm hval' hname).symm
  · rcases step_claims plat hfre hres hoth with hoth | ⟨req', hcau', hsta', _⟩
    · exact hche hne hval hoth
    · -- one event applies one stack
      rw [hcau] at hcau'
      cases hcau'
      exact absurd (hsta.symm.trans hsta') hne

/-! ## Runs -/

/-- The first world of a controller: on a new database, or on one made from a snapshot of
its cluster that passed validation and meets the condition. -/
inductive Founded (platform : Platform)
    (condition : ControllerConfig → GatewayRecoverySnapshot → Prop) : World → Prop
  | fresh {config : ControllerConfig} {env : Env} {server : Server}
      (h : start platform config env (initialDisk config) = .ok server) :
      Founded platform condition { config, server }
  | recovered {config : ControllerConfig} {env : Env} {snapshot : GatewayRecoverySnapshot}
      {server : Server} (hvalid : snapshot.validateForCluster config.cluster.clusterId = .ok ())
      (hmeets : condition config snapshot)
      (h : start platform config env (recoveredDisk config snapshot) = .ok server) :
      Founded platform condition { config, server }

theorem Founded.reachable {plat : Platform}
    {condition : ControllerConfig → GatewayRecoverySnapshot → Prop}
    (h : Founded plat condition world) : Reachable plat world := by
  cases h with
  | fresh hok => exact .fresh hok
  | recovered _ _ hok => exact .recovered hok

/-- No hostname is listed for two stacks of the snapshot. -/
def HostnamesApart (snapshot : GatewayRecoverySnapshot) : Prop :=
  ∀ entry ∈ snapshot.stackRoutes, ∀ other ∈ snapshot.stackRoutes, entry.1 ≠ other.1 →
    entry.2.gateway.hostnames.Disjoint other.2.gateway.hostnames

theorem SnapshotValid.apart {clusterId : String}
    (h : SnapshotValid snap clusterId) {entry other : String × RecoveredStackGateway}
    (hent : entry ∈ snap.stackRoutes) (hoth : other ∈ snap.stackRoutes)
    (hne : entry.1 ≠ other.1) : entry.2.gateway.listens.Disjoint other.2.gateway.listens := by
  have hpai := (List.nodup_flatMap.mp h.listens).2
  have hsymm : Std.Symm (Function.onFun List.Disjoint
      fun entry : String × RecoveredStackGateway => entry.2.gateway.listens) :=
    ⟨fun _ _ hapa _ hb ha => hapa ha hb⟩
  exact hpai.forall hent hoth fun heq => hne (congrArg Prod.fst heq)

/-- A database made from a snapshot has the claims of the snapshot. -/
theorem SnapshotValid.owned {clusterId : String}
    (h : SnapshotValid snap clusterId) (hhos : HostnamesApart snap)
    (cfg : ControllerConfig) : Owned (recoveredDisk cfg snap).state := by
  have hser : ∀ {name : String} {spec : StackGatewaySpec},
      Claims (recoveredDisk cfg snap).state name spec →
      ∃ fragment, (name, fragment) ∈ snap.stackRoutes ∧ fragment.gateway = spec := by
    intro name spec hcla
    cases hcla with
    | desired hspec => cases hspec
    | served hloo => exact ⟨_, Map.lookup_eq_some.mp hloo, rfl⟩
  intro name other spec spec' hne hname hoth
  obtain ⟨fragment, hent, rfl⟩ := hser hname
  obtain ⟨fragment', hent', rfl⟩ := hser hoth
  exact ⟨hhos _ hent _ hent' hne, h.apart hent hent' hne⟩

theorem Owned.of_eq (h : Owned s)
    (hrec : s'.stackRecords = s.stackRecords) (hrou : s'.gatewayRoutes = s.gatewayRoutes) :
    Owned s' := by
  have hcla : ∀ {name : String} {spec : StackGatewaySpec}, Claims s' name spec →
      Claims s name spec := by
    intro name spec hcla
    cases hcla with
    | desired hspec =>
      unfold gatewaySpec at hspec
      rw [hrec] at hspec
      exact .desired hspec
    | served hloo => exact .served (hrou ▸ hloo)
  exact fun name other spec spec' hne hname hoth =>
    h name other spec spec' hne (hcla hname) (hcla hoth)

/-- **Hostnames and ports stay with one stack** in every run of a controller that starts on
a new database or on a valid snapshot which lists no hostname twice, and what is served for
a stack is what its record asks for. -/
theorem routes_owned {platform : Platform} {first world : World}
    (hfirst : Founded platform (fun _ snapshot => HostnamesApart snapshot) first)
    (hrun : Runs platform (fun _ _ _ => True) first world) :
    Owned world.state ∧ ∀ name, RoutesFollow world.state name := by
  have hper : ∀ s : ClusterState, Owned s → Owned s.persisted := fun s hs => hs.of_eq rfl rfl
  have hsta : ∀ cfg env s gen, Owned s →
      Owned (startState platform cfg env s gen) :=
    fun cfg env s gen hs => hs.of_eq rfl rfl
  refine ⟨?_, (hrun.reachable hfirst.reachable).routesFollow⟩
  suffices h : Owned world.state ∧ Owned world.server.disk.state from h.1
  induction hrun with
  | refl =>
    cases hfirst with
    | fresh hok =>
      refine start_keeps hper hsta hok fun name other spec spec' _ hname _ => ?_
      cases hname with
      | desired hspec => cases hspec
      | served hloo => cases hloo
    | recovered hval hmee hok =>
      exact start_keeps hper hsta hok ((validateForCluster_iff.mp hval).owned hmee _)
  | tail hpre hstep ih =>
    obtain ⟨env, event, hfre, -, rfl⟩ := hstep
    have hwor := Runs.reachable hpre hfirst.reachable
    exact step_keeps hper hsta hfre
      (fun hres => step_owned platform hwor hfre hres ih.1) ih

/-- A stack that serves one hostname from an external backend. -/
def hostStack (hostname : String) : ParsedStack :=
  { services := Table.empty
    gateway := { httpRoutes := [{
      hostnames := [hostname]
      rules := [{ backend := { host := some "10.0.0.9", port := 80 } }] }] } }

/-- Two stacks are applied one after the other. -/
def twoHosts : List Input :=
  [{ event := .apply "a" (hostStack "a.x.io") Table.empty false, tag := "a" },
   { event := .commit 0, tag := "b" },
   { event := .apply "b" (hostStack "b.x.io") Table.empty false, tag := "c" },
   { event := .commit 0, tag := "d" }]

theorem routes_owned_twoHosts :
    gatewaySpec (sampleWorld.perform samplePlatform twoHosts).state "a"
      = some (hostStack "a.x.io").gateway ∧
    gatewaySpec (sampleWorld.perform samplePlatform twoHosts).state "b"
      = some (hostStack "b.x.io").gateway ∧
    Owned (sampleWorld.perform samplePlatform twoHosts).state := by
  have hsta : start samplePlatform sampleConfig
      { now := ⟨0, 0⟩, later := ⟨0, 0⟩, uuid := taggedId "" } (initialDisk sampleConfig)
      = .ok sampleServer := rfl
  refine ⟨by decide +kernel, by decide +kernel, (routes_owned (.fresh hsta) ?_).1⟩
  exact Runs.perform (fun _ _ _ => true) (fun _ => trivial) (by decide +kernel)

def sharedFragment : RecoveredStackGateway :=
  { gateway := (hostStack "x.io").gateway, upstreams := Table.empty }

/-- A snapshot in which two stacks serve the same host. -/
def sharedSnapshot : GatewayRecoverySnapshot :=
  .new "sample" 1 (Map.put (Map.put Table.empty "a" sharedFragment) "b" sharedFragment)

/-- The controller of the sample cluster on a database made from the snapshot. -/
def sharedServer : Server :=
  let env : Env := { now := ⟨0, 0⟩, later := ⟨0, 0⟩, uuid := taggedId "" }
  let state := startState samplePlatform sampleConfig env
    (recoveredDisk sampleConfig sharedSnapshot).state 1
  let disk : VersionedState :=
    { generation := 2, cluster := sampleConfig.cluster, state := state.persisted }
  { inner := serve samplePlatform sampleConfig env disk state sampleConfig.cluster 1, disk }

/-- Validation does not compare hostnames, so a recovered cluster may serve one twice. -/
theorem recovered_hostname_twice :
    Founded samplePlatform (fun _ _ => True) { config := sampleConfig, server := sharedServer } ∧
    ∃ spec, Claims sharedServer.inner.state "a" spec ∧ Claims sharedServer.inner.state "b" spec ∧
      "x.io" ∈ spec.hostnames := by
  have hsta : start samplePlatform sampleConfig
      { now := ⟨0, 0⟩, later := ⟨0, 0⟩, uuid := taggedId "" }
      (recoveredDisk sampleConfig sharedSnapshot) = .ok sharedServer := rfl
  have hval : sharedSnapshot.validateForCluster sampleConfig.cluster.clusterId = .ok () := rfl
  have hser : ∀ name ∈ ["a", "b"],
      sharedServer.inner.state.gatewayRoutes.lookup name = some sharedFragment := by decide +kernel
  refine ⟨.recovered hval trivial hsta, sharedFragment.gateway, ?_, ?_, by decide⟩
  · exact .served (hser "a" (by decide))
  · exact .served (hser "b" (by decide))

end Swarmlite
