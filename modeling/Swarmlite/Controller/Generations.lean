import Swarmlite.Lib.Versions
import Swarmlite.Controller.Durability
import Swarmlite.Node.GatewayRecovery

/-!
# Gateway generations

Gateways are sent an assignment with each heartbeat response: a generation, a config
and a recovery snapshot. They report the generation they run, the controller takes
this for the config they run, and a lost control plane is rebuilt from the snapshot of
the newest generation. All of this needs a generation to stand for one assignment.

While a controller runs it does. A commit compares the rendered config with the
published one and moves the generation if they differ (`commitLocked_publishes`), and
the refresh without a commit never meets a difference, since the routes are stored
state (`refresh_publishes`). The database keeps a generation at least as high as the
published one, together with the routes it was rendered from (`Anchored`).

A start is the exception. It keeps the stored generation and renders the stored routes
with the settings it is given, so another advertised URL, another deploy port or, after
a recovery, other gateway settings change the config under a generation that may have
been sent already. `RestartKeeps` and `RecoveryKeeps` exclude this, and
**`generation_identifies_assignment`** is the result for all lives of a cluster that
meet them.
-/

namespace Swarmlite

open Ordered Relation Loop Versions

/-- What gateways are sent. -/
def Inner.assignment (inner : Inner) : GatewayAssignment :=
  { generation := inner.gatewayGeneration
    config := inner.gatewayConfig
    recoverySnapshot := inner.gatewaySnapshot }

/-- The assignments of later generations replace earlier ones. -/
abbrev GatewayAssignment.Follows (old new : GatewayAssignment) : Prop :=
  Versions.Follows GatewayAssignment.generation old new

/-- The published assignment, its generation and what it was rendered from are tied to
the database. -/
structure Anchored (platform : Platform) (config : ControllerConfig) (server : Server) : Prop where
  cluster : server.disk.cluster = server.inner.cluster
  clusterId : server.inner.cluster.clusterId = config.cluster.clusterId
  routes : server.disk.state.gatewayRoutes = server.inner.gatewaySnapshot.stackRoutes
  snapshot : server.inner.gatewaySnapshot = GatewayRecoverySnapshot.new
    server.inner.cluster.clusterId server.inner.gatewayGeneration
    server.inner.gatewaySnapshot.stackRoutes
  positive : 0 < server.inner.gatewayGeneration
  stored : server.inner.gatewayGeneration ≤ server.disk.state.gatewayGeneration
  memory : server.inner.gatewayGeneration ≤ server.inner.state.gatewayGeneration
  /-- The routes in use are published, unless the generation is exhausted. -/
  current : PublishedNow platform config server.inner ∨
    18446744073709551615 ≤ server.inner.gatewayGeneration

/-- An event keeps the published assignment, or replaces it by a later one. -/
structure Republishes (platform : Platform) (config : ControllerConfig) (server server' : Server) :
    Prop where
  anchored : Anchored platform config server'
  follows : server.inner.assignment.Follows server'.inner.assignment

variable {platform : Platform} {cfg : ControllerConfig} {env : Env}

variable {srv srv' : Server} {inner : Inner} {world : World}
  {snap : Nat × GatewayConfig × GatewayRecoverySnapshot}

theorem Anchored.refl (h : Anchored platform cfg srv) : Republishes platform cfg srv srv :=
  ⟨h, Follows.refl _⟩

theorem Republishes.trans {a b c : Server} (h : Republishes platform cfg a b)
    (h' : Republishes platform cfg b c) : Republishes platform cfg a c :=
  ⟨h'.anchored, h.follows.trans h'.follows⟩

/-- Nothing published and no routes have changed. -/
theorem Anchored.same (h : Anchored platform cfg srv) (hclu : inner.cluster = srv.inner.cluster)
    (hpub : SamePublication srv.inner inner)
    (hmem : srv.inner.gatewayGeneration ≤ inner.state.gatewayGeneration)
    (hcur : inner.state.gatewayRoutes = srv.inner.state.gatewayRoutes ∨
      18446744073709551615 ≤ srv.inner.gatewayGeneration) :
    Republishes platform cfg srv { srv with inner } := by
  refine ⟨⟨h.cluster.trans hclu.symm, ?_, ?_, ?_, ?_, ?_, ?_, ?_⟩, .inr ?_⟩
  · rw [hclu]
    exact h.clusterId
  · rw [hpub.snapshot]
    exact h.routes
  · rw [hclu, hpub.snapshot, hpub.generation]
    exact h.snapshot
  · rw [hpub.generation]
    exact h.positive
  · rw [hpub.generation]
    exact h.stored
  · rw [hpub.generation]
    exact hmem
  · rw [hpub.generation]
    rcases hcur with hrou | hfull
    · refine h.current.imp (fun hnow => ?_) id
      refine ⟨?_, ?_⟩
      · unfold renderedGatewayConfig
        rw [hpub.config, hrou, hclu]
        exact hnow.config
      · rw [hpub.snapshot, hrou]
        exact hnow.routes
    · exact .inr hfull
  · unfold Inner.assignment
    rw [hpub.generation, hpub.config, hpub.snapshot]

/-! ## Publishing -/

/-- The next snapshot is the published one, or has a later generation. -/
theorem nextGatewaySnapshot_follows (h : nextGatewaySnapshot platform cfg inner = .ok snap)
    (hsna : inner.gatewaySnapshot = GatewayRecoverySnapshot.new inner.cluster.clusterId
      inner.gatewayGeneration inner.gatewaySnapshot.stackRoutes) :
    inner.assignment.Follows (inner.publish snap).assignment := by
  obtain ⟨hcon, hnew, hgen⟩ := nextGatewaySnapshot_ok h
  split at hgen
  next hsame =>
    have hrou := not_not.mp hsame.2
    refine .inr ?_
    unfold Inner.assignment Inner.publish
    dsimp only
    rw [hgen, hcon, hsame.1, hnew, hgen, ← hrou, ← hsna]
  · refine .inl ?_
    show inner.gatewayGeneration < snap.1
    omega

theorem nextGatewaySnapshot_range (h : nextGatewaySnapshot platform cfg inner = .ok snap) :
    snap.1 ≤ 18446744073709551615 := by
  unfold nextGatewaySnapshot at h
  extract_lets rendered snapshotChanged next at h
  split at h
  · cases h
  next hran =>
    cases h
    exact Nat.not_lt.mp hran

/-- **A commit publishes what it stores**, under the old generation only if it is the
old assignment. -/
theorem commitLocked_publishes {committing : Server} (h : Anchored platform cfg srv)
    (hcom : commitLocked platform cfg env committing = .ok srv')
    (hpub : SamePublication srv.inner committing.inner) :
    Republishes platform cfg srv srv' := by
  obtain ⟨snap, hnext, rfl, hwri⟩ := commitLocked_ok hcom
  have hcluI : committing.inner.cluster.clusterId = cfg.cluster.clusterId := by
    have hide := hwri.identity
    unfold sameClusterIdentity at hide
    simp only [Bool.and_eq_true, decide_eq_true_eq] at hide
    exact hide.1.1.2
  have hsna : committing.inner.gatewaySnapshot = GatewayRecoverySnapshot.new
      committing.inner.cluster.clusterId committing.inner.gatewayGeneration
      committing.inner.gatewaySnapshot.stackRoutes := by
    rw [hpub.snapshot, hpub.generation, hcluI, ← h.clusterId]
    exact h.snapshot
  have hfol := nextGatewaySnapshot_follows hnext hsna
  obtain ⟨hcon, hnew, -⟩ := nextGatewaySnapshot_ok hnext
  have hpos : 0 < snap.1 := by
    refine lt_of_lt_of_le ?_ hfol.le
    show 0 < committing.inner.gatewayGeneration
    rw [hpub.generation]
    exact h.positive
  have hrou : snap.2.2.stackRoutes = committing.inner.state.gatewayRoutes := by
    rw [hnew]
    rfl
  refine ⟨⟨rfl, hcluI, hrou.symm, ?_, hpos, Nat.le_refl _, Nat.le_refl _,
    .inl ⟨hcon, hrou⟩⟩, ?_⟩
  · show snap.2.2 = GatewayRecoverySnapshot.new committing.inner.cluster.clusterId snap.1
      snap.2.2.stackRoutes
    rw [hrou]
    exact hnew
  · have hold : srv.inner.assignment = committing.inner.assignment := by
      unfold Inner.assignment
      rw [hpub.generation, hpub.config, hpub.snapshot]
    rw [hold]
    exact hfol

/-- **A refresh without a commit publishes nothing new.** -/
theorem refresh_publishes (h : Anchored platform cfg srv)
    (href : refreshGatewaySnapshot platform cfg srv.inner = .ok inner) :
    SamePublication srv.inner inner ∧ PublishedNow platform cfg inner := by
  obtain ⟨snap, hnext, rfl⟩ := refreshGatewaySnapshot_ok href
  refine ⟨?_, publish_publishedNow hnext⟩
  obtain ⟨hcon, hnew, hgen⟩ := nextGatewaySnapshot_ok hnext
  have hsame : renderedGatewayConfig platform cfg srv.inner = srv.inner.gatewayConfig ∧
      ¬ srv.inner.gatewaySnapshot.stackRoutes ≠ srv.inner.state.gatewayRoutes := by
    rcases h.current with hcur | hfull
    · exact ⟨hcur.config.symm, not_not.mpr hcur.routes⟩
    · -- an exhausted generation cannot have moved
      by_contra hmoved
      rw [if_neg hmoved] at hgen
      have hran := nextGatewaySnapshot_range hnext
      omega
  rw [if_pos hsame] at hgen
  refine ⟨hgen, hcon.trans hsame.1, ?_⟩
  show snap.2.2 = srv.inner.gatewaySnapshot
  rw [hnew, hgen, ← not_not.mp hsame.2]
  exact h.snapshot.symm

theorem Requested.publishes {cause : Cause} (h : Requested platform cfg env cause srv srv')
    (hanc : Anchored platform cfg srv) : Republishes platform cfg srv srv' := by
  cases h with
  | unchanged => exact hanc.refl
  | committed _ hcom => exact commitLocked_publishes hanc hcom ⟨rfl, rfl, rfl⟩

theorem updateClusterConfig_publishes (h : Anchored platform cfg srv)
    (cluster : ClusterSettings) : Republishes platform cfg srv
      (updateClusterConfig platform cfg env srv cluster) := by
  unfold updateClusterConfig
  split
  · exact h.refl
  dsimp only
  split
  next srv' hcom => exact commitLocked_publishes h hcom ⟨rfl, rfl, rfl⟩
  split
  · exact h.refl
  next snap hnext =>
    -- the state keeps a generation that is not published
    refine h.same rfl ⟨rfl, rfl, rfl⟩ ?_ (.inl rfl)
    have hgen := (nextGatewaySnapshot_ok hnext).2.2
    dsimp only at hgen
    show srv.inner.gatewayGeneration ≤ snap.1
    split at hgen <;> omega

/-! ## Passes -/

variable (platform cfg) in
theorem scheduleAndRoute_gatewayGeneration (endDrains : Bool)
    (huuid : Function.Injective env.uuid) {pass : Pass}
    (hfre : Fresh env.uuid { state := pass.state }) :
    (scheduleAndRoute platform cfg env endDrains pass).state.gatewayGeneration
      = pass.state.gatewayGeneration := by
  have hadv := advanceServiceOperations_observed "" pass.state
    (currentLiveNodes cfg env.now pass.inner) env.now.unixMs
  have hfreA := hadv.fresh hfre
  have hrec : ∀ s, Fresh env.uuid { state := s } →
      (reconcile platform.toExternals env.uuid (currentLiveNodes cfg env.now pass.inner)
        env.now.unixMs s).state.gatewayGeneration = s.gatewayGeneration :=
    fun s hs => (reconcile_moves _ _ huuid _ hs).sameFrame.gatewayGeneration
  have hrou : ∀ s, (refreshReadyStackRoutes s).1.gatewayGeneration = s.gatewayGeneration :=
    fun _ => rfl
  refine Eq.trans ?_ hadv.gatewayGeneration
  unfold scheduleAndRoute
  dsimp only [Pass.update_state]
  rw [hrou]
  cases endDrains with
  | false =>
    rw [if_neg Bool.false_ne_true]
    exact hrec _ hfreA
  | true =>
    rw [if_pos rfl]
    refine (hrec _ ?_).trans rfl
    exact fresh_of_map hfreA

variable (platform cfg) in
theorem heartbeatScheduled_gatewayGeneration (huuid : Function.Injective env.uuid)
    (hfre : Fresh env.uuid { state := inner.state }) (member : NodeMember)
    (body : NodeHeartbeat) :
    (heartbeatScheduled platform cfg env inner member body).state.gatewayGeneration
      = inner.state.gatewayGeneration := by
  have harr := admitNode_state env.now member body inner ""
  have hrec := (record_records cfg.cluster.clusterId env.now member.id body
    (admitNode env.now member body inner)).observed
  have hfreR := hrec.fresh (harr.fresh hfre)
  unfold heartbeatScheduled
  rw [scheduleAndRoute_gatewayGeneration platform cfg false huuid hfreR]
  exact hrec.gatewayGeneration.trans harr.gatewayGeneration

/-- A commit leaves the routes in use published. -/
theorem commitLocked_now (h : commitLocked platform cfg env srv = .ok srv') :
    PublishedNow platform cfg srv'.inner := by
  obtain ⟨snap, hnext, rfl, -⟩ := commitLocked_ok h
  have hnow := publish_publishedNow hnext
  exact ⟨hnow.config, hnow.routes⟩

/-- However a pass ends, the published assignment stays or is replaced by a later one. -/
theorem Ended.publishes {refreshAt : Int} {scheduled : Pass} {passed : Bool}
    (hend : Ended platform cfg env refreshAt srv scheduled passed srv')
    (h : Anchored platform cfg srv) (hclu : scheduled.inner.cluster = srv.inner.cluster)
    (hpub : SamePublication srv.inner scheduled.inner)
    (hgen : scheduled.state.gatewayGeneration = srv.inner.state.gatewayGeneration)
    (hfla : scheduled.changed = false → scheduled.state.persisted = srv.inner.state.persisted) :
    Republishes platform cfg srv srv' ∧ (passed = true → PublishedNow platform cfg srv'.inner) := by
  have hclu' : ∀ {judged}, judge platform cfg env refreshAt scheduled = .ok judged →
      judged.inner.cluster = srv.inner.cluster := by
    intro judged hjud
    rw [(judge_ok hjud).1]
    exact hclu
  have hunc : ∀ {judged}, judge platform cfg env refreshAt scheduled = .ok judged →
      judged.changed = false → Republishes platform cfg srv { srv with inner := judged.inner } := by
    intro judged hjud hdown
    obtain ⟨hsch, hsame⟩ := judge_flagged hjud hdown
    have hsto := hsame.trans (hfla hsch)
    have hgen' := congrArg ClusterState.gatewayGeneration hsto
    have hrou := congrArg ClusterState.gatewayRoutes hsto
    exact h.same (hclu' hjud) (hpub.judged hjud) (le_of_le_of_eq h.memory hgen'.symm) (.inl hrou)
  cases hend with
  | unjudged hfai =>
    refine ⟨h.same hclu hpub ?_ (.inr ?_), nofun⟩
    · show _ ≤ scheduled.state.gatewayGeneration
      rw [hgen]
      exact h.memory
    · by_contra hroom
      have hlt : scheduled.inner.gatewayGeneration < 18446744073709551615 := by
        rw [hpub.generation]
        omega
      obtain ⟨judged, hjud⟩ := judge_succeeds platform cfg env refreshAt hlt
      rw [hjud] at hfai
      cases hfai
  | undone hjud =>
    have hpub' := hpub.judged hjud
    exact ⟨h.same (hclu' hjud) ⟨hpub'.1, hpub'.2, hpub'.3⟩ h.memory (.inl rfl), nofun⟩
  | unchanged hjud hdown => exact ⟨hunc hjud hdown, nofun⟩
  | committed hjud hcom =>
    exact ⟨commitLocked_publishes h hcom (hpub.judged hjud), fun _ => commitLocked_now hcom⟩
  | refreshed hjud hdown href hinn =>
    have hstep := hunc hjud hdown
    obtain ⟨hsame, hnow⟩ := refresh_publishes hstep.anchored href
    obtain ⟨snap, -, rfl⟩ := refreshGatewaySnapshot_ok href
    -- notifying readers publishes nothing
    rcases hinn with rfl | rfl <;> exact ⟨hstep.trans (hstep.anchored.same rfl
      ⟨hsame.1, hsame.2, hsame.3⟩ hstep.anchored.memory (.inl rfl)),
      fun _ => ⟨hnow.config, hnow.routes⟩⟩

theorem tick_publishes (h : Anchored platform cfg srv) (huuid : Function.Injective env.uuid)
    (hfre : Fresh env.uuid { state := srv.inner.state }) :
    Republishes platform cfg srv (tick platform cfg env srv) := by
  have hfla := scheduleAndRoute_flagged platform cfg env true { inner := srv.inner }
  obtain ⟨passed, hend⟩ := tick_ended platform cfg env srv
  exact (hend.publishes h rfl (scheduleAndRoute_published true { inner := srv.inner })
    (scheduleAndRoute_gatewayGeneration platform cfg true huuid hfre)
    fun hdown => (hfla hdown).2).1

theorem Anchored.deadlines (h : Anchored platform cfg srv)
    (hnow : PublishedNow platform cfg srv.inner) {deadline : Int}
    (hcom : commitGatewayAckLocked cfg env (srv.withDeadlines deadline) = .ok srv') :
    Republishes platform cfg srv srv' := by
  obtain ⟨rfl, -⟩ := commitGatewayAckLocked_ok hcom
  exact ⟨⟨rfl, h.clusterId, hnow.routes.symm, h.snapshot, h.positive, h.memory, h.memory,
    .inl ⟨hnow.config, hnow.routes⟩⟩, Follows.refl _⟩

/-- The node is answered with the published assignment. -/
def AnswersWith (inner : Inner) (answer : Except ControllerError HeartbeatResponse) : Prop :=
  ∀ response, answer = .ok response →
    ∀ assignment, response.gatewayConfig = some assignment → assignment = inner.assignment

theorem answerHeartbeat_answersWith (member : NodeMember) (body : NodeHeartbeat) (srv : Server) :
    AnswersWith (answerHeartbeat platform cfg env member body srv).1.inner
      (answerHeartbeat platform cfg env member body srv).2 := by
  unfold answerHeartbeat
  split
  · exact fun _ hans => nomatch hans
  · intro resp hans
    cases hans
    intro asg hass
    unfold heartbeatResponse at hass
    dsimp only at hass
    split at hass
    · cases hass
      rfl
    · cases hass

theorem heartbeat_publishes (h : Anchored platform cfg srv) (huuid : Function.Injective env.uuid)
    (hfre : Fresh env.uuid { state := srv.inner.state }) (nodeId : String)
    (body : NodeHeartbeat) :
    Republishes platform cfg srv (heartbeat platform cfg env srv nodeId body).1 ∧
      AnswersWith (heartbeat platform cfg env srv nodeId body).1.inner
        (heartbeat platform cfg env srv nodeId body).2 := by
  have hsil : ∀ inner error, AnswersWith inner (.error error) := fun _ _ _ hans => nomatch hans
  rcases heartbeat_ended platform cfg env srv nodeId body with
    ⟨error, heq⟩ | ⟨member, hget, -, passed, srv', hend, hans⟩
  · rw [heq]
    exact ⟨h.refl, hsil _ _⟩
  obtain rfl := Table.key_of_get? hget
  obtain ⟨hrep, hnow⟩ := hend.publishes h
    (heartbeatScheduled_frame platform cfg env srv.inner member body).cluster
    (heartbeatScheduled_published platform cfg srv.inner member body)
    (heartbeatScheduled_gatewayGeneration platform cfg huuid hfre member body)
    (heartbeatScheduled_unchanged platform cfg env body hget)
  rcases hans with ⟨error, heq⟩ | ⟨hpas, heq⟩
  · rw [heq]
    exact ⟨hrep, hsil _ _⟩
  · rw [heq]
    refine ⟨?_, answerHeartbeat_answersWith member body srv'⟩
    rcases answerHeartbeat_server platform cfg env member body srv' with hsame | ⟨deadline, hcom⟩
    · rw [hsame]
      exact hrep
    · exact hrep.trans (hrep.anchored.deadlines (hnow hpas) hcom)

/-! ## Starting -/

/-- The gateway settings a start works with, and whether they moved to another image. -/
abbrev startGateway (platform : Platform) (disk : VersionedState) : ClusterGatewayConfig × Bool :=
  refreshManagedGatewayImage platform.defaultGatewayImage disk.cluster.gateway

/-- The config a start renders from a stored document. -/
def startConfig (platform : Platform) (config : ControllerConfig) (disk : VersionedState) :
    GatewayConfig :=
  configWithDeployment disk.state.gatewayRoutes (startGateway platform disk).1
    config.advertiseUrl (platform.deployAddress config.advertiseUrl config.deployPort)

/-- The assignment a start publishes under a generation. -/
def startAssignment (platform : Platform) (config : ControllerConfig) (disk : VersionedState)
    (generation : Nat) : GatewayAssignment :=
  { generation
    config := startConfig platform config disk
    recoverySnapshot := GatewayRecoverySnapshot.new disk.cluster.clusterId generation
      disk.state.gatewayRoutes }

theorem startGatewayGeneration_ok {disk : VersionedState} {imageChanged : Bool} {gen : Nat}
    (h : startGatewayGeneration disk imageChanged = .ok gen) : 0 < gen ∧
      (disk.state.gatewayGeneration < gen ∨
        imageChanged = false ∧ gen = disk.state.gatewayGeneration) := by
  unfold startGatewayGeneration at h
  split at h
  next hzero =>
    cases h
    have hpos : 0 < max disk.generation 1 := lt_max_of_lt_right Nat.one_pos
    exact ⟨hpos, .inl (hzero ▸ hpos)⟩
  next hnon =>
    split at h
    · split at h
      · cases h
      · cases h
        exact ⟨Nat.succ_pos _, .inl (Nat.lt_succ_self _)⟩
    next hima =>
      cases h
      exact ⟨Nat.pos_of_ne_zero hnon, .inr ⟨Bool.eq_false_iff.mpr hima, rfl⟩⟩

/-- **A start publishes the stored routes**, under the stored generation unless it is the
first or the image moves. -/
theorem start_publishes {disk : VersionedState} (h : start platform cfg env disk = .ok srv) :
    Anchored platform cfg srv ∧ ∃ gen,
      startGatewayGeneration disk (startGateway platform disk).2 = .ok gen ∧
      srv.inner.assignment = startAssignment platform cfg disk gen := by
  unfold start at h
  split at h
  · cases h
  next hide =>
    dsimp only at h
    split at h
    · cases h
    next gen hgen =>
      have hpos := (startGatewayGeneration_ok hgen).1
      have hcluI : disk.cluster.clusterId = cfg.cluster.clusterId := by
        unfold sameClusterIdentity at hide
        simp only [Bool.not_eq_true', Bool.not_eq_false, Bool.and_eq_true,
          decide_eq_true_eq] at hide
        exact hide.1.1.2
      split at h
      · split at h
        · cases h
        next disk' hwri =>
          cases h
          obtain ⟨rfl, -⟩ := replace_ok hwri
          exact ⟨⟨rfl, hcluI, rfl, rfl, hpos, Nat.le_refl _, Nat.le_refl _,
            .inl ⟨rfl, rfl⟩⟩, gen, hgen, rfl⟩
      next hcha =>
        cases h
        obtain ⟨hima, hkept⟩ := start_kept (Bool.eq_false_iff.mpr hcha) hgen
        refine ⟨⟨?_, hcluI, rfl, rfl, hpos, Nat.le_of_eq hkept, Nat.le_refl _,
          .inl ⟨rfl, rfl⟩⟩, gen, hgen, rfl⟩
        unfold serve
        dsimp only
        rw [hima]

/-! ## The life of a cluster -/

/-- The assignment an event sends to a gateway. -/
def World.assigned (platform : Platform) (env : Env) (world : World) :
    Event → Option GatewayAssignment
  | .heartbeat nodeId body =>
    match (heartbeat platform world.config env world.server nodeId body).2 with
    | .ok response => response.gatewayConfig
    | .error _ => none
  | _ => none

/-- A cluster from its first controller on: the assignments sent so far, newest first,
and the controller in charge. `mayRestart` and `mayRecover` restrict the settings a
process is started with. -/
inductive ClusterLife (platform : Platform) (mayRestart : World → ControllerConfig → Prop)
    (mayRecover : GatewayAssignment → ControllerConfig → Prop) :
    List GatewayAssignment → World → Prop
  | started {world : World} (h : Started platform world) :
      ClusterLife platform mayRestart mayRecover [] world
  | event {sent : List GatewayAssignment} {world : World} (env : Env) (event : Event)
      (h : ClusterLife platform mayRestart mayRecover sent world) (hfresh : FreshIds env world)
      (hrestart : ∀ config, event = .restart config → mayRestart world config) :
      ClusterLife platform mayRestart mayRecover
        ((world.assigned platform env event).toList ++ sent) (world.step platform env event)
  /-- The database is lost. A new controller is initialised from the newest snapshot
  the gateways keep. -/
  | recovered {sent : List GatewayAssignment} {world : World} (env : Env)
      (config : ControllerConfig) (kept : List GatewayRecoverySnapshot)
      (newest : GatewayAssignment) (server : Server)
      (h : ClusterLife platform mayRestart mayRecover sent world)
      (hkept : ∀ snapshot ∈ kept, ∃ assignment ∈ sent, assignment.recoverySnapshot = snapshot)
      (hnewest : newest ∈ sent) (hlatest : ∀ other ∈ sent, other.generation ≤ newest.generation)
      (hselect : selectGatewayRecoverySnapshot config.cluster.clusterId kept
        = .ok newest.recoverySnapshot)
      (hstart : start platform config env (recoveredDisk config newest.recoverySnapshot)
        = .ok server)
      (hrecover : mayRecover newest config) :
      ClusterLife platform mayRestart mayRecover sent { config, server }

/-- A process started with this configuration renders the published config, or
publishes under another generation: the stored one is later, or the image moves. -/
def RestartKeeps (platform : Platform) (world : World) (config : ControllerConfig) : Prop :=
  startConfig platform config world.server.disk = world.server.inner.gatewayConfig ∨
    world.server.inner.gatewayGeneration < world.server.disk.state.gatewayGeneration ∨
    (startGateway platform world.server.disk).2 = true

/-- A controller initialised with this configuration renders the config that was sent
with the snapshot, or moves to another image. -/
def RecoveryKeeps (platform : Platform) (newest : GatewayAssignment) (config : ControllerConfig) :
    Prop :=
  startConfig platform config (recoveredDisk config newest.recoverySnapshot) = newest.config ∨
    (startGateway platform (recoveredDisk config newest.recoverySnapshot)).2 = true

/-- The invariant of a life: assignments sent so far are covered by the published one. -/
structure Consistent (platform : Platform) (sent : List GatewayAssignment) (world : World) :
    Prop where
  anchored : Anchored platform world.config world.server
  identifies : Identifies GatewayAssignment.generation sent
  covers : Covers GatewayAssignment.generation sent world.server.inner.assignment
  snapshots : ∀ assignment ∈ sent, assignment.recoverySnapshot = GatewayRecoverySnapshot.new
    assignment.recoverySnapshot.clusterId assignment.generation
    assignment.recoverySnapshot.stackRoutes

theorem restart_follows (h : Anchored platform world.config world.server)
    (hkee : RestartKeeps platform world cfg)
    (hsta : start platform cfg env world.server.disk = .ok srv) :
    world.server.inner.assignment.Follows srv.inner.assignment := by
  obtain ⟨-, gen, hgen, hass⟩ := start_publishes hsta
  rw [hass]
  have hsto := h.stored
  rcases (startGatewayGeneration_ok hgen).2 with hlat | ⟨hima, rfl⟩
  · exact .inl (lt_of_le_of_lt hsto hlat)
  · rcases hkee with hcon | hlat | hmov
    · rcases Nat.lt_or_eq_of_le hsto with hlt | heq
      · exact .inl hlt
      · refine .inr ?_
        unfold Inner.assignment startAssignment
        rw [hcon, ← heq, h.routes, h.cluster, ← h.snapshot]
    · exact .inl hlat
    · rw [hima] at hmov
      cases hmov

theorem recovery_follows {newest : GatewayAssignment}
    (hsna : newest.recoverySnapshot = GatewayRecoverySnapshot.new
      newest.recoverySnapshot.clusterId newest.generation newest.recoverySnapshot.stackRoutes)
    (hkee : RecoveryKeeps platform newest cfg)
    (hval : newest.recoverySnapshot.validateForCluster cfg.cluster.clusterId = .ok ())
    (hsta : start platform cfg env (recoveredDisk cfg newest.recoverySnapshot) = .ok srv) :
    newest.Follows srv.inner.assignment := by
  obtain ⟨-, gen, hgen, hass⟩ := start_publishes hsta
  rw [hass]
  have hnum : newest.recoverySnapshot.generation = newest.generation := by
    rw [hsna]
    rfl
  rcases (startGatewayGeneration_ok hgen).2 with hlat | ⟨hima, rfl⟩
  · exact .inl (lt_of_eq_of_lt hnum.symm hlat)
  · rcases hkee with hcon | hmov
    · refine .inr ?_
      unfold startAssignment
      rw [hcon]
      show newest = { newest with
        generation := newest.recoverySnapshot.generation
        recoverySnapshot := GatewayRecoverySnapshot.new cfg.cluster.clusterId
          newest.recoverySnapshot.generation newest.recoverySnapshot.stackRoutes }
      rw [hnum, ← (validateForCluster_iff.mp hval).cluster, ← hsna]
    · rw [hima] at hmov
      cases hmov

/-- One event: what it sends is the published assignment. -/
theorem step_publishes (h : Anchored platform world.config world.server)
    (hfre : FreshIds env world) {event : Event}
    (hres : ∀ cfg, event = .restart cfg → RestartKeeps platform world cfg) :
    Republishes platform (world.step platform env event).config world.server
        (world.step platform env event).server ∧
      ∀ asg, world.assigned platform env event = some asg →
        asg = (world.step platform env event).server.inner.assignment := by
  have hreq : event.isRequest = true →
      Republishes platform (world.step platform env event).config world.server
        (world.step platform env event).server := by
    intro hreq
    have hrun : ∀ cfg, event ≠ .restart cfg := by
      intro cfg heq
      rw [heq] at hreq
      cases hreq
    rw [(step_requeued platform env world hrun).config]
    exact (step_requested platform hfre hreq).publishes h
  cases event with
  | heartbeat nodeId body =>
    obtain ⟨hstep, hass⟩ := heartbeat_publishes h hfre.injective hfre.fresh nodeId body
    refine ⟨hstep, fun asg hsent => ?_⟩
    unfold World.assigned at hsent
    dsimp only at hsent
    split at hsent
    next resp hans => exact hass resp hans asg hsent
    · cases hsent
  | tick => exact ⟨tick_publishes h hfre.injective hfre.fresh, fun _ hsent => nomatch hsent⟩
  | updateClusterConfig cluster =>
    exact ⟨updateClusterConfig_publishes h cluster, fun _ hsent => nomatch hsent⟩
  | restart cfg =>
    refine ⟨?_, fun _ hsent => nomatch hsent⟩
    show Republishes platform (world.restart platform env cfg).config world.server
      (world.restart platform env cfg).server
    unfold World.restart
    split
    · exact h.refl
    next srv hsta =>
      exact ⟨(start_publishes hsta).1, restart_follows h (hres cfg rfl) hsta⟩
  | _ => exact ⟨hreq rfl, fun _ hsent => nomatch hsent⟩

theorem ClusterLife.consistent {sent : List GatewayAssignment}
    (h : ClusterLife platform (RestartKeeps platform) (RecoveryKeeps platform) sent world) :
    Consistent platform sent world := by
  induction h with
  | started h =>
    refine ⟨?_, List.Pairwise.nil, (fun _ h => nomatch h), fun _ h => nomatch h⟩
    cases h with
    | fresh h | recovered h => exact (start_publishes h).1
  | @event sent world env event _ hfresh hrestart ih =>
    obtain ⟨hstep, hass⟩ := step_publishes ih.anchored hfresh hrestart
    have hcov := ih.covers.follow hstep.follows
    cases hsent : world.assigned platform env event with
    | none => exact ⟨hstep.anchored, ih.identifies, hcov, ih.snapshots⟩
    | some asg =>
      obtain rfl := hass asg hsent
      refine ⟨hstep.anchored, List.pairwise_cons.mpr ⟨hcov, ih.identifies⟩, hcov.cons, fun other hoth => ?_⟩
      rcases List.mem_cons.mp hoth with rfl | hoth
      · have hsna := hstep.anchored.snapshot
        have hcluI : (world.step platform env event).server.inner.gatewaySnapshot.clusterId
            = (world.step platform env event).server.inner.cluster.clusterId := by
          rw [hsna]
          rfl
        show (world.step platform env event).server.inner.gatewaySnapshot = _
        rw [← hcluI] at hsna
        exact hsna
      · exact ih.snapshots other hoth
  | @recovered sent world env cfg kept newest srv _ hkept hnewest hlatest hselect hstart
      hrecover ih =>
    have hval := (selectGatewayRecoverySnapshot_ok hselect).2
    have hfol := recovery_follows (ih.snapshots newest hnewest) hrecover hval hstart
    -- the newest asg covers the history by itself
    have hcov : Covers GatewayAssignment.generation sent newest := by
      intro other hoth
      rcases Nat.lt_or_eq_of_le (hlatest other hoth) with hlt | heq
      · exact .inl hlt
      · exact .inr (ih.identifies.eq_of_number hoth hnewest heq)
    exact ⟨(start_publishes hstart).1, ih.identifies, hcov.follow hfol, ih.snapshots⟩

/-- **A generation identifies the assignment**: over the whole life of a cluster, equal
generations mean equal assignments, generations never decrease, and no two different
recovery snapshots carry one generation. -/
theorem generation_identifies_assignment {sent : List GatewayAssignment} {world : World}
    (h : ClusterLife platform (RestartKeeps platform) (RecoveryKeeps platform) sent world) :
    (∀ a ∈ sent, ∀ b ∈ sent, a.generation = b.generation → a = b) ∧
      sent.Pairwise (fun newer older => older.generation ≤ newer.generation) ∧
      ∀ a ∈ sent, ∀ b ∈ sent,
        a.recoverySnapshot.generation = b.recoverySnapshot.generation →
        a.recoverySnapshot = b.recoverySnapshot := by
  have hcon := h.consistent
  have hnum : ∀ a ∈ sent, a.recoverySnapshot.generation = a.generation := by
    intro a ha
    rw [hcon.snapshots a ha]
    rfl
  refine ⟨fun a ha b hb heq => hcon.identifies.eq_of_number ha hb heq,
    hcon.identifies.pairwise_le, fun a ha b hb heq => ?_⟩
  rw [hnum a ha, hnum b hb] at heq
  rw [hcon.identifies.eq_of_number ha hb heq]

/-! ### Another advertised URL -/

/-- The controller of the sample cluster under another URL. -/
def movedController : ControllerConfig := { sampleConfig with advertiseUrl := "d.local" }

/-- A gateway reports in, the controller restarts, and the gateway reports in again. -/
def restartedWorld (config : ControllerConfig) : World :=
  (sampleWorld.step samplePlatform (sampleEnv "1") (sampleBeat [] [] [])).step samplePlatform
    (sampleEnv "2") (.restart config)

/-- The assignments the gateway is sent before and after. -/
def restartedAssignments (config : ControllerConfig) : List GatewayAssignment :=
  ((restartedWorld config).assigned samplePlatform (sampleEnv "3") (sampleBeat [] [] [])).toList
    ++ (sampleWorld.assigned samplePlatform (sampleEnv "1") (sampleBeat [] [] [])).toList

theorem restarted_life {mayRestart : World → ControllerConfig → Prop}
    {mayRecover : GatewayAssignment → ControllerConfig → Prop}
    (hmay : mayRestart (sampleWorld.step samplePlatform (sampleEnv "1") (sampleBeat [] [] [])) cfg)
    (hfre : (restartedWorld cfg).tagFree "3" = true) :
    ClusterLife samplePlatform mayRestart mayRecover (restartedAssignments cfg)
      ((restartedWorld cfg).step samplePlatform (sampleEnv "3") (sampleBeat [] [] [])) := by
  have hfir : ClusterLife samplePlatform mayRestart mayRecover
      ((sampleWorld.assigned samplePlatform (sampleEnv "1") (sampleBeat [] [] [])).toList ++ [])
      (sampleWorld.step samplePlatform (sampleEnv "1") (sampleBeat [] [] [])) :=
    ClusterLife.event (sampleEnv "1") (sampleBeat [] [] []) (.started sampleWorld_started)
      (freshIds_of_tagFree (by decide +kernel)) (fun _ heq => nomatch heq)
  rw [List.append_nil] at hfir
  have hsec := ClusterLife.event (sampleEnv "2") (.restart cfg) hfir
    (freshIds_of_tagFree (by decide +kernel)) (fun _ heq => Event.restart.inj heq ▸ hmay)
  exact ClusterLife.event (sampleEnv "3") (sampleBeat [] [] []) hsec
    (freshIds_of_tagFree hfre) (fun _ heq => nomatch heq)

/-- A restart with the same settings. -/
theorem generation_identifies_assignment_restarted :
    (restartedAssignments sampleConfig).length = 2 ∧
      ∀ a ∈ restartedAssignments sampleConfig, ∀ b ∈ restartedAssignments sampleConfig,
        a.generation = b.generation → a = b :=
  ⟨by decide +kernel,
    (generation_identifies_assignment (restarted_life (Or.inl (by decide +kernel))
      (by decide +kernel))).1⟩

/-- A restart under another URL sends another config under the old generation. -/
theorem restart_reuses_generation :
    ClusterLife samplePlatform (fun _ _ => True) (fun _ _ => True)
        (restartedAssignments movedController)
        ((restartedWorld movedController).step samplePlatform (sampleEnv "3")
          (sampleBeat [] [] [])) ∧
      ∃ a ∈ restartedAssignments movedController, ∃ b ∈ restartedAssignments movedController,
        a.generation = b.generation ∧ a.config ≠ b.config :=
  ⟨restarted_life trivial (by decide +kernel), by decide +kernel⟩

end Swarmlite
