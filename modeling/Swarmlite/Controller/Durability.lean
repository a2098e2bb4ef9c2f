import Swarmlite.Controller.Flags
import Swarmlite.Controller.Steps

/-!
# Memory and database

Every request changes the process first and writes afterwards; if the write fails,
it puts back what it changed. `InSync` says that this worked: the stored document is
what is left of the process after writing and reading it back.

A commit makes the two agree. A pass that commits nothing must have changed nothing
that is stored, which is what the change flags are trusted for
(`Controller.Flags`). A request that fails is undone by the error path of the
request itself. Two of these paths are incomplete:

- `update_cluster_config` puts back the settings, but the failed commit has already
  moved `gateway_generation` in the state;
- a heartbeat or tick whose deployments cannot be judged, because the gateway
  generation is exhausted, returns with the scheduled state in place.

`Durable` excludes them, and **`memory_in_sync`** says that in every run of durable
events, restarts among them, the process and its database agree, and that an event
which leaves the generation alone leaves everything that is stored alone.
-/

namespace Swarmlite

open Ordered Relation Loop

/-- The database holds what is stored of the process, under the same generation. -/
structure InSync (server : Server) : Prop where
  cluster : server.disk.cluster = server.inner.cluster
  state : server.disk.state = server.inner.state.persisted
  generation : server.disk.generation = server.inner.generation

/-- In sync, with a document that could be written again. The gateway generation
counts only if `exact` asks for it. -/
structure Stored (exact : Prop) (config : ControllerConfig) (server : Server) : Prop where
  cluster : server.disk.cluster = server.inner.cluster
  state : server.disk.state = { server.inner.state.persisted with
    gatewayGeneration := server.disk.state.gatewayGeneration }
  gateway : exact → server.disk.state.gatewayGeneration = server.inner.state.gatewayGeneration
  generation : server.disk.generation = server.inner.generation
  identity : sameClusterIdentity server.disk.cluster config.cluster = true
  storable : operationsStorable server.disk.state.serviceOperations = true

variable {srv srv' : Server} {disk : VersionedState} {cluster : ClusterSettings}
  {state : ClusterState} {world : World} {cfg : ControllerConfig}

theorem Stored.inSync (h : Stored True cfg srv) : InSync srv := by
  refine ⟨h.cluster, ?_, h.generation⟩
  rw [h.state, h.gateway trivial]
  rfl

/-- Tasks are stored whether or not the gateway generation is. -/
theorem Stored.tasks {exact : Prop} (h : Stored exact cfg srv) :
    srv.disk.state.tasks = srv.inner.state.persisted.tasks := by
  rw [h.state]

/-- The database stays, or moves on to a later generation. -/
structure Writes (exact : Prop) (config : ControllerConfig) (server server' : Server) : Prop where
  stored : Stored exact config server'
  disk : server'.disk = server.disk ∨ server.disk.generation < server'.disk.generation

variable {platform : Platform} {config : ControllerConfig} {env : Env} {exact : Prop}

/-- A process that differs from one in sync in nothing that is stored. -/
theorem Stored.same {inner : Inner} (h : Stored exact config srv)
    (hclu : inner.cluster = srv.inner.cluster)
    (hsta : inner.state.persisted = srv.inner.state.persisted)
    (hgen : inner.generation = srv.inner.generation) :
    Writes exact config srv { srv with inner } := by
  refine ⟨⟨h.cluster.trans hclu.symm, ?_, fun hexa => (h.gateway hexa).trans ?_,
    h.generation.trans hgen.symm, h.identity, h.storable⟩, .inl rfl⟩
  · show srv.disk.state = { inner.state.persisted with
      gatewayGeneration := srv.disk.state.gatewayGeneration }
    rw [hsta]
    exact h.state
  · exact (congrArg ClusterState.gatewayGeneration hsta).symm

theorem Stored.refl (h : Stored exact config srv) : Writes exact config srv srv := ⟨h, .inl rfl⟩

theorem Writes.trans {a b c : Server} (h : Writes exact config a b) (h' : Writes exact config b c) :
    Writes exact config a c := by
  refine ⟨h'.stored, ?_⟩
  rcases h'.disk with heq | hlt
  · exact heq ▸ h.disk
  · rcases h.disk with heq' | hlt'
    · exact .inr (heq' ▸ hlt)
    · exact .inr (lt_trans hlt' hlt)

/-! ## Writing -/

/-- A document in sync is replaced unless SQLite fails or its integers run out. -/
theorem replace_succeeds (hsto : Stored exact config srv)
    (hope : state.serviceOperations = srv.inner.state.serviceOperations)
    (hide : sameClusterIdentity cluster config.cluster = true)
    (hsql : env.sqlite = none) (hran : srv.inner.generation + 1 ≤ 9223372036854775807) :
    ∃ disk, replace config env srv.disk srv.inner.generation cluster state = .ok disk := by
  have hsame : state.serviceOperations = srv.disk.state.serviceOperations := by
    rw [hope, hsto.state]
    rfl
  have hid : srv.disk.cluster.clusterId = cluster.clusterId := by
    have hdisk := hsto.identity
    unfold sameClusterIdentity at hdisk hide
    simp only [Bool.and_eq_true, decide_eq_true_eq] at hdisk hide
    exact hdisk.1.1.2.trans hide.1.1.2.symm
  have haut : newOperationsAuthorized env srv.disk.state.serviceOperations
      state.serviceOperations = true := by
    unfold newOperationsAuthorized
    rw [hsame]
    refine List.all_eq_true.mpr fun op hop => ?_
    rw [Table.contains_iff.mpr ⟨op, hop, rfl⟩]
    rfl
  refine ⟨{ generation := srv.inner.generation + 1, cluster, state := state.persisted }, ?_⟩
  unfold replace
  rw [if_neg (by rw [hide]; exact Bool.false_ne_true), if_neg (by omega), if_neg (by omega), hsql]
  dsimp only
  rw [if_neg (by simp [hsto.generation, hid]), if_neg (by rw [haut]; exact Bool.false_ne_true),
    if_neg (by rw [hsame, hsto.storable]; exact Bool.false_ne_true)]

theorem commitLocked_writes (h : commitLocked platform config env srv = .ok srv') :
    Stored exact config srv' ∧ srv.disk.generation < srv'.disk.generation := by
  obtain ⟨snap, -, rfl, hide, hexp, hsto⟩ := commitLocked_ok h
  exact ⟨⟨rfl, rfl, fun _ => rfl, rfl, hide, hsto⟩, hexp.trans_lt (Nat.lt_succ_self _)⟩

theorem commitGatewayAckLocked_writes (h : commitGatewayAckLocked config env srv = .ok srv') :
    Stored exact config srv' ∧ srv.disk.generation < srv'.disk.generation := by
  obtain ⟨rfl, hide, hexp, hsto⟩ := commitGatewayAckLocked_ok h
  exact ⟨⟨rfl, rfl, fun _ => rfl, rfl, hide, hsto⟩, hexp.trans_lt (Nat.lt_succ_self _)⟩

theorem Requested.writes {cause : Cause} (h : Requested platform config env cause srv srv')
    (hsto : Stored exact config srv) :
    Writes exact config srv srv' := by
  cases h with
  | unchanged => exact hsto.refl
  | committed _ hcom =>
    obtain ⟨hsto', hlt⟩ := commitLocked_writes hcom
    exact ⟨hsto', .inr hlt⟩

/-! ## Passes -/

variable (platform config env) in
/-- Only an exhausted gateway generation keeps deployments from being judged. -/
theorem judge_succeeds (refreshAt : Int) {pass : Pass}
    (h : pass.inner.gatewayGeneration < 18446744073709551615) :
    ∃ judged, judge platform config env refreshAt pass = .ok judged := by
  have hsna : ∃ snap, nextGatewaySnapshot platform config pass.inner = .ok snap := by
    unfold nextGatewaySnapshot
    extract_lets rendered snapshotChanged next
    have hnext : next ≤ pass.inner.gatewayGeneration + 1 := by
      unfold next
      split <;> omega
    exact ⟨_, if_neg (by omega)⟩
  obtain ⟨snap, hsna⟩ := hsna
  unfold judge refreshStackDeploymentsLocked
  rw [hsna]
  exact ⟨_, rfl⟩

/-- What a pass keeps of the process besides the state. -/
structure SameDocument (inner inner' : Inner) : Prop where
  cluster : inner'.cluster = inner.cluster
  generation : inner'.generation = inner.generation
  gatewayGeneration : inner'.gatewayGeneration = inner.gatewayGeneration

/-- However a pass ends, the database keeps up with the process. -/
theorem Ended.writes {refreshAt : Int} {scheduled : Pass} {passed : Bool}
    (h : Ended platform config env refreshAt srv scheduled passed srv')
    (hsto : Stored exact config srv)
    (hgen : srv.inner.gatewayGeneration < 18446744073709551615)
    (hfra : SameDocument srv.inner scheduled.inner)
    (hfla : scheduled.changed = false → scheduled.state.persisted = srv.inner.state.persisted) :
    Writes exact config srv srv' := by
  have hdoc : ∀ {judged}, judge platform config env refreshAt scheduled = .ok judged →
      judged.inner.cluster = srv.inner.cluster ∧
      judged.inner.generation = srv.inner.generation := by
    intro judged hjud
    rw [(judge_ok hjud).1]
    exact ⟨hfra.cluster, hfra.generation⟩
  have hunc : ∀ {judged}, judge platform config env refreshAt scheduled = .ok judged →
      judged.changed = false → judged.state.persisted = srv.inner.state.persisted := by
    intro judged hjud hdown
    obtain ⟨hsch, hsame⟩ := judge_flagged hjud hdown
    exact hsame.trans (hfla hsch)
  cases h with
  | unjudged hfai =>
    rw [← hfra.gatewayGeneration] at hgen
    obtain ⟨judged, hjud⟩ := judge_succeeds platform config env refreshAt hgen
    rw [hjud] at hfai
    cases hfai
  | undone hjud => exact hsto.same (hdoc hjud).1 rfl (hdoc hjud).2
  | unchanged hjud hdown => exact hsto.same (hdoc hjud).1 (hunc hjud hdown) (hdoc hjud).2
  | committed _ hcom =>
    obtain ⟨hsto', hlt⟩ := commitLocked_writes hcom
    exact ⟨hsto', .inr hlt⟩
  | refreshed hjud hdown href hinn =>
    -- publishing and notifying touch nothing that is stored
    obtain ⟨snap, -, rfl⟩ := refreshGatewaySnapshot_ok href
    rcases hinn with rfl | rfl <;>
      exact hsto.same (hdoc hjud).1 (hunc hjud hdown) (hdoc hjud).2

theorem tick_writes (hsto : Stored exact config srv)
    (hgen : srv.inner.gatewayGeneration < 18446744073709551615) :
    Writes exact config srv (tick platform config env srv) := by
  have hfla := scheduleAndRoute_flagged platform config env true { inner := srv.inner }
  obtain ⟨passed, h⟩ := tick_ended platform config env srv
  exact h.writes hsto hgen ⟨rfl, rfl, rfl⟩ fun hdown => (hfla hdown).2

variable (platform config env) in
theorem heartbeatScheduled_frame (inner : Inner) (member : NodeMember) (body : NodeHeartbeat) :
    SameDocument inner (heartbeatScheduled platform config env inner member body).inner := by
  have hrec := (record_records config.cluster.clusterId env.now member.id body
    (admitNode env.now member body inner)).inner
  refine ⟨?_, ?_, ?_⟩
  all_goals
    unfold heartbeatScheduled scheduleAndRoute Pass.update Inner.withState
    dsimp only
    rw [hrec]
    rfl

variable (platform config env) in
theorem heartbeatScheduled_unchanged {inner : Inner} {member : NodeMember} (body : NodeHeartbeat)
    (hmem : inner.state.members.get? member.id = some member)
    (h : (heartbeatScheduled platform config env inner member body).changed = false) :
    (heartbeatScheduled platform config env inner member body).state.persisted
      = inner.state.persisted := by
  have hfla := (record_flagged config.cluster.clusterId env.now member.id body
    (admitNode env.now member body inner)).trans
    (scheduleAndRoute_flagged platform config env false _)
  obtain ⟨hadm, hsame⟩ := hfla h
  exact hsame.trans (admitNode_unchanged hmem hadm)

theorem heartbeat_writes (hsto : Stored exact config srv)
    (hgen : srv.inner.gatewayGeneration < 18446744073709551615) (nodeId : String)
    (body : NodeHeartbeat) :
    Writes exact config srv (heartbeat platform config env srv nodeId body).1 := by
  refine heartbeat_rule hsto.refl (fun hget _ hend => ?_) fun hwri hcom => ?_
  · obtain rfl := Table.key_of_get? hget
    exact hend.writes hsto hgen (heartbeatScheduled_frame platform config env srv.inner _ body)
      (heartbeatScheduled_unchanged platform config env body hget)
  · obtain ⟨hsto', hlt⟩ := commitGatewayAckLocked_writes hcom
    exact hwri.trans ⟨hsto', .inr hlt⟩

/-! ## Settings -/

/-- The write of new settings goes through, unless SQLite fails or its integers run out. -/
structure SettingsStorable (env : Env) (world : World) (cluster : ClusterSettings) : Prop where
  sqlite : env.sqlite = none
  identity : sameClusterIdentity cluster world.config.cluster = true
  range : world.server.inner.generation + 1 ≤ 9223372036854775807

/-- The new settings render the published config, and its generation is the stored one. -/
structure SettingsUnpublished (platform : Platform) (world : World) (cluster : ClusterSettings) :
    Prop where
  config : renderedGatewayConfig platform world.config { world.server.inner with cluster }
    = world.server.inner.gatewayConfig
  routes : world.server.inner.gatewaySnapshot.stackRoutes = world.state.gatewayRoutes
  generation : world.server.inner.gatewayGeneration = world.state.gatewayGeneration

theorem updateClusterConfig_writes (hstor : Stored exact world.config world.server)
    (h : exact → SettingsStorable env world cluster ∨ SettingsUnpublished platform world cluster) :
    Writes exact world.config world.server
      (updateClusterConfig platform world.config env world.server cluster) := by
  unfold updateClusterConfig
  split
  · exact hstor.refl
  dsimp only
  split
  next srv' hcom =>
    obtain ⟨hstor', hlt⟩ := commitLocked_writes hcom
    exact ⟨hstor', .inr hlt⟩
  next hfai =>
    split
    · exact hstor.refl
    next snap hsna =>
      refine ⟨⟨hstor.cluster, hstor.state, fun hexa => ?_, hstor.generation,
        hstor.identity, hstor.storable⟩, .inl rfl⟩
      rcases h hexa with hsto | hunp
      · -- the commit cannot have failed
        have hwri : ∃ disk, replace world.config env world.server.disk
            world.server.inner.generation cluster
            { world.server.inner.state with gatewayGeneration := snap.1 } = .ok disk :=
          replace_succeeds hstor rfl hsto.identity hsto.sqlite hsto.range
        obtain ⟨disk, hdisk⟩ := hwri
        unfold commitLocked at hfai
        rw [hsna] at hfai
        dsimp only at hfai
        rw [hdisk] at hfai
        cases hfai
      · -- the generation stays what it was
        have hnext := (nextGatewaySnapshot_ok hsna).2.2
        rw [if_pos ⟨hunp.config, not_not.mpr hunp.routes⟩] at hnext
        exact (hstor.gateway hexa).trans (hunp.generation.symm.trans hnext.symm)

/-! ## Starting -/

theorem TaskRecord.persisted_persisted (task : TaskRecord) :
    task.persisted.persisted = task.persisted := by
  unfold TaskRecord.persisted
  dsimp only
  split <;> rfl

theorem persisted_persisted (state : ClusterState) :
    state.persisted.persisted = state.persisted := by
  have hsame : (state.tasks.map TaskRecord.persisted TaskRecord.persisted_id).map
      TaskRecord.persisted TaskRecord.persisted_id
      = state.tasks.map TaskRecord.persisted TaskRecord.persisted_id := by
    rw [Table.map_map]
    exact Table.map_congr fun task _ => task.persisted_persisted
  unfold ClusterState.persisted
  dsimp only
  rw [hsame]

theorem skipMissedService_eq_self {ext : Externals} {now : Int} {svc : ServiceRecord}
    (h : Jobs.missed ext now svc = false) : Jobs.skipMissedService ext now svc = svc := by
  unfold Jobs.missed at h
  unfold Jobs.skipMissedService
  split
  next job cursor hjob hcur =>
    rw [hjob, hcur] at h
    dsimp only at h
    split
    next hdue =>
      rw [decide_eq_true hdue, Bool.true_and] at h
      rw [Option.isSome_eq_false_iff, Option.isNone_iff_eq_none] at h
      rw [h]
    · rfl
  · rfl

/-- A start that renews nothing works on the stored state. -/
theorem startState_unchanged (h : startChanged platform config env state false = false) :
    startState platform config env state state.gatewayGeneration = state := by
  unfold startChanged at h
  simp only [Bool.or_eq_false_iff, Bool.false_or] at h
  obtain ⟨⟨⟨-, hdrai⟩, hmis⟩, hmem⟩ := h
  have htas : state.tasks.map forgetDrainDeadline forgetDrainDeadline_id = state.tasks := by
    refine Table.map_eq_self fun task htask => ?_
    have hdrain := any_eq_false_of hdrai task htask
    unfold forgetDrainDeadline
    split
    next hdra =>
      rw [decide_eq_true hdra, Bool.true_and, Option.isSome_eq_false_iff,
        Option.isNone_iff_eq_none] at hdrain
      rw [← hdrain]
    · rfl
  have hserv : state.services.map (Jobs.skipMissedService platform.toExternals env.now.unixMs)
      (Jobs.skipMissedService_id platform.toExternals env.now.unixMs) = state.services :=
    Table.map_eq_self fun svc hser =>
      skipMissedService_eq_self (any_eq_false_of hmis svc hser)
  have hmemb : state.members.insert (controllerMember platform config env state.members)
      = state.members :=
    Table.insert_eq_self (not_not.mp (of_decide_eq_false hmem))
  unfold startState Jobs.skipMissed ClusterState.withTasks
  dsimp only
  rw [htas, hserv, hmemb]

/-- A start that writes nothing keeps the image and the gateway generation. -/
theorem start_kept {gen : Nat} (hunc : startChanged platform config env disk.state
      (refreshManagedGatewayImage platform.defaultGatewayImage disk.cluster.gateway).2 = false)
    (hgen : startGatewayGeneration disk
      (refreshManagedGatewayImage platform.defaultGatewayImage disk.cluster.gateway).2 = .ok gen) :
    refreshManagedGatewayImage platform.defaultGatewayImage disk.cluster.gateway
        = (disk.cluster.gateway, false) ∧ gen = disk.state.gatewayGeneration := by
  have hima : (refreshManagedGatewayImage platform.defaultGatewayImage
      disk.cluster.gateway).2 = false := by
    unfold startChanged at hunc
    simp only [Bool.or_eq_false_iff] at hunc
    exact hunc.1.1.1.1
  refine ⟨?_, ?_⟩
  · unfold refreshManagedGatewayImage at hima ⊢
    split at hima
    · cases hima
    next hcus => rw [if_neg hcus]
  · rw [hima] at hgen hunc
    unfold startGatewayGeneration at hgen
    split at hgen
    next hzero =>
      unfold startChanged at hunc
      rw [hzero] at hunc
      cases hunc
    · cases hgen
      rfl

theorem start_writes
    (h : start platform config env disk = .ok srv) (hdisk : disk.state.persisted = disk.state)
    (hsto : operationsStorable disk.state.serviceOperations = true) :
    Stored exact config srv ∧ (srv.disk = disk ∨ disk.generation < srv.disk.generation) := by
  unfold start at h
  split at h
  · cases h
  next hide =>
    dsimp only at h
    split at h
    · cases h
    next gen hgen =>
      split at h
      · split at h
        · cases h
        next disk' hwri =>
          cases h
          obtain ⟨rfl, hide', -, hsto'⟩ := replace_ok hwri
          exact ⟨⟨rfl, rfl, fun _ => rfl, rfl, hide', hsto'⟩, .inr (Nat.lt_succ_self _)⟩
      next hcha =>
        cases h
        have hunc := Bool.eq_false_iff.mpr hcha
        obtain ⟨hima, rfl⟩ := start_kept hunc hgen
        rw [hima] at hunc
        have hsta : (startState platform config env disk.state
            disk.state.gatewayGeneration).persisted = disk.state := by
          rw [startState_unchanged hunc, hdisk]
        refine ⟨⟨?_, ?_, fun _ => rfl, rfl, by simpa using hide, hsto⟩, .inl rfl⟩
        · unfold serve
          dsimp only
          rw [hima]
        · unfold serve
          dsimp only
          rw [hsta]

/-! ## Runs -/

/-- The first world of a controller: it started on a new database, or on one made from
a gateway's snapshot. -/
inductive Started (platform : Platform) : World → Prop
  | fresh {config : ControllerConfig} {env : Env} {server : Server}
      (h : start platform config env (initialDisk config) = .ok server) :
      Started platform { config, server }
  | recovered {config : ControllerConfig} {env : Env} {snapshot : GatewayRecoverySnapshot}
      {server : Server}
      (h : start platform config env (recoveredDisk config snapshot) = .ok server) :
      Started platform { config, server }

theorem Started.stored (h : Started platform world) : Stored exact world.config world.server := by
  cases h with
  | fresh h | recovered h => exact (start_writes h rfl rfl).1

/-- The events whose failure leaves nothing behind. -/
def Durable (platform : Platform) (env : Env) (world : World) : Event → Prop
  | .heartbeat _ _ => world.server.inner.gatewayGeneration < 18446744073709551615
  | .tick => world.server.inner.gatewayGeneration < 18446744073709551615
  | .updateClusterConfig cluster =>
    SettingsStorable env world cluster ∨ SettingsUnpublished platform world cluster
  | _ => True

/-- The events after which at most the gateway generation is not stored. -/
def Unexhausted (world : World) : Event → Prop
  | .heartbeat _ _ => world.server.inner.gatewayGeneration < 18446744073709551615
  | .tick => world.server.inner.gatewayGeneration < 18446744073709551615
  | _ => True

theorem Durable.unexhausted {event : Event}
    (h : Durable platform env world event) : Unexhausted world event := by
  cases event with
  | heartbeat | tick => exact h
  | _ => trivial

/-- **An event leaves process and database in sync**, with the gateway generation if
the event is durable. -/
theorem step_writes (hsto : Stored exact world.config world.server)
    (hfre : FreshIds env world) {event : Event} (hune : Unexhausted world event)
    (hdur : exact → Durable platform env world event) :
    Writes exact (world.step platform env event).config world.server
      (world.step platform env event).server := by
  rcases event.ne_restart_or with hres | ⟨config, rfl⟩
  · rw [(step_requeued platform env world hres).config]
    cases event with
    | heartbeat nodeId body => exact heartbeat_writes hsto hune nodeId body
    | tick => exact tick_writes hsto hune
    | updateClusterConfig cluster => exact updateClusterConfig_writes hsto hdur
    | restart config => exact absurd rfl (hres config)
    | _ => exact (step_requested platform hfre rfl).writes hsto
  · show Writes exact (world.restart platform env config).config world.server
      (world.restart platform env config).server
    unfold World.restart
    split
    · exact hsto.refl
    next srv hok =>
      have hread : world.server.disk.state.persisted = world.server.disk.state := by
        rw [hsto.state]
        exact congrArg (fun s : ClusterState => { s with
          gatewayGeneration := world.server.disk.state.gatewayGeneration })
          (persisted_persisted world.server.inner.state)
      obtain ⟨hsto', hdisk⟩ := start_writes hok hread hsto.storable
      exact ⟨hsto', hdisk⟩

theorem Runs.stored {first : World} (hrun : Runs platform (Durable platform) first world)
    (hfir : Started platform first) : Stored True world.config world.server :=
  hrun.keeps (Q := fun world => Stored True world.config world.server)
    (fun hfre hdur ih => (step_writes ih hfre hdur.unexhausted fun _ => hdur).stored) hfir.stored

/-- **Memory equals disk**: along every run of durable events, and an event that keeps
the generation keeps everything that is stored. -/
theorem memory_in_sync {first world : World} (hfirst : Started platform first)
    (hrun : Runs platform (Durable platform) first world) (hfresh : FreshIds env world)
    {event : Event} (hdurable : Durable platform env world event) :
    InSync (world.step platform env event).server ∧
      ((world.step platform env event).server.inner.generation = world.server.inner.generation →
        (world.step platform env event).server.inner.cluster = world.server.inner.cluster ∧
        (world.step platform env event).state.persisted = world.state.persisted) := by
  have hsto := hrun.stored hfirst
  have hwri := step_writes hsto hfresh hdurable.unexhausted fun _ => hdurable
  have hsync := hwri.stored.inSync
  refine ⟨hsync, fun hsame => ?_⟩
  have hdisk : (world.step platform env event).server.disk = world.server.disk := by
    refine hwri.disk.resolve_right fun hlt => ?_
    rw [hsto.generation, hwri.stored.generation, hsame] at hlt
    exact lt_irrefl _ hlt
  refine ⟨?_, ?_⟩
  · rw [← hwri.stored.cluster, hdisk, hsto.cluster]
  · exact hsync.state.symm.trans
      ((congrArg VersionedState.state hdisk).trans hsto.inSync.state)

/-! ### A failed change of settings -/

/-- The gateways of the sample cluster move to another port. -/
def movedListener : ClusterSettings :=
  { sampleConfig.cluster with gateway := { sampleConfig.cluster.gateway with listen := [":8080"] } }

def settingsInput : Input := { event := .updateClusterConfig movedListener, tag := "a" }

def tickInput : Input := { event := .tick, tag := "b" }

theorem sampleWorld_started : Started samplePlatform sampleWorld :=
  have hsta : start samplePlatform sampleConfig
      { now := ⟨0, 0⟩, later := ⟨0, 0⟩, uuid := taggedId "" } (initialDisk sampleConfig)
      = .ok sampleServer := rfl
  Started.fresh hsta

/-- New settings, then a tick: both are durable. -/
theorem memory_in_sync_sample :
    InSync (sampleWorld.perform samplePlatform [settingsInput, tickInput]).server := by
  have hrun : Runs samplePlatform (Durable samplePlatform) sampleWorld
      (sampleWorld.step samplePlatform settingsInput.env settingsInput.event) :=
    ReflTransGen.single ⟨settingsInput.env, settingsInput.event,
      freshIds_of_tagFree (by decide +kernel), Or.inl ⟨rfl, rfl, by decide⟩, rfl⟩
  have hdur : Durable samplePlatform tickInput.env
      (sampleWorld.step samplePlatform settingsInput.env settingsInput.event) .tick := by
    show _ < 18446744073709551615
    decide +kernel
  exact (memory_in_sync sampleWorld_started hrun (freshIds_of_tagFree (by decide +kernel))
    hdur).1

/-- The database refuses the new settings. -/
def fullDisk : Env := { settingsInput.env with sqlite := some "database or disk is full" }

/-- The settings are put back, the moved gateway generation is not. -/
theorem settings_leave_generation_behind :
    Started samplePlatform sampleWorld ∧ FreshIds fullDisk sampleWorld ∧
      InSync sampleWorld.server ∧
      ¬ InSync (sampleWorld.step samplePlatform fullDisk settingsInput.event).server := by
  have hfre : FreshIds settingsInput.env sampleWorld := freshIds_of_tagFree (by decide +kernel)
  refine ⟨sampleWorld_started, ⟨hfre.injective, hfre.tasks, hfre.unclaimed⟩,
    sampleWorld_started.stored.inSync, fun hsync => ?_⟩
  have hgen := congrArg ClusterState.gatewayGeneration hsync.state
  revert hgen
  decide +kernel

end Swarmlite
