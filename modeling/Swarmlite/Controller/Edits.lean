import Swarmlite.Controller.Planning
import Swarmlite.Controller.Recording
import Swarmlite.Controller.Run

/-!
# Every event is a sequence of edits

`Edit` lists the ways in which the cluster state can change. `step_edits` says
that an event is a sequence of edits, and that the database holds either what it
held before or the stored form of the new state. An invariant of all reachable
worlds then takes one small lemma per edit (`Reachable.invariant`), and later
modules never go through the events again.

An edit carries the facts its event checked before it, and its `Cause`: only the
heartbeat of a node admits the node and records its reports, only an apply of a
stack changes its services, adopts its containers and replaces its routes, and
operations, manual runs and cancellations come from their requests.
-/

namespace Swarmlite

open Ordered Relation Loop

variable {state : ClusterState} {nodeId : String}

inductive Cause where
  | heartbeat (nodeId : String)
  | apply (request : ApplyRequest)
  | submit (operationId : String)
  | runJob (taskId : String)
  | cancelJob (taskId : String)
  | other

/-- The member table after a heartbeat of the member from this address. -/
def admitted (state : ClusterState) (member : NodeMember) (node : NodeRecord) : ClusterState :=
  { state with
    members := state.members.modify member.id (fun member =>
      { member with address := node.address }) fun _ => rfl
    nodes := state.nodes.insert (reportedNode member node) }

/-- One change of the cluster state. -/
inductive Edit : Cause → ClusterState → ClusterState → Prop
  /-- A member reports in. -/
  | arrive (s : ClusterState) (member : NodeMember) (node : NodeRecord)
      (hmember : member ∈ s.members) (hnode : node.id = member.id) :
      Edit (.heartbeat member.id) s (admitted s member node)
  /-- Reports of the node are recorded. -/
  | observe {nodeId : String} {s s' : ClusterState} (h : Observed nodeId s s') :
      Edit (.heartbeat nodeId) s s'
  /-- Deployments and operations are judged; no report is involved. -/
  | bookkeep {cause : Cause} {s s' : ClusterState} (h : ∀ nodeId, Observed nodeId s s') :
      Edit cause s s'
  | schedule {cause : Cause} {s s' : ClusterState} (live : Keys String) (h : Move live s s') :
      Edit cause s s'
  | endDrains (s : ClusterState) (now : Int) : Edit .other s (finishDrains s now).1
  | setDeadlines {nodeId : String} (s : ClusterState) (deadline : Int) :
      Edit (.heartbeat nodeId) s (s.withTasks
        (s.tasks.map (setDrainDeadline deadline) (setDrainDeadline_id deadline)))
  | refreshRoutes {cause : Cause} (s : ClusterState) : Edit cause s (refreshReadyStackRoutes s).1
  /-- The services and the record of a stack are rewritten. -/
  | request (inner : Inner) (live : Keys String) (request : ApplyRequest) (now : Int)
      (planning : Planning) (hcheck : checkApply inner request = .ok ())
      (hplan : planServices inner.state live request = .ok planning) :
      Edit (.apply request) inner.state (requestedState inner request now planning)
  /-- New services get the revision of their containers back. -/
  | restore {request : ApplyRequest} {s s' : ClusterState} (ids : List String)
      (hnew : ∀ service ∈ s.services, service.id ∈ ids → service.revision = 1)
      (h : RevisionsRestored ids s s') : Edit (.apply request) s s'
  | adopt {request : ApplyRequest} {s s' : ClusterState} (h : Adopts request.stackName s s') :
      Edit (.apply request) s s'
  | reroute (s : ClusterState) (request : ApplyRequest) :
      Edit (.apply request) s (replaceStackRoute s request.stackName).1
  | retry (s s' : ClusterState) (stackName : String) (now : Int)
      (h : retryStack s stackName now = .ok s') : Edit .other s s'
  | accept (platform : Platform) (config : ControllerConfig) (env : Env) (inner : Inner)
      (request : OperationRequest) (op : ServiceOperationRecord)
      (h : acceptOperation platform config env inner request = .ok op) :
      Edit (.submit ("op_" ++ env.uuid 0)) inner.state
        { inner.state with serviceOperations := inner.state.serviceOperations.insert op }
  /-- Members join, or get other labels or gateway settings. -/
  | member (s : ClusterState) (members : Table NodeMember.id) (nodes : Table NodeRecord.id)
      (hnodes : ∀ node ∈ nodes, ∃ old ∈ s.nodes, node.id = old.id ∧ node.address = old.address)
      (hkept : ∀ old ∈ s.nodes, nodes.contains old.id = true) :
      Edit .other s { s with members, nodes }
  | runJob (s : ClusterState) (service : ServiceRecord) (live : Keys String) (freshId : String)
      (task : TaskRecord) (execution : JobExecution) (hservice : service ∈ s.services)
      (hjob : service.spec.job.isSome) (hfresh : s.tasks.contains freshId = false)
      (hsched : scheduleTask s (Jobs.template service) (Jobs.eligibleNodes s live) freshId
        = some task) :
      Edit (.runJob freshId) s (s.withTasks (s.tasks.insert { task with job := some execution }))
  | cancelJob (s : ClusterState) (id : String)
      (hjob : ∀ task ∈ s.tasks, task.id = id → task.job.isSome) :
      Edit (.cancelJob id) s (s.withTasks (s.tasks.modify id TaskRecord.stop TaskRecord.stop_id))
  | credential (s : ClusterState) (credentials : Map String RegistryCredential) :
      Edit .other s { s with registryCredentials := credentials }
  | publish {cause : Cause} (s : ClusterState) (generation : Nat) :
      Edit cause s { s with gatewayGeneration := generation }

abbrev Edits (cause : Cause) : ClusterState → ClusterState → Prop := ReflTransGen (Edit cause)

variable {s s' : ClusterState} {uuid : Nat → String}

theorem Moves.edits {live : Keys String} (h : Moves live s s') (cause : Cause) : Edits cause s s' :=
  ReflTransGen.mono (fun _ _ hmove => Edit.schedule live hmove) _ _ h

/-! ## Fresh ids -/

/-- Ids stay fresh as long as no task is added. -/
theorem fresh_of_ids (hfre : Fresh uuid { state := s })
    (hids : ∀ task ∈ s'.tasks, ∃ old ∈ s.tasks, old.id = task.id) : Fresh uuid { state := s' } := by
  intro k hk
  refine Table.contains_eq_false.mpr fun task htask hid => ?_
  obtain ⟨old, hold, holdI⟩ := hids task htask
  exact Table.contains_eq_false.mp (hfre k hk) old hold (holdI.trans hid)

theorem fresh_of_map {f : TaskRecord → TaskRecord}
    {hf : ∀ task, (f task).id = task.id} (hfre : Fresh uuid { state := s }) :
    Fresh uuid { state := s.withTasks (s.tasks.map f hf) } := by
  refine fresh_of_ids hfre fun task htask => ?_
  rw [ClusterState.withTasks_tasks, Table.mem_map] at htask
  obtain ⟨old, hold, rfl⟩ := htask
  exact ⟨old, hold, (hf old).symm⟩

theorem Observed.fresh (h : Observed nodeId s s') (hfre : Fresh uuid { state := s }) :
    Fresh uuid { state := s' } := by
  refine fresh_of_ids hfre fun task' htask' => ?_
  obtain ⟨task, htask, hobs⟩ := h.tasks task' htask'
  exact ⟨task, htask, hobs.id.symm⟩

theorem FreshIds.fresh {env : Env} {world : World} (h : FreshIds env world) :
    Fresh env.uuid { state := world.state } :=
  fun k _ => h.tasks k

/-! ## Commits -/

/-- Nothing new is published to the gateways. -/
structure SamePublication (inner inner' : Inner) : Prop where
  generation : inner'.gatewayGeneration = inner.gatewayGeneration
  config : inner'.gatewayConfig = inner.gatewayConfig
  snapshot : inner'.gatewaySnapshot = inner.gatewaySnapshot

theorem SamePublication.refl (inner : Inner) : SamePublication inner inner := ⟨rfl, rfl, rfl⟩

theorem SamePublication.trans {a b c : Inner} (h : SamePublication a b)
    (h' : SamePublication b c) : SamePublication a c :=
  ⟨h'.generation.trans h.generation, h'.config.trans h.config, h'.snapshot.trans h.snapshot⟩

/-- The current routes are what is published. -/
structure PublishedNow (platform : Platform) (config : ControllerConfig) (inner : Inner) :
    Prop where
  config : inner.gatewayConfig = renderedGatewayConfig platform config inner
  routes : inner.gatewaySnapshot.stackRoutes = inner.state.gatewayRoutes

/-- What an event does to the process and its database. -/
structure Effect (platform : Platform) (config : ControllerConfig) (cause : Cause)
    (server server' : Server) : Prop where
  edits : Edits cause server.inner.state server'.inner.state
  disk : server'.disk = server.disk ∨ server'.disk.state = server'.inner.state.persisted
  published : SamePublication server.inner server'.inner ∨
    PublishedNow platform config server'.inner

theorem Effect.refl (plat : Platform) (cfg : ControllerConfig) (cause : Cause)
    (srv : Server) : Effect plat cfg cause srv srv :=
  ⟨.refl, .inl rfl, .inl (SamePublication.refl srv.inner)⟩

/-- A write that went through met the generation it expected. -/
theorem replace_ok {cfg : ControllerConfig} {env : Env} {disk disk' : VersionedState}
    {expected : Nat} {cluster : ClusterSettings}
    (h : replace cfg env disk expected cluster state = .ok disk') :
    disk' = { generation := expected + 1, cluster, state := state.persisted } ∧
      sameClusterIdentity cluster cfg.cluster = true ∧ disk.generation = expected ∧
      operationsStorable state.serviceOperations = true := by
  unfold replace at h
  split at h
  · cases h
  next hide =>
    split at h
    · cases h
    split at h
    · cases h
    split at h
    · cases h
    split at h
    · cases h
    next hexp =>
      split at h
      · cases h
      split at h
      · cases h
      next hsto =>
        cases h
        simp only [Bool.or_eq_true, decide_eq_true_eq, not_or, not_not] at hexp
        exact ⟨rfl, by simpa using hide, hexp.1, by simpa using hsto⟩

section Events

variable {plat : Platform} {config : ControllerConfig} {env : Env} {cause : Cause}

variable {inner : Inner} {srv srv' : Server} {kind : ClusterState → Prop}
  {pass pass' : Pass} {req : ApplyRequest} {snap : Nat × GatewayConfig × GatewayRecoverySnapshot}

/-- The snapshot is the current routes, rendered; its generation moves with them. -/
theorem nextGatewaySnapshot_ok (h : nextGatewaySnapshot plat config inner = .ok snap) :
    snap.2.1 = renderedGatewayConfig plat config inner ∧
      snap.2.2 = GatewayRecoverySnapshot.new inner.cluster.clusterId snap.1
        inner.state.gatewayRoutes ∧
      snap.1 = if renderedGatewayConfig plat config inner = inner.gatewayConfig ∧
        ¬ inner.gatewaySnapshot.stackRoutes ≠ inner.state.gatewayRoutes then inner.gatewayGeneration
        else inner.gatewayGeneration + 1 := by
  unfold nextGatewaySnapshot at h
  extract_lets rendered snapshotChanged next at h
  split at h
  · cases h
  · cases h
    exact ⟨rfl, rfl, rfl⟩

/-- The process after a commit. -/
def Inner.committed (inner : Inner) (snapshot : Nat × GatewayConfig × GatewayRecoverySnapshot) :
    Inner :=
  (({ inner with
    state := { inner.state with gatewayGeneration := snapshot.1 }
    generation := inner.generation + 1 }).publish snapshot).notifyStatus

/-- The server once this is the state of the process and of the database. -/
def Server.written (server : Server) (inner : Inner) : Server :=
  { inner, disk := ⟨server.inner.generation + 1, inner.cluster, inner.state.persisted⟩ }

/-- The database accepts the state of the process. -/
structure Writable (config : ControllerConfig) (server : Server) : Prop where
  identity : sameClusterIdentity server.inner.cluster config.cluster = true
  current : server.disk.generation = server.inner.generation
  storable : operationsStorable server.inner.state.serviceOperations = true

theorem commitLocked_ok (h : commitLocked plat config env srv = .ok srv') :
    ∃ snap, nextGatewaySnapshot plat config srv.inner = .ok snap ∧
      srv' = srv.written (srv.inner.committed snap) ∧ Writable config srv := by
  unfold commitLocked at h
  split at h
  · cases h
  next snap hsna =>
    dsimp only at h
    split at h
    · cases h
    next disk hdisk =>
      cases h
      obtain ⟨rfl, hide, hexp, hsto⟩ := replace_ok hdisk
      exact ⟨snap, hsna, rfl, hide, hexp, hsto⟩

/-- The next snapshot publishes the routes it was rendered from. -/
theorem publish_publishedNow (h : nextGatewaySnapshot plat config inner = .ok snap) :
    PublishedNow plat config (inner.publish snap) := by
  obtain ⟨hcon, hsna, -⟩ := nextGatewaySnapshot_ok h
  refine ⟨hcon, ?_⟩
  show snap.2.2.stackRoutes = _
  rw [hsna]
  rfl

theorem commitLocked_effect {start : Server} (hedi : Edits cause start.inner.state srv.inner.state)
    (h : commitLocked plat config env srv = .ok srv') :
    Effect plat config cause start srv' := by
  obtain ⟨snap, hsna, rfl, -⟩ := commitLocked_ok h
  have hpub := publish_publishedNow hsna
  exact ⟨hedi.tail (Edit.publish srv.inner.state snap.1), .inr rfl, .inr ⟨hpub.config, hpub.routes⟩⟩

theorem commitState_ok (h : commitState plat config env srv state = .ok srv') :
    commitLocked plat config env { srv with inner := srv.inner.withState state } = .ok srv' := by
  unfold commitState at h
  split at h
  · cases h
  next hcom =>
    cases h
    exact hcom

/-- A request that takes the lock once: it commits a state of this kind, or changes nothing. -/
inductive Commits (platform : Platform) (config : ControllerConfig) (env : Env)
    (kind : ClusterState → Prop) (server : Server) : Server → Prop
  | unchanged : Commits platform config env kind server server
  | committed {state : ClusterState} {server' : Server} (hstate : kind state)
      (hcommit : commitLocked platform config env
        { server with inner := server.inner.withState state } = .ok server') :
      Commits platform config env kind server server'

/-- The request commits an edited state. -/
abbrev Requested (platform : Platform) (config : ControllerConfig) (env : Env) (cause : Cause)
    (server : Server) : Server → Prop :=
  Commits platform config env (Edits cause server.inner.state) server

theorem Commits.mono {kind' : ClusterState → Prop}
    (h : Commits plat config env kind srv srv') (hkind : ∀ s, kind s → kind' s) :
    Commits plat config env kind' srv srv' := by
  cases h with
  | unchanged => exact .unchanged
  | committed hsta hcom => exact .committed (hkind _ hsta) hcom

theorem Commits.requested (h : Commits plat config env kind srv srv')
    (hedit : ∀ s, kind s → Edit cause srv.inner.state s) :
    Requested plat config env cause srv srv' :=
  h.mono fun _ hs => .single (hedit _ hs)

theorem Requested.effect (h : Requested plat config env cause srv srv') :
    Effect plat config cause srv srv' := by
  cases h with
  | unchanged => exact Effect.refl plat config cause srv
  | committed hedi hcom => exact commitLocked_effect hedi hcom

theorem commitState_commits (h : commitState plat config env srv state = .ok srv')
    (hsta : kind state) : Commits plat config env kind srv srv' :=
  .committed hsta (commitState_ok h)

theorem commitGatewayAckLocked_ok (h : commitGatewayAckLocked config env srv = .ok srv') :
    srv' = srv.written
        ({ srv.inner with generation := srv.inner.generation + 1 }).notifyStatus ∧
      Writable config srv := by
  unfold commitGatewayAckLocked at h
  split at h
  · cases h
  next disk hdisk =>
    cases h
    obtain ⟨rfl, hide, hexp, hsto⟩ := replace_ok hdisk
    exact ⟨rfl, hide, hexp, hsto⟩

theorem refreshGatewaySnapshot_ok {inner' : Inner}
    (h : refreshGatewaySnapshot plat config inner = .ok inner') :
    ∃ snap, nextGatewaySnapshot plat config inner = .ok snap ∧ inner' = inner.publish snap := by
  unfold refreshGatewaySnapshot at h
  split at h
  · cases h
  next snap hsna =>
    cases h
    exact ⟨snap, hsna, rfl⟩

/-! ## Passes -/

theorem refreshStackDeploymentsLocked_ok {now : Int} {refreshed : Inner × Bool}
    (h : refreshStackDeploymentsLocked plat config now inner = .ok refreshed) :
    (∀ nodeId, Observed nodeId inner.state refreshed.1.state) ∧
      refreshed.1.state = { inner.state with stackRecords := refreshed.1.state.stackRecords } := by
  unfold refreshStackDeploymentsLocked at h
  split at h
  · cases h
  · cases h
    exact ⟨fun nodeId => refreshStackDeployments_observed inner.state now _ _,
      refreshStackDeployments_rest inner.state now _ _⟩

/-- Only a tick ends drains. -/
theorem scheduleAndRoute_edits (endDrains : Bool) (hcau : endDrains = true → cause = .other)
    (huuid : Function.Injective env.uuid) (pass : Pass)
    (hfre : Fresh env.uuid { state := pass.state }) :
    Edits cause pass.state (scheduleAndRoute plat config env endDrains pass).state := by
  have hadv := fun nodeId => advanceServiceOperations_observed nodeId pass.state
    (currentLiveNodes config env.now pass.inner) env.now.unixMs
  have hfreA := (hadv "").fresh hfre
  refine ReflTransGen.head (Edit.bookkeep hadv) ?_
  unfold scheduleAndRoute
  dsimp only [Pass.update_state]
  refine ReflTransGen.tail ?_ (Edit.refreshRoutes _)
  cases endDrains with
  | false => exact (reconcile_moves _ _ huuid _ hfreA).edits cause
  | true =>
    rw [hcau rfl]
    exact ReflTransGen.head (Edit.endDrains _ _)
      ((reconcile_moves _ _ huuid _ (fresh_of_map hfreA)).edits .other)

theorem judge_ok {refreshAt : Int} (h : judge plat config env refreshAt pass = .ok pass') :
    pass'.inner = pass.inner.withState pass'.state ∧
      ∀ nodeId, Observed nodeId pass.state pass'.state := by
  unfold judge at h
  split at h
  · cases h
  next refreshed href =>
    cases h
    obtain ⟨hobs, -⟩ := refreshStackDeploymentsLocked_ok href
    exact ⟨rfl, fun nodeId => (hobs nodeId).trans (advanceServiceOperations_observed nodeId _ _ _)⟩

/-- Judging publishes nothing. -/
theorem SamePublication.judged {refreshAt : Int} (h : SamePublication inner pass.inner)
    (hjud : judge plat config env refreshAt pass = .ok pass') :
    SamePublication inner pass'.inner := by
  rw [(judge_ok hjud).1]
  exact ⟨h.generation, h.config, h.snapshot⟩

theorem scheduleAndRoute_published (endDrains : Bool) (pass : Pass) :
    SamePublication pass.inner (scheduleAndRoute plat config env endDrains pass).inner :=
  ⟨rfl, rfl, rfl⟩

/-- How `tick` and `heartbeat` end: what was scheduled is judged, and committed if it
has changed. A heartbeat that has `passed` publishes the routes and is answered. -/
inductive Ended (platform : Platform) (config : ControllerConfig) (env : Env) (refreshAt : Int)
    (server : Server) (scheduled : Pass) : Bool → Server → Prop
  | unjudged {error : StorageError}
      (h : judge platform config env refreshAt scheduled = .error error) :
      Ended platform config env refreshAt server scheduled false
        { server with inner := scheduled.inner }
  | undone {judged : Pass} (h : judge platform config env refreshAt scheduled = .ok judged) :
      Ended platform config env refreshAt server scheduled false
        { server with inner := judged.inner.withState server.inner.state }
  | unchanged {judged : Pass} (h : judge platform config env refreshAt scheduled = .ok judged)
      (hchanged : judged.changed = false) :
      Ended platform config env refreshAt server scheduled false { server with inner := judged.inner }
  | committed {judged : Pass} {server' : Server}
      (h : judge platform config env refreshAt scheduled = .ok judged)
      (hcommit : commitLocked platform config env { server with inner := judged.inner }
        = .ok server') : Ended platform config env refreshAt server scheduled true server'
  | refreshed {judged : Pass} {inner inner' : Inner}
      (h : judge platform config env refreshAt scheduled = .ok judged)
      (hchanged : judged.changed = false)
      (hrefresh : refreshGatewaySnapshot platform config judged.inner = .ok inner)
      (hinner : inner' = inner ∨ inner' = inner.notifyStatus) :
      Ended platform config env refreshAt server scheduled true { server with inner := inner' }

theorem tick_ended (plat : Platform) (config : ControllerConfig) (env : Env) (srv : Server) :
    ∃ passed, Ended plat config env env.now.unixMs srv
      (scheduleAndRoute plat config env true { inner := srv.inner }) passed
      (tick plat config env srv) := by
  unfold tick
  dsimp only
  split
  next error hfai => exact ⟨_, .unjudged hfai⟩
  next judged hjud =>
    split
    · split
      · exact ⟨_, .undone hjud⟩
      next srv' hcom => exact ⟨_, .committed hjud hcom⟩
    next hcha => exact ⟨_, .unchanged hjud (Bool.eq_false_iff.mpr hcha)⟩

section Pass

variable {refreshAt : Int} {scheduled : Pass} {passed : Bool}

theorem Ended.effect (h : Ended plat config env refreshAt srv scheduled passed srv')
    (hsch : Edits cause srv.inner.state scheduled.state)
    (hsame : SamePublication srv.inner scheduled.inner) : Effect plat config cause srv srv' := by
  have hedi : ∀ {judged}, judge plat config env refreshAt scheduled = .ok judged →
      Edits cause srv.inner.state judged.state :=
    fun hjud => hsch.tail (Edit.bookkeep (judge_ok hjud).2)
  cases h with
  | unjudged => exact ⟨hsch, .inl rfl, .inl hsame⟩
  | undone hjud =>
    have hsame := hsame.judged hjud
    exact ⟨.refl, .inl rfl, .inl ⟨hsame.1, hsame.2, hsame.3⟩⟩
  | unchanged hjud => exact ⟨hedi hjud, .inl rfl, .inl (hsame.judged hjud)⟩
  | committed hjud hcom => exact commitLocked_effect (hedi hjud) hcom
  | refreshed hjud _ href hinn =>
    obtain ⟨snap, hsna, rfl⟩ := refreshGatewaySnapshot_ok href
    have hnow := publish_publishedNow hsna
    rcases hinn with rfl | rfl
    · exact ⟨hedi hjud, .inl rfl, .inr hnow⟩
    · exact ⟨hedi hjud, .inl rfl, .inr ⟨hnow.config, hnow.routes⟩⟩

end Pass

theorem tick_effect (huuid : Function.Injective env.uuid)
    (hfre : Fresh env.uuid { state := srv.inner.state }) :
    Effect plat config .other srv (tick plat config env srv) := by
  obtain ⟨passed, h⟩ := tick_ended plat config env srv
  exact h.effect (scheduleAndRoute_edits true (fun _ => rfl) huuid { inner := srv.inner } hfre)
    (scheduleAndRoute_published true { inner := srv.inner })

theorem markGatewayProgress_observed (nodeId : String) (state : ClusterState) (now : Int) :
    Observed nodeId state (markGatewayProgress state now).1 := by
  refine Observed.of_stackRecords ?_
  rw [Table.map_map]
  refine Table.map_congr fun stack _ => mapDeployment_core (fun dep => ?_) stack
  split
  · exact recordGatewayProgress_core now dep
  · rfl

/-- The state a node that reports in leaves. -/
theorem admitNode_state (clock : Clock) (member : NodeMember) (beat : NodeHeartbeat)
    (inner : Inner) : ∀ nodeId, Observed nodeId (admitted inner.state member beat.node)
      (admitNode clock member beat inner).state := by
  intro nodeId
  unfold admitNode Pass.state
  dsimp only
  split
  · exact markGatewayProgress_observed nodeId _ clock.unixMs
  · exact Observed.refl nodeId _

variable (plat config) in
theorem heartbeatScheduled_edits (huuid : Function.Injective env.uuid)
    (hfre : Fresh env.uuid { state := inner.state }) {member : NodeMember}
    {beat : NodeHeartbeat} (hmem : member ∈ inner.state.members)
    (hnode : beat.node.id = member.id) :
    Edits (.heartbeat member.id) inner.state
      (heartbeatScheduled plat config env inner member beat).state := by
  have harr := admitNode_state env.now member beat inner
  have hrec := (record_records config.cluster.clusterId env.now member.id beat
    (admitNode env.now member beat inner)).observed
  refine ReflTransGen.head (Edit.arrive inner.state member beat.node hmem hnode) ?_
  refine ReflTransGen.head (Edit.bookkeep harr) (ReflTransGen.head (Edit.observe hrec) ?_)
  have hfreR := hrec.fresh ((harr member.id).fresh hfre)
  unfold heartbeatScheduled
  exact scheduleAndRoute_edits false (fun h => nomatch h) huuid _ hfreR

theorem Records.published (h : Records nodeId pass pass') :
    SamePublication pass.inner pass'.inner := by
  rw [h.inner]
  exact ⟨rfl, rfl, rfl⟩

variable (plat config) in
theorem heartbeatScheduled_published (inner : Inner) (member : NodeMember) (beat : NodeHeartbeat) :
    SamePublication inner (heartbeatScheduled plat config env inner member beat).inner := by
  have harr : SamePublication inner (admitNode env.now member beat inner).inner := ⟨rfl, rfl, rfl⟩
  have hrec := harr.trans (record_records config.cluster.clusterId env.now member.id
    beat (admitNode env.now member beat inner)).published
  unfold heartbeatScheduled
  exact hrec.trans (scheduleAndRoute_published false _)

/-- The process, with draining tasks waiting for this deadline. -/
def Server.withDeadlines (server : Server) (deadline : Int) : Server :=
  { server with inner := server.inner.withState (server.inner.state.withTasks
      (server.inner.state.tasks.map (setDrainDeadline deadline) (setDrainDeadline_id deadline))) }

variable (plat config env) in
/-- Answering changes nothing, or commits deadlines. -/
theorem answerHeartbeat_server (member : NodeMember) (beat : NodeHeartbeat) (srv : Server) :
    (answerHeartbeat plat config env member beat srv).1 = srv ∨
      ∃ deadline, commitGatewayAckLocked config env (srv.withDeadlines deadline)
        = .ok (answerHeartbeat plat config env member beat srv).1 := by
  unfold answerHeartbeat
  split
  · exact .inl rfl
  next srv' hack =>
    unfold acknowledgeGatewayDrains at hack
    split at hack
    · cases hack
      exact .inl rfl
    dsimp only at hack
    split at hack
    · split at hack
      · cases hack
      next srv'' hcom =>
        cases hack
        exact .inr ⟨_, hcom⟩
    · cases hack
      exact .inl rfl

variable (plat config env) in
/-- A heartbeat is refused, or its pass ends, with an error or with an answer. -/
theorem heartbeat_ended (srv : Server) (nodeId : String) (beat : NodeHeartbeat) :
    (∃ error, heartbeat plat config env srv nodeId beat = (srv, .error error)) ∨
    ∃ member, srv.inner.state.members.get? nodeId = some member ∧ beat.node.id = nodeId ∧
      ∃ passed srv', Ended plat config env env.later.unixMs srv
        (heartbeatScheduled plat config env srv.inner member beat) passed srv' ∧
      ((∃ error, heartbeat plat config env srv nodeId beat = (srv', .error error)) ∨
        passed = true ∧ heartbeat plat config env srv nodeId beat
          = answerHeartbeat plat config env member beat srv') := by
  unfold heartbeat
  split
  · exact .inl ⟨_, rfl⟩
  next hid =>
    split
    · exact .inl ⟨_, rfl⟩
    next member hget =>
      refine .inr ⟨member, hget, (not_not.mp hid).symm, ?_⟩
      dsimp only
      split
      next error hfai => exact ⟨_, _, .unjudged hfai, .inl ⟨_, rfl⟩⟩
      next judged hjud =>
        split
        · split
          · exact ⟨_, _, .undone hjud, .inl ⟨_, rfl⟩⟩
          next srv' hcom => exact ⟨_, _, .committed hjud hcom, .inr ⟨rfl, rfl⟩⟩
        next hcha =>
          have hcha := Bool.eq_false_iff.mpr hcha
          split
          · exact ⟨_, _, .unchanged hjud hcha, .inl ⟨_, rfl⟩⟩
          next inner href =>
            refine ⟨_, _, .refreshed hjud hcha href ?_, .inr ⟨rfl, rfl⟩⟩
            split
            · exact .inr rfl
            · exact .inl rfl

/-- What holds after a refusal, when the pass ends and when deadlines are committed
holds after a heartbeat. -/
theorem heartbeat_rule {P : Server → Prop} {beat : NodeHeartbeat} (hkee : P srv)
    (hend : ∀ {member passed srv'}, srv.inner.state.members.get? nodeId = some member →
      beat.node.id = nodeId → Ended plat config env env.later.unixMs srv
        (heartbeatScheduled plat config env srv.inner member beat) passed srv' → P srv')
    (hack : ∀ {srv' srv'' deadline}, P srv' →
      commitGatewayAckLocked config env (srv'.withDeadlines deadline) = .ok srv'' → P srv'') :
    P (heartbeat plat config env srv nodeId beat).1 := by
  rcases heartbeat_ended plat config env srv nodeId beat with
    ⟨error, heq⟩ | ⟨member, hget, hid, passed, srv', hpas, ⟨error, heq⟩ | ⟨-, heq⟩⟩
  · rw [heq]
    exact hkee
  · rw [heq]
    exact hend hget hid hpas
  · rw [heq]
    have h := hend hget hid hpas
    rcases answerHeartbeat_server plat config env member beat srv' with hans | ⟨deadline, hcom⟩
    · rw [hans]
      exact h
    · exact hack h hcom

theorem heartbeat_effect (huuid : Function.Injective env.uuid)
    (hfre : Fresh env.uuid { state := srv.inner.state }) (nodeId : String)
    (body : NodeHeartbeat) :
    Effect plat config (.heartbeat nodeId) srv (heartbeat plat config env srv nodeId body).1 := by
  refine heartbeat_rule (Effect.refl plat config _ srv) (fun hget hid hend => ?_)
    fun heff hcom => ?_
  · obtain ⟨hmem, rfl⟩ := Table.get?_eq_some.mp hget
    exact hend.effect (heartbeatScheduled_edits plat config huuid hfre hmem hid)
      (heartbeatScheduled_published plat config srv.inner _ body)
  · obtain ⟨rfl, -⟩ := commitGatewayAckLocked_ok hcom
    refine ⟨heff.edits.tail (Edit.setDeadlines _ _), .inr rfl,
      heff.published.imp (fun hpub => ?_) fun hpub => ?_⟩
    · exact ⟨hpub.generation, hpub.config, hpub.snapshot⟩
    · exact ⟨hpub.config, hpub.routes⟩

/-! ## Applies -/

theorem startOwnedDeployment_observed (nodeId : String) (state : ClusterState)
    (policy : RevisionPolicy) (gen : Nat) (now : Int) :
    Observed nodeId state (startOwnedDeployment state policy gen now) := by
  unfold startOwnedDeployment
  split
  · exact Observed.refl nodeId state
  next id _ =>
    exact observed_modify_operation nodeId state id
      fun _ => ⟨rfl, rfl, rfl, rfl, rfl, rfl, fun _ => rfl, fun h => h⟩

/-- Adoption makes tasks of containers, under the containers' ids. -/
theorem adopts_ids {stackName : String} (h : ReflTransGen (Adopts stackName) s s') :
    (∀ task ∈ s'.tasks, s.tasks.contains task.id = true ∨
      s.unclaimedTasks.contains task.id = true) ∧
    ∀ unclaimed ∈ s'.unclaimedTasks, unclaimed ∈ s.unclaimedTasks := by
  induction h with
  | refl =>
    exact ⟨fun task htask => .inl (Table.contains_iff.mpr ⟨task, htask, rfl⟩), fun _ h => h⟩
  | tail _ hstep ih =>
    obtain ⟨htas, hunc⟩ := ih
    cases hstep with
    | intro svc candidate _ _ _ _ _ hcan _ _ =>
      refine ⟨fun task htask => ?_, fun other hoth => ?_⟩
      · rcases Table.mem_insert.mp htask with rfl | ⟨hold, -⟩
        · exact .inr (Table.contains_iff.mpr ⟨candidate, hunc _ hcan, rfl⟩)
        · exact htas task hold
      · exact hunc other (Table.mem_erase.mp hoth).1

theorem applyGuarded_ok (h : applyGuarded plat config env srv req = .ok srv') :
    ∃ plan refreshed, checkApply srv.inner req = .ok () ∧
      planServices srv.inner.state (currentLiveNodes config env.now srv.inner) req = .ok plan ∧
      refreshStackDeploymentsLocked plat config env.later.unixMs (srv.inner.withState
        (applyScheduled plat config env srv.inner req plan)) = .ok refreshed ∧
      commitLocked plat config env
        { srv with inner := srv.inner.withState refreshed.1.state } = .ok srv' := by
  unfold applyGuarded at h
  obtain ⟨_, hche, h⟩ := bind_ok h
  obtain ⟨plan, hplan, h⟩ := bind_ok h
  dsimp only at h
  split at h
  · cases h
  next refreshed href =>
    exact ⟨plan, refreshed, hche, hplan, href, commitState_ok h⟩

theorem applyDesired_edits {live : Keys String} {plan : Planning} (ext : Externals) (now : Int)
    (hche : checkApply inner req = .ok ())
    (hplan : planServices inner.state live req = .ok plan) :
    Edits (.apply req) inner.state (applyDesired ext inner req now plan) := by
  refine ReflTransGen.head (Edit.request inner live req now plan hche hplan) ?_
  refine ReflTransGen.head (Edit.restore plan.newServiceIds.rows
    (fun _ => planServices_newRevision hplan)
    (restoreUnclaimedServiceRevisions_restored ext _ _)) ?_
  refine ReflTransGen.head (Edit.bookkeep fun nodeId =>
    startOwnedDeployment_observed nodeId _ req.policy (inner.generation + 1) now) ?_
  exact ReflTransGen.mono (fun _ _ hado => Edit.adopt hado) _ _
    (adoptUnclaimedTasks_adopts ext _ req.stackName)

theorem startOwnedDeployment_rest (state : ClusterState) (policy : RevisionPolicy)
    (gen : Nat) (now : Int) :
    startOwnedDeployment state policy gen now = { state with
      serviceOperations := (startOwnedDeployment state policy gen now).serviceOperations } := by
  unfold startOwnedDeployment
  split <;> rfl

/-- The tasks of the desired state are old ones and adopted containers. -/
theorem applyDesired_ids (ext : Externals) (inner : Inner) (req : ApplyRequest) (now : Int)
    (plan : Planning) : ∀ task ∈ (applyDesired ext inner req now plan).tasks,
      inner.state.tasks.contains task.id = true ∨
        inner.state.unclaimedTasks.contains task.id = true := by
  intro task htask
  have hsta := (adopts_ids (adoptUnclaimedTasks_adopts ext (startOwnedDeployment
    (restoreUnclaimedServiceRevisions ext (requestedState inner req now plan)
      plan.newServiceIds.rows) req.policy (inner.generation + 1) now)
    req.stackName)).1 task htask
  rw [startOwnedDeployment_rest, (restoreUnclaimedServiceRevisions_restored ext
    (requestedState inner req now plan) plan.newServiceIds.rows).rest] at hsta
  exact hsta

/-- Adopting containers and starting deployments leave the services alone. -/
theorem applyDesired_services (ext : Externals) (inner : Inner) (req : ApplyRequest)
    (now : Int) (plan : Planning) :
    (applyDesired ext inner req now plan).services
      = (restoreUnclaimedServiceRevisions ext (requestedState inner req now plan)
          plan.newServiceIds.rows).services := by
  unfold applyDesired
  dsimp only
  rw [adopts_rest (adoptUnclaimedTasks_adopts ext _ req.stackName), startOwnedDeployment_rest]

theorem applyDesired_fresh (ext : Externals) (inner : Inner) (req : ApplyRequest) (now : Int)
    (plan : Planning) (htas : ∀ k, inner.state.tasks.contains (uuid k) = false)
    (hunc : ∀ k, inner.state.unclaimedTasks.contains (uuid k) = false) :
    Fresh uuid { state := applyDesired ext inner req now plan } := by
  intro k _
  refine Table.contains_eq_false.mpr fun task htask hid => ?_
  rcases applyDesired_ids ext inner req now plan task htask with hold | hold
  · rw [hid, htas k] at hold
    cases hold
  · rw [hid, hunc k] at hold
    cases hold

variable (plat config) in
theorem applyScheduled_edits {plan : Planning} (huuid : Function.Injective env.uuid)
    (htas : ∀ k, inner.state.tasks.contains (env.uuid k) = false)
    (hunc : ∀ k, inner.state.unclaimedTasks.contains (env.uuid k) = false)
    (hche : checkApply inner req = .ok ())
    (hplan : planServices inner.state (currentLiveNodes config env.now inner) req = .ok plan) :
    Edits (.apply req) inner.state (applyScheduled plat config env inner req plan) := by
  refine (applyDesired_edits plat.toExternals env.now.unixMs hche hplan).trans ?_
  refine ReflTransGen.tail ?_ (Edit.reroute _ req)
  exact (reconcile_moves _ _ huuid _ (applyDesired_fresh _ inner req _ plan htas hunc)).edits _

theorem applyGuarded_requested (huuid : Function.Injective env.uuid)
    (htas : ∀ k, srv.inner.state.tasks.contains (env.uuid k) = false)
    (hunc : ∀ k, srv.inner.state.unclaimedTasks.contains (env.uuid k) = false)
    (h : applyGuarded plat config env srv req = .ok srv') :
    Requested plat config env (.apply req) srv srv' := by
  obtain ⟨plan, refreshed, hche, hplan, href, hcom⟩ := applyGuarded_ok h
  have hsch := applyScheduled_edits plat config huuid htas hunc hche hplan
  have hjud : Edits (.apply req) srv.inner.state refreshed.1.state :=
    hsch.tail (Edit.bookkeep (refreshStackDeploymentsLocked_ok href).1)
  exact .committed hjud hcom

end Events

end Swarmlite
