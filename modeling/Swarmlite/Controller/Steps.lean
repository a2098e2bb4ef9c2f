import Mathlib.Data.List.Perm.Basic
import Swarmlite.Controller.Edits

/-!
# Invariants of reachable worlds

The remaining events, and with them all of `World.step`: `step_effect`. A restart
is the exception, as it begins from the database; `start_ok` says with what.

`Reachable.invariant` is the induction every property of reachable worlds goes
through. It asks for four things: the property holds of an empty database, every
edit keeps it, storing keeps it, and the renewal at a start keeps it.
-/

namespace Swarmlite

open Ordered Relation Loop

section Requests

variable {plat : Platform} {config : ControllerConfig} {env : Env} {srv srv' : Server}

/-- The same tasks and services. -/
structure SameWork (s s' : ClusterState) : Prop where
  tasks : s'.tasks = s.tasks
  services : s'.services = s.services

/-- An edit that concerns neither tasks nor services. -/
def Aside (cause : Cause) (s s' : ClusterState) : Prop := Edit cause s s' ∧ SameWork s s'

theorem applyScheduled_work (plat : Platform) (cfg : ControllerConfig) (env : Env) (inner : Inner)
    (req : ApplyRequest) (plan : Planning) :
    SameWork (reconcile plat.toExternals env.uuid (currentLiveNodes cfg env.now inner)
        env.now.unixMs (applyDesired plat.toExternals inner req env.now.unixMs plan)).state
      (applyScheduled plat cfg env inner req plan) := by
  have hrou : ∀ s, SameWork s (replaceStackRoute s req.stackName).1 := fun _ => ⟨rfl, rfl⟩
  unfold applyScheduled
  exact hrou _

theorem failPreparedOperation_commits {operationId : String}
    (h : failPreparedOperation plat config env srv operationId = .ok srv') :
    Commits plat config env (Aside .other srv.inner.state) srv srv' := by
  refine commitState_commits h ⟨Edit.bookkeep fun nodeId => ?_, rfl, rfl⟩
  exact observed_modify_operation nodeId srv.inner.state operationId
    fun _ => ⟨rfl, rfl, rfl, rfl, rfl, rfl, fun h => h, fun hact => nomatch hact⟩

/-- The operation has been accepted and its deployment has not started. -/
def ServiceOperationRecord.pending (op : ServiceOperationRecord) : Bool :=
  op.view.status.active && op.view.deploymentGeneration.isNone

variable {s : ClusterState} {request : OperationRequest} {nodeId : String}

theorem checkOwnedOperation_ok {policy : RevisionPolicy} {id : String}
    (hown : policy.ownedOperation = some id) (h : checkOwnedOperation s policy = .ok ()) :
    ∃ op svc, s.serviceOperations.get? id = some op ∧
      s.services.get? op.view.service = some svc ∧ op.pending = true ∧
      svc.revision + 1 = op.targetRevision ∧ svc.spec.image = op.image := by
  unfold checkOwnedOperation at h
  rw [hown] at h
  dsimp only at h
  split at h
  · cases h
  next op hop =>
    split at h
    · cases h
    next svc hser =>
      have hfits := ensure_ok h
      simp only [Bool.and_eq_true, decide_eq_true_eq] at hfits
      obtain ⟨⟨⟨⟨hact, hnone⟩, hrev⟩, -⟩, hima⟩ := hfits
      exact ⟨op, svc, hop, hser, Bool.and_eq_true_iff.mpr ⟨hact, hnone⟩, hrev, hima⟩

theorem retryStack_ok {s' : ClusterState} {stackName : String} {now : Int}
    (h : retryStack s stackName now = .ok s') :
    ∃ stack dep, s.stackRecords.get? stackName = some stack ∧ stack.deployment = some dep ∧
      (dep.status = .stalled ∨ dep.status = .blocked ∨ dep.status = .failed) ∧
      (∀ op ∈ s.serviceOperations, op.stack = stackName → op.view.status.active = true →
        op.view.deploymentGeneration ≠ none) ∧
      s' = retriedState s stack dep.generation now := by
  unfold retryStack at h
  obtain ⟨_, hidle, h⟩ := bind_ok h
  have hidle := ensure_ok hidle
  split at h
  · cases h
  next stack hstac =>
    split at h
    · cases h
    next dep hdep =>
      obtain ⟨_, hsta, h⟩ := bind_ok h
      obtain ⟨_, -, h⟩ := bind_ok h
      cases h
      have hsta := ensure_ok hsta
      simp only [Bool.or_eq_true, decide_eq_true_eq, or_assoc] at hsta
      refine ⟨stack, dep, hstac, hdep, hsta, ?_, rfl⟩
      intro op hop hopS hact hnone
      simp only [Bool.not_eq_true', List.any_eq_false] at hidle
      exact hidle op hop (by simp [hopS, hact, hnone])

theorem retryStackDeployment_commits {stackName : String}
    (h : retryStackDeployment plat config env srv stackName = .ok srv') :
    Commits plat config env
      (fun s => retryStack srv.inner.state stackName env.now.unixMs = .ok s) srv srv' := by
  unfold retryStackDeployment at h
  obtain ⟨_, -, h⟩ := bind_ok h
  obtain ⟨state, hret, h⟩ := bind_ok h
  exact commitState_commits h hret

/-- What has to hold for an operation to be accepted, and its record. -/
theorem acceptOperation_new {inner : Inner} {op : ServiceOperationRecord}
    (h : acceptOperation plat config env inner request = .ok op) :
    ∃ svc tasks nodes, resolveService inner.state request.target "restart" = .ok svc ∧
      svc.spec.job.isNone = true ∧
      stackBusy inner.state svc.stack = false ∧
      (inner.state.tasks.rows.filter fun task =>
          task.serviceId = svc.id && task.desired = .running).mapM
        (restartTarget inner.state (currentLiveNodes config env.now inner) svc) = .ok tasks ∧
      (request.kind = .pullRedeploy →
        candidateNodes inner.state svc (currentLiveNodes config env.now inner) = .ok nodes) ∧
      op = newOperation plat env inner request svc tasks nodes := by
  unfold acceptOperation at h
  dsimp only at h
  obtain ⟨svc, hser, h⟩ := bind_ok h
  obtain ⟨_, -, h⟩ := bind_ok h
  obtain ⟨_, hkind, h⟩ := bind_ok h
  obtain ⟨_, hidle, h⟩ := bind_ok h
  obtain ⟨_, -, h⟩ := bind_ok h
  obtain ⟨tasks, htas, h⟩ := bind_ok h
  obtain ⟨_, -, h⟩ := bind_ok h
  have hjob := (Bool.and_eq_true_iff.mp (ensure_ok hkind)).1
  have hidle : stackBusy inner.state svc.stack = false := by simpa using ensure_ok hidle
  -- a redeploy looks for nodes first; both branches end in the same record
  split at h
  · obtain ⟨nodes, hnod, h⟩ := bind_ok h
    obtain ⟨_, -, h⟩ := bind_ok h
    cases h
    exact ⟨svc, tasks, nodes, hser, hjob, hidle, htas, fun _ => hnod, rfl⟩
  next hred =>
    obtain ⟨nodes, -, h⟩ := bind_ok h
    obtain ⟨_, -, h⟩ := bind_ok h
    cases h
    exact ⟨svc, tasks, nodes, hser, hjob, hidle, htas, fun hkind => absurd hkind hred, rfl⟩

/-- A submission finds the operation of its key, or commits a new one. -/
theorem submitServiceOperation_ok
    (h : (submitServiceOperation plat config env srv request).map Prod.fst = .ok srv') :
    srv' = srv ∨
    ∃ op, srv.inner.state.serviceOperations.rows.find? (fun op =>
        op.principalId = request.principal.id && op.idempotencyKey = request.key) = none ∧
      acceptOperation plat config env srv.inner request = .ok op ∧
      commitState plat config env srv { srv.inner.state with
        serviceOperations := srv.inner.state.serviceOperations.insert op } = .ok srv' := by
  cases hsub : submitServiceOperation plat config env srv request with
  | error error =>
    rw [hsub] at h
    cases h
  | ok answer =>
    rw [hsub] at h
    cases h
    unfold submitServiceOperation at hsub
    obtain ⟨_, -, hsub⟩ := bind_ok hsub
    obtain ⟨_, -, hsub⟩ := bind_ok hsub
    dsimp only at hsub
    split at hsub
    · obtain ⟨_, -, hsub⟩ := bind_ok hsub
      cases hsub
      exact .inl rfl
    next hnew =>
      obtain ⟨op, hacc, hsub⟩ := bind_ok hsub
      obtain ⟨committed, hcom, hsub⟩ := bind_ok hsub
      cases hsub
      exact .inr ⟨op, hnew, hacc, hcom⟩

theorem submitServiceOperation_commits
    (h : (submitServiceOperation plat config env srv request).map Prod.fst = .ok srv') :
    Commits plat config env (Aside (.submit ("op_" ++ env.uuid 0)) srv.inner.state) srv srv' := by
  rcases submitServiceOperation_ok h with rfl | ⟨op, -, hacc, hcom⟩
  · exact .unchanged
  · refine commitState_commits hcom ⟨?_, rfl, rfl⟩
    exact Edit.accept plat config env srv.inner request op hacc

/-- Other members, nodes or credentials; a node keeps what it supports. -/
structure Resettled (s s' : ClusterState) : Prop where
  aside : Aside .other s s'
  records : s'.stackRecords = s.stackRecords
  operations : s'.serviceOperations = s.serviceOperations
  nodes : ∀ node ∈ s'.nodes, ∃ old ∈ s.nodes,
    old.supportsServiceOperations = node.supportsServiceOperations

theorem resettled_members (s : ClusterState) (members : Table NodeMember.id) :
    Resettled s { s with members } := by
  have hedit : Edit .other s { s with members } :=
    Edit.member s members s.nodes (fun node hnode => ⟨node, hnode, rfl, rfl⟩)
      fun node hnode => Table.contains_iff.mpr ⟨node, hnode, rfl⟩
  exact ⟨⟨hedit, rfl, rfl⟩, rfl, rfl, fun node hnode => ⟨node, hnode, rfl⟩⟩

/-- One node record is rewritten in its settings. -/
theorem resettled_modify (s : ClusterState) (members : Table NodeMember.id) (nodeId : String)
    {f : NodeRecord → NodeRecord} (hf : ∀ node, (f node).id = node.id)
    (hsame : ∀ node, (f node).address = node.address ∧
      (f node).supportsServiceOperations = node.supportsServiceOperations) :
    Resettled s { s with members, nodes := s.nodes.modify nodeId f hf } := by
  refine ⟨⟨Edit.member s members _ (fun node hnode => ?_) fun node hnode => ?_, rfl, rfl⟩,
    rfl, rfl, fun node hnode => ?_⟩
  · rcases Table.mem_modify.mp hnode with ⟨hold, _⟩ | ⟨old, hold, _, rfl⟩
    · exact ⟨node, hold, rfl, rfl⟩
    · exact ⟨old, hold, hf old, (hsame old).1⟩
  · rw [Table.modify, Table.contains_map]
    exact Table.contains_iff.mpr ⟨node, hnode, rfl⟩
  · dsimp only at hnode
    rcases Table.mem_modify.mp hnode with ⟨hold, _⟩ | ⟨old, hold, _, rfl⟩
    · exact ⟨node, hold, rfl⟩
    · exact ⟨old, hold, (hsame old).2.symm⟩

theorem joinNode_commits {req : JoinRequest}
    (h : joinNode plat config env srv nodeId req = .ok srv') :
    Commits plat config env (Resettled srv.inner.state) srv srv' := by
  unfold joinNode at h
  split at h
  · cases h
  · obtain ⟨_, -, h⟩ := bind_ok h
    obtain ⟨_, -, h⟩ := bind_ok h
    obtain ⟨_, -, h⟩ := bind_ok h
    dsimp only at h
    split at h
    · obtain ⟨_, -, h⟩ := bind_ok h
      obtain ⟨_, -, h⟩ := bind_ok h
      split at h
      · cases h
        exact .unchanged
      · exact commitState_commits h (resettled_members _ _)
    · exact commitState_commits h (resettled_members _ _)

theorem updateNodeGateway_commits {enabled : Bool}
    (h : updateNodeGateway plat config env srv nodeId enabled = .ok srv') :
    Commits plat config env (Resettled srv.inner.state) srv srv' := by
  unfold updateNodeGateway at h
  dsimp only at h
  split at h
  · cases h
  split at h
  · cases h
    exact .unchanged
  · exact commitState_commits h (resettled_modify _ _ nodeId _ fun _ => ⟨rfl, rfl⟩)

/-- A changed label is followed by a pass. -/
theorem updateNodeLabel_commits {key : String} {value : Option String}
    (h : updateNodeLabel plat config env srv nodeId key value = .ok srv') :
    Commits plat config env (fun s => ∃ labels, s =
      (reconcile plat.toExternals env.uuid (currentLiveNodes config env.now srv.inner)
        env.now.unixMs (relabel srv.inner.state nodeId labels)).state) srv srv' := by
  unfold updateNodeLabel at h
  obtain ⟨_, -, h⟩ := bind_ok h
  dsimp only at h
  split at h
  · cases h
  split at h
  · cases h
    exact .unchanged
  · exact commitState_commits h ⟨_, rfl⟩

theorem relabel_resettled (s : ClusterState) (nodeId : String) (labels : Map String String) :
    Resettled s (relabel s nodeId labels) :=
  resettled_modify _ _ nodeId _ fun _ => ⟨rfl, rfl⟩

theorem updateNodeLabel_requested (huuid : Function.Injective env.uuid)
    (hfre : Fresh env.uuid { state := srv.inner.state }) {key : String}
    {value : Option String}
    (h : updateNodeLabel plat config env srv nodeId key value = .ok srv') :
    Requested plat config env .other srv srv' := by
  refine (updateNodeLabel_commits h).mono fun s hs => ?_
  obtain ⟨labels, rfl⟩ := hs
  have hrel : Fresh env.uuid { state := relabel srv.inner.state nodeId labels } := hfre
  exact ReflTransGen.head (relabel_resettled _ nodeId labels).aside.1
    ((reconcile_moves _ _ huuid _ hrel).edits .other)

/-- The state a manual run of a job commits. -/
inductive RunsJob (ext : Externals) (env : Env) (s : ClusterState) : ClusterState → Prop
  | intro (service : ServiceRecord) (live : Keys String) (task : TaskRecord)
      (hservice : service ∈ s.services) (hactive : service.deleted = false)
      (hjob : service.spec.job.isSome)
      (hfinished : ∀ old ∈ s.tasks, old.serviceId = service.id → old.observed.isJobTerminal)
      (hsched : scheduleTask s (Jobs.template service) (Jobs.eligibleNodes s live) (env.uuid 0)
        = some task) :
      RunsJob ext env s (s.withTasks (s.tasks.insert
        { task with job := some (manualExecution ext service env.now.unixMs) }))

theorem runJob_commits {target : String} (h : runJob plat config env srv target = .ok srv') :
    Commits plat config env (RunsJob plat.toExternals env srv.inner.state) srv srv' := by
  unfold runJob at h
  dsimp only at h
  obtain ⟨svc, hser, h⟩ := bind_ok h
  obtain ⟨_, hjob, h⟩ := bind_ok h
  obtain ⟨_, hfin, h⟩ := bind_ok h
  have hfin := ensure_ok hfin
  split at h
  · cases h
  next task hsch =>
    refine commitState_commits h ⟨svc, _, task, (resolveService_ok hser).1,
      (resolveService_ok hser).2.2, ensure_ok hjob, ?_, hsch⟩
    intro old hold hsame
    simp only [Bool.not_eq_true', List.any_eq_false, Bool.and_eq_true, decide_eq_true_eq,
      Bool.not_eq_true', not_and, Bool.not_eq_false] at hfin
    exact hfin old hold hsame

theorem RunsJob.edit {ext : Externals} {s' : ClusterState} (hfre : Fresh env.uuid { state := s })
    (h : RunsJob ext env s s') :
    Edit (.runJob (env.uuid 0)) s s' := by
  cases h with
  | intro svc live task hser hact hjob hfin hsch =>
    exact Edit.runJob s svc live _ task _ hser hjob (hfre 0 (Nat.le_refl 0)) hsch

theorem cancelJobTask_commits {id : String} (h : cancelJobTask plat config env srv id = .ok srv') :
    Commits plat config env (fun s =>
      (∀ task ∈ srv.inner.state.tasks, task.id = id → task.job.isSome) ∧
      s = srv.inner.state.withTasks
        (srv.inner.state.tasks.modify id TaskRecord.stop TaskRecord.stop_id)) srv srv' := by
  unfold cancelJobTask at h
  dsimp only at h
  split at h
  · cases h
  next task hfou =>
    obtain ⟨hget, hjob⟩ := Option.filter_eq_some_iff.mp hfou
    obtain ⟨hmem, hkey⟩ := Table.get?_eq_some.mp hget
    refine commitState_commits h ⟨?_, rfl⟩
    intro other hoth hid
    rw [Table.eq_of_key hoth hmem (hid.trans hkey.symm)]
    exact hjob

theorem setRegistryCredential_commits {registry : String} {credential : RegistryCredential}
    (h : setRegistryCredential plat config env srv registry credential = .ok srv') :
    Commits plat config env (Resettled srv.inner.state) srv srv' := by
  unfold setRegistryCredential at h
  dsimp only at h
  split at h
  · cases h
    exact .unchanged
  · exact commitState_commits h
      ⟨⟨Edit.credential _ _, rfl, rfl⟩, rfl, rfl, fun node hnode => ⟨node, hnode, rfl⟩⟩

theorem updateClusterConfig_effect (cluster : ClusterSettings) :
    Effect plat config .other srv (updateClusterConfig plat config env srv cluster) := by
  unfold updateClusterConfig
  split
  · exact Effect.refl plat config .other srv
  dsimp only
  split
  next srv'' hcom =>
    refine commitLocked_effect ?_ hcom
    exact .refl
  · split
    · exact Effect.refl plat config .other srv
    · exact ⟨.single (Edit.publish _ _), .inl rfl, .inl ⟨rfl, rfl, rfl⟩⟩

end Requests

/-! ## Steps -/

/-- What the edits of an event come from. -/
def World.cause (env : Env) (world : World) : Event → Cause
  | .heartbeat nodeId _ => .heartbeat nodeId
  | .submitOperation _ => .submit ("op_" ++ env.uuid 0)
  | .runJob _ => .runJob (env.uuid 0)
  | .cancelJob taskId => .cancelJob taskId
  | .commit index =>
    match world.requests[index]? with
    | some (.guarded request) => .apply request
    | _ => .other
  | _ => .other

/-- The events that take the lock once and commit at most once. -/
def Event.isRequest : Event → Bool
  | .heartbeat _ _ => false
  | .tick => false
  | .updateClusterConfig _ => false
  | .restart _ => false
  | _ => true

variable {plat : Platform} {env : Env} {world : World} {event : Event} {cfg : ControllerConfig}
  {disk : VersionedState}

theorem served_requested {cause : Cause} (world : World) {result : Except ControllerError Server}
    (h : ∀ srv, result = .ok srv → Requested plat world.config env cause world.server srv) :
    Requested plat world.config env cause world.server (world.served result).server := by
  cases result with
  | error => exact .unchanged
  | ok srv => exact h srv rfl

theorem queued_server (world : World) (result : Except ControllerError Request) :
    (world.queued result).server = world.server := by
  cases result <;> rfl

theorem guarded_server (world : World) (result : Except ControllerError ApplyRequest) :
    (world.guarded result).server = world.server := by
  cases result with
  | error => rfl
  | ok request =>
    unfold World.guarded
    dsimp only
    split <;> rfl

theorem reserve_server (world : World) (index : Nat) :
    (world.reserve index).server = world.server := by
  unfold World.reserve
  repeat' split
  all_goals rfl

theorem commit_requested (hfre : FreshIds env world) (index : Nat) :
    Requested plat world.config env (world.cause env (.commit index)) world.server
      (world.commit plat env index).server := by
  unfold World.commit World.cause
  dsimp only
  cases world.requests[index]? with
  | none => exact .unchanged
  | some request =>
    cases request with
    | guarded request =>
      refine served_requested { world with requests := world.requests.eraseIdx index }
        fun srv' hok => ?_
      exact applyGuarded_requested hfre.injective hfre.tasks hfre.unclaimed hok
    | _ => exact .unchanged

/-- **A request commits once or not at all.** -/
theorem step_requested (plat : Platform)
    (hfre : FreshIds env world) (hreq : event.isRequest = true) :
    Requested plat world.config env (world.cause env event) world.server
      (world.step plat env event).server := by
  have hnone : ∀ cause, Requested plat world.config env cause world.server world.server :=
    fun _ => .unchanged
  cases event with
  | apply | rollback => exact (guarded_server world _).symm ▸ hnone .other
  | scale | forceUpdate | remove => exact (queued_server world _).symm ▸ hnone .other
  | startPrepared =>
    show Requested plat world.config env .other world.server world.startPrepared.server
    unfold World.startPrepared
    split
    · exact hnone .other
    · exact (queued_server world _).symm ▸ hnone .other
  | reserve index => exact (reserve_server world index).symm ▸ hnone .other
  | commit index => exact commit_requested hfre index
  | abandon => exact hnone .other
  | failPrepared =>
    exact served_requested world fun _ h =>
      (failPreparedOperation_commits h).requested fun _ hs => hs.1
  | retry stackName =>
    show Requested plat world.config env .other world.server (if _ then _ else _ : World).server
    split
    · exact hnone .other
    · exact served_requested world fun _ h =>
        (retryStackDeployment_commits h).requested fun _ hs => Edit.retry _ _ stackName _ hs
  | submitOperation =>
    exact served_requested world fun _ h =>
      (submitServiceOperation_commits h).requested fun _ hs => hs.1
  | join =>
    exact served_requested world fun _ h => (joinNode_commits h).requested fun _ hs => hs.aside.1
  | updateGateway =>
    exact served_requested world fun _ h =>
      (updateNodeGateway_commits h).requested fun _ hs => hs.aside.1
  | updateLabel =>
    exact served_requested world fun _ => updateNodeLabel_requested hfre.injective hfre.fresh
  | runJob =>
    exact served_requested world fun _ h =>
      (runJob_commits h).requested fun _ hs => hs.edit hfre.fresh
  | cancelJob taskId =>
    refine served_requested world fun _ h => (cancelJobTask_commits h).requested fun s hs => ?_
    obtain ⟨hjob, rfl⟩ := hs
    exact Edit.cancelJob _ taskId hjob
  | registryLogin =>
    exact served_requested world fun _ h =>
      (setRegistryCredential_commits h).requested fun _ hs => hs.aside.1
  | _ => cases hreq

/-- **Every event but a restart is a sequence of edits.** -/
theorem step_effect (plat : Platform)
    (hfre : FreshIds env world) (hres : ∀ config, event ≠ .restart config) :
    Effect plat world.config (world.cause env event) world.server
      (world.step plat env event).server := by
  cases event with
  | heartbeat nodeId body => exact heartbeat_effect hfre.injective hfre.fresh nodeId body
  | tick => exact tick_effect hfre.injective hfre.fresh
  | updateClusterConfig cluster => exact updateClusterConfig_effect cluster
  | restart config => exact absurd rfl (hres config)
  | _ => exact (step_requested plat hfre rfl).effect

/-- What a step does to the requests under way. Some end, or one joins or goes on: it then holds
nothing, or a stack that was free. -/
structure Requeued (world world' : World) : Prop where
  config : world'.config = world.config
  requests : world'.requests.Sublist world.requests ∨
    ∃ request kept, kept.Sublist world.requests ∧ world'.requests.Perm (request :: kept) ∧
      ∀ name, request.reserved = some name → world.reserved name = false

theorem Requeued.refl (world : World) : Requeued world world := ⟨rfl, .inl (.refl _)⟩

theorem served_requeued {kept : List Request} (hkept : kept.Sublist world.requests)
    (result : Except ControllerError Server) :
    Requeued world ({ world with requests := kept }.served result) := by
  cases result <;> exact ⟨rfl, .inl hkept⟩

theorem queued_requeued {result : Except ControllerError Request}
    (h : ∀ request, result = .ok request → request.reserved = none) :
    Requeued world (world.queued result) := by
  cases result with
  | error => exact .refl world
  | ok request =>
    refine ⟨rfl, .inr ⟨request, _, .refl _, List.perm_append_singleton .., fun name hname => ?_⟩⟩
    cases (h request rfl).symm.trans hname

theorem guarded_requeued (result : Except ControllerError ApplyRequest) :
    Requeued world (world.guarded result) := by
  cases result with
  | error => exact .refl world
  | ok request =>
    unfold World.guarded
    dsimp only
    split
    · exact .refl world
    next hfree =>
      refine ⟨rfl, .inr ⟨_, _, .refl _, List.perm_append_singleton .., fun name hname => ?_⟩⟩
      cases hname
      exact Bool.eq_false_of_not_eq_true hfree

theorem reserve_requeued (index : Nat) : Requeued world (world.reserve index) := by
  have hend := List.eraseIdx_sublist world.requests index
  unfold World.reserve
  split
  · exact .refl world
  next hfound =>
    split
    · exact .refl world
    split
    · exact ⟨rfl, .inl hend⟩
    split
    · exact ⟨rfl, .inl hend⟩
    next hfree =>
      obtain ⟨hlt, -⟩ := List.getElem?_eq_some_iff.mp hfound
      refine ⟨rfl, .inr ⟨_, _, hend, List.set_perm_cons_eraseIdx hlt _, fun name hname => ?_⟩⟩
      cases hname
      exact Bool.eq_false_of_not_eq_true hfree

theorem step_requeued (plat : Platform) (env : Env) (world : World)
    (hres : ∀ config, event ≠ .restart config) :
    Requeued world (world.step plat env event) := by
  cases event with
  | apply | rollback => exact guarded_requeued _
  | scale | forceUpdate =>
    refine queued_requeued fun request hok => ?_
    obtain ⟨_, -, hok⟩ := bind_ok hok
    cases hok
    rfl
  | remove =>
    refine queued_requeued fun request hok => ?_
    obtain ⟨_, -, hok⟩ := bind_ok hok
    obtain ⟨_, -, hok⟩ := bind_ok hok
    cases hok
    rfl
  | startPrepared =>
    show Requeued world world.startPrepared
    unfold World.startPrepared
    split
    · exact .refl world
    · refine queued_requeued fun request hok => ?_
      obtain ⟨_, -, hok⟩ := bind_ok hok
      split at hok
      · cases hok
      · obtain ⟨_, -, hok⟩ := bind_ok hok
        obtain ⟨_, -, hok⟩ := bind_ok hok
        cases hok
        rfl
  | reserve index => exact reserve_requeued index
  | commit index =>
    show Requeued world (world.commit plat env index)
    unfold World.commit
    split
    · exact served_requeued (List.eraseIdx_sublist ..) _
    · exact .refl world
  | abandon => exact ⟨rfl, .inl (List.eraseIdx_sublist ..)⟩
  | retry =>
    show Requeued world (if _ then _ else _)
    split
    · exact .refl world
    · exact served_requeued (.refl _) _
  | restart config => exact absurd rfl (hres config)
  | heartbeat | tick | updateClusterConfig => exact ⟨rfl, .inl (.refl _)⟩
  | _ => exact served_requeued (.refl _) _

/-- An event whose cause is an apply is its commit. -/
theorem step_apply (plat : Platform) {req : ApplyRequest} (h : world.cause env event = .apply req) :
    (world.step plat env event).server = world.server ∨
      applyGuarded plat world.config env world.server req
        = .ok (world.step plat env event).server := by
  cases event with
  | commit index =>
    have hfou : world.requests[index]? = some (.guarded req) := by
      unfold World.cause at h
      dsimp only at h
      split at h
      next hgua =>
        cases h
        exact hgua
      · cases h
    show (world.commit plat env index).server = world.server ∨
      applyGuarded plat world.config env world.server req = .ok (world.commit plat env index).server
    unfold World.commit
    rw [hfou]
    dsimp only
    cases applyGuarded plat world.config env world.server req with
    | error e => exact .inl rfl
    | ok srv => exact .inr rfl
  | _ => cases h

/-- What a new process works on. -/
theorem start_ok {srv : Server} (h : start plat cfg env disk = .ok srv) :
    ∃ cluster gen, srv.inner = serve plat cfg env srv.disk
        (startState plat cfg env disk.state gen) cluster gen ∧
      (srv.disk = disk ∨ srv.disk.state = (startState plat cfg env disk.state gen).persisted) := by
  unfold start at h
  split at h
  · cases h
  dsimp only at h
  split at h
  · cases h
  next gen _ =>
    split at h
    · split at h
      · cases h
      next disk' hdisk =>
        cases h
        obtain ⟨rfl, -⟩ := replace_ok hdisk
        exact ⟨_, gen, rfl, .inr rfl⟩
    · cases h
      exact ⟨_, gen, rfl, .inl rfl⟩

section Stored

variable {plat : Platform} {P : ClusterState → Prop} (hpersisted : ∀ s, P s → P s.persisted)
  (hstart : ∀ config env s gen, P s → P (startState plat config env s gen))

include hpersisted hstart

/-- What a new process renews keeps a property of the stored state. -/
theorem start_keeps
    {srv : Server} (hok : start plat cfg env disk = .ok srv) (hdisk : P disk.state) :
    P srv.inner.state ∧ P srv.disk.state := by
  have hsta := fun gen => hstart cfg env disk.state gen hdisk
  obtain ⟨cluster, gen, hinn, hsame | hsto⟩ := start_ok hok
  · rw [hinn, hsame]
    exact ⟨hsta gen, hdisk⟩
  · rw [hinn, hsto]
    exact ⟨hsta gen, hpersisted _ (hsta gen)⟩

/-- One event, for the state in use and the stored one. -/
theorem step_keeps (hfre : FreshIds env world)
    (hstep : (∀ config, event ≠ .restart config) → P (world.step plat env event).state)
    (h : P world.state ∧ P world.server.disk.state) :
    P (world.step plat env event).state ∧ P (world.step plat env event).server.disk.state := by
  rcases event.ne_restart_or with hres | ⟨config, rfl⟩
  · refine ⟨hstep hres, ?_⟩
    rcases (step_effect plat hfre hres).disk with hsame | hsto
    · rw [hsame]
      exact h.2
    · rw [hsto]
      exact hpersisted _ (hstep hres)
  · show P (world.restart plat env config).server.inner.state ∧
      P (world.restart plat env config).server.disk.state
    unfold World.restart
    split
    · exact h
    next srv hok => exact start_keeps hpersisted hstart hok h.2

/-- An invariant of all reachable worlds that holds between events, for the state in
use and the stored one. -/
theorem Reachable.invariant_of_step
    (hinit : ∀ routes gen, P { gatewayRoutes := routes, gatewayGeneration := gen })
    (hstep : ∀ world env event, FreshIds env world → (∀ config, event ≠ .restart config) →
      P world.state → P (world.step plat env event).state)
    {world : World} (h : Reachable plat world) :
    P world.state ∧ P world.server.disk.state := by
  induction h with
  | fresh hok => exact start_keeps hpersisted hstart hok (hinit Table.empty 0)
  | recovered hok => exact start_keeps hpersisted hstart hok (hinit _ _)
  | @step world hworld env event hfresh ih =>
    exact step_keeps hpersisted hstart hfresh
      (fun hres => hstep world env event hfresh hres ih.1) ih

end Stored

variable {plat : Platform} {P : ClusterState → Prop} {world world' : World}

/-- **An invariant of all reachable worlds**, for the state in use and the stored one. -/
theorem Reachable.invariant
    (hinit : ∀ routes gen, P { gatewayRoutes := routes, gatewayGeneration := gen })
    (hedit : ∀ cause s s', Edit cause s s' → P s → P s') (hpersisted : ∀ s, P s → P s.persisted)
    (hstart : ∀ config env s gen, P s → P (startState plat config env s gen))
    (h : Reachable plat world) :
    P world.state ∧ P world.server.disk.state := by
  refine h.invariant_of_step hpersisted hstart hinit (fun world env event hfre hres hwor => ?_)
  exact keeps_of_step (hedit _) (step_effect plat hfre hres).edits hwor

/-- A state the controller has at some point, in the middle of an event or after
one: the states a scheduler pass begins with are among them. -/
inductive Visited (platform : Platform) : ClusterState → Prop
  | world {world : World} (h : Reachable platform world) : Visited platform world.state
  | edit {cause : Cause} {s s' : ClusterState} (hs : Visited platform s) (h : Edit cause s s') :
      Visited platform s'

theorem Visited.invariant
    (hinit : ∀ routes gen, P { gatewayRoutes := routes, gatewayGeneration := gen })
    (hedit : ∀ cause s s', Edit cause s s' → P s → P s') (hpersisted : ∀ s, P s → P s.persisted)
    (hstart : ∀ config env s gen, P s → P (startState plat config env s gen))
    {s : ClusterState} (h : Visited plat s) : P s := by
  induction h with
  | world hwor => exact (hwor.invariant hinit hedit hpersisted hstart).1
  | edit _ h ih => exact hedit _ _ _ h ih

/-- One event that leaves the process running, so that requests under way go on. -/
def Proceeds (platform : Platform) (world world' : World) : Prop :=
  ∃ env event, FreshIds env world ∧ (∀ config, event ≠ .restart config) ∧
    world' = world.step platform env event

/-- A world some events later. -/
abbrev Later (platform : Platform) : World → World → Prop := ReflTransGen (Proceeds platform)

/-- A world some events later, each of which meets the condition. -/
abbrev Runs (platform : Platform) (P : Env → World → Event → Prop) : World → World → Prop :=
  ReflTransGen fun world world' => ∃ env event, FreshIds env world ∧ P env world event ∧
    world' = world.step platform env event

/-- What each event of a run keeps. -/
theorem Runs.keeps {P : Env → World → Event → Prop} {Q : World → Prop}
    (h : Runs plat P world world') (hkee : ∀ {world env event}, FreshIds env world →
      P env world event → Q world → Q (world.step plat env event))
    (hwor : Q world) : Q world' := by
  induction h with
  | refl => exact hwor
  | tail _ hstep ih =>
    obtain ⟨env, event, hfre, hmee, rfl⟩ := hstep
    exact hkee hfre hmee ih

theorem Runs.reachable {P : Env → World → Event → Prop} (h : Runs plat P world world')
    (hwor : Reachable plat world) : Reachable plat world' :=
  h.keeps (fun hfre _ ih => ih.step _ _ hfre) hwor

theorem Runs.mono {P Q : Env → World → Event → Prop}
    (himp : ∀ {env world event}, P env world event → Q env world event)
    (h : Runs plat P world world') : Runs plat Q world world' :=
  h.keeps (fun hfre hmee ih => ih.tail ⟨_, _, hfre, himp hmee, rfl⟩) .refl

/-- The ids are fresh, and every event passes the check. -/
def World.inputsMeet (platform : Platform) (check : Env → World → Event → Bool) :
    World → List Input → Bool
  | _, [] => true
  | world, input :: inputs =>
    world.tagFree input.tag && check input.env world input.event
      && inputsMeet platform check (world.step platform input.env input.event) inputs

theorem Runs.perform {P : Env → World → Event → Prop} (check : Env → World → Event → Bool)
    (hche : ∀ {env : Env} {world : World} {event : Event},
      check env world event = true → P env world event) :
    ∀ {inputs : List Input} {world : World}, world.inputsMeet plat check inputs = true →
      Runs plat P world (world.perform plat inputs)
  | [], _, _ => .refl
  | input :: inputs, world, hmeet => by
    unfold World.inputsMeet at hmeet
    simp only [Bool.and_eq_true] at hmeet
    obtain ⟨⟨htag, hstep⟩, hrest⟩ := hmeet
    exact ReflTransGen.head ⟨input.env, input.event, freshIds_of_tagFree htag, hche hstep, rfl⟩
      (Runs.perform check hche hrest)

theorem Later.reachable (h : Later plat world world') (hwor : Reachable plat world) :
    Reachable plat world' :=
  Runs.reachable h hwor

end Swarmlite
