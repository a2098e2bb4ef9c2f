import Swarmlite.Controller.Executions
import Swarmlite.Controller.Inventory
import Swarmlite.Controller.Steps

/-!
# What an event makes of tasks and services

`Edits` says in which ways an event may change the cluster state; it forgets at
what time the scheduler ran and on what. For job executions both matter, so
`step_outcome` keeps them: after an event other than a restart the tasks and the
services are as before, or a request changed them in the one way it can, or they
are the result of one scheduler pass at the time of the event on the state the
event presents to it (`Presented`).

Everything else in the cluster state is left out here (`SameWork`): judging
deployments, publishing routes and advancing operations change neither a task nor
a service.
-/

namespace Swarmlite

open Ordered Relation

variable {event : Event} {task task' : TaskRecord}

namespace SameWork

variable {s s' : ClusterState}

theorem fresh (h : SameWork s s') {uuid : Nat → String} (hfre : Fresh uuid { state := s }) :
    Fresh uuid { state := s' } := by
  intro k hk
  rw [h.tasks]
  exact hfre k hk

end SameWork

/-- The state once the reports of a heartbeat are recorded. -/
def World.recorded (env : Env) (world : World) (member : NodeMember) (body : NodeHeartbeat) :
    ClusterState :=
  (record world.config.cluster.clusterId env.now member.id body
    (admitNode env.now member body world.server.inner)).state

theorem World.recorded_observed (env : Env) (world : World) (member : NodeMember)
    (body : NodeHeartbeat) :
    Observed member.id (admitted world.state member body.node) (world.recorded env member body) :=
  (admitNode_state env.now member body world.server.inner member.id).trans
    (record_records world.config.cluster.clusterId env.now member.id body
      (admitNode env.now member body world.server.inner)).observed

/-- What the scheduler is called on in an event. -/
inductive Presented (platform : Platform) (env : Env) (world : World) : Event → ClusterState → Prop
  | heartbeat {nodeId : String} {body : NodeHeartbeat} {member : NodeMember} {s : ClusterState}
      (hmember : world.state.members.get? nodeId = some member)
      (hwork : SameWork (world.recorded env member body) s) :
      Presented platform env world (.heartbeat nodeId body) s
  | tick {s : ClusterState} (hwork : SameWork (finishDrains world.state env.now.unixMs).1 s) :
      Presented platform env world .tick s
  | updateLabel {nodeId key : String} {value : Option String} {s : ClusterState}
      (hwork : SameWork world.state s) :
      Presented platform env world (.updateLabel nodeId key value) s
  | commit {index : Nat} {request : ApplyRequest} {live : Keys String} {planning : Planning}
      (hrequest : world.requests[index]? = some (.guarded request))
      (hcheck : checkApply world.server.inner request = .ok ())
      (hplan : planServices world.state live request = .ok planning) :
      Presented platform env world (.commit index)
        (applyDesired platform.toExternals world.server.inner request env.now.unixMs planning)

/-- How the scheduler finds an execution in an event. -/
def Event.Meets (env : Env) (world : World) : Event → TaskRecord → TaskRecord → Prop
  | .heartbeat nodeId body, task, task' => Heard world.state nodeId body task task'
  | .tick, task, task' => task' = finishDrain env.now.unixMs task
  | _, task, task' => task' = task

theorem Event.Meets.id {env : Env} {world : World}
    (h : event.Meets env world task task') : task'.id = task.id := by
  cases event with
  | heartbeat nodeId body => exact congrArg (·.id) (Heard.identity h)
  | tick =>
    obtain rfl : task' = finishDrain env.now.unixMs task := h
    exact finishDrain_id env.now.unixMs task
  | _ =>
    obtain rfl : task' = task := h
    rfl

theorem Event.Meets.job_isSome {env : Env} {world : World}
    (h : event.Meets env world task task') :
    task'.job.isSome = task.job.isSome := by
  cases event with
  | heartbeat nodeId body => exact job_isSome_of_identity (Heard.identity h)
  | tick =>
    obtain rfl : task' = finishDrain env.now.unixMs task := h
    unfold finishDrain
    split <;> rfl
  | _ =>
    obtain rfl : task' = task := h
    rfl

/-- Adoption adds replicas only. -/
theorem applyDesired_execution (ext : Externals) (inner : Inner) (req : ApplyRequest)
    (now : Int) (plan : Planning) (htask : task ∈ (applyDesired ext inner req now plan).tasks)
    (hjob : task.job.isSome) : task ∈ inner.state.tasks := by
  have hado : ∀ {s s' : ClusterState}, ReflTransGen (Adopts req.stackName) s s' →
      task ∈ s'.tasks → task ∈ s.tasks := by
    intro s s' h
    induction h with
    | refl => exact fun h => h
    | tail _ hstep ih =>
      intro hmem
      cases hstep
      rcases Table.mem_insert.mp hmem with rfl | ⟨hold, -⟩
      · cases hjob
      · exact ih hold
  have hsta := hado (adoptUnclaimedTasks_adopts ext _ req.stackName) htask
  rw [startOwnedDeployment_rest, (restoreUnclaimedServiceRevisions_restored ext
    (requestedState inner req now plan) plan.newServiceIds.rows).rest] at hsta
  exact hsta

theorem admitNode_tasks (clock : Clock) (member : NodeMember) (body : NodeHeartbeat)
    (inner : Inner) : (admitNode clock member body inner).state.tasks = inner.state.tasks ∧
      (admitNode clock member body inner).state.serviceOperations
        = inner.state.serviceOperations := by
  unfold admitNode Pass.state
  dsimp only
  split <;> exact ⟨rfl, rfl⟩

section Presented

variable {plat : Platform} {env : Env} {world : World} {event : Event} {s : ClusterState}

/-- Executions in the presented state are those of the world, as the event meets them. -/
theorem Presented.execution (h : Presented plat env world event s)
    (htask' : task' ∈ s.tasks) (hjob : task'.job.isSome) :
    ∃ task ∈ world.state.tasks, event.Meets env world task task' := by
  cases h with
  | @heartbeat nodeId body member _ hmem hwork =>
    rw [hwork.tasks] at htask'
    obtain ⟨task, htask, hhea⟩ := record_execution _ _ _ _ _ htask' hjob
    obtain ⟨htas, hope⟩ := admitNode_tasks env.now member body world.server.inner
    rw [htas] at htask
    rw [Table.key_of_get? hmem] at hhea
    refine ⟨task, htask, ?_⟩
    unfold Event.Meets Heard restartReported at *
    rw [hope] at hhea
    exact hhea
  | tick hwork =>
    rw [hwork.tasks] at htask'
    obtain ⟨task, htask, rfl⟩ := Table.exists_of_mem_map (finishDrain_id env.now.unixMs) htask'
    exact ⟨task, htask, rfl⟩
  | updateLabel hwork =>
    rw [hwork.tasks] at htask'
    exact ⟨task', htask', rfl⟩
  | commit hreq hche hplan =>
    exact ⟨task', applyDesired_execution _ _ _ _ _ htask' hjob, rfl⟩

/-- Cursors in the presented state are those of the world. -/
theorem Presented.jobCursor (h : Presented plat env world event s) {svc : ServiceRecord}
    (hser : svc ∈ s.services) :
    svc.jobCursor = none ∨ ∃ old ∈ world.state.services, old.id = svc.id ∧
      old.jobCursor = svc.jobCursor := by
  cases h with
  | @heartbeat nodeId body member _ hmem hwork =>
    rw [hwork.services] at hser
    have hfor := (world.recorded_observed env member body).services_get? svc.id
    rw [Table.get?_of_mem hser, Option.map_some, eq_comm, Option.map_eq_some_iff] at hfor
    obtain ⟨old, hold, heq⟩ := hfor
    exact .inr ⟨old, Table.mem_of_get? hold, congrArg (·.id) heq, congrArg (·.jobCursor) heq⟩
  | tick hwork | updateLabel hwork =>
    rw [hwork.services] at hser
    exact .inr ⟨svc, hser, rfl, rfl⟩
  | @commit index req live plan hrequest hcheck hplan =>
    rw [applyDesired_services] at hser
    obtain ⟨planned, hpla, heq, -⟩ := (restoreUnclaimedServiceRevisions_restored
      plat.toExternals (requestedState world.server.inner req env.now.unixMs plan)
      plan.newServiceIds.rows).mem svc hser
    have hget := Table.get?_of_mem (show planned ∈ plan.services from hpla)
    rw [planServices_get? hplan] at hget
    rw [heq]
    rcases plannedService_jobCursor hget with hnone | ⟨old, hold, hsame⟩
    · exact .inl hnone
    · exact .inr ⟨old, Table.mem_of_get? hold, Table.key_of_get? hold, hsame.symm⟩

end Presented

/-- The tasks and services after a scheduler pass. -/
inductive Rescheduled (platform : Platform) (env : Env) (world : World) (event : Event) :
    ClusterState → Prop
  | passed {s : ClusterState} (live : Keys String) (h : Presented platform env world event s)
      (hfresh : Fresh env.uuid { state := s }) :
      Rescheduled platform env world event
        (reconcile platform.toExternals env.uuid live env.now.unixMs s).state
  /-- The answer to a heartbeat sets the deadlines of drains. -/
  | deadlines {s : ClusterState} (deadline : Int) (h : Rescheduled platform env world event s) :
      Rescheduled platform env world event (s.withTasks
        (s.tasks.map (setDrainDeadline deadline) (setDrainDeadline_id deadline)))
  | rest {s s' : ClusterState} (h : Rescheduled platform env world event s)
      (hwork : SameWork s s') : Rescheduled platform env world event s'

/-- The tasks and services an event may leave. -/
inductive Outcome (platform : Platform) (env : Env) (world : World) : Event → ClusterState → Prop
  | kept {event : Event} : Outcome platform env world event world.state
  | retried {stackName : String} {s : ClusterState}
      (h : retryStack world.state stackName env.now.unixMs = .ok s) :
      Outcome platform env world (.retry stackName) s
  | ran {target : String} {s : ClusterState}
      (h : RunsJob platform.toExternals env world.state s) :
      Outcome platform env world (.runJob target) s
  | cancelled {id : String} (hjob : ∀ task ∈ world.state.tasks, task.id = id → task.job.isSome) :
      Outcome platform env world (.cancelJob id) (world.state.withTasks
        (world.state.tasks.modify id TaskRecord.stop TaskRecord.stop_id))
  | rescheduled {event : Event} {s : ClusterState} (h : Rescheduled platform env world event s) :
      Outcome platform env world event s
  | rest {event : Event} {s s' : ClusterState} (h : Outcome platform env world event s)
      (hwork : SameWork s s') : Outcome platform env world event s'

section Passes

variable {plat : Platform} {cfg : ControllerConfig} {env : Env}

theorem commitLocked_work {srv srv' : Server} (h : commitLocked plat cfg env srv = .ok srv') :
    SameWork srv.inner.state srv'.inner.state := by
  obtain ⟨snap, -, rfl, -⟩ := commitLocked_ok h
  exact ⟨rfl, rfl⟩

variable (plat cfg env) in
theorem scheduleAndRoute_work (endDrains : Bool) (pass : Pass) :
    ∃ s live, SameWork (if endDrains then (finishDrains pass.state env.now.unixMs).1
        else pass.state) s ∧
      SameWork (reconcile plat.toExternals env.uuid live env.now.unixMs s).state
        (scheduleAndRoute plat cfg env endDrains pass).state := by
  have hrou : ∀ s, SameWork s (refreshReadyStackRoutes s).1 := fun _ => ⟨rfl, rfl⟩
  have hadv : ∀ s live, SameWork s (advanceServiceOperations s live env.now.unixMs).1 :=
    fun _ _ => ⟨rfl, rfl⟩
  unfold scheduleAndRoute
  extract_lets live advanced drained scheduled routed
  refine ⟨drained.1, live, ?_, hrou scheduled.state⟩
  cases endDrains with
  | false => exact hadv pass.state live
  | true => exact ⟨rfl, rfl⟩

theorem refreshStackDeploymentsLocked_work {now : Int} {inner : Inner} {refreshed : Inner × Bool}
    (h : refreshStackDeploymentsLocked plat cfg now inner = .ok refreshed) :
    SameWork inner.state refreshed.1.state := by
  rw [(refreshStackDeploymentsLocked_ok h).2]
  exact ⟨rfl, rfl⟩

theorem judge_work {refreshAt : Int} {pass pass' : Pass}
    (h : judge plat cfg env refreshAt pass = .ok pass') :
    SameWork pass.state pass'.state := by
  unfold judge at h
  split at h
  · cases h
  next refreshed href =>
    cases h
    have hwor := refreshStackDeploymentsLocked_work href
    exact ⟨hwor.tasks, hwor.services⟩

end Passes

section Events

variable {plat : Platform} {env : Env} {world : World}

/-- A request that commits a possible outcome, or nothing. -/
theorem Commits.outcome {kind : ClusterState → Prop} {srv' : Server}
    (h : Commits plat world.config env kind world.server srv')
    (hkind : ∀ s, kind s → Outcome plat env world event s) :
    Outcome plat env world event srv'.inner.state := by
  cases h with
  | unchanged => exact .kept
  | committed hsta hcom =>
    refine .rest (hkind _ hsta) ?_
    exact commitLocked_work hcom

theorem Aside.outcome {cause : Cause} {s : ClusterState}
    (h : Aside cause world.state s) : Outcome plat env world event s :=
  .rest .kept h.2

theorem served_outcome {result : Except ControllerError Server}
    (h : ∀ srv, result = .ok srv → Outcome plat env world event srv.inner.state) :
    Outcome plat env world event (world.served result).server.inner.state := by
  cases result with
  | error => exact .kept
  | ok srv => exact h srv rfl

/-- A pass ends with the work it scheduled, or is undone. -/
theorem Ended.rescheduled {refreshAt : Int} {scheduled : Pass} {passed : Bool} {srv' : Server}
    (h : Ended plat world.config env refreshAt world.server scheduled passed srv')
    (hsch : Rescheduled plat env world event scheduled.state) :
    Rescheduled plat env world event srv'.inner.state ∨
      passed = false ∧ srv'.inner.state = world.state := by
  cases h with
  | unjudged => exact .inl hsch
  | undone => exact .inr ⟨rfl, rfl⟩
  | unchanged hjud => exact .inl (hsch.rest (judge_work hjud))
  | committed hjud hcom => exact .inl (.rest (hsch.rest (judge_work hjud)) (commitLocked_work hcom))
  | refreshed hjud _ href hinn =>
    obtain ⟨snap, -, rfl⟩ := refreshGatewaySnapshot_ok href
    rcases hinn with rfl | rfl <;> exact .inl (.rest (hsch.rest (judge_work hjud)) ⟨rfl, rfl⟩)

theorem tick_outcome (hfre : FreshIds env world) :
    Outcome plat env world .tick (tick plat world.config env world.server).inner.state := by
  obtain ⟨s, live, hs, hsch⟩ :=
    scheduleAndRoute_work plat world.config env true { inner := world.server.inner }
  have hdra : Fresh env.uuid { state := (finishDrains world.state env.now.unixMs).1 } :=
    fresh_of_map hfre.fresh
  have hids : Fresh env.uuid { state := s } := hs.fresh hdra
  obtain ⟨passed, h⟩ := tick_ended plat world.config env world.server
  rcases h.rescheduled ((Rescheduled.passed live (.tick hs) hids).rest hsch) with hres | ⟨-, hsame⟩
  · exact .rescheduled hres
  · rw [hsame]
    exact .kept

theorem heartbeat_rescheduled (hfre : FreshIds env world) (nodeId : String) (body : NodeHeartbeat) :
    Rescheduled plat env world (.heartbeat nodeId body)
        (heartbeat plat world.config env world.server nodeId body).1.inner.state ∨
      (heartbeat plat world.config env world.server nodeId body).1.inner.state = world.state ∧
        ∃ error, (heartbeat plat world.config env world.server nodeId body).2 = .error error := by
  rcases heartbeat_ended plat world.config env world.server nodeId body with
    ⟨error, heq⟩ | ⟨member, hmem, -, passed, srv', hend, hans⟩
  · rw [heq]
    exact .inr ⟨rfl, error, rfl⟩
  obtain ⟨s, live, hs, hsch⟩ := scheduleAndRoute_work plat world.config env false
    (record world.config.cluster.clusterId env.now member.id body
      (admitNode env.now member body world.server.inner))
  have hids : Fresh env.uuid { state := s } :=
    hs.fresh ((world.recorded_observed env member body).fresh hfre.fresh)
  have hres := hend.rescheduled ((Rescheduled.passed live (.heartbeat hmem hs) hids).rest hsch)
  rcases hans with ⟨error, heq⟩ | ⟨rfl, heq⟩
  · rw [heq]
    exact hres.imp id fun h => ⟨h.2, error, rfl⟩
  rw [heq]
  rcases hres with hres | ⟨hne, -⟩
  · rcases answerHeartbeat_server plat world.config env member body srv' with
      hsame | ⟨deadline, hcom⟩
    · rw [hsame]
      exact .inl hres
    · rw [(commitGatewayAckLocked_ok hcom).1]
      exact .inl (.deadlines deadline hres)
  · cases hne

theorem commit_outcome (hfre : FreshIds env world) (index : Nat) :
    Outcome plat env world (.commit index) (world.commit plat env index).state := by
  unfold World.commit
  split
  next req hreq =>
    cases happ : applyGuarded plat world.config env world.server req with
    | error => exact .kept
    | ok srv =>
      obtain ⟨plan, refreshed, hche, hplan, href, hcom⟩ := applyGuarded_ok happ
      have hpre : Presented plat env world (.commit index) _ := .commit hreq hche hplan
      have hpas := Rescheduled.passed (currentLiveNodes world.config env.now world.server.inner)
        hpre (applyDesired_fresh plat.toExternals world.server.inner req env.now.unixMs plan
          hfre.tasks hfre.unclaimed)
      have hsch := hpas.rest (applyScheduled_work plat world.config env world.server.inner req plan)
      have hjud := hsch.rest (refreshStackDeploymentsLocked_work href)
      exact .rescheduled (hjud.rest (commitLocked_work hcom))
  · exact .kept

/-- **The tasks and services after an event.** -/
theorem step_outcome (plat : Platform) (hfre : FreshIds env world)
    (hres : ∀ cfg, event ≠ .restart cfg) :
    Outcome plat env world event (world.step plat env event).state := by
  have hkept : ∀ {world' : World}, world'.server = world.server →
      Outcome plat env world event world'.state := by
    intro world' hser
    show Outcome plat env world event world'.server.inner.state
    rw [hser]
    exact .kept
  cases event with
  | heartbeat nodeId body =>
    rcases heartbeat_rescheduled hfre nodeId body with h | ⟨h, -⟩
    · exact .rescheduled h
    · exact .rest .kept (h ▸ ⟨rfl, rfl⟩)
  | tick => exact tick_outcome hfre
  | apply | rollback => exact hkept (guarded_server world _)
  | scale | forceUpdate | remove => exact hkept (queued_server world _)
  | startPrepared =>
    refine hkept (?_ : world.startPrepared.server = world.server)
    unfold World.startPrepared
    split
    · rfl
    · exact queued_server world _
  | reserve index => exact hkept (reserve_server world index)
  | commit index => exact commit_outcome hfre index
  | abandon => exact .kept
  | failPrepared =>
    exact served_outcome fun _ h => (failPreparedOperation_commits h).outcome fun _ => Aside.outcome
  | retry stackName =>
    show Outcome plat env world _ (if _ then _ else _ : World).server.inner.state
    split
    · exact .kept
    · exact served_outcome fun _ h => (retryStackDeployment_commits h).outcome fun _ => .retried
  | submitOperation =>
    exact served_outcome fun _ h =>
      (submitServiceOperation_commits h).outcome fun _ => Aside.outcome
  | join => exact served_outcome fun _ h => (joinNode_commits h).outcome fun _ hs => hs.aside.outcome
  | updateGateway =>
    exact served_outcome fun _ h =>
      (updateNodeGateway_commits h).outcome fun _ hs => hs.aside.outcome
  | updateLabel nodeId key value =>
    refine served_outcome fun _ h => (updateNodeLabel_commits h).outcome fun s hs => ?_
    obtain ⟨labels, rfl⟩ := hs
    have hwork := (relabel_resettled world.state nodeId labels).aside.2
    exact .rescheduled (.passed _ (.updateLabel hwork) (hwork.fresh hfre.fresh))
  | runJob => exact served_outcome fun _ h => (runJob_commits h).outcome fun _ => .ran
  | cancelJob id =>
    refine served_outcome fun _ h => (cancelJobTask_commits h).outcome fun s hs => ?_
    obtain ⟨hjob, rfl⟩ := hs
    exact .cancelled hjob
  | registryLogin =>
    exact served_outcome fun _ h =>
      (setRegistryCredential_commits h).outcome fun _ hs => hs.aside.outcome
  | updateClusterConfig cluster =>
    show Outcome plat env world _
      (updateClusterConfig plat world.config env world.server cluster).inner.state
    unfold updateClusterConfig
    split
    · exact .kept
    dsimp only
    split
    next srv' hcom =>
      have hwork := commitLocked_work hcom
      exact .rest .kept ⟨hwork.tasks, hwork.services⟩
    · split
      · exact .kept
      · exact .rest .kept ⟨rfl, rfl⟩
  | restart cfg => exact absurd rfl (hres cfg)

end Events

end Swarmlite
