import Swarmlite.Controller.Durability
import Swarmlite.Controller.StartedJobs

/-!
# Executions whose removal was acknowledged

A stopped execution is handed to its node for removal, the node reports the result,
and its next inventory shows that nothing of it runs any more. `RemovalRun` follows
this exchange along a run of the controller, and `acknowledged_executions_finished`
says that an execution that went through it has finished for good: it is recorded in
a terminal state or forgotten, it does not keep its job from being run again, and it
is not counted among the executions still to be stopped.

This rests on one condition (`Settles`): the inventory that ends the exchange lists
the execution as finished, or the execution was recorded as finished before. The
controller takes the state of an execution from inventories alone. An execution that
never had a container is in none of them, a successful removal does not change its
record, and it stays `Pending` for good (`unstarted_execution_stays_open`).
-/

namespace Swarmlite

open Ordered Relation Loop

/-! ## Finished records -/

/-- The execution has ended, and no error is left on its record. -/
def TaskRecord.finished (task : TaskRecord) : Bool :=
  task.observed.isJobTerminal && task.reconcileError.isNone

/-- The execution under this id has finished, if it is still there. -/
def Finished (s : ClusterState) (id : String) : Prop :=
  ∀ task ∈ s.tasks, task.id = id → task.job.isSome → task.finished = true

theorem Finished.of_tasks {s s' : ClusterState} {id : String} (h : Finished s id)
    (htas : s'.tasks = s.tasks) : Finished s' id := by
  unfold Finished
  rw [htas]
  exact h

/-- Rewriting records without touching what `finished` reads. -/
theorem Finished.map {s : ClusterState} {id : String} (h : Finished s id)
    {f : TaskRecord → TaskRecord} {hf : ∀ task, (f task).id = task.id}
    (hjob : ∀ task, (f task).job = task.job)
    (hfin : ∀ task, task.job.isSome → task.finished = true → (f task).finished = true) :
    Finished (s.withTasks (s.tasks.map f hf)) id := by
  intro task' htask' hid hsome
  obtain ⟨task, htask, rfl⟩ := Table.exists_of_mem_map hf htask'
  rw [hf] at hid
  rw [hjob] at hsome
  exact hfin task hsome (h task htask hid hsome)

theorem settled_finished (ext : Externals) (live : Keys String) (now : Int) (s : ClusterState)
    {task : TaskRecord} (h : task.finished = true) :
    (Jobs.settled ext live now s task).finished = true := by
  obtain ⟨hter, herr⟩ := Bool.and_eq_true_iff.mp h
  have hsto : (Jobs.stopExpired s live now task).observed = task.observed ∧
      (Jobs.stopExpired s live now task).reconcileError = task.reconcileError := by
    unfold Jobs.stopExpired
    split
    · exact ⟨rfl, rfl⟩
    · simp [hter]
  have hset : (Jobs.settled ext live now s task).observed = task.observed ∧
      (Jobs.settled ext live now s task).reconcileError = task.reconcileError := by
    unfold Jobs.settled
    dsimp only
    split <;> exact hsto
  unfold TaskRecord.finished
  rw [hset.1, hset.2]
  exact h

/-! ## Heartbeats -/

/-- The heartbeat reports the execution as finished, or leaves its record to say so. -/
def finishedBy (nodeId : String) (body : NodeHeartbeat) (task : TaskRecord) : Bool :=
  if task.nodeId = nodeId then
    match (reportsById body).lookup task.id with
    | some report => report.observed.isJobTerminal
    | none => task.finished
  else task.finished

theorem seen_finished {nodeId : String} {body : NodeHeartbeat} {task : TaskRecord}
    (hjob : task.job.isSome) (h : finishedBy nodeId body task = true) :
    (seen nodeId body task).finished = true := by
  obtain ⟨job, hjob⟩ := Option.isSome_iff_exists.mp hjob
  unfold finishedBy at h
  unfold seen observeTask
  split at h
  next hnode =>
    rw [if_pos hnode, hjob]
    dsimp only
    cases hrep : (reportsById body).lookup task.id with
    | some report =>
      rw [hrep] at h
      exact Bool.and_eq_true_iff.mpr ⟨h, rfl⟩
    | none =>
      rw [hrep] at h
      dsimp only at h
      obtain ⟨hter, -⟩ := Bool.and_eq_true_iff.mp h
      unfold observeJob
      dsimp only
      rw [hter]
      simpa using h
  next hnode =>
    rw [if_neg hnode]
    exact h

/-- What a heartbeat leaves of an execution it reports as finished. -/
theorem Heard.finished {state : ClusterState} {nodeId : String} {body : NodeHeartbeat}
    {task task' : TaskRecord} (h : Heard state nodeId body task task') (hjob : task.job.isSome)
    (hfin : finishedBy nodeId body task = true)
    (hres : restartReported state nodeId body task.id = false) : task'.finished = true := by
  obtain ⟨hter, herr⟩ := Bool.and_eq_true_iff.mp (seen_finished hjob hfin)
  rcases h with h | ⟨hrest, -⟩
  · have hobs : task'.observed = (seen nodeId body task).observed := by
      refine h.observed.resolve_right fun hfai => ?_
      rw [hfai.2.2] at hter
      cases hter
    rw [← hobs] at hter
    refine Bool.and_eq_true_iff.mpr ⟨hter, ?_⟩
    rw [h.error hter]
    exact herr
  · rw [hres] at hrest
    cases hrest

/-! ## Events -/

/-- An event that leaves a finished execution alone: heartbeats list it as finished or
not at all, and none is taken for its restart. -/
def leavesFinished (id : String) (world : World) : Event → Bool
  | .heartbeat nodeId body =>
    !restartReported world.state nodeId body id
      && world.state.tasks.rows.all fun task => task.id ≠ id || finishedBy nodeId body task
  | _ => true

theorem leavesFinished_heartbeat {id nodeId : String} {world : World} {body : NodeHeartbeat}
    (h : leavesFinished id world (.heartbeat nodeId body) = true) :
    restartReported world.state nodeId body id = false ∧
      ∀ task ∈ world.state.tasks, task.id = id → finishedBy nodeId body task = true := by
  obtain ⟨hres, hrep⟩ := Bool.and_eq_true_iff.mp h
  refine ⟨by simpa using hres, fun task htask hid => ?_⟩
  have hlis := List.all_eq_true.mp hrep task htask
  simpa [hid] using hlis

section Events

variable {plat : Platform} {env : Env} {world : World} {event : Event} {id : String}

theorem Event.Meets.finished {task task' : TaskRecord} (h : event.Meets env world task task')
    (hlea : leavesFinished id world event = true) (htask : task ∈ world.state.tasks)
    (hid : task.id = id) (hjob : task.job.isSome)
    (hfin : (∃ nodeId body, event = .heartbeat nodeId body) ∨ task.finished = true) :
    task'.finished = true := by
  cases event with
  | heartbeat nodeId body =>
    obtain ⟨hres, hrep⟩ := leavesFinished_heartbeat hlea
    exact Heard.finished h hjob (hrep task htask hid) (by rw [hid]; exact hres)
  | tick =>
    have hfin := hfin.resolve_left fun ⟨_, _, hbeat⟩ => nomatch hbeat
    obtain rfl : task' = finishDrain env.now.unixMs task := h
    unfold finishDrain
    split <;> exact hfin
  | _ =>
    obtain rfl : task' = task := h
    exact hfin.resolve_left fun ⟨_, _, hbeat⟩ => nomatch hbeat

/-- A pass leaves an execution finished if the event presents it as such. -/
theorem Rescheduled.finished {s' : ClusterState} (h : Rescheduled plat env world event s')
    (huuid : Function.Injective env.uuid) (hunu : ∀ k, env.uuid k ≠ id)
    (hlea : leavesFinished id world event = true)
    (hfin : (∃ nodeId body, event = .heartbeat nodeId body) ∨ Finished world.state id) :
    Finished s' id := by
  induction h with
  | passed live hpre hpass =>
    intro task' htask' hid hjob
    obtain ⟨found, hfou, rfl⟩ := reconcile_execution plat.toExternals huuid env.now.unixMs
      hpass htask' (by rw [hid]; exact hunu) hjob
    rw [Jobs.settled_id] at hid
    rw [Jobs.settled_job] at hjob
    obtain ⟨task, htask, hmee⟩ := hpre.execution hfou hjob
    rw [hmee.id] at hid
    rw [hmee.job_isSome] at hjob
    refine settled_finished _ _ _ _ (hmee.finished hlea htask hid hjob ?_)
    exact hfin.imp_right fun hfin => hfin task htask hid hjob
  | deadlines deadline _ ih =>
    refine Finished.map ih (fun task => ?_) fun task _ h => ?_
    all_goals
      unfold setDrainDeadline
      split
    · rfl
    · rfl
    · exact h
    · exact h
  | rest _ hwork ih => exact ih.of_tasks hwork.tasks

/-- **An event that leaves a finished execution alone keeps it finished.** -/
theorem step_leaves_finished (plat : Platform) (hfre : FreshIds env world)
    (hres : ∀ cfg, event ≠ .restart cfg) (hunu : ∀ k, env.uuid k ≠ id)
    (hlea : leavesFinished id world event = true) (hfin : Finished world.state id) :
    Finished (world.step plat env event).state id := by
  have hout := step_outcome plat hfre hres
  generalize (world.step plat env event).state = s' at hout
  induction hout with
  | kept => exact hfin
  | retried h =>
    obtain ⟨stack, dep, -, -, -, -, rfl⟩ := retryStack_ok h
    refine Finished.map hfin (fun task => ?_) fun task _ hdone => ?_
    · unfold retryTask
      split <;> rfl
    · -- a retry starts over what has an error, and a finished execution has none
      obtain ⟨-, herr⟩ := Bool.and_eq_true_iff.mp hdone
      unfold retryTask
      rw [Option.isSome_eq_false_iff.mpr herr, Bool.and_false]
      exact hdone
  | ran h =>
    cases h with
    | intro svc live created hser hact hexe hoth hsch =>
      intro task htask hid hjob
      rcases Table.mem_insert.mp htask with rfl | ⟨hold, -⟩
      · obtain ⟨node, slot, _, _, _, _, rfl⟩ := scheduleTask_some hsch
        exact absurd hid (hunu 0)
      · exact hfin task hold hid hjob
  | cancelled hexe =>
    intro task htask hid hjob
    rw [ClusterState.withTasks_tasks, Table.mem_modify] at htask
    rcases htask with ⟨hold, -⟩ | ⟨old, hold, -, rfl⟩
    · exact hfin task hold hid hjob
    · exact hfin old hold hid hjob
  | rescheduled h => exact h.finished hfre.injective hunu hlea (.inr hfin)
  | rest _ hwork ih => exact (ih hres hlea).of_tasks hwork.tasks

/-- A restart reads finished executions back. -/
theorem restart_finished {exact : Prop} (hsto : Stored exact world.config world.server)
    (cfg : ControllerConfig) (hfin : Finished world.state id) :
    Finished (world.restart plat env cfg).state id := by
  unfold World.restart
  split
  · exact hfin
  next srv hok =>
    obtain ⟨cluster, gen, hinn, -⟩ := start_ok hok
    have hdisk : Finished world.server.disk.state id := by
      have hper : Finished (world.state.withTasks
          (world.state.tasks.map TaskRecord.persisted TaskRecord.persisted_id)) id := by
        refine Finished.map hfin (fun _ => rfl) fun task hjob hdone => ?_
        unfold TaskRecord.finished TaskRecord.persisted
        rw [hjob]
        exact Bool.and_eq_true_iff.mpr ⟨(Bool.and_eq_true_iff.mp hdone).1, rfl⟩
      exact hper.of_tasks hsto.tasks
    have hsta : Finished (world.server.disk.state.withTasks
        (world.server.disk.state.tasks.map forgetDrainDeadline forgetDrainDeadline_id)) id := by
      refine Finished.map hdisk (fun task => ?_) fun task _ hdone => ?_
      all_goals
        unfold forgetDrainDeadline
        split
      · rfl
      · rfl
      · exact hdone
      · exact hdone
    show Finished srv.inner.state id
    rw [hinn]
    exact hsta.of_tasks rfl

end Events

/-! ## The exchange with the node -/

/-- How far the removal of a stopped execution has come. -/
inductive RemovalProgress where
  | unsent
  | sent
  | reported
  | acknowledged
deriving DecidableEq

/-- The answer asks the node to remove the execution, which is to be stopped. -/
def removalSent (nodeId id : String) (state : ClusterState) (response : HeartbeatResponse) : Bool :=
  (response.removeTasks.any fun removal => removal.id = id)
    && state.tasks.rows.any fun task => task.id = id && task.nodeId = nodeId && task.job.isSome
      && task.desired = .stopped

/-- The node reports that the removal succeeded. -/
def removalReported (id : String) (body : NodeHeartbeat) : Bool :=
  body.taskResults.any fun report =>
    report.taskId = id && report.phase = .remove && report.error.isNone

/-- The inventory succeeded and shows no running container of the execution. -/
def removalVisible (id : String) (body : NodeHeartbeat) : Bool :=
  body.taskInventoryError.isNone && !body.tasks.any fun report => report.id = id
    && (report.observed = .starting || report.observed = .running || report.observed = .healthy)

/-- One answered heartbeat of the node. -/
def RemovalProgress.next (nodeId id : String) (body : NodeHeartbeat) (state : ClusterState)
    (response : HeartbeatResponse) : RemovalProgress → RemovalProgress
  | .unsent => if removalSent nodeId id state response then .sent else .unsent
  | .sent => if removalReported id body then .reported else .sent
  | .reported => if removalVisible id body then .acknowledged else .reported
  | .acknowledged => .acknowledged

/-- The progress once the event is processed. Only heartbeats of the node that were
answered count. -/
def RemovalProgress.after (platform : Platform) (nodeId id : String) (env : Env) (world : World)
    (event : Event) (progress : RemovalProgress) : RemovalProgress :=
  match event with
  | .heartbeat sender body =>
    if sender = nodeId then
      match heartbeat platform world.config env world.server sender body with
      | (server, .ok response) => progress.next nodeId id body server.inner.state response
      | (_, .error _) => progress
    else progress
  | _ => progress

/-- The runs of a controller along which the removal of one execution is followed, with
a condition on each event and the progress it leads to. An id that was handed out is
not drawn again. -/
inductive RemovalRun (platform : Platform) (P : RemovalProgress → Env → World → Event → Prop)
    (nodeId id : String) : World → RemovalProgress → Prop
  | started {world : World} (h : Started platform world) :
      RemovalRun platform P nodeId id world .unsent
  | step {world : World} {progress : RemovalProgress} {env : Env} {event : Event}
      (hrun : RemovalRun platform P nodeId id world progress) (hfresh : FreshIds env world)
      (hunused : progress ≠ .unsent → ∀ k, env.uuid k ≠ id)
      (hstep : P (progress.after platform nodeId id env world event) env world event) :
      RemovalRun platform P nodeId id (world.step platform env event)
        (progress.after platform nodeId id env world event)

/-- The gateway generation is not used up, and the heartbeat that completes the removal
and those that follow list the execution as finished, unless its record says so. -/
def Settles (id : String) (progress : RemovalProgress) (_env : Env) (world : World)
    (event : Event) : Prop :=
  Unexhausted world event ∧ (progress = .acknowledged → leavesFinished id world event = true)

instance (id : String) (progress : RemovalProgress) (env : Env) (world : World) (event : Event) :
    Decidable (Settles id progress env world event) := by
  unfold Settles Unexhausted
  cases event <;> infer_instance

section Exchange

variable {plat : Platform} {env : Env} {world : World} {event : Event} {nodeId id : String}
  {progress : RemovalProgress}

/-- The removal is complete only if it was before, or by an answered heartbeat. -/
theorem after_acknowledged (h : progress.after plat nodeId id env world event = .acknowledged) :
    progress = .acknowledged ∨ progress ≠ .unsent ∧ ∃ sender body,
      event = .heartbeat sender body ∧ ∀ error,
        (heartbeat plat world.config env world.server sender body).2 ≠ .error error := by
  unfold RemovalProgress.after at h
  split at h
  next sender body =>
    split at h
    · split at h
      next srv resp hans =>
        refine .inr ⟨?_, sender, body, rfl, fun error herr => ?_⟩
        · intro huns
          rw [huns] at h
          unfold RemovalProgress.next at h
          dsimp only at h
          split at h <;> cases h
        · rw [hans] at herr
          cases herr
      · exact .inl h
    · exact .inl h
  · exact .inl h

/-- An event after which the removal is complete leaves the execution finished. -/
theorem acknowledged_finished {exact : Prop} (hsto : Stored exact world.config world.server)
    (hfre : FreshIds env world) (hunu : progress ≠ .unsent → ∀ k, env.uuid k ≠ id)
    (hset : Settles id (progress.after plat nodeId id env world event) env world event)
    (hfin : progress = .acknowledged → Finished world.state id)
    (haft : progress.after plat nodeId id env world event = .acknowledged) :
    Finished (world.step plat env event).state id := by
  have hlea := hset.2 haft
  rcases after_acknowledged haft with rfl | ⟨hsent, sender, body, rfl, hans⟩
  · have hunu := hunu (by decide)
    rcases event.ne_restart_or with hrest | ⟨cfg, rfl⟩
    · exact step_leaves_finished plat hfre hrest hunu hlea (hfin rfl)
    · exact restart_finished hsto cfg (hfin rfl)
  · show Finished (heartbeat plat world.config env world.server sender body).1.inner.state id
    have hhea : Rescheduled plat env world (.heartbeat sender body) _ ∨ _ :=
      heartbeat_rescheduled hfre sender body
    rcases hhea with hres | ⟨-, error, herr⟩
    · exact hres.finished hfre.injective (hunu hsent) hlea (.inl ⟨sender, body, rfl⟩)
    · exact absurd herr (hans error)

/-- Along a run under the condition the database keeps up, and once the removal is
complete the execution is finished. -/
theorem RemovalRun.finished (hrun : RemovalRun plat (Settles id) nodeId id world progress) :
    Stored False world.config world.server ∧
      (progress = .acknowledged → Finished world.state id) := by
  induction hrun with
  | started h => exact ⟨h.stored, fun h => nomatch h⟩
  | step _ hfre hunu hset ih =>
    exact ⟨(step_writes ih.1 hfre hset.1 False.elim).stored,
      acknowledged_finished ih.1 hfre hunu hset ih.2⟩

end Exchange

/-! ## Whole runs -/

/-- The executions of a node that are to be stopped. -/
def stoppedExecutions (state : ClusterState) (nodeId : String) : List TaskRecord :=
  state.tasks.rows.filter fun task =>
    task.nodeId = nodeId && task.job.isSome && task.desired = .stopped

/-- How a manual run is refused while an execution is open. -/
def unfinishedConflict : ControllerError :=
  .conflict ("job still has an unfinished execution; cancel it and wait for termination "
    ++ "before running manually")

/-- A manual run is refused this way only over an open execution of the job. -/
theorem runJob_refused {plat : Platform} {cfg : ControllerConfig} {env : Env}
    {srv : Server} {target : String}
    (h : runJob plat cfg env srv target = .error unfinishedConflict) :
    ∃ svc, resolveService srv.inner.state target "job run" = .ok svc ∧
      ∃ task ∈ srv.inner.state.tasks, task.serviceId = svc.id ∧
        task.observed.isJobTerminal = false := by
  unfold runJob at h
  dsimp only at h
  rcases bind_error h with hres | ⟨svc, hser, h⟩
  · unfold resolveService at hres
    split at hres
    · cases hres
    split at hres
    · cases hres
    · split at hres <;> cases hres
  rcases bind_error h with hjob | ⟨_, -, h⟩
  · cases (ensure_error hjob).2
  rcases bind_error h with hopen | ⟨_, -, h⟩
  · have hany := Bool.not_eq_eq_eq_not.mp (ensure_error hopen).1
    obtain ⟨task, htask, hcond⟩ := List.any_eq_true.mp hany
    simp only [Bool.and_eq_true, decide_eq_true_eq, Bool.not_eq_eq_eq_not, Bool.not_true] at hcond
    exact ⟨svc, hser, task, htask, hcond⟩
  -- past the check nothing else is refused with this text
  split at h
  · exact absurd (ControllerError.conflict.inj (Except.error.inj h)) (by decide +kernel)
  unfold commitState at h
  split at h
  next error _ => cases error <;> cases h
  · cases h

/-- **A removal that was acknowledged leaves nothing open**: in every run that settles
its executions, what the nodes acknowledged is terminal, a manual run is refused only
over an execution that was not acknowledged, and the open executions to be stopped on a
node are at most those it has not acknowledged. -/
theorem acknowledged_executions_finished {platform : Platform} {world : World}
    {acked : List (String × String)}
    (hacked : ∀ removal ∈ acked,
      RemovalRun platform (Settles removal.2) removal.1 removal.2 world .acknowledged) :
    (∀ task ∈ world.state.tasks, task.job.isSome → (∃ nodeId, (nodeId, task.id) ∈ acked) →
      task.observed.isJobTerminal = true) ∧
    (∀ env target, runJob platform world.config env world.server target
        = .error unfinishedConflict →
      ∃ service, resolveService world.state target "job run" = .ok service ∧
        ∃ task ∈ world.state.tasks, task.serviceId = service.id ∧
          task.observed.isJobTerminal = false ∧
          ¬ (task.job.isSome ∧ ∃ nodeId, (nodeId, task.id) ∈ acked)) ∧
    ∀ nodeId, (stoppedExecutions world.state nodeId).countP
        (fun task => !task.observed.isJobTerminal)
      ≤ (stoppedExecutions world.state nodeId).countP fun task => (nodeId, task.id) ∉ acked := by
  have hter : ∀ task ∈ world.state.tasks, task.job.isSome →
      (∃ nodeId, (nodeId, task.id) ∈ acked) → task.observed.isJobTerminal = true := by
    intro task htask hjob ⟨nodeId, hmem⟩
    have hfin := (hacked _ hmem).finished.2 rfl
    exact (Bool.and_eq_true_iff.mp (hfin task htask rfl hjob)).1
  refine ⟨hter, fun env target href => ?_, fun nodeId => ?_⟩
  · obtain ⟨service, hser, task, htask, hsame, hopen⟩ := runJob_refused href
    refine ⟨service, hser, task, htask, hsame, hopen, fun hack => ?_⟩
    rw [hter task htask hack.1 hack.2] at hopen
    cases hopen
  · refine List.countP_mono_left fun task htask hopen => ?_
    obtain ⟨hrow, hsto⟩ := List.mem_filter.mp htask
    rw [decide_eq_true_eq]
    intro hack
    simp only [Bool.and_eq_true] at hsto
    rw [hter task hrow hsto.1.2 ⟨nodeId, hack⟩] at hopen
    cases hopen

/-! ### Runs -/

/-- Go on with the progress once it is evaluated. -/
def RemovalProgress.forced {α : Type} (next : RemovalProgress → α) : RemovalProgress → α
  | .unsent => next .unsent
  | .sent => next .sent
  | .reported => next .reported
  | .acknowledged => next .acknowledged

theorem RemovalProgress.forced_eq {α : Type} (next : RemovalProgress → α)
    (progress : RemovalProgress) : progress.forced next = next progress := by
  cases progress <;> rfl

/-- The progress at the end of these inputs. -/
def RemovalProgress.along (platform : Platform) (nodeId id : String) :
    World → RemovalProgress → List Input → RemovalProgress
  | _, progress, [] => progress
  | world, progress, input :: inputs =>
    (progress.after platform nodeId id input.env world input.event).forced fun progress =>
      along platform nodeId id (world.step platform input.env input.event) progress inputs

/-- The ids are fresh, and every event meets the condition. -/
def removalFollowed (platform : Platform) (P : RemovalProgress → Env → World → Event → Bool)
    (nodeId id : String) : World → RemovalProgress → List Input → Bool
  | _, _, [] => true
  | world, progress, input :: inputs =>
    world.tagFree input.tag && (progress = .unsent || !input.tag.toList.isPrefixOf id.toList)
      && (progress.after platform nodeId id input.env world input.event).forced fun progress =>
        P progress input.env world input.event
          && removalFollowed platform P nodeId id (world.step platform input.env input.event)
            progress inputs

theorem RemovalRun.perform {plat : Platform} {P : RemovalProgress → Env → World → Event → Prop}
    {check : RemovalProgress → Env → World → Event → Bool} {nodeId id : String}
    (hche : ∀ {progress : RemovalProgress} {env : Env} {world : World} {event : Event},
      check progress env world event = true → P progress env world event) :
    ∀ {inputs : List Input} {world : World} {progress : RemovalProgress},
      RemovalRun plat P nodeId id world progress →
      removalFollowed plat check nodeId id world progress inputs = true →
      RemovalRun plat P nodeId id (world.perform plat inputs)
        (progress.along plat nodeId id world inputs)
  | [], _, _, hrun, _ => hrun
  | input :: inputs, world, progress, hrun, hfollowed => by
    unfold removalFollowed at hfollowed
    rw [RemovalProgress.forced_eq] at hfollowed
    unfold RemovalProgress.along
    rw [RemovalProgress.forced_eq]
    simp only [Bool.and_eq_true, Bool.or_eq_true, decide_eq_true_eq] at hfollowed
    obtain ⟨⟨htag, hunu⟩, hstep, hrest⟩ := hfollowed
    have hunu : progress ≠ .unsent → ∀ k, input.env.uuid k ≠ id := fun hsent k heq =>
      ne_taggedId (hunu.resolve_left hsent) k heq.symm
    have hnext := hrun.step (freshIds_of_tagFree htag) hunu (hche hstep)
    exact hnext.perform hche hrest

/-- The error of a request that was refused. -/
def refusal {α : Type} : Except ControllerError α → Option ControllerError
  | .error error => some error
  | .ok _ => none

theorem eq_error_of_refusal {α : Type} {result : Except ControllerError α}
    {error : ControllerError} (h : refusal result = some error) : result = .error error := by
  cases result with
  | error e => rw [Option.some.inj h]
  | ok _ => cases h

/-- The job was run by hand, the execution is cancelled, and the node is told. -/
def cancelledInputs : List Input := [
  { event := .apply "a" jobStack Table.empty false, tag := "1" },
  { event := .commit 0, tag := "2" },
  { event := sampleBeat [] [] [], tag := "3" },
  { event := .runJob "a.job", tag := "e" },
  { event := .cancelJob "e", tag := "4" },
  { event := sampleBeat [] [] [], tag := "5" }]

/-- The node's report of the removal. -/
def removedReport : TaskReconcileReport :=
  { taskId := "e", desiredGeneration := 0, appliedGeneration := none, phase := .remove,
    error := none }

/-- The container was found running and stopped: the next inventory lists it as
cancelled. -/
def stoppedInputs : List Input := [
  { event := sampleBeat [executionReport .running] [removedReport] [], tag := "6" },
  { event := sampleBeat [executionReport .cancelled] [] [], tag := "7" }]

/-- There was no container: nothing had to be done, and there is nothing to list. -/
def neverStartedInputs : List Input := [
  { event := sampleBeat [] [removedReport] [], tag := "6" },
  { event := sampleBeat [] [] [], tag := "7" }]

def containerWorld : World :=
  sampleWorld.perform samplePlatform (cancelledInputs ++ stoppedInputs)

def neverStartedWorld : World :=
  sampleWorld.perform samplePlatform (cancelledInputs ++ neverStartedInputs)

/-- An execution that was stopped by the node has ended. -/
theorem acknowledged_executions_finished_cancelled :
    (∃ task ∈ containerWorld.state.tasks,
      task.id = "e" ∧ task.job.isSome ∧ task.desired = .stopped) ∧
    ∀ task ∈ containerWorld.state.tasks, task.job.isSome → task.id = "e" →
      task.observed.isJobTerminal = true := by
  have hthe : (containerWorld.state.tasks.rows.any fun task =>
      task.id = "e" && task.job.isSome && task.desired = .stopped) = true := by decide +kernel
  have hrun : RemovalRun samplePlatform (Settles "e") "c" "e" containerWorld
      (RemovalProgress.along samplePlatform "c" "e" sampleWorld .unsent
        (cancelledInputs ++ stoppedInputs)) :=
    (RemovalRun.started sampleWorld_started).perform of_decide_eq_true (by decide +kernel)
  have hdone : RemovalProgress.along samplePlatform "c" "e" sampleWorld .unsent
      (cancelledInputs ++ stoppedInputs) = .acknowledged := by decide +kernel
  rw [hdone] at hrun
  obtain ⟨task, htask, hcond⟩ := List.any_eq_true.mp hthe
  simp only [Bool.and_eq_true, decide_eq_true_eq] at hcond
  refine ⟨⟨task, htask, hcond.1.1, hcond.1.2, hcond.2⟩, fun task htask hjob hid => ?_⟩
  have hack : ∀ removal ∈ [("c", "e")], RemovalRun samplePlatform (Settles removal.2) removal.1
      removal.2 containerWorld .acknowledged := by
    intro removal hmem
    obtain rfl := List.mem_singleton.mp hmem
    exact hrun
  exact (acknowledged_executions_finished hack).1 task htask hjob
    ⟨"c", by rw [hid]; exact List.mem_singleton.mpr rfl⟩

/-- **An execution that never had a container stays open**: its removal was sent, reported
and followed by a clean inventory, and the job cannot be run any more. -/
theorem unstarted_execution_stays_open :
    ∃ world, RemovalRun samplePlatform (fun _ _ _ _ => True) "c" "e" world .acknowledged ∧
      (∃ task ∈ world.state.tasks, task.id = "e" ∧ task.job.isSome ∧
        task.observed.isJobTerminal = false) ∧
      runJob samplePlatform world.config (sampleEnv "8") world.server "a.job"
        = .error unfinishedConflict := by
  have hthe : (neverStartedWorld.state.tasks.rows.any fun task =>
      task.id = "e" && task.job.isSome && !task.observed.isJobTerminal) = true := by decide +kernel
  have hrun : RemovalRun samplePlatform (fun _ _ _ _ => True) "c" "e" neverStartedWorld
      (RemovalProgress.along samplePlatform "c" "e" sampleWorld .unsent
        (cancelledInputs ++ neverStartedInputs)) :=
    (RemovalRun.started sampleWorld_started).perform of_decide_eq_true (by decide +kernel)
  have hdone : RemovalProgress.along samplePlatform "c" "e" sampleWorld .unsent
      (cancelledInputs ++ neverStartedInputs) = .acknowledged := by decide +kernel
  rw [hdone] at hrun
  obtain ⟨task, htask, hcond⟩ := List.any_eq_true.mp hthe
  simp only [Bool.and_eq_true, decide_eq_true_eq, Bool.not_eq_eq_eq_not, Bool.not_true] at hcond
  refine ⟨neverStartedWorld, hrun, ⟨task, htask, hcond.1.1, hcond.1.2, hcond.2⟩, ?_⟩
  exact eq_error_of_refusal (by decide +kernel)

end Swarmlite
