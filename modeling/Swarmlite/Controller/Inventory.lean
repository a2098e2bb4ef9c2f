import Swarmlite.Controller.Flags

/-!
# What a heartbeat says about a job execution

Recording a heartbeat touches the record of a job execution in three places: the
inventory (`observeTask`), an error result for an execution without a container
(`failExecution`), and the result of a service restart that names its id
(`showStarting`). All other phases are about replicas, deployments and images.

`record_execution` states this as a relation between the record before and after
(`Heard`): what was fixed when the execution was created stays, and what is
observed of it is what the heartbeat says.
-/

namespace Swarmlite

open Ordered

/-- The record as the inventory shows it. -/
def seen (nodeId : String) (body : NodeHeartbeat) (task : TaskRecord) : TaskRecord :=
  observeTask nodeId (reportsById body) body.taskInventoryError.isNone task

/-- The heartbeat carries an error of a task of its node that it does not list. -/
def failureReported (nodeId : String) (body : NodeHeartbeat) (task : TaskRecord) : Bool :=
  task.nodeId = nodeId && !(reportsById body).contains task.id
    && body.taskResults.any fun report => report.taskId = task.id && report.error.isSome

/-- The heartbeat carries a result that is taken for the restart of this id. -/
def restartReported (state : ClusterState) (nodeId : String) (body : NodeHeartbeat)
    (taskId : String) : Bool :=
  body.taskResults.any fun report => report.taskId = taskId
    && state.serviceOperations.rows.any (restartOf nodeId report)

/-- An execution before and after the inventory and the results are recorded. -/
structure Answered (nodeId : String) (body : NodeHeartbeat) (task task' : TaskRecord) : Prop where
  identity : task'.identity = task.identity
  observed : task'.observed = (seen nodeId body task).observed ∨
    task'.observed = .unknown ∧ failureReported nodeId body task = true ∧
      (seen nodeId body task).observed.isJobTerminal = false
  /-- A result puts an error only on an execution that is not known to have finished. -/
  error : task'.observed.isJobTerminal = true →
    task'.reconcileError = (seen nodeId body task).reconcileError

/-- An execution before and after a heartbeat is recorded. -/
def Heard (state : ClusterState) (nodeId : String) (body : NodeHeartbeat)
    (task task' : TaskRecord) : Prop :=
  Answered nodeId body task task' ∨
    restartReported state nodeId body task.id = true ∧
      ∃ answered, Answered nodeId body task answered ∧ task' = showStarting answered

theorem Heard.identity {state : ClusterState} {nodeId : String} {body : NodeHeartbeat}
    {task task' : TaskRecord} (h : Heard state nodeId body task task') :
    task'.identity = task.identity := by
  rcases h with h | ⟨-, answered, h, rfl⟩
  · exact h.identity
  · exact h.identity

/-! ## Phases that leave executions alone -/

/-- Every execution was there before, as it is. -/
def ExecutionsKept (s s' : ClusterState) : Prop :=
  ∀ task ∈ s'.tasks, task.job.isSome → task ∈ s.tasks

namespace ExecutionsKept

variable {s s' s'' : ClusterState}

theorem refl (s : ClusterState) : ExecutionsKept s s := fun _ htask _ => htask

theorem of_tasks (h : s'.tasks = s.tasks) : ExecutionsKept s s' := by
  intro task htask _
  rw [h] at htask
  exact htask

theorem trans (h : ExecutionsKept s s') (h' : ExecutionsKept s' s'') : ExecutionsKept s s'' :=
  fun task htask hjob => h task (h' task htask hjob) hjob

theorem foldl {β : Type} {f : Pass → β → Pass} {l : List β} (pass : Pass)
    (hstep : ∀ acc, ∀ x ∈ l, ExecutionsKept acc.state (f acc x).state) :
    ExecutionsKept pass.state (l.foldl f pass).state :=
  Loop.foldl_rel (R := fun a b : Pass => ExecutionsKept a.state b.state)
    (fun a => refl a.state) (fun _ _ _ => trans) hstep

end ExecutionsKept

theorem markDeploymentProgress_rest (state : ClusterState) (stackName : String)
    (gen : Nat) (now : Int) :
    (markDeploymentProgress state stackName gen now).1 = { state with
      stackRecords := (markDeploymentProgress state stackName gen now).1.stackRecords } := by
  unfold markDeploymentProgress
  split <;> rfl

theorem markProgressForGeneration_tasks (state : ClusterState) (gen : Nat) (now : Int) :
    (markProgressForGeneration state gen now).1.tasks = state.tasks := by
  unfold markProgressForGeneration
  split
  · rfl
  · rw [markDeploymentProgress_rest]

theorem applyTaskProgress_rest (nodeId : String) (pass : Pass) (progress : TaskReconcileProgress) :
    (applyTaskProgress nodeId pass progress).state = { pass.state with
      stackRecords := (applyTaskProgress nodeId pass progress).state.stackRecords } := by
  unfold applyTaskProgress
  split
  · rfl
  split
  · rfl
  dsimp only
  split
  · rfl
  · exact markDeploymentProgress_rest pass.state _ _ _

theorem recordImageProgress_tasks (nodeId : String) (pass : Pass)
    (progress : ImageResolutionProgress) :
    (recordImageProgress nodeId pass progress).state.tasks = pass.state.tasks := by
  refine (markProgressForGeneration_tasks _ _ _).trans ?_
  unfold applyImageProgress
  repeat' split
  all_goals rfl

theorem applyImageResolutionReport_tasks (now : Int) (state : ClusterState) (nodeId : String)
    (report : ImageResolutionReport) :
    (applyImageResolutionReport now state nodeId report).1.tasks = state.tasks := by
  unfold applyImageResolutionReport
  split
  · rfl
  dsimp only
  split
  · rfl
  split
  · rfl
  · refine Loop.foldl_rel (R := fun a b : ClusterState => b.tasks = a.tasks)
      (fun _ => rfl) (fun _ _ _ h h' => h'.trans h) fun acc resolution _ => ?_
    rfl

theorem recordImageResult_tasks (now : Int) (nodeId : String) (pass : Pass)
    (report : ImageResolutionReport) :
    (recordImageResult now nodeId pass report).state.tasks = pass.state.tasks := by
  unfold recordImageResult
  dsimp only
  split
  · rfl
  split
  · exact (markProgressForGeneration_tasks _ _ _).trans
      (applyImageResolutionReport_tasks now pass.state nodeId report)
  · exact applyImageResolutionReport_tasks now pass.state nodeId report

theorem recordProgressReport_tasks (nodeId : String) (pass : Pass)
    (progress : TaskReconcileProgress) :
    (recordProgressReport nodeId pass progress).state.tasks = pass.state.tasks := by
  unfold recordProgressReport
  split
  · rfl
  · rw [applyTaskProgress_rest]

variable {nodeId : String} {report : TaskReconcileReport} {body : NodeHeartbeat}
  {task' : TaskRecord} {op : ServiceOperationRecord} {acc : Pass × List String}

/-- Results for deployments are about replicas. -/
theorem applyTaskResult_kept (now : Int) {state : ClusterState}
    (hrep : ReplicaAt state nodeId report.taskId) :
    ExecutionsKept state (applyTaskResult now state nodeId report).1 := by
  unfold applyTaskResult
  split
  · refine .of_tasks ?_
    unfold applyUnclaimedTaskResult recordStackError
    repeat' split
    all_goals rfl
  next task hget =>
    split
    · exact .refl state
    next hnode =>
      have hrec : ExecutionsKept state (state.withTasks (state.tasks.modify report.taskId
          (TaskRecord.recordResult report) (TaskRecord.recordResult_id report))) := by
        intro task' htask' hjob
        rw [ClusterState.withTasks_tasks, Table.mem_modify] at htask'
        rcases htask' with ⟨hold, -⟩ | ⟨old, hold, hid, rfl⟩
        · exact hold
        · have hsame := Table.get?_of_mem hold
          rw [hid, hget] at hsame
          obtain rfl := Option.some_inj.mp hsame
          have hnone := hrep task hget (by simpa using hnode)
          rw [show (TaskRecord.recordResult report task).job = task.job from rfl, hnone] at hjob
          cases hjob
      split
      · exact .refl state
      split
      · exact .refl state
      split
      · exact .refl state
      split
      · exact hrec
      split
      · exact hrec
      split
      · exact hrec
      · refine hrec.trans (.of_tasks ?_)
        unfold recordStackError
        split <;> rfl

theorem recordFailures_kept (now : Int) (nodeId : String) (body : NodeHeartbeat) :
    ∀ (failures : List (String × String)) (pass : Pass),
      (∀ failure ∈ failures, ReplicaAt pass.state nodeId failure.1) →
      ExecutionsKept pass.state (failures.foldl (recordFailure now nodeId body) pass).state
  | [], pass, _ => .refl pass.state
  | failure :: failures, pass, hreplica => by
    have hfir : ExecutionsKept pass.state (recordFailure now nodeId body pass failure).state := by
      unfold recordFailure
      split
      · exact .refl pass.state
      split
      · exact .refl pass.state
      · exact applyTaskResult_kept now (hreplica failure (List.mem_cons_self ..))
    refine hfir.trans (recordFailures_kept now nodeId body failures _ fun other hoth => ?_)
    exact (hreplica other (List.mem_cons_of_mem _ hoth)).observed
      (recordFailure_records now nodeId body pass failure).observed

/-! ## Containers -/

/-- Tasks and operations stay as they are. -/
def ContainersOnly (pass pass' : Pass) : Prop :=
  pass'.state.tasks = pass.state.tasks ∧
    pass'.state.serviceOperations = pass.state.serviceOperations

theorem ContainersOnly.foldl {β : Type} {f : Pass → β → Pass} (hstep : ∀ acc x,
    ContainersOnly acc (f acc x)) (l : List β) (pass : Pass) :
    ContainersOnly pass (l.foldl f pass) :=
  Loop.foldl_rel (R := ContainersOnly) (fun _ => ⟨rfl, rfl⟩)
    (fun _ _ _ h h' => ⟨h'.1.trans h.1, h'.2.trans h.2⟩) fun acc x _ => hstep acc x

theorem forgetDisappeared_only (now : Int) (nodeId : String) (body : NodeHeartbeat) (pass : Pass) :
    ContainersOnly pass (forgetDisappeared now nodeId body pass) := by
  unfold forgetDisappeared
  split
  · refine ContainersOnly.foldl (fun acc task => ?_) _ pass
    unfold forgetUnclaimed markCurrentDeploymentProgress markDeploymentProgress
    dsimp only
    repeat' split
    all_goals exact ⟨rfl, rfl⟩
  · exact ⟨rfl, rfl⟩

theorem recordContainers_only (clusterId nodeId : String) (body : NodeHeartbeat) (pass : Pass) :
    ContainersOnly pass (recordContainers clusterId nodeId body pass) := by
  refine ContainersOnly.foldl (fun acc report => ?_) _ pass
  unfold recordContainer
  dsimp only
  repeat' split
  all_goals exact ⟨rfl, rfl⟩

/-! ## The inventory and the results -/

/-- The recording of results so far. -/
structure Answering (start : ClusterState) (nodeId : String) (body : NodeHeartbeat)
    (acc : Pass × List String) : Prop where
  executions : ∀ task' ∈ acc.1.state.tasks, task'.job.isSome →
    ∃ task ∈ start.tasks, Answered nodeId body task task'
  /-- Operations take no result they would not have taken at the start. -/
  operations : ∀ op' ∈ acc.1.state.serviceOperations, ∃ op ∈ start.serviceOperations,
    ∀ report, restartOf nodeId report op' = true → restartOf nodeId report op = true
  restarted : ∀ id ∈ acc.2, restartReported start nodeId body id = true

/-- Recording a restart opens no operation for further results. -/
theorem restartOf_recordRestart {now : Int} {other : TaskReconcileReport}
    (h : restartOf nodeId other (recordRestart now report op) = true) :
    restartOf nodeId other op = true := by
  unfold recordRestart at h
  split at h
  · cases h
  split at h
  · unfold restartOf at h ⊢
    simp only [Bool.and_eq_true, decide_eq_true_eq] at h ⊢
    obtain ⟨hact, htar⟩ := h
    refine ⟨hact, ?_⟩
    rw [List.any_eq_true] at htar ⊢
    obtain ⟨target, hmem, htar⟩ := htar
    rcases Loop.mem_updateFirst hmem with hold | ⟨old, hold, -, rfl⟩
    · exact ⟨target, hold, htar⟩
    · exact ⟨old, hold, htar⟩
  · exact h

theorem Answering.restart {start : ClusterState} {now : Int} (hrep : report ∈ body.taskResults)
    (hfou : acc.1.state.serviceOperations.rows.find? (restartOf nodeId report) = some op)
    (h : Answering start nodeId body acc) :
    Answering start nodeId body (acc.1.update { acc.1.state with
      serviceOperations := acc.1.state.serviceOperations.modify op.operationId
        (recordRestart now report) (recordRestart_id now report) }
        (recordRestart now report op != op),
      if report.error.isNone && awaitsRestart report op then acc.2 ++ [report.taskId]
      else acc.2) := by
  refine ⟨h.executions, fun op' hop' => ?_, fun id hid => ?_⟩
  · dsimp only [Pass.update_state] at hop'
    rw [Table.mem_modify] at hop'
    rcases hop' with ⟨hold, -⟩ | ⟨old, hold, -, rfl⟩
    · exact h.operations op' hold
    · obtain ⟨first, hfir, htak⟩ := h.operations old hold
      exact ⟨first, hfir, fun other hoth => htak other (restartOf_recordRestart hoth)⟩
  · have hthis : restartReported start nodeId body report.taskId = true := by
      obtain ⟨first, hfir, htak⟩ := h.operations op (List.mem_of_find?_eq_some hfou)
      refine List.any_eq_true.mpr ⟨report, hrep, ?_⟩
      rw [decide_eq_true rfl, Bool.true_and, List.any_eq_true]
      exact ⟨first, hfir, htak report (List.find?_some hfou)⟩
    split at hid
    · rcases List.mem_append.mp hid with hold | hnew
      · exact h.restarted id hold
      · rw [List.mem_singleton.mp hnew]
        exact hthis
    · exact h.restarted id hid

/-- An execution that the node does not list fails with the error. -/
theorem failExecution_answered {message : String} {task : TaskRecord}
    (hrep : report ∈ body.taskResults) (hid : task'.id = report.taskId)
    (herr : report.error = some message) (hnode : task'.nodeId = nodeId)
    (hunl : (reportsById body).contains report.taskId = false)
    (hopen : task'.observed.isJobTerminal = false) (h : Answered nodeId body task task') :
    Answered nodeId body task (failExecution report message task') := by
  have htask : task'.id = task.id := congrArg (·.id) h.identity
  have htasN : task'.nodeId = task.nodeId := congrArg (·.nodeId) h.identity
  refine ⟨h.identity, .inr ⟨rfl, ?_, ?_⟩, fun hter => nomatch hter⟩
  · unfold failureReported
    rw [← htask, ← htasN, hid, hunl, hnode, decide_eq_true rfl]
    refine List.any_eq_true.mpr ⟨report, hrep, ?_⟩
    simp [herr]
  · rcases h.observed with hseen | ⟨-, -, hseen⟩
    · rw [← hseen]
      exact hopen
    · exact hseen

theorem recordTaskResult_answering {start : ClusterState} (now : Int)
    (hrepo : report ∈ body.taskResults) (h : Answering start nodeId body acc) :
    Answering start nodeId body (recordTaskResult now nodeId (reportsById body) acc report) := by
  unfold recordTaskResult
  dsimp only
  split
  next op hfou => exact h.restart hrepo hfou
  split
  next task hfou =>
    split
    next message herr =>
      split
      next hcond =>
        simp only [Bool.and_eq_true, Bool.not_eq_true'] at hcond
        refine ⟨fun task' htask' hjob => ?_, h.operations, h.restarted⟩
        obtain ⟨hget, hown⟩ := Option.filter_eq_some_iff.mp hfou
        simp only [Bool.and_eq_true, decide_eq_true_eq] at hown
        rw [Pass.update_state, ClusterState.withTasks_tasks, Table.mem_modify] at htask'
        rcases htask' with ⟨hold, -⟩ | ⟨old, hold, hid, rfl⟩
        · exact h.executions task' hold hjob
        · obtain ⟨hmem, hkey⟩ := Table.get?_eq_some.mp hget
          obtain rfl := Table.eq_of_key hold hmem (hid.trans hkey.symm)
          obtain ⟨first, hfir, hans⟩ := h.executions old hold hjob
          exact ⟨first, hfir, failExecution_answered hrepo hid herr hown.1 hcond.1 hcond.2 hans⟩
      · exact h
    · exact h
  next hnone =>
    -- the result of a dep is about a replica of the node
    have hrep : ReplicaAt acc.1.state nodeId report.taskId := by
      intro task hget hnode
      rw [hget, Option.filter_eq_none_iff] at hnone
      have hjob := hnone task rfl
      rw [hnode, decide_eq_true rfl, Bool.true_and] at hjob
      exact Option.not_isSome_iff_eq_none.mp hjob
    refine ⟨fun task' htask' hjob => ?_, ?_, h.restarted⟩
    · have hkept := applyTaskResult_kept now
        (hrep.observed (applyTaskProgress_records nodeId acc.1 _).observed) task' htask' hjob
      rw [applyTaskProgress_rest] at hkept
      exact h.executions task' hkept hjob
    · dsimp only [Pass.update_state]
      unfold applyTaskResult applyUnclaimedTaskResult recordStackError
      rw [applyTaskProgress_rest]
      repeat' split
      all_goals exact h.operations

/-- Restarts are shown for the ids of the list. -/
theorem mem_restartedTasks : ∀ (ids : List String) (pass : Pass) {task' : TaskRecord},
      task' ∈ (ids.foldl restartedTask pass).state.tasks →
      task' ∈ pass.state.tasks ∨
        ∃ task ∈ pass.state.tasks, task.id ∈ ids ∧ task' = showStarting task
  | [], _, _, h => .inl h
  | id :: ids, pass, task', h => by
    have hone : ∀ {task : TaskRecord}, task ∈ (restartedTask pass id).state.tasks →
        task ∈ pass.state.tasks ∨ ∃ old ∈ pass.state.tasks, old.id = id ∧
          task = showStarting old := by
      intro task htask
      unfold restartedTask Pass.withState Pass.state Inner.withState at htask
      rw [ClusterState.withTasks_tasks, Table.mem_modify] at htask
      rcases htask with ⟨hold, -⟩ | ⟨old, hold, hid, rfl⟩
      · exact .inl hold
      · exact .inr ⟨old, hold, hid, rfl⟩
    rcases mem_restartedTasks ids (restartedTask pass id) h with hmem | ⟨task, hmem, hid, rfl⟩
    · rcases hone hmem with hold | ⟨old, hold, hid, rfl⟩
      · exact .inl hold
      · exact .inr ⟨old, hold, List.mem_cons.mpr (.inl hid), rfl⟩
    · rcases hone hmem with hold | ⟨old, hold, hsame, rfl⟩
      · exact .inr ⟨task, hold, List.mem_cons_of_mem _ hid, rfl⟩
      · exact .inr ⟨old, hold, List.mem_cons.mpr (.inl hsame), rfl⟩

theorem recordTaskResults_heard (now : Int) (nodeId : String) (body : NodeHeartbeat) (pass : Pass)
    (htask' : task' ∈ (recordTaskResults now nodeId body
      (observeTasks nodeId body pass)).state.tasks) (hjob : task'.job.isSome) :
    ∃ task ∈ pass.state.tasks, Heard pass.state nodeId body task task' := by
  have hsta : Answering pass.state nodeId body (observeTasks nodeId body pass, []) := by
    refine ⟨fun task htask _ => ?_, fun op hop => ⟨op, hop, fun _ h => h⟩,
      fun id hid => nomatch hid⟩
    obtain ⟨old, hold, rfl⟩ := Table.exists_of_mem_map (observeTask_id nodeId (reportsById body)
      body.taskInventoryError.isNone) htask
    exact ⟨old, hold, observeTask_identity nodeId _ _ old, .inl rfl, fun _ => rfl⟩
  have hans : Answering pass.state nodeId body (body.taskResults.foldl
      (recordTaskResult now nodeId (reportsById body)) (observeTasks nodeId body pass, [])) :=
    List.foldlRecOn body.taskResults _ hsta fun acc hacc report hrep =>
      recordTaskResult_answering now hrep hacc
  rcases mem_restartedTasks _ _ htask' with hmem | ⟨answered, hmem, hid, rfl⟩
  · obtain ⟨task, htask, h⟩ := hans.executions task' hmem hjob
    exact ⟨task, htask, .inl h⟩
  · obtain ⟨task, htask, h⟩ := hans.executions answered hmem hjob
    have hsame : answered.id = task.id := congrArg (·.id) h.identity
    refine ⟨task, htask, .inr ⟨?_, answered, h, rfl⟩⟩
    rw [← hsame]
    exact hans.restarted _ hid

/-- **An execution after a heartbeat is what the heartbeat says about it.** -/
theorem record_execution (clusterId : String) (clock : Clock) (nodeId : String)
    (body : NodeHeartbeat) (pass : Pass)
    (htask' : task' ∈ (record clusterId clock nodeId body pass).state.tasks)
    (hjob : task'.job.isSome) :
    ∃ task ∈ pass.state.tasks, Heard pass.state nodeId body task task' := by
  unfold record at htask'
  extract_lets now reports inventoryOk disappeared contained failures removed observed results
    progressed resolved reported failed at htask'
  have hcon : ContainersOnly pass contained :=
    ⟨(recordContainers_only clusterId nodeId body _).1.trans
        (forgetDisappeared_only now nodeId body pass).1,
      (recordContainers_only clusterId nodeId body _).2.trans
        (forgetDisappeared_only now nodeId body pass).2⟩
  have hrep : ExecutionsKept results.state reported.state :=
    ((ExecutionsKept.foldl results fun acc progress _ =>
      .of_tasks (recordImageProgress_tasks nodeId acc progress)).trans
      (ExecutionsKept.foldl progressed fun acc report _ =>
        .of_tasks (recordImageResult_tasks now nodeId acc report))).trans
      (ExecutionsKept.foldl resolved fun acc progress _ =>
        .of_tasks (recordProgressReport_tasks nodeId acc progress))
  have hfai : ExecutionsKept reported.state failed.state := by
    refine recordFailures_kept now nodeId body failures reported fun failure hfail => ?_
    obtain ⟨task, htask, hfou⟩ := List.mem_filterMap.mp hfail
    obtain ⟨hid, hpla, -⟩ := observedFailure_some hfou
    refine ReplicaAt.observed (fun other hoth _ => ?_)
      (recordReports_records now nodeId body contained).observed
    rw [hid, Table.get?_of_mem htask] at hoth
    exact Option.some_inj.mp hoth ▸ hpla
  have hrem : ExecutionsKept failed.state (removed.foldl removeTask failed).state :=
    ExecutionsKept.foldl failed fun acc id _ task htask _ => (Table.mem_erase.mp htask).1
  have hres := (hrep.trans (hfai.trans hrem)) task' htask' hjob
  obtain ⟨task, htask, hhea⟩ := recordTaskResults_heard now nodeId body contained hres hjob
  rw [hcon.1] at htask
  unfold Heard restartReported at hhea ⊢
  rw [hcon.2] at hhea
  exact ⟨task, htask, hhea⟩

end Swarmlite
