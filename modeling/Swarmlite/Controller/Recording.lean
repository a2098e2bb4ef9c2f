import Swarmlite.Controller.Heartbeat

/-!
# Recording decides nothing

The recording phases of a heartbeat (`record`) touch the cluster state, the
progress of tasks and the two change flags, and the cluster state only as reports
may (`Observed`). `Records` bundles both facts for one phase, with the same
reflexive and transitive shape as `Observed`, and `record_records` covers the
whole of it.

The one phase that is not a matter of course is the last: it removes tasks from
the table. They were stopped when the inventory was read, and no phase in between
changes what is desired of a task.
-/

namespace Swarmlite

open Ordered

/-- A phase that records reports of one node. -/
structure Records (nodeId : String) (pass pass' : Pass) : Prop where
  inner : pass'.inner = { pass.inner with
    state := pass'.inner.state
    taskProgress := pass'.inner.taskProgress }
  observed : Observed nodeId pass.state pass'.state

namespace Records

variable {nodeId : String} {pass pass' pass'' : Pass}

theorem refl (nodeId : String) (pass : Pass) : Records nodeId pass pass :=
  ⟨rfl, Observed.refl nodeId pass.state⟩

theorem trans (h : Records nodeId pass pass') (h' : Records nodeId pass' pass'') :
    Records nodeId pass pass'' := by
  refine ⟨?_, h.observed.trans h'.observed⟩
  rw [h'.inner, h.inner]

theorem foldl {α β : Type} (passOf : α → Pass) (f : α → β → α) (start : α) {l : List β}
    (hstep : ∀ acc, ∀ x ∈ l, Records nodeId (passOf acc) (passOf (f acc x))) :
    Records nodeId (passOf start) (passOf (l.foldl f start)) :=
  Loop.foldl_rel (R := fun a b => Records nodeId (passOf a) (passOf b))
    (fun a => refl nodeId (passOf a)) (fun _ _ _ => trans) hstep

/-- A new state that reports allow. -/
theorem update {state : ClusterState} (h : Observed nodeId pass.state state)
    (changed soft : Bool) : Records nodeId pass (pass.update state changed soft) :=
  ⟨rfl, h⟩

theorem forgetProgress (h : Records nodeId pass pass') (taskId : String) :
    Records nodeId pass (pass'.forgetProgress taskId) := by
  refine ⟨?_, h.observed⟩
  unfold Pass.forgetProgress
  rw [h.inner]

end Records

/-! ## Containers -/

variable (clusterId : String) (now : Int) (nodeId : String) (state : ClusterState)
  (beat : NodeHeartbeat) (pass : Pass)

theorem observed_erase_unclaimed (id : String) : Observed nodeId state
      { state with unclaimedTasks := state.unclaimedTasks.erase id } :=
  { Observed.refl nodeId state with
    rest := rfl
    unclaimed := fun _ htask => .inl (Table.mem_erase.mp htask).1 }

theorem observed_insert_unclaimed {nodeId : String} {task : UnclaimedTask}
    (hnode : task.nodeId = nodeId) :
    Observed nodeId state { state with unclaimedTasks := state.unclaimedTasks.insert task } := by
  refine { Observed.refl nodeId state with rest := rfl, unclaimed := ?_ }
  intro other hoth
  rcases Table.mem_insert.mp hoth with rfl | ⟨hold, _⟩
  · exact .inr hnode
  · exact .inl hold

theorem unclaimedOf_nodeId {clusterId nodeId : String} {report : TaskReport}
    {task : UnclaimedTask} (h : unclaimedOf clusterId nodeId report = some task) :
    task.nodeId = nodeId := by
  unfold unclaimedOf at h
  split at h
  · simp only [Option.bind_eq_some_iff, Option.map_eq_some_iff] at h
    obtain ⟨_, _, _, _, _, _, _, _, rfl⟩ := h
    rfl
  · cases h

theorem forgetUnclaimed_records (now : Int) (pass : Pass)
    (task : UnclaimedTask) : Records nodeId pass (forgetUnclaimed now pass task) :=
  (Records.update ((observed_erase_unclaimed nodeId pass.state task.id).trans
    (markCurrentDeploymentProgress_observed _ task.stack now)) true false).forgetProgress task.id

theorem forgetDisappeared_records :
    Records nodeId pass (forgetDisappeared now nodeId beat pass) := by
  unfold forgetDisappeared
  split
  · exact Records.foldl id (forgetUnclaimed now) pass fun acc task _ =>
      forgetUnclaimed_records nodeId now acc task
  · exact Records.refl nodeId pass

theorem recordContainer_records (report : TaskReport) :
    Records nodeId pass (recordContainer clusterId nodeId pass report) := by
  unfold recordContainer
  dsimp only
  split
  · exact Records.refl nodeId pass
  split
  · exact Records.update (observed_erase_unclaimed nodeId pass.state report.id) _ _
  split
  · exact Records.refl nodeId pass
  next unclaimed hunc =>
    split
    · exact Records.update (observed_insert_unclaimed pass.state (unclaimedOf_nodeId hunc)) _ _
    · exact Records.refl nodeId pass

theorem recordContainers_records :
    Records nodeId pass (recordContainers clusterId nodeId beat pass) :=
  Records.foldl id (recordContainer clusterId nodeId) pass fun acc report _ =>
    recordContainer_records clusterId nodeId acc report

/-! ## Tasks -/

theorem observeTasks_records : Records nodeId pass (observeTasks nodeId beat pass) :=
  Records.update (Observed.of_tasks fun task _ => ⟨observeTask_identity nodeId _ _ task,
    fun hoth => .inl (by rw [observeTask, if_neg hoth])⟩) _ _

theorem applyTaskProgress_records (progress : TaskReconcileProgress) :
    Records nodeId pass (applyTaskProgress nodeId pass progress) := by
  unfold applyTaskProgress
  split
  · exact Records.refl nodeId pass
  next stackName gen _ =>
    split
    · exact Records.refl nodeId pass
    dsimp only
    split
    · exact Records.refl nodeId pass
    · exact ⟨rfl, markDeploymentProgress_observed pass.state stackName gen _⟩

/-- One operation is rewritten as reports allow. -/
theorem observed_modify_operation (id : String)
    {f : ServiceOperationRecord → ServiceOperationRecord}
    {hf : ∀ op, (f op).operationId = op.operationId} (hkept : ∀ op, OperationKept op (f op)) :
    Observed nodeId state
      { state with serviceOperations := state.serviceOperations.modify id f hf } := by
  refine Observed.of_operations fun op' hop' => ?_
  rcases Table.mem_modify.mp hop' with ⟨hold, _⟩ | ⟨op, hop, _, rfl⟩
  · exact ⟨op', hold, OperationKept.refl op'⟩
  · exact ⟨op, hop, hkept op⟩

/-- One task is rewritten as reports allow. -/
theorem observed_modify_task {nodeId : String} {state : ClusterState} {id : String}
    {f : TaskRecord → TaskRecord} {hf : ∀ task, (f task).id = task.id}
    (h : ∀ task ∈ state.tasks, task.id = id → TaskObserved nodeId task (f task)) :
    Observed nodeId state (state.withTasks (state.tasks.modify id f hf)) := by
  refine Observed.of_tasks fun task htask => ?_
  split
  next hid => exact h task htask hid
  · exact TaskObserved.refl nodeId task

theorem recordTaskResult_records (reports : Map String TaskReport)
    (acc : Pass × List String) (report : TaskReconcileReport) :
    Records nodeId acc.1 (recordTaskResult now nodeId reports acc report).1 := by
  unfold recordTaskResult
  dsimp only
  split
  next op _ =>
    exact Records.update (observed_modify_operation nodeId acc.1.state op.operationId
      (recordRestart_kept now report)) _ _
  · split
    next task htask =>
      split
      next message _ =>
        split
        · -- only the reporting node may fail the execution
          refine Records.update (observed_modify_task fun other hoth hid => ?_) _ _
          obtain ⟨hget, hcond⟩ := Option.filter_eq_some_iff.mp htask
          obtain ⟨hmem, hkey⟩ := Table.get?_eq_some.mp hget
          obtain rfl := Table.eq_of_key hoth hmem (hid.trans hkey.symm)
          simp only [Bool.and_eq_true, decide_eq_true_eq] at hcond
          exact TaskObserved.of_identity rfl hcond.1
        · exact Records.refl nodeId acc.1
      · exact Records.refl nodeId acc.1
    · exact (applyTaskProgress_records nodeId acc.1 _).trans
        (Records.update (applyTaskResult_observed now _ nodeId report) _ _)

theorem restartedTask_records (taskId : String) : Records nodeId pass (restartedTask pass taskId) :=
  ⟨rfl, observed_modify_task fun _ _ _ => ⟨rfl, fun _ => .inr rfl⟩⟩

theorem recordTaskResults_records :
    Records nodeId pass (recordTaskResults now nodeId beat pass) := by
  have hres : Records nodeId pass (beat.taskResults.foldl
      (recordTaskResult now nodeId (reportsById beat)) (pass, [])).1 :=
    Records.foldl Prod.fst _ (pass, []) fun acc report _ =>
      recordTaskResult_records now nodeId _ acc report
  exact hres.trans (Records.foldl id restartedTask _ fun acc taskId _ =>
    restartedTask_records nodeId acc taskId)

/-! ## Images and progress -/

theorem recordImageResult_records (report : ImageResolutionReport) :
    Records nodeId pass (recordImageResult now nodeId pass report) := by
  have happ := applyImageResolutionReport_observed now pass.state nodeId report
  unfold recordImageResult
  dsimp only
  split
  next op _ =>
    exact Records.update (observed_modify_operation nodeId pass.state op.operationId
      (recordPreparation_kept now nodeId report)) _ _
  · split
    · exact Records.update (happ.trans (markProgressForGeneration_observed _ _ _)) _ _
    · exact Records.update happ _ _

theorem recordProgressReport_records (progress : TaskReconcileProgress) :
    Records nodeId pass (recordProgressReport nodeId pass progress) := by
  unfold recordProgressReport
  split
  · exact Records.refl nodeId pass
  · exact applyTaskProgress_records nodeId pass progress

theorem recordFailure_records (failure : String × String) :
    Records nodeId pass (recordFailure now nodeId beat pass failure) := by
  unfold recordFailure
  split
  · exact Records.refl nodeId pass
  split
  · exact Records.refl nodeId pass
  · exact Records.update (applyTaskResult_observed now pass.state nodeId _) _ _

/-! ## Removals -/

/-- Every task of that id is stopped. -/
def StoppedId (state : ClusterState) (id : String) : Prop :=
  ∀ task ∈ state.tasks, task.id = id → task.desired = .stopped

theorem StoppedId.observed {nodeId : String} {s s' : ClusterState} {id : String}
    (hs : StoppedId s id) (h : Observed nodeId s s') : StoppedId s' id := by
  intro task' htask' hid
  obtain ⟨task, htask, hobs⟩ := h.tasks task' htask'
  rw [hobs.desired]
  exact hs task htask (hobs.id ▸ hid)

theorem removeTask_records {pass : Pass} {taskId : String}
    (hsto : StoppedId pass.state taskId) : Records nodeId pass (removeTask pass taskId) := by
  refine (Records.update ?_ true false).forgetProgress taskId
  refine { Observed.refl nodeId pass.state with rest := rfl, tasks := ?_, kept := ?_ }
  · intro task htask
    exact ⟨task, (Table.mem_erase.mp htask).1, TaskObserved.refl nodeId task⟩
  · intro task htask hdes
    refine ⟨task, Table.mem_erase.mpr ⟨htask, ?_⟩, TaskObserved.refl nodeId task⟩
    exact fun hid => hdes (hsto task htask hid)

theorem foldl_removeTask_records (nodeId : String) :
    ∀ (ids : List String) (pass : Pass), (∀ id ∈ ids, StoppedId pass.state id) →
      Records nodeId pass (ids.foldl removeTask pass)
  | [], pass, _ => Records.refl nodeId pass
  | id :: ids, pass, hstopped => by
    have hfir := removeTask_records nodeId (hstopped id (List.mem_cons_self ..))
    refine hfir.trans (foldl_removeTask_records nodeId ids _ fun other hoth => ?_)
    exact (hstopped other (List.mem_cons_of_mem _ hoth)).observed hfir.observed

/-! ## The whole recording -/

/-- The phases between the reading of the inventory and the failures it shows. -/
def recordReports (now : Int) (nodeId : String) (heartbeat : NodeHeartbeat) (pass : Pass) : Pass :=
  let observed := observeTasks nodeId heartbeat pass
  let results := recordTaskResults now nodeId heartbeat observed
  let progressed := heartbeat.imageProgress.foldl (recordImageProgress nodeId) results
  let resolved := heartbeat.imageResults.foldl (recordImageResult now nodeId) progressed
  heartbeat.taskProgress.foldl (recordProgressReport nodeId) resolved

theorem recordReports_records : Records nodeId pass (recordReports now nodeId beat pass) := by
  unfold recordReports
  extract_lets observed results progressed resolved
  have hresu : Records nodeId pass results := (observeTasks_records nodeId beat pass).trans
    (recordTaskResults_records now nodeId beat observed)
  have hpro : Records nodeId pass progressed :=
    hresu.trans (Records.foldl id (recordImageProgress nodeId) results fun acc progress _ =>
      Records.update ((applyImageProgress_observed acc.state nodeId progress).trans
        (markProgressForGeneration_observed _ _ _)) _ _)
  have hres : Records nodeId pass resolved :=
    hpro.trans (Records.foldl id (recordImageResult now nodeId) progressed
      fun acc report _ => recordImageResult_records now nodeId acc report)
  exact hres.trans (Records.foldl id (recordProgressReport nodeId) resolved
    fun acc progress _ => recordProgressReport_records nodeId acc progress)

/-- **Recording a heartbeat is bookkeeping.** -/
theorem record_records (clock : Clock) (nodeId : String) (beat : NodeHeartbeat) (pass : Pass) :
    Records nodeId pass (record clusterId clock nodeId beat pass) := by
  have hcon := (forgetDisappeared_records clock.unixMs nodeId beat pass).trans
    (recordContainers_records clusterId nodeId beat _)
  refine hcon.trans ?_
  unfold record
  extract_lets now reports inventoryOk disappeared contained failures removed observed results
    progressed resolved reported failed
  have hfai : Records nodeId contained failed :=
    (recordReports_records now nodeId beat contained).trans
      (Records.foldl id (recordFailure now nodeId beat) reported fun acc failure _ =>
        recordFailure_records now nodeId beat acc failure)
  refine hfai.trans (foldl_removeTask_records nodeId _ _ fun taskId hrem => ?_)
  obtain ⟨task, htask, rfl⟩ := List.mem_map.mp hrem
  obtain ⟨hmem, hcond⟩ := List.mem_filter.mp htask
  refine StoppedId.observed ?_ hfai.observed
  intro other hoth hid
  rw [Table.eq_of_key hoth hmem hid]
  unfold removedTask at hcond
  simp only [Bool.and_eq_true, decide_eq_true_eq] at hcond
  exact hcond.1.2

end Swarmlite
