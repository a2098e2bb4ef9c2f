import Swarmlite.Controller.Lifecycle
import Swarmlite.Controller.Recording

/-!
# Change flags

A pass commits only if one of its parts says that it changed something. Each part
reports this by a flag of its own: comparisons of records, counts of retired tasks,
"something was inserted". A part that changed a stored field without raising its
flag would leave the database behind.

The scheduler's flags guard the whole state, those of the recording phases what is
stored of it (`ClusterState.persisted`): observations of replicas, nodes and unclaimed
containers may change silently. `scheduleAndRoute_flagged`, `judge_flagged` and
`record_flagged` say that all flags can be trusted.
-/

namespace Swarmlite

open Ordered Loop

/-! ## The scheduler -/

/-- The flag of a scheduler pass guards the state. -/
abbrev Sched.Flagged (acc acc' : Sched) : Prop := Loop.Flagged Sched.state Sched.changed acc acc'

theorem any_eq_false_of {ρ : Type} {l : List ρ} {p : ρ → Bool} (h : l.any p = false) :
    ∀ r ∈ l, p r = false := by
  intro r hr
  exact Bool.eq_false_iff.mpr fun hp => by
    rw [List.any_eq_true.mpr ⟨r, hr, hp⟩] at h
    cases h

variable {f : TaskRecord → TaskRecord} {now : Int} {state : ClusterState}
  {stackName nodeId : String} {gen : Nat} {task : TaskRecord} {dep : StackDeploymentRecord}
  {hf : ∀ task, (f task).id = task.id} {reports : Map String TaskReport}
  {report : TaskReconcileReport} {failure : String × String}

/-- Rewriting all tasks, with a flag that sees every difference. -/
theorem flagged_map {acc acc' : Sched} (hf : ∀ task, (f task).id = task.id)
    (hsta : acc'.state = acc.state.withTasks (acc.state.tasks.map f hf))
    {differs : TaskRecord → Bool} (hdif : ∀ task, differs task = false → f task = task)
    (hflag : acc'.changed = (acc.changed || acc.state.tasks.rows.any differs)) :
    acc.Flagged acc' := by
  intro hdown
  rw [hflag, Bool.or_eq_false_iff] at hdown
  refine ⟨hdown.1, ?_⟩
  have hsame : acc.state.tasks.map f hf = acc.state.tasks :=
    Table.map_eq_self fun task htask => hdif task (any_eq_false_of hdown.2 task htask)
  rw [hsta, hsame]
  rfl

theorem reconcileJob_flagged (ext : Externals) (live : Keys String) (uuid : Nat → String)
    (now : Int) (acc : Sched) (svc : ServiceRecord) :
    acc.Flagged (Jobs.reconcileJob ext live uuid now acc svc) := by
  unfold Jobs.reconcileJob
  split
  · exact Flagged.refl acc
  split
  · exact Flagged.refl acc
  dsimp only
  split
  · split
    · exact Flagged.refl acc
    · split
      · exact Flagged.refl acc
      · exact Flagged.of_flag rfl
  · split
    · exact Flagged.refl acc
    · split
      · exact Flagged.refl acc
      · split
        · exact Flagged.refl acc
        · -- the cursor moved, whether or not an execution starts
          split
          · exact Flagged.of_flag rfl
          · refine Flagged.of_flag ?_
            unfold Jobs.launch
            dsimp only
            split <;> rfl

theorem pruneFinished_flagged (acc : Sched) (serviceId : String) :
    acc.Flagged (Jobs.pruneFinished acc serviceId) := by
  intro hdown
  unfold Jobs.pruneFinished at hdown ⊢
  dsimp only at hdown ⊢
  rw [Bool.or_eq_false_iff] at hdown
  refine ⟨hdown.1, ?_⟩
  have hnone : (Jobs.finishedExecutions acc.state serviceId).take
      ((Jobs.finishedExecutions acc.state serviceId).length - 20) = [] := by
    simpa using hdown.2
  rw [hnone]
  rfl

theorem jobsReconcile_flagged (ext : Externals) (uuid : Nat → String) (live : Keys String)
    (now : Int) (acc : Sched) : acc.Flagged (Jobs.reconcile ext uuid live now acc) := by
  refine (flagged_map (Jobs.stopExpired_id acc.state live now) rfl (fun _ hsame => by
    simpa using hsame) rfl : acc.Flagged (Jobs.stopExpiredTasks acc live now)).trans ?_
  unfold Jobs.reconcile
  dsimp only
  refine Flagged.trans (Flagged.foldl fun acc svc _ => ?_) (Flagged.foldl fun acc id _ => ?_)
  · exact reconcileJob_flagged ext live uuid now acc svc
  · exact pruneFinished_flagged acc id

theorem giveUpTasks_flagged (live : Keys String) (acc : Sched) :
    acc.Flagged (giveUpTasks live acc) := by
  refine flagged_map (giveUp_id acc.state live) rfl (fun task hkept => ?_) rfl
  unfold giveUp
  rw [if_neg (by rw [hkept]; exact Bool.false_ne_true)]

theorem retireTask_flagged (svc : ServiceRecord) (acc : Sched) (taskId : String) :
    acc.Flagged (retireTask svc acc taskId) := by
  intro hdown
  unfold retireTask at hdown ⊢
  dsimp only at hdown ⊢
  rw [Bool.or_eq_false_iff] at hdown
  refine ⟨hdown.1, ?_⟩
  have hsame : acc.state.tasks.modify taskId (retireRecord (isServiceHttpRouted acc.state svc))
      (retireRecord_id (isServiceHttpRouted acc.state svc)) = acc.state.tasks := by
    refine Table.modify_eq_self fun task hget => ?_
    rw [hget] at hdown
    unfold retireRecord
    exact if_neg (by simpa using hdown.2)
  rw [hsame]
  rfl

theorem retireTasks_flagged (svc : ServiceRecord) (acc : Sched) (tasks : List TaskRecord) :
    acc.Flagged (retireTasks svc acc tasks) :=
  Flagged.foldl fun acc taskId _ => retireTask_flagged svc acc taskId

theorem createTasks_flagged (svc : ServiceRecord) (live : Keys String) (uuid : Nat → String) :
    ∀ (n : Nat) (acc : Sched), acc.Flagged (createTasks svc live uuid n acc)
  | 0, acc => Flagged.refl acc
  | n + 1, acc => by
    unfold createTasks
    split
    · exact Flagged.refl acc
    · exact Flagged.trans (Flagged.of_flag rfl) (createTasks_flagged svc live uuid n _)

theorem reconcileStep_flagged (live : Keys String) (uuid : Nat → String) (acc : Sched)
    (svc : ServiceRecord) : acc.Flagged (reconcileStep live uuid acc svc) := by
  unfold reconcileStep
  split
  · exact Flagged.refl acc
  split
  · exact Flagged.refl acc
  split
  · exact retireTasks_flagged svc acc _
  unfold reconcileService
  refine Flagged.trans ?_ (createTasks_flagged svc live uuid _ _)
  unfold retireSurplus
  extract_lets replicas constrained current old trimmed keptCurrent oldToKeep replaced keptOld
  have hret : acc.Flagged replaced :=
    ((retireTasks_flagged svc acc _).trans (retireTasks_flagged svc constrained _)).trans
      (retireTasks_flagged svc trimmed _)
  split
  · exact hret.trans (retireTasks_flagged svc _ _)
  · exact hret

/-- **A scheduler pass that reports no change made none.** -/
theorem reconcile_unchanged {ext : Externals} {uuid : Nat → String} {live : Keys String}
    (h : (reconcile ext uuid live now state).changed = false) :
    (reconcile ext uuid live now state).state = state := by
  have hjobs := jobsReconcile_flagged ext uuid live now { state }
  have hpass : ({ state : Sched }).Flagged (reconcile ext uuid live now state) := by
    refine (hjobs.trans (giveUpTasks_flagged live _)).trans ?_
    exact Flagged.foldl fun acc svc _ => reconcileStep_flagged live uuid acc svc
  exact (hpass h).2

/-! ## The other parts of a pass -/

theorem finishDrains_unchanged
    (h : (finishDrains state now).2 = false) : (finishDrains state now).1 = state := by
  have hsame : state.tasks.map (finishDrain now) (finishDrain_id now) = state.tasks := by
    refine Table.map_eq_self fun task htask => ?_
    unfold finishDrain
    exact if_neg (by rw [any_eq_false_of h task htask]; exact Bool.false_ne_true)
  unfold finishDrains
  dsimp only
  rw [hsame]
  rfl

theorem advanceServiceOperations_unchanged {live : Keys String}
    (h : (advanceServiceOperations state live now).2 = false) :
    (advanceServiceOperations state live now).1 = state := by
  have hsame : (advanceServiceOperations state live now).1.serviceOperations
      = state.serviceOperations := by
    have hnot := of_decide_eq_false h
    exact (not_not.mp hnot).symm
  exact congrArg (fun operations => { state with serviceOperations := operations }) hsame

theorem storeFragment_unchanged {routes : Map String RecoveredStackGateway}
    {fragment : Option RecoveredStackGateway}
    (h : (storeFragment routes stackName fragment).2 = false) :
    (storeFragment routes stackName fragment).1 = routes := by
  unfold storeFragment at h ⊢
  split at h
  next next =>
    split at h
    · cases h
    next hsame => rw [if_neg hsame]
  · refine Table.ext_rows (List.filter_eq_self.mpr fun entry hent => ?_)
    refine decide_eq_true fun heq => ?_
    exact Table.contains_eq_false.mp h entry hent heq

theorem refreshReadyStackRoutes_unchanged (h : (refreshReadyStackRoutes state).2 = false) :
    (refreshReadyStackRoutes state).1 = state := by
  have hloop : Flagged (Prod.fst : Map String RecoveredStackGateway × Bool → _) Prod.snd
      (state.gatewayRoutes, false)
      (state.stackRecords.rows.foldl (refreshStackRoute state) (state.gatewayRoutes, false)) := by
    refine Flagged.foldl fun acc stack _ hdown => ?_
    unfold refreshStackRoute at hdown ⊢
    split at hdown
    next hrea =>
      rw [if_pos hrea]
      dsimp only at hdown ⊢
      rw [Bool.or_eq_false_iff] at hdown
      exact ⟨hdown.1, storeFragment_unchanged hdown.2⟩
    next hrea =>
      rw [if_neg hrea]
      exact ⟨hdown, rfl⟩
  have hrou := (hloop h).2
  unfold refreshReadyStackRoutes
  dsimp only
  rw [hrou]

theorem refreshStackDeployments_unchanged {gatewayReady : Bool} {unreadyTcp : List String}
    (h : (refreshStackDeployments state now gatewayReady unreadyTcp).2 = false) :
    (refreshStackDeployments state now gatewayReady unreadyTcp).1 = state := by
  have hloop : Flagged (Prod.fst : ClusterState × Bool → _) Prod.snd (state, false)
      (refreshStackDeployments state now gatewayReady unreadyTcp) := by
    refine Flagged.foldl fun acc stackName _ => ?_
    unfold refreshStackDeployment
    split
    · exact Flagged.refl acc
    split
    · exact Flagged.refl acc
    split
    · exact Flagged.of_flag rfl
    split
    · exact Flagged.of_flag rfl
    · exact Flagged.refl acc
  exact (hloop h).2

/-! ## Deployments -/

theorem modifyDeployment_eq_self {f : StackDeploymentRecord → StackDeploymentRecord}
    (h : ∀ dep, stackDeployment state stackName = some dep →
      f dep = dep) : modifyDeployment state stackName f = state := by
  have hsame : state.stackRecords.modify stackName (StackRecord.mapDeployment f)
      (StackRecord.mapDeployment_name f) = state.stackRecords := by
    refine Table.modify_eq_self fun stack hget => ?_
    have hdep : stack.deployment.map f = stack.deployment := by
      cases hcur : stack.deployment with
      | none => rfl
      | some dep =>
        rw [Option.map_some, h dep]
        unfold stackDeployment
        rw [hget]
        exact hcur
    unfold StackRecord.mapDeployment
    rw [hdep]
  unfold modifyDeployment
  rw [hsame]

theorem markDeploymentProgress_unchanged {progressAt : Int}
    (h : (markDeploymentProgress state stackName gen progressAt).2 = false) :
    (markDeploymentProgress state stackName gen progressAt).1 = state := by
  unfold markDeploymentProgress at h ⊢
  split at h
  · rfl
  next dep hfou =>
    refine modifyDeployment_eq_self fun other hoth => ?_
    obtain rfl : dep = other :=
      Option.some_inj.mp ((Option.filter_eq_some_iff.mp hfou).1.symm.trans hoth)
    obtain ⟨hlate, hsta⟩ := Bool.or_eq_false_iff.mp h
    unfold recordProgress
    rw [if_neg (of_decide_eq_false hlate)]
    exact if_neg (of_decide_eq_false hsta)

theorem markProgressForGeneration_unchanged
    {progressAt : Int} (h : (markProgressForGeneration state gen progressAt).2 = false) :
    (markProgressForGeneration state gen progressAt).1 = state := by
  unfold markProgressForGeneration at h ⊢
  split at h
  · rfl
  · exact markDeploymentProgress_unchanged h

theorem markGatewayProgress_unchanged (h : (markGatewayProgress state now).2 = false) :
    (markGatewayProgress state now).1 = state := by
  unfold markGatewayProgress at h ⊢
  dsimp only at h ⊢
  rw [Table.map_eq_self fun stack hsta => ?_]
  have hnone := any_eq_false_of h stack hsta
  unfold StackRecord.mapDeployment
  cases hdep : stack.deployment with
  | none =>
    rw [Option.map_none, ← hdep]
  | some dep =>
    rw [hdep, Option.any_some] at hnone
    have hsame : (if dep.waitForGateway then recordGatewayProgress now dep
        else dep) = dep := by
      split
      next hwait =>
        rw [hwait, Bool.true_and] at hnone
        unfold recordGatewayProgress
        refine if_pos ?_
        rw [Bool.or_eq_true, decide_eq_true_eq]
        rcases Bool.and_eq_false_iff.mp hnone with hact | hear
        · exact .inl (by rw [hact]; rfl)
        · exact .inr (Int.not_lt.mp (of_decide_eq_false hear))
      · rfl
    rw [Option.map_some, hsame, ← hdep]

theorem recordStackError_unchanged {error : StackDeploymentError}
    (hdep : stackDeployment state stackName = some dep)
    (h : (recordStackError now state stackName dep error).2 = false) :
    (recordStackError now state stackName dep error).1 = state := by
  unfold recordStackError at h ⊢
  split at h
  next hter => rw [if_pos hter]
  next hter =>
    rw [if_neg hter]
    refine modifyDeployment_eq_self fun other hoth => ?_
    obtain rfl : dep = other := Option.some_inj.mp (hdep.symm.trans hoth)
    obtain ⟨hkno, hact⟩ := Bool.or_eq_false_iff.mp h
    have hpush : pushError error dep = dep := by
      unfold pushError
      exact if_pos (by simpa using hkno)
    unfold recordTaskError
    rw [hpush]
    exact if_neg (by rw [hact]; exact Bool.false_ne_true)

theorem activeDeploymentStack_some {stack : StackRecord}
    (h : activeDeploymentStack state gen = some (stack, dep)) :
    stackDeployment state stack.name = some dep ∧ dep.status.isActive = true ∧
      state.stackRecords.get? stack.name = some stack ∧ stack.deployment = some dep ∧
      dep.generation = gen := by
  obtain ⟨other, hmem, hfou⟩ := List.exists_of_findSome?_eq_some h
  obtain ⟨found, hfil, heq⟩ := Option.map_eq_some_iff.mp hfou
  cases heq
  obtain ⟨hdep, hmat⟩ := Option.filter_eq_some_iff.mp hfil
  simp only [Bool.and_eq_true, decide_eq_true_eq] at hmat
  have hget := Table.get?_of_mem hmem
  refine ⟨?_, hmat.2, hget, hdep, hmat.1⟩
  unfold stackDeployment
  rw [hget]
  exact hdep

theorem applyImageProgress_unchanged
    {progress : ImageResolutionProgress}
    (h : (applyImageProgress state nodeId progress).2 = false) :
    (applyImageProgress state nodeId progress).1 = state := by
  unfold applyImageProgress at h ⊢
  split at h
  next hsta => rw [if_pos hsta]
  next hsta =>
    rw [if_neg hsta]
    split at h
    · rfl
    next stack dep hact =>
      refine modifyDeployment_eq_self fun other hoth => ?_
      obtain rfl : dep = other :=
        Option.some_inj.mp ((activeDeploymentStack_some hact).1.symm.trans hoth)
      simpa using h

theorem applyImageResolutionReport_unchanged {report : ImageResolutionReport}
    (h : (applyImageResolutionReport now state nodeId report).2 = false) :
    (applyImageResolutionReport now state nodeId report).1 = state := by
  unfold applyImageResolutionReport at h ⊢
  split at h
  · rfl
  dsimp only at h ⊢
  split at h
  next hemp => rw [if_pos hemp]
  split at h
  · cases h
  · cases h

/-! ## What is stored of a task -/

theorem persisted_map (h : ∀ task ∈ state.tasks, (f task).persisted = task.persisted) :
    (state.withTasks (state.tasks.map f hf)).persisted = state.persisted := by
  have hsame : (state.tasks.map f hf).map TaskRecord.persisted TaskRecord.persisted_id
      = state.tasks.map TaskRecord.persisted TaskRecord.persisted_id := by
    rw [Table.map_map]
    exact Table.map_congr h
  unfold ClusterState.persisted ClusterState.withTasks
  rw [hsame]

theorem persisted_modify {id : String}
    (h : ∀ task, state.tasks.get? id = some task → (f task).persisted = task.persisted) :
    (state.withTasks (state.tasks.modify id f hf)).persisted = state.persisted := by
  refine persisted_map fun task htask => ?_
  split
  next hid => exact h task (Table.get?_eq_some.mpr ⟨htask, hid⟩)
  · rfl

/-- What is observed of a replica is not stored, except its ports and configs. -/
theorem persisted_of_identity {task' : TaskRecord} (hid : task'.identity = task.identity)
    (hjob : task.job = none) (hpor : task'.ports = task.ports)
    (hdig : task'.configDigests = task.configDigests) : task'.persisted = task.persisted := by
  have hjob' : task'.job = none := by
    have hmap : task'.job.map JobExecution.forgetRuntime = task.job.map JobExecution.forgetRuntime :=
      congrArg (·.job) hid
    rw [hjob] at hmap
    exact Option.map_eq_none_iff.mp hmap
  have hsto : ∀ task : TaskRecord, task.job = none → task.persisted = { task.identity with
      ports := task.ports, configDigests := task.configDigests } := by
    intro task hjob
    unfold TaskRecord.persisted TaskRecord.identity
    rw [hjob]
    rfl
  rw [hsto task hjob, hsto task' hjob', hid, hpor, hdig]

theorem observeTask_persisted {inventoryOk : Bool}
    (h : durablyObserved task (observeTask nodeId reports inventoryOk task) = false) :
    (observeTask nodeId reports inventoryOk task).persisted = task.persisted := by
  unfold durablyObserved at h
  split at h
  · rw [show observeTask nodeId reports inventoryOk task = task by simpa using h]
  next hjob =>
    obtain ⟨hpor, hdig⟩ := Bool.or_eq_false_iff.mp h
    exact persisted_of_identity (observeTask_identity nodeId reports inventoryOk task)
      (by simpa using hjob) (by simpa using hpor) (by simpa using hdig)

/-- The tasks of the node under this id are replicas. -/
def ReplicaAt (state : ClusterState) (nodeId taskId : String) : Prop :=
  ∀ task, state.tasks.get? taskId = some task → task.nodeId = nodeId → task.job = none

theorem ReplicaAt.observed {taskId : String} {s s' : ClusterState}
    (hs : ReplicaAt s nodeId taskId) (h : Observed nodeId s s') : ReplicaAt s' nodeId taskId := by
  intro task' hget hnode
  obtain ⟨hmem, hid⟩ := Table.get?_eq_some.mp hget
  obtain ⟨task, htask, hobs⟩ := h.tasks task' hmem
  have hjob := hs task (Table.get?_eq_some.mpr ⟨htask, hobs.id ▸ hid⟩) (hobs.nodeId_eq ▸ hnode)
  have hsome := hobs.job_isSome
  rw [hjob] at hsome
  exact Option.not_isSome_iff_eq_none.mp (by rw [hsome]; exact Bool.false_ne_true)

theorem applyTaskResult_unchanged (hrep : ReplicaAt state nodeId report.taskId)
    (h : (applyTaskResult now state nodeId report).2.2 = false) :
    (applyTaskResult now state nodeId report).1.persisted = state.persisted := by
  unfold applyTaskResult at h ⊢
  split at h
  · unfold applyUnclaimedTaskResult at h ⊢
    split at h
    · rfl
    next task _ =>
      split at h
      · rfl
      next dep hdep =>
        split at h
        next hsta => rw [if_pos hsta]
        next hsta =>
          rw [if_neg hsta]
          split at h
          · rfl
          · dsimp only
            rw [recordStackError_unchanged hdep h]
  next task htask =>
    split at h
    next hoth => rw [if_pos hoth]
    next hoth =>
      rw [if_neg hoth]
      have hrec : (state.withTasks (state.tasks.modify report.taskId
          (TaskRecord.recordResult report) (TaskRecord.recordResult_id report))).persisted
          = state.persisted := by
        refine persisted_modify fun task' htask' => ?_
        obtain rfl : task = task' := Option.some_inj.mp (htask.symm.trans htask')
        exact persisted_of_identity rfl (hrep task htask (by simpa using hoth)) rfl rfl
      split at h
      · rfl
      split at h
      · rfl
      next dep hdep =>
        split at h
        next hsta => rw [if_pos hsta]
        next hsta =>
          rw [if_neg hsta]
          dsimp only at h ⊢
          split at h
          · exact hrec
          split at h
          next hold =>
            rw [if_pos hold]
            exact hrec
          next hold =>
            rw [if_neg hold]
            split at h
            next hter =>
              rw [if_pos hter]
              exact hrec
            next hter =>
              rw [if_neg hter]
              -- the dep of the stack is the one before the task was rewritten
              refine Eq.trans (congrArg ClusterState.persisted ?_) hrec
              refine recordStackError_unchanged ?_ h
              exact hdep

/-! ## The recording phases -/

/-- The flag of the recording phases guards what is stored. -/
abbrev Pass.Flagged (pass pass' : Pass) : Prop :=
  Loop.Flagged (fun pass : Pass => pass.state.persisted) Pass.changed pass pass'

theorem Pass.update_flagged {pass : Pass} {changed soft : Bool}
    (h : changed = false → state.persisted = pass.state.persisted) :
    pass.Flagged (pass.update state changed soft) := by
  intro hdown
  obtain ⟨hpass, hcha⟩ := Bool.or_eq_false_iff.mp hdown
  exact ⟨hpass, h hcha⟩

theorem forgetDisappeared_flagged (now : Int) (nodeId : String) (beat : NodeHeartbeat)
    (pass : Pass) : pass.Flagged (forgetDisappeared now nodeId beat pass) := by
  unfold forgetDisappeared
  split
  · exact Flagged.foldl fun acc task _ => Flagged.of_flag (Bool.or_true acc.changed)
  · exact Flagged.refl pass

theorem recordContainers_flagged (clusterId nodeId : String) (beat : NodeHeartbeat)
    (pass : Pass) : pass.Flagged (recordContainers clusterId nodeId beat pass) := by
  refine Flagged.foldl fun acc report _ => ?_
  unfold recordContainer
  dsimp only
  split
  · exact Flagged.refl acc
  split
  · exact Pass.update_flagged fun _ => rfl
  split
  · exact Flagged.refl acc
  split
  · exact Pass.update_flagged fun _ => rfl
  · exact Flagged.refl acc

theorem observeTasks_flagged (nodeId : String) (beat : NodeHeartbeat) (pass : Pass) :
    pass.Flagged (observeTasks nodeId beat pass) :=
  Pass.update_flagged fun hsame => persisted_map fun task htask =>
    observeTask_persisted (any_eq_false_of hsame task htask)

theorem applyTaskProgress_flagged (nodeId : String) (pass : Pass)
    (progress : TaskReconcileProgress) : pass.Flagged (applyTaskProgress nodeId pass progress) := by
  unfold applyTaskProgress
  split
  · exact Flagged.refl pass
  next stackName gen _ =>
    split
    · exact Flagged.refl pass
    dsimp only
    split
    · exact Flagged.refl pass
    · intro hdown
      obtain ⟨hpass, hmar⟩ := Bool.or_eq_false_iff.mp hdown
      exact ⟨hpass, congrArg ClusterState.persisted (markDeploymentProgress_unchanged hmar)⟩

/-- A restart that is recorded counts: the operation's revision moves. -/
theorem recordRestart_ne {op : ServiceOperationRecord}
    (herr : report.error = none) (h : awaitsRestart report op = true) :
    recordRestart now report op ≠ op := by
  intro heq
  have hrev := congrArg (fun op : ServiceOperationRecord => op.view.revision) heq
  unfold recordRestart at hrev
  rw [herr] at hrev
  dsimp only at hrev
  rw [if_pos h] at hrev
  exact Nat.succ_ne_self _ hrev

/-- The results also tell which tasks were restarted, and none was if the flag is down. -/
theorem recordTaskResult_flagged (now : Int) (nodeId : String) (reports : Map String TaskReport)
    (acc : Pass × List String) (report : TaskReconcileReport) :
    Loop.Flagged (fun acc : Pass × List String => (acc.1.state.persisted, acc.2))
      (fun acc => acc.1.changed) acc (recordTaskResult now nodeId reports acc report) := by
  have hrest : ∀ {pass : Pass}, acc.1.Flagged pass →
      Loop.Flagged (fun acc : Pass × List String => (acc.1.state.persisted, acc.2))
        (fun acc => acc.1.changed) acc (pass, acc.2) := by
    intro pass h hdown
    obtain ⟨hbef, hsame⟩ := h hdown
    exact ⟨hbef, Prod.ext hsame rfl⟩
  unfold recordTaskResult
  dsimp only
  split
  next op hfou =>
    intro hdown
    obtain ⟨hbef, hcha⟩ := Bool.or_eq_false_iff.mp hdown
    have hsame : recordRestart now report op = op := by simpa using hcha
    refine ⟨hbef, Prod.ext ?_ ?_⟩
    · have hope : acc.1.state.serviceOperations.modify op.operationId
          (recordRestart now report) (recordRestart_id now report)
          = acc.1.state.serviceOperations := by
        refine Table.modify_eq_self fun other hoth => ?_
        rw [Table.get?_of_mem (List.mem_of_find?_eq_some hfou)] at hoth
        exact Option.some_inj.mp hoth ▸ hsame
      show ClusterState.persisted { acc.1.state with serviceOperations := _ } = _
      rw [hope]
    · refine if_neg fun hawa => ?_
      obtain ⟨herr, hawa⟩ := Bool.and_eq_true_iff.mp hawa
      exact recordRestart_ne (Option.isNone_iff_eq_none.mp herr) hawa hsame
  · split
    · split
      · split
        · exact Flagged.of_flag (Bool.or_true acc.1.changed)
        · exact Flagged.refl acc
      · exact Flagged.refl acc
    next hnone =>
      refine hrest ((applyTaskProgress_flagged nodeId acc.1 _).trans
        (Pass.update_flagged (applyTaskResult_unchanged ?_)))
      refine ReplicaAt.observed ?_ (applyTaskProgress_records nodeId acc.1 _).observed
      intro task hget hnode
      rw [hget, Option.filter_eq_none_iff] at hnone
      have hjob := hnone task rfl
      rw [hnode, decide_eq_true rfl, Bool.true_and] at hjob
      exact Option.not_isSome_iff_eq_none.mp hjob

theorem restartedTasks_changed (pass : Pass) (ids : List String) :
    (ids.foldl restartedTask pass).changed = pass.changed := by
  induction ids generalizing pass with
  | nil => rfl
  | cons id ids ih => exact ih (restartedTask pass id)

theorem recordTaskResults_flagged (now : Int) (nodeId : String) (beat : NodeHeartbeat)
    (pass : Pass) : pass.Flagged (recordTaskResults now nodeId beat pass) := by
  intro hdown
  unfold recordTaskResults at hdown ⊢
  dsimp only at hdown ⊢
  rw [restartedTasks_changed] at hdown
  have hloop := Flagged.foldl (a := (pass, ([] : List String))) (l := beat.taskResults)
    fun acc report _ => recordTaskResult_flagged now nodeId (reportsById beat) acc report
  obtain ⟨hbef, hsame⟩ := hloop hdown
  have hnone : (beat.taskResults.foldl
      (recordTaskResult now nodeId (reportsById beat)) (pass, [])).2 = [] :=
    congrArg Prod.snd hsame
  rw [hnone]
  exact ⟨hbef, congrArg Prod.fst hsame⟩

theorem recordImageProgress_flagged (nodeId : String) (pass : Pass)
    (progress : ImageResolutionProgress) :
    pass.Flagged (recordImageProgress nodeId pass progress) := by
  refine Pass.update_flagged fun hsame => ?_
  obtain ⟨happ, hmar⟩ := Bool.or_eq_false_iff.mp hsame
  rw [markProgressForGeneration_unchanged hmar, applyImageProgress_unchanged happ]

theorem recordImageResult_flagged (now : Int) (nodeId : String) (pass : Pass)
    (report : ImageResolutionReport) :
    pass.Flagged (recordImageResult now nodeId pass report) := by
  unfold recordImageResult
  dsimp only
  split
  next op hfou =>
    refine Pass.update_flagged fun hsame => ?_
    have hope : pass.state.serviceOperations.modify op.operationId
        (recordPreparation now nodeId report) (recordPreparation_id now nodeId report)
        = pass.state.serviceOperations := by
      refine Table.modify_eq_self fun other hoth => ?_
      rw [Table.get?_of_mem (List.mem_of_find?_eq_some hfou)] at hoth
      obtain rfl := Option.some_inj.mp hoth
      unfold recordPreparation
      exact if_pos (by simpa using hsame)
    rw [hope]
  · split
    · exact Pass.update_flagged fun hsame => nomatch hsame
    next hunc =>
      refine Pass.update_flagged fun _ => congrArg ClusterState.persisted ?_
      exact applyImageResolutionReport_unchanged (Bool.eq_false_iff.mpr hunc)

theorem recordProgressReport_flagged (nodeId : String) (pass : Pass)
    (progress : TaskReconcileProgress) :
    pass.Flagged (recordProgressReport nodeId pass progress) := by
  unfold recordProgressReport
  split
  · exact Flagged.refl pass
  · exact applyTaskProgress_flagged nodeId pass progress

theorem recordFailure_flagged {beat : NodeHeartbeat}
    {pass : Pass} (hrep : ReplicaAt pass.state nodeId failure.1) :
    pass.Flagged (recordFailure now nodeId beat pass failure) := by
  unfold recordFailure
  split
  · exact Flagged.refl pass
  split
  · exact Flagged.refl pass
  · exact Pass.update_flagged (applyTaskResult_unchanged hrep)

/-- Failures are recorded one by one; those to come stay about replicas. -/
theorem recordFailures_flagged (now : Int) (nodeId : String) (beat : NodeHeartbeat) :
    ∀ (failures : List (String × String)) (pass : Pass),
      (∀ failure ∈ failures, ReplicaAt pass.state nodeId failure.1) →
      pass.Flagged (failures.foldl (recordFailure now nodeId beat) pass)
  | [], pass, _ => Flagged.refl pass
  | failure :: failures, pass, hreplica => by
    have hfir : pass.Flagged (recordFailure now nodeId beat pass failure) :=
      recordFailure_flagged (hreplica failure (List.mem_cons_self ..))
    refine hfir.trans (recordFailures_flagged now nodeId beat failures _ fun other hoth => ?_)
    exact (hreplica other (List.mem_cons_of_mem _ hoth)).observed
      (recordFailure_records now nodeId beat pass failure).observed

theorem observedFailure_some {inventoryOk : Bool}
    (h : observedFailure nodeId reports inventoryOk task = some failure) :
    failure.1 = task.id ∧ task.job = none ∧ (failure.2 = "container reported failed" ∨
      failure.2 = "container disappeared from the runtime") := by
  unfold observedFailure at h
  split at h
  next hcond =>
    have hjob := Option.isNone_iff_eq_none.mp (Bool.and_eq_true_iff.mp hcond).2
    split at h
    all_goals
      split at h
      · cases h
        exact ⟨rfl, hjob, by simp⟩
      · cases h
  · cases h

theorem recordReports_flagged (now : Int) (nodeId : String) (beat : NodeHeartbeat)
    (pass : Pass) : pass.Flagged (recordReports now nodeId beat pass) := by
  unfold recordReports
  extract_lets observed results progressed resolved
  have hresu : pass.Flagged results := (observeTasks_flagged nodeId beat pass).trans
    (recordTaskResults_flagged now nodeId beat observed)
  have hpro : pass.Flagged progressed := hresu.trans
    (Flagged.foldl fun acc progress _ => recordImageProgress_flagged nodeId acc progress)
  have hres : pass.Flagged resolved := hpro.trans
    (Flagged.foldl fun acc report _ => recordImageResult_flagged now nodeId acc report)
  exact hres.trans
    (Flagged.foldl fun acc progress _ => recordProgressReport_flagged nodeId acc progress)

/-- **Recording a heartbeat reports every change that has to be stored.** -/
theorem record_flagged (clusterId : String) (clock : Clock) (nodeId : String)
    (beat : NodeHeartbeat) (pass : Pass) :
    pass.Flagged (record clusterId clock nodeId beat pass) := by
  refine (forgetDisappeared_flagged clock.unixMs nodeId beat pass).trans ?_
  refine (recordContainers_flagged clusterId nodeId beat _).trans ?_
  unfold record
  extract_lets now reports inventoryOk disappeared contained failures removed observed results
    progressed resolved reported failed
  have hfai : contained.Flagged failed := by
    refine (recordReports_flagged now nodeId beat contained).trans
      (recordFailures_flagged now nodeId beat failures reported fun failure hfail => ?_)
    obtain ⟨task, htask, hfou⟩ := List.mem_filterMap.mp hfail
    obtain ⟨hid, hjob, -⟩ := observedFailure_some hfou
    refine ReplicaAt.observed (fun other hoth _ => ?_)
      (recordReports_records now nodeId beat contained).observed
    rw [hid, Table.get?_of_mem htask] at hoth
    exact Option.some_inj.mp hoth ▸ hjob
  exact hfai.trans (Flagged.foldl fun acc taskId _ => Flagged.of_flag (Bool.or_true acc.changed))

/-! ## Passes -/

theorem admitNode_unchanged {clock : Clock} {member : NodeMember} {beat : NodeHeartbeat}
    {inner : Inner} (hmem : inner.state.members.get? member.id = some member)
    (h : (admitNode clock member beat inner).changed = false) :
    (admitNode clock member beat inner).state.persisted = inner.state.persisted := by
  obtain ⟨hadd, hmar⟩ := Bool.or_eq_false_iff.mp h
  have hmemb : inner.state.members.modify member.id (fun member =>
      { member with address := beat.node.address }) (fun _ => rfl) = inner.state.members := by
    refine Table.modify_eq_self fun other hoth => ?_
    obtain rfl : member = other := Option.some_inj.mp (hmem.symm.trans hoth)
    have hsame : member.address = beat.node.address := by simpa using hadd
    rw [← hsame]
  unfold admitNode Pass.state
  dsimp only at hmar ⊢
  rw [hmemb] at hmar ⊢
  split at hmar
  next hrep =>
    rw [if_pos hrep, markGatewayProgress_unchanged hmar]
    rfl
  next hrep =>
    rw [if_neg hrep]
    rfl

section Passes

variable {plat : Platform} {cfg : ControllerConfig} {env : Env}

variable (plat cfg env) in
theorem scheduleAndRoute_flagged (endDrains : Bool) (pass : Pass) :
    pass.Flagged (scheduleAndRoute plat cfg env endDrains pass) := by
  refine Pass.update_flagged fun hdown => congrArg ClusterState.persisted ?_
  simp only [Bool.or_eq_false_iff] at hdown
  obtain ⟨⟨⟨hadv, hdra⟩, hsch⟩, hrou⟩ := hdown
  rw [refreshReadyStackRoutes_unchanged hrou, reconcile_unchanged hsch]
  refine Eq.trans ?_ (advanceServiceOperations_unchanged hadv)
  cases endDrains with
  | false => rfl
  | true => exact finishDrains_unchanged hdra

theorem refreshStackDeploymentsLocked_unchanged {inner : Inner} {refreshed : Inner × Bool}
    (h : refreshStackDeploymentsLocked plat cfg now inner = .ok refreshed)
    (hdown : refreshed.2 = false) : refreshed.1.state = inner.state := by
  unfold refreshStackDeploymentsLocked at h
  split at h
  · cases h
  · cases h
    exact refreshStackDeployments_unchanged hdown

theorem judge_flagged {refreshAt : Int} {pass pass' : Pass}
    (h : judge plat cfg env refreshAt pass = .ok pass') : pass.Flagged pass' := by
  unfold judge at h
  split at h
  · cases h
  next refreshed href =>
    cases h
    refine Flagged.trans (b := pass.update refreshed.1.state refreshed.2) ?_ ?_
    · exact Pass.update_flagged fun hdown => congrArg ClusterState.persisted
        (refreshStackDeploymentsLocked_unchanged href hdown)
    · exact Pass.update_flagged fun hdown => congrArg ClusterState.persisted
        (advanceServiceOperations_unchanged hdown)

end Passes

end Swarmlite
