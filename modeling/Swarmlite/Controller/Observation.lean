import Mathlib.Logic.Relation
import Swarmlite.Core.Model
import Swarmlite.Lib.Loop

/-!
# Bookkeeping — what may change without a scheduling decision

Most of a heartbeat only records what a node reports: observed states, ports,
results, progress of deployments and operations. `Observed nodeId s s'` says that
the step from `s` to `s'` is of this kind. It is reflexive and transitive, so a
phase of the heartbeat is covered by one lemma per function it calls, and whole
phases by `Loop.foldl_rel`.

What is kept is stated by equations between normalised records (`identity`,
`core`, `forgetRevision`): two records agree on everything but the fields the
normal form blanks out.
-/

namespace Swarmlite

open Ordered

/-! ## Normal forms -/

def JobExecution.forgetRuntime (job : JobExecution) : JobExecution := { job with runtime := none }

/-- What a scheduling decision fixed about a task: all that no report changes. -/
def TaskRecord.identity (task : TaskRecord) : TaskRecord :=
  { task with
    imageId := none
    job := task.job.map JobExecution.forgetRuntime
    observed := .pending
    ports := []
    configDigests := []
    containerId := none
    appliedGeneration := none
    reconcileError := none }

/-- What an apply fixed about a deployment. -/
def StackDeploymentRecord.core (deployment : StackDeploymentRecord) : StackDeploymentRecord :=
  { deployment with
    status := .reconciling
    lastProgressAtUnixMs := 0
    finishedAtUnixMs := none
    errors := []
    imageResolutions := Table.empty
    conditions := [] }

/-- What an apply fixed about a stack. -/
def StackRecord.core (stack : StackRecord) : StackRecord :=
  { stack with deployment := stack.deployment.map StackDeploymentRecord.core }

theorem StackRecord.core_name (stack : StackRecord) : stack.core.name = stack.name := rfl

/-- A service up to its revision. -/
def ServiceRecord.forgetRevision (service : ServiceRecord) : ServiceRecord :=
  { service with revision := 0 }

theorem ServiceRecord.forgetRevision_id (svc : ServiceRecord) :
    svc.forgetRevision.id = svc.id := rfl

/-! ## Tasks and operations -/

theorem job_isSome_of_identity {task task' : TaskRecord} (h : task'.identity = task.identity) :
    task'.job.isSome = task.job.isSome := by
  have hjob : task'.job.map JobExecution.forgetRuntime = task.job.map JobExecution.forgetRuntime :=
    congrArg (·.job) h
  rw [← Option.isSome_map, hjob, Option.isSome_map]

/-- A report of a node about a task: another node's task is untouched, except
that a completed restart shows it as starting. -/
structure TaskObserved (nodeId : String) (task task' : TaskRecord) : Prop where
  identity : task'.identity = task.identity
  other : task.nodeId ≠ nodeId → task' = task ∨ task' = { task with observed := .starting }

namespace TaskObserved

variable {nodeId : String} {task task' task'' : TaskRecord}

theorem refl (nodeId : String) (task : TaskRecord) : TaskObserved nodeId task task :=
  ⟨rfl, fun _ => .inl rfl⟩

theorem id (h : TaskObserved nodeId task task') : task'.id = task.id := congrArg (·.id) h.identity

theorem nodeId_eq (h : TaskObserved nodeId task task') : task'.nodeId = task.nodeId :=
  congrArg (·.nodeId) h.identity

theorem desired (h : TaskObserved nodeId task task') : task'.desired = task.desired :=
  congrArg (·.desired) h.identity

theorem job_isSome (h : TaskObserved nodeId task task') : task'.job.isSome = task.job.isSome :=
  job_isSome_of_identity h.identity

theorem trans (h : TaskObserved nodeId task task') (h' : TaskObserved nodeId task' task'') :
    TaskObserved nodeId task task'' := by
  refine ⟨h'.identity.trans h.identity, fun hoth => ?_⟩
  have hoth' : task'.nodeId ≠ nodeId := h.nodeId_eq ▸ hoth
  rcases h.other hoth with rfl | heq
  · exact h'.other hoth'
  · rcases h'.other hoth' with rfl | heq'
    · exact .inr heq
    · right
      rw [heq', heq]

/-- A task of the reporting node may change in every field a report can change. -/
theorem of_identity (hid : task'.identity = task.identity) (hnode : task.nodeId = nodeId) :
    TaskObserved nodeId task task' :=
  ⟨hid, fun hne => absurd hnode hne⟩

end TaskObserved

/-- An operation goes on or ends; nothing revives it. -/
structure OperationKept (op op' : ServiceOperationRecord) : Prop where
  id : op'.view.operationId = op.view.operationId
  service : op'.view.service = op.view.service
  kind : op'.view.kind = op.view.kind
  stack : op'.stack = op.stack
  targetRevision : op'.targetRevision = op.targetRevision
  image : op'.image = op.image
  deployed : op.view.deploymentGeneration.isSome = true →
    op'.view.deploymentGeneration.isSome = true
  active : op'.view.status.active = true → op.view.status.active = true

theorem OperationKept.refl (op : ServiceOperationRecord) : OperationKept op op :=
  ⟨rfl, rfl, rfl, rfl, rfl, rfl, fun h => h, fun h => h⟩

theorem OperationKept.trans {a b c : ServiceOperationRecord} (h : OperationKept a b)
    (h' : OperationKept b c) : OperationKept a c :=
  ⟨h'.id.trans h.id, h'.service.trans h.service, h'.kind.trans h.kind, h'.stack.trans h.stack,
    h'.targetRevision.trans h.targetRevision, h'.image.trans h.image,
    fun hdep => h'.deployed (h.deployed hdep), fun hact => h.active (h'.active hact)⟩

/-! ## Whole states -/

/-- A step that records reports of one node. Stopped tasks may disappear. -/
structure Observed (nodeId : String) (s s' : ClusterState) : Prop where
  rest : s' = { s with
    serviceOperations := s'.serviceOperations
    stackRecords := s'.stackRecords
    services := s'.services
    tasks := s'.tasks
    unclaimedTasks := s'.unclaimedTasks }
  tasks : ∀ task' ∈ s'.tasks, ∃ task ∈ s.tasks, TaskObserved nodeId task task'
  kept : ∀ task ∈ s.tasks, task.desired ≠ .stopped →
    ∃ task' ∈ s'.tasks, TaskObserved nodeId task task'
  services : s'.services.map ServiceRecord.forgetRevision ServiceRecord.forgetRevision_id
    = s.services.map ServiceRecord.forgetRevision ServiceRecord.forgetRevision_id
  revisions : ∀ id old new, s.services.get? id = some old → s'.services.get? id = some new →
    old.revision ≤ new.revision
  stackRecords : s'.stackRecords.map StackRecord.core StackRecord.core_name
    = s.stackRecords.map StackRecord.core StackRecord.core_name
  unclaimed : ∀ task ∈ s'.unclaimedTasks, task ∈ s.unclaimedTasks ∨ task.nodeId = nodeId
  operations : ∀ op' ∈ s'.serviceOperations, ∃ op ∈ s.serviceOperations, OperationKept op op'

namespace Observed

variable {nodeId : String} {s s' s'' : ClusterState}

theorem refl (nodeId : String) (s : ClusterState) : Observed nodeId s s :=
  { rest := rfl
    tasks := fun task htask => ⟨task, htask, TaskObserved.refl nodeId task⟩
    kept := fun task htask _ => ⟨task, htask, TaskObserved.refl nodeId task⟩
    services := rfl
    revisions := fun id old new hold hnew => by rw [hold] at hnew; cases hnew; exact Nat.le_refl _
    stackRecords := rfl
    unclaimed := fun _ htask => .inl htask
    operations := fun op hop => ⟨op, hop, OperationKept.refl op⟩ }

theorem gatewayGeneration (h : Observed nodeId s s') :
    s'.gatewayGeneration = s.gatewayGeneration := by
  rw [h.rest]

/-- The record under an id differs in its revision at most. -/
theorem services_get? (h : Observed nodeId s s') (id : String) :
    (s'.services.get? id).map ServiceRecord.forgetRevision
      = (s.services.get? id).map ServiceRecord.forgetRevision := by
  have hget : ∀ services : Table ServiceRecord.id,
      (services.map ServiceRecord.forgetRevision ServiceRecord.forgetRevision_id).get? id
        = (services.get? id).map ServiceRecord.forgetRevision :=
    fun services => Table.get?_map services id
  rw [← hget, ← hget, h.services]

theorem service_kept (h : Observed nodeId s s') {id : String} {svc : ServiceRecord}
    (hget : s.services.get? id = some svc) : ∃ svc', s'.services.get? id = some svc' := by
  have hmap := h.services_get? id
  rw [hget, Option.map_some] at hmap
  obtain ⟨svc', hget', -⟩ := Option.map_eq_some_iff.mp hmap
  exact ⟨svc', hget'⟩

theorem trans (h : Observed nodeId s s') (h' : Observed nodeId s' s'') : Observed nodeId s s'' := by
  refine ⟨?_, ?_, ?_, h'.services.trans h.services, ?_, h'.stackRecords.trans h.stackRecords, ?_,
    ?_⟩
  · rw [h'.rest, h.rest]
  · intro task'' htask
    obtain ⟨task', htask', hobs'⟩ := h'.tasks task'' htask
    obtain ⟨task, htask, hobs⟩ := h.tasks task' htask'
    exact ⟨task, htask, hobs.trans hobs'⟩
  · intro task htask hdes
    obtain ⟨task', htask', hobs⟩ := h.kept task htask hdes
    obtain ⟨task'', htask'', hobs'⟩ := h'.kept task' htask' (hobs.desired ▸ hdes)
    exact ⟨task'', htask'', hobs.trans hobs'⟩
  · intro id old new hold hnew
    obtain ⟨mid, hmid⟩ := h.service_kept hold
    exact Nat.le_trans (h.revisions id old mid hold hmid) (h'.revisions id mid new hmid hnew)
  · intro task htask
    rcases h'.unclaimed task htask with hmem | hnode
    · exact h.unclaimed task hmem
    · exact .inr hnode
  · intro op'' hop
    obtain ⟨op', hop', hkept'⟩ := h'.operations op'' hop
    obtain ⟨op, hop, hkept⟩ := h.operations op' hop'
    exact ⟨op, hop, hkept.trans hkept'⟩

/-- A loop of bookkeeping steps is one. -/
theorem foldl {α β : Type} (stateOf : α → ClusterState) (f : α → β → α) (start : α) {l : List β}
    (hstep : ∀ acc, ∀ x ∈ l, Observed nodeId (stateOf acc) (stateOf (f acc x))) :
    Observed nodeId (stateOf start) (stateOf (l.foldl f start)) :=
  Loop.foldl_rel (R := fun a b => Observed nodeId (stateOf a) (stateOf b))
    (fun a => refl nodeId (stateOf a)) (fun _ _ _ => trans) hstep

/-! ### The elementary steps -/

/-- Some records of tasks are rewritten as reports allow. -/
theorem of_tasks {f : TaskRecord → TaskRecord} {hf : ∀ task, (f task).id = task.id}
    (h : ∀ task ∈ s.tasks, TaskObserved nodeId task (f task)) :
    Observed nodeId s (s.withTasks (s.tasks.map f hf)) := by
  refine { refl nodeId s with rest := rfl, tasks := ?_, kept := ?_ }
  · intro task' htask'
    rw [ClusterState.withTasks_tasks, Table.mem_map] at htask'
    obtain ⟨task, htask, rfl⟩ := htask'
    exact ⟨task, htask, h task htask⟩
  · intro task htask _
    refine ⟨f task, ?_, h task htask⟩
    rw [ClusterState.withTasks_tasks, Table.mem_map]
    exact ⟨task, htask, rfl⟩

theorem of_stackRecords {records : Table StackRecord.name}
    (h : records.map StackRecord.core StackRecord.core_name
      = s.stackRecords.map StackRecord.core StackRecord.core_name) :
    Observed nodeId s { s with stackRecords := records } :=
  { refl nodeId s with rest := rfl, stackRecords := h }

theorem of_operations {operations : Table ServiceOperationRecord.operationId}
    (h : ∀ op' ∈ operations, ∃ op ∈ s.serviceOperations, OperationKept op op') :
    Observed nodeId s { s with serviceOperations := operations } :=
  { refl nodeId s with rest := rfl, operations := h }

end Observed

end Swarmlite
