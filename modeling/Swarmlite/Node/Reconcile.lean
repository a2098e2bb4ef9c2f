import Swarmlite.Lib.Loop
import Swarmlite.Lib.Programs
import Swarmlite.Core.Reports

/-!
# The reconcile pass of an agent — `swarmlite-agent/src/lib.rs`

A pass brings the containers of a node in line with one answer of the controller. It
works on an inventory taken before it: first the listed removals, then the assignments
one by one. A task that is being restarted or drained is left alone; a container of an
old revision, a failed one, and one whose dynamic host port was taken meanwhile are
replaced, that is removed and created again.

`Permitted` says, for every operation of the container runtime, when a pass may
perform it; `reconcileContainers_behaves` that it performs no other. The guard also says
what is owed: after a replacement's removal succeeded, the next operation creates the
same task again, and a pass never ends in between.

Mirroring notes:
- The operations are those of `ContainerRuntime`. `create_task` is one of them: that
  Docker's name conflicts and failed starts are cleared up inside it is not visible
  to the pass.
- `tokio::time::timeout` around an operation replies with an error of its own; to the
  pass that is one more error of the operation, which may have had its effect.
- The removals run concurrently (`join_all`). Each performs at most one operation, so
  they are performed in some order, which is a parameter.
- `managed_container_inventory` returns containers by task id.
- Progress reports are left out; they do not influence the pass.
-/

namespace Swarmlite

open Ordered Programs Loop

/-! ## Containers and operations -/

/-- What the pass reads of a container. -/
structure ManagedContainer where
  job : Option JobRuntimeState
  id : String
  taskId : String
  revision : Option Nat
  running : Bool
  observed : ObservedTaskState
  stopGraceSeconds : Int
deriving DecidableEq

abbrev Inventory := Table ManagedContainer.taskId

/-- An error of the container runtime. -/
structure RuntimeError where
  message : String
  isHostPortConflict : Bool
deriving DecidableEq

inductive RuntimeOp where
  | stopJob (container : ManagedContainer) (reason : String)
  | removeTask (container : ManagedContainer)
  | startTask (container : ManagedContainer)
  | createTask (assignment : TaskAssignment)
  | restartTask (assignment : TaskAssignment)

def RuntimeOp.taskId : RuntimeOp → String
  | .stopJob container _ => container.taskId
  | .removeTask container => container.taskId
  | .startTask container => container.taskId
  | .createTask assignment => assignment.id
  | .restartTask assignment => assignment.id

@[reducible] def RuntimeOp.Reply (_ : RuntimeOp) : Type := Except RuntimeError Unit

abbrev RuntimeProg := Prog RuntimeOp RuntimeOp.Reply
abbrev RuntimeAct := Act RuntimeOp RuntimeOp.Reply

namespace RuntimeProg

abbrev stopJob (container : ManagedContainer) (reason : String) :
    RuntimeProg (Except RuntimeError Unit) :=
  Prog.perform (RuntimeOp.stopJob container reason)
abbrev removeTask (container : ManagedContainer) : RuntimeProg (Except RuntimeError Unit) :=
  Prog.perform (RuntimeOp.removeTask container)
abbrev startTask (container : ManagedContainer) : RuntimeProg (Except RuntimeError Unit) :=
  Prog.perform (RuntimeOp.startTask container)
abbrev createTask (assignment : TaskAssignment) : RuntimeProg (Except RuntimeError Unit) :=
  Prog.perform (RuntimeOp.createTask assignment)
abbrev restartTask (assignment : TaskAssignment) : RuntimeProg (Except RuntimeError Unit) :=
  Prog.perform (RuntimeOp.restartTask assignment)

end RuntimeProg

open RuntimeProg

/-! ## The pass -/

structure TemplateNode where
  id : String
  hostname : String
  platformArchitecture : String
  platformOs : String
deriving DecidableEq

structure TemplateContext where
  serviceId : String
  serviceName : String
  serviceLabels : Map String String
  node : TemplateNode
  taskId : String
  taskName : String
  taskSlot : String

/-- The expansion of templates in environment entries. -/
abbrev ExpandEnvironment := TemplateContext → List String → Except String (List String)

def reconcileReport (taskId : String) (desiredGeneration : Nat) (phase : TaskReconcilePhase)
    (result : Except RuntimeError Unit) : TaskReconcileReport :=
  match result with
  | .ok () =>
    { taskId, desiredGeneration, appliedGeneration := some desiredGeneration, phase, error := none }
  | .error error =>
    { taskId, desiredGeneration, appliedGeneration := none, phase, error := some error.message }

/-- Every port of the task has a host port chosen by the controller. -/
def assignmentUsesOnlyDynamicPorts (assignment : TaskAssignment) : Bool :=
  !assignment.ports.isEmpty && assignment.ports.all fun binding =>
    (assignment.spec.ports.filter fun port =>
      port.target = binding.target && port.protocol = binding.protocol).all fun port =>
        port.published.isNone

def TaskAssignment.withEnvironment (assignment : TaskAssignment) (environment : List String) :
    TaskAssignment :=
  { assignment with spec := { assignment.spec with environment } }

section Pass

variable (expand : ExpandEnvironment) (node : TemplateNode)

def expandAssignmentTemplates (assignment : TaskAssignment) : Except String TaskAssignment :=
  let taskSlot := toString (assignment.slot + 1)
  let context : TemplateContext :=
    { serviceId := assignment.serviceId
      serviceName := assignment.service
      serviceLabels := assignment.spec.serviceLabels
      node
      taskId := assignment.id
      taskName := assignment.service ++ "." ++ taskSlot ++ "." ++ assignment.id
      taskSlot }
  (expand context assignment.spec.environment).map assignment.withEnvironment

/-- One listed removal. A running job is stopped and its container kept as evidence; a
finished one is removed unless the controller wants it retained. -/
def reconcileRemoval (existing : Inventory) (removal : TaskRemovalAssignment) :
    RuntimeProg TaskReconcileReport := do
  let result ← match existing.get? removal.id with
    | none => pure (.ok ())
    | some container =>
      if container.job.isSome then
        if container.running then stopJob container "cancelled"
        else if !removal.retainJobContainer then RuntimeProg.removeTask container
        else pure (.ok ())
      else RuntimeProg.removeTask container
  return reconcileReport removal.id removal.deploymentGeneration .remove result

def reconcileRemovals (existing : Inventory) :
    List TaskRemovalAssignment → RuntimeProg (List TaskReconcileReport)
  | [] => return []
  | removal :: removals => do
    let report ← reconcileRemoval existing removal
    let reports ← reconcileRemovals existing removals
    return report :: reports

def replaceTask (container : ManagedContainer) (assignment : TaskAssignment) :
    RuntimeProg (Except RuntimeError Unit) := do
  match ← RuntimeProg.removeTask container with
  | .error error => return .error error
  | .ok _ => createTask assignment

/-- A task of a service that is to run. -/
def reconcileServiceTask (existing : Inventory) (assignment : TaskAssignment) :
    RuntimeProg (TaskReconcilePhase × Except RuntimeError Unit) := do
  match existing.get? assignment.id with
  | none => return (.create, ← createTask assignment)
  | some container =>
    if container.revision ≠ some assignment.revision then
      return (.replace, ← replaceTask container assignment)
    else if !container.running then
      match ← startTask container with
      | .error error =>
        if error.isHostPortConflict && assignmentUsesOnlyDynamicPorts assignment then
          return (.start, ← replaceTask container assignment)
        else return (.start, .error error)
      | .ok _ => return (.start, .ok ())
    else if container.observed = .failed then
      return (.replace, ← replaceTask container assignment)
    else return (.verify, .ok ())

/-- A task that is to run, once its configs and templates are in order. An existing
container of a job is evidence and never started again. -/
def reconcileExpanded (existing : Inventory) (assignment : TaskAssignment) :
    RuntimeProg TaskReconcileReport := do
  if assignment.job.isSome then
    if existing.contains assignment.id then
      return reconcileReport assignment.id assignment.deploymentGeneration .verify (.ok ())
    else
      let result ← createTask assignment
      return reconcileReport assignment.id assignment.deploymentGeneration .verify result
  else
    let (phase, result) ← reconcileServiceTask existing assignment
    return reconcileReport assignment.id assignment.deploymentGeneration phase result

/-- One assignment. Queued replicas and the active restart are never repaired through
create, remove or start while the restart window is open. -/
def reconcileAssignment (existing : Inventory) (configErrors : Map String String)
    (assignment : TaskAssignment) : RuntimeProg (List TaskReconcileReport) := do
  match assignment.restart with
  | some restart =>
    if restart.execute then
      let result ← restartTask assignment
      return [reconcileReport assignment.id assignment.deploymentGeneration .verify result]
    else return []
  | none =>
    if assignment.desired = .draining then
      return [reconcileReport assignment.id assignment.deploymentGeneration .verify (.ok ())]
    else
      match configErrors.lookup assignment.id with
      | some message =>
        return [{ taskId := assignment.id, desiredGeneration := assignment.deploymentGeneration
                  appliedGeneration := none, phase := .config, error := some message }]
      | none =>
        match expandAssignmentTemplates expand node assignment with
        | .error message =>
          return [{ taskId := assignment.id, desiredGeneration := assignment.deploymentGeneration
                    appliedGeneration := none, phase := .config, error := some message }]
        | .ok expanded => return [← reconcileExpanded existing expanded]

def reconcileAssignments (existing : Inventory) (configErrors : Map String String) :
    List TaskAssignment → RuntimeProg (List TaskReconcileReport)
  | [] => return []
  | assignment :: assignments => do
    let reports ← reconcileAssignment expand node existing configErrors assignment
    let rest ← reconcileAssignments existing configErrors assignments
    return reports ++ rest

/-- `reconcile_containers_with_progress`. -/
def reconcileContainers (existing : Inventory) (configErrors : Map String String)
    (removals : List TaskRemovalAssignment) (assignments : List TaskAssignment) :
    RuntimeProg (List TaskReconcileReport) := do
  let removed ← reconcileRemovals existing removals
  let reconciled ← reconcileAssignments expand node existing configErrors assignments
  return removed ++ reconciled

end Pass

/-! ## What a pass may do -/

/-- The answer lists the task for removal. -/
def ListsRemoval (response : HeartbeatResponse) (taskId : String) : Prop :=
  ∃ removal ∈ response.removeTasks, removal.id = taskId

/-- A task of a service that is to run and is not being restarted. -/
structure TaskAssignment.Repairable (assignment : TaskAssignment) : Prop where
  running : assignment.desired = .running
  job : assignment.job = none
  restart : assignment.restart = none

/-- The start of the container, just before, found a dynamic host port taken. -/
def PortTaken (assignment : TaskAssignment) (container : ManagedContainer) :
    List RuntimeAct → Prop
  | [] => False
  | act :: _ => assignmentUsesOnlyDynamicPorts assignment = true ∧
    ∃ error, act = ⟨.startTask container, .error error⟩ ∧ error.isHostPortConflict = true

/-- The container is to be replaced for the assignment. -/
structure Replaceable (response : HeartbeatResponse) (container : ManagedContainer)
    (acts : List RuntimeAct) (assignment : TaskAssignment) : Prop where
  assigned : assignment ∈ response.assignments
  same : assignment.id = container.taskId
  repairable : assignment.Repairable
  unfit : container.revision ≠ some assignment.revision ∨ container.observed = .failed ∨
    PortTaken assignment container acts

/-- The container of the task was removed just before. -/
def JustRemoved (taskId : String) : List RuntimeAct → Prop
  | [] => False
  | act :: _ => ∃ container, act = ⟨.removeTask container, .ok ()⟩ ∧ container.taskId = taskId

/-- When a pass may perform an operation. -/
def Allowed (response : HeartbeatResponse) (existing : Inventory) (acts : List RuntimeAct) :
    RuntimeOp → Prop
  | .stopJob container _ => container ∈ existing ∧ container.job.isSome = true ∧
    ListsRemoval response container.taskId
  | .removeTask container => container ∈ existing ∧ (ListsRemoval response container.taskId ∨
    ∃ assignment, Replaceable response container acts assignment)
  | .startTask container => container ∈ existing ∧ container.running = false ∧
    ∃ assignment ∈ response.assignments, assignment.id = container.taskId ∧ assignment.Repairable
  | .createTask created => ∃ assignment ∈ response.assignments, assignment.id = created.id ∧
    assignment.desired = .running ∧ assignment.restart = none ∧
    (existing.get? created.id = none ∨ assignment.job = none ∧ JustRemoved created.id acts)
  | .restartTask assignment => assignment ∈ response.assignments ∧
    ∃ restart, assignment.restart = some restart ∧ restart.execute = true

/-- The task whose container was just removed to be replaced. -/
def Owed (response : HeartbeatResponse) (taskId : String) (acts : List RuntimeAct) : Prop :=
  JustRemoved taskId acts ∧ ¬ ListsRemoval response taskId

/-- An operation is allowed, and pays what is owed. -/
structure Permitted (response : HeartbeatResponse) (existing : Inventory)
    (acts : List RuntimeAct) (op : RuntimeOp) : Prop where
  allowed : Allowed response existing acts op
  pays : ∀ taskId, Owed response taskId acts → ∃ created, op = .createTask created ∧
    created.id = taskId

/-- Nothing is owed. -/
def NothingOwed (response : HeartbeatResponse) (acts : List RuntimeAct) : Prop :=
  ∀ taskId, ¬ Owed response taskId acts

/-- A pass touches only tasks that the answer names. -/
theorem Allowed.named {resp : HeartbeatResponse} {existing : Inventory}
    {acts : List RuntimeAct} {op : RuntimeOp} (h : Allowed resp existing acts op) :
    ListsRemoval resp op.taskId ∨ ∃ asg ∈ resp.assignments, asg.id = op.taskId := by
  cases op with
  | stopJob container reason => exact .inl h.2.2
  | removeTask container =>
    rcases h.2 with hlis | ⟨asg, hrep⟩
    · exact .inl hlis
    · exact .inr ⟨asg, hrep.assigned, hrep.same⟩
  | startTask container =>
    obtain ⟨-, -, asg, hass, hsame, -⟩ := h
    exact .inr ⟨asg, hass, hsame⟩
  | createTask created =>
    obtain ⟨asg, hass, hsame, -⟩ := h
    exact .inr ⟨asg, hass, hsame⟩
  | restartTask asg => exact .inr ⟨asg, h.1, rfl⟩

/-! ## The pass keeps to it -/

section Obeys

variable {resp : HeartbeatResponse} {existing : Inventory} {acts : List RuntimeAct}
  {asg : TaskAssignment} {op : RuntimeOp}

/-- Programs of the pass that end with nothing owed. -/
abbrev Behaves (response : HeartbeatResponse) (existing : Inventory) {α : Type}
    (acts : List RuntimeAct) (prog : RuntimeProg α) : Prop :=
  Obeys (Permitted response existing) (fun _ after => NothingOwed response after) acts prog

/-- Only a removal leaves something owed. -/
theorem nothingOwed_cons {act : RuntimeAct}
    (h : ∀ container, act = ⟨.removeTask container, .ok ()⟩ →
      ListsRemoval resp container.taskId) : NothingOwed resp (act :: acts) := by
  intro taskId howed
  obtain ⟨⟨container, hact, hsame⟩, hunl⟩ := howed
  exact hunl (hsame ▸ h container hact)

theorem NothingOwed.permitted (h : NothingOwed resp acts)
    (hall : Allowed resp existing acts op) : Permitted resp existing acts op :=
  ⟨hall, fun taskId howed => absurd howed (h taskId)⟩

/-- An operation that is not a replacement's removal. -/
theorem NothingOwed.perform {α : Type} {rest : op.Reply → RuntimeProg α}
    (h : NothingOwed resp acts) (hall : Allowed resp existing acts op)
    (hop : ∀ container, op = .removeTask container → ListsRemoval resp container.taskId)
    (hrest : ∀ reply, NothingOwed resp (⟨op, reply⟩ :: acts) →
      Behaves resp existing (⟨op, reply⟩ :: acts) (rest reply)) :
    Behaves resp existing acts (Prog.perform op >>= rest) := by
  refine ⟨h.permitted hall, fun reply => hrest reply (nothingOwed_cons fun container hact => ?_)⟩
  exact hop container (congrArg Act.op hact)

theorem reconcileRemoval_behaves (hset : NothingOwed resp acts)
    {removal : TaskRemovalAssignment} (hlis : removal ∈ resp.removeTasks) :
    Behaves resp existing acts (reconcileRemoval existing removal) := by
  unfold reconcileRemoval
  cases hget : existing.get? removal.id with
  | none => exact hset
  | some container =>
    have hmem := Table.mem_of_get? hget
    have hlist : ListsRemoval resp container.taskId :=
      ⟨removal, hlis, (Table.key_of_get? hget).symm⟩
    have hrem : Allowed resp existing acts (.removeTask container) := ⟨hmem, .inl hlist⟩
    have honly : ∀ other, RuntimeOp.removeTask container = .removeTask other →
        ListsRemoval resp other.taskId := by
      intro other heq
      cases heq
      exact hlist
    dsimp only
    split
    next hjob =>
      split
      · refine hset.perform ⟨hmem, hjob, hlist⟩ (fun other heq => ?_) fun _ h => h
        cases heq
      split
      · exact hset.perform hrem honly fun _ h => h
      · exact hset
    · exact hset.perform hrem honly fun _ h => h

theorem reconcileRemovals_behaves (removals : List TaskRemovalAssignment)
    (hlis : ∀ removal ∈ removals, removal ∈ resp.removeTasks)
    (hset : NothingOwed resp acts) :
    Behaves resp existing acts (reconcileRemovals existing removals) := by
  induction removals generalizing acts with
  | nil => exact hset
  | cons removal removals ih =>
    refine Obeys.bind (reconcileRemoval_behaves hset (hlis removal (List.mem_cons_self ..)))
      fun report after haft => ?_
    exact Obeys.bind (ih (fun other h => hlis other (List.mem_cons_of_mem _ h)) haft) fun _ _ h => h

/-- A replacement is removed and, if that succeeds, created again at once. -/
theorem replaceTask_behaves {container : ManagedContainer} {asg expanded : TaskAssignment}
    (hset : NothingOwed resp acts) (hmem : container ∈ existing)
    (hrep : Replaceable resp container acts asg)
    (hid : expanded.id = asg.id) :
    Behaves resp existing acts (replaceTask container expanded) := by
  have hcre : expanded.id = container.taskId := hid.trans hrep.same
  refine ⟨hset.permitted ⟨hmem, .inr ⟨asg, hrep⟩⟩, fun reply => ?_⟩
  cases reply with
  | error error =>
    refine nothingOwed_cons fun other hact => ?_
    cases hact
  | ok _ =>
    refine ⟨⟨⟨asg, hrep.assigned, hid.symm, hrep.repairable.running,
      hrep.repairable.restart, .inr ⟨hrep.repairable.job, container, rfl,
        hcre.symm⟩⟩, fun taskId howed => ?_⟩, fun _ => nothingOwed_cons fun other hact => ?_⟩
    · obtain ⟨⟨other, hact, rfl⟩, -⟩ := howed
      cases hact
      exact ⟨expanded, rfl, hcre⟩
    · cases hact

theorem createTask_allowed {environment : List String}
    (hass : asg ∈ resp.assignments) (hrun : asg.desired = .running)
    (hres : asg.restart = none) (hnone : existing.get? asg.id = none) :
    Allowed resp existing acts (.createTask (asg.withEnvironment environment)) :=
  ⟨asg, hass, rfl, hrun, hres, .inl hnone⟩

theorem reconcileServiceTask_behaves (environment : List String)
    (hass : asg ∈ resp.assignments) (hrep : asg.Repairable) (hset : NothingOwed resp acts) :
    Behaves resp existing acts
      (reconcileServiceTask existing (asg.withEnvironment environment)) := by
  unfold reconcileServiceTask
  split
  next hnone =>
    refine hset.perform (createTask_allowed hass hrep.running hrep.restart
      hnone) (fun other heq => ?_) fun _ h => h
    cases heq
  next container hget =>
    have hmem := Table.mem_of_get? hget
    have hsame : asg.id = container.taskId := (Table.key_of_get? hget).symm
    -- each of the three reasons to replace a container
    have hrepl : ∀ {acts' : List RuntimeAct}, NothingOwed resp acts' →
        (container.revision ≠ some asg.revision ∨ container.observed = .failed ∨
          PortTaken asg container acts') →
        Behaves resp existing acts' (replaceTask container (asg.withEnvironment environment)) :=
      fun hset' hunf =>
        replaceTask_behaves hset' hmem ⟨hass, hsame, hrep, hunf⟩ rfl
    split
    next hrev => exact Obeys.bind (hrepl hset (.inl hrev)) fun _ _ h => h
    split
    next hsto =>
      have hsto : container.running = false := by simpa using hsto
      refine hset.perform ⟨hmem, hsto, asg, hass, hsame, hrep⟩
        (fun other heq => by cases heq) fun reply haft => ?_
      cases reply with
      | ok _ => exact haft
      | error error =>
        dsimp only
        split
        next hcon =>
          obtain ⟨hport, hdyn⟩ := (Bool.and_eq_true _ _).mp hcon
          exact Obeys.bind (hrepl haft (.inr (.inr ⟨hdyn, error, rfl, hport⟩))) fun _ _ h => h
        · exact haft
    · split
      next hfai =>
        exact Obeys.bind (hrepl hset (.inr (.inl hfai))) fun _ _ h => h
      · exact hset

theorem reconcileExpanded_behaves (environment : List String)
    (hass : asg ∈ resp.assignments) (hrun : asg.desired = .running)
    (hres : asg.restart = none) (hset : NothingOwed resp acts) :
    Behaves resp existing acts (reconcileExpanded existing (asg.withEnvironment environment)) := by
  unfold reconcileExpanded
  split
  · split
    · exact hset
    next hmis =>
      have hnone : existing.get? asg.id = none := Option.not_isSome_iff_eq_none.mp hmis
      refine hset.perform (createTask_allowed hass hrun hres hnone)
        (fun other heq => ?_) fun _ h => h
      cases heq
  next hjob =>
    have hjob : asg.job = none := Option.not_isSome_iff_eq_none.mp hjob
    exact Obeys.bind (reconcileServiceTask_behaves environment hass
      ⟨hrun, hjob, hres⟩ hset) fun _ _ h => h

variable {expand : ExpandEnvironment} {node : TemplateNode} {configErrors : Map String String}

theorem reconcileAssignment_behaves (hass : asg ∈ resp.assignments)
    (hdes : asg.desired = .running ∨ asg.desired = .draining) (hset : NothingOwed resp acts) :
    Behaves resp existing acts (reconcileAssignment expand node existing configErrors asg) := by
  unfold reconcileAssignment
  split
  next restart hres =>
    split
    next hexe =>
      refine hset.perform ⟨hass, restart, hres, hexe⟩ (fun other heq => ?_) fun _ h => h
      cases heq
    · exact hset
  next hres =>
    split
    · exact hset
    next hdra =>
      split
      · exact hset
      split
      · exact hset
      next expanded hexp =>
        obtain ⟨environment, -, rfl⟩ := map_ok hexp
        exact Obeys.bind (reconcileExpanded_behaves environment hass
          (hdes.resolve_right hdra) hres hset) fun _ _ h => h

theorem reconcileAssignments_behaves (assignments : List TaskAssignment)
    (hass : ∀ asg ∈ assignments, asg ∈ resp.assignments)
    (hdes : ∀ asg ∈ resp.assignments, asg.desired = .running ∨ asg.desired = .draining)
    (hset : NothingOwed resp acts) :
    Behaves resp existing acts
      (reconcileAssignments expand node existing configErrors assignments) := by
  induction assignments generalizing acts with
  | nil => exact hset
  | cons asg assignments ih =>
    have hfir := hass asg (List.mem_cons_self ..)
    refine Obeys.bind (reconcileAssignment_behaves hfir (hdes asg hfir) hset)
      fun reports after haft => ?_
    exact Obeys.bind (ih (fun other h => hass other (List.mem_cons_of_mem _ h)) haft) fun _ _ h => h

/-- **A pass does only what it may**, whatever the runtime replies, and never stops
between the removal and the creation of a replacement. -/
theorem reconcileContainers_behaves {removals : List TaskRemovalAssignment}
    (hrem : removals.Perm resp.removeTasks)
    (hdes : ∀ asg ∈ resp.assignments, asg.desired = .running ∨ asg.desired = .draining) :
    Behaves resp existing []
      (reconcileContainers expand node existing configErrors removals resp.assignments) := by
  refine Obeys.bind (reconcileRemovals_behaves removals (fun _ h => hrem.mem_iff.mp h)
    fun _ h => h.1) fun removed after haft => ?_
  exact Obeys.bind (reconcileAssignments_behaves _ (fun _ h => h) hdes haft) fun _ _ h => h

end Obeys

end Swarmlite
