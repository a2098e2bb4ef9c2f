import Swarmlite.Controller.Deployment
import Swarmlite.Controller.Scheduler
import Swarmlite.Controller.Stacks

/-!
# Service operations — `controller/service_operations.rs`

A restart works through the tasks of a service one at a time; a pull-redeploy
prepares the image on every candidate node and then starts a deployment.
`advanceServiceOperations` moves all of them one step, twice in every pass of the
controller.

Mirroring notes:
- The source takes an operation out of the map, works on it and puts it back.
  Nothing the work reads depends on the other operations, so it is a `map`.
- Operations are compared by their serialisation; that is equality of records.
-/

namespace Swarmlite

open Ordered

/-- The live nodes the service may run on; all of them must support operations. -/
def candidateNodes (state : ClusterState) (service : ServiceRecord) (live : Keys String) :
    Except ControllerError (Keys String) :=
  let candidates := state.nodes.rows.filter fun node =>
    live.contains node.id && matchesConstraints node service.spec.constraints
  if candidates.any fun node => !node.supportsServiceOperations then
    .error (.conflict "matching agents must support service operations")
  else .ok (Keys.ofElems (candidates.map NodeRecord.id))

namespace ServiceOperationRecord

def fail (error : String) (now : Int) (op : ServiceOperationRecord) : ServiceOperationRecord :=
  { op with
    view := { op.view with status := .failed, phase := "failed", error := some error }
    finishedAtUnixMs := some now }

def succeed (now : Int) (op : ServiceOperationRecord) : ServiceOperationRecord :=
  { op with
    view := { op.view with
      error := none
      blocked := false
      stalled := false
      status := .succeeded
      phase := "complete"
      completedTasks := op.view.totalTasks }
    finishedAtUnixMs := some now }

/-- A pull-redeploy keeps extending the nodes it prepares. -/
def extendPreparation (state : ClusterState) (live : Keys String) (now : Int)
    (op : ServiceOperationRecord) : ServiceOperationRecord :=
  if op.view.kind = .pullRedeploy && op.pinsImages state then
    match state.services.get? op.view.service with
    | none => op
    | some service =>
      match candidateNodes state service live with
      | .ok nodes => { op with preparingNodes := nodes.rows.foldl Table.insert op.preparingNodes }
      | .error _ =>
        if op.view.deploymentGeneration.isNone then op.fail "unsupported_agent" now
        else { op with view := { op.view with blocked := true } }
  else op

/-- The container to restart is gone, or the task is no longer wanted. -/
def targetUnavailable (state : ClusterState) (live : Keys String) (target : RestartTarget) :
    Bool :=
  !live.contains target.nodeId
    || (state.tasks.get? target.taskId).all fun task =>
      (task.containerId.any fun id => id != target.containerId) || task.desired != .running

/-- How long one restart may take: the service's grace period and two minutes. -/
def restartDeadline (state : ClusterState) (op : ServiceOperationRecord) (now : Int) : Int :=
  let grace := (state.services.get? op.view.service).elim 10
    fun service => service.spec.stopGracePeriodSeconds
  satI64 (now + ((min ((grace + 120) * 1000) 9223372036854775807 : Nat) : Int))

/-- One look at the target being restarted. -/
def workTarget (state : ClusterState) (op : ServiceOperationRecord) (now : Int)
    (target : RestartTarget) : RestartTarget :=
  { target with
    deadlineUnixMs := some (target.deadlineUnixMs.getD (restartDeadline state op now))
    completed := target.completed
      || (target.restarted && (state.tasks.get? target.taskId).any fun task =>
        task.containerId = some target.containerId && task.imageId = some target.imageId
          && task.observed = .healthy) }

def advanceTarget (state : ClusterState) (live : Keys String) (now : Int)
    (op : ServiceOperationRecord) : ServiceOperationRecord :=
  match op.tasks.find? fun target => !target.completed with
  | none => op
  | some target =>
    if targetUnavailable state live target then op.fail "restart_target_unavailable" now
    else if target.deadlineUnixMs.any fun deadline => now ≥ deadline then
      op.fail "restart_timed_out" now
    else
      { op with
        tasks := Loop.updateFirst (fun target => !target.completed) (workTarget state op now)
          op.tasks
        view := { op.view with
          phase := if target.restarted then "waiting_health" else "restarting" } }

def advanceRestart (state : ClusterState) (live : Keys String) (now : Int)
    (op : ServiceOperationRecord) : ServiceOperationRecord :=
  let op := op.advanceTarget state live now
  let op := { op with view := { op.view with
    completedTasks := op.tasks.countP RestartTarget.completed } }
  if op.tasks.all RestartTarget.completed then op.succeed now else op

/-- A pull-redeploy follows its deployment, or waits for its images. -/
def advanceRedeploy (state : ClusterState) (now : Int) (op : ServiceOperationRecord) :
    ServiceOperationRecord :=
  match op.view.deploymentGeneration with
  | some generation =>
    match (stackDeployment state op.stack).filter fun deployment =>
        deployment.generation = generation with
    | none => op.fail "superseded" now
    | some deployment =>
      if deployment.status = .healthy then op.succeed now
      else if deployment.status = .failed then op.fail "deployment_failed" now
      else
        { op with view := { op.view with
          stalled := deployment.status = .stalled
          blocked := deployment.status = .blocked
          phase := "waiting_health"
          completedTasks := state.tasks.count fun task =>
            task.serviceId = op.view.service && task.revision = op.targetRevision
              && task.observed = .healthy } }
  | none =>
    if satI64 (now - op.createdAtUnixMs) > 15 * 60 * 1000 then
      op.fail "image_preparation_timed_out" now
    else op

def work (state : ClusterState) (live : Keys String) (now : Int) (op : ServiceOperationRecord) :
    ServiceOperationRecord :=
  let op := op.extendPreparation state live now
  if op.view.status.active then
    let op := { op with view := { op.view with status := .running } }
    if op.view.kind = .restart then op.advanceRestart state live now
    else op.advanceRedeploy state now
  else op

/-- One operation of the loop; its revision counts the changes. -/
def advance (state : ClusterState) (live : Keys String) (now : Int)
    (op : ServiceOperationRecord) : ServiceOperationRecord :=
  let worked := op.work state live now
  if op ≠ worked then
    { worked with
      view := { worked.view with
        revision := min (worked.view.revision + 1) 18446744073709551615 }
      updatedAtUnixMs := now }
  else worked

/-- A finished operation is forgotten after ninety days. -/
def removable (state : ClusterState) (now : Int) (op : ServiceOperationRecord) : Bool :=
  !op.view.status.active && !op.pinsImages state
    && op.finishedAtUnixMs.any fun finished => satI64 (now - finished) ≥ 90 * 86400000

/-! ## Operations go on or end -/

theorem fail_kept (error : String) (now : Int) (op : ServiceOperationRecord) :
    OperationKept op (op.fail error now) :=
  ⟨rfl, rfl, rfl, rfl, rfl, rfl, fun h => h, fun h => nomatch h⟩

variable (state : ClusterState) (live : Keys String) (now : Int) (op : ServiceOperationRecord)

theorem extendPreparation_kept : OperationKept op (op.extendPreparation state live now) := by
  unfold extendPreparation
  split
  · split
    · exact OperationKept.refl op
    · split
      · exact ⟨rfl, rfl, rfl, rfl, rfl, rfl, fun h => h, fun h => h⟩
      · split
        · exact fail_kept _ now op
        · exact ⟨rfl, rfl, rfl, rfl, rfl, rfl, fun h => h, fun h => h⟩
  · exact OperationKept.refl op

theorem advanceTarget_kept : OperationKept op (op.advanceTarget state live now) := by
  unfold advanceTarget
  split
  · exact OperationKept.refl op
  split
  · exact fail_kept _ now op
  split
  · exact fail_kept _ now op
  · exact ⟨rfl, rfl, rfl, rfl, rfl, rfl, fun h => h, fun h => h⟩

theorem advanceRestart_kept : OperationKept op (op.advanceRestart state live now) := by
  refine (advanceTarget_kept state live now op).trans ?_
  unfold advanceRestart
  dsimp only
  split
  · exact ⟨rfl, rfl, rfl, rfl, rfl, rfl, fun h => h, fun h => nomatch h⟩
  · exact ⟨rfl, rfl, rfl, rfl, rfl, rfl, fun h => h, fun h => h⟩

theorem advanceRedeploy_kept : OperationKept op (op.advanceRedeploy state now) := by
  unfold advanceRedeploy
  split
  · split
    · exact fail_kept _ now op
    · split
      · exact ⟨rfl, rfl, rfl, rfl, rfl, rfl, id, fun h => nomatch h⟩
      · split
        · exact fail_kept _ now op
        · exact ⟨rfl, rfl, rfl, rfl, rfl, rfl, fun h => h, fun h => h⟩
  · split
    · exact fail_kept _ now op
    · exact OperationKept.refl op

theorem work_kept : OperationKept op (op.work state live now) := by
  refine (extendPreparation_kept state live now op).trans ?_
  unfold work
  dsimp only
  split
  next hact =>
    have hrun : OperationKept (op.extendPreparation state live now)
        { op.extendPreparation state live now with
          view := { (op.extendPreparation state live now).view with status := .running } } :=
      ⟨rfl, rfl, rfl, rfl, rfl, rfl, fun h => h, fun _ => hact⟩
    split
    · exact hrun.trans (advanceRestart_kept state live now _)
    · exact hrun.trans (advanceRedeploy_kept state now _)
  · exact OperationKept.refl _

theorem advance_kept : OperationKept op (op.advance state live now) := by
  refine (work_kept state live now op).trans ?_
  unfold advance
  dsimp only
  split
  · exact ⟨rfl, rfl, rfl, rfl, rfl, rfl, fun h => h, fun h => h⟩
  · exact OperationKept.refl _

theorem advance_id : (op.advance state live now).operationId = op.operationId :=
  (advance_kept state live now op).id

end ServiceOperationRecord

/-- `advance_service_operations_locked`. -/
def advanceServiceOperations (state : ClusterState) (live : Keys String) (now : Int) :
    ClusterState × Bool :=
  let advanced := (state.serviceOperations.map (fun op => op.advance state live now)
    (ServiceOperationRecord.advance_id state live now)).filter fun op => !op.removable state now
  ({ state with serviceOperations := advanced }, state.serviceOperations ≠ advanced)

theorem advanceServiceOperations_observed (nodeId : String) (state : ClusterState)
    (live : Keys String) (now : Int) :
    Observed nodeId state (advanceServiceOperations state live now).1 := by
  refine Observed.of_operations fun op' hop' => ?_
  obtain ⟨hmem, -⟩ := Table.mem_filter.mp hop'
  rw [Table.mem_map] at hmem
  obtain ⟨op, hop, rfl⟩ := hmem
  exact ⟨op, hop, ServiceOperationRecord.advance_kept state live now op⟩

end Swarmlite
