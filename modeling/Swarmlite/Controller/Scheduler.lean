import Swarmlite.Controller.Jobs

/-!
# The scheduler — `swarmlite-controller/src/scheduler.rs`, `reconcile`

One call of `reconcile` looks at the whole cluster once: it runs the jobs,
gives up tasks on dead nodes and failed tasks, and then brings each service,
in id order, towards its replica count. A task that is no longer wanted is
*retired*: it drains if its service is behind an HTTP route and it is healthy,
and is stopped otherwise.

Mirroring notes:
- `tasks` is iterated in id order, so the explicit `sort()` of the two id lists
  in `reconcile_service` changes nothing and is not repeated.
- A `while len > n { pop }` loop retires the ids beyond the first `n`.
- The lists hold task records instead of ids; only their ids are used to retire.
-/

namespace Swarmlite

open Ordered

/-! ## Retiring -/

/-- `retire_task` on the record. -/
def retireRecord (routed : Bool) (task : TaskRecord) : TaskRecord :=
  if task.desired = .running then
    { task with
      desired := if routed && task.observed = .healthy then .draining else .stopped
      drainUntilUnixMs := none }
  else task

theorem retireRecord_id (routed : Bool) (task : TaskRecord) :
    (retireRecord routed task).id = task.id := by
  unfold retireRecord
  split <;> rfl

def retireTask (service : ServiceRecord) (acc : Sched) (taskId : String) : Sched :=
  let routed := isServiceHttpRouted acc.state service
  { acc with
    state := acc.state.withTasks
      (acc.state.tasks.modify taskId (retireRecord routed) (retireRecord_id routed))
    changed := acc.changed
      || (acc.state.tasks.get? taskId).any fun task => task.desired = .running }

/-- The `for`/`while` loops around `retire_task`. -/
def retireTasks (service : ServiceRecord) (acc : Sched) (tasks : List TaskRecord) : Sched :=
  (tasks.map TaskRecord.id).foldl (retireTask service) acc

/-- What retiring a list of ids does to one record. -/
def retireIf (routed : Bool) (ids : List String) (task : TaskRecord) : TaskRecord :=
  if task.id ∈ ids then retireRecord routed task else task

theorem retireIf_id (routed : Bool) (ids : List String) (task : TaskRecord) :
    (retireIf routed ids task).id = task.id := by
  unfold retireIf
  split
  · exact retireRecord_id routed task
  · rfl

theorem retireRecord_idem (routed : Bool) (task : TaskRecord) :
    retireRecord routed (retireRecord routed task) = retireRecord routed task := by
  have hdone : (retireRecord routed task).desired ≠ .running := by
    unfold retireRecord
    split
    · dsimp only
      split <;> exact fun h => nomatch h
    next h => exact h
  exact if_neg hdone

/-- Retiring ids one after the other is retiring all of them at once. -/
theorem retireTasks_state (service : ServiceRecord) (tasks : List TaskRecord) (acc : Sched) :
    (retireTasks service acc tasks).state = acc.state.withTasks (acc.state.tasks.map
      (retireIf (isServiceHttpRouted acc.state service) (tasks.map TaskRecord.id))
      (retireIf_id _ _)) := by
  unfold retireTasks
  generalize tasks.map TaskRecord.id = ids
  induction ids generalizing acc with
  | nil =>
    have hid : acc.state.tasks.map (retireIf (isServiceHttpRouted acc.state service) [])
        (retireIf_id _ _) = acc.state.tasks :=
      Table.map_eq_self fun task _ => if_neg List.not_mem_nil
    rw [List.foldl_nil, hid]
    rfl
  | cons id ids ih =>
    -- the routes are read from the stacks, which retiring leaves alone
    have hrou : isServiceHttpRouted (retireTask service acc id).state service
        = isServiceHttpRouted acc.state service := rfl
    have htas : (retireTask service acc id).state.tasks.map
          (retireIf (isServiceHttpRouted acc.state service) ids) (retireIf_id _ _)
        = acc.state.tasks.map
          (retireIf (isServiceHttpRouted acc.state service) (id :: ids)) (retireIf_id _ _) := by
      refine Table.map_modify (retireRecord_id _) fun task _ => ?_
      unfold retireIf
      by_cases hid : task.id = id
      · have hmem : task.id ∈ id :: ids := List.mem_cons.mpr (.inl hid)
        rw [if_pos hid, if_pos hmem, retireRecord_id]
        split
        · exact retireRecord_idem _ task
        · rfl
      · simp [hid]
    rw [List.foldl_cons, ih, hrou, htas]
    rfl

@[simp] theorem retireTasks_minted (service : ServiceRecord) (tasks : List TaskRecord)
    (acc : Sched) : (retireTasks service acc tasks).minted = acc.minted := by
  unfold retireTasks
  generalize tasks.map TaskRecord.id = ids
  induction ids generalizing acc with
  | nil => rfl
  | cons id ids ih => exact ih (retireTask service acc id)

/-! ## One service -/

/-- A wanted task of the service on a live node. -/
def runningLive (service : ServiceRecord) (live : Keys String) (task : TaskRecord) : Bool :=
  task.serviceId = service.id && task.desired = .running && live.contains task.nodeId

def currentRunning (service : ServiceRecord) (live : Keys String) (task : TaskRecord) : Bool :=
  runningLive service live task && task.revision = service.revision

def oldRunning (service : ServiceRecord) (live : Keys String) (task : TaskRecord) : Bool :=
  runningLive service live task && task.revision != service.revision

/-- A task of the current revision on a node that has reported labels which no
longer match. A node that has not reported is not a mismatch. -/
def violatesConstraints (state : ClusterState) (service : ServiceRecord) (task : TaskRecord) :
    Bool :=
  task.serviceId = service.id && task.revision = service.revision
    && (task.desired = .running || task.desired = .draining)
    && (state.nodes.get? task.nodeId).any fun node =>
      !matchesConstraints node service.spec.constraints

/-- Healthy with all its ports published. -/
def serving (task : TaskRecord) : Bool := task.observed = .healthy && task.portsPublished

/-- A task of the service that still takes room on a live node. -/
def occupying (service : ServiceRecord) (live : Keys String) (task : TaskRecord) : Bool :=
  task.serviceId = service.id && live.contains task.nodeId && !task.observed.isFailedOrLost

/-- Up to `n` new tasks; the first one that cannot be placed ends the loop. -/
def createTasks (service : ServiceRecord) (live : Keys String) (uuid : Nat → String) :
    Nat → Sched → Sched
  | 0, acc => acc
  | n + 1, acc =>
    match scheduleTask acc.state service live (uuid acc.minted) with
    | none => acc
    | some task =>
      createTasks service live uuid n
        { state := acc.state.withTasks (acc.state.tasks.insert task)
          changed := true
          minted := acc.minted + 1 }

/-- The part of `reconcile_service` that retires tasks. -/
def retireSurplus (service : ServiceRecord) (live : Keys String) (acc : Sched) : Sched :=
  let replicas := service.spec.replicas
  let acc := retireTasks service acc
    (acc.state.tasks.rows.filter (violatesConstraints acc.state service))
  let current := acc.state.tasks.rows.filter (currentRunning service live)
  let old := acc.state.tasks.rows.filter (oldRunning service live)
  let acc := retireTasks service acc (current.drop replicas)
  let keptCurrent := current.take replicas
  let oldToKeep := replicas - keptCurrent.countP serving
  let acc := retireTasks service acc (old.drop oldToKeep)
  let keptOld := old.take oldToKeep
  -- stop-first updates free one slot before starting its replacement
  if service.spec.maxSurge = 0 && !keptOld.isEmpty && keptCurrent.length < replicas then
    retireTasks service acc (keptOld.take 1)
  else acc

/-- How many tasks the second half of `reconcile_service` may create. -/
def creationBudget (service : ServiceRecord) (live : Keys String) (state : ClusterState) : Nat :=
  let replicas := service.spec.replicas
  let hasOld := state.tasks.rows.any (oldRunning service live)
  let maxTotal := if hasOld then replicas + service.spec.maxSurge else replicas
  let canCreate := maxTotal - state.tasks.count (occupying service live)
  let needed := replicas - state.tasks.count (currentRunning service live)
  min needed canCreate

def reconcileService (service : ServiceRecord) (live : Keys String) (uuid : Nat → String)
    (acc : Sched) : Sched :=
  let retired := retireSurplus service live acc
  createTasks service live uuid (creationBudget service live retired.state) retired

def stopAllServiceTasks (service : ServiceRecord) (acc : Sched) : Sched :=
  retireTasks service acc (acc.state.tasks.rows.filter fun task => task.serviceId = service.id)

/-! ## The whole cluster -/

/-- Some active restart operation is not done with the task. -/
def restartInProgress (state : ClusterState) (taskId : String) : Bool :=
  state.serviceOperations.rows.any fun op => op.restartingTask taskId

/-- The task is given up: its node is gone, or it failed. -/
def givenUp (state : ClusterState) (live : Keys String) (task : TaskRecord) : Bool :=
  task.job.isNone
    && !(live.contains task.nodeId && restartInProgress state task.id)
    && (task.desired = .running || task.desired = .draining)
    && (!live.contains task.nodeId || task.observed.isFailedOrLost)

def giveUp (state : ClusterState) (live : Keys String) (task : TaskRecord) : TaskRecord :=
  if givenUp state live task then
    { task with
      desired := .stopped
      observed := if live.contains task.nodeId then task.observed else .lost }
  else task

theorem giveUp_id (state : ClusterState) (live : Keys String) (task : TaskRecord) :
    (giveUp state live task).id = task.id := by
  unfold giveUp
  split <;> rfl

def giveUpTasks (live : Keys String) (acc : Sched) : Sched :=
  { acc with
    state := acc.state.withTasks
      (acc.state.tasks.map (giveUp acc.state live) (giveUp_id acc.state live))
    changed := acc.changed || acc.state.tasks.rows.any (givenUp acc.state live) }

/-- A restart operation owns the service for now. -/
def restartActive (state : ClusterState) (serviceId : String) : Bool :=
  state.serviceOperations.rows.any fun op =>
    op.view.service = serviceId && op.view.status.active && op.view.kind = .restart

/-- One round of the loop over the services. -/
def reconcileStep (live : Keys String) (uuid : Nat → String) (acc : Sched)
    (service : ServiceRecord) : Sched :=
  if service.spec.job.isSome then acc
  else if restartActive acc.state service.id then acc
  else if service.deleted || service.spec.replicas = 0 then stopAllServiceTasks service acc
  else reconcileService service live uuid acc

/-- `reconcile`; `now` is the clock the job scheduler reads. -/
def reconcile (ext : Externals) (uuid : Nat → String) (live : Keys String) (now : Int)
    (state : ClusterState) : Sched :=
  let acc := giveUpTasks live (Jobs.reconcile ext uuid live now { state })
  acc.state.services.rows.foldl (reconcileStep live uuid) acc

/-- `finish_drains` on the record. -/
def drainFinished (now : Int) (task : TaskRecord) : Bool :=
  task.desired = .draining && task.drainUntilUnixMs.any fun deadline => deadline ≤ now

def finishDrain (now : Int) (task : TaskRecord) : TaskRecord :=
  if drainFinished now task then { task with desired := .stopped } else task

theorem finishDrain_id (now : Int) (task : TaskRecord) : (finishDrain now task).id = task.id := by
  unfold finishDrain
  split <;> rfl

def finishDrains (state : ClusterState) (now : Int) : ClusterState × Bool :=
  (state.withTasks (state.tasks.map (finishDrain now) (finishDrain_id now)),
    state.tasks.rows.any (drainFinished now))

end Swarmlite
