import Swarmlite.Controller.Placement

/-!
# Scheduled jobs — `swarmlite-controller/src/jobs.rs`

A job has a cursor instead of replicas. `Jobs.reconcile` stops executions whose
job is gone or whose start window has passed, advances the cursors, creates at
most one execution per due job and keeps the last twenty finished ones.

For the rest of the scheduler only its footprint matters: it changes tasks that
are job executions, adds job executions under fresh ids, and in services it
changes nothing but `jobCursor` (`jobsReconcile_advances`).

Mirroring notes:
- `next_after` belongs to the cron library and is a parameter (`Externals`).
- `i64` arithmetic saturates where the source says so (`satI64`); the cast
  `as i64` of the grace period wraps (`asI64`).
- Task ids come from the stream `uuid`; `Sched.minted` counts how many have
  been drawn.
-/

namespace Swarmlite

open Ordered

/-- What the model takes from libraries without looking inside: the hash of a
service spec and the next occurrence of a cron schedule. -/
structure Externals where
  specHash : ServiceSpec → String
  nextAfter : JobSpec → Int → Option Int

/-- The state a reconciliation works on, whether it has changed anything, and
the number of task ids drawn so far. -/
structure Sched where
  state : ClusterState
  changed : Bool := false
  minted : Nat := 0

def satI64 (value : Int) : Int :=
  max (-9223372036854775808) (min 9223372036854775807 value)

/-- `value as i64` for a `u64`. -/
def asI64 (value : Nat) : Int :=
  if value < 9223372036854775808 then value else (value : Int) - 18446744073709551616

namespace Jobs

/-- Move an overdue cursor past `now`. -/
def skipMissedService (ext : Externals) (now : Int) (service : ServiceRecord) : ServiceRecord :=
  match service.spec.job, service.jobCursor with
  | some job, some cursor =>
    if cursor.nextAtUnixMs ≤ now then
      match ext.nextAfter job now with
      | some next => { service with jobCursor := some { cursor with nextAtUnixMs := next } }
      | none => service
    else service
  | _, _ => service

theorem skipMissedService_id (ext : Externals) (now : Int) (svc : ServiceRecord) :
    (skipMissedService ext now svc).id = svc.id := by
  unfold skipMissedService
  repeat' split
  all_goals rfl

/-- `skip_missed`: whether an overdue cursor was moved. -/
def missed (ext : Externals) (now : Int) (service : ServiceRecord) : Bool :=
  match service.spec.job, service.jobCursor with
  | some job, some cursor => cursor.nextAtUnixMs ≤ now && (ext.nextAfter job now).isSome
  | _, _ => false

def skipMissed (ext : Externals) (state : ClusterState) (now : Int) : ClusterState × Bool :=
  ({ state with
      services := state.services.map (skipMissedService ext now) (skipMissedService_id ext now) },
    state.services.rows.any (missed ext now))

/-! ## Running executions -/

/-- The job of an execution is gone, or the execution missed its start window. -/
def expired (state : ClusterState) (now : Int) (task : TaskRecord) (job : JobExecution) : Bool :=
  ((state.services.get? task.serviceId).all fun service =>
      service.deleted || service.spec.job.isNone)
    || (now ≥ job.startDeadlineUnixMs && (task.observed = .pending || task.observed = .unknown))

def stopExpired (state : ClusterState) (live : Keys String) (now : Int) (task : TaskRecord) :
    TaskRecord :=
  match task.job with
  | none => task
  | some job =>
    let desired := if expired state now task job then .stopped else task.desired
    let observed :=
      if !live.contains task.nodeId && !task.observed.isJobTerminal && task.observed != .unknown
      then .unknown else task.observed
    { task with desired, observed }

theorem stopExpired_id (state : ClusterState) (live : Keys String) (now : Int) (task : TaskRecord) :
    (stopExpired state live now task).id = task.id := by
  unfold stopExpired
  split <;> rfl

def stopExpiredTasks (acc : Sched) (live : Keys String) (now : Int) : Sched :=
  let step := stopExpired acc.state live now
  { acc with
    state := acc.state.withTasks (acc.state.tasks.map step (stopExpired_id acc.state live now))
    changed := acc.changed || acc.state.tasks.rows.any fun task => step task != task }

/-! ## Due jobs -/

def moveCursor (cursor : JobCursor) (service : ServiceRecord) : ServiceRecord :=
  { service with jobCursor := some cursor }

theorem moveCursor_id (cursor : JobCursor) (svc : ServiceRecord) :
    (moveCursor cursor svc).id = svc.id := rfl

def withCursor (state : ClusterState) (serviceId : String) (cursor : JobCursor) : ClusterState :=
  { state with
    services := state.services.modify serviceId (moveCursor cursor) (moveCursor_id cursor) }

/-- How long the executions being replaced may still need to stop. -/
def graceMs (state : ClusterState) (service : ServiceRecord) : Int :=
  state.tasks.rows.foldl (fun grace task =>
    match task.job with
    | some job =>
      if task.serviceId = service.id && !task.observed.isJobTerminal then
        max grace (asI64 (min (job.spec.stopGracePeriodSeconds * 1000) 18446744073709551615) + 5000)
      else grace
    | none => grace) 0

def stopExecution (service : ServiceRecord) (task : TaskRecord) : TaskRecord :=
  if task.serviceId = service.id && task.job.isSome then { task with desired := .stopped }
  else task

theorem stopExecution_id (svc : ServiceRecord) (task : TaskRecord) :
    (stopExecution svc task).id = task.id := by
  unfold stopExecution
  split <;> rfl

def stopExecutions (state : ClusterState) (service : ServiceRecord) : ClusterState :=
  state.withTasks (state.tasks.map (stopExecution service) (stopExecution_id service))

/-- Live nodes whose agent can run jobs. -/
def eligibleNodes (state : ClusterState) (live : Keys String) : Keys String :=
  live.filter fun id => (state.nodes.get? id).any NodeRecord.supportsJobs

/-- The record `schedule_task` is asked to place a job with. -/
def template (service : ServiceRecord) : ServiceRecord :=
  { service with spec := { service.spec with replicas := 1 } }

/-- Replace the previous executions of a due job by a new one, if it can be
placed now; an occurrence that cannot be placed is skipped for good. -/
def launch (acc : Sched) (live : Keys String) (uuid : Nat → String) (now : Int)
    (service : ServiceRecord) (scheduled next : Int) : Sched :=
  let grace := graceMs acc.state service
  let state := stopExecutions acc.state service
  match scheduleTask state (template service) (eligibleNodes state live) (uuid acc.minted) with
  | none => { acc with state }
  | some task =>
    let execution : JobExecution :=
      { runtime := none
        jobId := service.id
        scheduledAtUnixMs := scheduled
        notBeforeUnixMs := satI64 (now + min (min grace 30000) ((satI64 (next - now)).tdiv 2))
        startDeadlineUnixMs := next
        spec := service.spec }
    { acc with
      state := state.withTasks (state.tasks.insert { task with job := some execution })
      minted := acc.minted + 1 }

/-- The cursor after a change of schedule, or while the job is suspended. A
suspended cursor never moves back. -/
def settledCursor (service : ServiceRecord) (job : JobSpec) (schedule : String)
    (policyChanged : Bool) (next : Int) : JobCursor :=
  { lastScheduledAtUnixMs := service.jobCursor.bind JobCursor.lastScheduledAtUnixMs
    schedule
    timeZone := job.timeZone
    nextAtUnixMs := if policyChanged then next
      else (service.jobCursor.map fun cursor => max next cursor.nextAtUnixMs).getD next }

/-- One job service of the scheduling loop. -/
def reconcileJob (ext : Externals) (live : Keys String) (uuid : Nat → String) (now : Int)
    (acc : Sched) (service : ServiceRecord) : Sched :=
  match service.spec.job with
  | none => acc
  | some job =>
    match job.schedule with
    | none => acc
    | some schedule =>
      let policyChanged := service.jobCursor.all fun cursor =>
        cursor.schedule != schedule || cursor.timeZone != job.timeZone
      if policyChanged || job.suspend then
        let last := service.jobCursor.bind JobCursor.lastScheduledAtUnixMs
        match ext.nextAfter job (max (last.getD now) now) with
        | none => acc
        | some next =>
          let cursor := settledCursor service job schedule policyChanged next
          if service.jobCursor = some cursor then acc
          else { acc with state := withCursor acc.state service.id cursor, changed := true }
      else
        match service.jobCursor with
        -- a missing cursor counts as a changed policy, so this case does not arise
        | none => acc
        | some cursor =>
          if cursor.nextAtUnixMs > now then acc
          else
            match ext.nextAfter job now with
            | none => acc
            | some next =>
              let scheduled := cursor.nextAtUnixMs
              let moved := { cursor with
                nextAtUnixMs := next, lastScheduledAtUnixMs := some scheduled }
              let acc := { acc with
                state := withCursor acc.state service.id moved, changed := true }
              if satI64 (now - scheduled) ≥ 60000 then acc
              else launch acc live uuid now service scheduled next

/-! ## Retention -/

def finishedExecutions (state : ClusterState) (serviceId : String) : List (Int ×ₗ String) :=
  (state.tasks.rows.filterMap fun task =>
    match task.job with
    | some job =>
      if task.serviceId = serviceId && task.observed.isJobTerminal then
        some (toLex (job.scheduledAtUnixMs, task.id))
      else none
    | none => none).insertionSort (· ≤ ·)

/-- Forget all but the latest twenty finished executions of a service. -/
def pruneFinished (acc : Sched) (serviceId : String) : Sched :=
  let finished := finishedExecutions acc.state serviceId
  let surplus := finished.take (finished.length - 20)
  { acc with
    state := acc.state.withTasks
      (surplus.foldl (fun tasks entry => tasks.erase (ofLex entry).2) acc.state.tasks)
    changed := acc.changed || !surplus.isEmpty }

def reconcile (ext : Externals) (uuid : Nat → String) (live : Keys String) (now : Int)
    (acc : Sched) : Sched :=
  let stopped := stopExpiredTasks acc live now
  let due := stopped.state.services.rows.filter fun service =>
    !service.deleted && service.spec.job.isSome
  let launched := due.foldl (reconcileJob ext live uuid now) stopped
  (launched.state.services.rows.map ServiceRecord.id).foldl pruneFinished launched

end Jobs

end Swarmlite
