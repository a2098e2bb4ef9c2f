import Swarmlite.Controller.Apply

/-!
# The heartbeat — `controller/heartbeat.rs`

A heartbeat tells the controller what runs on one node and is answered with what
should. The controller first records everything the node says (`record`), then
takes its decisions (`settle`): operations advance, the scheduler runs, the
routes of stacks whose nodes have all reported are recomputed, the health of
deployments is judged. If anything durable changed, the result is committed.

The recording phases are numbered in the order of the source. They act on a
`Pass`, the process together with the two flags that say whether something
durable (`changed`) or only something visible (`softChanged`) changed.

Mirroring notes:
- `reports` is a hash map by task id; a later report of the same id wins. The
  loops over it treat each id on its own, so their order does not matter.
- The loop over the tasks of the node rewrites each record on its own and is a
  `map`; the lists it builds are collected from the same records.
-/

namespace Swarmlite

open Ordered Loop

structure Pass where
  inner : Inner
  changed : Bool := false
  softChanged : Bool := false

namespace Pass

def state (pass : Pass) : ClusterState := pass.inner.state

def withState (pass : Pass) (state : ClusterState) : Pass :=
  { pass with inner := pass.inner.withState state }

/-- A new state, and whether it differs durably or softly. -/
def update (pass : Pass) (state : ClusterState) (changed : Bool) (soft : Bool := false) : Pass :=
  { inner := pass.inner.withState state
    changed := pass.changed || changed
    softChanged := pass.softChanged || soft }

@[simp] theorem update_state (pass : Pass) (state : ClusterState) (changed soft : Bool) :
    (pass.update state changed soft).state = state := rfl

/-- Forget the progress of a task. -/
def forgetProgress (pass : Pass) (taskId : String) : Pass :=
  { pass with inner := { pass.inner with
    taskProgress := pass.inner.taskProgress.filter fun entry => (ofLex entry.1).1 != taskId } }

end Pass

/-! ## The node reports in -/

/-- Progress of the gateways counts for every deployment that waits for them. -/
def markGatewayProgress (state : ClusterState) (now : Int) : ClusterState × Bool :=
  let mark (deployment : StackDeploymentRecord) : StackDeploymentRecord :=
    if deployment.waitForGateway then recordGatewayProgress now deployment else deployment
  ({ state with
      stackRecords := state.stackRecords.map (StackRecord.mapDeployment mark)
        (StackRecord.mapDeployment_name mark) },
    state.stackRecords.rows.any fun stack => stack.deployment.any fun deployment =>
      deployment.waitForGateway && deployment.status.isActive
        && now > deployment.lastProgressAtUnixMs)

/-- The node record a heartbeat leaves: the member decides labels and gateway. -/
def reportedNode (member : NodeMember) (node : NodeRecord) : NodeRecord :=
  { node with gatewayEnabled := member.gatewayEnabled, labels := member.labels }

/-- The member, the gateway report and the node are recorded. -/
def admitNode (clock : Clock) (member : NodeMember) (heartbeat : NodeHeartbeat) (inner : Inner) :
    Pass :=
  let node := heartbeat.node
  let report := heartbeat.gateway
  let reportChanged := member.gatewayEnabled
    && inner.gatewayReports.lookup member.id ≠ some report
  let state := { inner.state with
    members := inner.state.members.modify member.id (fun member =>
      { member with address := node.address }) fun _ => rfl
    nodes := inner.state.nodes.insert (reportedNode member node) }
  let marked :=
    if reportChanged && report.applied inner.gatewayGeneration then
      markGatewayProgress state clock.unixMs
    else (state, false)
  { inner := { inner with
      state := marked.1
      gatewayReports :=
        if member.gatewayEnabled then inner.gatewayReports.put member.id report
        else inner.gatewayReports.erase member.id
      liveNodes := inner.liveNodes.put member.id clock.instant }
    changed := member.address != node.address || marked.2
    softChanged :=
      if member.gatewayEnabled then reportChanged else inner.gatewayReports.contains member.id }

/-! ## Containers without a task -/

/-- The reports by task id. -/
def reportsById (heartbeat : NodeHeartbeat) : Map String TaskReport :=
  heartbeat.tasks.foldl (fun reports report => Map.put reports report.id report) Table.empty

/-- A container that is gone from the inventory. -/
def forgetUnclaimed (now : Int) (pass : Pass) (task : UnclaimedTask) : Pass :=
  let state := { pass.state with unclaimedTasks := pass.state.unclaimedTasks.erase task.id }
  let marked := markCurrentDeploymentProgress state task.stack now
  (pass.update marked.1 true).forgetProgress task.id

def forgetDisappeared (now : Int) (nodeId : String) (heartbeat : NodeHeartbeat) (pass : Pass) :
    Pass :=
  if heartbeat.taskInventoryError.isNone then
    (pass.state.unclaimedTasks.rows.filter fun task =>
      task.nodeId = nodeId && !(reportsById heartbeat).contains task.id).foldl
        (forgetUnclaimed now) pass
  else pass

/-- A container of this cluster with complete labels. -/
def unclaimedOf (clusterId nodeId : String) (report : TaskReport) : Option UnclaimedTask :=
  if report.clusterId = some clusterId then
    report.stack.bind fun stack => report.service.bind fun service =>
      report.slot.bind fun slot => report.specHash.map fun specHash =>
        { id := report.id, stack, service, slot, revision := report.revision.getD 1, specHash,
          nodeId, observed := report.observed, ports := report.ports,
          configDigests := report.configDigests, containerId := report.containerId }
  else none

/-- One container of the inventory. Containers of unknown jobs are only ever
stopped, never adopted. -/
def recordContainer (clusterId nodeId : String) (pass : Pass) (report : TaskReport) : Pass :=
  let state := pass.state
  if report.job.isSome && !state.tasks.contains report.id then pass
  else if state.tasks.contains report.id then
    pass.update { state with unclaimedTasks := state.unclaimedTasks.erase report.id }
      (state.unclaimedTasks.contains report.id)
  else
    match unclaimedOf clusterId nodeId report with
    | none => pass
    | some unclaimed =>
      if state.unclaimedTasks.get? report.id ≠ some unclaimed then
        pass.update { state with unclaimedTasks := state.unclaimedTasks.insert unclaimed } true
      else pass

def recordContainers (clusterId nodeId : String) (heartbeat : NodeHeartbeat) (pass : Pass) :
    Pass :=
  (reportsById heartbeat).values.foldl (recordContainer clusterId nodeId) pass

/-! ## The tasks of the node -/

/-- What the inventory says about a job execution. -/
def observeJob (report : Option TaskReport) (inventoryOk : Bool) (job : JobExecution)
    (task : TaskRecord) : TaskRecord :=
  match report with
  | some report =>
    { task with
      job := some { job with runtime := report.job }
      reconcileError := none
      observed := report.observed
      containerId := report.containerId }
  | none =>
    if inventoryOk && task.containerId.isSome && !task.observed.isJobTerminal
        && task.observed != .unknown then { task with observed := .unknown }
    else task

/-- The runtime has published every port the task asked for. -/
def portsResolved (task : TaskRecord) (report : TaskReport) : Bool :=
  task.ports.length = report.ports.length
    && task.ports.all fun expected => report.ports.any fun actual =>
      actual.target = expected.target && actual.protocol = expected.protocol
        && actual.published.isSome

/-- Whether a container was there and could disappear. -/
def hadContainer (task : TaskRecord) : Bool :=
  task.observed = .starting || task.observed = .running || task.observed = .healthy

/-- What the inventory says about a replica. -/
def observeReplica (report : Option TaskReport) (inventoryOk : Bool) (task : TaskRecord) :
    TaskRecord :=
  match report with
  | some report =>
    { task with
      imageId := report.imageId
      observed := report.observed
      containerId := report.containerId
      ports := if portsResolved task report then report.ports else task.ports
      configDigests := if task.configDigests.isEmpty then report.configDigests
        else task.configDigests }
  | none =>
    if inventoryOk && task.desired != .stopped && hadContainer task then
      { task with observed := .failed }
    else task

def observeTask (nodeId : String) (reports : Map String TaskReport) (inventoryOk : Bool)
    (task : TaskRecord) : TaskRecord :=
  if task.nodeId = nodeId then
    match task.job with
    | some job => observeJob (reports.lookup task.id) inventoryOk job task
    | none => observeReplica (reports.lookup task.id) inventoryOk task
  else task

variable (now : Int) (report : TaskReconcileReport) (op : ServiceOperationRecord)
  (nodeId : String)

theorem observeTask_identity (reports : Map String TaskReport)
    (inventoryOk : Bool) (task : TaskRecord) :
    (observeTask nodeId reports inventoryOk task).identity = task.identity := by
  unfold observeTask
  split
  · split
    next job hjob =>
      unfold observeJob
      split
      · simp [TaskRecord.identity, hjob, JobExecution.forgetRuntime]
      · split <;> rfl
    · unfold observeReplica
      split
      · rfl
      · split <;> rfl
  · rfl

theorem observeTask_id (reports : Map String TaskReport) (inventoryOk : Bool) (task : TaskRecord) :
    (observeTask nodeId reports inventoryOk task).id = task.id :=
  congrArg (·.id) (observeTask_identity nodeId reports inventoryOk task)

/-- A change of the record that has to be stored: anything about a job, ports and
config digests of a replica. -/
def durablyObserved (task task' : TaskRecord) : Bool :=
  if task.job.isSome then task' != task
  else task'.ports != task.ports || task'.configDigests != task.configDigests

def softlyObserved (task task' : TaskRecord) : Bool :=
  task.job.isNone && (task'.imageId != task.imageId || task'.observed != task.observed
    || task'.containerId != task.containerId)

/-- A running replica whose container failed or vanished, with the message. -/
def observedFailure (nodeId : String) (reports : Map String TaskReport) (inventoryOk : Bool)
    (task : TaskRecord) : Option (String × String) :=
  if task.nodeId = nodeId && task.job.isNone then
    match reports.lookup task.id with
    | some report =>
      if task.desired = .running && report.observed = .failed then
        some (task.id, "container reported failed")
      else none
    | none =>
      if inventoryOk && task.desired != .stopped && hadContainer task then
        some (task.id, "container disappeared from the runtime")
      else none
  else none

/-- A stopped replica whose container is gone. -/
def removedTask (nodeId : String) (reports : Map String TaskReport) (inventoryOk : Bool)
    (task : TaskRecord) : Bool :=
  task.nodeId = nodeId && task.job.isNone && inventoryOk && task.desired = .stopped
    && !reports.contains task.id

def observeTasks (nodeId : String) (heartbeat : NodeHeartbeat) (pass : Pass) : Pass :=
  let observe := observeTask nodeId (reportsById heartbeat) heartbeat.taskInventoryError.isNone
  let tasks := pass.state.tasks
  pass.update
    (pass.state.withTasks (tasks.map observe
      (observeTask_id nodeId (reportsById heartbeat) heartbeat.taskInventoryError.isNone)))
    (tasks.rows.any fun task => durablyObserved task (observe task))
    (tasks.rows.any fun task => softlyObserved task (observe task))

/-! ## Results and progress -/

/-- The stack and generation a report of this node about a task belongs to. -/
def taskDeploymentTarget (state : ClusterState) (taskId nodeId : String) :
    Option (String × Nat) :=
  let stackName : Option String :=
    match state.tasks.get? taskId with
    | some task =>
      if task.nodeId != nodeId then none
      else (state.services.get? task.serviceId).map ServiceRecord.stack
    | none =>
      ((state.unclaimedTasks.get? taskId).filter fun task => task.nodeId = nodeId).map
        UnclaimedTask.stack
  stackName.bind fun name =>
    (stackDeployment state name).map fun deployment => (name, deployment.generation)

def taskDeploymentGeneration (state : ClusterState) (taskId : String) : Option Nat :=
  let stackName : Option String :=
    match state.tasks.get? taskId with
    | some task => (state.services.get? task.serviceId).map ServiceRecord.stack
    | none => (state.unclaimedTasks.get? taskId).map UnclaimedTask.stack
  stackName.bind fun name =>
    (stackDeployment state name).map StackDeploymentRecord.generation

def applyTaskProgress (nodeId : String) (pass : Pass) (progress : TaskReconcileProgress) : Pass :=
  match taskDeploymentTarget pass.state progress.taskId nodeId with
  | none => pass
  | some (stackName, generation) =>
    if progress.desiredGeneration ≠ generation then pass
    else
      let key := toLex (progress.taskId, progress.phase.rank)
      if pass.inner.taskProgress.lookup key = some progress then pass
      else
        let marked := markDeploymentProgress pass.state stackName generation
          progress.updatedAtUnixMs
        let pass := pass.update marked.1 marked.2 true
        { pass with inner := { pass.inner with
          taskProgress := pass.inner.taskProgress.put key progress } }

/-- The restart this result is about. -/
def restartOf (nodeId : String) (report : TaskReconcileReport) (op : ServiceOperationRecord) :
    Bool :=
  op.view.status.active && op.view.kind = .restart && op.generation = report.desiredGeneration
    && op.tasks.any fun target => target.taskId = report.taskId && target.nodeId = nodeId
      && target.deadlineUnixMs.isSome && !target.completed

def restartErrorCode (message : String) : String :=
  if Text.contains "restart_outcome_unknown" message then "restart_outcome_unknown"
  else "restart_failed"

/-- The first target of the task is not restarted yet. -/
def awaitsRestart (report : TaskReconcileReport) (op : ServiceOperationRecord) : Bool :=
  report.appliedGeneration = some op.generation
    && (op.tasks.find? fun target => target.taskId = report.taskId).any fun target =>
      !target.restarted

/-- The operation after the result of a restart. -/
def recordRestart (now : Int) (report : TaskReconcileReport) (op : ServiceOperationRecord) :
    ServiceOperationRecord :=
  match report.error with
  | some message =>
    let failed := op.fail (restartErrorCode message) now
    { failed with view := { failed.view with revision := failed.view.revision + 1 } }
  | none =>
    if awaitsRestart report op then
      { op with
        tasks := updateFirst (fun target => target.taskId = report.taskId)
          (fun target => { target with restarted := true }) op.tasks
        view := { op.view with revision := op.view.revision + 1 } }
    else op

theorem recordRestart_kept : OperationKept op (recordRestart now report op) := by
  unfold recordRestart
  split
  · exact ⟨rfl, rfl, rfl, rfl, rfl, rfl, fun h => h, fun h => nomatch h⟩
  split
  · exact ⟨rfl, rfl, rfl, rfl, rfl, rfl, fun h => h, fun h => h⟩
  · exact OperationKept.refl op

theorem recordRestart_id : (recordRestart now report op).operationId = op.operationId :=
  (recordRestart_kept now report op).id

/-- An error of a job execution that has no container. -/
def failExecution (report : TaskReconcileReport) (message : String) (task : TaskRecord) :
    TaskRecord :=
  { task with observed := .unknown, reconcileError := some ⟨report.phase, message⟩ }

theorem failExecution_id (message : String) (task : TaskRecord) :
    (failExecution report message task).id = task.id := rfl

/-- One task result: for a restart, for a job execution, or for a deployment. The
second component collects the tasks just restarted. -/
def recordTaskResult (now : Int) (nodeId : String) (reports : Map String TaskReport)
    (acc : Pass × List String) (report : TaskReconcileReport) : Pass × List String :=
  let pass := acc.1
  let state := pass.state
  match state.serviceOperations.rows.find? (restartOf nodeId report) with
  | some op =>
    let operations := state.serviceOperations.modify op.operationId (recordRestart now report)
      (recordRestart_id now report)
    (pass.update { state with serviceOperations := operations } (recordRestart now report op != op),
      if report.error.isNone && awaitsRestart report op then acc.2 ++ [report.taskId] else acc.2)
  | none =>
    match (state.tasks.get? report.taskId).filter fun task =>
        task.nodeId = nodeId && task.job.isSome with
    | some task =>
      match report.error with
      | some message =>
        if !reports.contains report.taskId && !task.observed.isJobTerminal then
          (pass.update (state.withTasks (state.tasks.modify report.taskId
            (failExecution report message) (failExecution_id report message))) true, acc.2)
        else acc
      | none => acc
    | none =>
      let pass := applyTaskProgress nodeId pass
        { taskId := report.taskId
          desiredGeneration := report.desiredGeneration
          phase := if report.error.isNone then .verify else report.phase
          updatedAtUnixMs := now }
      let result := applyTaskResult now pass.state nodeId report
      (pass.update result.1 result.2.2 result.2.1, acc.2)

/-- The inventory may be older than the restart: health has to be reported again. -/
def showStarting (task : TaskRecord) : TaskRecord := { task with observed := .starting }

theorem showStarting_id (task : TaskRecord) : (showStarting task).id = task.id := rfl

def restartedTask (pass : Pass) (taskId : String) : Pass :=
  pass.withState (pass.state.withTasks
    (pass.state.tasks.modify taskId showStarting showStarting_id))

def recordTaskResults (now : Int) (nodeId : String) (heartbeat : NodeHeartbeat) (pass : Pass) :
    Pass :=
  let recorded := heartbeat.taskResults.foldl
    (recordTaskResult now nodeId (reportsById heartbeat)) (pass, [])
  recorded.2.foldl restartedTask recorded.1

/-! ## Images -/

def recordImageProgress (nodeId : String) (pass : Pass) (progress : ImageResolutionProgress) :
    Pass :=
  let applied := applyImageProgress pass.state nodeId progress
  let marked := markProgressForGeneration applied.1 progress.deploymentGeneration
    progress.updatedAtUnixMs
  pass.update marked.1 (applied.2 || marked.2)

/-- The redeploy that prepares this image on the node. -/
def preparationOf (nodeId : String) (report : ImageResolutionReport)
    (op : ServiceOperationRecord) : Bool :=
  op.view.kind = .pullRedeploy && op.generation = report.deploymentGeneration
    && op.image = report.image && op.preparingNodes.contains nodeId

/-- The image id a successful preparation reports. -/
def preparedImageId (report : ImageResolutionReport) (op : ServiceOperationRecord) :
    Option String :=
  report.resolvedImageId.filter fun id =>
    !id.isEmpty && Text.byteLength id ≤ 256 && !id.toList.any Text.isControl
      && report.error.isNone
      && report.services.map ImageResolutionServiceReport.serviceId = [op.view.service]

def recordPreparation (now : Int) (nodeId : String) (report : ImageResolutionReport)
    (op : ServiceOperationRecord) : ServiceOperationRecord :=
  if op.preparedImages.contains nodeId then op
  else
    let recorded :=
      match preparedImageId report op with
      | some imageId => { op with preparedImages := op.preparedImages.put nodeId imageId }
      | none =>
        if op.view.deploymentGeneration.isNone then op.fail "image_pull_failed" now
        else
          { op with view := { op.view with
            blocked := true
            error := some "node_image_preparation_failed" } }
    { recorded with
      view := { recorded.view with revision := recorded.view.revision + 1 }
      updatedAtUnixMs := now }

theorem recordPreparation_kept (report : ImageResolutionReport)
    (op : ServiceOperationRecord) : OperationKept op (recordPreparation now nodeId report op) := by
  unfold recordPreparation
  split
  · exact OperationKept.refl op
  dsimp only
  split
  · exact ⟨rfl, rfl, rfl, rfl, rfl, rfl, fun h => h, fun h => h⟩
  split
  · exact ⟨rfl, rfl, rfl, rfl, rfl, rfl, fun h => h, fun h => nomatch h⟩
  · exact ⟨rfl, rfl, rfl, rfl, rfl, rfl, fun h => h, fun h => h⟩

theorem recordPreparation_id (report : ImageResolutionReport) (op : ServiceOperationRecord) :
    (recordPreparation now nodeId report op).operationId = op.operationId :=
  (recordPreparation_kept now nodeId report op).id

def recordImageResult (now : Int) (nodeId : String) (pass : Pass)
    (report : ImageResolutionReport) : Pass :=
  let state := pass.state
  match state.serviceOperations.rows.find? (preparationOf nodeId report) with
  | some op =>
    let operations := state.serviceOperations.modify op.operationId
      (recordPreparation now nodeId report) (recordPreparation_id now nodeId report)
    pass.update { state with serviceOperations := operations }
      (!op.preparedImages.contains nodeId)
  | none =>
    let applied := applyImageResolutionReport now state nodeId report
    if applied.2 then
      let marked := markProgressForGeneration applied.1 report.deploymentGeneration now
      pass.update marked.1 true
    else pass.update applied.1 false

def recordProgressReport (nodeId : String) (pass : Pass) (progress : TaskReconcileProgress) :
    Pass :=
  if (pass.state.tasks.get? progress.taskId).any fun task => task.job.isSome then pass
  else applyTaskProgress nodeId pass progress

/-! ## Failures and removals -/

/-- A failure the agent did not report itself becomes a failed result. -/
def recordFailure (now : Int) (nodeId : String) (heartbeat : NodeHeartbeat) (pass : Pass)
    (failure : String × String) : Pass :=
  if heartbeat.taskResults.any fun report => report.error.isSome && report.taskId = failure.1 then
    pass
  else
    match taskDeploymentGeneration pass.state failure.1 with
    | none => pass
    | some desiredGeneration =>
      let result := applyTaskResult now pass.state nodeId
        { taskId := failure.1
          desiredGeneration
          appliedGeneration := none
          phase := .verify
          error := some failure.2 }
      pass.update result.1 result.2.2 result.2.1

def removeTask (pass : Pass) (taskId : String) : Pass :=
  (pass.update (pass.state.withTasks (pass.state.tasks.erase taskId)) true).forgetProgress taskId

/-! ## Recording a heartbeat -/

/-- Everything the node says is recorded; no decision is taken. -/
def record (clusterId : String) (clock : Clock) (nodeId : String) (heartbeat : NodeHeartbeat)
    (pass : Pass) : Pass :=
  let now := clock.unixMs
  let reports := reportsById heartbeat
  let inventoryOk := heartbeat.taskInventoryError.isNone
  let pass := forgetDisappeared now nodeId heartbeat pass
  let pass := recordContainers clusterId nodeId heartbeat pass
  let failures := pass.state.tasks.rows.filterMap (observedFailure nodeId reports inventoryOk)
  let removed := (pass.state.tasks.rows.filter (removedTask nodeId reports inventoryOk)).map
    TaskRecord.id
  let pass := observeTasks nodeId heartbeat pass
  let pass := recordTaskResults now nodeId heartbeat pass
  let pass := heartbeat.imageProgress.foldl (recordImageProgress nodeId) pass
  let pass := heartbeat.imageResults.foldl (recordImageResult now nodeId) pass
  let pass := heartbeat.taskProgress.foldl (recordProgressReport nodeId) pass
  let pass := failures.foldl (recordFailure now nodeId heartbeat) pass
  removed.foldl removeTask pass

end Swarmlite
