import Swarmlite.Controller.Heartbeat
import Swarmlite.Controller.Requests

/-!
# Passes of the controller — `controller/heartbeat.rs`, `lifecycle.rs`

A pass takes decisions on the recorded state. A heartbeat and a tick go through
the same steps — operations, scheduler, routes, health, operations again — and
differ in two points: only a tick ends drains, and only a heartbeat acknowledges
them. `start` is the beginning of a controller process on a stored state.

Mirroring notes:
- If the health of deployments cannot be judged (a counter is exhausted), the
  source returns without putting the state back. If the commit fails it puts back
  the cluster state, but not the reports and live nodes next to it.
- `start` sets up metrics, the image registry and the key-value store as well.
-/

namespace Swarmlite

open Ordered Loop

section Passes

variable (platform : Platform) (config : ControllerConfig) (env : Env)

/-- Operations advance, drains end (in a tick), the scheduler runs, and the routes
of ready stacks are recomputed. -/
def scheduleAndRoute (endDrains : Bool) (pass : Pass) : Pass :=
  let live := currentLiveNodes config env.now pass.inner
  let advanced := advanceServiceOperations pass.state live env.now.unixMs
  let drained := if endDrains then finishDrains advanced.1 env.now.unixMs else (advanced.1, false)
  let scheduled := reconcile platform.toExternals env.uuid live env.now.unixMs drained.1
  let routed := refreshReadyStackRoutes scheduled.state
  pass.update routed.1 (advanced.2 || drained.2 || scheduled.changed || routed.2)

/-- The health of deployments is judged, and operations that waited for it advance. -/
def judge (refreshAt : Int) (pass : Pass) : Except StorageError Pass :=
  match refreshStackDeploymentsLocked platform config refreshAt pass.inner with
  | .error error => .error error
  | .ok refreshed =>
    let pass := pass.update refreshed.1.state refreshed.2
    let advanced := advanceServiceOperations pass.state (currentLiveNodes config env.later pass.inner)
      env.later.unixMs
    .ok (pass.update advanced.1 advanced.2)

/-- `tick`, up to the start of prepared operations. -/
def tick (server : Server) : Server :=
  let scheduled := scheduleAndRoute platform config env true { inner := server.inner }
  match judge platform config env env.now.unixMs scheduled with
  | .error _ => { server with inner := scheduled.inner }
  | .ok judged =>
    if judged.changed then
      match commitLocked platform config env { server with inner := judged.inner } with
      | .error _ => { server with inner := judged.inner.withState server.inner.state }
      | .ok server => server
    else { server with inner := judged.inner }

/-! ## The answer to a heartbeat -/

/-- The restart a node is asked for; only the current target is executed. -/
def restartAssignment (op : ServiceOperationRecord) (taskId : String) :
    Option RestartAssignment :=
  (op.tasks.find? fun target => target.taskId = taskId).map fun target =>
    { operationId := op.view.operationId
      containerId := target.containerId
      imageId := target.imageId
      deadlineUnixMs := target.deadlineUnixMs.getD 0
      execute := ((op.tasks.find? fun target => !target.completed).any fun current =>
        current.taskId = taskId) && target.deadlineUnixMs.isSome }

/-- The node already holds the image this revision was started for. -/
def imageWasResolvedOnNode (state : ClusterState) (service : ServiceRecord) (task : TaskRecord) :
    Bool :=
  ((stackDeployment state service.stack).bind fun deployment =>
    deployment.imageResolutions.get? service.id).any fun resolution =>
      resolution.status = .changed && resolution.image = service.spec.image
        && resolution.baselineRevision + 1 = task.revision
        && (resolution.nodes.lookup task.nodeId).any fun node =>
          node.status.isComplete && node.resolvedImageId.isSome

/-- A job execution is handed out within its start window, to agents that know jobs. -/
def mayStartJob (state : ClusterState) (nodeId : String) (now : Int) (task : TaskRecord) : Bool :=
  task.job.all fun job =>
    (state.nodes.get? nodeId).any NodeRecord.supportsJobs
      && !(now < job.notBeforeUnixMs || now ≥ job.startDeadlineUnixMs)

def taskAssignment (inner : Inner) (nodeId : String) (task : TaskRecord) : Option TaskAssignment :=
  let state := inner.state
  (state.services.get? task.serviceId).bind fun service =>
    let restartOperation := state.serviceOperations.rows.find? fun op => op.restartingTask task.id
    let pinned := state.serviceOperations.rows.find? fun op =>
      op.view.kind = .pullRedeploy && op.view.service = service.id
        && op.targetRevision = task.revision && op.view.deploymentGeneration.isSome
    let preparedImageId := pinned.bind fun op => op.preparedImages.lookup nodeId
    if pinned.isSome && (preparedImageId.isNone
        || !(state.nodes.get? nodeId).any NodeRecord.supportsServiceOperations) then none
    else if !mayStartJob state nodeId env.later.unixMs task then none
    else
      let deployment := stackDeployment state service.stack
      let spec := task.job.elim service.spec JobExecution.spec
      some {
        restart := restartOperation.bind fun op => restartAssignment op task.id
        preparedImageId
        job := task.job
        id := task.id
        clusterId := config.cluster.clusterId
        stack := service.stack
        service := service.name
        serviceId := task.serviceId
        revision := task.revision
        slot := task.slot
        desired := task.desired
        spec
        ports := task.ports
        generation := inner.generation
        deploymentGeneration := restartOperation.elim
          (deployment.elim 0 StackDeploymentRecord.generation) ServiceOperationRecord.generation
        deploymentRetryRevision := deployment.elim 0 StackDeploymentRecord.retryRevision
        specHash := platform.specHash spec
        imageResolved := imageWasResolvedOnNode state service task }

/-- The open image resolutions of a node, grouped by generation and image. -/
def openResolutions (state : ClusterState) (nodeId : String) :
    Map (Nat ×ₗ String) (Map String (List String)) :=
  (state.stackRecords.rows.filterMap StackRecord.deployment).foldl (fun grouped deployment =>
    if deployment.status.isActive then
      deployment.imageResolutions.rows.foldl (fun grouped resolution =>
        match (resolution.nodes.lookup nodeId).filter fun node => !node.status.isComplete with
        | none => grouped
        | some node =>
          if resolution.status.isComplete then grouped
          else
            let key := toLex (deployment.generation, resolution.image)
            let services := (grouped.lookup key).getD Table.empty
            grouped.put key (services.put resolution.serviceId node.taskIds)) grouped
    else grouped) Table.empty

def imageAssignmentsForNode (state : ClusterState) (nodeId : String) :
    List ImageResolutionAssignment :=
  (openResolutions state nodeId).rows.map fun entry =>
    { deploymentGeneration := (ofLex entry.1).1
      image := (ofLex entry.1).2
      services := entry.2.rows.map fun service =>
        { serviceId := service.1, taskIds := service.2 } }

/-- The images redeploys still need on the node. -/
def preparationAssignments (state : ClusterState) (nodeId : String) :
    List ImageResolutionAssignment :=
  (state.serviceOperations.rows.filter fun op =>
    op.pinsImages state && (state.nodes.get? nodeId).any NodeRecord.supportsServiceOperations
      && op.preparingNodes.contains nodeId && !op.preparedImages.contains nodeId).map fun op =>
    { deploymentGeneration := op.generation
      image := op.image
      services := [{ serviceId := op.view.service, taskIds := [] }] }

/-- Stopped tasks of the node. -/
def taskRemovals (state : ClusterState) (nodeId : String) : List TaskRemovalAssignment :=
  (state.tasks.rows.filter fun task => task.nodeId = nodeId && task.desired = .stopped).filterMap
    fun task => (state.services.get? task.serviceId).map fun service =>
      { retainJobContainer := task.job.isSome && !service.deleted
        id := task.id
        deploymentGeneration := (stackDeployment state service.stack).elim 0
          StackDeploymentRecord.generation }

/-- Unclaimed containers whose replacement is complete. -/
def unclaimedRemovals (inner : Inner) (nodeId : String) : List TaskRemovalAssignment :=
  let gatewayReady := gatewaysApplied inner inner.gatewayGeneration
  inner.state.unclaimedTasks.rows.filterMap fun task =>
    if task.nodeId = nodeId then
      (stackDeployment inner.state task.stack).bind fun deployment =>
        if deploymentReplacementReady inner.state task.stack deployment.generation
            (gatewayReady && tcpStackReady inner task.stack) then
          some { retainJobContainer := false, id := task.id,
                 deploymentGeneration := deployment.generation }
        else none
    else none

/-- Containers of jobs nobody knows. -/
def unknownJobRemovals (state : ClusterState) (heartbeat : NodeHeartbeat) :
    List TaskRemovalAssignment :=
  ((reportsById heartbeat).values.filter fun report =>
    report.job.isSome && !state.tasks.contains report.id).map fun report =>
      { retainJobContainer := false, id := report.id, deploymentGeneration := 0 }

def heartbeatResponse (inner : Inner) (member : NodeMember) (heartbeat : NodeHeartbeat) :
    HeartbeatResponse :=
  let nodeId := member.id
  { generation := inner.generation
    cluster := inner.cluster
    assignments := (inner.state.tasks.rows.filter fun task =>
      task.nodeId = nodeId && (task.desired = .running || task.desired = .draining)).filterMap
        (taskAssignment platform config env inner nodeId)
    imageAssignments :=
      imageAssignmentsForNode inner.state nodeId ++ preparationAssignments inner.state nodeId
    gatewayEnabled := member.gatewayEnabled
    labels := member.labels
    removeTasks := taskRemovals inner.state nodeId ++ unclaimedRemovals inner nodeId
      ++ unknownJobRemovals inner.state heartbeat
    gatewayConfig :=
      if member.gatewayEnabled then
        some { generation := inner.gatewayGeneration, config := inner.gatewayConfig,
               recoverySnapshot := inner.gatewaySnapshot }
      else none
    registryCredentials := inner.state.registryCredentials }

/-! ## The heartbeat -/

/-- The process once the node's reports are recorded and the decisions taken. -/
def heartbeatScheduled (inner : Inner) (member : NodeMember) (heartbeat : NodeHeartbeat) : Pass :=
  scheduleAndRoute platform config env false
    (record config.cluster.clusterId env.now member.id heartbeat
      (admitNode env.now member heartbeat inner))

/-- The end of a heartbeat: drains are acknowledged and the node is answered. -/
def answerHeartbeat (member : NodeMember) (heartbeat : NodeHeartbeat) (server : Server) :
    Server × Except ControllerError HeartbeatResponse :=
  match acknowledgeGatewayDrains config env server with
  | .error error => (server, .error error)
  | .ok server =>
    (server, .ok (heartbeatResponse platform config env server.inner member heartbeat))

def heartbeat (server : Server) (nodeId : String) (heartbeat : NodeHeartbeat) :
    Server × Except ControllerError HeartbeatResponse :=
  if nodeId ≠ heartbeat.node.id then
    (server, .error (.invalid "node ID in path and request body differ"))
  else
    match server.inner.state.members.get? nodeId with
    | none => (server, .error (.invalid "node must join before sending heartbeats"))
    | some member =>
      let scheduled := heartbeatScheduled platform config env server.inner member heartbeat
      match judge platform config env env.later.unixMs scheduled with
      | .error error => ({ server with inner := scheduled.inner }, .error (.ofStorage error))
      | .ok judged =>
        if judged.changed then
          match commitLocked platform config env { server with inner := judged.inner } with
          | .error error =>
            ({ server with inner := judged.inner.withState server.inner.state },
              .error (.ofStorage error))
          | .ok server => answerHeartbeat platform config env member heartbeat server
        else
          match refreshGatewaySnapshot platform config judged.inner with
          | .error error => ({ server with inner := judged.inner }, .error (.ofStorage error))
          | .ok inner =>
            answerHeartbeat platform config env member heartbeat
              { server with inner := if judged.softChanged then inner.notifyStatus else inner }

/-! ## Starting -/

/-- A new database. -/
def initialDisk : VersionedState :=
  { generation := 1, cluster := config.cluster, state := {} }

/-- A new database made from the snapshot a gateway kept. -/
def recoveredDisk (snapshot : GatewayRecoverySnapshot) : VersionedState :=
  { generation := 1
    cluster := config.cluster
    state := { gatewayRoutes := snapshot.stackRoutes, gatewayGeneration := snapshot.generation } }

/-- A draining task has to be acknowledged again after a restart. -/
def forgetDrainDeadline (task : TaskRecord) : TaskRecord :=
  if task.desired = .draining then { task with drainUntilUnixMs := none } else task

theorem forgetDrainDeadline_id (task : TaskRecord) : (forgetDrainDeadline task).id = task.id := by
  unfold forgetDrainDeadline
  split <;> rfl

/-- The controller's own member. -/
def controllerMember (members : Table NodeMember.id) : NodeMember :=
  let existing := members.get? config.cluster.controllerId
  { id := config.cluster.controllerId
    address := platform.advertisedHost config.advertiseUrl
    gatewayEnabled := existing.elim config.gatewayEnabled NodeMember.gatewayEnabled
    labels := existing.elim config.labels NodeMember.labels
    joinedAtUnixMs := existing.elim env.now.unixMs NodeMember.joinedAtUnixMs }

/-- The generation the gateways start from. -/
def startGatewayGeneration (disk : VersionedState) (imageChanged : Bool) :
    Except StorageError Nat :=
  if disk.state.gatewayGeneration = 0 then .ok (max disk.generation 1)
  else if imageChanged then
    if disk.state.gatewayGeneration + 1 > 18446744073709551615 then
      .error (.backend "gateway generation overflow")
    else .ok (disk.state.gatewayGeneration + 1)
  else .ok disk.state.gatewayGeneration

/-- The loaded state with what a new process has to renew. -/
def startState (state : ClusterState) (gatewayGeneration : Nat) : ClusterState :=
  let undrained := state.withTasks (state.tasks.map forgetDrainDeadline forgetDrainDeadline_id)
  let skipped := (Jobs.skipMissed platform.toExternals undrained env.now.unixMs).1
  { skipped with
    gatewayGeneration
    members := state.members.insert (controllerMember platform config env state.members) }

/-- Whether starting changed anything that is stored. -/
def startChanged (state : ClusterState) (imageChanged : Bool) : Bool :=
  imageChanged || state.gatewayGeneration = 0
    || (state.tasks.rows.any fun task =>
      task.desired = .draining && task.drainUntilUnixMs.isSome)
    || (Jobs.skipMissed platform.toExternals state env.now.unixMs).2
    || state.members.get? config.cluster.controllerId
      ≠ some (controllerMember platform config env state.members)

/-- A process on a stored state. -/
def serve (disk : VersionedState) (state : ClusterState) (cluster : ClusterSettings)
    (gatewayGeneration : Nat) : Inner :=
  { generation := disk.generation
    statusRevision := disk.generation
    cluster
    state
    liveNodes := state.tasks.rows.foldl
      (fun nodes task => Map.put nodes task.nodeId env.now.instant) Table.empty
    gatewayGeneration
    gatewayConfig := configWithDeployment state.gatewayRoutes cluster.gateway config.advertiseUrl
      (platform.deployAddress config.advertiseUrl config.deployPort)
    gatewaySnapshot := GatewayRecoverySnapshot.new cluster.clusterId gatewayGeneration
      state.gatewayRoutes
    gatewayReports := Table.empty
    taskProgress := Table.empty }

/-- `Controller::new`. -/
def start (disk : VersionedState) : Except StorageError Server :=
  if !sameClusterIdentity disk.cluster config.cluster then
    .error (.invalidData
      "persisted SQLite document belongs to a different or unsupported cluster")
  else
    let image := refreshManagedGatewayImage platform.defaultGatewayImage disk.cluster.gateway
    let cluster := { disk.cluster with gateway := image.1 }
    match startGatewayGeneration disk image.2 with
    | .error error => .error error
    | .ok gatewayGeneration =>
      let state := startState platform config env disk.state gatewayGeneration
      if startChanged platform config env disk.state image.2 then
        match replace config env disk disk.generation cluster state with
        | .error error => .error error
        | .ok disk =>
          .ok { inner := serve platform config env disk state cluster gatewayGeneration, disk }
      else .ok { inner := serve platform config env disk state cluster gatewayGeneration, disk }

end Passes

end Swarmlite
