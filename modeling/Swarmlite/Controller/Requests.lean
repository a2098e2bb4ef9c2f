import Swarmlite.Controller.Apply

/-!
# Requests — `controller/deployment.rs`, `service_operations.rs`, `nodes.rs`, …

The API operations other than the heartbeat. Those that change a stack do it in
phases, between which the controller's lock is free: first the target is looked
up, then the stack is reserved and its current form read, and only then
`applyGuarded` runs on what was read. `Request` is such an operation under way.

All others take the lock once and are functions from server to server. An error
means that nothing changed.

Mirroring notes:
- The answers read back what was stored and are left out.
- `deploy_principal` (who sent the request) and the field-by-field validation of
  `update_cluster_config` are inputs: a principal, and the new settings.
-/

namespace Swarmlite

open Ordered Loop

/-! ## Requests in phases -/

/-- A stack operation between two acquisitions of the lock. -/
inductive Request where
  /-- The service is resolved, the stack not reserved yet. -/
  | scale (service : ServiceRecord) (replicas : Nat)
  | forceUpdate (service : ServiceRecord)
  | remove (stackName : String)
  | prepared (service : ServiceRecord) (operationId : String) (parsed : ParsedStack)
  /-- The stack is reserved and the request built. -/
  | guarded (request : ApplyRequest)

/-- The stack a request has reserved, which `deploying_stacks` records. -/
def Request.reserved : Request → Option String
  | .guarded request => some request.stackName
  | _ => none

def jobTargetError : ControllerError :=
  .invalid "scheduled jobs cannot be scaled or restarted; edit and deploy the schedule"

def resolveScalable (state : ClusterState) (target operation : String) :
    Except ControllerError ServiceRecord := do
  let service ← resolveService state target operation
  ensure service.spec.job.isNone jobTargetError
  return service

def scaleService (state : ClusterState) (target : String) (replicas : Nat) :
    Except ControllerError Request := do
  let service ← resolveScalable state target "scale"
  return .scale service replicas

def forceUpdateService (state : ClusterState) (target : String) :
    Except ControllerError Request := do
  let service ← resolveScalable state target "restart"
  return .forceUpdate service

def removeStack (state : ClusterState) (stackName : String) : Except ControllerError Request := do
  checkStackName stackName
  requireStack state stackName "rm"
  return .remove stackName

/-- The first half of `apply_prepared_service_operation`. -/
def prepareOperation (state : ClusterState) (operationId target : String) :
    Except ControllerError Request := do
  let service ← resolveService state target "restart --pull"
  match state.serviceOperations.get? operationId with
  | none => .error (.notFound "operation not found")
  | some op =>
    ensure (op.view.status.active && op.view.deploymentGeneration.isNone
        && op.targetRevision = service.revision + 1 && op.image = service.spec.image)
      (.conflict "operation configuration changed")
    let parsed ← currentStack state service.stack
    return .prepared service operationId parsed

/-- The replica count of one service of a parsed stack is replaced. -/
def ParsedStack.scale (parsed : ParsedStack) (name : String) (replicas : Nat) :
    Except ControllerError ParsedStack :=
  if parsed.services.contains name then
    .ok { parsed with services := parsed.services.modifyValue name fun spec => { spec with replicas } }
  else .error (.panicked "resolved service must be present")

/-- A request takes its stack's reservation and reads the stack. -/
def Request.guard (state : ClusterState) : Request → Except ControllerError ApplyRequest
  | .scale service replicas => do
    let parsed ← currentStack state service.stack
    let parsed ← parsed.scale service.name replicas
    return { stackName := service.stack, parsed, policy := .preserve service.name,
             replace := false }
  | .forceUpdate service => do
    let parsed ← currentStack state service.stack
    return { stackName := service.stack, parsed, policy := .force service.name, replace := false }
  | .remove stackName =>
    .ok { stackName, parsed := {}, policy := .detectChanges, replace := false }
  | .prepared service operationId parsed =>
    .ok { stackName := service.stack, parsed, policy := .prepared service.name operationId,
          replace := false }
  | .guarded request => .ok request

/-- A stack file sent by a client. -/
def applyWithRegistryCredentials (stackName : String) (parsed : ParsedStack)
    (credentials : Map String RegistryCredential) (replace : Bool) :
    Except ControllerError ApplyRequest := do
  checkStackName stackName
  return { stackName, parsed, policy := .detectChanges, credentials, replace }

def rollbackSnapshot (stack : StackRecord) (generation : Option Nat) :
    Except ControllerError StackDeploymentSnapshot :=
  match generation with
  | some generation =>
    match (stack.deployment.filter fun deployment => deployment.generation = generation).or
        (stack.deploymentHistory.get? generation) with
    | some deployment => .ok deployment.snapshot
    | none =>
      .error (.notFound ("deployment generation " ++ toString generation ++ " for stack "
        ++ Text.quoted stack.name ++ " not found"))
  | none =>
    match stack.deploymentHistory.rows.reverse.find? fun deployment =>
        deployment.status = .healthy with
    | some deployment => .ok deployment.snapshot
    | none =>
      .error (.notFound ("stack " ++ Text.quoted stack.name
        ++ " has no previous healthy deployment"))

def rollbackStack (state : ClusterState) (stackName : String) (generation : Option Nat) :
    Except ControllerError ApplyRequest := do
  checkStackName stackName
  match state.stackRecords.get? stackName with
  | none => .error (stackNotFound stackName)
  | some stack =>
    let snapshot ← rollbackSnapshot stack generation
    return { stackName, parsed := { services := snapshot.services, gateway := snapshot.gateway },
             policy := .detectChanges, replace := true }

/-! ## Retrying a deployment -/

def retryResolutionNode (node : DeploymentImageResolutionNodeRecord) :
    DeploymentImageResolutionNodeRecord :=
  if node.status = .failed then { node with status := .checking, error := none } else node

def retryResolution (resolution : DeploymentImageResolutionRecord) :
    DeploymentImageResolutionRecord :=
  { resolution with
    status := if resolution.status = .failed then .checking else resolution.status
    nodes := resolution.nodes.mapValues fun _ node => retryResolutionNode node }

theorem retryResolution_serviceId (resolution : DeploymentImageResolutionRecord) :
    (retryResolution resolution).serviceId = resolution.serviceId := rfl

def retryDeployment (now : Int) (deployment : StackDeploymentRecord) : StackDeploymentRecord :=
  { deployment with
    retryRevision := deployment.retryRevision + 1
    status := .reconciling
    lastProgressAtUnixMs := now
    finishedAtUnixMs := none
    errors := []
    conditions := deployment.conditions.map fun condition =>
      if condition.resolvedAtUnixMs.isNone then { condition with resolvedAtUnixMs := some now }
      else condition
    imageResolutions := deployment.imageResolutions.map retryResolution
      retryResolution_serviceId }

/-- A failed operation of the deployment runs again. -/
def reviveOperation (stackName : String) (generation : Nat) (now : Int)
    (op : ServiceOperationRecord) : ServiceOperationRecord :=
  if op.stack = stackName && op.view.deploymentGeneration = some generation
      && op.view.status = .failed then
    { op with
      view := { op.view with
        status := .running
        error := none
        blocked := false
        stalled := false
        revision := op.view.revision + 1 }
      finishedAtUnixMs := none
      updatedAtUnixMs := now }
  else op

theorem reviveOperation_id (stackName : String) (gen : Nat) (now : Int)
    (op : ServiceOperationRecord) :
    (reviveOperation stackName gen now op).operationId = op.operationId := by
  unfold reviveOperation
  split <;> rfl

/-- A task with an error starts over. -/
def retryTask (services : List String) (task : TaskRecord) : TaskRecord :=
  if services.contains task.serviceId && task.reconcileError.isSome then
    { task with reconcileError := none, appliedGeneration := none, observed := .pending }
  else task

theorem retryTask_id (services : List String) (task : TaskRecord) :
    (retryTask services task).id = task.id := by
  unfold retryTask
  split <;> rfl

/-- The state a retry of this deployment of the stack commits. -/
def retriedState (state : ClusterState) (stack : StackRecord) (generation : Nat) (now : Int) :
    ClusterState :=
  let retried := modifyDeployment state stack.name (retryDeployment now)
  { retried with
    serviceOperations := state.serviceOperations.map (reviveOperation stack.name generation now)
      (reviveOperation_id stack.name generation now)
    tasks := state.tasks.map (retryTask stack.services) (retryTask_id stack.services) }

def retryStatusName : StackDeploymentStatus → String
  | .reconciling => "Reconciling"
  | .stalled => "Stalled"
  | .blocked => "Blocked"
  | .healthy => "Healthy"
  | .failed => "Failed"
  | .superseded => "Superseded"

def retryStack (state : ClusterState) (stackName : String) (now : Int) :
    Except ControllerError ClusterState := do
  ensure (!state.serviceOperations.rows.any fun op => op.stack = stackName
      && op.view.status.active && op.view.deploymentGeneration.isNone)
    (.conflict "stack has an active service operation")
  match state.stackRecords.get? stackName with
  | none => .error (stackNotFound stackName)
  | some stack =>
    match stack.deployment with
    | none =>
      .error (.notFound ("stack " ++ Text.quoted stackName ++ " has no deployment to retry"))
    | some deployment =>
      ensure (deployment.status = .stalled || deployment.status = .blocked
          || deployment.status = .failed)
        (.conflict ("deployment " ++ toString deployment.generation ++ " for stack "
          ++ Text.quoted stackName ++ " is " ++ retryStatusName deployment.status
          ++ " and cannot be retried"))
      ensure (deployment.retryRevision + 1 ≤ 18446744073709551615)
        (.invalid "deployment retry revision overflow")
      return retriedState state stack deployment.generation now

/-! ## Submitting an operation -/

inductive Principal where
  | admin
  | deploy (tokenId serviceId : String)
deriving DecidableEq

def Principal.id : Principal → String
  | .admin => "admin"
  | .deploy tokenId _ => tokenId

/-- A deploy token is good for redeploying its own service. -/
def Principal.mayTarget (principal : Principal) (target : String) (kind : ServiceOperationKind) :
    Bool :=
  match principal with
  | .admin => true
  | .deploy _ serviceId => serviceId = target && kind = .pullRedeploy

structure OperationRequest where
  principal : Principal
  target : String
  kind : ServiceOperationKind
  key : String
  source : Map String String

def validIdempotencyKey (key : String) : Bool :=
  !key.isEmpty && Text.byteLength key ≤ 256 && key.toList.all fun c => '!' ≤ c && c ≤ '~'

/-- The target an operation keeps for one task, if the task can be operated on. -/
def restartTarget (state : ClusterState) (live : Keys String) (service : ServiceRecord)
    (task : TaskRecord) : Except ControllerError RestartTarget :=
  if task.revision != service.revision || !live.contains task.nodeId
      || !(state.nodes.get? task.nodeId).any NodeRecord.supportsServiceOperations then
    .error (.conflict "agent is unavailable or does not support service operations")
  else
    match task.containerId with
    | none => .error (.conflict "task has no observed container")
    | some containerId =>
      match task.imageId with
      | none => .error (.conflict "task has no observed image ID; wait for a heartbeat")
      | some imageId =>
        .ok { taskId := task.id, nodeId := task.nodeId, containerId, imageId,
              restarted := false, completed := false, deadlineUnixMs := none }

/-- The stack is busy with an operation or a deployment. -/
def stackBusy (state : ClusterState) (stackName : String) : Bool :=
  (state.serviceOperations.rows.any fun op => op.stack = stackName && op.view.status.active)
    || (stackDeployment state stackName).any fun deployment => deployment.status.isActive

/-- The target that is hashed: an accepted request can be sent again after its service was
removed. -/
def canonicalTarget (state : ClusterState) (target : String) : String :=
  match resolveService state target "restart" with
  | .ok service => service.id
  | .error _ => target

/-- The record of an accepted operation. -/
def newOperation (platform : Platform) (env : Env) (inner : Inner) (request : OperationRequest)
    (service : ServiceRecord) (tasks : List RestartTarget) (preparingNodes : Keys String) :
    ServiceOperationRecord :=
  { view := {
      operationId := "op_" ++ env.uuid 0
      service := service.id
      kind := request.kind
      status := .queued
      phase := if request.kind = .restart then "restarting" else "pulling"
      revision := 1
      deploymentGeneration := none
      completedTasks := 0
      totalTasks := tasks.length
      stalled := false
      blocked := false
      error := none }
    principalId := request.principal.id
    idempotencyKey := request.key
    requestHash := platform.requestHash request.kind service.id request.source
    stack := service.stack
    generation := inner.generation + 1
    targetRevision :=
      if request.kind = .pullRedeploy then service.revision + 1 else service.revision
    image := service.spec.image
    createdAtUnixMs := env.now.unixMs
    updatedAtUnixMs := env.now.unixMs
    finishedAtUnixMs := none
    source := request.source
    tasks
    preparingNodes
    preparedImages := Table.empty }

/-- Acceptance of a new operation. -/
def acceptOperation (platform : Platform) (config : ControllerConfig) (env : Env) (inner : Inner)
    (request : OperationRequest) : Except ControllerError ServiceOperationRecord := do
  let state := inner.state
  let service ← resolveService state request.target "restart"
  ensure (request.principal = .admin || service.id = request.target) .forbidden
  ensure (service.spec.job.isNone && service.spec.replicas != 0)
    (.invalid "operation requires a nonzero, non-job service")
  ensure (!stackBusy state service.stack)
    (.conflict "stack has an active operation or deployment")
  ensure (!state.serviceOperations.rows.any fun op => op.principalId = request.principal.id
      && satI64 (env.now.unixMs - op.createdAtUnixMs) < 1000) .rateLimited
  let live := currentLiveNodes config env.now inner
  let tasks ← (state.tasks.rows.filter fun task =>
      task.serviceId = service.id && task.desired = .running).mapM
    (restartTarget state live service)
  ensure (tasks.length = service.spec.replicas)
    (.conflict "service does not have its expected executable tasks")
  let preparingNodes ←
    if request.kind = .pullRedeploy then candidateNodes state service live
    else .ok Table.empty
  ensure (request.kind != .pullRedeploy || service.revision + 1 ≤ 18446744073709551615)
    (.invalid "service revision overflow")
  return newOperation platform env inner request service tasks preparingNodes

section Locked

variable (platform : Platform) (config : ControllerConfig) (env : Env)

/-- `submit_service_operation`. A key used before returns the earlier operation. -/
def submitServiceOperation (server : Server) (request : OperationRequest) :
    Except ControllerError (Server × ServiceOperation) := do
  ensure (validIdempotencyKey request.key)
    (.invalid "a printable Idempotency-Key of 1 to 256 bytes is required")
  ensure (request.principal.mayTarget request.target request.kind) .forbidden
  let state := server.inner.state
  match state.serviceOperations.rows.find? fun op =>
      op.principalId = request.principal.id && op.idempotencyKey = request.key with
  | some existing =>
    ensure (existing.requestHash = platform.requestHash request.kind
        (canonicalTarget state request.target) request.source) (.conflict "idempotency_key_conflict")
    return (server, existing.view)
  | none =>
    let op ← acceptOperation platform config env server.inner request
    let committed ← commitState platform config env server
      { state with serviceOperations := state.serviceOperations.insert op }
    return (committed, op.view)

def retryStackDeployment (server : Server) (stackName : String) :
    Except ControllerError Server := do
  checkStackName stackName
  let state ← retryStack server.inner.state stackName env.now.unixMs
  commitState platform config env server state

/-- The tail of `start_prepared_service_operation`: the deployment could not start. -/
def failPreparedOperation (server : Server) (operationId : String) :
    Except ControllerError Server :=
  let failed (op : ServiceOperationRecord) : ServiceOperationRecord :=
    let failed := op.fail "deployment_start_failed" env.now.unixMs
    { failed with view := { failed.view with revision := failed.view.revision + 1 } }
  commitState platform config env server
    { server.inner.state with
      serviceOperations := server.inner.state.serviceOperations.modify operationId failed
        fun _ => rfl }

/-- The operation `start_prepared_service_operation` starts, if one is ready. -/
def readyOperation (state : ClusterState) : Option ServiceOperationRecord :=
  state.serviceOperations.rows.find? fun op =>
    op.view.status.active && op.view.kind = .pullRedeploy && op.view.deploymentGeneration.isNone
      && !op.preparingNodes.rows.isEmpty
      && op.preparingNodes.rows.all fun node => op.preparedImages.contains node

/-! ## Nodes -/

structure JoinRequest where
  nodeId : String
  address : String
  gatewayEnabled : Bool
  labels : Map String String

def NodeMember.withAddress (address : String) (member : NodeMember) : NodeMember :=
  { member with address }

def joinNode (server : Server) (nodeId : String) (request : JoinRequest) :
    Except ControllerError Server := do
  match request.labels.rows.findSome? fun entry =>
      match validateNodeLabel entry.1 entry.2 with
      | .error error => some error
      | .ok () => none with
  | some error => .error error
  | none =>
    ensure (nodeId = request.nodeId) (.invalid "node ID in path and request body differ")
    ensure (!(Text.trim request.nodeId).isEmpty && !(Text.trim request.address).isEmpty)
      (.invalid "node ID and address must not be empty")
    ensure (request.nodeId != config.cluster.controllerId)
      (.conflict "the controller node is fixed and cannot join through the agent join API")
    let state := server.inner.state
    match state.members.get? nodeId with
    | some existing =>
      ensure (request.gatewayEnabled = existing.gatewayEnabled)
        (.conflict ("this node is already joined with a different gateway setting; "
          ++ "use `swarmlite gateway enable` or `disable`"))
      ensure (request.labels.rows.isEmpty || request.labels = existing.labels)
        (.conflict ("this node is already joined with different labels; "
          ++ "use `swarmlite node label set` or `remove`"))
      if existing.address = request.address then return server
      else
        commitState platform config env server
          { state with
            members := state.members.modify nodeId (NodeMember.withAddress request.address)
              fun _ => rfl }
    | none =>
      commitState platform config env server
        { state with
          members := state.members.insert {
            id := nodeId
            address := request.address
            gatewayEnabled := request.gatewayEnabled
            labels := request.labels
            joinedAtUnixMs := env.now.unixMs } }

def nodeNotJoined (nodeId : String) : ControllerError :=
  .notFound ("node " ++ nodeId ++ " is not joined")

def updateNodeGateway (server : Server) (nodeId : String) (enabled : Bool) :
    Except ControllerError Server :=
  let state := server.inner.state
  match state.members.get? nodeId with
  | none => .error (nodeNotJoined nodeId)
  | some member =>
    if enabled = member.gatewayEnabled then .ok server
    else
      commitState platform config env server
        { state with
          members := state.members.modify nodeId
            (fun member => { member with gatewayEnabled := enabled }) fun _ => rfl
          nodes := state.nodes.modify nodeId
            (fun node => { node with gatewayEnabled := enabled }) fun _ => rfl }

/-- The labels of a member and of its node record are replaced. -/
def relabel (state : ClusterState) (nodeId : String) (labels : Map String String) :
    ClusterState :=
  { state with
    members := state.members.modify nodeId (fun member => { member with labels }) fun _ => rfl
    nodes := state.nodes.modify nodeId (fun node => { node with labels }) fun _ => rfl }

/-- A label to set, or the key of one to remove. -/
def validateLabelUpdate (key : String) : Option String → Except ControllerError Unit
  | some value => validateNodeLabel key value
  | none => validateNodeLabelKey key

def updatedLabels (labels : Map String String) (key : String) : Option String → Map String String
  | some value => labels.put key value
  | none => labels.erase key

/-- `update_node_label`; no value removes the label. The scheduler runs, the routes
are not refreshed. -/
def updateNodeLabel (server : Server) (nodeId key : String) (value : Option String) :
    Except ControllerError Server := do
  validateLabelUpdate key value
  let state := server.inner.state
  match state.members.get? nodeId with
  | none => .error (nodeNotJoined nodeId)
  | some member =>
    let labels := updatedLabels member.labels key value
    if labels = member.labels then return server
    else
      commitState platform config env server
        (reconcile platform.toExternals env.uuid (currentLiveNodes config env.now server.inner)
          env.now.unixMs (relabel state nodeId labels)).state

/-! ## Jobs -/

def requireJob (service : ServiceRecord) : Except ControllerError Unit :=
  ensure service.spec.job.isSome (.invalid (service.id ++ " is not a job"))

/-- The execution of a manual run: its start window is at most five minutes. -/
def manualExecution (ext : Externals) (service : ServiceRecord) (now : Int) : JobExecution :=
  { runtime := none
    jobId := service.id
    scheduledAtUnixMs := now
    notBeforeUnixMs := now
    startDeadlineUnixMs :=
      min ((service.spec.job.bind fun job => ext.nextAfter job now).getD (now + 300000))
        (now + 300000)
    spec := service.spec }

def runJob (server : Server) (target : String) : Except ControllerError Server := do
  let state := server.inner.state
  let service ← resolveService state target "job run"
  requireJob service
  ensure (!state.tasks.rows.any fun task =>
      task.serviceId = service.id && !task.observed.isJobTerminal)
    (.conflict ("job still has an unfinished execution; cancel it and wait for termination "
      ++ "before running manually"))
  let eligible := Jobs.eligibleNodes state (currentLiveNodes config env.now server.inner)
  match scheduleTask state (Jobs.template service) eligible (env.uuid 0) with
  | none => .error (.conflict "no eligible live Agent for job")
  | some task =>
    commitState platform config env server
      (state.withTasks (state.tasks.insert
        { task with job := some (manualExecution platform.toExternals service env.now.unixMs) }))

def TaskRecord.stop (task : TaskRecord) : TaskRecord := { task with desired := .stopped }

theorem TaskRecord.stop_id (task : TaskRecord) : task.stop.id = task.id := rfl

def cancelJobTask (server : Server) (id : String) : Except ControllerError Server :=
  let state := server.inner.state
  match (state.tasks.get? id).filter fun task => task.job.isSome with
  | none => .error (.notFound ("job task " ++ Text.quoted id ++ " not found"))
  | some _ =>
    commitState platform config env server
      (state.withTasks (state.tasks.modify id TaskRecord.stop TaskRecord.stop_id))

/-! ## Settings -/

def setRegistryCredential (server : Server) (registry : String)
    (credential : RegistryCredential) : Except ControllerError Server :=
  let state := server.inner.state
  if state.registryCredentials.lookup registry = some credential then .ok server
  else
    commitState platform config env server
      { state with registryCredentials := state.registryCredentials.put registry credential }

/-- The end of `update_cluster_config`: the server after the request. A commit that
fails has already moved the generation in the state, and only the settings are put
back. -/
def updateClusterConfig (server : Server) (cluster : ClusterSettings) : Server :=
  if cluster = server.inner.cluster then server
  else
    let inner := { server.inner with cluster }
    match commitLocked platform config env { server with inner } with
    | .ok server => server
    | .error _ =>
      match nextGatewaySnapshot platform config inner with
      | .error _ => server
      | .ok snapshot =>
        { server with
          inner := server.inner.withState
            { server.inner.state with gatewayGeneration := snapshot.1 } }

end Locked

end Swarmlite
