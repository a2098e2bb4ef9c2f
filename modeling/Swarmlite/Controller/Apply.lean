import Swarmlite.Controller.Recovery
import Swarmlite.Controller.Runtime

/-!
# Applying a stack — `controller/deployment.rs`, `apply_guarded`

Every change of a stack — apply, scale, restart of a service, rollback and
removal — ends in `applyGuarded` with a parsed stack and a `RevisionPolicy`. It
rewrites the service records and the stack record, adopts matching containers,
runs the scheduler and recomputes the routes of this one stack; either all of it
is committed or nothing changes.

The work before the scheduler is `applyDesired`, so that what an apply asks for
can be told from what the scheduler makes of it.

Mirroring notes:
- `deployment_response`, the report returned to the client, reads the committed
  state and is left out.
- In the planning loop the record in `previous` and the one being rewritten
  differ only in `deleted`, which was set from the request before the loop.
-/

namespace Swarmlite

open Ordered Loop

/-! ## Plans -/

inductive RevisionPolicy where
  | detectChanges
  | force (target : String)
  | prepared (target operationId : String)
  | preserve (target : String)
deriving DecidableEq

namespace RevisionPolicy

def forces : RevisionPolicy → String → Bool
  | .force target, service => target = service
  | .prepared target _, service => target = service
  | _, _ => false

def preserves : RevisionPolicy → String → Bool
  | .preserve target, service => target = service
  | _, _ => false

def refreshesImages : RevisionPolicy → Bool
  | .detectChanges => true
  | _ => false

/-- The operation whose deployment this is. -/
def ownedOperation : RevisionPolicy → Option String
  | .prepared _ operationId => some operationId
  | _ => none

end RevisionPolicy

inductive ServiceUpdatePlan where
  | verifyOnly
  | resolveImage
  | reconcile (bumpRevision : Bool)
deriving DecidableEq

def serviceUpdatePlan (previous : ServiceRecord) (next : ServiceSpec) (routingPortsChanged : Bool)
    (policy : RevisionPolicy) : ServiceUpdatePlan :=
  let serviceChanged := previous.deleted || previous.spec != next || routingPortsChanged
  if policy.forces previous.name then .reconcile true
  else if serviceChanged then .reconcile (!policy.preserves previous.name)
  else if next.job.isNone && policy.refreshesImages
      && next.pullPolicy.refreshesCachedImage next.image then .resolveImage
  else .verifyOnly

/-- One stack to apply, and how. -/
structure ApplyRequest where
  stackName : String
  parsed : ParsedStack
  policy : RevisionPolicy
  credentials : Map String RegistryCredential := Table.empty
  replace : Bool

/-! ## Checks -/

/-- The TCP port of a gateway listener such as `:443` or `0.0.0.0:443`. -/
def listenPort (listen : String) : Option Nat :=
  (Text.rsplitOnce ':' listen).bind fun parts => Text.parseUnsigned 65535 parts.2

def validateApplyLocked (inner : Inner) (stackName : String) (gateway : StackGatewaySpec)
    (replace : Bool) : Except ControllerError Unit := do
  ensure (replace || !(stackDeployment inner.state stackName).any fun deployment =>
      deployment.status.isActive)
    (.conflict ("stack " ++ Text.quoted stackName ++ " already has a deployment in progress"))
  ensure (inner.state.members.rows.any NodeMember.gatewayEnabled || !gateway.hasRoutes)
    (.invalid "gateway routing is enabled but no node has its gateway enabled")
  validateGatewayHostnameOwnership inner.state stackName gateway
  match gateway.tcpRoutes.find? fun route =>
      inner.cluster.gateway.listen.any fun listen => listenPort listen = some route.listen with
  | some route =>
    .error (.invalid ("TCP listen port " ++ toString route.listen
      ++ " conflicts with the Gateway HTTP listener"))
  | none =>
    ensure (inner.generation + 1 ≤ 18446744073709551615)
      (.invalid "control-plane generation overflow")

/-- A prepared redeploy still fits the service it was prepared for. -/
def checkOwnedOperation (state : ClusterState) (policy : RevisionPolicy) :
    Except ControllerError Unit :=
  match policy.ownedOperation with
  | none => .ok ()
  | some id =>
    match state.serviceOperations.get? id with
    | none => .error (.conflict "operation no longer exists")
    | some op =>
      match state.services.get? op.view.service with
      | none => .error (.conflict "operation target no longer exists")
      | some service =>
        ensure (op.view.status.active && op.view.deploymentGeneration.isNone
            && service.revision + 1 = op.targetRevision
            && service.revision + 1 ≤ 18446744073709551615 && service.spec.image = op.image)
          (.conflict "operation configuration changed")

/-- An active operation of the stack other than the one being deployed. -/
def conflictingOperation (request : ApplyRequest) (op : ServiceOperationRecord) : Bool :=
  op.stack = request.stackName && op.view.status.active
    && some op.view.operationId ≠ request.policy.ownedOperation

/-- A service stays a service and a job a job. -/
def keepsKind (state : ClusterState) (stackName : String) (entry : String × ServiceSpec) : Bool :=
  (state.services.get? (serviceId stackName entry.1)).all fun service =>
    service.spec.job.isSome = entry.2.job.isSome

def checkKinds (state : ClusterState) (request : ApplyRequest) : Except ControllerError Unit :=
  match request.parsed.services.rows.find? fun entry =>
      !keepsKind state request.stackName entry with
  | none => .ok ()
  | some entry =>
    .error (.invalid (entry.1
      ++ ": cannot change between service and job; use a different name"))

/-! ## Planning the services -/

/-- What the planning loop builds. -/
structure Planning where
  services : Table ServiceRecord.id
  newServiceIds : Keys String := Table.empty
  imageResolutions : Table DeploymentImageResolutionRecord.serviceId := Table.empty

/-- A task whose container shows which image the service runs on a node. -/
def showsImage (service : ServiceRecord) (live : Keys String) (task : TaskRecord) : Bool :=
  task.serviceId = service.id && task.revision = service.revision && task.desired = .running
    && live.contains task.nodeId && task.containerId.isSome
    && (task.observed = .starting || task.observed = .running || task.observed = .healthy)

/-- The nodes to ask, each with the tasks it has to compare. -/
def resolutionTargets (state : ClusterState) (service : ServiceRecord) (live : Keys String) :
    Map String DeploymentImageResolutionNodeRecord :=
  (state.tasks.rows.filter (showsImage service live)).foldl (fun targets task =>
    let node := (targets.lookup task.nodeId).getD { taskIds := [], status := .checking }
    targets.put task.nodeId { node with taskIds := node.taskIds ++ [task.id] }) Table.empty

def revisionOverflow (service : ServiceRecord) : ControllerError :=
  .invalid ("service " ++ Text.quoted service.id ++ " revision overflow")

def newService (stackName name : String) (spec : ServiceSpec) : ServiceRecord :=
  { id := serviceId stackName name, stack := stackName, name, revision := 1, spec,
    deleted := false }

/-- The record of a service that has to change. -/
def ServiceRecord.update (spec : ServiceSpec) (bump : Bool) (service : ServiceRecord) :
    ServiceRecord :=
  { service with
    revision := if bump then service.revision + 1 else service.revision
    spec
    deleted := false }

theorem ServiceRecord.update_id (spec : ServiceSpec) (bump : Bool) (svc : ServiceRecord) :
    (svc.update spec bump).id = svc.id := rfl

/-- The resolution record of a service whose image is looked up again. -/
def imageResolution (state : ClusterState) (live : Keys String) (existing : ServiceRecord)
    (name : String) (spec : ServiceSpec) : DeploymentImageResolutionRecord :=
  let targets := resolutionTargets state existing live
  { serviceId := existing.id
    service := name
    image := spec.image
    baselineRevision := existing.revision
    status := if targets.rows.isEmpty then .unchanged else .checking
    nodes := targets }

/-- A resolution record that says nothing was looked up. -/
def skippedResolution (existing : ServiceRecord) (name : String) (spec : ServiceSpec) :
    DeploymentImageResolutionRecord :=
  { serviceId := existing.id
    service := name
    image := spec.image
    baselineRevision := existing.revision
    status := .skipped
    nodes := Table.empty }

/-- One requested service. `previous` is the state before the apply. -/
def planService (previous : ClusterState) (live : Keys String) (previousGateway : StackGatewaySpec)
    (request : ApplyRequest) (acc : Planning) (entry : String × ServiceSpec) :
    Except ControllerError Planning :=
  let name := entry.1
  let spec := entry.2
  let id := serviceId request.stackName name
  let routingPortsChanged := routedServicePorts previousGateway name
    ≠ routedServicePorts request.parsed.gateway name
  match acc.services.get? id with
  | none =>
    .ok { acc with
      services := acc.services.insert (newService request.stackName name spec)
      newServiceIds := acc.newServiceIds.insert id }
  | some existing =>
    let before := (previous.services.get? id).getD existing
    match serviceUpdatePlan before spec routingPortsChanged request.policy with
    | .verifyOnly =>
      if request.policy.refreshesImages then
        .ok { acc with
          imageResolutions := acc.imageResolutions.insert (skippedResolution existing name spec) }
      else .ok acc
    | .resolveImage =>
      if existing.revision = 18446744073709551615 then .error (revisionOverflow existing)
      else
        .ok { acc with
          imageResolutions := acc.imageResolutions.insert
            (imageResolution previous live existing name spec) }
    | .reconcile bump =>
      if bump && existing.revision + 1 > 18446744073709551615 then
        .error (revisionOverflow existing)
      else
        .ok { acc with
          services := acc.services.modify id (ServiceRecord.update spec bump)
            (ServiceRecord.update_id spec bump) }

/-- The ids of the requested services. -/
def desiredIds (request : ApplyRequest) : List String :=
  request.parsed.services.keys.map (serviceId request.stackName)

/-- Before the loop, the stack's services are marked by whether they are asked for. -/
def markDeleted (request : ApplyRequest) (service : ServiceRecord) : ServiceRecord :=
  if service.stack = request.stackName then
    { service with deleted := !(desiredIds request).contains service.id }
  else service

theorem markDeleted_id (req : ApplyRequest) (svc : ServiceRecord) :
    (markDeleted req svc).id = svc.id := by
  unfold markDeleted
  split <;> rfl

/-- The routes traffic follows before the apply. -/
def previousGateway (state : ClusterState) (stackName : String) : StackGatewaySpec :=
  match state.gatewayRoutes.lookup stackName with
  | some fragment => fragment.gateway
  | none => ((state.stackRecords.get? stackName).map StackRecord.gateway).getD {}

def planServices (previous : ClusterState) (live : Keys String) (request : ApplyRequest) :
    Except ControllerError Planning :=
  request.parsed.services.rows.foldlM
    (planService previous live (previousGateway previous request.stackName) request)
    { services := previous.services.map (markDeleted request) (markDeleted_id request) }

/-! ## The new stack record -/

/-- The superseded deployments, at most twenty of them. -/
def deploymentHistory (previous : ClusterState) (stackName : String) (now : Int)
    (generation : Nat) : Table StackDeploymentRecord.generation :=
  let kept := ((previous.stackRecords.get? stackName).map StackRecord.deploymentHistory).getD
    Table.empty
  let history :=
    match stackDeployment previous stackName with
    | none => kept
    | some deployment =>
      kept.insert (if deployment.status.isActive then
        { deployment with
          status := .superseded
          finishedAtUnixMs := some now
          supersededBy := some generation }
      else deployment)
  (history.rows.take (history.rows.length - 20)).foldl
    (fun history oldest => history.erase oldest.generation) history

def newStackRecord (previous : ClusterState) (request : ApplyRequest) (now : Int)
    (generation progressDeadlineSeconds : Nat)
    (imageResolutions : Table DeploymentImageResolutionRecord.serviceId) : StackRecord :=
  { name := request.stackName
    appliedAtUnixMs := now
    services := (Keys.ofElems (desiredIds request)).rows
    gateway := request.parsed.gateway
    deployment := some {
      generation
      status := .reconciling
      startedAtUnixMs := now
      lastProgressAtUnixMs := now
      progressDeadlineSeconds
      waitForGateway := (previousGateway previous request.stackName).hasRoutes
        || request.parsed.gateway.hasRoutes
      imageResolutions
      snapshot := { services := request.parsed.services, gateway := request.parsed.gateway } }
    deploymentHistory := deploymentHistory previous request.stackName now generation }

/-- An operation that gives way to this apply. -/
def supersedeOperation (request : ApplyRequest) (now : Int) (op : ServiceOperationRecord) :
    ServiceOperationRecord :=
  if conflictingOperation request op then
    let failed := op.fail "superseded" now
    { failed with view := { failed.view with revision := failed.view.revision + 1 } }
  else op

theorem supersedeOperation_kept (req : ApplyRequest) (now : Int)
    (op : ServiceOperationRecord) : OperationKept op (supersedeOperation req now op) := by
  unfold supersedeOperation
  split
  · exact ⟨rfl, rfl, rfl, rfl, rfl, rfl, fun h => h, fun h => nomatch h⟩
  · exact OperationKept.refl op

theorem supersedeOperation_id (req : ApplyRequest) (now : Int) (op : ServiceOperationRecord) :
    (supersedeOperation req now op).operationId = op.operationId :=
  (supersedeOperation_kept req now op).id

/-- The owned operation now waits for the health of its deployment. -/
def startDeployment (generation : Nat) (now : Int) (op : ServiceOperationRecord) :
    ServiceOperationRecord :=
  { op with
    view := { op.view with
      deploymentGeneration := some generation
      phase := "waiting_health"
      revision := op.view.revision + 1 }
    updatedAtUnixMs := now }

theorem startDeployment_id (gen : Nat) (now : Int) (op : ServiceOperationRecord) :
    (startDeployment gen now op).operationId = op.operationId := rfl

def startOwnedDeployment (state : ClusterState) (policy : RevisionPolicy) (generation : Nat)
    (now : Int) : ClusterState :=
  match policy.ownedOperation with
  | none => state
  | some id =>
    { state with
      serviceOperations := state.serviceOperations.modify id (startDeployment generation now)
        (startDeployment_id generation now) }

/-- The credentials of the request are added to the known ones. -/
def extendCredentials (credentials extra : Map String RegistryCredential) :
    Map String RegistryCredential :=
  extra.rows.foldl Table.insert credentials

/-- The state an apply asks for, before containers are adopted and tasks placed. -/
def requestedState (inner : Inner) (request : ApplyRequest) (now : Int) (planning : Planning) :
    ClusterState :=
  { inner.state with
    serviceOperations := inner.state.serviceOperations.map (supersedeOperation request now)
      (supersedeOperation_id request now)
    registryCredentials := extendCredentials inner.state.registryCredentials request.credentials
    services := planning.services
    stackRecords := inner.state.stackRecords.insert
      (newStackRecord inner.state request now (inner.generation + 1)
        inner.cluster.deployment.progressDeadlineSeconds planning.imageResolutions) }

/-- Everything of an apply that comes before the scheduler. -/
def applyDesired (ext : Externals) (inner : Inner) (request : ApplyRequest) (now : Int)
    (planning : Planning) : ClusterState :=
  let requested := requestedState inner request now planning
  let restored := restoreUnclaimedServiceRevisions ext requested planning.newServiceIds.rows
  let started := startOwnedDeployment restored request.policy (inner.generation + 1) now
  adoptUnclaimedTasks ext started request.stackName

/-! ## The whole apply -/

section Apply

variable (platform : Platform) (config : ControllerConfig) (env : Env)

/-- The checks `apply_guarded` makes before it changes anything. -/
def checkApply (inner : Inner) (request : ApplyRequest) : Except ControllerError Unit := do
  checkOwnedOperation inner.state request.policy
  ensure (request.replace || !inner.state.serviceOperations.rows.any (conflictingOperation request))
    (.conflict "stack has an active service operation")
  validateApplyLocked inner request.stackName request.parsed.gateway request.replace
  checkKinds inner.state request

/-- The state an apply commits, before the health of deployments is judged again. -/
def applyScheduled (inner : Inner) (request : ApplyRequest) (planning : Planning) :
    ClusterState :=
  let desired := applyDesired platform.toExternals inner request env.now.unixMs planning
  let scheduled := reconcile platform.toExternals env.uuid (currentLiveNodes config env.now inner)
    env.now.unixMs desired
  (replaceStackRoute scheduled.state request.stackName).1

def applyGuarded (server : Server) (request : ApplyRequest) : Except ControllerError Server := do
  checkApply server.inner request
  let planning ← planServices server.inner.state (currentLiveNodes config env.now server.inner)
    request
  let scheduled := applyScheduled platform config env server.inner request planning
  match refreshStackDeploymentsLocked platform config env.later.unixMs
      (server.inner.withState scheduled) with
  | .error error => .error (.ofStorage error)
  | .ok refreshed =>
    commitState platform config env server refreshed.1.state

end Apply

end Swarmlite
