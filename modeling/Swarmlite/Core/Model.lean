import Mathlib.Data.Prod.Lex
import Swarmlite.Stack.Spec

/-!
# The cluster state — `swarmlite-core/src/model.rs`, `service_operations.rs`

The records the controller keeps in memory. Every map whose key is a field of
its value (`services`, `tasks`, `stackRecords`, …) is a `Table` keyed by that field,
so "the key is the record's own id" needs no invariant.

Left out because no modelled function reads it: a node's metrics, version,
CPU and memory size and port range. `stacks` is a token of Mathlib, so the map
of that name is `stackRecords` here.
-/

namespace Swarmlite

open Ordered

/-! ## Jobs -/

structure JobCursor where
  lastScheduledAtUnixMs : Option Int
  schedule : String
  timeZone : String
  nextAtUnixMs : Int
deriving DecidableEq

structure JobRuntimeState where
  stopReason : Option String
  jobId : String
  scheduledAtUnixMs : Int
  startDeadlineUnixMs : Int
  timeoutSeconds : Option Nat
  startedAtUnixMs : Option Int
  finishedAtUnixMs : Option Int
  exitCode : Option Int
deriving DecidableEq

structure JobExecution where
  runtime : Option JobRuntimeState
  jobId : String
  scheduledAtUnixMs : Int
  notBeforeUnixMs : Int
  startDeadlineUnixMs : Int
  spec : ServiceSpec
deriving DecidableEq

/-! ## Tasks -/

inductive DesiredTaskState where
  | running
  | draining
  | stopped
deriving DecidableEq

inductive ObservedTaskState where
  | succeeded
  | unknown
  | cancelled
  | timedOut
  | pending
  | starting
  | running
  | healthy
  | failed
  | lost
deriving DecidableEq

def ObservedTaskState.isJobTerminal : ObservedTaskState → Bool
  | .succeeded | .failed | .cancelled | .timedOut => true
  | _ => false

/-- The two observations after which a task no longer occupies anything. -/
def ObservedTaskState.isFailedOrLost : ObservedTaskState → Bool
  | .failed | .lost => true
  | _ => false

structure PortBinding where
  target : Nat
  published : Option Nat
  protocol : String
deriving DecidableEq

inductive TaskReconcilePhase where
  | inspect
  | config
  | pull
  | create
  | replace
  | start
  | stop
  | remove
  | verify
deriving DecidableEq

structure TaskReconcileError where
  phase : TaskReconcilePhase
  message : String
deriving DecidableEq

structure TaskRecord where
  imageId : Option String := none
  job : Option JobExecution := none
  id : String
  serviceId : String
  revision : Nat
  slot : Nat
  nodeId : String
  desired : DesiredTaskState
  observed : ObservedTaskState
  ports : List PortBinding
  configDigests : List String := []
  containerId : Option String := none
  drainUntilUnixMs : Option Int := none
  appliedGeneration : Option Nat := none
  reconcileError : Option TaskReconcileError := none
deriving DecidableEq

/-- Every port of the task is published on its node. -/
def TaskRecord.portsPublished (task : TaskRecord) : Bool :=
  task.ports.all fun port => port.published.isSome

/-- A container a node reported that has no task record. -/
structure UnclaimedTask where
  id : String
  stack : String
  service : String
  slot : Nat
  revision : Nat
  specHash : String
  nodeId : String
  observed : ObservedTaskState
  ports : List PortBinding
  configDigests : List String
  containerId : Option String
deriving DecidableEq

/-! ## Nodes -/

structure NodeMember where
  id : String
  address : String
  gatewayEnabled : Bool
  labels : Map String String
  joinedAtUnixMs : Int
deriving DecidableEq

structure NodeRecord where
  supportsServiceOperations : Bool := true
  supportsJobs : Bool := true
  id : String
  address : String
  labels : Map String String := Table.empty
  gatewayEnabled : Bool := false
deriving DecidableEq

/-! ## Services and stacks -/

structure ServiceRecord where
  jobCursor : Option JobCursor := none
  id : String
  stack : String
  name : String
  revision : Nat
  spec : ServiceSpec
  deleted : Bool
deriving DecidableEq

inductive ImageResolutionStatus where
  | checking
  | pulling
  | comparing
  | unchanged
  | changed
  | skipped
  | failed
deriving DecidableEq

def ImageResolutionStatus.isComplete : ImageResolutionStatus → Bool
  | .unchanged | .changed | .skipped => true
  | _ => false

/-- The declaration order, which the derived `Ord` of the source compares. -/
def ImageResolutionStatus.rank : ImageResolutionStatus → Nat
  | .checking => 0
  | .pulling => 1
  | .comparing => 2
  | .unchanged => 3
  | .changed => 4
  | .skipped => 5
  | .failed => 6

structure DeploymentImageResolutionNodeRecord where
  taskIds : List String
  status : ImageResolutionStatus
  oldImageIds : Map String String := Table.empty
  resolvedImageId : Option String := none
  error : Option String := none
deriving DecidableEq

structure DeploymentImageResolutionRecord where
  serviceId : String
  service : String
  image : String
  baselineRevision : Nat
  status : ImageResolutionStatus
  nodes : Map String DeploymentImageResolutionNodeRecord
deriving DecidableEq

inductive StackDeploymentStatus where
  | reconciling
  | stalled
  | blocked
  | healthy
  | failed
  | superseded
deriving DecidableEq

def StackDeploymentStatus.isTerminal : StackDeploymentStatus → Bool
  | .healthy | .failed | .superseded => true
  | _ => false

def StackDeploymentStatus.isActive (status : StackDeploymentStatus) : Bool :=
  !status.isTerminal

inductive StackDeploymentConditionKind where
  | progressDeadlineExceeded
  | userActionRequired
deriving DecidableEq

structure StackDeploymentCondition where
  kind : StackDeploymentConditionKind
  observedAtUnixMs : Int
  resolvedAtUnixMs : Option Int
  reason : String
  message : String
deriving DecidableEq

structure StackDeploymentError where
  taskId : String
  service : String
  nodeId : String
  phase : TaskReconcilePhase
  message : String
deriving DecidableEq

structure StackDeploymentSnapshot where
  services : Map String ServiceSpec
  gateway : StackGatewaySpec
deriving DecidableEq

structure StackDeploymentRecord where
  generation : Nat
  status : StackDeploymentStatus
  startedAtUnixMs : Int
  lastProgressAtUnixMs : Int
  progressDeadlineSeconds : Nat
  waitForGateway : Bool
  finishedAtUnixMs : Option Int := none
  supersededBy : Option Nat := none
  retryRevision : Nat := 0
  errors : List StackDeploymentError := []
  imageResolutions : Table DeploymentImageResolutionRecord.serviceId
  conditions : List StackDeploymentCondition := []
  snapshot : StackDeploymentSnapshot
deriving DecidableEq

structure StackRecord where
  name : String
  appliedAtUnixMs : Int
  services : List String
  gateway : StackGatewaySpec
  deployment : Option StackDeploymentRecord
  deploymentHistory : Table StackDeploymentRecord.generation
deriving DecidableEq

/-! ## Published routes -/

/-- The key of an upstream list: the routed service, its target port and the
backend protocol (`"http"`, `"https"`, `"h2c"` or `"tcp"`). -/
structure ServicePortKey where
  service : String
  targetPort : Nat
  protocol : String

/-- Field order, as the derived `Ord` of the source. -/
instance : LinearOrder ServicePortKey :=
  LinearOrder.lift' (fun key => toLex (key.service, toLex (key.targetPort, key.protocol))) (by
    rintro ⟨s, p, q⟩ ⟨s', p', q'⟩ h
    obtain ⟨rfl, h⟩ := Prod.mk.inj (toLex.injective h)
    obtain ⟨rfl, rfl⟩ := Prod.mk.inj (toLex.injective h)
    rfl)

def HttpBackendProtocol.name : HttpBackendProtocol → String
  | .http => "http"
  | .https => "https"
  | .h2c => "h2c"

def ServicePortKey.new (service : String) (targetPort : Nat) (protocol : HttpBackendProtocol) :
    ServicePortKey :=
  ⟨service, targetPort, protocol.name⟩

def ServicePortKey.tcp (service : String) (targetPort : Nat) : ServicePortKey :=
  ⟨service, targetPort, "tcp"⟩

/-- One stack's published routes: its gateway spec and the addresses behind each
routed service port. -/
structure RecoveredStackGateway where
  gateway : StackGatewaySpec
  upstreams : Map ServicePortKey (List String)
deriving DecidableEq

structure RegistryCredential where
  username : String
  password : String
deriving DecidableEq

/-! ## Service operations -/

inductive ServiceOperationKind where
  | restart
  | pullRedeploy
deriving DecidableEq

inductive ServiceOperationStatus where
  | queued
  | running
  | succeeded
  | failed
deriving DecidableEq

def ServiceOperationStatus.active : ServiceOperationStatus → Bool
  | .queued | .running => true
  | _ => false

structure ServiceOperation where
  operationId : String
  service : String
  kind : ServiceOperationKind
  status : ServiceOperationStatus
  phase : String
  revision : Nat
  deploymentGeneration : Option Nat
  completedTasks : Nat
  totalTasks : Nat
  stalled : Bool
  blocked : Bool
  error : Option String
deriving DecidableEq

structure RestartTarget where
  taskId : String
  nodeId : String
  containerId : String
  imageId : String
  restarted : Bool
  completed : Bool
  deadlineUnixMs : Option Int
deriving DecidableEq

structure ServiceOperationRecord where
  view : ServiceOperation
  principalId : String
  idempotencyKey : String
  requestHash : String
  stack : String
  generation : Nat
  targetRevision : Nat
  image : String
  createdAtUnixMs : Int
  updatedAtUnixMs : Int
  finishedAtUnixMs : Option Int
  source : Map String String
  tasks : List RestartTarget
  preparingNodes : Keys String
  preparedImages : Map String String
deriving DecidableEq

/-- The map key of an operation. -/
def ServiceOperationRecord.operationId (op : ServiceOperationRecord) : String :=
  op.view.operationId

/-- The operation is restarting this task and has not finished with it. -/
def ServiceOperationRecord.restartingTask (op : ServiceOperationRecord) (taskId : String) : Bool :=
  op.view.status.active && op.view.kind = .restart
    && op.tasks.any fun task => task.taskId = taskId && !task.completed

/-! ## The state -/

structure ClusterState where
  serviceOperations : Table ServiceOperationRecord.operationId := Table.empty
  stackRecords : Table StackRecord.name := Table.empty
  services : Table ServiceRecord.id := Table.empty
  nodes : Table NodeRecord.id := Table.empty
  tasks : Table TaskRecord.id := Table.empty
  members : Table NodeMember.id := Table.empty
  unclaimedTasks : Table UnclaimedTask.id := Table.empty
  gatewayRoutes : Map String RecoveredStackGateway := Table.empty
  gatewayGeneration : Nat := 0
  registryCredentials : Map String RegistryCredential := Table.empty

/-- The state with another task table. -/
def ClusterState.withTasks (state : ClusterState) (tasks : Table TaskRecord.id) : ClusterState :=
  { state with tasks }

@[simp] theorem ClusterState.withTasks_tasks (state : ClusterState) (tasks : Table TaskRecord.id) :
    (state.withTasks tasks).tasks = tasks := rfl

/-- A deployed operation keeps its prepared images pinned while its service
revision is the current one. -/
def ServiceOperationRecord.pinsImages (op : ServiceOperationRecord) (state : ClusterState) : Bool :=
  op.view.kind = .pullRedeploy
    && (op.view.status.active
      || (op.view.deploymentGeneration.isSome
        && (state.services.get? op.view.service).any fun service =>
          !service.deleted && service.revision = op.targetRevision))

/-! ## Cluster settings -/

structure GatewayCacheAdmissionConfig where
  windowSeconds : Option Nat := none
  cacheAfterRequests : Option Nat := none
deriving DecidableEq

structure GatewayCacheSqliteConfig where
  touchWindowSeconds : Option Nat := none
  cacheSizeKib : Option Nat := none
  mmapSizeBytes : Option Nat := none
  readConnections : Option Nat := none
  busyTimeoutSeconds : Option Nat := none
  cleanupIntervalSeconds : Option Nat := none
  journalSizeLimitBytes : Option Nat := none
deriving DecidableEq

structure GatewayCacheConfig where
  maxSizeBytes : Option Nat := none
  lowWaterPercent : Option Nat := none
  admission : GatewayCacheAdmissionConfig := {}
  sqlite : GatewayCacheSqliteConfig := {}
deriving DecidableEq

structure GatewayMetricsConfig where
  enabled : Option Bool := none
  perHost : Option Bool := none
deriving DecidableEq

inductive GatewayAccessLogFormat where
  | json
  | console
deriving DecidableEq

inductive GatewayLogLevel where
  | debug
  | info
  | warn
  | error
deriving DecidableEq

structure GatewayAccessLogSamplingConfig where
  enabled : Option Bool := none
  first : Option Nat := none
  thereafter : Option Nat := none
deriving DecidableEq

structure GatewayAccessLogConfig where
  enabled : Option Bool := none
  format : Option GatewayAccessLogFormat := none
  sampling : GatewayAccessLogSamplingConfig := {}
deriving DecidableEq

structure GatewayLoggingConfig where
  runtimeLevel : Option GatewayLogLevel := none
  access : GatewayAccessLogConfig := {}
deriving DecidableEq

structure GatewayHttpConfig where
  readHeaderSeconds : Option Nat := none
  readBodySeconds : Option Nat := none
  writeSeconds : Option Nat := none
  idleSeconds : Option Nat := none
  maxHeaderBytes : Option Nat := none
  http3Enabled : Option Bool := none
deriving DecidableEq

structure ClusterGatewayConfig where
  listen : List String := [":80", ":443"]
  image : String
  managedImage : Bool := true
  metrics : GatewayMetricsConfig := {}
  cache : GatewayCacheConfig := {}
  logging : GatewayLoggingConfig := {}
  shutdownGracePeriodSeconds : Option Nat := none
  http : GatewayHttpConfig := {}
  deployDomain : Option String := none
deriving DecidableEq

structure ClusterProxyConfig where
  http : Option String := none
  https : Option String := none
  all : Option String := none
  noProxy : Option String := none
deriving DecidableEq

structure AgentImagePruneConfig where
  enabled : Bool := true
  intervalSeconds : Nat := 7 * 24 * 60 * 60
deriving DecidableEq

structure DeploymentPolicy where
  progressDeadlineSeconds : Nat := 300
  imagePullIdleTimeoutSeconds : Nat := 60
  imagePullMaxAttempts : Nat := 5
  imagePullInitialBackoffSeconds : Nat := 2
  imagePullMaxBackoffSeconds : Nat := 60
deriving DecidableEq

structure ClusterSettings where
  schemaVersion : Nat := 9
  clusterId : String
  controllerId : String
  controllerPort : Nat := 17080
  proxy : ClusterProxyConfig := {}
  imagePrune : AgentImagePruneConfig := {}
  gateway : ClusterGatewayConfig
  deployment : DeploymentPolicy := {}
deriving DecidableEq

/-- The image a managed gateway is moved to at start. -/
def refreshManagedGatewayImage (defaultImage : String) (config : ClusterGatewayConfig) :
    ClusterGatewayConfig × Bool :=
  if config.managedImage && config.image != defaultImage then
    ({ config with image := defaultImage }, true)
  else (config, false)

end Swarmlite
