import Swarmlite.Core.Gateway

/-!
# What agents report and receive — `swarmlite-core/src/model.rs`

The body of a heartbeat and of its answer. A heartbeat carries the node's whole
container inventory and every result the agent still holds in its caches; the
answer carries everything the node should run and remove.

Left out: node metrics, and the hash of the registry credentials in the answer,
which the agent only compares with its own.
-/

namespace Swarmlite

open Ordered

/-! ## Reports -/

/-- One container of the inventory. -/
structure TaskReport where
  job : Option JobRuntimeState := none
  id : String
  observed : ObservedTaskState
  containerId : Option String := none
  imageId : Option String := none
  clusterId : Option String := none
  stack : Option String := none
  service : Option String := none
  slot : Option Nat := none
  revision : Option Nat := none
  specHash : Option String := none
  ports : List PortBinding := []
  configDigests : List String := []
deriving DecidableEq

/-- The outcome of bringing one task to a deployment generation. -/
structure TaskReconcileReport where
  taskId : String
  desiredGeneration : Nat
  appliedGeneration : Option Nat
  phase : TaskReconcilePhase
  error : Option String
deriving DecidableEq

structure TaskReconcileProgress where
  taskId : String
  desiredGeneration : Nat
  phase : TaskReconcilePhase
  attempt : Nat := 0
  currentBytes : Option Nat := none
  totalBytes : Option Nat := none
  updatedAtUnixMs : Int
deriving DecidableEq

structure ImageResolutionProgress where
  deploymentGeneration : Nat
  image : String
  status : ImageResolutionStatus
  attempt : Nat := 0
  currentBytes : Option Nat := none
  totalBytes : Option Nat := none
  updatedAtUnixMs : Int
deriving DecidableEq

structure ImageResolutionServiceReport where
  serviceId : String
  oldImageIds : Map String String
  changed : Bool
deriving DecidableEq

structure ImageResolutionReport where
  deploymentGeneration : Nat
  image : String
  resolvedImageId : Option String := none
  services : List ImageResolutionServiceReport := []
  error : Option String := none
deriving DecidableEq

structure GatewayTcpBackendStatus where
  address : String
  healthy : Bool
  error : Option String := none
deriving DecidableEq

structure GatewayTcpRouteStatus where
  id : String
  listen : String
  listening : Bool
  error : Option String := none
  backends : List GatewayTcpBackendStatus
deriving DecidableEq

def GatewayTcpRouteStatus.ready (status : GatewayTcpRouteStatus) : Bool :=
  status.listening && status.error.isNone
    && status.backends.any GatewayTcpBackendStatus.healthy

structure GatewayTcpStatus where
  routes : List GatewayTcpRouteStatus := []
  error : Option String := none
deriving DecidableEq

structure GatewayReport where
  appliedGeneration : Option Nat := none
  image : Option String := none
  error : Option String := none
  retryable : Bool := true
  tcp : Option GatewayTcpStatus := none
deriving DecidableEq

/-- The gateway runs this generation without an error. -/
def GatewayReport.applied (report : GatewayReport) (generation : Nat) : Bool :=
  report.error.isNone && report.appliedGeneration = some generation

structure NodeHeartbeat where
  node : NodeRecord
  tasks : List TaskReport := []
  taskInventoryError : Option String := none
  taskResults : List TaskReconcileReport := []
  taskProgress : List TaskReconcileProgress := []
  imageResults : List ImageResolutionReport := []
  imageProgress : List ImageResolutionProgress := []
  gateway : GatewayReport := {}

/-! ## Assignments -/

structure RestartAssignment where
  operationId : String
  containerId : String
  imageId : String
  deadlineUnixMs : Int
  execute : Bool
deriving DecidableEq

structure TaskAssignment where
  restart : Option RestartAssignment
  preparedImageId : Option String
  job : Option JobExecution
  id : String
  clusterId : String
  stack : String
  service : String
  serviceId : String
  revision : Nat
  slot : Nat
  desired : DesiredTaskState
  spec : ServiceSpec
  ports : List PortBinding
  generation : Nat
  deploymentGeneration : Nat
  deploymentRetryRevision : Nat
  specHash : String
  imageResolved : Bool
deriving DecidableEq

structure ImageResolutionServiceAssignment where
  serviceId : String
  taskIds : List String
deriving DecidableEq

structure ImageResolutionAssignment where
  deploymentGeneration : Nat
  image : String
  services : List ImageResolutionServiceAssignment
deriving DecidableEq

structure TaskRemovalAssignment where
  retainJobContainer : Bool
  id : String
  deploymentGeneration : Nat
deriving DecidableEq

/-- What a gateway keeps so that routes can be recovered from it. -/
structure GatewayRecoverySnapshot where
  formatVersion : Nat
  clusterId : String
  generation : Nat
  stackRoutes : Map String RecoveredStackGateway
deriving DecidableEq

/-- HTTP-only snapshots stay readable by the previous release. -/
def GatewayRecoverySnapshot.new (clusterId : String) (generation : Nat)
    (routes : Map String RecoveredStackGateway) : GatewayRecoverySnapshot :=
  { formatVersion :=
      if routes.rows.any fun entry => !entry.2.gateway.tcpRoutes.isEmpty then 2 else 1
    clusterId
    generation
    stackRoutes := routes }

structure GatewayAssignment where
  generation : Nat
  config : GatewayConfig
  recoverySnapshot : GatewayRecoverySnapshot
deriving DecidableEq

structure HeartbeatResponse where
  generation : Nat
  cluster : ClusterSettings
  assignments : List TaskAssignment
  imageAssignments : List ImageResolutionAssignment
  gatewayEnabled : Bool
  labels : Map String String
  removeTasks : List TaskRemovalAssignment
  gatewayConfig : Option GatewayAssignment
  registryCredentials : Map String RegistryCredential
deriving DecidableEq

end Swarmlite
