import Swarmlite.Controller.ServiceOperations

/-!
# The running controller — `controller/mod.rs`, `gateway_control.rs`, `storage.rs`

`Server` is the controller process (`Inner`, everything behind its mutex) next to
the database it writes to. A change becomes visible by `commitLocked`: the routes
are rendered into the next gateway config, and the whole state replaces the
stored one if nobody else wrote in between.

Only decisions are stored. What nodes report — `nodes`, observed states, ports in
use by unknown containers — is gone after a restart (`ClusterState.persisted`).

Mirroring notes:
- Time enters as two readings per request, `now` when the lock is taken and
  `later` after the scheduler ran; the source reads the clock at each use.
  `Instant`s are nanoseconds.
- A SQLite failure is an input (`Env.sqlite`), as is the validity of a deploy
  token. The schema version is constant and left out, metrics and the key-value
  store are not part of the state.
- `status_changes` wakes up waiting readers; only the revision they compare with
  is kept.
-/

namespace Swarmlite

open Ordered

/-! ## Surroundings -/

/-- More of what comes from libraries: the hash of an operation request, the
parts of the advertised URL, and the gateway image of this release. -/
structure Platform extends Externals where
  requestHash : ServiceOperationKind → String → Map String String → String
  advertisedHost : String → String
  deployAddress : String → Nat → String
  defaultGatewayImage : String

structure ControllerConfig where
  deployPort : Nat
  gatewayEnabled : Bool
  labels : Map String String
  advertiseUrl : String
  nodeTimeoutSeconds : Nat
  gatewayDrainTimeoutSeconds : Nat
  cluster : ClusterSettings

/-- A reading of both clocks. -/
structure Clock where
  unixMs : Int
  instant : Nat

/-- What one request meets: the time, fresh ids, and the database. -/
structure Env where
  now : Clock
  later : Clock
  uuid : Nat → String
  /-- The message of a failing SQLite call. -/
  sqlite : Option String := none
  tokenActive : String → Bool := fun _ => true

/-- The order of the phases, for keys. -/
def TaskReconcilePhase.rank : TaskReconcilePhase → Nat
  | .inspect => 0
  | .config => 1
  | .pull => 2
  | .create => 3
  | .replace => 4
  | .start => 5
  | .stop => 6
  | .remove => 7
  | .verify => 8

structure Inner where
  generation : Nat
  statusRevision : Nat
  cluster : ClusterSettings
  state : ClusterState
  liveNodes : Map String Nat
  gatewayGeneration : Nat
  gatewayConfig : GatewayConfig
  gatewaySnapshot : GatewayRecoverySnapshot
  gatewayReports : Map String GatewayReport
  taskProgress : Map (String ×ₗ Nat) TaskReconcileProgress

structure VersionedState where
  generation : Nat
  cluster : ClusterSettings
  state : ClusterState

structure Server where
  inner : Inner
  disk : VersionedState

/-- The process with another cluster state. -/
def Inner.withState (inner : Inner) (state : ClusterState) : Inner := { inner with state }

@[simp] theorem Inner.withState_state (inner : Inner) (state : ClusterState) :
    (inner.withState state).state = state := rfl

def Inner.notifyStatus (inner : Inner) : Inner :=
  { inner with statusRevision := min (inner.statusRevision + 1) 18446744073709551615 }

def currentLiveNodes (config : ControllerConfig) (clock : Clock) (inner : Inner) : Keys String :=
  Keys.ofElems ((inner.liveNodes.rows.filter fun entry =>
    clock.instant - entry.2 ≤ config.nodeTimeoutSeconds * 1000000000).map Prod.fst)

/-! ## Storage -/

/-- A task as it is stored: only job executions keep what was observed. -/
def TaskRecord.persisted (task : TaskRecord) : TaskRecord :=
  { task with
    imageId := none
    observed := if task.job.isSome then task.observed else .pending
    containerId := none
    appliedGeneration := none
    reconcileError := none }

theorem TaskRecord.persisted_id (task : TaskRecord) : task.persisted.id = task.id := rfl

/-- What is left of a state after writing and reading it back. -/
def ClusterState.persisted (state : ClusterState) : ClusterState :=
  { state with
    nodes := Table.empty
    tasks := state.tasks.map TaskRecord.persisted TaskRecord.persisted_id
    unclaimedTasks := Table.empty }

def sameClusterIdentity (left right : ClusterSettings) : Bool :=
  left.schemaVersion = right.schemaVersion && left.clusterId = right.clusterId
    && left.controllerId = right.controllerId && left.controllerPort = right.controllerPort

/-- The unique indices of the operation table: one use of a key per principal, one
active operation per stack. -/
def operationsStorable (operations : Table ServiceOperationRecord.operationId) : Bool :=
  decide ((operations.rows.map fun op => (op.principalId, op.idempotencyKey)).Nodup)
    && decide (((operations.rows.filter fun op => op.view.status.active).map
      ServiceOperationRecord.stack).Nodup)

/-- Every operation that is not stored yet comes from a valid credential. -/
def newOperationsAuthorized (env : Env) (stored operations :
    Table ServiceOperationRecord.operationId) : Bool :=
  operations.rows.all fun op =>
    stored.contains op.operationId || op.principalId = "admin" || env.tokenActive op.principalId

/-- `StateRepository::replace`: compare and swap on the generation. -/
def replace (config : ControllerConfig) (env : Env) (disk : VersionedState)
    (expected : Nat) (cluster : ClusterSettings) (state : ClusterState) :
    Except StorageError VersionedState :=
  if !sameClusterIdentity cluster config.cluster then
    .error (.invalidData "cluster identity cannot be changed")
  else if expected + 1 > 18446744073709551615 then .error (.backend "generation overflow")
  else if expected + 1 > 9223372036854775807 then
    .error (.backend "generation exceeds SQLite integer range")
  else
    match env.sqlite with
    | some message => .error (.backend message)
    | none =>
      if disk.generation ≠ expected || disk.cluster.clusterId ≠ cluster.clusterId then
        .error .conflict
      else if !newOperationsAuthorized env disk.state.serviceOperations state.serviceOperations
      then .error .credentialInactive
      else if !operationsStorable state.serviceOperations then
        .error (.backend "UNIQUE constraint failed")
      else .ok { generation := expected + 1, cluster, state := state.persisted }

/-! ## The gateway snapshot -/

section Gateway

variable (platform : Platform) (config : ControllerConfig)

def renderedGatewayConfig (inner : Inner) : GatewayConfig :=
  configWithDeployment inner.state.gatewayRoutes inner.cluster.gateway config.advertiseUrl
    (platform.deployAddress config.advertiseUrl config.deployPort)

/-- The config to publish next. The generation moves when it differs from the
published one. -/
def nextGatewaySnapshot (inner : Inner) :
    Except StorageError (Nat × GatewayConfig × GatewayRecoverySnapshot) :=
  let rendered := renderedGatewayConfig platform config inner
  let snapshotChanged := inner.gatewaySnapshot.stackRoutes ≠ inner.state.gatewayRoutes
  let next := if rendered = inner.gatewayConfig ∧ ¬ snapshotChanged then inner.gatewayGeneration
    else inner.gatewayGeneration + 1
  if next > 18446744073709551615 then .error (.backend "gateway generation overflow")
  else
    .ok (next, rendered,
      GatewayRecoverySnapshot.new inner.cluster.clusterId next inner.state.gatewayRoutes)

/-- The process once a snapshot is published. -/
def Inner.publish (inner : Inner) (snapshot : Nat × GatewayConfig × GatewayRecoverySnapshot) :
    Inner :=
  { inner with
    gatewayGeneration := snapshot.1
    gatewayConfig := snapshot.2.1
    gatewaySnapshot := snapshot.2.2 }

def refreshGatewaySnapshot (inner : Inner) : Except StorageError Inner :=
  match nextGatewaySnapshot platform config inner with
  | .error error => .error error
  | .ok snapshot => .ok (inner.publish snapshot)

end Gateway

def enabledGateways (state : ClusterState) : List String :=
  (state.members.rows.filter NodeMember.gatewayEnabled).map NodeMember.id

/-- Some gateway is enabled, and every enabled one runs this generation. -/
def gatewaysApplied (inner : Inner) (generation : Nat) : Bool :=
  !(enabledGateways inner.state).isEmpty
    && (enabledGateways inner.state).all fun nodeId =>
      (inner.gatewayReports.lookup nodeId).any fun report => report.applied generation

/-- The listener of a TCP route is up, with a backend unless the service is meant
to have none. -/
def tcpRouteReady (state : ClusterState) (stackName : String) (tcp : GatewayTcpStatus)
    (route : TcpRouteSpec) : Bool :=
  let intentionallyEmpty := (state.services.get? (serviceId stackName route.backend.service)).any
    fun service => !service.deleted && service.spec.replicas = 0
  tcp.routes.any fun status =>
    status.id = stackName ++ ":" ++ toString route.listen
      && status.listen = ":" ++ toString route.listen
      && if intentionallyEmpty then
          status.listening && status.error.isNone && status.backends.isEmpty
        else status.ready

def tcpStackReady (inner : Inner) (stackName : String) : Bool :=
  match inner.state.stackRecords.get? stackName with
  | none => true
  | some stack =>
    if stack.gateway.tcpRoutes.isEmpty then true
    else
      !(enabledGateways inner.state).isEmpty
        && (enabledGateways inner.state).all fun nodeId =>
          (((inner.gatewayReports.lookup nodeId).filter fun report =>
              report.applied inner.gatewayGeneration).bind GatewayReport.tcp).any fun tcp =>
            tcp.error.isNone && stack.gateway.tcpRoutes.all (tcpRouteReady inner.state stackName tcp)

/-! ## Committing -/

section Commit

variable (platform : Platform) (config : ControllerConfig) (env : Env)

def commitLocked (server : Server) : Except StorageError Server :=
  match nextGatewaySnapshot platform config server.inner with
  | .error error => .error error
  | .ok snapshot =>
    let state := { server.inner.state with gatewayGeneration := snapshot.1 }
    match replace config env server.disk server.inner.generation server.inner.cluster state with
    | .error error => .error error
    | .ok disk =>
      .ok {
        inner := (({ server.inner with state, generation := disk.generation }).publish
          snapshot).notifyStatus
        disk }

def commitGatewayAckLocked (server : Server) : Except StorageError Server :=
  match replace config env server.disk server.inner.generation server.inner.cluster
      server.inner.state with
  | .error error => .error error
  | .ok disk =>
    .ok { inner := ({ server.inner with generation := disk.generation }).notifyStatus, disk }

/-- Commit a new cluster state, or keep everything as it was. -/
def commitState (server : Server) (state : ClusterState) : Except ControllerError Server :=
  match commitLocked platform config env { server with inner := server.inner.withState state } with
  | .error error => .error (.ofStorage error)
  | .ok server => .ok server

/-- `refresh_stack_deployments_locked`: health is judged against the gateway
generation a commit would publish now. -/
def refreshStackDeploymentsLocked (now : Int) (inner : Inner) :
    Except StorageError (Inner × Bool) :=
  match nextGatewaySnapshot platform config inner with
  | .error error => .error error
  | .ok snapshot =>
    let unreadyTcp := (inner.state.stackRecords.rows.map StackRecord.name).filter fun name =>
      !tcpStackReady inner name
    let refreshed := refreshStackDeployments inner.state now (gatewaysApplied inner snapshot.1)
      unreadyTcp
    .ok (inner.withState refreshed.1, refreshed.2)

/-! ## Drains -/

/-- A draining task without a deadline gets one. -/
def setDrainDeadline (deadline : Int) (task : TaskRecord) : TaskRecord :=
  if task.desired = .draining && task.drainUntilUnixMs.isNone then
    { task with drainUntilUnixMs := some deadline }
  else task

theorem setDrainDeadline_id (deadline : Int) (task : TaskRecord) :
    (setDrainDeadline deadline task).id = task.id := by
  unfold setDrainDeadline
  split <;> rfl

/-- Once every enabled gateway runs the published config, draining tasks only wait
for their deadline. -/
def acknowledgeGatewayDrains (server : Server) : Except ControllerError Server :=
  if !gatewaysApplied server.inner server.inner.gatewayGeneration then .ok server
  else
    let deadline := env.later.unixMs + asI64 config.gatewayDrainTimeoutSeconds * 1000
    if server.inner.state.tasks.rows.any fun task =>
        task.desired = .draining && task.drainUntilUnixMs.isNone then
      let state := server.inner.state.withTasks (server.inner.state.tasks.map
        (setDrainDeadline deadline) (setDrainDeadline_id deadline))
      match commitGatewayAckLocked config env
          { server with inner := server.inner.withState state } with
      | .error error => .error (.ofStorage error)
      | .ok server => .ok server
    else .ok server

end Commit

end Swarmlite
