import Swarmlite.Controller.Jobs
import Swarmlite.Controller.Observation
import Swarmlite.Core.Reports

/-!
# Deployments — `controller/deployment.rs`

A deployment is the record of one apply. It collects errors and progress from
the agents' reports, is declared healthy when its replacement is complete
(`deploymentIsHealthy`), and waits for the user when it is blocked.

Every function here rewrites deployments, task observations and — for an image
that turned out newer — a service revision. None of them takes a scheduling
decision: each has a lemma saying it is a bookkeeping step (`Observed`).

Mirroring notes:
- `iter_mut().find(..)` is `Loop.updateFirst` or a `modify` of the first match.
- The two `(bool, bool)` results (soft change, change) are returned after the
  state.
- `checked_add(1).expect(..)` on a revision is `+ 1`: the apply that started the
  resolution refused the largest `u64`.
-/

namespace Swarmlite

open Ordered

/-! ## The deployment of a stack -/

def stackDeployment (state : ClusterState) (stackName : String) : Option StackDeploymentRecord :=
  (state.stackRecords.get? stackName).bind StackRecord.deployment

def StackRecord.mapDeployment (f : StackDeploymentRecord → StackDeploymentRecord)
    (stack : StackRecord) : StackRecord :=
  { stack with deployment := stack.deployment.map f }

theorem StackRecord.mapDeployment_name (f : StackDeploymentRecord → StackDeploymentRecord)
    (stack : StackRecord) : (stack.mapDeployment f).name = stack.name := rfl

/-- Rewrite the current deployment of a stack. -/
def modifyDeployment (state : ClusterState) (stackName : String)
    (f : StackDeploymentRecord → StackDeploymentRecord) : ClusterState :=
  { state with
    stackRecords := state.stackRecords.modify stackName (StackRecord.mapDeployment f)
      (StackRecord.mapDeployment_name f) }

/-! ## Conditions and progress -/

def StackDeploymentCondition.isOpen (kind : StackDeploymentConditionKind)
    (condition : StackDeploymentCondition) : Bool :=
  condition.kind = kind && condition.resolvedAtUnixMs.isNone

def setDeploymentCondition (kind : StackDeploymentConditionKind) (now : Int)
    (reason message : String) (deployment : StackDeploymentRecord) : StackDeploymentRecord :=
  { deployment with
    conditions :=
      if deployment.conditions.any (·.isOpen kind) then
        Loop.updateFirst (·.isOpen kind) (fun condition => { condition with reason, message })
          deployment.conditions
      else
        deployment.conditions ++ [{
          kind
          observedAtUnixMs := now
          resolvedAtUnixMs := none
          reason
          message }] }

def resolveDeploymentCondition (kind : StackDeploymentConditionKind) (now : Int)
    (deployment : StackDeploymentRecord) : StackDeploymentRecord :=
  { deployment with
    conditions := deployment.conditions.map fun condition =>
      if condition.isOpen kind then { condition with resolvedAtUnixMs := some now }
      else condition }

/-- Progress seen at a time: the deadline moves and a stalled deployment resumes. -/
def recordProgress (progressAt : Int) (deployment : StackDeploymentRecord) :
    StackDeploymentRecord :=
  let deployment :=
    if progressAt > deployment.lastProgressAtUnixMs then
      { deployment with lastProgressAtUnixMs := progressAt }
    else deployment
  if deployment.status = .stalled then
    resolveDeploymentCondition .progressDeadlineExceeded progressAt
      { deployment with status := .reconciling, finishedAtUnixMs := none }
  else deployment

def markDeploymentProgress (state : ClusterState) (stackName : String) (generation : Nat)
    (progressAt : Int) : ClusterState × Bool :=
  match (stackDeployment state stackName).filter fun deployment =>
      deployment.generation = generation && deployment.status.isActive with
  | none => (state, false)
  | some deployment =>
    (modifyDeployment state stackName (recordProgress progressAt),
      progressAt > deployment.lastProgressAtUnixMs || deployment.status = .stalled)

def markProgressForGeneration (state : ClusterState) (generation : Nat) (progressAt : Int) :
    ClusterState × Bool :=
  match state.stackRecords.rows.find? fun stack =>
      stack.deployment.any fun deployment => deployment.generation = generation with
  | none => (state, false)
  | some stack => markDeploymentProgress state stack.name generation progressAt

def markCurrentDeploymentProgress (state : ClusterState) (stackName : String)
    (progressAt : Int) : ClusterState × Bool :=
  match stackDeployment state stackName with
  | none => (state, false)
  | some deployment => markDeploymentProgress state stackName deployment.generation progressAt

/-- `mark_deployment_progress_record`, used for gateway progress. Unlike
`recordProgress` it leaves `finishedAt` alone and ignores time that stands still. -/
def recordGatewayProgress (progressAt : Int) (deployment : StackDeploymentRecord) :
    StackDeploymentRecord :=
  if !deployment.status.isActive || progressAt ≤ deployment.lastProgressAtUnixMs then deployment
  else
    let deployment := { deployment with lastProgressAtUnixMs := progressAt }
    if deployment.status = .stalled then
      resolveDeploymentCondition .progressDeadlineExceeded progressAt
        { deployment with status := .reconciling }
    else deployment

/-! ## Health -/

/-- A task that counts for its deployment: current, running, healthy, applied. -/
def countsAsHealthy (service : ServiceRecord) (generation : Nat) (task : TaskRecord) : Bool :=
  task.serviceId = service.id && task.revision = service.revision && task.desired = .running
    && task.observed = .healthy && task.appliedGeneration = some generation
    && task.portsPublished

/-- One service of the stack has what the deployment asks for. -/
def serviceReplaced (state : ClusterState) (generation : Nat) (serviceId : String) : Bool :=
  match (state.services.get? serviceId).filter fun service => !service.deleted with
  | none => false
  | some service =>
    service.spec.job.isSome
      || service.spec.replicas ≤ state.tasks.count (countsAsHealthy service generation)

def deploymentReplacementReady (state : ClusterState) (stackName : String) (generation : Nat)
    (gatewayReady : Bool) : Bool :=
  match state.stackRecords.get? stackName with
  | none => false
  | some stack =>
    match stack.deployment.filter fun deployment => deployment.generation = generation with
    | none => false
    | some deployment =>
      (deployment.imageResolutions.rows.all fun resolution => resolution.status.isComplete)
        && ((!deployment.waitForGateway || gatewayReady)
          && stack.services.all (serviceReplaced state generation))

/-- A task that does not keep its stack's deployment from being healthy. -/
def settledFor (state : ClusterState) (stackName : String) (task : TaskRecord) : Bool :=
  task.job.isSome
    || match state.services.get? task.serviceId with
      | none => true
      | some service =>
        service.stack != stackName
          || (!service.deleted && task.revision = service.revision && task.desired = .running)
          || task.observed = .lost

def deploymentIsHealthy (state : ClusterState) (stackName : String) (generation : Nat)
    (gatewayReady : Bool) : Bool :=
  deploymentReplacementReady state stackName generation gatewayReady
    && state.tasks.rows.all (settledFor state stackName)
    && !state.unclaimedTasks.rows.any fun task => task.stack = stackName

/-- The deployment made no progress for longer than its deadline. -/
def progressOverdue (now : Int) (deployment : StackDeploymentRecord) : Bool :=
  satI64 (now - deployment.lastProgressAtUnixMs)
      ≥ ((min (deployment.progressDeadlineSeconds * 1000) 9223372036854775807 : Nat) : Int)
    && deployment.status != .stalled

def finishHealthy (now : Int) (deployment : StackDeploymentRecord) : StackDeploymentRecord :=
  let deployment := resolveDeploymentCondition .userActionRequired now
    (resolveDeploymentCondition .progressDeadlineExceeded now
      { deployment with status := .healthy })
  { deployment with finishedAtUnixMs := some now }

def stall (now : Int) (deployment : StackDeploymentRecord) : StackDeploymentRecord :=
  setDeploymentCondition .progressDeadlineExceeded now "no_progress"
    ("deployment made no observable progress for "
      ++ toString deployment.progressDeadlineSeconds ++ " seconds")
    { deployment with status := .stalled }

/-- One stack of the loop of `refresh_stack_deployments`. -/
def refreshStackDeployment (now : Int) (gatewayReady : Bool) (unreadyTcp : List String)
    (acc : ClusterState × Bool) (stackName : String) : ClusterState × Bool :=
  match stackDeployment acc.1 stackName with
  | none => acc
  | some deployment =>
    if deployment.status.isTerminal then acc
    else if deploymentIsHealthy acc.1 stackName deployment.generation
        (gatewayReady && !unreadyTcp.contains stackName) then
      (modifyDeployment acc.1 stackName (finishHealthy now), true)
    else if progressOverdue now deployment then
      (modifyDeployment acc.1 stackName (stall now), true)
    else acc

def refreshStackDeployments (state : ClusterState) (now : Int) (gatewayReady : Bool)
    (unreadyTcp : List String) : ClusterState × Bool :=
  (state.stackRecords.rows.map StackRecord.name).foldl
    (refreshStackDeployment now gatewayReady unreadyTcp) (state, false)

/-! ## Results of tasks -/

/-- Errors only the user can resolve. -/
def deploymentErrorRequiresUser (message : String) : Bool :=
  ["unauthorized", "authentication required", "denied", "forbidden",
    "no basic auth credentials", "port is already allocated", "no matching node",
    "insufficient disk"].any fun needle =>
      Text.contains needle (Text.toAsciiLowercase message)

/-- The report is about this generation and is consistent in itself. -/
def TaskReconcileReport.matchesGeneration (report : TaskReconcileReport) (generation : Nat) :
    Bool :=
  report.desiredGeneration = generation
    && (report.appliedGeneration.all fun applied => applied = report.desiredGeneration)
    && report.error.isNone = report.appliedGeneration.isSome

def pushError (error : StackDeploymentError) (deployment : StackDeploymentRecord) :
    StackDeploymentRecord :=
  if deployment.errors.contains error then deployment
  else { deployment with errors := deployment.errors ++ [error] }

/-- An error of a task fails an active deployment, or blocks it. -/
def recordTaskError (now : Int) (error : StackDeploymentError)
    (deployment : StackDeploymentRecord) : StackDeploymentRecord :=
  let deployment := pushError error deployment
  if deployment.status.isActive then
    if deploymentErrorRequiresUser error.message then
      { setDeploymentCondition .userActionRequired now "runtime_dependency" error.message
          deployment with
        status := .blocked
        finishedAtUnixMs := none }
    else { deployment with status := .failed, finishedAtUnixMs := some now }
  else deployment

/-- The part of the two result handlers that looks at the deployment. -/
def recordStackError (now : Int) (state : ClusterState) (stackName : String)
    (deployment : StackDeploymentRecord) (error : StackDeploymentError) : ClusterState × Bool :=
  if deployment.status.isTerminal then (state, false)
  else
    (modifyDeployment state stackName (recordTaskError now error),
      !deployment.errors.contains error || deployment.status.isActive)

def applyUnclaimedTaskResult (now : Int) (state : ClusterState) (nodeId : String)
    (report : TaskReconcileReport) : ClusterState × Bool × Bool :=
  match (state.unclaimedTasks.get? report.taskId).filter fun task => task.nodeId = nodeId with
  | none => (state, false, false)
  | some task =>
    match stackDeployment state task.stack with
    | none => (state, false, false)
    | some deployment =>
      if !report.matchesGeneration deployment.generation then (state, false, false)
      else
        match report.error with
        | none => (state, false, false)
        | some message =>
          let recorded := recordStackError now state task.stack deployment
            { taskId := report.taskId, service := task.service, nodeId, phase := report.phase,
              message }
          (recorded.1, false, recorded.2)

/-- The result as it is kept on the task. -/
def TaskRecord.recordResult (report : TaskReconcileReport) (task : TaskRecord) : TaskRecord :=
  { task with
    appliedGeneration := report.appliedGeneration
    reconcileError := report.error.map fun message => ⟨report.phase, message⟩
    observed := if report.error.isSome then .failed else task.observed }

theorem TaskRecord.recordResult_id (report : TaskReconcileReport) (task : TaskRecord) :
    (task.recordResult report).id = task.id := rfl

def applyTaskResult (now : Int) (state : ClusterState) (nodeId : String)
    (report : TaskReconcileReport) : ClusterState × Bool × Bool :=
  match state.tasks.get? report.taskId with
  | none => applyUnclaimedTaskResult now state nodeId report
  | some task =>
    if task.nodeId != nodeId then (state, false, false)
    else
      match state.services.get? task.serviceId with
      | none => (state, false, false)
      | some service =>
        match stackDeployment state service.stack with
        | none => (state, false, false)
        | some deployment =>
          if !report.matchesGeneration deployment.generation then (state, false, false)
          else
            let soft := task.recordResult report != task
            let state := state.withTasks (state.tasks.modify report.taskId
              (TaskRecord.recordResult report) (TaskRecord.recordResult_id report))
            match report.error with
            | none => (state, soft, false)
            | some message =>
              -- an old revision may fail in any phase but its removal
              if task.revision != service.revision && report.phase != .remove then
                (state, soft, false)
              else if deployment.status.isTerminal then (state, soft, false)
              else
                let recorded := recordStackError now state service.stack deployment
                  { taskId := report.taskId, service := service.name, nodeId,
                    phase := report.phase, message }
                (recorded.1, true, recorded.2)

/-! ## Image resolution -/

/-- The furthest status of the nodes that are not done, or the given one. -/
def aggregateStatus (resolution : DeploymentImageResolutionRecord) : ImageResolutionStatus :=
  ((resolution.nodes.values.filter fun node => !node.status.isComplete).map
      DeploymentImageResolutionNodeRecord.status).foldl
    (fun best status =>
      match best with
      | none => some status
      | some current => if current.rank ≤ status.rank then some status else best)
    none |>.getD resolution.status

/-- One resolution of the loop of `apply_image_progress`. -/
def progressResolution (nodeId : String) (status : ImageResolutionStatus)
    (resolution : DeploymentImageResolutionRecord) : DeploymentImageResolutionRecord :=
  if resolution.nodes.contains nodeId then
    let resolution := { resolution with
      nodes := resolution.nodes.modifyValue nodeId fun node =>
        if node.status.isComplete then node else { node with status } }
    if resolution.status.isComplete then resolution
    else { resolution with status := aggregateStatus resolution }
  else resolution

theorem progressResolution_serviceId (nodeId : String) (status : ImageResolutionStatus)
    (resolution : DeploymentImageResolutionRecord) :
    (progressResolution nodeId status resolution).serviceId = resolution.serviceId := by
  unfold progressResolution
  dsimp only
  repeat' split
  all_goals rfl

/-- Rewrite the unfinished resolutions of an image. -/
def openResolution (image : String) (f : DeploymentImageResolutionRecord →
    DeploymentImageResolutionRecord) (resolution : DeploymentImageResolutionRecord) :
    DeploymentImageResolutionRecord :=
  if resolution.image = image && !resolution.status.isComplete then f resolution else resolution

theorem openResolution_serviceId {image : String} {f : DeploymentImageResolutionRecord →
    DeploymentImageResolutionRecord} (hf : ∀ r, (f r).serviceId = r.serviceId)
    (resolution : DeploymentImageResolutionRecord) :
    (openResolution image f resolution).serviceId = resolution.serviceId := by
  unfold openResolution
  split
  · exact hf resolution
  · rfl

/-- The stack whose active deployment has this generation. -/
def activeDeploymentStack (state : ClusterState) (generation : Nat) :
    Option (StackRecord × StackDeploymentRecord) :=
  state.stackRecords.rows.findSome? fun stack =>
    (stack.deployment.filter fun deployment =>
      deployment.generation = generation && deployment.status.isActive).map
        fun deployment => (stack, deployment)

def progressResolutions (nodeId : String) (progress : ImageResolutionProgress)
    (deployment : StackDeploymentRecord) : StackDeploymentRecord :=
  { deployment with
    imageResolutions := deployment.imageResolutions.map
      (openResolution progress.image (progressResolution nodeId progress.status))
      (openResolution_serviceId (progressResolution_serviceId nodeId progress.status)) }

def applyImageProgress (state : ClusterState) (nodeId : String)
    (progress : ImageResolutionProgress) : ClusterState × Bool :=
  if progress.status != .checking && progress.status != .pulling
      && progress.status != .comparing then (state, false)
  else
    match activeDeploymentStack state progress.deploymentGeneration with
    | none => (state, false)
    | some (stack, deployment) =>
      (modifyDeployment state stack.name (progressResolutions nodeId progress),
        progressResolutions nodeId progress deployment != deployment)

/-- The resolutions a report of this node has to cover. -/
def expectedResolutions (deployment : StackDeploymentRecord) (nodeId image : String) :
    List DeploymentImageResolutionRecord :=
  deployment.imageResolutions.rows.filter fun resolution =>
    resolution.image = image && !resolution.status.isComplete
      && (resolution.nodes.lookup nodeId).any fun node => !node.status.isComplete

/-- What is wrong with the part of a report about one service. -/
def serviceReportError (expected : List DeploymentImageResolutionRecord) (nodeId : String)
    (resolvedImageId : String) (service : ImageResolutionServiceReport) : Option String :=
  let expectedTasks := ((expected.find? fun resolution =>
      resolution.serviceId = service.serviceId).bind fun resolution =>
    resolution.nodes.lookup nodeId).elim [] DeploymentImageResolutionNodeRecord.taskIds
  if Keys.ofElems expectedTasks ≠ Keys.ofElems service.oldImageIds.keys then
    some ("image resolution report for service " ++ Text.quoted service.serviceId
      ++ " did not cover its running tasks")
  else if service.changed
      != service.oldImageIds.values.any (fun imageId => imageId != resolvedImageId) then
    some ("image resolution report for service " ++ Text.quoted service.serviceId
      ++ " contained an inconsistent comparison")
  else none

/-- The error a report carries or has, if any. -/
def imageReportError (expected : List DeploymentImageResolutionRecord) (nodeId : String)
    (report : ImageResolutionReport) : Option String :=
  match report.error with
  | some message => some message
  | none =>
    match report.resolvedImageId with
    | none => some "runtime did not report the resolved image ID"
    | some resolvedImageId =>
      if resolvedImageId.isEmpty then some "runtime reported an empty image ID"
      else if Keys.ofElems (report.services.map ImageResolutionServiceReport.serviceId)
          ≠ Keys.ofElems (expected.map DeploymentImageResolutionRecord.serviceId) then
        some "image resolution report did not cover the assigned services"
      else report.services.findSome? (serviceReportError expected nodeId resolvedImageId)

/-- Rewrite the resolutions of the listed services. -/
def expectedResolution (ids : List String) (f : DeploymentImageResolutionRecord →
    DeploymentImageResolutionRecord) (resolution : DeploymentImageResolutionRecord) :
    DeploymentImageResolutionRecord :=
  if ids.contains resolution.serviceId then f resolution else resolution

theorem expectedResolution_serviceId {ids : List String} {f : DeploymentImageResolutionRecord →
    DeploymentImageResolutionRecord} (hf : ∀ r, (f r).serviceId = r.serviceId)
    (resolution : DeploymentImageResolutionRecord) :
    (expectedResolution ids f resolution).serviceId = resolution.serviceId := by
  unfold expectedResolution
  split
  · exact hf resolution
  · rfl

def failResolution (nodeId message : String) (resolution : DeploymentImageResolutionRecord) :
    DeploymentImageResolutionRecord :=
  { resolution with
    status := .failed
    nodes := resolution.nodes.modifyValue nodeId fun node =>
      { node with status := .failed, error := some message } }

/-- A report with an error fails the resolutions and the deployment, or blocks it. -/
def failImageResolution (now : Int) (nodeId : String) (report : ImageResolutionReport)
    (expected : List DeploymentImageResolutionRecord) (message : String)
    (deployment : StackDeploymentRecord) : StackDeploymentRecord :=
  let ids := expected.map DeploymentImageResolutionRecord.serviceId
  let deployment := { deployment with
    imageResolutions := deployment.imageResolutions.map
      (expectedResolution ids (failResolution nodeId message))
      (expectedResolution_serviceId fun _ => rfl) }
  let deployment := expected.foldl (fun deployment resolution =>
    pushError { taskId := "image:" ++ report.image, service := resolution.service, nodeId,
                phase := .pull, message } deployment) deployment
  if deploymentErrorRequiresUser message then
    { setDeploymentCondition .userActionRequired now "image_pull_dependency" message deployment
      with
      status := .blocked
      finishedAtUnixMs := none }
  else { deployment with status := .failed, finishedAtUnixMs := some now }

/-- The last report about a service, as collecting into a map keeps it. -/
def ImageResolutionReport.service? (report : ImageResolutionReport) (serviceId : String) :
    Option ImageResolutionServiceReport :=
  (report.services.filter fun service => service.serviceId = serviceId).getLast?

/-- One node's answer in a resolution, and the outcome once every node answered. -/
def answerResolution (nodeId : String) (report : ImageResolutionReport)
    (resolution : DeploymentImageResolutionRecord) : DeploymentImageResolutionRecord :=
  match report.service? resolution.serviceId with
  | none => resolution
  | some service =>
    let nodes := resolution.nodes.modifyValue nodeId fun node =>
      { node with
        oldImageIds := service.oldImageIds
        resolvedImageId := report.resolvedImageId
        error := none
        status := if service.changed then .changed else .unchanged }
    if nodes.values.all fun node => node.status.isComplete then
      { resolution with
        nodes
        status := if nodes.values.any fun node => node.status = .changed then .changed
          else .unchanged }
    else { resolution with nodes }

theorem answerResolution_serviceId (nodeId : String) (report : ImageResolutionReport)
    (resolution : DeploymentImageResolutionRecord) :
    (answerResolution nodeId report resolution).serviceId = resolution.serviceId := by
  unfold answerResolution
  dsimp only
  repeat' split
  all_goals rfl

def answerResolutions (nodeId : String) (report : ImageResolutionReport)
    (expected : List DeploymentImageResolutionRecord) (deployment : StackDeploymentRecord) :
    StackDeploymentRecord :=
  { deployment with
    imageResolutions := deployment.imageResolutions.map
      (expectedResolution (expected.map DeploymentImageResolutionRecord.serviceId)
        (answerResolution nodeId report))
      (expectedResolution_serviceId (answerResolution_serviceId nodeId report)) }

/-- The next revision of a service whose image changed, unless it moved on since. -/
def bumpRevision (baseline : Nat) (service : ServiceRecord) : ServiceRecord :=
  if service.revision = baseline then { service with revision := service.revision + 1 }
  else service

theorem bumpRevision_id (baseline : Nat) (svc : ServiceRecord) :
    (bumpRevision baseline svc).id = svc.id := by
  unfold bumpRevision
  split <;> rfl

def bumpChanged (state : ClusterState) (resolution : DeploymentImageResolutionRecord) :
    ClusterState :=
  { state with
    services := state.services.modify resolution.serviceId
      (bumpRevision resolution.baselineRevision) (bumpRevision_id resolution.baselineRevision) }

/-- The resolutions a report brought to the outcome "changed". -/
def changedResolutions (nodeId : String) (report : ImageResolutionReport)
    (expected : List DeploymentImageResolutionRecord) : List DeploymentImageResolutionRecord :=
  (expected.map (answerResolution nodeId report)).filter fun resolution =>
    (resolution.nodes.values.all fun node => node.status.isComplete)
      && resolution.nodes.values.any fun node => node.status = .changed

def applyImageResolutionReport (now : Int) (state : ClusterState) (nodeId : String)
    (report : ImageResolutionReport) : ClusterState × Bool :=
  match activeDeploymentStack state report.deploymentGeneration with
  | none => (state, false)
  | some (stack, deployment) =>
    let expected := expectedResolutions deployment nodeId report.image
    if expected.isEmpty then (state, false)
    else
      match imageReportError expected nodeId report with
      | some message =>
        (modifyDeployment state stack.name
          (failImageResolution now nodeId report expected message), true)
      | none =>
        let answered := modifyDeployment state stack.name
          (answerResolutions nodeId report expected)
        ((changedResolutions nodeId report expected).foldl bumpChanged answered, true)

/-! ## Bookkeeping only -/

section Observed

variable {nodeId : String} {f : StackDeploymentRecord → StackDeploymentRecord}

theorem mapDeployment_core (hf : ∀ dep, (f dep).core = dep.core) (stack : StackRecord) :
    (stack.mapDeployment f).core = stack.core := by
  unfold StackRecord.mapDeployment StackRecord.core
  dsimp only
  rw [Option.map_map]
  congr 2
  funext dep
  exact hf dep

/-- Rewriting a deployment without touching what its apply fixed. -/
theorem modifyDeployment_observed (state : ClusterState) (stackName : String)
    (hf : ∀ dep, (f dep).core = dep.core) :
    Observed nodeId state (modifyDeployment state stackName f) := by
  refine Observed.of_stackRecords (Table.map_modify (StackRecord.mapDeployment_name f) ?_)
  intro stack _
  split
  · exact mapDeployment_core hf stack
  · rfl

theorem recordProgress_core (progressAt : Int) (dep : StackDeploymentRecord) :
    (recordProgress progressAt dep).core = dep.core := by
  unfold recordProgress
  dsimp only
  repeat' split
  all_goals rfl

theorem recordGatewayProgress_core (progressAt : Int) (dep : StackDeploymentRecord) :
    (recordGatewayProgress progressAt dep).core = dep.core := by
  unfold recordGatewayProgress
  dsimp only
  repeat' split
  all_goals rfl

theorem pushError_core (error : StackDeploymentError) (dep : StackDeploymentRecord) :
    (pushError error dep).core = dep.core := by
  unfold pushError
  split <;> rfl

theorem recordTaskError_core (now : Int) (error : StackDeploymentError)
    (dep : StackDeploymentRecord) :
    (recordTaskError now error dep).core = dep.core := by
  refine Eq.trans ?_ (pushError_core error dep)
  unfold recordTaskError
  dsimp only
  repeat' split
  all_goals rfl

theorem failImageResolution_core (now : Int) (nodeId : String) (report : ImageResolutionReport)
    (expected : List DeploymentImageResolutionRecord) (message : String)
    (dep : StackDeploymentRecord) :
    (failImageResolution now nodeId report expected message dep).core = dep.core := by
  unfold failImageResolution
  extract_lets ids resolved pushed
  have hpus : pushed.core = dep.core :=
    List.foldlRecOn (motive := fun start => start.core = dep.core) expected _ (b := resolved) rfl
      fun start hcore _ _ => (pushError_core _ start).trans hcore
  split
  · exact hpus
  · exact hpus

theorem markDeploymentProgress_observed (state : ClusterState) (stackName : String)
    (gen : Nat) (progressAt : Int) :
    Observed nodeId state (markDeploymentProgress state stackName gen progressAt).1 := by
  unfold markDeploymentProgress
  split
  · exact Observed.refl nodeId state
  · exact modifyDeployment_observed state stackName (recordProgress_core progressAt)

theorem markProgressForGeneration_observed (state : ClusterState) (gen : Nat) (progressAt : Int) :
    Observed nodeId state (markProgressForGeneration state gen progressAt).1 := by
  unfold markProgressForGeneration
  split
  · exact Observed.refl nodeId state
  · exact markDeploymentProgress_observed state _ gen progressAt

theorem markCurrentDeploymentProgress_observed (state : ClusterState) (stackName : String)
    (progressAt : Int) :
    Observed nodeId state (markCurrentDeploymentProgress state stackName progressAt).1 := by
  unfold markCurrentDeploymentProgress
  split
  · exact Observed.refl nodeId state
  · exact markDeploymentProgress_observed state stackName _ progressAt

theorem refreshStackDeployments_observed (state : ClusterState) (now : Int)
    (gatewayReady : Bool) (unreadyTcp : List String) :
    Observed nodeId state (refreshStackDeployments state now gatewayReady unreadyTcp).1 := by
  refine Observed.foldl Prod.fst (refreshStackDeployment now gatewayReady unreadyTcp)
    (state, false) fun acc stackName _ => ?_
  unfold refreshStackDeployment
  split
  · exact Observed.refl nodeId acc.1
  split
  · exact Observed.refl nodeId acc.1
  split
  · exact modifyDeployment_observed acc.1 stackName fun _ => rfl
  split
  · exact modifyDeployment_observed acc.1 stackName fun _ => rfl
  · exact Observed.refl nodeId acc.1

/-- Judging deployments rewrites stack records, nothing else. -/
theorem refreshStackDeployments_rest (state : ClusterState) (now : Int) (gatewayReady : Bool)
    (unreadyTcp : List String) :
    (refreshStackDeployments state now gatewayReady unreadyTcp).1 = { state with
      stackRecords :=
        (refreshStackDeployments state now gatewayReady unreadyTcp).1.stackRecords } := by
  refine Loop.foldl_rel (R := fun a b : ClusterState × Bool =>
      b.1 = { a.1 with stackRecords := b.1.stackRecords }) (fun _ => rfl)
    (fun a b c hab hbc => by rw [hbc, hab]) fun acc stackName _ => ?_
  unfold refreshStackDeployment
  repeat' split
  all_goals rfl

theorem recordStackError_observed (now : Int) (state : ClusterState) (stackName : String)
    (dep : StackDeploymentRecord) (error : StackDeploymentError) :
    Observed nodeId state (recordStackError now state stackName dep error).1 := by
  unfold recordStackError
  split
  · exact Observed.refl nodeId state
  · exact modifyDeployment_observed state stackName (recordTaskError_core now error)

theorem applyUnclaimedTaskResult_observed (now : Int) (state : ClusterState) (nodeId : String)
    (report : TaskReconcileReport) :
    Observed nodeId state (applyUnclaimedTaskResult now state nodeId report).1 := by
  unfold applyUnclaimedTaskResult
  split
  · exact Observed.refl nodeId state
  split
  · exact Observed.refl nodeId state
  split
  · exact Observed.refl nodeId state
  split
  · exact Observed.refl nodeId state
  · exact recordStackError_observed now state _ _ _

/-- Keeping a result on a task of the reporting node. -/
theorem recordResult_observed {state : ClusterState}
    {report : TaskReconcileReport} {task : TaskRecord}
    (htask : state.tasks.get? report.taskId = some task) (hnode : task.nodeId = nodeId) :
    Observed nodeId state (state.withTasks (state.tasks.modify report.taskId
      (TaskRecord.recordResult report) (TaskRecord.recordResult_id report))) := by
  obtain ⟨hmem, hid⟩ := Table.get?_eq_some.mp htask
  refine Observed.of_tasks fun other hoth => ?_
  split
  next heq =>
    have hsame : other = task := Table.eq_of_key hoth hmem (heq.trans hid.symm)
    exact TaskObserved.of_identity rfl (hsame ▸ hnode)
  · exact TaskObserved.refl nodeId other

theorem applyTaskResult_observed (now : Int) (state : ClusterState) (nodeId : String)
    (report : TaskReconcileReport) :
    Observed nodeId state (applyTaskResult now state nodeId report).1 := by
  unfold applyTaskResult
  split
  · exact applyUnclaimedTaskResult_observed now state nodeId report
  next task htask =>
    split
    · exact Observed.refl nodeId state
    next hnode =>
      have hnode : task.nodeId = nodeId := by simpa using hnode
      have hrec := recordResult_observed htask hnode
      split
      · exact Observed.refl nodeId state
      split
      · exact Observed.refl nodeId state
      split
      · exact Observed.refl nodeId state
      dsimp only
      split
      · exact hrec
      split
      · exact hrec
      split
      · exact hrec
      · exact hrec.trans (recordStackError_observed now _ _ _ _)

theorem applyImageProgress_observed (state : ClusterState) (nodeId : String)
    (progress : ImageResolutionProgress) :
    Observed nodeId state (applyImageProgress state nodeId progress).1 := by
  unfold applyImageProgress
  split
  · exact Observed.refl nodeId state
  split
  · exact Observed.refl nodeId state
  · exact modifyDeployment_observed state _ fun _ => rfl

theorem bumpChanged_observed (state : ClusterState) (resolution : DeploymentImageResolutionRecord) :
    Observed nodeId state (bumpChanged state resolution) := by
  refine { Observed.refl nodeId state with rest := rfl, services := ?_, revisions := ?_ }
  · refine Table.map_modify (bumpRevision_id resolution.baselineRevision) fun svc _ => ?_
    split
    · unfold bumpRevision
      split <;> rfl
    · rfl
  · intro id old new hold hnew
    unfold bumpChanged at hnew
    rw [Table.get?_modify, hold] at hnew
    split at hnew
    · cases hnew
      unfold bumpRevision
      split
      · exact Nat.le_succ _
      · exact Nat.le_refl _
    · cases hnew
      exact Nat.le_refl _

theorem applyImageResolutionReport_observed (now : Int) (state : ClusterState) (nodeId : String)
    (report : ImageResolutionReport) :
    Observed nodeId state (applyImageResolutionReport now state nodeId report).1 := by
  unfold applyImageResolutionReport
  split
  · exact Observed.refl nodeId state
  next stack dep _ =>
    dsimp only
    split
    · exact Observed.refl nodeId state
    split
    next message _ =>
      exact modifyDeployment_observed state _ (failImageResolution_core now nodeId report _ message)
    · have hans : Observed nodeId state (modifyDeployment state stack.name
          (answerResolutions nodeId report (expectedResolutions dep nodeId report.image))) :=
        modifyDeployment_observed state stack.name fun _ => rfl
      exact hans.trans (Observed.foldl (fun acc => acc) bumpChanged _
        fun acc resolution _ => bumpChanged_observed acc resolution)

end Observed

end Swarmlite
