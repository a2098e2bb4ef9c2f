import Swarmlite.Controller.Sightings

/-!
# What an event does to deployments and operations

`Edits` lumps everything the controller writes down about deployments and operations
into one kind of edit. Here it is spelt out. A deployment changes in eight ways while
it is current (`DeploymentChange`), an operation in three (`Upkeep.advanced`,
`restartResult`, `prepared`), and heartbeats and ticks are sequences of such steps,
together with steps that leave deployments and operations alone. Requests add the
retry of a deployment, the start of a new one, and the acceptance and the end of an
operation (`Change`).

`step_changes` says that every event but a restart is a sequence of changes, and that
the changes requests make are always committed: an event that leaves the generation
of the controller alone is upkeep only. A property of deployments or operations then
takes one small lemma per change, and no later module goes through a heartbeat again.
-/

namespace Swarmlite

open Ordered Relation Loop

variable {body : NodeHeartbeat} {dep : StackDeploymentRecord} {nodeId : String} {srv' : Server}
  {op' : ServiceOperationRecord} {req : ApplyRequest} {inner : Inner} {member : NodeMember}
  {time : Int} {world : World} {gen : Nat} {srv : Server} {name : String}
  {op : ServiceOperationRecord} {env : Env} {cfg : ControllerConfig} {disk : VersionedState}

/-! ## Where times and messages come from

What is recorded about a deployment in the course of an event is traced to the event and to
`found`, the process as the event found it. -/

/-- The two readings of the clock in an event. -/
def Env.reads (env : Env) (time : Int) : Prop :=
  time = env.now.unixMs ∨ time = env.later.unixMs

/-- A reason to record progress of the stack's deployment of this generation, and its time:
a message about the generation, or a container of the stack that is gone. -/
inductive ProgressSource (env : Env) (event : Event) (found : Inner) (name : String)
    (generation : Nat) : Int → Prop
  | taskProgress {nodeId : String} {body : NodeHeartbeat} (progress : TaskReconcileProgress)
      (hevent : event = .heartbeat nodeId body) (hmem : progress ∈ body.taskProgress)
      (hgeneration : progress.desiredGeneration = generation) :
      ProgressSource env event found name generation progress.updatedAtUnixMs
  | taskResult {nodeId : String} {body : NodeHeartbeat} (report : TaskReconcileReport)
      (hevent : event = .heartbeat nodeId body) (hmem : report ∈ body.taskResults)
      (hgeneration : report.desiredGeneration = generation) :
      ProgressSource env event found name generation env.now.unixMs
  | imageProgress {nodeId : String} {body : NodeHeartbeat} (progress : ImageResolutionProgress)
      (hevent : event = .heartbeat nodeId body) (hmem : progress ∈ body.imageProgress)
      (hgeneration : progress.deploymentGeneration = generation) :
      ProgressSource env event found name generation progress.updatedAtUnixMs
  | imageResult {nodeId : String} {body : NodeHeartbeat} (report : ImageResolutionReport)
      (hevent : event = .heartbeat nodeId body) (hmem : report ∈ body.imageResults)
      (hgeneration : report.deploymentGeneration = generation) :
      ProgressSource env event found name generation env.now.unixMs
  | forgotten {nodeId : String} {body : NodeHeartbeat} (task : UnclaimedTask)
      (hevent : event = .heartbeat nodeId body) (hmem : task ∈ found.state.unclaimedTasks)
      (hstack : task.stack = name) (hnode : task.nodeId = nodeId)
      (hinventory : body.taskInventoryError.isNone = true)
      (hgone : (reportsById body).contains task.id = false) :
      ProgressSource env event found name generation env.now.unixMs

/-- A gateway reports for the first time that it applied the current configuration. -/
def Event.bringsGatewayReport (event : Event) (found : Inner) : Prop :=
  ∃ nodeId body, event = .heartbeat nodeId body ∧
    found.gatewayReports.lookup nodeId ≠ some body.gateway ∧
    body.gateway.applied found.gatewayGeneration = true

/-- A message with which the event may fail a task: the error of a result, or what the
inventory shows. -/
def Event.reportsError (event : Event) (message : String) : Prop :=
  (∃ nodeId body, event = .heartbeat nodeId body ∧
    ∃ report ∈ body.taskResults, report.error = some message) ∨
  message = "container reported failed" ∨ message = "container disappeared from the runtime"

/-! ## Changes of a deployment -/

/-- One change of the current deployment of a stack by a heartbeat, a tick or an apply. -/
inductive DeploymentChange (env : Env) (event : Event) (found : Inner) (name : String) :
    StackDeploymentRecord → StackDeploymentRecord → Prop
  | progress (deployment : StackDeploymentRecord) (time : Int)
      (hsource : ProgressSource env event found name deployment.generation time)
      (hactive : deployment.status.isActive = true) :
      DeploymentChange env event found name deployment (recordProgress time deployment)
  | gatewayProgress (deployment : StackDeploymentRecord)
      (hreport : event.bringsGatewayReport found)
      (hwait : deployment.waitForGateway = true) :
      DeploymentChange env event found name deployment
        (recordGatewayProgress env.now.unixMs deployment)
  | healthy (deployment : StackDeploymentRecord) (time : Int) (htime : env.reads time)
      (hactive : deployment.status.isActive = true) :
      DeploymentChange env event found name deployment (finishHealthy time deployment)
  | stalled (deployment : StackDeploymentRecord) (time : Int) (htime : env.reads time)
      (hactive : deployment.status.isActive = true)
      (hoverdue : progressOverdue time deployment = true) :
      DeploymentChange env event found name deployment (stall time deployment)
  | taskError (deployment : StackDeploymentRecord) (error : StackDeploymentError)
      (hactive : deployment.status.isActive = true) (herror : event.reportsError error.message) :
      DeploymentChange env event found name deployment
        (recordTaskError env.now.unixMs error deployment)
  | imageProgress (deployment : StackDeploymentRecord) (nodeId : String)
      (progress : ImageResolutionProgress) (hactive : deployment.status.isActive = true) :
      DeploymentChange env event found name deployment
        (progressResolutions nodeId progress deployment)
  | imageAnswer (deployment : StackDeploymentRecord) (nodeId : String)
      (report : ImageResolutionReport) (expected : List DeploymentImageResolutionRecord)
      (hactive : deployment.status.isActive = true) :
      DeploymentChange env event found name deployment
        (answerResolutions nodeId report expected deployment)
  | imageFailure (deployment : StackDeploymentRecord) {nodeId : String} {body : NodeHeartbeat}
      (report : ImageResolutionReport) (expected : List DeploymentImageResolutionRecord)
      (message : String) (hevent : event = .heartbeat nodeId body)
      (hreport : report ∈ body.imageResults)
      (hmessage : imageReportError expected nodeId report = some message)
      (hactive : deployment.status.isActive = true) :
      DeploymentChange env event found name deployment
        (failImageResolution env.now.unixMs nodeId report expected message deployment)

/-! ## Changes of the cluster -/

/-- Deployments and operations stay as they are, nodes are known as before or by this
heartbeat, and only a heartbeat sights containers. -/
structure Untouched (event : Event) (s s' : ClusterState) : Prop where
  records : s'.stackRecords = s.stackRecords
  operations : s'.serviceOperations = s.serviceOperations
  nodes : ∀ node ∈ s'.nodes,
    (∃ old ∈ s.nodes, old.supportsServiceOperations = node.supportsServiceOperations) ∨
    ∃ nodeId body, event = .heartbeat nodeId body ∧
      node.supportsServiceOperations = body.node.supportsServiceOperations
  sights : (∀ nodeId body, event ≠ .heartbeat nodeId body) → Unsighted s s'

/-- The state with another table of operations. -/
def ClusterState.withOperations (s : ClusterState)
    (operations : Table ServiceOperationRecord.operationId) : ClusterState :=
  { s with serviceOperations := operations }

@[simp] theorem ClusterState.withOperations_serviceOperations (s : ClusterState)
    (operations : Table ServiceOperationRecord.operationId) :
    (s.withOperations operations).serviceOperations = operations := rfl

/-- One step of a heartbeat or a tick. -/
inductive Upkeep (env : Env) (event : Event) (found : Inner) :
    ClusterState → ClusterState → Prop
  | rest {s s' : ClusterState} (h : Untouched event s s') : Upkeep env event found s s'
  | deployment (s : ClusterState) (name : String)
      {f : StackDeploymentRecord → StackDeploymentRecord}
      (h : ∀ deployment, stackDeployment s name = some deployment →
        DeploymentChange env event found name deployment (f deployment)) :
      Upkeep env event found s (modifyDeployment s name f)
  | gatewayProgress (s : ClusterState) (hreport : event.bringsGatewayReport found) :
      Upkeep env event found s (markGatewayProgress s env.now.unixMs).1
  | advanced (s : ClusterState) (live : Keys String) (time : Int) (htime : env.reads time) :
      Upkeep env event found s (advanceServiceOperations s live time).1
  | restartResult (s : ClusterState) {nodeId : String} {body : NodeHeartbeat}
      (report : TaskReconcileReport) (op : ServiceOperationRecord)
      (hevent : event = .heartbeat nodeId body) (hreport : report ∈ body.taskResults)
      (hfound : s.serviceOperations.rows.find? (restartOf nodeId report) = some op) :
      Upkeep env event found s (s.withOperations (s.serviceOperations.modify op.operationId
        (recordRestart env.now.unixMs report) (recordRestart_id env.now.unixMs report)))
  | prepared (s : ClusterState) {nodeId : String} {body : NodeHeartbeat}
      (report : ImageResolutionReport) (op : ServiceOperationRecord)
      (hevent : event = .heartbeat nodeId body) (hreport : report ∈ body.imageResults)
      (hfound : s.serviceOperations.rows.find? (preparationOf nodeId report) = some op) :
      Upkeep env event found s (s.withOperations (s.serviceOperations.modify op.operationId
        (recordPreparation env.now.unixMs nodeId report)
        (recordPreparation_id env.now.unixMs nodeId report)))

abbrev Upkeeps (env : Env) (event : Event) (found : Inner) :
    ClusterState → ClusterState → Prop :=
  ReflTransGen (Upkeep env event found)

namespace Upkeeps

variable {env : Env} {event : Event} {found : Inner} {s s' : ClusterState}

/-- A step that changes other parts of the state. -/
theorem rest (hsta : s'.stackRecords = s.stackRecords)
    (hope : s'.serviceOperations = s.serviceOperations) (hnod : s'.nodes = s.nodes)
    (hsig : Unsighted s s') : Upkeeps env event found s s' := by
  refine .single (.rest ⟨hsta, hope, fun node hnode => ?_, fun _ => hsig⟩)
  rw [hnod] at hnode
  exact .inl ⟨node, hnode, rfl⟩

/-- A step that changes neither deployments, operations, nodes nor tasks. -/
theorem aside (hsta : s'.stackRecords = s.stackRecords)
    (hope : s'.serviceOperations = s.serviceOperations) (hnod : s'.nodes = s.nodes)
    (htas : s'.tasks = s.tasks) : Upkeeps env event found s s' :=
  rest hsta hope hnod (Unsighted.of_tasks htas)

/-- One deployment is rewritten. -/
theorem deployment {f : StackDeploymentRecord → StackDeploymentRecord}
    (hdep : stackDeployment s name = some dep)
    (h : DeploymentChange env event found name dep (f dep)) :
    Upkeeps env event found s (modifyDeployment s name f) := by
  refine .single (.deployment s name fun other hoth => ?_)
  rw [hdep] at hoth
  cases hoth
  exact h

theorem foldl {α β : Type} (stateOf : α → ClusterState) (f : α → β → α) (init : α) {l : List β}
    (hstep : ∀ acc, ∀ x ∈ l, Upkeeps env event found (stateOf acc) (stateOf (f acc x))) :
    Upkeeps env event found (stateOf init) (stateOf (l.foldl f init)) :=
  Loop.foldl_rel (R := fun a b => Upkeeps env event found (stateOf a) (stateOf b))
    (fun _ => .refl) (fun _ _ _ h h' => h.trans h') hstep

end Upkeeps

/-! ## Recording a heartbeat -/

section Recording

variable {env : Env} {event : Event} {found : Inner} {report : TaskReconcileReport}

theorem markDeploymentProgress_upkeeps
    (hsou : ProgressSource env event found name gen time) (s : ClusterState) :
    Upkeeps env event found s (markDeploymentProgress s name gen time).1 := by
  unfold markDeploymentProgress
  split
  · exact .refl
  next dep hfou =>
    obtain ⟨hdep, hcond⟩ := Option.filter_eq_some_iff.mp hfou
    simp only [Bool.and_eq_true, decide_eq_true_eq] at hcond
    obtain ⟨rfl, hact⟩ := hcond
    exact .deployment hdep (.progress dep time hsou hact)

theorem markProgressForGeneration_upkeeps
    (hsou : ∀ name, ProgressSource env event found name gen time) (s : ClusterState) :
    Upkeeps env event found s (markProgressForGeneration s gen time).1 := by
  unfold markProgressForGeneration
  split
  · exact .refl
  next stack _ => exact markDeploymentProgress_upkeeps (hsou stack.name) s

theorem markCurrentDeploymentProgress_upkeeps
    (hsou : ∀ generation, ProgressSource env event found name generation time)
    (s : ClusterState) :
    Upkeeps env event found s (markCurrentDeploymentProgress s name time).1 := by
  unfold markCurrentDeploymentProgress
  split
  · exact .refl
  next dep _ => exact markDeploymentProgress_upkeeps (hsou dep.generation) s

theorem forgetDisappeared_upkeeps (heve : event = .heartbeat nodeId body) {pass : Pass}
    (hunc : pass.state.unclaimedTasks = found.state.unclaimedTasks) :
    Upkeeps env event found pass.state
      (forgetDisappeared env.now.unixMs nodeId body pass).state := by
  unfold forgetDisappeared
  split
  next hinv =>
    refine Upkeeps.foldl Pass.state (forgetUnclaimed env.now.unixMs) pass fun acc task htask => ?_
    obtain ⟨hmem, hgone⟩ := List.mem_filter.mp htask
    simp only [Bool.and_eq_true, decide_eq_true_eq, Bool.not_eq_true'] at hgone
    rw [hunc] at hmem
    have hera : Upkeeps env event found acc.state { acc.state with
        unclaimedTasks := acc.state.unclaimedTasks.erase task.id } := Upkeeps.aside rfl rfl rfl rfl
    exact hera.trans (markCurrentDeploymentProgress_upkeeps (fun _ =>
      .forgotten task heve hmem rfl hgone.1 hinv hgone.2) _)
  · exact .refl

theorem recordContainers_upkeeps (clusterId nodeId : String) (body : NodeHeartbeat) (pass : Pass) :
    Upkeeps env event found pass.state (recordContainers clusterId nodeId body pass).state := by
  refine Upkeeps.foldl Pass.state (recordContainer clusterId nodeId) pass fun acc report _ => ?_
  unfold recordContainer
  dsimp only
  repeat' split
  all_goals exact Upkeeps.aside rfl rfl rfl rfl

theorem applyTaskProgress_upkeeps (progress : TaskReconcileProgress)
    (hsou : ∀ name, ProgressSource env event found name progress.desiredGeneration
      progress.updatedAtUnixMs) (nodeId : String) (pass : Pass) :
    Upkeeps env event found pass.state (applyTaskProgress nodeId pass progress).state := by
  unfold applyTaskProgress
  split
  · exact .refl
  next stackName generation _ =>
    split
    · exact .refl
    next hgen =>
      obtain rfl := not_not.mp hgen
      dsimp only
      split
      · exact .refl
      · exact markDeploymentProgress_upkeeps (hsou stackName) pass.state

theorem isActive_of_not_terminal {status : StackDeploymentStatus}
    (h : ¬ status.isTerminal = true) : status.isActive = true := by
  unfold StackDeploymentStatus.isActive
  simpa using h

theorem recordStackError_upkeeps {s : ClusterState} (hdep : stackDeployment s name = some dep)
    {error : StackDeploymentError} (herr : event.reportsError error.message) :
    Upkeeps env event found s (recordStackError env.now.unixMs s name dep error).1 := by
  unfold recordStackError
  split
  · exact .refl
  next hact =>
    have hact := isActive_of_not_terminal hact
    exact .deployment hdep (.taskError dep error hact herr)

theorem applyUnclaimedTaskResult_upkeeps
    (herr : ∀ message, report.error = some message → event.reportsError message)
    (s : ClusterState) (nodeId : String) :
    Upkeeps env event found s (applyUnclaimedTaskResult env.now.unixMs s nodeId report).1 := by
  unfold applyUnclaimedTaskResult
  split
  · exact .refl
  split
  · exact .refl
  next dep hdep =>
    split
    · exact .refl
    split
    · exact .refl
    next message hmes => exact recordStackError_upkeeps hdep (herr message hmes)

theorem applyTaskResult_upkeeps
    (herr : ∀ message, report.error = some message → event.reportsError message)
    (s : ClusterState) (nodeId : String) :
    Upkeeps env event found s (applyTaskResult env.now.unixMs s nodeId report).1 := by
  unfold applyTaskResult
  split
  · exact applyUnclaimedTaskResult_upkeeps herr s nodeId
  split
  · exact .refl
  split
  · exact .refl
  split
  · exact .refl
  next dep hdep =>
    split
    · exact .refl
    · -- the result is kept on the task first
      have hkept : Upkeeps env event found s (s.withTasks (s.tasks.modify report.taskId
          (TaskRecord.recordResult report) (TaskRecord.recordResult_id report))) :=
        Upkeeps.rest rfl rfl rfl (Unsighted.modify _ (recordResult_sameSight report))
      dsimp only
      split
      · exact hkept
      next message hmes =>
        split
        · exact hkept
        split
        · exact hkept
        · refine hkept.trans (recordStackError_upkeeps ?_ ?_)
          · exact hdep
          · exact herr message hmes

theorem recordTaskResults_upkeeps (heve : event = .heartbeat nodeId body) (pass : Pass) :
    Upkeeps env event found pass.state
      (recordTaskResults env.now.unixMs nodeId body pass).state := by
  have hres : Upkeeps env event found pass.state (body.taskResults.foldl
      (recordTaskResult env.now.unixMs nodeId (reportsById body)) (pass, [])).1.state := by
    refine Upkeeps.foldl (fun acc : Pass × List String => acc.1.state) _ (pass, [])
      fun acc report hrep => ?_
    unfold recordTaskResult
    dsimp only
    split
    next op hfou =>
      exact .single (.restartResult acc.1.state report op heve hrep hfou)
    split
    · split
      next message _ =>
        split
        · exact Upkeeps.rest rfl rfl rfl (Unsighted.modify _
            fun _ => ⟨rfl, rfl, rfl, rfl, fun h => by cases h⟩)
        · exact .refl
      · exact .refl
    · let progress : TaskReconcileProgress :=
        { taskId := report.taskId
          desiredGeneration := report.desiredGeneration
          phase := if report.error.isNone then .verify else report.phase
          updatedAtUnixMs := env.now.unixMs }
      have hsou : ∀ name, ProgressSource env event found name report.desiredGeneration
          env.now.unixMs := fun _ => .taskResult report heve hrep rfl
      refine (applyTaskProgress_upkeeps progress hsou nodeId acc.1).trans ?_
      exact applyTaskResult_upkeeps
        (fun message hmes => .inl ⟨nodeId, body, heve, report, hrep, hmes⟩) _ nodeId
  refine hres.trans (Upkeeps.foldl Pass.state restartedTask _ fun acc taskId _ => ?_)
  exact Upkeeps.rest rfl rfl rfl (Unsighted.modify _
    fun _ => ⟨rfl, rfl, rfl, rfl, fun h => by cases h⟩)

theorem applyImageProgress_upkeeps (s : ClusterState) (nodeId : String)
    (progress : ImageResolutionProgress) :
    Upkeeps env event found s (applyImageProgress s nodeId progress).1 := by
  unfold applyImageProgress
  split
  · exact .refl
  split
  · exact .refl
  next stack dep hfou =>
    obtain ⟨hdep, hact, -⟩ := activeDeploymentStack_some hfou
    exact .deployment hdep (.imageProgress dep nodeId progress hact)

theorem applyImageResolutionReport_upkeeps
    (heve : event = .heartbeat nodeId body) {report : ImageResolutionReport}
    (hrep : report ∈ body.imageResults) (s : ClusterState) :
    Upkeeps env event found s (applyImageResolutionReport env.now.unixMs s nodeId report).1 := by
  unfold applyImageResolutionReport
  split
  · exact .refl
  next stack dep hfou =>
    obtain ⟨hcur, hact, -⟩ := activeDeploymentStack_some hfou
    dsimp only
    split
    · exact .refl
    split
    next message hmes =>
      exact .deployment hcur (.imageFailure dep report _ message heve hrep hmes hact)
    · exact (Upkeeps.deployment hcur (.imageAnswer dep nodeId report _ hact)).trans
        (Upkeeps.foldl id bumpChanged _ fun _ _ _ => Upkeeps.aside rfl rfl rfl rfl)

theorem recordImageResult_upkeeps
    (heve : event = .heartbeat nodeId body) {report : ImageResolutionReport}
    (hrep : report ∈ body.imageResults) (pass : Pass) :
    Upkeeps env event found pass.state
      (recordImageResult env.now.unixMs nodeId pass report).state := by
  have happ : Upkeeps env event found pass.state
      (applyImageResolutionReport env.now.unixMs pass.state nodeId report).1 :=
    applyImageResolutionReport_upkeeps heve hrep pass.state
  unfold recordImageResult
  dsimp only
  split
  next op hfou =>
    exact .single (.prepared pass.state report op heve hrep hfou)
  split
  · exact happ.trans (markProgressForGeneration_upkeeps
      (fun _ => .imageResult report heve hrep rfl) _)
  · exact happ

theorem recordFailure_upkeeps {failure : String × String} (herr : event.reportsError failure.2)
    (nodeId : String) (body : NodeHeartbeat) (pass : Pass) :
    Upkeeps env event found pass.state
      (recordFailure env.now.unixMs nodeId body pass failure).state := by
  unfold recordFailure
  split
  · exact .refl
  split
  · exact .refl
  · refine applyTaskResult_upkeeps (fun message hmes => ?_) pass.state nodeId
    cases hmes
    exact herr

/-- **Recording a heartbeat is upkeep.** -/
theorem record_upkeeps (clusterId : String) (heve : event = .heartbeat nodeId body) {pass : Pass}
    (hunc : pass.state.unclaimedTasks = found.state.unclaimedTasks) :
    Upkeeps env event found pass.state (record clusterId env.now nodeId body pass).state := by
  refine (forgetDisappeared_upkeeps heve hunc).trans
    ((recordContainers_upkeeps clusterId nodeId body _).trans ?_)
  unfold record
  extract_lets now reports inventoryOk disappeared contained failures removed observed results
    progressed resolved reported failed
  have hobs : Upkeeps env event found contained.state observed.state :=
    .single (.rest ⟨rfl, rfl, fun node hnode => .inl ⟨node, hnode, rfl⟩,
      fun hoth => absurd heve (hoth nodeId body)⟩)
  have hresu : Upkeeps env event found observed.state results.state :=
    recordTaskResults_upkeeps heve observed
  have hpro : Upkeeps env event found results.state progressed.state := by
    refine Upkeeps.foldl Pass.state (recordImageProgress nodeId) results fun acc progress hmem => ?_
    exact (applyImageProgress_upkeeps acc.state nodeId progress).trans
      (markProgressForGeneration_upkeeps (fun _ => .imageProgress progress heve hmem rfl) _)
  have hres : Upkeeps env event found progressed.state resolved.state :=
    Upkeeps.foldl Pass.state (recordImageResult now nodeId) progressed fun acc report hmem =>
      recordImageResult_upkeeps heve hmem acc
  have hrep : Upkeeps env event found resolved.state reported.state := by
    refine Upkeeps.foldl Pass.state (recordProgressReport nodeId) resolved fun acc progress hmem => ?_
    unfold recordProgressReport
    split
    · exact .refl
    · exact applyTaskProgress_upkeeps progress (fun _ => .taskProgress progress heve hmem rfl)
        nodeId acc
  have hfai : Upkeeps env event found reported.state failed.state := by
    refine Upkeeps.foldl Pass.state (recordFailure now nodeId body) reported
      fun acc failure hmem => ?_
    obtain ⟨task, -, hfail⟩ := List.mem_filterMap.mp hmem
    exact recordFailure_upkeeps (.inr (observedFailure_some hfail).2.2) nodeId body acc
  have hrem : Upkeeps env event found failed.state (removed.foldl removeTask failed).state :=
    Upkeeps.foldl Pass.state removeTask failed fun acc taskId _ =>
      Upkeeps.rest rfl rfl rfl (Unsighted.erase taskId)
  exact hobs.trans (hresu.trans (hpro.trans (hres.trans (hrep.trans (hfai.trans hrem)))))

theorem admitNode_upkeeps (heve : event = .heartbeat member.id body) :
    Upkeeps env event found found.state (admitNode env.now member body found).state := by
  have harr : Upkeeps env event found found.state (admitted found.state member body.node) := by
    refine .single (.rest ⟨rfl, rfl, fun node hnode => ?_, fun _ => .of_tasks rfl⟩)
    rcases Table.mem_insert.mp hnode with rfl | ⟨hold, -⟩
    · exact .inr ⟨member.id, body, heve, rfl⟩
    · exact .inl ⟨node, hold, rfl⟩
  refine harr.trans ?_
  unfold admitNode Pass.state
  dsimp only
  split
  next hrep =>
    simp only [Bool.and_eq_true, decide_eq_true_eq] at hrep
    exact .single (.gatewayProgress (admitted found.state member body.node)
      ⟨member.id, body, heve, hrep.1.2, hrep.2⟩)
  · exact .refl

end Recording

/-! ## Passes -/

section Passes

variable {plat : Platform} {cfg : ControllerConfig} {env : Env} {event : Event}
  {found : Inner}

theorem reconcile_upkeeps (ext : Externals) (huuid : Function.Injective env.uuid)
    (live : Keys String) (now : Int) {s : ClusterState} (hfre : Fresh env.uuid { state := s }) :
    Upkeeps env event found s (reconcile ext env.uuid live now s).state := by
  have hfra := Moves.sameFrame (reconcile_moves live ext huuid now hfre)
  refine Upkeeps.rest ?_ ?_ ?_ (reconcile_moves live ext huuid now hfre).unsighted
  all_goals rw [hfra.rest]

theorem scheduleAndRoute_upkeeps (huuid : Function.Injective env.uuid) (endDrains : Bool)
    (pass : Pass) (hfre : Fresh env.uuid { state := pass.state }) :
    Upkeeps env event found pass.state (scheduleAndRoute plat cfg env endDrains pass).state := by
  have hrou : ∀ s, Upkeeps env event found s (refreshReadyStackRoutes s).1 :=
    fun _ => Upkeeps.aside rfl rfl rfl rfl
  unfold scheduleAndRoute
  extract_lets live advanced drained scheduled routed
  have hadv : Upkeeps env event found pass.state advanced.1 :=
    .single (.advanced pass.state live env.now.unixMs (.inl rfl))
  have hfreA : Fresh env.uuid { state := advanced.1 } :=
    (advanceServiceOperations_observed "" pass.state live env.now.unixMs).fresh hfre
  have hdra : Upkeeps env event found advanced.1 drained.1 ∧
      Fresh env.uuid { state := drained.1 } := by
    cases endDrains with
    | false => exact ⟨.refl, hfreA⟩
    | true =>
      exact ⟨Upkeeps.rest rfl rfl rfl (finishDrains_unsighted _ _), fresh_of_map hfreA⟩
  have hsch : Upkeeps env event found drained.1 scheduled.state :=
    reconcile_upkeeps plat.toExternals huuid live env.now.unixMs hdra.2
  exact hadv.trans (hdra.1.trans (hsch.trans (hrou scheduled.state)))

/-- Judging deployments finishes or stalls them. -/
theorem refreshStackDeployments_upkeeps (htime : env.reads time) (s : ClusterState)
    (gatewayReady : Bool) (unreadyTcp : List String) :
    Upkeeps env event found s (refreshStackDeployments s time gatewayReady unreadyTcp).1 := by
  refine Upkeeps.foldl Prod.fst (refreshStackDeployment time gatewayReady unreadyTcp) (s, false)
    fun acc name _ => ?_
  unfold refreshStackDeployment
  split
  · exact .refl
  next dep hdep =>
    split
    · exact .refl
    next hact =>
      have hact := isActive_of_not_terminal hact
      split
      · exact .deployment hdep (.healthy dep time htime hact)
      split
      next hove =>
        exact .deployment hdep (.stalled dep time htime hact hove)
      · exact .refl

theorem refreshStackDeploymentsLocked_upkeeps (htime : env.reads time) {refreshed : Inner × Bool}
    (h : refreshStackDeploymentsLocked plat cfg time inner = .ok refreshed) :
    Upkeeps env event found inner.state refreshed.1.state := by
  unfold refreshStackDeploymentsLocked at h
  split at h
  · cases h
  · cases h
    exact refreshStackDeployments_upkeeps htime inner.state _ _

theorem judge_upkeeps {refreshAt : Int} (htime : env.reads refreshAt) {pass pass' : Pass}
    (h : judge plat cfg env refreshAt pass = .ok pass') :
    Upkeeps env event found pass.state pass'.state := by
  unfold judge at h
  split at h
  · cases h
  next refreshed href =>
    cases h
    exact (refreshStackDeploymentsLocked_upkeeps htime href).tail
      (.advanced _ _ env.later.unixMs (.inr rfl))

end Passes

/-! ## Events -/

/-- The operation could not be started. -/
def failStart (now : Int) (op : ServiceOperationRecord) : ServiceOperationRecord :=
  let failed := op.fail "deployment_start_failed" now
  { failed with view := { failed.view with revision := failed.view.revision + 1 } }

theorem failStart_id (now : Int) (op : ServiceOperationRecord) :
    (failStart now op).operationId = op.operationId := rfl

/-- What a request decides about deployments and operations, before any pass. -/
inductive Decision (platform : Platform) (env : Env) (world : World) (event : Event) :
    ClusterState → Prop
  | retried {stackName : String} {s : ClusterState} (hevent : event = .retry stackName)
      (h : retryStack world.state stackName env.now.unixMs = .ok s) :
      Decision platform env world event s
  | applied {index : Nat} (request : ApplyRequest) (live : Keys String) (planning : Planning)
      (hevent : event = .commit index)
      (hrequest : world.requests[index]? = some (.guarded request))
      (hcheck : checkApply world.server.inner request = .ok ())
      (hplan : planServices world.state live request = .ok planning) :
      Decision platform env world event (startOwnedDeployment
        (requestedState world.server.inner request env.now.unixMs planning) request.policy
        (world.server.inner.generation + 1) env.now.unixMs)
  | accepted (request : OperationRequest) (op : ServiceOperationRecord)
      (hevent : event = .submitOperation request)
      (hnew : world.state.serviceOperations.rows.find? (fun op =>
        op.principalId = request.principal.id && op.idempotencyKey = request.key) = none)
      (haccept : acceptOperation platform world.config env world.server.inner request = .ok op) :
      Decision platform env world event
        (world.state.withOperations (world.state.serviceOperations.insert op))
  | unstarted {operationId : String} (hevent : event = .failPrepared operationId) :
      Decision platform env world event
        (world.state.withOperations (world.state.serviceOperations.modify operationId
          (failStart env.now.unixMs) (failStart_id env.now.unixMs)))

/-- What an event leaves: upkeep, or a decision with its upkeep, which is committed. What
is stored is what is in use at a commit. -/
structure Changed (platform : Platform) (env : Env) (world : World) (event : Event)
    (server : Server) : Prop where
  changes : Upkeeps env event world.server.inner world.state server.inner.state ∨
    (∃ s, Decision platform env world event s ∧
      Upkeeps env event world.server.inner s server.inner.state) ∧
      world.server.inner.generation < server.inner.generation
  generation : world.server.inner.generation ≤ server.inner.generation
  disk : server.disk = world.server.disk ∧
      server.inner.generation = world.server.inner.generation ∨
    server.disk.state = server.inner.state.persisted ∧
      server.disk.generation = server.inner.generation ∧
      operationsStorable server.inner.state.serviceOperations = true

section Events

variable {plat : Platform} {env : Env} {world : World} {event : Event}

theorem Changed.refl : Changed plat env world event world.server :=
  ⟨.inl .refl, Nat.le_refl _, .inl ⟨rfl, rfl⟩⟩

/-- Changes the process makes without a commit. -/
theorem Changed.kept (h : Upkeeps env event world.server.inner world.state inner.state)
    (hgen : inner.generation = world.server.inner.generation) :
    Changed plat env world event { world.server with inner } :=
  ⟨.inl h, hgen.ge, .inl ⟨rfl, hgen⟩⟩

/-- A commit publishes and moves the generation, in the process and in the database. -/
theorem commitLocked_changed
    (h : commitLocked plat world.config env { world.server with inner } = .ok srv')
    (hgen : inner.generation = world.server.inner.generation)
    (hcha : Upkeeps env event world.server.inner world.state inner.state ∨
      ∃ s, Decision plat env world event s ∧ Upkeeps env event world.server.inner s inner.state) :
    Changed plat env world event srv' := by
  obtain ⟨snap, -, rfl, hwri⟩ := commitLocked_ok h
  have hpub : Upkeeps env event world.server.inner inner.state (inner.committed snap).state :=
    Upkeeps.aside rfl rfl rfl rfl
  have hmov : world.server.inner.generation < inner.generation + 1 := by omega
  refine ⟨?_, hmov.le, .inr ⟨rfl, rfl, hwri.storable⟩⟩
  rcases hcha with hupk | ⟨s, hdec, hupk⟩
  · exact .inl (hupk.trans hpub)
  · exact .inr ⟨⟨s, hdec, hupk.trans hpub⟩, hmov⟩

/-- A request that commits once or not at all. -/
theorem Commits.changed {kind : ClusterState → Prop}
    (h : Commits plat world.config env kind world.server srv')
    (hkind : ∀ s, kind s → Upkeeps env event world.server.inner world.state s ∨
      ∃ s₀, Decision plat env world event s₀ ∧ Upkeeps env event world.server.inner s₀ s) :
    Changed plat env world event srv' := by
  cases h with
  | unchanged => exact Changed.refl
  | committed hsta hcom => exact commitLocked_changed hcom rfl (hkind _ hsta)

theorem served_changed (world : World) {result : Except ControllerError Server}
    (h : ∀ srv, result = .ok srv → Changed plat env world event srv) :
    Changed plat env world event (world.served result).server := by
  cases result with
  | error => exact Changed.refl
  | ok srv => exact h srv rfl

theorem Ended.changed {refreshAt : Int} {scheduled : Pass} {passed : Bool}
    (h : Ended plat world.config env refreshAt world.server scheduled passed srv')
    (htime : env.reads refreshAt)
    (hsch : Upkeeps env event world.server.inner world.state scheduled.state)
    (hsame : scheduled.inner.generation = world.server.inner.generation) :
    Changed plat env world event srv' := by
  have hupk : ∀ {judged}, judge plat world.config env refreshAt scheduled = .ok judged →
      Upkeeps env event world.server.inner world.state judged.state :=
    fun hjud => hsch.trans (judge_upkeeps htime hjud)
  have hgen : ∀ {judged}, judge plat world.config env refreshAt scheduled = .ok judged →
      judged.inner.generation = world.server.inner.generation :=
    fun hjud => (judge_ok hjud).1 ▸ hsame
  cases h with
  | unjudged => exact .kept hsch hsame
  | undone hjud => exact .kept .refl (hgen hjud)
  | unchanged hjud => exact .kept (hupk hjud) (hgen hjud)
  | committed hjud hcom => exact commitLocked_changed hcom (hgen hjud) (.inl (hupk hjud))
  | refreshed hjud _ href hinn =>
    obtain ⟨snap, -, rfl⟩ := refreshGatewaySnapshot_ok href
    rcases hinn with rfl | rfl <;> exact .kept (hupk hjud) (hgen hjud)

theorem tick_changed (hfre : FreshIds env world) :
    Changed plat env world .tick (tick plat world.config env world.server) := by
  obtain ⟨passed, h⟩ := tick_ended plat world.config env world.server
  exact h.changed (.inl rfl) (scheduleAndRoute_upkeeps hfre.injective true
    { inner := world.server.inner } hfre.fresh) rfl

/-- The deadlines of drains are upkeep, committed at once. -/
theorem Changed.deadlines {deadline : Int} (h : Changed plat env world event srv)
    (hcom : commitGatewayAckLocked world.config env (srv.withDeadlines deadline) = .ok srv') :
    Changed plat env world event srv' := by
  have hdea : Upkeeps env event world.server.inner srv.inner.state
      (srv.withDeadlines deadline).inner.state :=
    .rest rfl rfl rfl (Unsighted.map _ fun task _ => setDrainDeadline_sameSight _ task)
  obtain ⟨rfl, hwri⟩ := commitGatewayAckLocked_ok hcom
  refine ⟨?_, Nat.le_succ_of_le h.generation, .inr ⟨rfl, rfl, hwri.storable⟩⟩
  rcases h.changes with hupk | ⟨⟨s, hdec, hupk⟩, hmov⟩
  · exact .inl (hupk.trans hdea)
  · exact .inr ⟨⟨s, hdec, hupk.trans hdea⟩, Nat.lt_succ_of_lt hmov⟩

theorem heartbeatScheduled_upkeeps (hfre : FreshIds env world) (hmem : member.id = nodeId) :
    Upkeeps env (.heartbeat nodeId body) world.server.inner world.state
      (heartbeatScheduled plat world.config env world.server.inner member body).state := by
  subst hmem
  have hrec : Upkeeps env (.heartbeat member.id body) world.server.inner world.state
      (record world.config.cluster.clusterId env.now member.id body
        (admitNode env.now member body world.server.inner)).state :=
    (admitNode_upkeeps rfl).trans <| record_upkeeps _ rfl <| by
      unfold admitNode Pass.state
      dsimp only
      split <;> rfl
  have hreco := (record_records world.config.cluster.clusterId env.now member.id body
    (admitNode env.now member body world.server.inner)).observed
  have harr := admitNode_state env.now member body world.server.inner member.id
  refine hrec.trans ?_
  unfold heartbeatScheduled
  exact scheduleAndRoute_upkeeps hfre.injective false _ (hreco.fresh (harr.fresh hfre.fresh))

theorem scheduleAndRoute_generation (cfg : ControllerConfig) (endDrains : Bool) (pass : Pass) :
    (scheduleAndRoute plat cfg env endDrains pass).inner.generation = pass.inner.generation := rfl

theorem heartbeatScheduled_generation (cfg : ControllerConfig) (inner : Inner)
    (member : NodeMember) (body : NodeHeartbeat) :
    (heartbeatScheduled plat cfg env inner member body).inner.generation = inner.generation := by
  have hrec := (record_records cfg.cluster.clusterId env.now member.id body
    (admitNode env.now member body inner)).inner
  unfold heartbeatScheduled
  rw [scheduleAndRoute_generation, hrec]
  rfl

theorem heartbeat_changed (hfre : FreshIds env world) (nodeId : String) (body : NodeHeartbeat) :
    Changed plat env world (.heartbeat nodeId body)
      (heartbeat plat world.config env world.server nodeId body).1 := by
  refine heartbeat_rule Changed.refl (fun hget _ hend => ?_) Changed.deadlines
  exact hend.changed (.inr rfl) (heartbeatScheduled_upkeeps hfre (Table.key_of_get? hget))
    (heartbeatScheduled_generation world.config world.server.inner _ body)

/-- The new deployment is followed by adoption and a pass. -/
theorem applyScheduled_upkeeps (hfre : FreshIds env world) (req : ApplyRequest) (plan : Planning) :
    Upkeeps env event world.server.inner (startOwnedDeployment
      (requestedState world.server.inner req env.now.unixMs plan) req.policy
      (world.server.inner.generation + 1) env.now.unixMs)
      (applyScheduled plat world.config env world.server.inner req plan) := by
  have hdes : Upkeeps env event world.server.inner (startOwnedDeployment
      (requestedState world.server.inner req env.now.unixMs plan) req.policy
      (world.server.inner.generation + 1) env.now.unixMs)
      (applyDesired plat.toExternals world.server.inner req env.now.unixMs plan) := by
    unfold applyDesired
    dsimp only
    have hado := adoptUnclaimedTasks_adopts plat.toExternals
      (startOwnedDeployment (restoreUnclaimedServiceRevisions plat.toExternals
        (requestedState world.server.inner req env.now.unixMs plan)
        plan.newServiceIds.rows) req.policy (world.server.inner.generation + 1)
        env.now.unixMs) req.stackName
    refine ReflTransGen.trans ?_ (Upkeeps.rest ?_ ?_ ?_ (adopts_unsighted hado))
    · rw [(restoreUnclaimedServiceRevisions_restored plat.toExternals _ _).rest]
      unfold startOwnedDeployment
      split <;> exact Upkeeps.aside rfl rfl rfl rfl
    all_goals rw [adopts_rest hado]
  have hids := applyDesired_fresh plat.toExternals world.server.inner req
    env.now.unixMs plan hfre.tasks hfre.unclaimed
  have hrou : ∀ s, Upkeeps env event world.server.inner s (replaceStackRoute s req.stackName).1 :=
    fun _ => Upkeeps.aside rfl rfl rfl rfl
  exact hdes.trans ((reconcile_upkeeps plat.toExternals hfre.injective
    (currentLiveNodes world.config env.now world.server.inner) env.now.unixMs hids).trans
    (hrou _))

/-- An apply is the new deployment, then a pass and a judgement. -/
theorem applyGuarded_changed (hfre : FreshIds env world) {index : Nat}
    (hreq : world.requests[index]? = some (.guarded req))
    (h : applyGuarded plat world.config env world.server req = .ok srv') :
    Changed plat env world (.commit index) srv' := by
  obtain ⟨plan, refreshed, hche, hplan, href, hcom⟩ := applyGuarded_ok h
  have hdec : Decision plat env world (.commit index) (startOwnedDeployment
      (requestedState world.server.inner req env.now.unixMs plan) req.policy
      (world.server.inner.generation + 1) env.now.unixMs) :=
    .applied req _ plan rfl hreq hche hplan
  refine commitLocked_changed hcom rfl (.inr ⟨_, hdec, ?_⟩)
  exact (applyScheduled_upkeeps hfre req plan).trans
    (refreshStackDeploymentsLocked_upkeeps (.inr rfl) href)

theorem Resettled.upkeeps {s s' : ClusterState} (h : Resettled s s') :
    Upkeeps env event world.server.inner s s' :=
  .single (.rest ⟨h.records, h.operations, fun node hnode => .inl (h.nodes node hnode),
    fun _ => .of_tasks h.aside.2.tasks⟩)

theorem updateNodeLabel_changed (hfre : FreshIds env world) {nodeId key : String}
    {value : Option String}
    (h : updateNodeLabel plat world.config env world.server nodeId key value = .ok srv') :
    Changed plat env world event srv' := by
  refine (updateNodeLabel_commits h).changed fun s hs => .inl ?_
  obtain ⟨labels, rfl⟩ := hs
  have hrel := relabel_resettled world.state nodeId labels
  have hids : Fresh env.uuid { state := relabel world.state nodeId labels } := hfre.fresh
  exact hrel.upkeeps.trans (reconcile_upkeeps _ hfre.injective _ _ hids)

theorem submitServiceOperation_changed {req : OperationRequest}
    (h : (submitServiceOperation plat world.config env world.server req).map Prod.fst = .ok srv') :
    Changed plat env world (.submitOperation req) srv' := by
  rcases submitServiceOperation_ok h with rfl | ⟨op, hnew, hacc, hcom⟩
  · exact Changed.refl
  · exact commitLocked_changed (commitState_ok hcom) rfl
      (.inr ⟨_, .accepted req op rfl hnew hacc, .refl⟩)

theorem updateClusterConfig_changed (cluster : ClusterSettings) : Changed plat env world event
      (updateClusterConfig plat world.config env world.server cluster) := by
  unfold updateClusterConfig
  split
  · exact Changed.refl
  dsimp only
  split
  next srv' hcom => exact commitLocked_changed hcom rfl (.inl .refl)
  split
  · exact Changed.refl
  · exact Changed.kept (Upkeeps.aside rfl rfl rfl rfl) rfl

theorem commit_changed (hfre : FreshIds env world) (index : Nat) :
    Changed plat env world (.commit index) (world.commit plat env index).server := by
  unfold World.commit
  split
  next req hreq =>
    dsimp only
    cases happ : applyGuarded plat world.config env world.server req with
    | error => exact Changed.refl
    | ok srv' => exact applyGuarded_changed hfre hreq happ
  · exact Changed.refl

/-- **Every event but a restart is upkeep, or a decision with its upkeep.** -/
theorem step_changed (plat : Platform) (hfre : FreshIds env world)
    (hres : ∀ cfg, event ≠ .restart cfg) :
    Changed plat env world event (world.step plat env event).server := by
  have hnone : ∀ event, Changed plat env world event world.server := fun _ => Changed.refl
  cases event with
  | heartbeat nodeId body => exact heartbeat_changed hfre nodeId body
  | tick => exact tick_changed hfre
  | apply | rollback => exact (guarded_server world _).symm ▸ hnone _
  | scale | forceUpdate | remove => exact (queued_server world _).symm ▸ hnone _
  | startPrepared =>
    show Changed plat env world _ world.startPrepared.server
    unfold World.startPrepared
    split
    · exact hnone _
    · exact (queued_server world _).symm ▸ hnone _
  | reserve index => exact (reserve_server world index).symm ▸ hnone _
  | commit index => exact commit_changed hfre index
  | abandon => exact hnone _
  | failPrepared operationId =>
    exact served_changed world fun _ h => commitLocked_changed (commitState_ok h) rfl
      (.inr ⟨_, .unstarted rfl, .refl⟩)
  | retry stackName =>
    show Changed plat env world _ (if _ then _ else _ : World).server
    split
    · exact hnone _
    · exact served_changed world fun _ h => (retryStackDeployment_commits h).changed
        fun _ hs => .inr ⟨_, .retried rfl hs, .refl⟩
  | submitOperation => exact served_changed world fun _ => submitServiceOperation_changed
  | join =>
    exact served_changed world fun _ h => (joinNode_commits h).changed fun _ hs => .inl hs.upkeeps
  | updateGateway =>
    exact served_changed world fun _ h =>
      (updateNodeGateway_commits h).changed fun _ hs => .inl hs.upkeeps
  | updateLabel => exact served_changed world fun _ => updateNodeLabel_changed hfre
  | runJob =>
    refine served_changed world fun _ h => (runJob_commits h).changed fun s hs => .inl ?_
    cases hs with
    | intro svc live task _ _ _ _ hsch =>
      have hima := scheduleTask_imageId hsch
      exact Upkeeps.rest rfl rfl rfl (Unsighted.insert hima)
  | cancelJob =>
    refine served_changed world fun _ h => (cancelJobTask_commits h).changed fun s hs => .inl ?_
    obtain ⟨-, rfl⟩ := hs
    exact Upkeeps.rest rfl rfl rfl (Unsighted.modify _ fun _ => ⟨rfl, rfl, rfl, rfl, fun h => h⟩)
  | registryLogin =>
    exact served_changed world fun _ h =>
      (setRegistryCredential_commits h).changed fun _ hs => .inl hs.upkeeps
  | updateClusterConfig cluster => exact updateClusterConfig_changed cluster
  | restart cfg => exact absurd rfl (hres cfg)

end Events

/-! ## One stack

Upkeep rewrites the current deployment of a stack and nothing else of it. -/

/-- The stack with its current deployment changed, any number of times. -/
def StackTended (env : Env) (event : Event) (found : Inner) (stack stack' : StackRecord) : Prop :=
  ∃ f, stack' = stack.mapDeployment f ∧ ∀ deployment, stack.deployment = some deployment →
    ReflTransGen (DeploymentChange env event found stack.name) deployment (f deployment)

namespace StackTended

variable {env : Env} {event : Event} {found : Inner} {stack stack' stack'' : StackRecord}

theorem refl (stack : StackRecord) : StackTended env event found stack stack := by
  refine ⟨id, ?_, fun _ _ => .refl⟩
  unfold StackRecord.mapDeployment
  rw [Option.map_id_fun, id]

theorem trans (h : StackTended env event found stack stack')
    (h' : StackTended env event found stack' stack'') :
    StackTended env event found stack stack'' := by
  obtain ⟨f, rfl, hf⟩ := h
  obtain ⟨g, rfl, hg⟩ := h'
  refine ⟨fun dep => g (f dep), ?_, fun dep hdep => ?_⟩
  · unfold StackRecord.mapDeployment
    rw [Option.map_map]
    rfl
  · refine (hf dep hdep).trans (hg (f dep) ?_)
    unfold StackRecord.mapDeployment
    rw [hdep]
    rfl

theorem history (h : StackTended env event found stack stack') :
    stack'.deploymentHistory = stack.deploymentHistory := by
  obtain ⟨f, rfl, -⟩ := h
  rfl

/-- The new deployment is the old one, changed. -/
theorem before (h : StackTended env event found stack stack') {dep' : StackDeploymentRecord}
    (hdep' : stack'.deployment = some dep') :
    ∃ dep, stack.deployment = some dep ∧
      ReflTransGen (DeploymentChange env event found stack.name) dep dep' := by
  obtain ⟨f, rfl, hf⟩ := h
  obtain ⟨dep, hdep, rfl⟩ := Option.map_eq_some_iff.mp hdep'
  exact ⟨dep, hdep, hf dep hdep⟩

/-- A deployment stays, changed. -/
theorem after (h : StackTended env event found stack stack') (hdep : stack.deployment = some dep) :
    ∃ dep', stack'.deployment = some dep' ∧
      ReflTransGen (DeploymentChange env event found stack.name) dep dep' := by
  obtain ⟨f, rfl, hf⟩ := h
  refine ⟨f dep, ?_, hf dep hdep⟩
  unfold StackRecord.mapDeployment
  rw [hdep]
  rfl

end StackTended

section Stacks

variable {env : Env} {event : Event} {found : Inner} {s s' : ClusterState}

theorem get?_modifyDeployment (s : ClusterState) (changed name : String)
    (f : StackDeploymentRecord → StackDeploymentRecord) :
    (modifyDeployment s changed f).stackRecords.get? name
      = if name = changed then (s.stackRecords.get? name).map (StackRecord.mapDeployment f)
        else s.stackRecords.get? name := by
  unfold modifyDeployment
  dsimp only
  rw [Table.get?_modify]

/-- What upkeep makes of the stack of a name. -/
theorem Upkeep.stack (h : Upkeep env event found s s') (name : String) :
    ∃ f : StackRecord → StackRecord, s'.stackRecords.get? name = (s.stackRecords.get? name).map f ∧
      ∀ stack, s.stackRecords.get? name = some stack → StackTended env event found stack
    (f stack) := by
  have hsame : s'.stackRecords = s.stackRecords → ∃ f : StackRecord → StackRecord,
      s'.stackRecords.get? name = (s.stackRecords.get? name).map f ∧ ∀ stack,
        s.stackRecords.get? name = some stack → StackTended env event found stack (f stack) := by
    intro heq
    refine ⟨id, ?_, fun stack _ => StackTended.refl stack⟩
    rw [heq, Option.map_id_fun, id]
  cases h with
  | rest h => exact hsame h.records
  | deployment changed h =>
    by_cases hname : name = changed
    · subst hname
      refine ⟨_, (get?_modifyDeployment s name name _).trans (if_pos rfl), fun stack hsta => ?_⟩
      have hname := Table.key_of_get? hsta
      subst hname
      refine ⟨_, rfl, fun dep hdep => .single (h dep ?_)⟩
      unfold stackDeployment
      rw [hsta]
      exact hdep
    · refine ⟨id, ?_, fun stack _ => StackTended.refl stack⟩
      rw [Option.map_id_fun, id]
      exact (get?_modifyDeployment s changed name _).trans (if_neg hname)
  | gatewayProgress hrep =>
    have hget : (markGatewayProgress s env.now.unixMs).1.stackRecords.get? name
        = (s.stackRecords.get? name).map (StackRecord.mapDeployment fun dep =>
          if dep.waitForGateway then recordGatewayProgress env.now.unixMs dep
          else dep) := by
      unfold markGatewayProgress
      dsimp only
      rw [Table.get?_map]
    refine ⟨_, hget, fun stack _ => ⟨_, rfl, fun dep _ => ?_⟩⟩
    split
    next hwait => exact .single (.gatewayProgress dep hrep hwait)
    · exact .refl
  | advanced | restartResult | prepared => exact hsame rfl

/-- **Upkeep only changes current deployments.** -/
theorem Upkeeps.stack (h : Upkeeps env event found s s') (name : String) :
    ∃ f : StackRecord → StackRecord, s'.stackRecords.get? name = (s.stackRecords.get? name).map f ∧
      ∀ stack, s.stackRecords.get? name = some stack → StackTended env event found stack
    (f stack) := by
  induction h with
  | refl =>
    refine ⟨id, ?_, fun stack _ => StackTended.refl stack⟩
    rw [Option.map_id_fun, id]
  | tail _ hstep ih =>
    obtain ⟨f, hf, hten⟩ := ih
    obtain ⟨g, hg, hten'⟩ := hstep.stack name
    refine ⟨g ∘ f, ?_, fun stack hsta => (hten stack hsta).trans (hten' (f stack) ?_)⟩
    · rw [hg, hf, Option.map_map]
    · rw [hf, hsta]
      rfl

/-- A stack after upkeep was there before. -/
theorem Upkeeps.stack_before (h : Upkeeps env event found s s') {stack' : StackRecord}
    (hsta' : stack' ∈ s'.stackRecords) :
    ∃ stack ∈ s.stackRecords, StackTended env event found stack stack' := by
  obtain ⟨f, hf, hten⟩ := h.stack stack'.name
  have hget := Table.get?_of_mem hsta'
  rw [hf] at hget
  obtain ⟨stack, hsta, rfl⟩ := Option.map_eq_some_iff.mp hget
  exact ⟨stack, Table.mem_of_get? hsta, hten stack hsta⟩

end Stacks

/-! ## One operation -/

/-- One change of an operation by a heartbeat or a tick, in a state. -/
inductive OperationChange (env : Env) (event : Event) (s : ClusterState) :
    ServiceOperationRecord → ServiceOperationRecord → Prop
  | advanced (op : ServiceOperationRecord) (live : Keys String) (time : Int)
      (htime : env.reads time) : OperationChange env event s op (op.advance s live time)
  | restartResult (op : ServiceOperationRecord) {nodeId : String} {body : NodeHeartbeat}
      (report : TaskReconcileReport) (hevent : event = .heartbeat nodeId body)
      (hreport : report ∈ body.taskResults) (hmatch : restartOf nodeId report op = true) :
      OperationChange env event s op (recordRestart env.now.unixMs report op)
  | prepared (op : ServiceOperationRecord) {nodeId : String} {body : NodeHeartbeat}
      (report : ImageResolutionReport) (hevent : event = .heartbeat nodeId body)
      (hreport : report ∈ body.imageResults) (hmatch : preparationOf nodeId report op = true) :
      OperationChange env event s op (recordPreparation env.now.unixMs nodeId report op)

/-- The operation stays as it is or changes once. -/
def OperationTended (env : Env) (event : Event) (s : ClusterState)
    (op op' : ServiceOperationRecord) : Prop :=
  op' = op ∨ OperationChange env event s op op'

/-- What was fixed about an operation when it was accepted, and the deployment it started. -/
def ServiceOperationRecord.identity (op : ServiceOperationRecord) : ServiceOperationRecord :=
  { op with
    view := { op.view with
      status := .queued
      phase := ""
      revision := 0
      completedTasks := 0
      stalled := false
      blocked := false
      error := none }
    updatedAtUnixMs := 0
    finishedAtUnixMs := none
    tasks := []
    preparingNodes := Table.empty
    preparedImages := Table.empty }

/-- What the work on an operation leaves alone: its identity and its revision. -/
def ServiceOperationRecord.base (op : ServiceOperationRecord) : ServiceOperationRecord :=
  { op.identity with view := { op.identity.view with revision := op.view.revision } }

namespace ServiceOperationRecord

variable (s : ClusterState) (live : Keys String) (now : Int) (op : ServiceOperationRecord)

theorem extendPreparation_base : (op.extendPreparation s live now).base = op.base := by
  unfold extendPreparation
  repeat' split
  all_goals rfl

theorem advanceTarget_base : (op.advanceTarget s live now).base = op.base := by
  unfold advanceTarget
  repeat' split
  all_goals rfl

theorem advanceRestart_base : (op.advanceRestart s live now).base = op.base := by
  refine Eq.trans ?_ (advanceTarget_base s live now op)
  unfold advanceRestart
  dsimp only
  split <;> rfl

theorem advanceRedeploy_base : (op.advanceRedeploy s now).base = op.base := by
  unfold advanceRedeploy
  repeat' split
  all_goals rfl

theorem work_base : (op.work s live now).base = op.base := by
  refine Eq.trans ?_ (extendPreparation_base s live now op)
  unfold work
  dsimp only
  split
  · split
    · exact advanceRestart_base s live now _
    · exact advanceRedeploy_base s now _
  · rfl

theorem advance_identity : (op.advance s live now).identity = op.identity := by
  have hbase : (op.work s live now).identity = op.identity :=
    congrArg (fun base => base.identity) (work_base s live now op)
  refine Eq.trans ?_ hbase
  unfold advance
  dsimp only
  split <;> rfl

end ServiceOperationRecord

section Operations

variable {env : Env} {event : Event} {found : Inner} {s s' : ClusterState}

theorem OperationTended.identity
    (h : OperationTended env event s op op') : op'.identity = op.identity := by
  rcases h with rfl | h
  · rfl
  · cases h with
    | advanced => exact ServiceOperationRecord.advance_identity s _ _ op
    | restartResult =>
      unfold recordRestart
      repeat' split
      all_goals rfl
    | prepared =>
      unfold recordPreparation
      dsimp only
      repeat' split
      all_goals rfl

theorem OperationTended.kept (h : OperationTended env event s op op') : OperationKept op op' := by
  rcases h with rfl | h
  · exact OperationKept.refl op'
  · cases h with
    | advanced => exact ServiceOperationRecord.advance_kept s _ _ op
    | restartResult => exact recordRestart_kept _ _ op
    | prepared => exact recordPreparation_kept _ _ _ op

/-- Rewriting the operation that was found. -/
theorem mem_modify_found {operations : Table ServiceOperationRecord.operationId}
    {p : ServiceOperationRecord → Bool} {found : ServiceOperationRecord}
    (hfou : operations.rows.find? p = some found)
    {f : ServiceOperationRecord → ServiceOperationRecord}
    (hf : ∀ op, (f op).operationId = op.operationId) :
    (∀ op' ∈ operations.modify found.operationId f hf, ∃ op ∈ operations,
      op' = op ∨ p op = true ∧ op' = f op) ∧
    ∀ op ∈ operations, ∃ op' ∈ operations.modify found.operationId f hf,
      op' = op ∨ p op = true ∧ op' = f op := by
  have hmem := List.mem_of_find?_eq_some hfou
  have hp := List.find?_some hfou
  constructor
  · intro op' hop'
    rcases Table.mem_modify.mp hop' with ⟨hold, -⟩ | ⟨op, hop, hkey, rfl⟩
    · exact ⟨op', hold, .inl rfl⟩
    · obtain rfl := Table.eq_of_key hop hmem hkey
      exact ⟨op, hop, .inr ⟨hp, rfl⟩⟩
  · intro op hop
    by_cases hkey : op.operationId = found.operationId
    · obtain rfl := Table.eq_of_key hop hmem hkey
      exact ⟨f op, Table.mem_modify.mpr (.inr ⟨op, hop, rfl, rfl⟩), .inr ⟨hp, rfl⟩⟩
    · exact ⟨op, Table.mem_modify.mpr (.inl ⟨hop, hkey⟩), .inl rfl⟩

/-- An operation after one step of upkeep was there before. -/
theorem Upkeep.operation_before (h : Upkeep env event found s s')
    (hop' : op' ∈ s'.serviceOperations) :
    ∃ op ∈ s.serviceOperations, OperationTended env event s op op' := by
  cases h with
  | rest h =>
    rw [h.operations] at hop'
    exact ⟨op', hop', .inl rfl⟩
  | deployment | gatewayProgress => exact ⟨op', hop', .inl rfl⟩
  | advanced live time htime =>
    obtain ⟨hmem, -⟩ := Table.mem_filter.mp hop'
    obtain ⟨op, hop, rfl⟩ := Table.exists_of_mem_map
      (ServiceOperationRecord.advance_id s live time) hmem
    exact ⟨op, hop, .inr (.advanced op live time htime)⟩
  | restartResult report found heve hrep hfou =>
    obtain ⟨op, hop, rfl | ⟨hmat, rfl⟩⟩ :=
      (mem_modify_found hfou (recordRestart_id _ report)).1 op' hop'
    · exact ⟨op', hop, .inl rfl⟩
    · exact ⟨op, hop, .inr (.restartResult op report heve hrep hmat)⟩
  | prepared report found heve hrep hfou =>
    obtain ⟨op, hop, rfl | ⟨hmat, rfl⟩⟩ :=
      (mem_modify_found hfou (recordPreparation_id _ _ report)).1 op' hop'
    · exact ⟨op', hop, .inl rfl⟩
    · exact ⟨op, hop, .inr (.prepared op report heve hrep hmat)⟩

/-- An operation is there after one step of upkeep, unless it was forgotten. -/
theorem Upkeep.operation_after (h : Upkeep env event found s s')
    (hop : op ∈ s.serviceOperations) :
    (∃ op' ∈ s'.serviceOperations, OperationTended env event s op op') ∨
    s'.serviceOperations.get? op.operationId = none ∧
      ∃ live time, env.reads time ∧ (op.advance s live time).removable s time = true := by
  cases h with
  | rest h =>
    rw [← h.operations] at hop
    exact .inl ⟨op, hop, .inl rfl⟩
  | deployment | gatewayProgress => exact .inl ⟨op, hop, .inl rfl⟩
  | advanced live time htime =>
    by_cases hrem : (op.advance s live time).removable s time = true
    · refine .inr ⟨Table.get?_eq_none.mpr fun op' hop' hkey => ?_, live, time, htime, hrem⟩
      obtain ⟨hmem, hkept⟩ := Table.mem_filter.mp hop'
      obtain ⟨other, hoth, rfl⟩ := Table.exists_of_mem_map
        (ServiceOperationRecord.advance_id s live time) hmem
      rw [ServiceOperationRecord.advance_id] at hkey
      obtain rfl := Table.eq_of_key hoth hop hkey
      rw [hrem] at hkept
      cases hkept
    · refine .inl ⟨op.advance s live time, ?_, .inr (.advanced op live time htime)⟩
      refine Table.mem_filter.mpr ⟨Table.mem_map.mpr ⟨op, hop, rfl⟩, ?_⟩
      simpa using hrem
  | restartResult report found heve hrep hfou =>
    obtain ⟨op', hop', hten⟩ := (mem_modify_found hfou (recordRestart_id _ report)).2 op hop
    refine .inl ⟨op', hop', ?_⟩
    rcases hten with rfl | ⟨hmat, rfl⟩
    · exact .inl rfl
    · exact .inr (.restartResult op report heve hrep hmat)
  | prepared report found heve hrep hfou =>
    obtain ⟨op', hop', hten⟩ := (mem_modify_found hfou (recordPreparation_id _ _ report)).2 op hop
    refine .inl ⟨op', hop', ?_⟩
    rcases hten with rfl | ⟨hmat, rfl⟩
    · exact .inl rfl
    · exact .inr (.prepared op report heve hrep hmat)

/-- **What upkeep keeps of an operation**, until it forgets it: what every change keeps. -/
theorem Upkeeps.operation_keeps {R : ClusterState → ServiceOperationRecord → Prop}
    (hstep : ∀ {s s' : ClusterState} {op op' : ServiceOperationRecord},
      Upkeep env event found s s' → R s op → OperationTended env event s op op' → R s' op')
    (h : Upkeeps env event found s s') (hop : op ∈ s.serviceOperations) (hR : R s op) :
    (∃ op' ∈ s'.serviceOperations, op'.operationId = op.operationId ∧ R s' op') ∨
    s'.serviceOperations.get? op.operationId = none ∧
      ∃ s₁ op₁ live time, env.reads time ∧ R s₁ op₁ ∧
        (op₁.advance s₁ live time).removable s₁ time = true := by
  induction h with
  | refl => exact .inl ⟨op, hop, rfl, hR⟩
  | tail _ hlast ih =>
    rcases ih with ⟨mid, hmid, hid, hR⟩ | ⟨hgone, hrem⟩
    · rcases hlast.operation_after hmid with ⟨op', hop', hten⟩ | ⟨hgone, live, time, hrem⟩
      · exact .inl ⟨op', hop', hten.kept.id.trans hid, hstep hlast hR hten⟩
      · rw [hid] at hgone
        exact .inr ⟨hgone, _, mid, live, time, hrem.1, hR, hrem.2⟩
    · refine .inr ⟨Table.get?_eq_none.mpr fun op' hop' hkey => ?_, hrem⟩
      obtain ⟨mid, hmid, hten⟩ := hlast.operation_before hop'
      exact Table.get?_eq_none.mp hgone mid hmid (hten.kept.id.symm.trans hkey)

end Operations

/-! ## Decisions about operations -/

/-- What a decision makes of an operation. -/
inductive OperationDecided (env : Env) (world : World) (event : Event)
    (op : ServiceOperationRecord) : ServiceOperationRecord → Prop
  | kept : OperationDecided env world event op op
  /-- The deployment it started is retried. -/
  | revived (deployment : StackDeploymentRecord) (hevent : event = .retry op.stack)
      (hcurrent : stackDeployment world.state op.stack = some deployment)
      (hstarted : op.view.deploymentGeneration = some deployment.generation)
      (hfailed : op.view.status = .failed) :
      OperationDecided env world event op
        (reviveOperation op.stack deployment.generation env.now.unixMs op)
  | superseded {index : Nat} (request : ApplyRequest) (hevent : event = .commit index)
      (hrequest : world.requests[index]? = some (.guarded request))
      (hconflict : conflictingOperation request op = true) :
      OperationDecided env world event op (supersedeOperation request env.now.unixMs op)
  | started {index : Nat} (request : ApplyRequest) (hevent : event = .commit index)
      (hrequest : world.requests[index]? = some (.guarded request))
      (howned : request.policy.ownedOperation = some op.operationId) (hpending : op.pending = true) :
      OperationDecided env world event op
        (startDeployment (world.server.inner.generation + 1) env.now.unixMs op)
  | unstarted (hevent : event = .failPrepared op.operationId) :
      OperationDecided env world event op (failStart env.now.unixMs op)

section Decisions

variable {plat : Platform} {env : Env} {world : World} {event : Event} {s : ClusterState}

theorem OperationDecided.id
    (h : OperationDecided env world event op op') : op'.operationId = op.operationId := by
  cases h with
  | kept => rfl
  | revived dep => exact reviveOperation_id _ _ _ op
  | superseded req => exact supersedeOperation_id req _ op
  | started | unstarted => rfl

/-- What an apply makes of the operation it does not own. -/
theorem supersedeOperation_decided {index : Nat}
    (hreq : world.requests[index]? = some (.guarded req)) (op : ServiceOperationRecord) :
    OperationDecided env world (.commit index) op (supersedeOperation req env.now.unixMs op) := by
  by_cases hcon : conflictingOperation req op = true
  · exact .superseded req rfl hreq hcon
  unfold supersedeOperation
  rw [if_neg hcon]
  exact .kept

/-- The operation an apply owns is pending, and not in its way. -/
theorem owned_operation {id : String}
    (hchec : checkApply inner req = .ok ()) (hown : req.policy.ownedOperation = some id)
    (hop : op ∈ inner.state.serviceOperations) (hid : op.operationId = id) (now : Int) :
    op.pending = true ∧ supersedeOperation req now op = op := by
  unfold checkApply at hchec
  obtain ⟨_, hche, -⟩ := bind_ok hchec
  obtain ⟨owned, svc, hget, -, hpen, -, -⟩ := checkOwnedOperation_ok hown hche
  obtain ⟨hmem, hkey⟩ := Table.get?_eq_some.mp hget
  obtain rfl := Table.eq_of_key hop hmem (hid.trans hkey.symm)
  refine ⟨hpen, ?_⟩
  unfold supersedeOperation
  rw [if_neg]
  intro hcon
  unfold conflictingOperation at hcon
  have hfor := of_decide_eq_true (Bool.and_eq_true_iff.mp hcon).2
  exact hfor (by rw [hown]; exact congrArg some hid)

/-- What the operations of the requested state are made of. -/
theorem mem_requestedState {now : Int} {plan : Planning} :
    op' ∈ (requestedState inner req now plan).serviceOperations ↔
      ∃ op ∈ inner.state.serviceOperations, supersedeOperation req now op = op' := by
  show op' ∈ inner.state.serviceOperations.map (supersedeOperation req now)
    (supersedeOperation_id req now) ↔ _
  exact Table.mem_map

/-- An operation after a decision was there before, or has just been accepted. -/
theorem Decision.operation_before (h : Decision plat env world event s)
    (hop' : op' ∈ s.serviceOperations) :
    (∃ op ∈ world.state.serviceOperations, OperationDecided env world event op op') ∨
    ∃ req, event = .submitOperation req ∧
      acceptOperation plat world.config env world.server.inner req = .ok op' := by
  cases h with
  | @retried stackName _ heve hret =>
    obtain ⟨stack, dep, hstac, hdep, -, -, rfl⟩ := retryStack_ok hret
    have hname : stack.name = stackName := Table.key_of_get? hstac
    obtain ⟨op, hop, rfl⟩ := Table.exists_of_mem_map
      (reviveOperation_id stack.name dep.generation env.now.unixMs) hop'
    refine .inl ⟨op, hop, ?_⟩
    by_cases hown : (op.stack = stack.name && op.view.deploymentGeneration
        = some dep.generation && op.view.status = .failed) = true
    · have hfie := hown
      simp only [Bool.and_eq_true, decide_eq_true_eq] at hfie
      obtain ⟨⟨hops, hsta⟩, hfai⟩ := hfie
      have hcur : stackDeployment world.state op.stack = some dep := by
        unfold stackDeployment
        rw [hops, hname, hstac]
        exact hdep
      rw [← hops]
      refine .revived dep ?_ hcur hsta hfai
      rw [hops, hname]
      exact heve
    · unfold reviveOperation
      rw [if_neg hown]
      exact .kept
  | @applied index req live plan heve hrequest hcheck hplan =>
    subst heve
    left
    unfold startOwnedDeployment at hop'
    split at hop'
    · obtain ⟨op, hop, rfl⟩ := mem_requestedState.mp hop'
      exact ⟨op, hop, supersedeOperation_decided hrequest op⟩
    next id howne =>
      dsimp only at hop'
      rw [Table.mem_modify] at hop'
      rcases hop' with ⟨hold, -⟩ | ⟨superseded, hold, hkey, rfl⟩
      · obtain ⟨op, hop, rfl⟩ := mem_requestedState.mp hold
        exact ⟨op, hop, supersedeOperation_decided hrequest op⟩
      · obtain ⟨op, hop, rfl⟩ := mem_requestedState.mp hold
        rw [supersedeOperation_id] at hkey
        obtain ⟨hpen, hsame⟩ := owned_operation hcheck howne hop hkey env.now.unixMs
        rw [hsame]
        exact ⟨op, hop, .started req rfl hrequest (by rw [howne, hkey]) hpen⟩
  | accepted req op heve hnew hacc =>
    rcases Table.mem_insert.mp hop' with rfl | ⟨hold, -⟩
    · exact .inr ⟨req, heve, hacc⟩
    · exact .inl ⟨op', hold, .kept⟩
  | @unstarted operationId heve =>
    rw [ClusterState.withOperations_serviceOperations, Table.mem_modify] at hop'
    rcases hop' with ⟨hold, -⟩ | ⟨op, hop, hid, rfl⟩
    · exact .inl ⟨op', hold, .kept⟩
    · exact .inl ⟨op, hop, .unstarted (by rw [hid]; exact heve)⟩

/-- An operation is there after a decision, unless a new one takes its id. -/
theorem Decision.operation_after (h : Decision plat env world event s)
    (hop : op ∈ world.state.serviceOperations)
    (hid : ∀ req, event = .submitOperation req → op.operationId ≠ "op_" ++ env.uuid 0) :
    ∃ op' ∈ s.serviceOperations, OperationDecided env world event op op' := by
  -- a record with the id is there, and what is there comes from the operation itself
  have hthe : ∃ op' ∈ s.serviceOperations, op'.operationId = op.operationId := by
    cases h with
    | retried heve hret =>
      obtain ⟨stack, dep, -, -, -, -, rfl⟩ := retryStack_ok hret
      exact ⟨_, Table.mem_map_of_mem (reviveOperation_id stack.name dep.generation
        env.now.unixMs) hop, reviveOperation_id _ _ _ op⟩
    | applied req live plan heve hreq hche hplan =>
      have hmem : supersedeOperation req env.now.unixMs op
          ∈ (requestedState world.server.inner req env.now.unixMs plan).serviceOperations :=
        mem_requestedState.mpr ⟨op, hop, rfl⟩
      have hkey := supersedeOperation_id req env.now.unixMs op
      unfold startOwnedDeployment
      split
      · exact ⟨_, hmem, hkey⟩
      next id _ =>
        obtain ⟨op', hop', hsame⟩ := Table.exists_mem_modify id
          (startDeployment_id (world.server.inner.generation + 1) env.now.unixMs) hmem
        exact ⟨op', hop', hsame.trans hkey⟩
    | accepted req new heve hnew hacc =>
      refine ⟨op, Table.mem_insert.mpr (.inr ⟨hop, ?_⟩), rfl⟩
      obtain ⟨svc, tasks, nodes, -, -, -, -, -, rfl⟩ := acceptOperation_new hacc
      exact hid req heve
    | @unstarted operationId heve =>
      exact Table.exists_mem_modify operationId (failStart_id env.now.unixMs) hop
  obtain ⟨op', hop', hkey⟩ := hthe
  refine ⟨op', hop', ?_⟩
  rcases h.operation_before hop' with ⟨old, hold, hdec⟩ | ⟨req, heve, hacc⟩
  · obtain rfl := Table.eq_of_key hold hop (hdec.id.symm.trans hkey)
    exact hdec
  · obtain ⟨svc, tasks, nodes, -, -, -, -, -, rfl⟩ := acceptOperation_new hacc
    exact absurd hkey.symm (hid req heve)

end Decisions

/-! ## Reachable worlds -/

/-- A new process works with the generation that is stored, which a start may move. -/
theorem start_generation {plat : Platform} (h : start plat cfg env disk = .ok srv) :
    srv.inner.generation = srv.disk.generation ∧ disk.generation ≤ srv.disk.generation := by
  unfold start at h
  split at h
  · cases h
  dsimp only at h
  split at h
  · cases h
  split at h
  · split at h
    · cases h
    next disk' hdisk =>
      cases h
      obtain ⟨rfl, -⟩ := replace_ok hdisk
      exact ⟨rfl, Nat.le_succ _⟩
  · cases h
    exact ⟨rfl, Nat.le_refl _⟩

/-- The generation in use is the stored one. -/
theorem Reachable.stored_generation {plat : Platform} (h : Reachable plat world) :
    world.server.disk.generation = world.server.inner.generation := by
  induction h with
  | fresh hok | recovered hok => exact (start_generation hok).1.symm
  | @step world _ env event hfresh ih =>
    rcases event.ne_restart_or with hres | ⟨cfg, rfl⟩
    · rcases (step_changed plat hfresh hres).disk with ⟨hdisk, hinn⟩ | ⟨-, hsto, -⟩
      · rw [hdisk, hinn]
        exact ih
      · exact hsto
    · show (world.restart plat env cfg).server.disk.generation
        = (world.restart plat env cfg).server.inner.generation
      unfold World.restart
      split
      · exact ih
      next srv hok => exact (start_generation hok).1.symm

/-- A property of the generation and the state, in use and stored. -/
def Server.Holds (P : Nat → ClusterState → Prop) (server : Server) : Prop :=
  P server.inner.generation server.inner.state ∧ P server.disk.generation server.disk.state

section Invariants

variable {plat : Platform} {P : Nat → ClusterState → Prop}
  (hmono : ∀ {n m : Nat} {s : ClusterState}, n ≤ m → P n s → P m s)
  (hpersisted : ∀ {n : Nat} {s : ClusterState}, P n s → P n s.persisted)
  (hstart : ∀ {n : Nat} {s : ClusterState} (cfg : ControllerConfig) (env : Env)
    (generation : Nat), P n s → P n (startState plat cfg env s generation))

include hmono hpersisted hstart

theorem start_holds (hok : start plat cfg env disk = .ok srv)
    (hdisk : P disk.generation disk.state) : srv.Holds P := by
  obtain ⟨hsame, hle⟩ := start_generation hok
  obtain ⟨cluster, generation, hinn, hsto⟩ := start_ok hok
  have hsta := hmono hle (hstart cfg env generation hdisk)
  have hstat : srv.inner.state = startState plat cfg env disk.state generation := by
    rw [hinn]
    rfl
  unfold Server.Holds
  rw [hsame, hstat]
  refine ⟨hsta, ?_⟩
  rcases hsto with hsame | hsto
  · rw [hsame]
    exact hdisk
  · rw [hsto]
    exact hpersisted hsta

/-- **What an event keeps**, in use and stored: upkeep keeps it, and a decision keeps it with
the next generation. -/
theorem step_holds {event : Event} (hfre : FreshIds env world)
    (hupk : ∀ {s s' : ClusterState} {n : Nat},
      Upkeep env event world.server.inner s s' → P n s → P n s')
    (hdeci : ∀ {s : ClusterState}, Decision plat env world event s →
      P world.server.inner.generation world.state → P (world.server.inner.generation + 1) s)
    (h : world.server.Holds P) : (world.step plat env event).server.Holds P := by
  have hkee : ∀ {s s' n}, Upkeeps env event world.server.inner s s' → P n s → P n s' := by
    intro s s' n hupke hs
    induction hupke with
    | refl => exact hs
    | tail _ hstep ih => exact hupk hstep ih
  rcases event.ne_restart_or with hres | ⟨cfg, rfl⟩
  · have hcha := step_changed plat hfre hres
    have hsta : P (world.step plat env event).server.inner.generation
        (world.step plat env event).state := by
      rcases hcha.changes with hupke | ⟨⟨s, hdec, hupke⟩, hmov⟩
      · exact hmono hcha.generation (hkee hupke h.1)
      · exact hmono hmov (hkee hupke (hdeci hdec h.1))
    refine ⟨hsta, ?_⟩
    rcases hcha.disk with ⟨hsame, -⟩ | ⟨hsto, hgen, -⟩
    · rw [hsame]
      exact h.2
    · rw [hsto, hgen]
      exact hpersisted hsta
  · show (world.restart plat env cfg).server.Holds P
    unfold World.restart
    split
    · exact h
    next srv hok => exact start_holds (P := P) hmono hpersisted hstart hok h.2

theorem Reachable.holds_of_changes (hinit : ∀ bound routes generation,
      P bound { gatewayRoutes := routes, gatewayGeneration := generation })
    (hupk : ∀ {env : Env} {event : Event} {found : Inner} {s s' : ClusterState} {n : Nat},
      Upkeep env event found s s' → P n s → P n s')
    (hdec : ∀ {env : Env} {world : World} {event : Event} {s : ClusterState},
      Decision plat env world event s → P world.server.inner.generation world.state →
      P (world.server.inner.generation + 1) s) (h : Reachable plat world) : world.server.Holds P := by
  induction h with
  | fresh hok => exact start_holds (P := P) hmono hpersisted hstart hok (hinit _ Table.empty 0)
  | recovered hok => exact start_holds (P := P) hmono hpersisted hstart hok (hinit _ _ _)
  | step _ _ _ hfre ih =>
    exact step_holds (P := P) hmono hpersisted hstart hfre hupk hdec ih

end Invariants

end Swarmlite
