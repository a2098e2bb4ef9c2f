import Swarmlite.Controller.Courses
import Swarmlite.Controller.Prepared

/-!
# Finished operations

A service operation ends as succeeded or failed. Its record stays for ninety days and is still
written to: a redeploy goes on preparing its image on nodes that join while its revision is
the current one. Three of these writes also change how an operation that has ended is shown.

- Preparing stops with an error when a matching agent does not support operations; the
  operation is then marked blocked.
- A failing image report marks it blocked, with an error, or fails it again
  (`repeated_report_fails_again`).
- The start of a prepared operation that was superseded meanwhile fails it again.

`Calm` excludes the first two for a finished operation in a state, `Settled` all three for the
operations of a world. **`endings_immutable`**: along every run of such events the outcome of
a finished operation stays as it is for as long as the operation is kept, unless its own
failed deployment is retried, which sets it back to running.

As elsewhere, the argument is about one change (`Calm.change`), then about the upkeep of an
event (`Calm.upkeeps`), the decisions, and a run.
-/

namespace Swarmlite

open Ordered Relation Loop

variable {op : ServiceOperationRecord} {s : ClusterState} {event : Event} {env : Env}

/-! ## One change -/

/-- How an operation ended. -/
structure Ending where
  status : ServiceOperationStatus
  phase : String
  error : Option String
  blocked : Bool
  stalled : Bool
  finishedAtUnixMs : Option Int
deriving DecidableEq

def ServiceOperationRecord.ending (op : ServiceOperationRecord) : Ending :=
  { status := op.view.status
    phase := op.view.phase
    error := op.view.error
    blocked := op.view.blocked
    stalled := op.view.stalled
    finishedAtUnixMs := op.finishedAtUnixMs }

/-- The report answers the operation's preparation of its image. -/
def ServiceOperationRecord.prepares (op : ServiceOperationRecord) (report : ImageResolutionReport) :
    Bool :=
  op.view.kind = .pullRedeploy && op.generation = report.deploymentGeneration
    && op.image = report.image

/-- A finished operation that the event does not disturb: if its redeployment was started, all
agents support operations, and every late report on its image is a success or repeated. -/
structure Calm (event : Event) (s : ClusterState) (op : ServiceOperationRecord) : Prop where
  finished : op.view.status.active = false
  agents : op.view.kind = .pullRedeploy → op.view.deploymentGeneration.isSome = true →
    (∀ node ∈ s.nodes, node.supportsServiceOperations = true) ∧
    ∀ nodeId body, event = .heartbeat nodeId body → body.node.supportsServiceOperations = true
  reports : ∀ nodeId body, event = .heartbeat nodeId body → ∀ report ∈ body.imageResults,
    op.prepares report = true →
      op.preparedImages.contains nodeId = true ∨ (preparedImageId report op).isSome = true

theorem candidateNodes_supported (svc : ServiceRecord) (live : Keys String)
    (hnod : ∀ node ∈ s.nodes, node.supportsServiceOperations = true) :
    ∃ nodes, candidateNodes s svc live = .ok nodes := by
  unfold candidateNodes
  dsimp only
  split
  next hany =>
    obtain ⟨node, hmem, huns⟩ := List.any_eq_true.mp hany
    rw [hnod node (Table.mem_rows.mp (List.mem_filter.mp hmem).1)] at huns
    cases huns
  · exact ⟨_, rfl⟩

/-- Advancing a finished operation at most extends the nodes it prepares. -/
theorem Calm.advance (h : Calm event s op) (live : Keys String) (now : Int) :
    (op.advance s live now).ending = op.ending ∧
      (op.advance s live now).preparedImages = op.preparedImages := by
  have hpre : ∃ nodes, op.extendPreparation s live now = { op with preparingNodes := nodes } := by
    unfold ServiceOperationRecord.extendPreparation
    split
    next hpins =>
      obtain ⟨hkind, hpins⟩ := Bool.and_eq_true_iff.mp hpins
      have hdep : op.view.deploymentGeneration.isSome = true := by
        unfold ServiceOperationRecord.pinsImages at hpins
        simp only [h.finished, Bool.false_or, Bool.and_eq_true] at hpins
        exact hpins.2.1
      split
      · exact ⟨op.preparingNodes, rfl⟩
      next svc _ =>
        obtain ⟨nodes, hnod⟩ := candidateNodes_supported svc live
          (h.agents (of_decide_eq_true hkind) hdep).1
        rw [hnod]
        exact ⟨_, rfl⟩
    · exact ⟨op.preparingNodes, rfl⟩
  obtain ⟨nodes, hnod⟩ := hpre
  have hwor : op.work s live now = { op with preparingNodes := nodes } := by
    unfold ServiceOperationRecord.work
    rw [hnod]
    dsimp only
    rw [h.finished, if_neg Bool.false_ne_true]
  unfold ServiceOperationRecord.advance
  rw [hwor]
  dsimp only
  split <;> exact ⟨rfl, rfl⟩

/-- A report the operation waits for no more, or a success. -/
theorem recordPreparation_ending {now : Int} {nodeId : String} {report : ImageResolutionReport}
    (h : op.preparedImages.contains nodeId = true ∨ (preparedImageId report op).isSome = true) :
    (recordPreparation now nodeId report op).ending = op.ending ∧
      ∀ node, op.preparedImages.contains node = true →
        (recordPreparation now nodeId report op).preparedImages.contains node = true := by
  unfold recordPreparation
  by_cases hheld : op.preparedImages.contains nodeId = true
  · rw [if_pos hheld]
    exact ⟨rfl, fun node hnode => hnode⟩
  · obtain ⟨imageId, hima⟩ := Option.isSome_iff_exists.mp (h.resolve_left hheld)
    rw [if_neg hheld, hima]
    refine ⟨rfl, fun node hnode => ?_⟩
    show (op.preparedImages.put nodeId imageId).contains node = true
    exact (Table.contains_insert op.preparedImages (nodeId, imageId) node).trans
      (by rw [hnode, Bool.or_true])

/-- **One change leaves a calm operation's outcome**, and what it holds. -/
theorem Calm.change {op op' : ServiceOperationRecord}
    (h : Calm event s op) (hten : OperationTended env event s op op') :
    op'.ending = op.ending ∧
      ∀ node, op.preparedImages.contains node = true → op'.preparedImages.contains node = true := by
  rcases hten with rfl | hcha
  · exact ⟨rfl, fun node hnode => hnode⟩
  · cases hcha with
    | advanced live time =>
      obtain ⟨hend, hpre⟩ := h.advance live time
      exact ⟨hend, fun node hnode => by rw [hpre]; exact hnode⟩
    | restartResult report _ _ hmat =>
      -- results of restarts are for active operations
      unfold restartOf at hmat
      rw [h.finished] at hmat
      cases hmat
    | prepared report heve hrep hmat =>
      exact recordPreparation_ending (h.reports _ _ heve report hrep (Bool.and_eq_true_iff.mp hmat).1)

/-! ## The upkeep of an event -/

section Upkeep

variable {env : Env} {event : Event} {found : Inner} {s s' : ClusterState}
  {op op' : ServiceOperationRecord}

/-- Upkeep brings no agent that does not support operations, unless it is the heartbeat's. -/
theorem Upkeep.agents (h : Upkeep env event found s s')
    (hhea : ∀ nodeId body, event = .heartbeat nodeId body →
      body.node.supportsServiceOperations = true)
    (hs : ∀ node ∈ s.nodes, node.supportsServiceOperations = true) :
    ∀ node ∈ s'.nodes, node.supportsServiceOperations = true := by
  cases h with
  | rest h =>
    intro node hnode
    rcases h.nodes node hnode with ⟨old, hold, hsame⟩ | ⟨nodeId, body, heve, hsame⟩
    · rw [← hsame]
      exact hs old hold
    · rw [hsame]
      exact hhea nodeId body heve
  | deployment | gatewayProgress | advanced | restartResult | prepared => exact hs

/-- A calm operation stays calm, with its outcome. -/
theorem Calm.upkeep (h : Calm event s op) (hupk : Upkeep env event found s s')
    (hten : OperationTended env event s op op') : Calm event s' op' := by
  obtain ⟨hend, hpre⟩ := h.change hten
  obtain ⟨-, hgen, hdep⟩ := identity_fields hten.identity
  have hkind := hten.kept.kind
  have hser := hten.kept.service
  have hima := hten.kept.image
  refine ⟨(congrArg (fun o : Ending => o.status.active) hend).trans h.finished, ?_, ?_⟩
  · rw [hkind, hdep]
    intro hred hsta
    obtain ⟨hnod, hhea⟩ := h.agents hred hsta
    exact ⟨hupk.agents hhea hnod, hhea⟩
  · intro nodeId body heve report hrep hmat
    have hbef : op.prepares report = true := by
      unfold ServiceOperationRecord.prepares at hmat ⊢
      rw [hkind, hgen, hima] at hmat
      exact hmat
    have himaI : preparedImageId report op' = preparedImageId report op := by
      unfold preparedImageId
      rw [hser]
    rw [himaI]
    exact (h.reports nodeId body heve report hrep hbef).imp_left (hpre nodeId)

/-- **The upkeep of an event** leaves the outcome, unless it forgets the operation. -/
theorem Calm.upkeeps (h : Calm event s op) (hop : op ∈ s.serviceOperations)
    (hupk : Upkeeps env event found s s') :
    s'.serviceOperations.get? op.operationId = none ∨
    ∃ op', s'.serviceOperations.get? op.operationId = some op' ∧ op'.ending = op.ending ∧
      op'.stack = op.stack := by
  rcases hupk.operation_keeps
      (R := fun s op' => Calm event s op' ∧ op'.ending = op.ending ∧ op'.stack = op.stack)
      (fun hstep hR hten => ⟨hR.1.upkeep hstep hten,
        (hR.1.change hten).1.trans hR.2.1, hten.kept.stack.trans hR.2.2⟩)
      hop ⟨h, rfl, rfl⟩ with ⟨op', hop', hid, -, hkept⟩ | ⟨hgone, -⟩
  · exact .inr ⟨op', Table.get?_eq_some.mpr ⟨hop', hid⟩, hkept⟩
  · exact .inl hgone

end Upkeep

/-! ## Events -/

/-- The event leaves the finished operations of the world alone: they are calm, no start of
one is given up, and a new operation gets an id of its own. -/
structure Settled (env : Env) (world : World) (event : Event) : Prop where
  calm : ∀ op ∈ world.state.serviceOperations, op.view.status.active = false →
    Calm event world.state op
  unstarted : ∀ op ∈ world.state.serviceOperations, op.view.status.active = false →
    event ≠ .failPrepared op.operationId
  fresh : ∀ request, event = .submitOperation request →
    ∀ op ∈ world.state.serviceOperations, op.operationId ≠ "op_" ++ env.uuid 0

/-- What becomes of a finished operation in an event. -/
inductive Concluded (env : Env) (world : World) (event : Event) (op : ServiceOperationRecord)
    (s' : ClusterState) : Prop
  | forgotten (h : s'.serviceOperations.get? op.operationId = none)
  | kept (op' : ServiceOperationRecord) (h : s'.serviceOperations.get? op.operationId = some op')
      (hending : op'.ending = op.ending) (hstack : op'.stack = op.stack)
  /-- It had failed, and the deployment it started is retried. -/
  | revived (op' : ServiceOperationRecord) (deployment : StackDeploymentRecord)
      (h : s'.serviceOperations.get? op.operationId = some op')
      (hevent : event = .retry op.stack) (hfailed : op.view.status = .failed)
      (hcurrent : stackDeployment world.state op.stack = some deployment)
      (hstarted : op.view.deploymentGeneration = some deployment.generation)
      (hrunning : op'.view.status = .running)

section Events

variable {platform : Platform} {env : Env} {world : World} {event : Event}
  {op : ServiceOperationRecord}

theorem Decision.nodes (h : Decision platform env world event s) : s.nodes = world.state.nodes := by
  cases h with
  | retried heve hret =>
    obtain ⟨stack, dep, -, -, -, -, rfl⟩ := retryStack_ok hret
    rfl
  | applied => rw [startOwnedDeployment_rest]; rfl
  | accepted | unstarted => rfl

/-- A decision about a finished operation. -/
theorem OperationDecided.finished {op' : ServiceOperationRecord}
    (h : OperationDecided env world event op op') (hfin : op.view.status.active = false)
    (huns : event ≠ .failPrepared op.operationId) :
    op' = op ∨ ∃ dep, event = .retry op.stack ∧ op.view.status = .failed ∧
      stackDeployment world.state op.stack = some dep ∧
      op.view.deploymentGeneration = some dep.generation ∧
      op' = reviveOperation op.stack dep.generation env.now.unixMs op := by
  cases h with
  | kept => exact .inl rfl
  | revived dep heve hcur hsta hfai =>
    exact .inr ⟨dep, heve, hfai, hcur, hsta, rfl⟩
  | superseded req _ _ hcon =>
    unfold conflictingOperation at hcon
    rw [hfin, Bool.and_false, Bool.false_and] at hcon
    cases hcon
  | started req _ _ _ hpen =>
    unfold ServiceOperationRecord.pending at hpen
    rw [hfin, Bool.false_and] at hpen
    cases hpen
  | unstarted heve => exact absurd heve huns

theorem step_concluded (hfre : FreshIds env world) (hset : Settled env world event)
    (hres : ∀ cfg, event ≠ .restart cfg) (hop : op ∈ world.state.serviceOperations)
    (hfin : op.view.status.active = false) :
    Concluded env world event op (world.step platform env event).state := by
  have hupke : ∀ {s s' : ClusterState}, op ∈ s.serviceOperations → s.nodes = world.state.nodes →
      Upkeeps env event world.server.inner s s' → Concluded env world event op s' := by
    intro s s' hmem hnod hupk
    have hcalm : Calm event s op := by
      have hthe := hset.calm op hop hfin
      refine ⟨hfin, ?_, hthe.reports⟩
      rw [hnod]
      exact hthe.agents
    rcases hcalm.upkeeps hmem hupk with hgone | ⟨op', hop', hend, hstac⟩
    · exact .forgotten hgone
    · exact .kept op' hop' hend hstac
  by_cases hret : ∃ stackName, event = .retry stackName
  · -- a retry commits its decision and nothing else
    obtain ⟨stackName, rfl⟩ := hret
    rcases step_retry platform env world stackName with hsame | ⟨s, hret, -, hope⟩
    · refine .kept op ?_ rfl rfl
      show (world.step platform env (.retry stackName)).server.inner.state.serviceOperations.get? _ = _
      rw [hsame]
      exact Table.get?_of_mem hop
    · have hdeci : Decision platform env world (.retry stackName) s := .retried rfl hret
      obtain ⟨op', hop', hdec⟩ := hdeci.operation_after hop fun _ h => nomatch h
      have hget : (world.step platform env (.retry stackName)).state.serviceOperations.get?
          op.operationId = some op' := by
        rw [hope]
        exact Table.get?_eq_some.mpr ⟨hop', hdec.id⟩
      rcases hdec.finished hfin (fun h => nomatch h) with rfl | ⟨dep, heve, hfai, hcur, hsta, rfl⟩
      · exact .kept op' hget rfl rfl
      · exact .revived _ dep hget heve hfai hcur hsta (by simp [reviveOperation, hsta, hfai])
  · rcases (step_changed platform hfre hres).changes with
      hupk | ⟨⟨s, hdeci, hupk⟩, -⟩
    · exact hupke hop rfl hupk
    · obtain ⟨op', hop', hdec⟩ := hdeci.operation_after hop fun req heve =>
        hset.fresh req heve op hop
      rcases hdec.finished hfin (hset.unstarted op hop hfin) with rfl | ⟨dep, heve, -⟩
      · exact hupke hop' hdeci.nodes hupk
      · exact absurd ⟨_, heve⟩ hret

end Events

/-! ## Runs -/

/-- Events that leave finished operations alone. -/
def LeavesEndings (env : Env) (world : World) (event : Event) : Prop :=
  Unexhausted world event ∧ Settled env world event

section Runs

variable {platform : Platform} {first world world' : World} {op : ServiceOperationRecord}

theorem run_concluded (hfir : Started platform first)
    (hrun : UnexhaustedRun platform first world) (hop : op ∈ world.state.serviceOperations)
    (hfin : op.view.status.active = false)
    (hfre : FreshIds env world) (hset : Settled env world event) :
    Concluded env world event op (world.step platform env event).state := by
  rcases event.ne_restart_or with hres | ⟨cfg, rfl⟩
  · exact step_concluded hfre hset hres hop hfin
  · refine .kept op ?_ rfl rfl
    rw [(restart_records (hrun.stored hfir) cfg).2]
    exact Table.get?_of_mem hop

/-- Runs in which the operation is kept, and not retried if it failed. -/
abbrev RecordRun (platform : Platform) (op : ServiceOperationRecord) : World → World → Prop :=
  Runs platform fun env world event => LeavesEndings env world event ∧
    world.state.serviceOperations.contains op.operationId = true ∧
    (event = .retry op.stack → op.view.status = .succeeded)

/-- **Finished operations are immutable.** In every event that leaves them alone a finished
operation keeps its ending, is forgotten, or goes on because the deployment it started is
retried; so without such a retry its ending never changes for as long as it is kept. -/
theorem endings_immutable (hfirst : Started platform first)
    (hbefore : UnexhaustedRun platform first world) (hop : op ∈ world.state.serviceOperations)
    (hfinished : op.view.status = .succeeded ∨ op.view.status = .failed) :
    (∀ env event, FreshIds env world → LeavesEndings env world event →
      Concluded env world event op (world.step platform env event).state) ∧
    ∀ world', RecordRun platform op world world' →
      world'.state.serviceOperations.get? op.operationId = none ∨
      ∃ op', world'.state.serviceOperations.get? op.operationId = some op' ∧
        op'.ending = op.ending := by
  have hina : op.view.status.active = false := by
    rcases hfinished with h | h <;> rw [h] <;> rfl
  refine ⟨fun env event hfre hlea =>
    run_concluded hfirst hbefore hop hina hfre hlea.2, ?_⟩
  intro world' hrun
  have hkept : world'.state.serviceOperations.get? op.operationId = none ∨
      ∃ op', world'.state.serviceOperations.get? op.operationId = some op' ∧
        op'.ending = op.ending ∧ op'.stack = op.stack := by
    induction hrun with
    | refl => exact Or.inr ⟨op, Table.get?_of_mem hop, rfl, rfl⟩
    | tail hpre hstep ih =>
      obtain ⟨env, event, hfre, ⟨hlea, hthe, hret⟩, rfl⟩ := hstep
      have hsof : UnexhaustedRun platform first _ :=
        hbefore.trans (Runs.mono (fun h => h.1.1) hpre)
      rcases ih with hgone | ⟨mid, hmid, hend, hsta⟩
      · unfold Table.contains at hthe
        rw [hgone] at hthe
        cases hthe
      · obtain ⟨hmem, hid⟩ := Table.get?_eq_some.mp hmid
        have hstat : mid.view.status = op.view.status := congrArg Ending.status hend
        have hcon := run_concluded hfirst hsof hmem (hstat ▸ hina) hfre
          hlea.2
        rw [← hid]
        cases hcon with
        | forgotten hgone => exact Or.inl hgone
        | kept op' hop' hsame hsta' =>
          exact Or.inr ⟨op', hop', hsame.trans hend, hsta'.trans hsta⟩
        | revived op' dep _ heve hfai =>
          rw [hstat, hret (hsta ▸ heve)] at hfai
          cases hfai
  exact hkept.imp_right fun ⟨op', hop', hend, _⟩ => ⟨op', hop', hend⟩

end Runs

theorem settled_tick {world : World}
    (h : world.state.nodes.rows.all NodeRecord.supportsServiceOperations = true) :
    Settled env world .tick where
  calm := by
    intro op _ hfin
    refine ⟨hfin, fun _ _ => ⟨?_, fun _ _ heve => nomatch heve⟩, fun _ _ heve => nomatch heve⟩
    exact fun node hnode => List.all_eq_true.mp h node (Table.mem_rows.mpr hnode)
  unstarted := fun _ _ _ heve => nomatch heve
  fresh := fun _ heve => nomatch heve

/-- The image of a redeploy cannot be pulled. -/
def webUnpulled : ImageResolutionReport :=
  { deploymentGeneration := 5, image := "one", resolvedImageId := none,
    error := some "no such image", services := [] }

/-- The redeploy is submitted, and its image cannot be pulled. -/
def failedRedeploy : List Input :=
  deployedInputs ++
    [{ event := .submitOperation submitWeb, tag := "5" },
     { event := sampleBeat [webUp] [] [webUnpulled], tag := "6", now := ⟨1000, 1⟩ }]

/-- How the redeploy of the sample ended. -/
def World.webEnding (world : World) : Option Ending :=
  (world.state.serviceOperations.get? "op_5").map ServiceOperationRecord.ending

/-- A failed pull. -/
def pullFailed (time : Int) : Ending :=
  { status := .failed, phase := "failed", error := some "image_pull_failed", blocked := false,
    stalled := false, finishedAtUnixMs := some time }

theorem World.webEnding_some {world : World} {ending : Ending} (h : world.webEnding = some ending) :
    ∃ op ∈ world.state.serviceOperations, op.operationId = "op_5" ∧ op.ending = ending := by
  obtain ⟨op, hop, rfl⟩ := Option.map_eq_some_iff.mp h
  obtain ⟨hmem, hid⟩ := Table.get?_eq_some.mp hop
  exact ⟨op, hmem, hid, rfl⟩

theorem failedRedeploy_ending :
    (sampleWorld.perform samplePlatform failedRedeploy).webEnding = some (pullFailed 1000) := by
  decide +kernel

theorem failedRedeploy_run : UnexhaustedRun samplePlatform sampleWorld
    (sampleWorld.perform samplePlatform failedRedeploy) :=
  Runs.perform World.gatewayGrows unexhausted_of_gatewayGrows (by decide +kernel)

/-- The failed redeploy after a tick. -/
theorem endings_immutable_ticked :
    ((sampleWorld.perform samplePlatform failedRedeploy).step samplePlatform (sampleEnv "7")
      .tick).state.serviceOperations.get? "op_5" = none ∨
    ∃ op', ((sampleWorld.perform samplePlatform failedRedeploy).step samplePlatform
      (sampleEnv "7") .tick).state.serviceOperations.get? "op_5" = some op' ∧
      op'.ending = pullFailed 1000 := by
  obtain ⟨op, hop, hid, hend⟩ := World.webEnding_some failedRedeploy_ending
  have hfre : FreshIds (sampleEnv "7") (sampleWorld.perform samplePlatform failedRedeploy) :=
    freshIds_of_tagFree (by decide +kernel)
  have hgro : World.gatewayGrows (sampleEnv "7")
      (sampleWorld.perform samplePlatform failedRedeploy) .tick = true := by decide +kernel
  have hset : Settled (sampleEnv "7") (sampleWorld.perform samplePlatform failedRedeploy)
      .tick := settled_tick (by decide +kernel)
  have hrun : RecordRun samplePlatform op (sampleWorld.perform samplePlatform failedRedeploy)
      ((sampleWorld.perform samplePlatform failedRedeploy).step samplePlatform (sampleEnv "7")
        .tick) :=
    ReflTransGen.single ⟨sampleEnv "7", .tick, hfre, ⟨⟨unexhausted_of_gatewayGrows hgro, hset⟩,
      Table.contains_iff.mpr ⟨op, hop, rfl⟩, fun h => nomatch h⟩, rfl⟩
  have hfai : op.view.status = .failed := congrArg Ending.status hend
  have himm := (endings_immutable sampleWorld_started failedRedeploy_run hop
    (Or.inr hfai)).2 _ hrun
  rw [hid, hend] at himm
  exact himm

/-- **A repeated report fails an operation again.** The node reports a second later that it
still cannot pull the image; the redeploy that had failed then fails now. -/
theorem repeated_report_fails_again :
    Reachable samplePlatform (sampleWorld.perform samplePlatform (failedRedeploy
      ++ [{ event := sampleBeat [webUp] [] [webUnpulled], tag := "7", now := ⟨2000, 2⟩ }])) ∧
    (sampleWorld.perform samplePlatform failedRedeploy).webEnding = some (pullFailed 1000) ∧
    (sampleWorld.perform samplePlatform (failedRedeploy
      ++ [{ event := sampleBeat [webUp] [] [webUnpulled], tag := "7", now := ⟨2000, 2⟩ }])).webEnding
      = some (pullFailed 2000) :=
  ⟨sampleWorld_reachable.perform (by decide +kernel), failedRedeploy_ending, by decide +kernel⟩

end Swarmlite
