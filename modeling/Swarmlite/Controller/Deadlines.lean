import Swarmlite.Controller.Courses

/-!
# Progress deadlines and the clocks of the agents

A deployment that makes no progress for its deadline is stalled. The time of the last
progress is written by the controller, from its own clock for results, retries and gateway
reports, but from the agent's clock for the progress of tasks and images: the later of the
two is kept. An agent whose clock is ahead therefore moves the deadline of the whole
deployment into the future (`agent_clock_defers_deadline`).

**`deadline_on_controller_clock`** says what holds while no stamp is ahead of the clock of the
controller (`Stamped`), in runs with a clock that does not go back (`TimedRuns`):

1. no last progress is later than the current time;
2. when a deployment is judged that is active and not healthy, was there `deadline` ago, has
   not been retried since and of which nothing was heard since (`Silent`), it is stalled.

Both are invariants of the state in use and of the stored one (`step_holds`), so restarts are
covered without further conditions. The second starts from the first: at the beginning of the
interval all progress is at most the time of the beginning, and a silent event adds none.
-/

namespace Swarmlite

open Ordered Relation Loop

variable {event : Event} {dep : StackDeploymentRecord} {env : Env} {world : World}
  {s : ClusterState} {bound : Int} {plat : Platform} {found : Inner} {before after : World × Int}
  {f : StackDeploymentRecord → StackDeploymentRecord}

/-! ## The time of the last progress -/

section Changes

variable {env : Env} {event : Event} {found : Inner} {name : String}
  {deployment deployment' : StackDeploymentRecord}

/-- A change moves the last progress only for a reason, and to its time. -/
theorem DeploymentChange.lastProgress
    (h : DeploymentChange env event found name deployment deployment') :
    deployment'.lastProgressAtUnixMs = deployment.lastProgressAtUnixMs ∨
      ∃ time, Progresses env event found name deployment.generation time ∧
        deployment'.lastProgressAtUnixMs = max deployment.lastProgressAtUnixMs time := by
  cases h with
  | progress time hsou =>
    refine .inr ⟨time, .inl hsou, ?_⟩
    unfold recordProgress
    rw [laterProgress]
    dsimp only
    split <;> rfl
  | gatewayProgress hrep =>
    rcases recordGatewayProgress_course env.now.unixMs deployment with hsame | ⟨-, hmov⟩
    · exact .inl (congrArg Course.progressed hsame)
    · exact .inr ⟨_, .inr ⟨hrep, rfl⟩, congrArg Course.progressed hmov⟩
  | healthy time => exact .inl (congrArg Course.progressed (finishHealthy_course time deployment))
  | stalled time => exact .inl (congrArg Course.progressed (stall_course time deployment))
  | taskError error hact =>
    have hcou := congrArg Course.progressed (recordTaskError_course env.now.unixMs error hact)
    refine .inl (hcou.trans ?_)
    split <;> rfl
  | imageProgress | imageAnswer => exact .inl rfl
  | @imageFailure nodeId body report expected message =>
    have hcou := congrArg Course.progressed (failImageResolution_course env.now.unixMs nodeId
      report expected message deployment)
    refine .inl (hcou.trans ?_)
    split <;> rfl

/-- The changes of one event, when every reason is at most this late. -/
theorem DeploymentChange.lastProgress_le
    (h : ReflTransGen (DeploymentChange env event found name) deployment deployment')
    (hbou : ∀ time, Progresses env event found name deployment.generation time → time ≤ bound)
    (hle : deployment.lastProgressAtUnixMs ≤ bound) :
    deployment'.lastProgressAtUnixMs ≤ bound := by
  induction h with
  | refl => exact hle
  | tail hpre hstep ih =>
    rcases hstep.lastProgress with hsame | ⟨time, hrea, hmov⟩
    · exact hsame.le.trans ih
    · rw [DeploymentChange.generation_eq hpre] at hrea
      exact hmov.le.trans (max_le ih (hbou time hrea))

end Changes

/-! ## Stamps of the agents -/

/-- No progress of the heartbeat is stamped later than the controller's clock shows. -/
def Stamped (env : Env) (event : Event) : Prop :=
  ∀ nodeId body, event = .heartbeat nodeId body →
    (∀ progress ∈ body.taskProgress, progress.updatedAtUnixMs ≤ env.now.unixMs) ∧
    ∀ progress ∈ body.imageProgress, progress.updatedAtUnixMs ≤ env.now.unixMs

theorem Stamped.progresses {name : String} {gen : Nat} (h : Stamped env event) {time : Int}
    (hrea : Progresses env event found name gen time) : time ≤ env.now.unixMs := by
  rcases hrea with hsou | ⟨-, rfl⟩
  · cases hsou with
    | taskProgress progress heve hmem => exact (h _ _ heve).1 progress hmem
    | imageProgress progress heve hmem => exact (h _ _ heve).2 progress hmem
    | taskResult | imageResult | forgotten => exact le_refl _
  · exact le_refl _

/-- No deployment made progress later than this. -/
def Punctual (bound : Int) (s : ClusterState) : Prop :=
  ∀ stack ∈ s.stackRecords, ∀ deployment, stack.deployment = some deployment →
    deployment.lastProgressAtUnixMs ≤ bound

theorem Upkeep.punctual {s s' : ClusterState} (h : Upkeep env event found s s')
    (hbou : ∀ name generation time, Progresses env event found name generation time → time ≤ bound)
    (hs : Punctual bound s) : Punctual bound s' := by
  intro stack' hsta' deployment' hdep'
  obtain ⟨stack, hsta, hten⟩ := Upkeeps.stack_before (.single h) hsta'
  obtain ⟨deployment, hdep, hcha⟩ := hten.before hdep'
  exact DeploymentChange.lastProgress_le hcha (hbou _ _) (hs stack hsta deployment hdep)

theorem Decision.punctual (h : Decision plat env world event s)
    (hbou : env.now.unixMs ≤ bound) (hwor : Punctual bound world.state) : Punctual bound s := by
  intro stack' hsta' deployment' hdep'
  have hget := Table.get?_of_mem hsta'
  rcases h.stack stack'.name with hsame | ⟨-, stack, deployment, -, -, -, hnew⟩ |
    ⟨index, request, planning, -, -, hnew⟩
  · rw [hsame] at hget
    exact hwor stack' (Table.mem_of_get? hget) deployment' hdep'
  · rw [hnew] at hget
    obtain rfl := Option.some.inj hget
    obtain ⟨deployment, -, rfl⟩ := Option.map_eq_some_iff.mp hdep'
    exact hbou
  · rw [hnew] at hget
    obtain rfl := Option.some.inj hget
    cases hdep'
    exact hbou

/-! ## Runs with a clock -/

/-- Runs of a world with the time the controller last read. Its clock does not go back. -/
abbrev TimedRuns (platform : Platform) (P : Env → World → Event → Prop) :
    World × Int → World × Int → Prop :=
  ReflTransGen fun before after => ∃ env event,
    before.2 ≤ env.now.unixMs ∧ env.now.unixMs ≤ env.later.unixMs ∧
    FreshIds env before.1 ∧ P env before.1 event ∧
    after = (before.1.step platform env event, env.later.unixMs)

section Runs

variable {plat : Platform}

theorem TimedRuns.reachable {P : Env → World → Event → Prop}
    (hrun : TimedRuns plat P before after) (h : Reachable plat before.1) :
    Reachable plat after.1 := by
  induction hrun with
  | refl => exact h
  | tail _ hstep ih =>
    obtain ⟨env, event, -, -, hfre, -, rfl⟩ := hstep
    exact ih.step env event hfre

theorem Started.punctual {first : World} (h : Started plat first) (bound : Int) :
    first.server.Holds fun _ s => Punctual bound s := by
  have hstar : ∀ {cfg : ControllerConfig} {env : Env} {disk : VersionedState}
      {srv : Server}, start plat cfg env disk = .ok srv →
      Punctual bound disk.state → srv.Holds fun _ s => Punctual bound s :=
    start_holds (P := fun _ s => Punctual bound s) (fun _ hs => hs) (fun hs => hs)
      (fun _ _ _ hs => hs)
  cases h with
  | fresh hok | recovered hok => exact hstar hok fun stack hsta => absurd hsta Table.mem_empty

theorem TimedRuns.punctual {first world : World} {t₀ time : Int}
    (hrun : TimedRuns plat (fun env _ event => Stamped env event) (first, t₀) (world, time))
    (hfir : Started plat first) : world.server.Holds fun _ s => Punctual time s := by
  have hall : ∀ after : World × Int,
      TimedRuns plat (fun env _ event => Stamped env event) (first, t₀) after →
      after.1.server.Holds fun _ s => Punctual after.2 s := by
    intro after haft
    induction haft with
    | refl => exact hfir.punctual t₀
    | tail _ hstep ih =>
      obtain ⟨env, event, hnow, hlat, hfre, hsta, rfl⟩ := hstep
      have hbef := hnow.trans hlat
      refine step_holds (P := fun _ s => Punctual env.later.unixMs s) (fun _ hs => hs)
        (fun hs => hs) (fun _ _ _ hs => hs) hfre
        (fun hupk => hupk.punctual fun _ _ _ hrea =>
          (hsta.progresses hrea).trans hlat)
        (fun hdec => hdec.punctual hlat) ⟨?_, ?_⟩
      · exact fun stack hstac deployment h => (ih.1 stack hstac deployment h).trans hbef
      · exact fun stack hstac deployment h => (ih.2 stack hstac deployment h).trans hbef
  exact hall _ hrun

end Runs

/-! ## Quiet intervals -/

/-- Nothing is heard of the stack's deployment of this generation, and it is not retried. -/
structure Silent (platform : Platform) (name : String) (generation : Nat) (env : Env)
    (world : World) (event : Event) : Prop where
  unheard : ∀ time, ¬ Progresses env event world.server.inner name generation time
  unretried : event = .retry name → (world.step platform env event).server = world.server

/-- The deployment of this generation, an old one, made no progress later than this. -/
def Idle (name : String) (generation : Nat) (bound : Int) (current : Nat) (s : ClusterState) :
    Prop :=
  generation ≤ current ∧ ∀ stack, s.stackRecords.get? name = some stack →
    ∀ deployment, stack.deployment = some deployment → deployment.generation = generation →
      deployment.lastProgressAtUnixMs ≤ bound

section Quiet

variable {plat : Platform} {name : String} {generation : Nat} {bound : Int}

theorem Upkeeps.idle {s s' : ClusterState} {current : Nat} (h : Upkeeps env event found s s')
    (hunh : ∀ time, ¬ Progresses env event found name generation time)
    (hs : Idle name generation bound current s) : Idle name generation bound current s' := by
  refine ⟨hs.1, ?_⟩
  intro stack' hsta' deployment' hdep' hgen
  obtain ⟨f, hf, hten⟩ := h.stack name
  rw [hf] at hsta'
  obtain ⟨stack, hsta, rfl⟩ := Option.map_eq_some_iff.mp hsta'
  obtain ⟨deployment, hdep, hcha⟩ := (hten stack hsta).before hdep'
  have hsame : deployment.generation = generation :=
    (DeploymentChange.generation_eq hcha).symm.trans hgen
  have hname : stack.name = name := Table.key_of_get? hsta
  subst hsame hname
  exact DeploymentChange.lastProgress_le hcha
    (fun time hrea => absurd hrea (hunh time)) (hs.2 stack hsta deployment hdep rfl)

/-- A decision other than a retry of the stack: a new deployment has a new generation. -/
theorem Decision.idle (h : Decision plat env world event s) (hret : event ≠ .retry name)
    (hwor : Idle name generation bound world.server.inner.generation world.state) :
    Idle name generation bound (world.server.inner.generation + 1) s := by
  refine ⟨Nat.le_succ_of_le hwor.1, ?_⟩
  intro stack' hsta' deployment' hdep' hgen
  rcases h.stack name with hsame | ⟨heve, -⟩ | ⟨index, req, plan, -, -, hnew⟩
  · rw [hsame] at hsta'
    exact hwor.2 stack' hsta' deployment' hdep' hgen
  · exact absurd heve hret
  · rw [hnew] at hsta'
    obtain rfl := Option.some.inj hsta'
    cases hdep'
    have hle := hwor.1
    have hnum : world.server.inner.generation + 1 = generation := hgen
    omega

theorem step_idle (hfre : FreshIds env world) (hsil : Silent plat name generation env world event)
    (h : world.server.Holds (Idle name generation bound)) :
    (world.step plat env event).server.Holds (Idle name generation bound) := by
  by_cases hret : event = .retry name
  · rw [hsil.unretried hret]
    exact h
  · exact step_holds (P := Idle name generation bound)
      (fun hle hs => ⟨hs.1.trans hle, hs.2⟩) (fun hs => hs) (fun _ _ _ hs => hs) hfre
      (fun hupk => Upkeeps.idle (.single hupk) hsil.unheard)
      (fun hdec => hdec.idle hret) h

theorem TimedRuns.idle (hrun : TimedRuns plat (Silent plat name generation) before after)
    (h : before.1.server.Holds (Idle name generation bound)) :
    after.1.server.Holds (Idle name generation bound) := by
  induction hrun with
  | refl => exact h
  | tail _ hstep ih =>
    obtain ⟨env, event, -, -, hfre, hsil, rfl⟩ := hstep
    exact step_idle hfre hsil ih

end Quiet

/-! ## Judging -/

/-- The states in which an event judges the deployments, with the time it does so. -/
inductive Judges (platform : Platform) (env : Env) (world : World) :
    Event → ClusterState → Int → Prop
  | tick : Judges platform env world .tick
      (scheduleAndRoute platform world.config env true { inner := world.server.inner }).state
      env.now.unixMs
  | heartbeat {nodeId : String} {body : NodeHeartbeat} {member : NodeMember}
      (hnode : nodeId = body.node.id)
      (hmember : world.state.members.get? nodeId = some member) :
      Judges platform env world (.heartbeat nodeId body)
        (heartbeatScheduled platform world.config env world.server.inner member body).state
        env.later.unixMs
  | commit {index : Nat} {request : ApplyRequest} {planning : Planning}
      (hrequest : world.requests[index]? = some (.guarded request))
      (hcheck : checkApply world.server.inner request = .ok ())
      (hplan : planServices world.state
        (currentLiveNodes world.config env.now world.server.inner) request = .ok planning) :
      Judges platform env world (.commit index)
        (applyScheduled platform world.config env world.server.inner request planning)
        env.later.unixMs

/-- A judged state is the current one, or a decision's, after upkeep. -/
theorem Judges.idle
    {judged : ClusterState} {time : Int} (h : Judges plat env world event judged time)
    (hfre : FreshIds env world) {name : String} {gen : Nat}
    (hunh : ∀ time, ¬ Progresses env event world.server.inner name gen time)
    (hwor : Idle name gen bound world.server.inner.generation world.state) :
    ∃ current, Idle name gen bound current judged := by
  cases h with
  | tick =>
    have hupk : Upkeeps env .tick world.server.inner world.state (scheduleAndRoute plat
        world.config env true { inner := world.server.inner }).state :=
      scheduleAndRoute_upkeeps hfre.injective true { inner := world.server.inner } hfre.fresh
    exact ⟨_, hupk.idle hunh hwor⟩
  | @heartbeat nodeId body member hnode hmember =>
    have hupk : Upkeeps env (.heartbeat nodeId body) world.server.inner world.state
        (heartbeatScheduled plat world.config env world.server.inner member body).state :=
      heartbeatScheduled_upkeeps hfre (Table.get?_eq_some.mp hmember).2
    exact ⟨_, hupk.idle hunh hwor⟩
  | @commit index req plan hrequest hcheck hplan =>
    have hdeci : Decision plat env world (.commit index) _ :=
      .applied req _ plan rfl hrequest hcheck hplan
    have hdec := hdeci.idle (fun h => nomatch h) hwor
    exact ⟨_, (applyScheduled_upkeeps hfre req plan).idle hunh hdec⟩

/-- Health does not read what the judgement writes. -/
theorem deploymentIsHealthy_modifyDeployment (s : ClusterState) (judged name : String)
    (hgen : ∀ deployment, (f deployment).generation = deployment.generation)
    (hima : ∀ deployment, (f deployment).imageResolutions = deployment.imageResolutions)
    (hwait : ∀ deployment, (f deployment).waitForGateway = deployment.waitForGateway)
    (gen : Nat) (ready : Bool) :
    deploymentIsHealthy (modifyDeployment s judged f) name gen ready
      = deploymentIsHealthy s name gen ready := by
  have hrea : deploymentReplacementReady (modifyDeployment s judged f) name gen ready
      = deploymentReplacementReady s name gen ready := by
    unfold deploymentReplacementReady
    rw [get?_modifyDeployment]
    by_cases hname : name = judged
    · rw [if_pos hname]
      cases s.stackRecords.get? name with
      | none => rfl
      | some stack =>
        simp only [Option.map_some, StackRecord.mapDeployment]
        cases stack.deployment with
        | none => rfl
        | some deployment =>
          by_cases hnum : deployment.generation = gen
          · simp only [Option.map_some, Option.filter, hgen, hnum, decide_true, ite_true,
              hima, hwait]
            rfl
          · simp only [Option.map_some, Option.filter, hgen, hnum, decide_false,
              Bool.false_eq_true, ite_false]
    · rw [if_neg hname]
      rfl
  unfold deploymentIsHealthy
  rw [hrea]
  rfl

/-- The stack's deployment has to be stalled when it is judged at this time. -/
structure Due (ready : Bool) (unreadyTcp : List String) (now : Int) (name : String)
    (s : ClusterState) (deployment : StackDeploymentRecord) : Prop where
  current : stackDeployment s name = some deployment
  active : deployment.status.isActive = true
  unhealthy : deploymentIsHealthy s name deployment.generation
    (ready && !unreadyTcp.contains name) = false
  late : deployment.course.pastDeadline now = true

section Judging

variable {ready : Bool} {unreadyTcp : List String} {now : Int} {name : String}

theorem stackDeployment_modifyDeployment (s : ClusterState) (judged name : String)
    (f : StackDeploymentRecord → StackDeploymentRecord) :
    stackDeployment (modifyDeployment s judged f) name
      = if name = judged then (stackDeployment s name).map f else stackDeployment s name := by
  unfold stackDeployment
  rw [get?_modifyDeployment]
  split
  · cases s.stackRecords.get? name <;> rfl
  · rfl

/-- Judging another stack. -/
theorem Due.modify_ne
    (h : Due ready unreadyTcp now name s dep) {judged : String} (hne : name ≠ judged)
    (hgen : ∀ dep, (f dep).generation = dep.generation)
    (hima : ∀ dep, (f dep).imageResolutions = dep.imageResolutions)
    (hwait : ∀ dep, (f dep).waitForGateway = dep.waitForGateway) :
    Due ready unreadyTcp now name (modifyDeployment s judged f) dep := by
  refine ⟨?_, h.active, ?_, h.late⟩
  · rw [stackDeployment_modifyDeployment, if_neg hne]
    exact h.current
  · rw [deploymentIsHealthy_modifyDeployment s judged name hgen hima hwait]
    exact h.unhealthy

/-- Judging one stack keeps the deployment due, and stalls it if it is its own. -/
theorem refreshStackDeployment_due (acc : ClusterState × Bool)
    (h : Due ready unreadyTcp now name acc.1 dep)
    (judged : String) :
    ∃ dep', Due ready unreadyTcp now name
        (refreshStackDeployment now ready unreadyTcp acc judged).1 dep' ∧
      (dep.status = .stalled ∨ name = judged → dep'.status = .stalled) := by
  by_cases hname : name = judged
  · subst hname
    have hter : dep.status.isTerminal = false := by
      simpa [StackDeploymentStatus.isActive] using h.active
    unfold refreshStackDeployment
    simp only [h.current, hter, h.unhealthy, Bool.false_eq_true, ite_false]
    by_cases hove : progressOverdue now dep = true
    · rw [if_pos hove]
      refine ⟨stall now dep, ⟨?_, rfl, ?_, ?_⟩, fun _ => rfl⟩
      · rw [stackDeployment_modifyDeployment, if_pos rfl, h.current]
        rfl
      · rw [deploymentIsHealthy_modifyDeployment (f := stall now) acc.1 name name (fun _ => rfl)
          (fun _ => rfl) fun _ => rfl]
        exact h.unhealthy
      · rw [stall_course]
        exact h.late
    · -- past the deadline, only a stalled dep is left alone
      rw [if_neg hove]
      refine ⟨dep, h, fun _ => ?_⟩
      have hlate : (decide (satI64 (now - dep.lastProgressAtUnixMs)
          ≥ ((min (dep.progressDeadlineSeconds * 1000) 9223372036854775807 : Nat) : Int)))
          = true := h.late
      unfold progressOverdue at hove
      rw [hlate, Bool.true_and] at hove
      simpa using hove
  · have hkept : ∀ {s : ClusterState}, Due ready unreadyTcp now name s dep →
        ∃ dep', Due ready unreadyTcp now name s dep' ∧
          (dep.status = .stalled ∨ name = judged → dep'.status = .stalled) :=
      fun hdue => ⟨dep, hdue, fun hsta => hsta.resolve_right hname⟩
    unfold refreshStackDeployment
    split
    · exact hkept h
    split
    · exact hkept h
    split
    · exact hkept (h.modify_ne hname (fun _ => rfl) (fun _ => rfl) fun _ => rfl)
    split
    · exact hkept (h.modify_ne hname (fun _ => rfl) (fun _ => rfl) fun _ => rfl)
    · exact hkept h

/-- The loop over the stacks. -/
theorem foldl_refreshStackDeployment_due :
    ∀ (names : List String) (acc : ClusterState × Bool) {dep : StackDeploymentRecord},
      Due ready unreadyTcp now name acc.1 dep →
      ∃ dep', Due ready unreadyTcp now name
          (names.foldl (refreshStackDeployment now ready unreadyTcp) acc).1 dep' ∧
        (dep.status = .stalled ∨ name ∈ names → dep'.status = .stalled)
  | [], acc, dep, h => by
    refine ⟨dep, h, fun hsta => ?_⟩
    exact hsta.resolve_right List.not_mem_nil
  | judged :: names, acc, dep, h => by
    obtain ⟨mid, hmid, hsta⟩ := refreshStackDeployment_due acc h judged
    obtain ⟨dep', hdue, hsta'⟩ := foldl_refreshStackDeployment_due names _ hmid
    refine ⟨dep', hdue, fun hwas => hsta' ?_⟩
    rcases hwas with hwas | hmem
    · exact .inl (hsta (.inl hwas))
    · rcases List.mem_cons.mp hmem with hname | hmem
      · exact .inl (hsta (.inr hname))
      · exact .inr hmem

/-- **A deployment that is due is stalled.** -/
theorem refreshStackDeployments_stalls (h : Due ready unreadyTcp now name s dep) :
    ∃ dep', stackDeployment (refreshStackDeployments s now ready unreadyTcp).1 name
      = some dep' ∧ dep'.status = .stalled := by
  have hname : name ∈ s.stackRecords.rows.map StackRecord.name := by
    obtain ⟨stack, hstac, -⟩ := Option.bind_eq_some_iff.mp h.current
    obtain ⟨hmem, hkey⟩ := Table.get?_eq_some.mp hstac
    exact List.mem_map.mpr ⟨stack, Table.mem_rows.mpr hmem, hkey⟩
  obtain ⟨dep', hdue, hsta⟩ := foldl_refreshStackDeployment_due
    (s.stackRecords.rows.map StackRecord.name) (s, false) h
  exact ⟨dep', hdue.current, hsta (.inr hname)⟩

end Judging

theorem pastDeadline_of_interval {c : Course} {bound time : Int} (hbou : c.progressed ≤ bound)
    (hint : (c.deadlineSeconds * 1000 : Nat) ≤ time - bound) :
    c.pastDeadline time = true := by
  unfold Course.pastDeadline satI64
  rw [decide_eq_true_eq]
  omega

/-- **The progress deadline is measured on the controller's clock.** In runs in which no agent
stamps its progress ahead of it, no last progress is later than the time; and a deployment that
was there when an interval of its deadline began, of which nothing was heard and that was not
retried since, is stalled when it is judged, unless it has ended or is healthy. -/
theorem deadline_on_controller_clock {platform : Platform} {first world : World} {t₀ time : Int}
    (hfirst : Started platform first)
    (hrun : TimedRuns platform (fun env _ event => Stamped env event) (first, t₀) (world, time)) :
    Punctual time world.state ∧
    ∀ {name generation after env event judged now}, generation ≤ world.server.inner.generation →
      TimedRuns platform (Silent platform name generation) (world, time) after →
      FreshIds env after.1 → Silent platform name generation env after.1 event →
      Judges platform env after.1 event judged now →
      ∀ {deployment ready unreadyTcp}, stackDeployment judged name = some deployment →
        deployment.generation = generation → deployment.status.isActive = true →
        deploymentIsHealthy judged name generation (ready && !unreadyTcp.contains name) = false →
        (deployment.progressDeadlineSeconds * 1000 : Nat) ≤ now - time →
        ∃ deployment', stackDeployment (refreshStackDeployments judged now ready unreadyTcp).1 name
          = some deployment' ∧ deployment'.status = .stalled := by
  have hpun := hrun.punctual hfirst
  refine ⟨hpun.1, ?_⟩
  intro name generation after env event judged now hold hqui hfre hsil hjud
    deployment ready unreadyTcp hcurrent hgeneration hactive hunhealthy hinterval
  have hidle : world.server.Holds (Idle name generation time) :=
    ⟨⟨hold, fun stack hsta deployment hdep _ =>
        hpun.1 stack (Table.mem_of_get? hsta) deployment hdep⟩,
      ⟨hold.trans (hrun.reachable hfirst.reachable).stored_generation.ge,
        fun stack hsta deployment hdep _ =>
        hpun.2 stack (Table.mem_of_get? hsta) deployment hdep⟩⟩
  obtain ⟨current, -, hlast⟩ := hjud.idle hfre hsil.unheard (hqui.idle hidle).1
  obtain ⟨stack, hsta, hdep⟩ := Option.bind_eq_some_iff.mp hcurrent
  subst hgeneration
  exact refreshStackDeployments_stalls ⟨hcurrent, hactive, hunhealthy,
    pastDeadline_of_interval (hlast stack hsta deployment hdep rfl) hinterval⟩

/-- The ids are fresh, the clock does not go back, and no stamp is ahead of it. -/
def World.inputsStamped (platform : Platform) : World → Int → List Input → Bool
  | _, _, [] => true
  | world, time, input :: inputs =>
    world.tagFree input.tag && time ≤ input.now.unixMs && input.now.unixMs ≤ input.later.unixMs
      && (match input.event with
        | .heartbeat _ body =>
          (body.taskProgress.all fun progress => progress.updatedAtUnixMs ≤ input.now.unixMs)
            && body.imageProgress.all fun progress => progress.updatedAtUnixMs ≤ input.now.unixMs
        | _ => true)
      && inputsStamped platform (world.step platform input.env input.event) input.later.unixMs
        inputs

theorem TimedRuns.perform : ∀ {inputs : List Input} {world : World} {time : Int},
      world.inputsStamped plat time inputs = true →
      TimedRuns plat (fun env _ event => Stamped env event) (world, time)
        (world.perform plat inputs, inputs.foldl (fun _ input => input.later.unixMs) time)
  | [], _, _, _ => .refl
  | input :: inputs, world, time, h => by
    unfold World.inputsStamped at h
    simp only [Bool.and_eq_true, decide_eq_true_eq] at h
    obtain ⟨⟨⟨⟨htag, hnow⟩, hlat⟩, hstam⟩, hrest⟩ := h
    have hsta : Stamped input.env input.event := by
      intro nodeId body heve
      rw [heve] at hstam
      simp only [Bool.and_eq_true, List.all_eq_true, decide_eq_true_eq] at hstam
      exact hstam
    exact ReflTransGen.head
      ⟨input.env, input.event, hnow, hlat, freshIds_of_tagFree htag, hsta, rfl⟩
      (TimedRuns.perform hrest)

/-- Nothing is heard in a tick. -/
theorem silent_tick (plat : Platform) (name : String) (gen : Nat) (env : Env)
    (world : World) : Silent plat name gen env world .tick := by
  refine ⟨fun time hrea => ?_, fun h => nomatch h⟩
  rcases hrea with hsou | ⟨⟨nodeId, body, heve, -⟩, -⟩
  · cases hsou with
    | taskProgress _ heve | taskResult _ heve | imageProgress _ heve => cases heve
    | imageResult _ heve | forgotten _ heve => cases heve
  · cases heve

/-- The sample stack is applied on a node that has reported. -/
def shopApplied : List Input :=
  [{ event := sampleBeat [] [] [], tag := "a" },
   { event := .apply "shop" routedStack Table.empty false, tag := "b" },
   { event := .commit 0, tag := "c" }]

/-- A tick after five minutes. -/
def lateTick : Input := { event := .tick, tag := "e", now := ⟨300000, 2⟩ }

/-- The state the late tick judges. -/
def World.lateJudged (world : World) : ClusterState :=
  (scheduleAndRoute samplePlatform world.config lateTick.env true
    { inner := world.server.inner }).state

/-- What the late tick judges of the sample stack. -/
def World.lateView (world : World) : Option (Nat × Bool × Nat) :=
  (stackDeployment world.lateJudged "shop").map fun deployment =>
    (deployment.generation, deployment.status.isActive, deployment.progressDeadlineSeconds)

theorem World.lateView_some {view : Nat × Bool × Nat} (h : world.lateView = some view) :
    ∃ deployment, stackDeployment world.lateJudged "shop" = some deployment ∧
      deployment.generation = view.1 ∧ deployment.status.isActive = view.2.1 ∧
      deployment.progressDeadlineSeconds = view.2.2 := by
  obtain ⟨deployment, hdep, rfl⟩ := Option.map_eq_some_iff.mp h
  exact ⟨deployment, hdep, rfl, rfl, rfl⟩

theorem shopApplied_run :
    TimedRuns samplePlatform (fun env _ event => Stamped env event) (sampleWorld, 0)
      (sampleWorld.perform samplePlatform shopApplied, 0) :=
  TimedRuns.perform (by decide +kernel)

/-- Nothing is heard of the applied stack for five minutes. -/
theorem deadline_on_controller_clock_passed :
    ∃ deployment', stackDeployment (refreshStackDeployments
        (sampleWorld.perform samplePlatform shopApplied).lateJudged 300000 false []).1 "shop"
      = some deployment' ∧ deployment'.status = .stalled := by
  have hview : (sampleWorld.perform samplePlatform shopApplied).lateView = some (3, true, 300) := by
    decide +kernel
  obtain ⟨deployment, hcur, hgen, hact, hdea⟩ := World.lateView_some hview
  refine (deadline_on_controller_clock sampleWorld_started shopApplied_run).2
    (by decide +kernel) ReflTransGen.refl (freshIds_of_tagFree (by decide +kernel))
    (silent_tick _ _ 3 lateTick.env _) .tick hcur hgen hact (by decide +kernel) ?_
  rw [hdea]
  decide

/-- An agent whose clock is ahead by some days reports progress of a task. -/
def fastAgent : Input :=
  { event := .heartbeat "c"
      { node := { id := "c", address := "c.local" }
        taskProgress := [{ taskId := "c-", desiredGeneration := 3, phase := .pull,
                           updatedAtUnixMs := 1000000000 }] },
    tag := "d", now := ⟨1000, 1⟩ }

/-- **The clock of an agent defers the deadline.** The last progress is ahead of the
controller's time; after an hour without a message the deployment is still reconciling. -/
theorem agent_clock_defers_deadline :
    Reachable samplePlatform (sampleWorld.perform samplePlatform (shopApplied ++ [fastAgent])) ∧
    (sampleWorld.perform samplePlatform (shopApplied ++ [fastAgent])).shopProgress
      = some 1000000000 ∧
    (sampleWorld.perform samplePlatform (shopApplied ++ [fastAgent,
      { event := .tick, tag := "e", now := ⟨3600000, 2⟩ }])).shopStatus = some .reconciling :=
  ⟨sampleWorld_reachable.perform (by decide +kernel), by decide +kernel, by decide +kernel⟩

end Swarmlite
