import Swarmlite.Controller.Courses

/-!
# Deployments that wait for the user

A deployment is blocked when an error needs the user: its status says so, and a condition
stays open until the user retries it. Two functions written for deployments that merely wait
do not look at the condition. The judgement at the end of a pass stalls every active
deployment without progress for its deadline, a blocked one included; and progress makes a
stalled deployment reconcile again. One after the other they lose the blocked status while
the condition stays open (`progress_hides_blocked`).

**`blocked_until_retried`**: as long as no deployment that waits for the user passes its
deadline (`InTime`), a deployment with such a condition shows the status blocked, and goes on
showing it with the condition open, until it is retried, ends or is replaced.

The argument is on the machine of `Courses`. A move keeps `Shown` unless it stalls, and a
stall needs a time past the deadline; the deadline only moves away within an event
(`CourseStep.inTime`).
-/

namespace Swarmlite

open Ordered Relation Loop

/-! ## Moves -/

namespace Course

variable {plat : Platform} {event : Event} {name : String}

/-- An open condition is visible in the status, unless the deployment has ended. -/
def Shown (c : Course) : Prop :=
  0 < c.blocked → c.status = .blocked ∨ c.status.isTerminal = true

/-- A deployment that waits for the user, or may come to wait in this event, is within its
deadline whenever the event reads the clock. -/
def InTime (env : Env) (event : Event) (c : Course) : Prop :=
  0 < c.blocked ∨ event.requiresUser → c.status.isActive = true →
    ∀ time, env.reads time → c.pastDeadline time = false

theorem pastDeadline_anti {c c' : Course} (hpro : c.progressed ≤ c'.progressed)
    (hdea : c'.deadlineSeconds = c.deadlineSeconds) {time : Int}
    (h : c.pastDeadline time = false) : c'.pastDeadline time = false := by
  unfold pastDeadline satI64 at h ⊢
  simp only [ge_iff_le, decide_eq_false_iff_not, not_le, hdea] at h ⊢
  omega

end Course

section Moves

variable {env : Env} {event : Event} {found : Inner} {name : String} {gen : Nat}
  {c c' : Course}

theorem not_isActive_of_isTerminal {status : StackDeploymentStatus}
    (h : status.isTerminal = true) : ¬ status.isActive = true := by
  unfold StackDeploymentStatus.isActive
  rw [h]
  decide

/-- A move of a deployment that has ended is none. -/
theorem CourseStep.ended (h : CourseStep env event found name gen c c')
    (hter : c.status.isTerminal = true) : c' = c := by
  have hact := not_isActive_of_isTerminal hter
  cases h with
  | same => rfl
  | progress time h | finish time h | stall time h | block h | fail h => exact absurd h hact

/-- Only the end of a deployment closes the condition. -/
theorem CourseStep.waits (h : CourseStep env event found name gen c c')
    (hwai : 0 < c.blocked ∨ c.status.isTerminal = true) :
    0 < c'.blocked ∨ c'.status.isTerminal = true := by
  rcases hwai with hopen | hter
  · cases h with
    | same | progress => exact .inl hopen
    | finish => exact .inr rfl
    | stall => exact .inl hopen
    | block => exact .inl (lt_max_of_lt_left hopen)
    | fail => exact .inr rfl
  · rw [h.ended hter]
    exact .inr hter

theorem CourseStep.inTime (h : CourseStep env event found name gen c c')
    (hc : c.InTime env event) : c'.InTime env event := by
  intro hwai hact time htime
  have hact' : c.status.isActive = true := by
    by_cases hter : c.status.isTerminal = true
    · rw [h.ended hter] at hact
      exact absurd hact (not_isActive_of_isTerminal hter)
    · unfold StackDeploymentStatus.isActive
      simpa using hter
  have hwai' : 0 < c.blocked ∨ event.requiresUser := by
    rcases hwai with hopen | huser
    · cases h with
      | finish => exact absurd hopen (lt_irrefl 0)
      | block _ huser => exact .inr huser
      | _ => exact .inl hopen
    · exact .inr huser
  have hdea : c'.deadlineSeconds = c.deadlineSeconds := by cases h <;> rfl
  exact Course.pastDeadline_anti h.progressed hdea (hc hwai' hact' time htime)

/-- In time, no move hides the condition. -/
theorem CourseStep.shown (h : CourseStep env event found name gen c c')
    (hc : c.InTime env event) (hsho : c.Shown) : c'.Shown := by
  intro hopen
  cases h with
  | same => exact hsho hopen
  | progress time hact =>
    rcases hsho hopen with hblo | hter
    · left
      show (if c.status = .stalled then _ else c.status) = .blocked
      rw [hblo]
      rfl
    · exact absurd hact (not_isActive_of_isTerminal hter)
  | finish => exact absurd hopen (lt_irrefl 0)
  | stall time hact htime hlate =>
    -- the only move that would hide it needs a time past the deadline
    rw [hc (.inl hopen) hact time htime] at hlate
    cases hlate
  | block => exact .inl rfl
  | fail => exact .inr rfl

/-- The moves of one event. -/
theorem courseSteps_shown (h : ReflTransGen (CourseStep env event found name gen) c c')
    (hc : c.InTime env event) (hsho : c.Shown) : c'.Shown := by
  have hrun : c'.InTime env event ∧ c'.Shown := by
    induction h with
    | refl => exact ⟨hc, hsho⟩
    | tail _ hstep ih => exact ⟨hstep.inTime ih.1, hstep.shown ih.1 ih.2⟩
  exact hrun.2

theorem courseSteps_waits (h : ReflTransGen (CourseStep env event found name gen) c c')
    (hwai : 0 < c.blocked ∨ c.status.isTerminal = true) :
    0 < c'.blocked ∨ c'.status.isTerminal = true := by
  induction h with
  | refl => exact hwai
  | tail _ hstep ih => exact hstep.waits ih

end Moves

/-! ## Events -/

/-- No deployment that waits for the user passes its deadline in the event. -/
def InTime (env : Env) (world : World) (event : Event) : Prop :=
  ∀ stack ∈ world.state.stackRecords, ∀ deployment, stack.deployment = some deployment →
    deployment.course.InTime env event

/-- Every open condition is visible. -/
def ConditionsShown (s : ClusterState) : Prop :=
  ∀ stack ∈ s.stackRecords, ∀ deployment, stack.deployment = some deployment →
    deployment.course.Shown

/-- What becomes of a deployment that waits for the user: a later deployment, a retry, or
the same, still waiting unless it has ended. -/
def Awaits (deployment deployment' : StackDeploymentRecord) : Prop :=
  deployment.generation < deployment'.generation ∨
  deployment.generation = deployment'.generation ∧
    (deployment.retryRevision < deployment'.retryRevision ∨
      deployment.retryRevision = deployment'.retryRevision ∧
        (0 < deployment.course.blocked ∨ deployment.status.isTerminal = true →
          0 < deployment'.course.blocked ∨ deployment'.status.isTerminal = true))

theorem Awaits.trans {a b c : StackDeploymentRecord} (hab : Awaits a b) (hbc : Awaits b c) :
    Awaits a c := by
  unfold Awaits at hab hbc ⊢
  rcases hab with hgen | ⟨hgen, hab⟩
  · left
    omega
  · rcases hbc with hgen' | ⟨hgen', hbc⟩
    · left
      omega
    · refine .inr ⟨hgen.trans hgen', ?_⟩
      rcases hab with hret | ⟨hret, hab⟩
      · left
        omega
      · rcases hbc with hret' | ⟨hret', hbc⟩
        · left
          omega
        · exact .inr ⟨hret.trans hret', fun hwai => hbc (hab hwai)⟩

section Events

variable {plat : Platform} {env : Env} {world : World} {event : Event}

theorem step_awaits (hwor : Reachable plat world) (hfre : FreshIds env world)
    (hres : ∀ cfg, event ≠ .restart cfg) {stack : StackRecord}
    (hstac : world.state.stackRecords.get? name = some stack)
    {dep : StackDeploymentRecord} (hdep : stack.deployment = some dep) :
    ∃ stack' dep', (world.step plat env event).state.stackRecords.get? name = some stack' ∧
      stack'.deployment = some dep' ∧ Awaits dep dep' := by
  have hmem := Table.mem_of_get? hstac
  rcases step_stack plat hfre hres name with ⟨f, hf, hten⟩ |
    ⟨heve, retried, current, hfou, hcur, hsta, hnew⟩ |
    ⟨index, request, planning, stack', -, rfl, hnew, hten⟩
  · obtain ⟨dep', hdep', hcha⟩ := (hten stack hstac).after hdep
    have hcou := (DeploymentChange.run hcha (hwor.coursesConsistent stack hmem dep hdep)).2.1
    rw [hstac] at hf
    exact ⟨f stack, dep', hf, hdep', .inr ⟨(DeploymentChange.generation_eq hcha).symm,
        .inr ⟨congrArg (·.retryRevision) (DeploymentChange.core hcha).symm, courseSteps_waits hcou⟩⟩⟩
  · rw [hstac] at hfou
    obtain rfl := Option.some.inj hfou
    refine ⟨_, retryDeployment env.now.unixMs dep, hnew, ?_, .inr ⟨rfl, .inl (Nat.lt_succ_self _)⟩⟩
    exact Option.map_eq_some_iff.mpr ⟨dep, hdep, rfl⟩
  · obtain ⟨dep', hdep', hcha⟩ := hten.after rfl
    refine ⟨stack', dep', hnew, hdep', .inl ?_⟩
    rw [DeploymentChange.generation_eq hcha]
    exact Nat.lt_succ_of_le (hwor.numbered.1.stack stack hmem _ (.inl ⟨dep, hdep, rfl⟩)).1

theorem step_shown (hwor : Reachable plat world) (hfre : FreshIds env world)
    (hres : ∀ cfg, event ≠ .restart cfg) (hint : InTime env world event)
    (hsho : ConditionsShown world.state) :
    ConditionsShown (world.step plat env event).state := by
  intro stack' hsta' dep' hdep'
  have hget := Table.get?_of_mem hsta'
  rcases step_stack plat hfre hres stack'.name with ⟨f, hf, hten⟩ |
    ⟨heve, retried, current, -, -, -, hnew⟩ |
    ⟨index, request, planning, new, heve, -, hnew, hten⟩
  · rw [hf] at hget
    obtain ⟨stack, hsta, rfl⟩ := Option.map_eq_some_iff.mp hget
    obtain ⟨dep, hdep, hcha⟩ := (hten stack hsta).before hdep'
    have hmem := Table.mem_of_get? hsta
    have hcou := (DeploymentChange.run hcha (hwor.coursesConsistent stack hmem dep hdep)).2.1
    exact courseSteps_shown hcou (hint stack hmem dep hdep) (hsho stack hmem dep hdep)
  · rw [hnew] at hget
    obtain rfl := Option.some.inj hget
    obtain ⟨dep, -, rfl⟩ := Option.map_eq_some_iff.mp hdep'
    rw [retryDeployment_course]
    exact fun hopen => absurd hopen (lt_irrefl 0)
  · rw [hnew] at hget
    obtain rfl := Option.some.inj hget
    obtain ⟨dep, hdep, hcha⟩ := hten.before hdep'
    cases hdep
    -- a new dep has no condition, and a commit brings no error
    refine courseSteps_shown (DeploymentChange.run hcha
      ⟨rfl, Nat.zero_le 1, Nat.zero_le 1, fun h => (nomatch h), fun h => (nomatch h)⟩).2.1 ?_
      fun hopen => absurd hopen (lt_irrefl 0)
    intro hwai
    rcases hwai with hopen | huser
    · exact absurd hopen (lt_irrefl 0)
    · obtain ⟨nodeId, body, hbeat, -⟩ := huser
      rw [heve] at hbeat
      cases hbeat

end Events

/-! ## Runs -/

/-- Runs in which no deployment that waits for the user passes its deadline. -/
abbrev PromptRun (platform : Platform) : World → World → Prop :=
  Runs platform fun env world event => Unexhausted world event ∧ InTime env world event

theorem PromptRun.unexhausted {first world : World}
    (hrun : PromptRun plat first world) : UnexhaustedRun plat first world :=
  Runs.mono And.left hrun

/-- A controller starts without stacks. -/
theorem Started.stackRecords {first : World} (h : Started plat first) :
    first.state.stackRecords = Table.empty := by
  have hsta : ∀ {cfg : ControllerConfig} {env : Env} {disk : VersionedState} {srv : Server},
      start plat cfg env disk = .ok srv →
      srv.inner.state.stackRecords = disk.state.stackRecords := by
    intro cfg env disk srv hok
    obtain ⟨cluster, gen, hinn, -⟩ := start_ok hok
    rw [hinn]
    rfl
  cases h with
  | fresh hok | recovered hok => exact hsta hok

theorem PromptRun.shown {first world : World}
    (hrun : PromptRun plat first world) (hfir : Started plat first) :
    ConditionsShown world.state := by
  induction hrun with
  | refl =>
    unfold ConditionsShown
    rw [hfir.stackRecords]
    exact fun stack hsta => absurd hsta Table.mem_empty
  | tail hpre hstep ih =>
    obtain ⟨env, event, hfre, ⟨_, hint⟩, rfl⟩ := hstep
    have hbef : PromptRun plat first _ := hpre
    rcases event.ne_restart_or with hres | ⟨cfg, rfl⟩
    · exact step_shown (hbef.unexhausted.reachable hfir.reachable) hfre hres hint ih
    · unfold ConditionsShown
      rw [(restart_records (hbef.unexhausted.stored hfir) cfg).1]
      exact ih

theorem UnexhaustedRun.awaits {first world world' : World}
    (haft : UnexhaustedRun plat world world') (hfir : Started plat first)
    (hbef : UnexhaustedRun plat first world) {stack : StackRecord}
    (hsta : world.state.stackRecords.get? name = some stack)
    {dep : StackDeploymentRecord} (hdep : stack.deployment = some dep) :
    ∃ stack' dep', world'.state.stackRecords.get? name = some stack' ∧
      stack'.deployment = some dep' ∧ Awaits dep dep' := by
  induction haft with
  | refl => exact ⟨stack, dep, hsta, hdep, .inr ⟨rfl, .inr ⟨rfl, id⟩⟩⟩
  | tail hpre hstep ih =>
    obtain ⟨mid, current, hmid, hcur, hawa⟩ := ih
    have hrun : UnexhaustedRun plat first _ := hbef.trans hpre
    obtain ⟨env, event, hfre, -, rfl⟩ := hstep
    rcases event.ne_restart_or with hres | ⟨cfg, rfl⟩
    · obtain ⟨stack', dep', hsta', hdep', hlast⟩ :=
        step_awaits (hrun.reachable hfir.reachable) hfre hres hmid hcur
      exact ⟨stack', dep', hsta', hdep', hawa.trans hlast⟩
    · refine ⟨mid, current, ?_, hcur, hawa⟩
      rw [(restart_records (hrun.stored hfir) cfg).1]
      exact hmid

/-- **Blocked is sticky.** A deployment whose user has to act shows it for as long as it is
the stack's deployment, has not been retried and has not ended: whatever happens in between,
its status is blocked and the condition is open. -/
theorem blocked_until_retried {platform : Platform} {first world world' : World}
    (hfirst : Started platform first) (hbefore : PromptRun platform first world)
    (hafter : PromptRun platform world world') {name : String} {stack : StackRecord}
    (hstack : world.state.stackRecords.get? name = some stack)
    {deployment : StackDeploymentRecord} (hdeployment : stack.deployment = some deployment)
    (hopen : 0 < deployment.openConditions .userActionRequired) :
    ∃ stack' deployment', world'.state.stackRecords.get? name = some stack' ∧
      stack'.deployment = some deployment' ∧
      (deployment'.generation = deployment.generation →
        deployment'.retryRevision = deployment.retryRevision →
        deployment'.status.isTerminal = true ∨
          deployment'.status = .blocked ∧ 0 < deployment'.openConditions .userActionRequired) := by
  obtain ⟨stack', deployment', hstack', hdeployment', hawa⟩ :=
    hafter.unexhausted.awaits hfirst hbefore.unexhausted hstack hdeployment
  refine ⟨stack', deployment', hstack', hdeployment', ?_⟩
  intro hgen hretr
  have hrun : PromptRun platform first world' := hbefore.trans hafter
  rcases hawa with hlat | ⟨-, hret | ⟨-, hwai⟩⟩
  · omega
  · omega
  · rcases hwai (Or.inl hopen) with hopen' | hter
    · have hsho := hrun.shown hfirst stack' (Table.mem_of_get? hstack') deployment' hdeployment'
      rcases hsho hopen' with hblo | hter
      · exact Or.inr ⟨hblo, hopen'⟩
      · exact Or.inl hter
    · exact Or.inl hter

/-- Every deployment is within its deadline, and the gateway generation can still grow. -/
def World.withinDeadlines (env : Env) (world : World) (event : Event) : Bool :=
  World.gatewayGrows env world event
    && world.state.stackRecords.rows.all fun stack => stack.deployment.all fun deployment =>
      !deployment.course.pastDeadline env.now.unixMs
        && !deployment.course.pastDeadline env.later.unixMs

theorem prompt_of_withinDeadlines {env : Env} {world : World}
    (h : World.withinDeadlines env world event = true) :
    Unexhausted world event ∧ InTime env world event := by
  obtain ⟨hgro, hall⟩ := Bool.and_eq_true_iff.mp h
  refine ⟨unexhausted_of_gatewayGrows hgro, ?_⟩
  intro stack hsta dep hdep _ _ time htime
  have hwit := List.all_eq_true.mp hall stack (Table.mem_rows.mpr hsta)
  rw [hdep, Option.all_some] at hwit
  simp only [Bool.and_eq_true, Bool.not_eq_true'] at hwit
  rcases htime with rfl | rfl
  · exact hwit.1
  · exact hwit.2

/-- A stack is applied, and the registry refuses the image to one of its tasks. -/
def refusedPull : List Input :=
  [{ event := sampleBeat [] [] [], tag := "a" },
   { event := .apply "shop" routedStack Table.empty false, tag := "b" },
   { event := .commit 0, tag := "c" },
   { event := sampleBeat [] [{ taskId := "c-", desiredGeneration := 3, appliedGeneration := none,
                               phase := .pull, error := some "pull access denied" }] [],
     tag := "d", now := ⟨1000, 1⟩ }]

/-- Generation, retries, status and open conditions that the user has to act on, of the
sample stack's deployment. -/
def World.shopWaits (world : World) : Option (Nat × Nat × StackDeploymentStatus × Nat) :=
  (stackDeployment world.state "shop").map fun deployment =>
    (deployment.generation, deployment.retryRevision, deployment.status,
      deployment.openConditions .userActionRequired)

theorem World.shopWaits_some {world : World} {view : Nat × Nat × StackDeploymentStatus × Nat}
    (h : world.shopWaits = some view) :
    ∃ stack dep, world.state.stackRecords.get? "shop" = some stack ∧ stack.deployment = some dep ∧
      dep.openConditions .userActionRequired = view.2.2.2 := by
  obtain ⟨dep, hdep, hview⟩ := Option.map_eq_some_iff.mp h
  obtain ⟨stack, hsta, hdep⟩ := Option.bind_eq_some_iff.mp hdep
  exact ⟨stack, dep, hsta, hdep, congrArg (·.2.2.2) hview⟩

theorem refusedPull_waits :
    (sampleWorld.perform samplePlatform refusedPull).shopWaits = some (3, 0, .blocked, 1) := by
  decide +kernel

theorem refusedPull_run :
    PromptRun samplePlatform sampleWorld (sampleWorld.perform samplePlatform refusedPull) :=
  Runs.perform World.withinDeadlines prompt_of_withinDeadlines (by decide +kernel)

/-- The refused deployment is still blocked after a tick. -/
theorem blocked_until_retried_ticked :
    ∃ stack deployment stack' deployment',
      (sampleWorld.perform samplePlatform refusedPull).state.stackRecords.get? "shop" = some stack ∧
      stack.deployment = some deployment ∧
      ((sampleWorld.perform samplePlatform refusedPull).perform samplePlatform
        [{ event := .tick, tag := "e", now := ⟨2000, 2⟩ }]).state.stackRecords.get? "shop"
        = some stack' ∧
      stack'.deployment = some deployment' ∧
      (deployment'.generation = deployment.generation →
        deployment'.retryRevision = deployment.retryRevision →
        deployment'.status.isTerminal = true ∨
          deployment'.status = .blocked ∧ 0 < deployment'.openConditions .userActionRequired) := by
  obtain ⟨stack, deployment, hsta, hdep, hopen⟩ :=
    World.shopWaits_some refusedPull_waits
  have htick : PromptRun samplePlatform (sampleWorld.perform samplePlatform refusedPull)
      ((sampleWorld.perform samplePlatform refusedPull).perform samplePlatform
        [{ event := .tick, tag := "e", now := ⟨2000, 2⟩ }]) :=
    Runs.perform World.withinDeadlines prompt_of_withinDeadlines (by decide +kernel)
  obtain ⟨stack', deployment', hsta', hdep', hblo⟩ :=
    blocked_until_retried sampleWorld_started refusedPull_run htick hsta hdep
      (hopen ▸ Nat.one_pos)
  exact ⟨stack, deployment, stack', deployment', hsta, hdep, hsta', hdep',
    hblo⟩

/-- The deadline passes, and then the task reports progress. -/
def deadlineThenProgress : List Input :=
  [{ event := .tick, tag := "e", now := ⟨301000, 2⟩ },
   { event := .heartbeat "c"
       { node := { id := "c", address := "c.local" }
         taskProgress := [{ taskId := "c-", desiredGeneration := 3, phase := .pull,
                            updatedAtUnixMs := 400000 }] },
     tag := "f", now := ⟨400000, 3⟩ }]

/-- **Deadline and progress hide a blocked deployment.** The same deployment, never retried,
is blocked, then reconciling with the condition open. -/
theorem progress_hides_blocked :
    Reachable samplePlatform (sampleWorld.perform samplePlatform
      (refusedPull ++ deadlineThenProgress)) ∧
    (sampleWorld.perform samplePlatform refusedPull).shopWaits = some (3, 0, .blocked, 1) ∧
    (sampleWorld.perform samplePlatform (refusedPull ++ deadlineThenProgress)).shopWaits
      = some (3, 0, .reconciling, 1) :=
  ⟨sampleWorld_reachable.perform (by decide +kernel), by decide +kernel, by decide +kernel⟩

end Swarmlite
