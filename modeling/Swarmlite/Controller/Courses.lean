import Swarmlite.Controller.Numbering
import Swarmlite.Controller.Durability

/-!
# The course of a deployment

A deployment record is written by some ten functions: progress of tasks, images and
gateways, results and errors, the judgement at the end of a pass, retries. What they make of
its status, its times and its conditions is a small machine, `Course`, with six moves:
progress, finishing, stalling, blocking, failing and the retry. `DeploymentChange.courseStep`
says that every change of a record is one of the first five moves (or none), with where its
time comes from; the guards are part of the moves, so properties of the record are proved on
the machine.

`Course.Consistent` is what a reader of a record relies on: it is finished exactly if its
status is terminal, at most one condition of each kind is open, a stalled deployment shows
that it exceeded its deadline, and a healthy one has nothing open.

**`deployments_consistent`** says that records are consistent in every reachable world, that
a terminal record stays as it is until the retry of a failed one or a new apply, which moves
it to the history, and that the time of the last progress only grows but for a retry. A
restart goes back to the stored record; it is the one in use unless a pass was given up
because the gateway generation was exhausted, which `Unexhausted` excludes.
-/

namespace Swarmlite

open Ordered Relation Loop

variable {dep : StackDeploymentRecord} {name : String} {env : Env}

/-! ## The machine -/

/-- What a deployment goes through. The conditions count while they are open. -/
structure Course where
  status : StackDeploymentStatus
  finished : Option Int
  progressed : Int
  deadlineSeconds : Nat
  /-- Open conditions that the progress deadline is exceeded. -/
  overdue : Nat
  /-- Open conditions that the user has to act. -/
  blocked : Nat

namespace Course

def progress (time : Int) (c : Course) : Course :=
  { c with
    status := if c.status = .stalled then .reconciling else c.status
    progressed := max c.progressed time
    overdue := if c.status = .stalled then 0 else c.overdue }

def finish (time : Int) (c : Course) : Course :=
  { c with status := .healthy, finished := some time, overdue := 0, blocked := 0 }

def stall (c : Course) : Course :=
  { c with status := .stalled, overdue := max c.overdue 1 }

def block (c : Course) : Course :=
  { c with status := .blocked, finished := none, blocked := max c.blocked 1 }

def fail (time : Int) (c : Course) : Course :=
  { c with status := .failed, finished := some time }

def retry (time : Int) (c : Course) : Course :=
  { c with
    status := .reconciling
    finished := none
    progressed := time
    overdue := 0
    blocked := 0 }

/-- No progress for as long as the deadline allows. -/
def pastDeadline (time : Int) (c : Course) : Bool :=
  satI64 (time - c.progressed)
    ≥ ((min (c.deadlineSeconds * 1000) 9223372036854775807 : Nat) : Int)

structure Consistent (c : Course) : Prop where
  finished : c.finished.isSome = c.status.isTerminal
  overdue : c.overdue ≤ 1
  blocked : c.blocked ≤ 1
  stalled : c.status = .stalled → 0 < c.overdue
  healthy : c.status = .healthy → c.overdue = 0 ∧ c.blocked = 0

/-- An active deployment has not finished. -/
theorem Consistent.unfinished {c : Course} (h : c.Consistent) (hact : c.status.isActive = true) :
    c.finished = none := by
  have hter : c.status.isTerminal = false := by
    unfold StackDeploymentStatus.isActive at hact
    simpa using hact
  have hfin := h.finished
  rw [hter] at hfin
  simpa using hfin

end Course

/-- Open conditions of a kind. -/
def StackDeploymentRecord.openConditions (kind : StackDeploymentConditionKind)
    (deployment : StackDeploymentRecord) : Nat :=
  deployment.conditions.countP (·.isOpen kind)

/-- The machine's view of a record. -/
def StackDeploymentRecord.course (deployment : StackDeploymentRecord) : Course :=
  { status := deployment.status
    finished := deployment.finishedAtUnixMs
    progressed := deployment.lastProgressAtUnixMs
    deadlineSeconds := deployment.progressDeadlineSeconds
    overdue := deployment.openConditions .progressDeadlineExceeded
    blocked := deployment.openConditions .userActionRequired }

/-! ## Functions on records as moves -/

variable (time : Int) (kind other : StackDeploymentConditionKind) (now : Int)
  (deployment : StackDeploymentRecord)

/-- Resolving the open conditions of a kind leaves those of other kinds. -/
theorem isOpen_resolved (condition : StackDeploymentCondition) :
    (if condition.isOpen kind then { condition with resolvedAtUnixMs := some now }
      else condition).isOpen other = (condition.isOpen other && decide (other ≠ kind)) := by
  by_cases hopen : condition.isOpen kind = true
  · have hkind : condition.kind = kind := by
      simp only [StackDeploymentCondition.isOpen, Bool.and_eq_true, decide_eq_true_eq] at hopen
      exact hopen.1
    rw [if_pos hopen]
    by_cases hoth : other = kind
    · simp [StackDeploymentCondition.isOpen, hoth]
    · have hne : ¬ kind = other := fun h => hoth h.symm
      simp [StackDeploymentCondition.isOpen, hkind, hne]
  · rw [if_neg hopen]
    by_cases hoth : other = kind
    · subst hoth
      simpa using hopen
    · simp [hoth]

theorem openConditions_resolve :
    (resolveDeploymentCondition kind now deployment).openConditions other
      = if other = kind then 0 else deployment.openConditions other := by
  unfold resolveDeploymentCondition StackDeploymentRecord.openConditions
  dsimp only
  rw [List.countP_map]
  split
  next hkind =>
    rw [List.countP_eq_zero]
    intro condition _
    rw [Function.comp_apply, isOpen_resolved]
    simp [hkind]
  next hkind =>
    refine List.countP_congr fun condition _ => ?_
    rw [Function.comp_apply, isOpen_resolved]
    simp [hkind]

theorem openConditions_set (reason message : String) (dep : StackDeploymentRecord) :
    (setDeploymentCondition kind now reason message dep).openConditions other
      = if other = kind then max (dep.openConditions kind) 1
        else dep.openConditions other := by
  unfold setDeploymentCondition StackDeploymentRecord.openConditions
  dsimp only
  split
  next hany =>
    -- an open condition is rewritten, and stays open
    have hcou : 0 < dep.conditions.countP (·.isOpen kind) :=
      List.countP_pos_iff.mpr (List.any_eq_true.mp hany)
    have hsame := countP_updateFirst (p := (·.isOpen kind)) (q := (·.isOpen other))
      (f := fun condition => { condition with reason, message }) (fun _ => rfl)
      dep.conditions
    rw [hsame]
    by_cases hkind : other = kind
    · subst hkind
      rw [if_pos rfl]
      omega
    · rw [if_neg hkind]
  next hnone =>
    have hcou : dep.conditions.countP (·.isOpen kind) = 0 := by
      rw [List.countP_eq_zero]
      intro condition hmem hopen
      exact hnone (List.any_eq_true.mpr ⟨condition, hmem, hopen⟩)
    rw [List.countP_append, List.countP_singleton, hcou]
    by_cases hkind : other = kind
    · subst hkind
      rw [hcou, if_pos rfl]
      simp [StackDeploymentCondition.isOpen]
    · have hne : ¬ kind = other := fun h => hkind h.symm
      rw [if_neg hkind]
      simp [StackDeploymentCondition.isOpen, hne]

theorem resolveOverdue_course :
    (resolveDeploymentCondition .progressDeadlineExceeded now deployment).course
      = { deployment.course with overdue := 0 } := by
  unfold StackDeploymentRecord.course
  rw [openConditions_resolve, openConditions_resolve, if_pos rfl, if_neg (by decide)]
  rfl

/-- The later of the two times is kept. -/
theorem laterProgress : (if time > deployment.lastProgressAtUnixMs then
      { deployment with lastProgressAtUnixMs := time } else deployment)
      = { deployment with
          lastProgressAtUnixMs := max deployment.lastProgressAtUnixMs time } := by
  split
  next h => rw [max_eq_right (le_of_lt h)]
  next h => rw [max_eq_left (not_lt.mp h)]

theorem recordProgress_course (hunf : dep.finishedAtUnixMs = none) :
    (recordProgress time dep).course = dep.course.progress time := by
  unfold recordProgress
  rw [laterProgress]
  dsimp only
  split
  next hsta =>
    rw [resolveOverdue_course]
    simp [Course.progress, StackDeploymentRecord.course, StackDeploymentRecord.openConditions,
      hsta, hunf]
  next hsta =>
    simp [Course.progress, StackDeploymentRecord.course, StackDeploymentRecord.openConditions, hsta]

theorem recordGatewayProgress_course :
    (recordGatewayProgress time deployment).course = deployment.course ∨
      deployment.status.isActive = true ∧
        (recordGatewayProgress time deployment).course = deployment.course.progress time := by
  unfold recordGatewayProgress
  split
  · exact .inl rfl
  next hmov =>
    simp only [Bool.or_eq_true, Bool.not_eq_true', decide_eq_true_eq, not_or,
      Bool.not_eq_false, not_le] at hmov
    have htime : max deployment.lastProgressAtUnixMs time = time := max_eq_right (le_of_lt hmov.2)
    refine .inr ⟨hmov.1, ?_⟩
    dsimp only
    split
    next hsta =>
      rw [resolveOverdue_course]
      simp [Course.progress, StackDeploymentRecord.course, StackDeploymentRecord.openConditions,
        hsta, htime]
    next hsta =>
      simp [Course.progress, StackDeploymentRecord.course, StackDeploymentRecord.openConditions,
        hsta, htime]

theorem finishHealthy_course :
    (finishHealthy time deployment).course = deployment.course.finish time := by
  have hopen : ∀ kind, (finishHealthy time deployment).openConditions kind = 0 := by
    intro kind
    show (resolveDeploymentCondition .userActionRequired time _).openConditions kind = 0
    rw [openConditions_resolve, openConditions_resolve]
    cases kind <;> rfl
  unfold StackDeploymentRecord.course
  rw [hopen, hopen]
  rfl

theorem stall_course : (stall time deployment).course = deployment.course.stall := by
  unfold stall StackDeploymentRecord.course
  rw [openConditions_set, openConditions_set, if_pos rfl, if_neg (by decide)]
  rfl

theorem pushError_course (error : StackDeploymentError) (dep : StackDeploymentRecord) :
    (pushError error dep).course = dep.course := by
  unfold pushError
  split <;> rfl

/-- Blocking a record. -/
theorem block_course (reason message : String) (dep : StackDeploymentRecord) :
    ({ setDeploymentCondition .userActionRequired now reason message dep with
      status := .blocked
      finishedAtUnixMs := none } : StackDeploymentRecord).course = dep.course.block := by
  have hove := openConditions_set .userActionRequired .progressDeadlineExceeded now reason
    message dep
  have hblo := openConditions_set .userActionRequired .userActionRequired now reason message dep
  rw [if_neg (by decide)] at hove
  rw [if_pos rfl] at hblo
  unfold Course.block StackDeploymentRecord.course
  dsimp only
  rw [← hove, ← hblo]
  rfl

theorem recordTaskError_course (error : StackDeploymentError) (hact : dep.status.isActive = true) :
    (recordTaskError now error dep).course
      = if deploymentErrorRequiresUser error.message then dep.course.block
        else dep.course.fail now := by
  have hpus := pushError_course error dep
  have hsta : (pushError error dep).status = dep.status := congrArg Course.status hpus
  unfold recordTaskError
  dsimp only
  rw [hsta, if_pos hact, ← hpus]
  split
  · exact block_course now _ _ _
  · rfl

theorem failImageResolution_course (nodeId : String) (report : ImageResolutionReport)
    (expected : List DeploymentImageResolutionRecord) (message : String)
    (dep : StackDeploymentRecord) :
    (failImageResolution now nodeId report expected message dep).course
      = if deploymentErrorRequiresUser message then dep.course.block
        else dep.course.fail now := by
  unfold failImageResolution
  extract_lets ids resolved pushed
  have hpus : pushed.course = dep.course :=
    List.foldlRecOn (motive := fun start => start.course = dep.course) expected _ (b := resolved) rfl
      fun start hcourse _ _ => (pushError_course _ start).trans hcourse
  rw [← hpus]
  split
  · exact block_course now _ _ _
  · rfl

theorem retryDeployment_course :
    (retryDeployment now deployment).course = deployment.course.retry now := by
  have hopen : ∀ kind, (retryDeployment now deployment).openConditions kind = 0 := by
    intro kind
    unfold retryDeployment StackDeploymentRecord.openConditions
    dsimp only
    rw [List.countP_map, List.countP_eq_zero]
    intro condition _ hopen
    rw [Function.comp_apply] at hopen
    by_cases hres : condition.resolvedAtUnixMs.isNone = true
    · rw [if_pos hres] at hopen
      simp [StackDeploymentCondition.isOpen] at hopen
    · rw [if_neg hres] at hopen
      simp only [StackDeploymentCondition.isOpen, Bool.and_eq_true] at hopen
      exact hres hopen.2
  unfold StackDeploymentRecord.course
  rw [hopen, hopen]
  rfl

/-! ## Changes of records as moves -/

/-- The event may report an error only the user can resolve. -/
def Event.requiresUser (event : Event) : Prop :=
  ∃ nodeId body, event = .heartbeat nodeId body ∧
    ((∃ report ∈ body.taskResults, ∃ message, report.error = some message ∧
      deploymentErrorRequiresUser message = true) ∨
    ∃ report ∈ body.imageResults, ∃ expected message,
      imageReportError expected nodeId report = some message ∧
      deploymentErrorRequiresUser message = true)

/-- A reason for progress, the gateways' included. -/
def Progresses (env : Env) (event : Event) (found : Inner) (name : String) (generation : Nat)
    (time : Int) : Prop :=
  ProgressSource env event found name generation time ∨
    event.bringsGatewayReport found ∧ time = env.now.unixMs

/-- The moves of a deployment in the course of an event. -/
inductive CourseStep (env : Env) (event : Event) (found : Inner) (name : String)
    (generation : Nat) : Course → Course → Prop
  | same (c : Course) : CourseStep env event found name generation c c
  | progress (c : Course) (time : Int) (hactive : c.status.isActive = true)
      (hsource : Progresses env event found name generation time) :
      CourseStep env event found name generation c (c.progress time)
  | finish (c : Course) (time : Int) (hactive : c.status.isActive = true)
      (htime : env.reads time) : CourseStep env event found name generation c (c.finish time)
  | stall (c : Course) (time : Int) (hactive : c.status.isActive = true) (htime : env.reads time)
      (hlate : c.pastDeadline time = true) :
      CourseStep env event found name generation c c.stall
  | block (c : Course) (hactive : c.status.isActive = true) (hevent : event.requiresUser) :
      CourseStep env event found name generation c c.block
  | fail (c : Course) (hactive : c.status.isActive = true) :
      CourseStep env event found name generation c (c.fail env.now.unixMs)

/-- **Every change of a record is a move of its course.** -/
theorem DeploymentChange.courseStep {event : Event} {found : Inner}
    {dep dep' : StackDeploymentRecord}
    (h : DeploymentChange env event found name dep dep')
    (hcon : dep.course.Consistent) :
    CourseStep env event found name dep.generation dep.course dep'.course := by
  cases h with
  | progress time hsou hact =>
    rw [recordProgress_course time (hcon.unfinished hact)]
    exact .progress _ time hact (.inl hsou)
  | gatewayProgress hrep hwait =>
    rcases recordGatewayProgress_course env.now.unixMs dep with hsame | ⟨hact, hmov⟩
    · rw [hsame]
      exact .same _
    · rw [hmov]
      exact .progress _ _ hact (.inr ⟨hrep, rfl⟩)
  | healthy time htime hact =>
    rw [finishHealthy_course]
    exact .finish _ time hact htime
  | stalled time htime hact hove =>
    rw [stall_course]
    exact .stall _ time hact htime (Bool.and_eq_true_iff.mp hove).1
  | taskError error hact herr =>
    rw [recordTaskError_course _ error hact]
    split
    next huser =>
      -- what the inventory shows never needs the user
      rcases herr with ⟨nodeId, body, heve, report, hrep, hmes⟩ | htext | htext
      · exact .block _ hact ⟨nodeId, body, heve, .inl ⟨report, hrep, error.message, hmes, huser⟩⟩
      -- what the controller says itself asks for no user
      all_goals
        rw [htext] at huser
        exact absurd huser (by decide)
    · exact .fail _ hact
  | imageProgress | imageAnswer => exact .same _
  | imageFailure report expected message heve hrep hmes hact =>
    rw [failImageResolution_course]
    split
    next huser =>
      exact .block _ hact ⟨_, _, heve, .inr ⟨report, hrep, expected, message, hmes, huser⟩⟩
    · exact .fail _ hact

/-! ## What the machine keeps -/

section Steps

variable {env : Env} {event : Event} {found : Inner} {name : String} {gen : Nat}
  {c c' : Course}

theorem CourseStep.consistent (h : CourseStep env event found name gen c c')
    (hc : c.Consistent) : c'.Consistent := by
  cases h with
  | same => exact hc
  | progress time hact _ =>
    have hunf := hc.unfinished hact
    unfold Course.progress
    by_cases hsta : c.status = .stalled
    · rw [if_pos hsta, if_pos hsta]
      exact ⟨by rw [hunf]; rfl, Nat.zero_le 1, hc.blocked, fun h => (nomatch h),
        fun h => (nomatch h)⟩
    · rw [if_neg hsta, if_neg hsta]
      exact ⟨hc.finished, hc.overdue, hc.blocked, hc.stalled, hc.healthy⟩
  | finish => exact ⟨rfl, Nat.zero_le 1, Nat.zero_le 1, fun h => (nomatch h), fun _ => ⟨rfl, rfl⟩⟩
  | stall time hact _ _ =>
    have hunf := hc.unfinished hact
    have hove := hc.overdue
    refine ⟨by rw [Course.stall, hunf]; rfl, ?_, hc.blocked, fun _ => ?_, fun h => (nomatch h)⟩
    · show max c.overdue 1 ≤ 1
      omega
    · show 0 < max c.overdue 1
      omega
  | block =>
    have hblo := hc.blocked
    refine ⟨rfl, hc.overdue, ?_, fun h => (nomatch h), fun h => (nomatch h)⟩
    show max c.blocked 1 ≤ 1
    omega
  | fail => exact ⟨rfl, hc.overdue, hc.blocked, fun h => (nomatch h), fun h => (nomatch h)⟩

theorem CourseStep.progressed (h : CourseStep env event found name gen c c') :
    c.progressed ≤ c'.progressed := by
  cases h with
  | progress time => exact le_max_left c.progressed time
  | _ => exact le_refl c.progressed

theorem DeploymentChange.terminal {dep dep' : StackDeploymentRecord}
    (h : DeploymentChange env event found name dep dep')
    (hter : dep.status.isTerminal = true) : dep' = dep := by
  have hact : ¬ dep.status.isActive = true := by
    unfold StackDeploymentStatus.isActive
    rw [hter]
    decide
  cases h with
  | gatewayProgress =>
    unfold recordGatewayProgress
    rw [if_pos]
    simp [Bool.eq_false_iff.mpr hact]
  | progress _ _ h | healthy _ _ h | stalled _ _ h | taskError _ h => exact absurd h hact
  | imageProgress _ _ h | imageAnswer _ _ _ h | imageFailure _ _ _ _ _ _ h => exact absurd h hact

/-- The changes of one event, on a consistent record. -/
theorem DeploymentChange.run {dep dep' : StackDeploymentRecord}
    (h : ReflTransGen (DeploymentChange env event found name) dep dep')
    (hcon : dep.course.Consistent) :
    dep'.course.Consistent ∧
      ReflTransGen (CourseStep env event found name dep.generation) dep.course dep'.course ∧
      (dep.status.isTerminal = true → dep' = dep) := by
  induction h with
  | refl => exact ⟨hcon, .refl, fun _ => rfl⟩
  | tail hpre hstep ih =>
    obtain ⟨hmid, hcou, hter⟩ := ih
    have hmove := hstep.courseStep hmid
    rw [DeploymentChange.generation_eq hpre] at hmove
    refine ⟨hmove.consistent hmid, hcou.tail hmove, fun h => ?_⟩
    have hsame := hter h
    rw [hsame] at hstep
    exact hstep.terminal h

theorem courseSteps_progressed (h : ReflTransGen (CourseStep env event found name gen) c c') :
    c.progressed ≤ c'.progressed := by
  induction h with
  | refl => exact le_refl _
  | tail _ hstep ih => exact ih.trans hstep.progressed

end Steps

/-! ## Reachable worlds -/

/-- All current deployments are consistent. -/
def CoursesConsistent (s : ClusterState) : Prop :=
  ∀ stack ∈ s.stackRecords, ∀ deployment, stack.deployment = some deployment →
    deployment.course.Consistent

variable {env : Env} {event : Event} {s : ClusterState} {plat : Platform} {world : World}

theorem Upkeep.coursesConsistent {found : Inner} {s' : ClusterState}
    (h : Upkeep env event found s s') (hs : CoursesConsistent s) : CoursesConsistent s' := by
  intro stack' hsta' deployment' hdep'
  obtain ⟨stack, hsta, hten⟩ := Upkeeps.stack_before (.single h) hsta'
  obtain ⟨deployment, hdep, hcha⟩ := hten.before hdep'
  exact (DeploymentChange.run hcha (hs stack hsta deployment hdep)).1

/-- A retried deployment starts over. -/
theorem Course.retry_consistent (time : Int) (c : Course) : (c.retry time).Consistent :=
  ⟨rfl, Nat.zero_le 1, Nat.zero_le 1, fun h => (nomatch h), fun h => (nomatch h)⟩

/-- What a decision makes of a stack: a retry, a new record, or nothing. -/
theorem Decision.stack (h : Decision plat env world event s) (name : String) :
    s.stackRecords.get? name = world.state.stackRecords.get? name ∨
    (event = .retry name ∧ ∃ stack deployment, world.state.stackRecords.get? name = some stack ∧
      stack.deployment = some deployment ∧
      (deployment.status = .stalled ∨ deployment.status = .blocked ∨ deployment.status = .failed) ∧
      s.stackRecords.get? name = some (stack.mapDeployment (retryDeployment env.now.unixMs))) ∨
    ∃ index req plan, event = .commit index ∧ req.stackName = name ∧ s.stackRecords.get? name
        = some (world.server.inner.newRecord req env.now.unixMs plan) := by
  cases h with
  | @retried stackName _ heve hret =>
    obtain ⟨stack, deployment, hstac, hdep, hsta, -, rfl⟩ := retryStack_ok hret
    have hkey : stack.name = stackName := Table.key_of_get? hstac
    have hget : (retriedState world.state stack deployment.generation
        env.now.unixMs).stackRecords.get? name = _ :=
      get?_modifyDeployment world.state stack.name name (retryDeployment env.now.unixMs)
    rw [hget]
    by_cases hname : name = stack.name
    · have hsame : name = stackName := hname.trans hkey
      subst hsame
      refine .inr (.inl ⟨heve, stack, deployment, hstac, hdep, hsta, ?_⟩)
      rw [if_pos hname, hstac]
      rfl
    · exact .inl (if_neg hname)
  | applied req live plan heve hreq hche hplan =>
    have hget : (startOwnedDeployment (requestedState world.server.inner req env.now.unixMs
        plan) req.policy (world.server.inner.generation + 1)
        env.now.unixMs).stackRecords.get? name = (world.state.stackRecords.insert
          (world.server.inner.newRecord req env.now.unixMs plan)).get? name := by
      rw [startOwnedDeployment_rest]
      rfl
    rw [hget]
    by_cases hname : name = req.stackName
    · subst hname
      exact .inr (.inr ⟨_, req, plan, heve, rfl, Table.get?_insert_self _ _⟩)
    · exact .inl (Table.get?_insert_ne _ hname)
  | accepted | unstarted => exact .inl rfl

theorem Decision.coursesConsistent (h : Decision plat env world event s)
    (hwor : CoursesConsistent world.state) : CoursesConsistent s := by
  intro stack' hsta' deployment' hdep'
  have hget := Table.get?_of_mem hsta'
  rcases h.stack stack'.name with hsame | ⟨-, stack, deployment, hsta, hdep, -, hnew⟩ |
    ⟨index, request, planning, -, -, hnew⟩
  · rw [hsame] at hget
    exact hwor stack' (Table.mem_of_get? hget) deployment' hdep'
  · rw [hnew] at hget
    obtain rfl := Option.some.inj hget
    obtain ⟨deployment, -, rfl⟩ := Option.map_eq_some_iff.mp hdep'
    rw [retryDeployment_course]
    exact Course.retry_consistent _ _
  · rw [hnew] at hget
    obtain rfl := Option.some.inj hget
    cases hdep'
    exact ⟨rfl, Nat.zero_le 1, Nat.zero_le 1, fun h => (nomatch h), fun h => (nomatch h)⟩

theorem Reachable.coursesConsistent (h : Reachable plat world) : CoursesConsistent world.state := by
  have hhol : world.server.Holds fun _ s => CoursesConsistent s :=
    h.holds_of_changes (fun _ hs => hs) (fun hs => hs) (fun _ _ _ hs => hs)
      (fun _ _ _ stack hsta => absurd hsta Table.mem_empty)
      (fun hupk hs => hupk.coursesConsistent hs)
      (fun hdec hs => hdec.coursesConsistent hs)
  exact hhol.1

/-! ## What becomes of a record -/

/-- The replaced deployment is the newest entry of the new record's history; a terminal one
is there unchanged. -/
theorem deploymentHistory_newest {previous : ClusterState} {stack : StackRecord}
    (hsta : previous.stackRecords.get? name = some stack)
    (hdep : stack.deployment = some dep)
    (hold : ∀ old ∈ stack.deploymentHistory, old.generation < dep.generation)
    (now : Int) (gen : Nat) :
    ∃ old ∈ deploymentHistory previous name now gen, old.generation = dep.generation ∧
      old.lastProgressAtUnixMs = dep.lastProgressAtUnixMs ∧
      (dep.status.isTerminal = true → old = dep) := by
  unfold deploymentHistory
  extract_lets kept history
  have hkept : kept = stack.deploymentHistory := by
    simp only [kept, hsta, Option.map_some, Option.getD_some]
  obtain ⟨old, hgen, hpro, hter, hhis⟩ : ∃ old : StackDeploymentRecord,
      old.generation = dep.generation ∧
      old.lastProgressAtUnixMs = dep.lastProgressAtUnixMs ∧
      (dep.status.isTerminal = true → old = dep) ∧
      history = stack.deploymentHistory.insert old := by
    simp only [history, stackDeployment, hsta, Option.bind_some, hdep, hkept]
    by_cases hact : dep.status.isActive = true
    · refine ⟨_, ?_, ?_, fun hter => ?_, rfl⟩
      · rw [if_pos hact]
      · rw [if_pos hact]
      · unfold StackDeploymentStatus.isActive at hact
        rw [hter] at hact
        cases hact
    · refine ⟨dep, rfl, rfl, fun _ => rfl, ?_⟩
      rw [if_neg hact]
  have hmem : old ∈ history := by
    rw [hhis]
    exact Table.mem_insert.mpr (.inl rfl)
  refine ⟨old, ?_, hgen, hpro, hter⟩
  -- the history is cut at the oldest end, and at least one entry stays
  rw [← Table.mem_rows, Table.rows_foldl_erase_take]
  refine Table.mem_drop_of_largest hmem (fun x hx => ?_) ?_
  · rw [hhis] at hx
    rcases Table.mem_insert.mp hx with rfl | ⟨hx, -⟩
    · exact le_refl _
    · rw [hgen]
      exact le_of_lt (hold x hx)
  · have hpos : 0 < history.rows.length := List.length_pos_of_mem hmem
    omega

/-- What becomes of the current deployment of a stack in an event. -/
inductive Followed (env : Env) (event : Event) (deployment : StackDeploymentRecord)
    (stack' : StackRecord) : Prop
  /-- It goes on; a terminal record stays as it is. -/
  | kept (deployment' : StackDeploymentRecord) (h : stack'.deployment = some deployment')
      (hgeneration : deployment'.generation = deployment.generation)
      (hterminal : deployment.status.isTerminal = true → deployment' = deployment)
      (hprogress : deployment.lastProgressAtUnixMs ≤ deployment'.lastProgressAtUnixMs)
  /-- It is retried, at this time. -/
  | retried (hevent : event = .retry stack'.name)
      (hstatus : deployment.status = .stalled ∨ deployment.status = .blocked ∨
        deployment.status = .failed)
      (h : stack'.deployment = some (retryDeployment env.now.unixMs deployment))
  /-- A later deployment takes its place, and it moves to the history. -/
  | replaced (deployment' old : StackDeploymentRecord) (h : stack'.deployment = some deployment')
      (hlater : deployment.generation < deployment'.generation)
      (hold : old ∈ stack'.deploymentHistory)
      (hgeneration : old.generation = deployment.generation)
      (hprogress : old.lastProgressAtUnixMs = deployment.lastProgressAtUnixMs)
      (hterminal : deployment.status.isTerminal = true → old = deployment)

section Followed

variable {plat : Platform} {env : Env} {world : World} {event : Event}

theorem Followed.same {stack : StackRecord}
    (h : stack.deployment = some dep) : Followed env event dep stack :=
  .kept dep h rfl (fun _ => rfl) (le_refl _)

/-- A retry commits exactly its own change. -/
theorem step_retry (plat : Platform) (env : Env) (world : World) (stackName : String) :
    (world.step plat env (.retry stackName)).server = world.server ∨
    ∃ s, retryStack world.state stackName env.now.unixMs = .ok s ∧
      (world.step plat env (.retry stackName)).state.stackRecords = s.stackRecords ∧
      (world.step plat env (.retry stackName)).state.serviceOperations = s.serviceOperations := by
  have hcomm : Commits plat world.config env
      (fun s => retryStack world.state stackName env.now.unixMs = .ok s) world.server
      (world.step plat env (.retry stackName)).server := by
    show Commits plat world.config env _ world.server (if _ then _ else _ : World).server
    split
    · exact .unchanged
    · cases hret : retryStackDeployment plat world.config env world.server stackName with
      | error => exact .unchanged
      | ok srv => exact retryStackDeployment_commits hret
  unfold World.state
  generalize (world.step plat env (.retry stackName)).server = srv' at hcomm
  cases hcomm with
  | unchanged => exact .inl rfl
  | committed hsta hcom =>
    obtain ⟨snap, -, rfl, -⟩ := commitLocked_ok hcom
    exact .inr ⟨_, hsta, rfl, rfl⟩

/-- **What an event does to the record of a stack.** It tends it, retries its deployment, or
puts a new record in its place, which it then tends. -/
theorem step_stack (plat : Platform) (hfre : FreshIds env world)
    (hres : ∀ cfg, event ≠ .restart cfg) (name : String) :
    (∃ f : StackRecord → StackRecord, (world.step plat env event).state.stackRecords.get? name
        = (world.state.stackRecords.get? name).map f ∧
      ∀ stack, world.state.stackRecords.get? name = some stack →
        StackTended env event world.server.inner stack (f stack)) ∨
    (event = .retry name ∧ ∃ stack deployment, world.state.stackRecords.get? name = some stack ∧
      stack.deployment = some deployment ∧
      (deployment.status = .stalled ∨ deployment.status = .blocked ∨ deployment.status = .failed) ∧
      (world.step plat env event).state.stackRecords.get? name
        = some (stack.mapDeployment (retryDeployment env.now.unixMs))) ∨
    ∃ index req plan stack', event = .commit index ∧ req.stackName = name ∧
      (world.step plat env event).state.stackRecords.get? name = some stack' ∧
      StackTended env event world.server.inner
        (world.server.inner.newRecord req env.now.unixMs plan) stack' := by
  have hsame : ∀ {record : Option StackRecord}, record = world.state.stackRecords.get? name →
      ∃ f : StackRecord → StackRecord, record = (world.state.stackRecords.get? name).map f ∧
        ∀ stack, world.state.stackRecords.get? name = some stack →
          StackTended env event world.server.inner stack (f stack) := by
    intro record hrec
    refine ⟨id, ?_, fun stack _ => StackTended.refl stack⟩
    rw [hrec, Option.map_id_fun, id]
  by_cases hretr : ∃ stackName, event = .retry stackName
  · obtain ⟨stackName, rfl⟩ := hretr
    rcases step_retry plat env world stackName with hser | ⟨s, hretr, hreco, -⟩
    · refine .inl (hsame ?_)
      show (world.step plat env (.retry stackName)).server.inner.state.stackRecords.get? name = _
      rw [hser]
      rfl
    · rw [hreco]
      have hdec : Decision plat env world (.retry stackName) s := .retried rfl hretr
      rcases hdec.stack name with hleft | hret | ⟨index, req, plan, heve, -⟩
      · exact .inl (hsame hleft)
      · exact .inr (.inl hret)
      · cases heve
  · rcases (step_changed plat hfre hres).changes with
      hupk | ⟨⟨s, hdec, hupk⟩, -⟩
    · exact .inl (hupk.stack name)
    · rcases hdec.stack name with hleft | ⟨heve, -⟩ | ⟨index, req, plan, heve, hname, hnew⟩
      · left
        have hsta := hupk.stack name
        rw [hleft] at hsta
        exact hsta
      · exact absurd ⟨name, heve⟩ hretr
      · obtain ⟨f, hf, hten⟩ := hupk.stack name
        rw [hnew] at hf
        exact .inr (.inr ⟨index, req, plan, _, heve, hname, hf, hten _ hnew⟩)

/-- **A deployment goes on, is retried or is replaced** in every event but a restart. -/
theorem step_followed (hwor : Reachable plat world) (hfre : FreshIds env world)
    (hres : ∀ cfg, event ≠ .restart cfg) {stack : StackRecord}
    (hstac : world.state.stackRecords.get? name = some stack) (hdep : stack.deployment = some dep) :
    ∃ stack', (world.step plat env event).state.stackRecords.get? name = some stack' ∧
      Followed env event dep stack' := by
  have hmem := Table.mem_of_get? hstac
  have hcon := hwor.coursesConsistent stack hmem dep hdep
  rcases step_stack plat hfre hres name with ⟨f, hf, hten⟩ |
    ⟨heve, retried, current, hfou, hcur, hsta, hnew⟩ |
    ⟨index, request, planning, stack', -, rfl, hnew, hten⟩
  · obtain ⟨dep', hdep', hcha⟩ := (hten stack hstac).after hdep
    obtain ⟨-, hcou, hter⟩ := DeploymentChange.run hcha hcon
    rw [hstac] at hf
    exact ⟨f stack, hf, .kept dep' hdep' (DeploymentChange.generation_eq hcha)
      hter (courseSteps_progressed hcou)⟩
  · rw [hstac] at hfou
    obtain rfl := Option.some.inj hfou
    rw [hdep] at hcur
    obtain rfl := Option.some.inj hcur
    have hname : stack.name = name := Table.key_of_get? hstac
    refine ⟨_, hnew, .retried ?_ hsta ?_⟩
    · rw [StackRecord.mapDeployment_name, hname]
      exact heve
    · exact Option.map_eq_some_iff.mpr ⟨dep, hdep, rfl⟩
  · -- the new record goes through the upkeep that follows the apply
    obtain ⟨dep', hdep', hcha⟩ := hten.after rfl
    obtain ⟨current, hcur, holde⟩ := (hwor.numbered.1.ordered stack hmem).older
    rw [hdep] at hcur
    obtain rfl := Option.some.inj hcur
    obtain ⟨old, hold, hgen, hpro, hter⟩ := deploymentHistory_newest hstac
      hdep holde env.now.unixMs (world.server.inner.generation + 1)
    refine ⟨stack', hnew, .replaced dep' old hdep' ?_ ?_ hgen hpro hter⟩
    · rw [DeploymentChange.generation_eq hcha]
      exact Nat.lt_succ_of_le (hwor.numbered.1.stack stack hmem _ (.inl ⟨dep, hdep, rfl⟩)).1
    · rw [hten.history]
      exact hold

end Followed

/-! ## Runs -/

variable {plat : Platform} {world : World}

/-- A process whose deployments and operations are stored finds them again. -/
theorem restart_records {exact : Prop}
    (hsto : Stored exact world.config world.server) (cfg : ControllerConfig) :
    (world.step plat env (.restart cfg)).state.stackRecords = world.state.stackRecords ∧
      (world.step plat env (.restart cfg)).state.serviceOperations
        = world.state.serviceOperations := by
  show (world.restart plat env cfg).server.inner.state.stackRecords = _ ∧
    (world.restart plat env cfg).server.inner.state.serviceOperations = _
  unfold World.restart
  split
  · exact ⟨rfl, rfl⟩
  next srv hok =>
    obtain ⟨cluster, gen, hinn, -⟩ := start_ok hok
    have hsta : srv.inner.state = startState plat cfg env world.server.disk.state gen := by
      rw [hinn]
      rfl
    have hrec := congrArg ClusterState.stackRecords hsto.state
    have hope := congrArg ClusterState.serviceOperations hsto.state
    dsimp only
    rw [hsta]
    exact ⟨hrec, hope⟩

/-- Runs in which heartbeats and ticks find a gateway generation that can still grow. -/
abbrev UnexhaustedRun (platform : Platform) : World → World → Prop :=
  Runs platform fun _ world event => Unexhausted world event

theorem UnexhaustedRun.stored {first : World}
    (hrun : UnexhaustedRun plat first world) (hfir : Started plat first) :
    Stored False world.config world.server :=
  Runs.keeps (Q := fun world => Stored False world.config world.server) hrun
    (fun hfre hune ih => (step_writes ih hfre hune fun h => h.elim).stored) hfir.stored

theorem Started.reachable (h : Started plat world) : Reachable plat world := by
  cases h with
  | fresh h => exact .fresh h
  | recovered h => exact .recovered h

/-- **Deployment records are consistent**, and change only as they should: along every run
in which the gateway generation is not exhausted, in every event, restarts included. -/
theorem deployments_consistent {platform : Platform} {first world : World}
    (hfirst : Started platform first) (hrun : UnexhaustedRun platform first world) :
    CoursesConsistent world.state ∧
    ∀ env event name stack deployment, FreshIds env world → Unexhausted world event →
      world.state.stackRecords.get? name = some stack → stack.deployment = some deployment →
      ∃ stack', (world.step platform env event).state.stackRecords.get? name = some stack' ∧
        Followed env event deployment stack' := by
  have hwor := hrun.reachable hfirst.reachable
  refine ⟨hwor.coursesConsistent, ?_⟩
  intro env event name stack deployment hfre _ hsta hdep
  rcases event.ne_restart_or with hres | ⟨cfg, rfl⟩
  · exact step_followed hwor hfre hres hsta hdep
  · refine ⟨stack, ?_, Followed.same hdep⟩
    rw [(restart_records (hrun.stored hfirst) cfg).1]
    exact hsta

/-- A stack with an HTTP route to two tasks. -/
def routedStack : ParsedStack :=
  { services := Table.ofList [("web", { image := "web", replicas := 2,
                                        expose := [⟨80, none, "tcp"⟩] })]
    gateway := { httpRoutes := [{ hostnames := ["shop"],
                                  rules := [{ backend := { service := "web", port := 80 } }] }] } }

/-- The stack is applied on a node that has reported; one task then runs, the other fails. -/
def halfFailed : List Input :=
  [{ event := sampleBeat [] [] [], tag := "a" },
   { event := .apply "shop" routedStack Table.empty false, tag := "b" },
   { event := .commit 0, tag := "c" },
   { event := sampleBeat
       [{ id := "c", observed := .healthy, containerId := some "box", imageId := some "image",
          ports := [⟨80, some 30000, "tcp"⟩] }]
       [{ taskId := "c-", desiredGeneration := 3, appliedGeneration := none, phase := .start,
          error := some "no such file" }] [],
     tag := "d", now := ⟨1000, 1⟩ }]

/-- The status of the sample stack's deployment. -/
def World.shopStatus (world : World) : Option StackDeploymentStatus :=
  (stackDeployment world.state "shop").map StackDeploymentRecord.status

theorem World.shopStatus_some {status : StackDeploymentStatus}
    (h : world.shopStatus = some status) :
    ∃ stack deployment, world.state.stackRecords.get? "shop" = some stack ∧
      stack.deployment = some deployment ∧ deployment.status = status := by
  obtain ⟨deployment, hdep, hsta⟩ := Option.map_eq_some_iff.mp h
  obtain ⟨stack, hstac, hdep⟩ := Option.bind_eq_some_iff.mp hdep
  exact ⟨stack, deployment, hstac, hdep, hsta⟩

/-- The gateway generation can still grow. -/
def World.gatewayGrows (_ : Env) (world : World) (_ : Event) : Bool :=
  world.server.inner.gatewayGeneration < 18446744073709551615

theorem unexhausted_of_gatewayGrows
    (h : World.gatewayGrows env world event = true) : Unexhausted world event := by
  have hgro := of_decide_eq_true h
  cases event with
  | heartbeat | tick => exact hgro
  | _ => trivial

theorem halfFailed_status :
    (sampleWorld.perform samplePlatform halfFailed).shopStatus = some .failed := by
  decide +kernel

theorem halfFailed_run :
    UnexhaustedRun samplePlatform sampleWorld (sampleWorld.perform samplePlatform halfFailed) :=
  Runs.perform World.gatewayGrows unexhausted_of_gatewayGrows (by decide +kernel)

/-- A failed deployment is followed over a restart. -/
theorem deployments_consistent_restarted :
    ∃ deployment stack', deployment.status = .failed ∧
      ((sampleWorld.perform samplePlatform halfFailed).step samplePlatform (sampleEnv "e")
        (.restart sampleConfig)).state.stackRecords.get? "shop" = some stack' ∧
      Followed (sampleEnv "e") (.restart sampleConfig) deployment stack' := by
  obtain ⟨stack, deployment, hsta, hdep, hfai⟩ :=
    World.shopStatus_some halfFailed_status
  have hfre : FreshIds (sampleEnv "e") (sampleWorld.perform samplePlatform halfFailed) :=
    freshIds_of_tagFree (by decide +kernel)
  obtain ⟨stack', hsta', hfol⟩ :=
    (deployments_consistent sampleWorld_started halfFailed_run).2
      (sampleEnv "e") (.restart sampleConfig) "shop" stack deployment hfre trivial
      hsta hdep
  exact ⟨deployment, stack', hfai, hsta', hfol⟩

/-- A gateway kept a snapshot with almost the last generation. -/
def lastSnapshot : GatewayRecoverySnapshot :=
  { formatVersion := 1, clusterId := "sample", generation := 18446744073709551614,
    stackRoutes := Table.empty }

/-- The controller of the sample cluster on a database made from that snapshot. -/
def exhaustedServer : Server :=
  let env : Env := { now := ⟨0, 0⟩, later := ⟨0, 0⟩, uuid := taggedId "" }
  let state := startState samplePlatform sampleConfig env
    (recoveredDisk sampleConfig lastSnapshot).state 18446744073709551614
  let disk : VersionedState :=
    { generation := 2, cluster := sampleConfig.cluster, state := state.persisted }
  { inner := serve samplePlatform sampleConfig env disk state sampleConfig.cluster
      18446744073709551614,
    disk }

def exhaustedWorld : World := { config := sampleConfig, server := exhaustedServer }

theorem exhaustedWorld_reachable : Reachable samplePlatform exhaustedWorld :=
  have hsta : start samplePlatform sampleConfig
      { now := ⟨0, 0⟩, later := ⟨0, 0⟩, uuid := taggedId "" }
      (recoveredDisk sampleConfig lastSnapshot) = .ok exhaustedServer := rfl
  Reachable.recovered hsta

/-- The last progress of the sample stack's deployment. -/
def World.shopProgress (world : World) : Option Int :=
  (stackDeployment world.state "shop").map StackDeploymentRecord.lastProgressAtUnixMs

/-- **A restart forgets a failure.** The routes of the applied stack take the last gateway
generation; the heartbeat that reports the failed task then cannot number the new routes, so
what it recorded is served and never written. A failed deployment is reconciling again, and
its last progress is earlier. -/
theorem restart_revives_failed :
    Reachable samplePlatform (exhaustedWorld.perform samplePlatform halfFailed) ∧
    FreshIds (sampleEnv "e") (exhaustedWorld.perform samplePlatform halfFailed) ∧
    (exhaustedWorld.perform samplePlatform halfFailed).shopStatus = some .failed ∧
    (exhaustedWorld.perform samplePlatform halfFailed).shopProgress = some 1000 ∧
    ((exhaustedWorld.perform samplePlatform halfFailed).step samplePlatform (sampleEnv "e")
      (.restart sampleConfig)).shopStatus = some .reconciling ∧
    ((exhaustedWorld.perform samplePlatform halfFailed).step samplePlatform (sampleEnv "e")
      (.restart sampleConfig)).shopProgress = some 0 :=
  ⟨exhaustedWorld_reachable.perform (by decide +kernel), freshIds_of_tagFree (by decide +kernel),
    by decide +kernel, by decide +kernel, by decide +kernel, by decide +kernel⟩

end Swarmlite
