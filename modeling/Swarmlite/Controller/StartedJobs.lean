import Swarmlite.Controller.Outcomes

/-!
# Which executions are asked to stop

An execution that was started should run until it ends, is cancelled, loses its job
or is replaced by the next occurrence. `execution_kept_running` says that nothing
else stops it, under one condition: when jobs are reconciled at or after its start
deadline, the execution is not recorded as `Pending` or `Unknown`.

The condition is needed, because the start deadline is also applied to executions
that have long started. A node that misses its heartbeats for a moment makes its
executions `Unknown`, and the next pass takes an `Unknown` execution past its
deadline for one that never started (`silence_stops_execution`).
-/

namespace Swarmlite

open Ordered

/-- The state of an execution as a heartbeat leaves it. -/
def heardState (nodeId : String) (body : NodeHeartbeat) (task : TaskRecord) :
    ObservedTaskState :=
  if failureReported nodeId body task && !(seen nodeId body task).observed.isJobTerminal then
    .unknown
  else (seen nodeId body task).observed

/-- The events in which jobs are reconciled. -/
def Event.schedules : Event → Bool
  | .heartbeat _ _ => true
  | .tick => true
  | .updateLabel _ _ _ => true
  | .commit _ => true
  | _ => false

/-- The state of an execution when jobs are reconciled. -/
def Event.finds : Event → TaskRecord → ObservedTaskState
  | .heartbeat nodeId body, task => heardState nodeId body task
  | _, task => task.observed

/-- Past its start deadline, an execution is not reconciled as if it had not started. -/
def InContact (env : Env) (event : Event) (task : TaskRecord) (job : JobExecution) : Prop :=
  event.schedules = true → env.now.unixMs < job.startDeadlineUnixMs ∨
    event.finds task ≠ .pending ∧ event.finds task ≠ .unknown

instance (env : Env) (event : Event) (task : TaskRecord) (job : JobExecution) :
    Decidable (InContact env event task job) :=
  inferInstanceAs (Decidable (_ → _ ∨ _ ∧ _))

/-- An occurrence of the job of this execution is due. The cursor is the one before
the event, the schedule the one after it. -/
def OccurrenceDue (now : Int) (s s' : ClusterState) (task : TaskRecord) : Prop :=
  ∃ old ∈ s.services, ∃ service ∈ s'.services, ∃ job cursor,
    old.id = task.serviceId ∧ service.id = task.serviceId ∧ old.jobCursor = some cursor ∧
      cursor.nextAtUnixMs ≤ now ∧ service.spec.job = some job ∧
      job.schedule = some cursor.schedule ∧ job.suspend = false

/-- Why an execution may be asked to stop. -/
def MayStop (env : Env) (world : World) (event : Event) (s' : ClusterState) (task : TaskRecord) :
    Prop :=
  event = .cancelJob task.id ∨ Jobs.orphaned s' task = true ∨
    OccurrenceDue env.now.unixMs world.state s' task

variable {env : Env} {world : World} {event : Event} {s s' : ClusterState}
  {task task' : TaskRecord} {job : JobExecution}

theorem MayStop.of_services (h : MayStop env world event s task) (hser : s'.services = s.services) :
    MayStop env world event s' task := by
  unfold MayStop Jobs.orphaned OccurrenceDue at *
  rw [hser]
  exact h

/-! ## One pass -/

theorem sameFrame_orphaned (h : SameFrame s s') (task : TaskRecord) :
    Jobs.orphaned s' task = Jobs.orphaned s task := by
  have hsame := h.services_get? task.serviceId
  unfold Jobs.orphaned
  cases hold : s.services.get? task.serviceId with
  | none =>
    rw [hold, Option.map_none, Option.map_eq_none_iff] at hsame
    rw [hsame]
  | some svc =>
    rw [hold, Option.map_some, Option.map_eq_some_iff] at hsame
    obtain ⟨svc', hnew, heq⟩ := hsame
    rw [hnew]
    have hdel : svc'.deleted = svc.deleted := congrArg (·.deleted) heq
    have hspec : svc'.spec = svc.spec := congrArg (·.spec) heq
    simp only [Option.all_some, hdel, hspec]

/-- A job that launches has a due occurrence of a schedule it still has. -/
theorem launches_due {ext : Externals} {now : Int} {svc : ServiceRecord}
    (h : Jobs.launches ext now svc = true) :
    ∃ job cursor, svc.spec.job = some job ∧ svc.jobCursor = some cursor ∧
      cursor.nextAtUnixMs ≤ now ∧ job.schedule = some cursor.schedule ∧ job.suspend = false := by
  unfold Jobs.launches at h
  split at h
  next job cursor hjob hcur =>
    simp only [Bool.and_eq_true, decide_eq_true_eq, Bool.not_eq_true'] at h
    exact ⟨job, cursor, hjob, hcur, h.1.1.2, h.1.1.1.1.1, h.1.1.1.2⟩
  · cases h

theorem replaced_due {plat : Platform} (hpre : Presented plat env world event s)
    (hfra : SameFrame s s') {ext : Externals} {now : Int}
    (h : Jobs.replaced ext now (Jobs.dueServices s) task = true) :
    OccurrenceDue now world.state s' task := by
  obtain ⟨-, hany⟩ := Bool.and_eq_true_iff.mp h
  obtain ⟨svc, hdue, hcond⟩ := List.any_eq_true.mp hany
  obtain ⟨hsame, hlau⟩ := Bool.and_eq_true_iff.mp hcond
  have hid : task.serviceId = svc.id := of_decide_eq_true hsame
  have hser : svc ∈ s.services := (List.mem_filter.mp hdue).1
  obtain ⟨job, cursor, hjob, hcur, hnext, hsch, hsus⟩ := launches_due hlau
  rcases hpre.jobCursor hser with hnone | ⟨old, hold, holdI, holdC⟩
  · rw [hnone] at hcur
    cases hcur
  · have haft := hfra.services_get? svc.id
    rw [Table.get?_of_mem hser, Option.map_some, Option.map_eq_some_iff] at haft
    obtain ⟨svc', hget, heq⟩ := haft
    have hspec : svc'.spec = svc.spec := congrArg (·.spec) heq
    refine ⟨old, hold, svc', Table.mem_of_get? hget, job, cursor, holdI.trans hid.symm,
      (Table.key_of_get? hget).trans hid.symm, holdC.trans hcur, hnext, ?_, hsch,
      hsus⟩
    rw [hspec]
    exact hjob

/-- A heartbeat leaves no worse a state than it says. -/
theorem Heard.contact {state : ClusterState} {nodeId : String} {body : NodeHeartbeat}
    (h : Heard state nodeId body task task')
    (hpen : heardState nodeId body task ≠ .pending)
    (hunk : heardState nodeId body task ≠ .unknown) :
    task'.observed ≠ .pending ∧ task'.observed ≠ .unknown := by
  have hans : ∀ {answered : TaskRecord}, Answered nodeId body task answered →
      answered.observed ≠ .pending ∧ answered.observed ≠ .unknown := by
    intro answered h
    unfold heardState at hpen hunk
    rcases h.observed with hseen | ⟨-, hfai, hopen⟩
    · rw [hseen]
      split at hpen
      · exact absurd rfl (by rwa [if_pos ‹_›] at hunk)
      next hcond =>
        rw [if_neg hcond] at hunk
        exact ⟨hpen, hunk⟩
    · rw [hfai, hopen] at hunk
      exact absurd rfl hunk
  rcases h with h | ⟨-, answered, -, rfl⟩
  · exact hans h
  · exact ⟨fun h => (nomatch h), fun h => (nomatch h)⟩

theorem identity_deadline (h : task'.identity = task.identity) (hjob : task.job = some job) :
    ∃ job', task'.job = some job' ∧ job'.startDeadlineUnixMs = job.startDeadlineUnixMs := by
  have hsame : task'.job.map JobExecution.forgetRuntime = task.job.map JobExecution.forgetRuntime :=
    congrArg (·.job) h
  rw [hjob, Option.map_some, Option.map_eq_some_iff] at hsame
  obtain ⟨job', hjob', heq⟩ := hsame
  exact ⟨job', hjob', congrArg (·.startDeadlineUnixMs) heq⟩

/-- What a scheduling event finds of a running execution it is in contact with. -/
theorem Event.Meets.contact (h : event.Meets env world task task')
    (hjob : task.job = some job) (hdesired : task.desired = .running)
    (hcontact : env.now.unixMs < job.startDeadlineUnixMs ∨
      event.finds task ≠ .pending ∧ event.finds task ≠ .unknown) :
    task'.desired = .running ∧ task'.serviceId = task.serviceId ∧
      ∃ job', task'.job = some job' ∧ (env.now.unixMs < job'.startDeadlineUnixMs ∨
        task'.observed ≠ .pending ∧ task'.observed ≠ .unknown) := by
  cases event with
  | heartbeat nodeId body =>
    have hide := Heard.identity h
    obtain ⟨job', hjob', hdea⟩ := identity_deadline hide hjob
    have hsame : task'.desired = task.desired := congrArg (·.desired) hide
    refine ⟨hsame.trans hdesired, congrArg (·.serviceId) hide, job', hjob', ?_⟩
    rw [hdea]
    exact hcontact.imp_right fun hfin => Heard.contact h hfin.1 hfin.2
  | tick =>
    have hsame : task' = task := by
      obtain rfl : task' = finishDrain env.now.unixMs task := h
      unfold finishDrain drainFinished
      rw [hdesired]
      rfl
    rw [hsame]
    exact ⟨hdesired, rfl, job, hjob, hcontact⟩
  | _ =>
    obtain rfl : task' = task := h
    exact ⟨hdesired, rfl, job, hjob, hcontact⟩

/-- **A pass stops a running execution for good reasons only.** -/
theorem Presented.kept {plat : Platform} (h : Presented plat env world event s)
    (huuid : Function.Injective env.uuid) (hfresh : Fresh env.uuid { state := s })
    {live : Keys String} (htask : task ∈ world.state.tasks) (hjob : task.job = some job)
    (hdesired : task.desired = .running) (hcontact : InContact env event task job)
    (hnew : ∀ k, env.uuid k ≠ task.id)
    (htask' : task' ∈ (reconcile plat.toExternals env.uuid live env.now.unixMs s).state.tasks)
    (hid : task'.id = task.id) (hjob' : task'.job.isSome) :
    task'.desired = .running ∨ MayStop env world event
      (reconcile plat.toExternals env.uuid live env.now.unixMs s).state task := by
  have hfra := Moves.sameFrame (reconcile_moves live plat.toExternals huuid env.now.unixMs hfresh)
  have hsch : event.schedules = true := by
    cases h <;> rfl
  obtain ⟨found, hfou, rfl⟩ := reconcile_execution plat.toExternals huuid env.now.unixMs
    hfresh htask' (by rw [hid]; exact hnew) hjob'
  rw [Jobs.settled_id] at hid
  rw [Jobs.settled_job] at hjob'
  obtain ⟨own, hown, hmee⟩ := h.execution hfou hjob'
  obtain rfl := Table.eq_of_key hown htask (hmee.id.symm.trans hid)
  obtain ⟨hrun, hser, job', hfouJ, hopen⟩ := hmee.contact hjob hdesired (hcontact hsch)
  rw [Jobs.settled_desired _ _ _ _ hfouJ]
  split
  next hstop =>
    rcases Bool.or_eq_true_iff.mp hstop with hexp | hrep
    · rcases Bool.or_eq_true_iff.mp hexp with horp | hmis
      · refine .inr (.inr (.inl ?_))
        rw [sameFrame_orphaned hfra]
        unfold Jobs.orphaned
        rw [← hser]
        exact horp
      · -- past the deadline the execution is known to have started
        simp only [Bool.and_eq_true, decide_eq_true_eq, Bool.or_eq_true] at hmis
        rcases hopen with hear | ⟨hpen, hunk⟩
        · exact absurd hmis.1 (not_le.mpr hear)
        · rcases hmis.2 with heq | heq
          · exact absurd heq hpen
          · exact absurd heq hunk
    · refine .inr (.inr (.inr ?_))
      obtain ⟨old, hold, svc, hmem, job, cursor, hrest⟩ := replaced_due h hfra hrep
      rw [hser] at hrest
      exact ⟨old, hold, svc, hmem, job, cursor, hrest⟩
  · exact .inl hrun

/-! ## Whole events -/

section Events

variable {platform : Platform} {env : Env} {world : World} {event : Event}

theorem Rescheduled.kept_running
    (h : Rescheduled platform env world event s') (huuid : Function.Injective env.uuid)
    (htask : task ∈ world.state.tasks)
    (hjob : task.job = some job) (hdesired : task.desired = .running)
    (hcontact : InContact env event task job) (hnew : ∀ k, env.uuid k ≠ task.id) :
    ∀ task' ∈ s'.tasks, task'.id = task.id → task'.job.isSome →
      task'.desired = .running ∨ MayStop env world event s' task := by
  induction h with
  | passed live hpre hpass =>
    intro task' htask' hid hjob'
    exact hpre.kept huuid hpass htask hjob hdesired hcontact hnew htask' hid hjob'
  | deadlines deadline _ ih =>
    intro task' htask' hid hjob'
    obtain ⟨old, hold, rfl⟩ := Table.exists_of_mem_map (setDrainDeadline_id deadline) htask'
    have hsame : (setDrainDeadline deadline old).job = old.job ∧
        (setDrainDeadline deadline old).desired = old.desired := by
      unfold setDrainDeadline
      split <;> exact ⟨rfl, rfl⟩
    rw [setDrainDeadline_id] at hid
    rw [hsame.1] at hjob'
    rw [hsame.2]
    exact (ih old hold hid hjob').imp_right fun hmay => hmay.of_services rfl
  | rest _ hwork ih =>
    intro task' htask' hid hjob'
    rw [hwork.tasks] at htask'
    exact (ih task' htask' hid hjob').imp_right fun hmay => hmay.of_services hwork.services

theorem Outcome.kept_running (h : Outcome platform env world event s')
    (hfresh : FreshIds env world) (htask : task ∈ world.state.tasks) (hjob : task.job = some job)
    (hdesired : task.desired = .running) (hcontact : InContact env event task job) :
    ∀ task' ∈ s'.tasks, task'.id = task.id → task'.job.isSome →
      task'.desired = .running ∨ MayStop env world event s' task := by
  have hnew : ∀ k, env.uuid k ≠ task.id := fun k hsame =>
    Table.contains_eq_false.mp (hfresh.tasks k) task htask hsame.symm
  induction h with
  | kept =>
    intro task' htask' hid _
    rw [Table.eq_of_key htask' htask hid]
    exact .inl hdesired
  | retried h =>
    intro task' htask' hid _
    obtain ⟨stack, dep, -, -, -, -, rfl⟩ := retryStack_ok h
    obtain ⟨old, hold, rfl⟩ := Table.exists_of_mem_map (retryTask_id stack.services) htask'
    rw [retryTask_id] at hid
    obtain rfl := Table.eq_of_key hold htask hid
    refine .inl ?_
    unfold retryTask
    split <;> exact hdesired
  | ran h =>
    intro task' htask' hid _
    cases h with
    | intro svc live created hser hact hexe hfin hsch =>
      rcases Table.mem_insert.mp htask' with rfl | ⟨hold, -⟩
      · obtain ⟨node, slot, _, _, _, _, rfl⟩ := scheduleTask_some hsch
        exact absurd hid (hnew 0)
      · rw [Table.eq_of_key hold htask hid]
        exact .inl hdesired
  | @cancelled id hexe =>
    intro task' htask' hid _
    rw [ClusterState.withTasks_tasks, Table.mem_modify] at htask'
    rcases htask' with ⟨hold, -⟩ | ⟨old, hold, hcan, rfl⟩
    · rw [Table.eq_of_key hold htask hid]
      exact .inl hdesired
    · have hsame : old.id = task.id := hid
      rw [hcan] at hsame
      rw [hsame]
      exact .inr (.inl rfl)
  | rescheduled h => exact h.kept_running hfresh.injective htask hjob hdesired hcontact hnew
  | rest _ hwork ih =>
    intro task' htask' hid hjob'
    rw [hwork.tasks] at htask'
    exact (ih hcontact task' htask' hid hjob').imp_right fun hmay =>
      hmay.of_services hwork.services

end Events

/-! ## A node that is silent for a moment -/

/-- A stack with one job that is run by hand. -/
def jobStack : ParsedStack :=
  let job : JobSpec :=
    { schedule := none, timeZone := "UTC", suspend := false, timeoutSeconds := none }
  let spec : ServiceSpec := { image := "one", replicas := 0, job := some job }
  { services := Table.ofList [("job", spec)] }

/-- What the node reports of the execution `e`. -/
def executionReport (observed : ObservedTaskState) : TaskReport :=
  { id := "e", observed, containerId := some "box" }

/-- An event at this many seconds. -/
def inputAt (event : Event) (seconds : Nat) (tag : String) : Input :=
  { event, tag, now := ⟨seconds * 1000, seconds * 1000000000⟩ }

/-- The job was started by hand at zero, and its container was reported at 290 s. -/
def startedWorld : World :=
  sampleWorld.perform samplePlatform [
    { event := .apply "a" jobStack Table.empty false, tag := "1" },
    { event := .commit 0, tag := "2" },
    inputAt (sampleBeat [] [] []) 0 "3",
    inputAt (.runJob "a.job") 0 "e",
    inputAt (sampleBeat [executionReport .running] [] []) 290 "4"]

/-- The node reports the container again after the start deadline, at 302 s. -/
def lateBeat : Input := inputAt (sampleBeat [executionReport .running] [] []) 302 "5"

/-- Twelve seconds without a heartbeat, and the first pass has noticed. -/
def silentWorld : World := startedWorld.perform samplePlatform [inputAt .tick 302 "6"]

/-- The next pass, and the node is back with the container still running. -/
def stoppedWorld : World :=
  silentWorld.perform samplePlatform [inputAt .tick 303 "7",
    inputAt (sampleBeat [executionReport .running] [] []) 304 "8"]

end Swarmlite
