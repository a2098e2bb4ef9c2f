import Swarmlite.Controller.Moves

/-!
# What a pass does to a job execution

`Moves` lists what a scheduler pass can do; for job executions the account here is
exact. A pass leaves an execution as it was, up to what `Jobs.settled` computes
from its record, its service and the clock, or forgets it because it has finished
(`reconcile_execution`).

`settled` reads: the execution is asked to stop if its job is gone, if it missed
its start window (`expired`), or if an occurrence of its job is due and the
scheduler acts on it (`launches`); and it counts as lost contact if its node is
not live. Nothing else in a pass reaches an execution: a task is given up or
retired only as a replica, and an execution whose service is no longer a job has
been stopped before the services take their turns.
-/

namespace Swarmlite

open Ordered Relation

namespace Jobs

variable {uuid : Nat → String} {id : String}

/-- An occurrence of the job is due, and not too late to act on. -/
def launches (ext : Externals) (now : Int) (service : ServiceRecord) : Bool :=
  match service.spec.job, service.jobCursor with
  | some job, some cursor =>
    job.schedule = some cursor.schedule && cursor.timeZone = job.timeZone && !job.suspend
      && cursor.nextAtUnixMs ≤ now && (ext.nextAfter job now).isSome
      && satI64 (now - cursor.nextAtUnixMs) < 60000
  | _, _ => false

/-- The cursor once its occurrence has been dealt with. -/
def passedCursor (cursor : JobCursor) (next : Int) : JobCursor :=
  { cursor with nextAtUnixMs := next, lastScheduledAtUnixMs := some cursor.nextAtUnixMs }

/-- The job services of the scheduling loop. -/
def dueServices (state : ClusterState) : List ServiceRecord :=
  state.services.rows.filter fun service => !service.deleted && service.spec.job.isSome

/-- One of these services starts a new execution in place of this one. -/
def replaced (ext : Externals) (now : Int) (services : List ServiceRecord) (task : TaskRecord) :
    Bool :=
  task.job.isSome
    && services.any fun service => task.serviceId = service.id && launches ext now service

/-- An execution after a pass. -/
def settled (ext : Externals) (live : Keys String) (now : Int) (state : ClusterState)
    (task : TaskRecord) : TaskRecord :=
  let stopped := stopExpired state live now task
  if replaced ext now (dueServices state) task then { stopped with desired := .stopped }
  else stopped

theorem stopExpired_job (state : ClusterState) (live : Keys String) (now : Int)
    (task : TaskRecord) : (stopExpired state live now task).job = task.job := by
  unfold stopExpired
  split <;> rfl

theorem stopExpired_serviceId (state : ClusterState) (live : Keys String) (now : Int)
    (task : TaskRecord) : (stopExpired state live now task).serviceId = task.serviceId := by
  unfold stopExpired
  split <;> rfl

theorem replaced_stopExpired (ext : Externals) (services : List ServiceRecord)
    (state : ClusterState) (live : Keys String) (now : Int) (task : TaskRecord) :
    replaced ext now services (stopExpired state live now task)
      = replaced ext now services task := by
  unfold replaced
  rw [stopExpired_job, stopExpired_serviceId]

section Loop

variable {ext : Externals} {live : Keys String} {uuid : Nat → String} {now : Int}
  {service : ServiceRecord}

/-- A job with a due occurrence launches, with the cursor moved on. -/
theorem reconcileJob_of_launches (h : launches ext now service = true) (acc : Sched) :
    ∃ job cursor next, service.spec.job = some job ∧ service.jobCursor = some cursor ∧
      ext.nextAfter job now = some next ∧ cursor.nextAtUnixMs ≤ now ∧
      reconcileJob ext live uuid now acc service = launch { acc with
            state := withCursor acc.state service.id (passedCursor cursor next)
            changed := true } live uuid now service cursor.nextAtUnixMs next := by
  unfold launches at h
  split at h
  next job cursor hjob hcur =>
    simp only [Bool.and_eq_true, decide_eq_true_eq, Bool.not_eq_true'] at h
    obtain ⟨⟨⟨⟨⟨hsch, hzone⟩, hsus⟩, hdue⟩, hnext⟩, hlate⟩ := h
    obtain ⟨next, hnext⟩ := Option.isSome_iff_exists.mp hnext
    refine ⟨job, cursor, next, hjob, hcur, hnext, hdue, ?_⟩
    unfold reconcileJob
    rw [hjob]
    simp only [hsch, hcur, hzone, hsus, hnext, Option.all_some, bne_self_eq_false,
      Bool.or_self, Bool.false_eq_true, if_false, if_neg (not_lt.mpr hdue),
      if_neg (not_le.mpr hlate), passedCursor]
  · cases h

/-- Without a due occurrence no task changes. -/
theorem reconcileJob_of_not_launches (h : launches ext now service = false) (acc : Sched) :
    (reconcileJob ext live uuid now acc service).state.tasks = acc.state.tasks ∧
      (reconcileJob ext live uuid now acc service).minted = acc.minted := by
  unfold reconcileJob
  split
  · exact ⟨rfl, rfl⟩
  next job hjob =>
    split
    · exact ⟨rfl, rfl⟩
    next schedule hsch =>
      dsimp only
      split
      · split
        · exact ⟨rfl, rfl⟩
        · split <;> exact ⟨rfl, rfl⟩
      next hpol =>
        split
        · exact ⟨rfl, rfl⟩
        next cursor hcur =>
          split
          · exact ⟨rfl, rfl⟩
          next hdue =>
            split
            · exact ⟨rfl, rfl⟩
            next next hnext =>
              split
              · exact ⟨rfl, rfl⟩
              next hlate =>
                -- all the conditions of a launch have been checked
                refine absurd ?_ (Bool.eq_false_iff.mp h)
                unfold launches
                rw [hjob, hcur]
                simp only [hcur, Option.all_some, Bool.or_eq_true, bne_iff_ne, ne_eq,
                  not_or, not_not, Bool.not_eq_true] at hpol
                simp [hsch, hpol, hnext, not_lt.mp hdue, not_le.mp hlate]

theorem launch_get? (hid : ∀ k, uuid k ≠ id) (acc : Sched) (scheduled next : Int) :
    (launch acc live uuid now service scheduled next).state.tasks.get? id
      = (acc.state.tasks.get? id).map (stopExecution service) := by
  have hsto : (stopExecutions acc.state service).tasks.get? id
      = (acc.state.tasks.get? id).map (stopExecution service) := by
    show (acc.state.tasks.map _ (stopExecution_id service)).get? id = _
    exact Table.get?_map acc.state.tasks id
  unfold launch
  dsimp only
  split
  · exact hsto
  next task hsch =>
    obtain ⟨node, slot, _, _, _, _, rfl⟩ := scheduleTask_some hsch
    rw [← hsto]
    exact Table.get?_insert_ne _ (hid acc.minted).symm

theorem reconcileJob_get? (hid : ∀ k, uuid k ≠ id) (acc : Sched) :
    (reconcileJob ext live uuid now acc service).state.tasks.get? id
      = (acc.state.tasks.get? id).map fun task =>
        if launches ext now service then stopExecution service task else task := by
  cases hlau : launches ext now service with
  | false =>
    rw [(reconcileJob_of_not_launches hlau acc).1]
    simp
  | true =>
    obtain ⟨job, cursor, next, _, _, _, _, heq⟩ := reconcileJob_of_launches hlau acc
    rw [heq, launch_get? hid]
    simp [withCursor]

theorem replaced_cons (services : List ServiceRecord) (task : TaskRecord) :
    replaced ext now (service :: services) task
      = (replaced ext now [service] task || replaced ext now services task) := by
  simp [replaced, Bool.and_or_distrib_left]

/-- What one round does to the record of an execution. -/
theorem stopExecution_of_launches (task : TaskRecord) :
    (if launches ext now service then stopExecution service task else task)
      = if replaced ext now [service] task then { task with desired := .stopped } else task := by
  unfold replaced stopExecution
  cases hlau : launches ext now service with
  | false => simp [hlau]
  | true => simp [hlau, and_comm]

/-- The loop stops an execution if one of the services replaces it. -/
theorem reconcileJobs_get? (hid : ∀ k, uuid k ≠ id) (services : List ServiceRecord)
    (acc : Sched) :
    (services.foldl (reconcileJob ext live uuid now) acc).state.tasks.get? id
      = (acc.state.tasks.get? id).map fun task =>
        if replaced ext now services task then { task with desired := .stopped } else task := by
  induction services generalizing acc with
  | nil =>
    simp [replaced]
  | cons service services ih =>
    rw [List.foldl_cons, ih, reconcileJob_get? hid, Option.map_map]
    refine congrArg (fun f => Option.map f _) (funext fun task => ?_)
    rw [Function.comp_apply, stopExecution_of_launches]
    by_cases hfir : replaced ext now [service] task = true
    · rw [if_pos hfir, replaced_cons, hfir, Bool.true_or, if_pos rfl]
      split <;> rfl
    · rw [if_neg hfir, replaced_cons, Bool.eq_false_iff.mpr hfir, Bool.false_or]

end Loop

/-! ## Retention -/

theorem eraseAll_get? (id : String) (entries : List (Int ×ₗ String)) (tasks : Table TaskRecord.id) :
    (entries.foldl (fun tasks entry => tasks.erase (ofLex entry).2) tasks).get? id = none ∨
    (entries.foldl (fun tasks entry => tasks.erase (ofLex entry).2) tasks).get? id
      = tasks.get? id := by
  by_cases hera : ∀ entry ∈ entries, id ≠ (ofLex entry).2
  · refine .inr (Table.get?_congr fun task hid => Table.mem_foldl_erase.trans ?_)
    rw [hid]
    exact and_iff_left hera
  · refine .inl (Table.get?_eq_none.mpr fun task htask hid => hera ?_)
    rw [← hid]
    exact (Table.mem_foldl_erase.mp htask).2

theorem pruneAll_get? (id : String) : ∀ (services : List String) (acc : Sched),
      (services.foldl pruneFinished acc).state.tasks.get? id = none ∨
      (services.foldl pruneFinished acc).state.tasks.get? id = acc.state.tasks.get? id
  | [], _ => .inr rfl
  | service :: services, acc => by
    rw [List.foldl_cons]
    rcases pruneAll_get? id services (pruneFinished acc service) with hnone | hsame
    · exact .inl hnone
    · rw [hsame]
      exact eraseAll_get? id _ acc.state.tasks

variable (ext : Externals) (live : Keys String) (now : Int) (state : ClusterState)
  (task : TaskRecord)

/-- The executions of the state, once the jobs that were due have launched. -/
theorem launched_get? (hid : ∀ k, uuid k ≠ id) (live : Keys String) (now : Int) (acc : Sched) :
    ((dueServices acc.state).foldl (reconcileJob ext live uuid now)
      (stopExpiredTasks acc live now)).state.tasks.get? id
      = (acc.state.tasks.get? id).map (settled ext live now acc.state) := by
  have hsto : (stopExpiredTasks acc live now).state.tasks.get? id
      = (acc.state.tasks.get? id).map (stopExpired acc.state live now) := by
    show (acc.state.tasks.map _ (stopExpired_id acc.state live now)).get? id = _
    exact Table.get?_map acc.state.tasks id
  rw [reconcileJobs_get? hid, hsto, Option.map_map]
  simp only [Function.comp_def, replaced_stopExpired]
  rfl

/-- **Job reconciliation settles an execution, or forgets it.** -/
theorem reconcile_get? (hid : ∀ k, uuid k ≠ id) (live : Keys String) (now : Int) (acc : Sched) :
    (reconcile ext uuid live now acc).state.tasks.get? id = none ∨
    (reconcile ext uuid live now acc).state.tasks.get? id
      = (acc.state.tasks.get? id).map (settled ext live now acc.state) := by
  rw [← launched_get? ext hid live now acc]
  exact pruneAll_get? id _ _

theorem settled_id : (settled ext live now state task).id = task.id := by
  unfold settled
  dsimp only
  split <;> exact stopExpired_id state live now task

theorem settled_job : (settled ext live now state task).job = task.job := by
  unfold settled
  dsimp only
  split <;> exact stopExpired_job state live now task

theorem settled_serviceId : (settled ext live now state task).serviceId = task.serviceId := by
  unfold settled
  dsimp only
  split <;> exact stopExpired_serviceId state live now task

/-- When a pass asks an execution to stop. -/
theorem settled_desired {task : TaskRecord} {job : JobExecution} (hjob : task.job = some job) :
    (settled ext live now state task).desired
      = if expired state now task job || replaced ext now (dueServices state) task then .stopped
        else task.desired := by
  unfold settled
  dsimp only
  cases replaced ext now (dueServices state) task with
  | true => simp
  | false =>
    unfold stopExpired
    rw [hjob]
    simp

/-- The job of the execution is gone. -/
def orphaned (state : ClusterState) (task : TaskRecord) : Bool :=
  (state.services.get? task.serviceId).all fun service =>
    service.deleted || service.spec.job.isNone

theorem orphaned_eq_false {state : ClusterState} {task : TaskRecord}
    (h : orphaned state task = false) :
    ∃ service ∈ state.services, service.id = task.serviceId ∧ service.deleted = false ∧
      service.spec.job.isSome := by
  unfold orphaned at h
  cases hget : state.services.get? task.serviceId with
  | none =>
    rw [hget] at h
    cases h
  | some service =>
    rw [hget] at h
    simp only [Option.all_some, Bool.or_eq_false_iff] at h
    obtain ⟨hmem, hkey⟩ := Table.get?_eq_some.mp hget
    exact ⟨service, hmem, hkey, h.1, by simpa using h.2⟩

/-- An execution that stays wanted has its job. -/
theorem orphaned_of_settled_running {ext : Externals} {live : Keys String} {now : Int}
    {state : ClusterState} {task : TaskRecord} (hjob : task.job.isSome)
    (h : (settled ext live now state task).desired = .running) :
    orphaned state task = false := by
  obtain ⟨job, hjob⟩ := Option.isSome_iff_exists.mp hjob
  rw [settled_desired ext live now state hjob] at h
  split at h
  · cases h
  next hkept =>
    simp only [Bool.or_eq_true, not_or, Bool.not_eq_true] at hkept
    exact (Bool.or_eq_false_iff.mp hkept.1).1

end Jobs

/-! ## The whole pass -/

variable {state : ClusterState} {live : Keys String} {task' : TaskRecord} {task : TaskRecord}

theorem giveUp_of_job (hjob : task.job.isSome) :
    giveUp state live task = task := by
  have hkept : givenUp state live task = false := by
    unfold givenUp
    simp [Option.isNone_eq_false_iff.mpr hjob]
  unfold giveUp
  rw [hkept]
  rfl

/-- Executions at the first service's turn are settled. -/
theorem passStart_execution (ext : Externals) (now : Int)
    (htask' : task' ∈ (passStart ext uuid live now state).state.tasks)
    (hid : ∀ k, uuid k ≠ task'.id) (hjob : task'.job.isSome) :
    ∃ task ∈ state.tasks, task' = Jobs.settled ext live now state task := by
  obtain ⟨task, htask, rfl⟩ := Table.exists_of_mem_map (giveUp_id _ live) htask'
  rw [show (giveUp _ live task).job = task.job by unfold giveUp; split <;> rfl] at hjob
  rw [giveUp_id] at hid
  rw [giveUp_of_job hjob]
  have hget := Table.get?_of_mem htask
  rcases Jobs.reconcile_get? ext hid live now { state } with hnone | hset
  · rw [hnone] at hget
    cases hget
  · rw [hset, Option.map_eq_some_iff] at hget
    obtain ⟨old, hold, rfl⟩ := hget
    exact ⟨old, Table.mem_of_get? hold, rfl⟩

/-- The service of a wanted execution, if it is there, is a job. -/
def Employed (s : ClusterState) (task : TaskRecord) : Prop :=
  task.desired = .running → ∀ service ∈ s.services, service.id = task.serviceId →
    service.spec.job.isSome

/-- Services take their turns without touching executions. -/
theorem ServiceMove.execution {svc : ServiceRecord}
    {s s' : ClusterState} (h : ServiceMove live svc s s')
    (htask' : task' ∈ s'.tasks) (hjob : task'.job.isSome)
    (hemp : ∀ task ∈ s.tasks, task.id = task'.id → task.job.isSome → Employed s task) :
    task' ∈ s.tasks := by
  cases h with
  | retire ids hser hpla hids =>
    obtain ⟨task, htask, rfl⟩ := Table.exists_of_mem_map (retireIf_id _ ids) htask'
    have hsame : (retireIf (isServiceHttpRouted s svc) ids task).job = task.job := by
      unfold retireIf retireRecord
      repeat' split
      all_goals rfl
    rw [hsame] at hjob
    rw [retireIf_id] at hemp
    unfold retireIf retireRecord
    split
    next hmem =>
      split
      next hrun =>
        -- what the turn retires belongs to a replicated svc
        have hsome := hemp task htask rfl hjob hrun svc hser (hids task htask hmem).symm
        rw [hpla] at hsome
        cases hsome
      · exact htask
    · exact htask
  | replica freshId task hser hpla hact hfre hsch =>
    rcases Table.mem_insert.mp htask' with rfl | ⟨hold, -⟩
    · obtain ⟨node, slot, _, _, _, _, rfl⟩ := scheduleTask_some hsch
      cases hjob
    · exact hold

theorem employed_of_settled {ext : Externals} {now : Int}
    {s s' : ClusterState} (hfra : SameFrame s s') (hjob : task.job.isSome) :
    Employed s' (Jobs.settled ext live now s task) := by
  intro hrun service hser hid
  obtain ⟨own, hown, hownI, -, hownJ⟩ :=
    Jobs.orphaned_eq_false (Jobs.orphaned_of_settled_running hjob hrun)
  rw [Jobs.settled_serviceId] at hid
  cases hpla : service.spec.job with
  | some job => rfl
  | none =>
    -- replicated services are the same throughout the pass
    have hold := (hfra.plain service hpla).mp hser
    rw [Table.eq_of_key hown hold (hownI.trans hid.symm), hpla] at hownJ
    cases hownJ

/-- **A pass settles an execution, or forgets it.** -/
theorem reconcile_execution (ext : Externals)
    (huuid : Function.Injective uuid) (now : Int) (hfre : Fresh uuid { state })
    (htask' : task' ∈ (reconcile ext uuid live now state).state.tasks)
    (hid : ∀ k, uuid k ≠ task'.id) (hjob : task'.job.isSome) :
    ∃ task ∈ state.tasks, task' = Jobs.settled ext live now state task := by
  have hsta : Advances (Move live) uuid { state } (passStart ext uuid live now state) :=
    passStart_advances ext huuid now state
  obtain ⟨hmov, hfreS⟩ := hsta hfre
  obtain ⟨htur, -⟩ := turns_advance live ext huuid now state hfreS
  -- through the turns an execution stays as the first turn found it
  have hkept : SameFrame state (reconcile ext uuid live now state).state ∧
      ∀ task ∈ (reconcile ext uuid live now state).state.tasks, task.id = task'.id →
        task.job.isSome → ∃ old ∈ state.tasks, task = Jobs.settled ext live now state old := by
    refine keeps_of_step (P := fun s => SameFrame state s ∧ ∀ task ∈ s.tasks,
      task.id = task'.id → task.job.isSome →
        ∃ old ∈ state.tasks, task = Jobs.settled ext live now state old) ?_ htur
      ⟨Moves.sameFrame hmov, fun task htask hsame hjob =>
        passStart_execution ext now htask (hsame ▸ hid) hjob⟩
    intro s s' ⟨service, hmove⟩ ⟨hfra, hset⟩
    refine ⟨hfra.trans hmove.sameFrame, fun task htask hsame hjob => ?_⟩
    refine hset task (hmove.execution htask hjob fun other hoth hothI hothJ => ?_) hsame hjob
    obtain ⟨old, -, rfl⟩ := hset other hoth (hothI.trans hsame) hothJ
    rw [Jobs.settled_job] at hothJ
    exact employed_of_settled hfra hothJ
  exact hkept.2 task' htask' rfl hjob

end Swarmlite
