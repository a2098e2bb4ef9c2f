import Mathlib.Data.List.TakeWhile
import Swarmlite.Controller.Moves

/-!
# The turn of one service

A pass first runs the jobs and gives up lost tasks (`passStart`), and then every
service takes its turn. The turns do not interfere: a turn changes tasks of its
own service only. So what a pass does to the tasks of a service is what the turn
of that service does, from the state `turnStart` in which it begins
(`mem_turnStart`, `mem_reconcile_of_turn`).
-/

namespace Swarmlite

open Ordered Relation

variable {ext : Externals} {uuid : Nat → String} {live : Keys String} {now : Int}

/-- The pass when the given service takes its turn. -/
def turnStart (ext : Externals) (uuid : Nat → String) (live : Keys String) (now : Int)
    (state : ClusterState) (service : ServiceRecord) : Sched :=
  let start := passStart ext uuid live now state
  (start.state.services.rows.takeWhile fun other => other.id != service.id).foldl
    (reconcileStep live uuid) start

/-- Tasks that reach the turn of their service: not a job execution, not given up. -/
def contenders (live : Keys String) (state : ClusterState) (p : TaskRecord → Bool) :
    List TaskRecord :=
  state.tasks.rows.filter fun task => p task && task.job.isNone && !givenUp state live task

/-! ## Jobs leave replicas alone -/

variable {s s' : ClusterState} {task : TaskRecord} {svc : ServiceRecord}

theorem JobMove.mem_plain (h : JobMove live s s')
    (hpla : task.job = none) : task ∈ s'.tasks ↔ task ∈ s.tasks := by
  cases h with
  | touch f hf htou =>
    rw [ClusterState.withTasks_tasks, Table.mem_map]
    constructor
    · intro h
      obtain ⟨old, hold, rfl⟩ := h
      have hjob : (f old).job = old.job := by rw [(htou old hold).eq]
      rw [(htou old hold).plain (hjob.symm.trans hpla)]
      exact hold
    · exact fun hmem => ⟨task, hmem, (htou task hmem).plain hpla⟩
  | execution svc freshId new execution hservice hjob hact hfresh hsch =>
    obtain ⟨node, slot, _, _, _, _, rfl⟩ := scheduleTask_some hsch
    rw [ClusterState.withTasks_tasks, Table.mem_insert]
    constructor
    · intro h
      rcases h with rfl | ⟨hmem, _⟩
      · cases hpla
      · exact hmem
    · exact fun hmem => .inr ⟨hmem, Table.contains_eq_false.mp hfresh task hmem⟩
  | forget id hjob =>
    rw [ClusterState.withTasks_tasks, Table.mem_erase]
    refine ⟨fun h => h.1, fun hmem => ⟨hmem, fun hid => ?_⟩⟩
    have hsome := hjob task hmem hid
    rw [hpla] at hsome
    cases hsome
  | cursor serviceId cursor hjob => exact Iff.rfl

/-- A job execution on a live node that has not failed is one from before the
move, unless it is of a job. -/
theorem JobMove.mem_of_service (h : JobMove live s s') (hservice : svc ∈ s.services)
    (hjob : svc.spec.job = none) (hmem : task ∈ s'.tasks) (htask : task.serviceId = svc.id) :
    ∃ old ∈ s.tasks, JobTouched live old task := by
  cases h with
  | touch f hf htou =>
    rw [ClusterState.withTasks_tasks, Table.mem_map] at hmem
    obtain ⟨old, hold, rfl⟩ := hmem
    exact ⟨old, hold, htou old hold⟩
  | execution job freshId new execution hcur hsome hact hfresh hsch =>
    obtain ⟨node, slot, _, _, _, _, rfl⟩ := scheduleTask_some hsch
    rcases Table.mem_insert.mp hmem with rfl | ⟨hold, _⟩
    · -- the id would name both a job and a replicated svc
      obtain ⟨current, hcur, hfor⟩ := hcur
      have hid : current.id = svc.id := (congrArg (·.id) hfor).trans htask
      have hspec : current.spec = job.spec := congrArg (·.spec) hfor
      rw [← hspec, Table.eq_of_key hcur hservice hid, hjob] at hsome
      cases hsome
    · exact ⟨task, hold, JobTouched.refl live task⟩
  | forget id _ => exact ⟨task, (Table.mem_erase.mp hmem).1, JobTouched.refl live task⟩
  | cursor serviceId cursor _ => exact ⟨task, hmem, JobTouched.refl live task⟩

/-! ## Other services -/

theorem ServiceMove.mem_other (h : ServiceMove live svc s s') (hoth : task.serviceId ≠ svc.id) :
    task ∈ s'.tasks ↔ task ∈ s.tasks := by
  cases h with
  | retire ids hservice hjob hids =>
    rw [ClusterState.withTasks_tasks, Table.mem_map]
    constructor
    · intro h
      obtain ⟨old, hold, rfl⟩ := h
      unfold retireIf at hoth ⊢
      split
      next hid =>
        rw [if_pos hid] at hoth
        have hsame : (retireRecord (isServiceHttpRouted s svc) old).serviceId = old.serviceId := by
          unfold retireRecord
          split <;> rfl
        exact absurd (hsame.trans (hids old hold hid)) hoth
      · exact hold
    · intro hmem
      exact ⟨task, hmem, if_neg fun hid => hoth (hids task hmem hid)⟩
  | replica freshId new hservice hjob hact hfresh hsch =>
    obtain ⟨node, slot, _, _, _, _, rfl⟩ := scheduleTask_some hsch
    rw [ClusterState.withTasks_tasks, Table.mem_insert]
    constructor
    · intro h
      rcases h with rfl | ⟨hmem, _⟩
      · exact absurd rfl hoth
      · exact hmem
    · exact fun hmem => .inr ⟨hmem, Table.contains_eq_false.mp hfresh task hmem⟩

/-- Turns of other services leave the tasks of a service alone. -/
theorem foldl_reconcileStep_other (live : Keys String) (huuid : Function.Injective uuid)
    (serviceId : String) :
    ∀ (services : List ServiceRecord) (acc : Sched), Fresh uuid acc →
      (∀ svc ∈ services, svc.id ≠ serviceId) →
      (∀ svc ∈ services, svc.spec.job = none → svc ∈ acc.state.services) →
      Fresh uuid (services.foldl (reconcileStep live uuid) acc) ∧
      Moves live acc.state (services.foldl (reconcileStep live uuid) acc).state ∧
      ∀ task : TaskRecord, task.serviceId = serviceId →
        (task ∈ (services.foldl (reconcileStep live uuid) acc).state.tasks ↔ task ∈ acc.state.tasks)
  | [], acc, hfresh, _, _ => ⟨hfresh, .refl, fun _ _ => Iff.rfl⟩
  | svc :: services, acc, hfresh, hother, hmem => by
    have hstep : Fresh uuid (reconcileStep live uuid acc svc) ∧
        Moves live acc.state (reconcileStep live uuid acc svc).state ∧
        ∀ task : TaskRecord, task.serviceId = serviceId →
          (task ∈ (reconcileStep live uuid acc svc).state.tasks ↔ task ∈ acc.state.tasks) := by
      by_cases hjob : svc.spec.job = none
      · obtain ⟨hmov, hfresh'⟩ := reconcileStep_advances live huuid
          (hmem svc (List.mem_cons_self ..) hjob) hfresh
        refine ⟨hfresh', ReflTransGen.mono (fun _ _ => Move.service svc) _ _ hmov,
          fun task htask => ?_⟩
        have hne : task.serviceId ≠ svc.id := by
          rw [htask]
          exact fun he => hother svc (List.mem_cons_self ..) he.symm
        exact keeps_of_step (P := fun s => task ∈ s.tasks ↔ task ∈ acc.state.tasks)
          (fun _ _ h hs => (h.mem_other hne).trans hs) hmov Iff.rfl
      · have hskip : reconcileStep live uuid acc svc = acc := by
          unfold reconcileStep
          rw [if_pos (Option.isSome_iff_ne_none.mpr hjob)]
        rw [hskip]
        exact ⟨hfresh, .refl, fun _ _ => Iff.rfl⟩
    obtain ⟨hfresh', hmov, htas⟩ := hstep
    obtain ⟨hfresh'', hmov', htas'⟩ :=
      foldl_reconcileStep_other live huuid serviceId services _ hfresh'
      (fun x hx => hother x (List.mem_cons_of_mem _ hx))
      (fun x hx hjob =>
        (hmov.sameFrame.plain x hjob).mpr (hmem x (List.mem_cons_of_mem _ hx) hjob))
    exact ⟨hfresh'', hmov.trans hmov', fun task htask => (htas' task htask).trans (htas task htask)⟩

theorem mem_createTasks_of_mem (huuid : Function.Injective uuid) :
    ∀ {n : Nat} {acc : Sched}, Fresh uuid acc → task ∈ acc.state.tasks →
      task ∈ (createTasks svc live uuid n acc).state.tasks
  | 0, acc, _, hmem => hmem
  | n + 1, acc, hfresh, hmem => by
    unfold createTasks
    split
    · exact hmem
    next new hsch =>
      obtain ⟨node, slot, _, _, _, _, rfl⟩ := scheduleTask_some hsch
      have hnew : task.id ≠ uuid acc.minted :=
        Table.contains_eq_false.mp (hfresh _ (Nat.le_refl _)) task hmem
      exact mem_createTasks_of_mem huuid (hfresh.insert huuid rfl rfl rfl)
        (Table.mem_insert.mpr (.inr ⟨hmem, hnew⟩))

theorem retiredTurn_fresh (live : Keys String) (svc : ServiceRecord) {acc : Sched}
    (hfresh : Fresh uuid acc) :
    Fresh uuid (retiredTurn svc live acc) := by
  intro k hk
  unfold retiredTurn at hk ⊢
  rw [retireTasks_minted] at hk
  rw [retireTasks_state, ClusterState.withTasks_tasks, Table.contains_map]
  exact hfresh k hk

/-- In an undisturbed turn a running task that has been reported at least once
stays if and only if it is not surplus. -/
theorem mem_turn_iff (huuid : Function.Injective uuid) {acc : Sched}
    (hfresh : Fresh uuid acc) (hjob : svc.spec.job = none) (hact : svc.deleted = false)
    (hrep : 0 < svc.spec.replicas) (hres : restartActive acc.state svc.id = false)
    (hrun : task.desired = .running) (hrepo : task.observed ≠ .pending) :
    task ∈ (reconcileStep live uuid acc svc).state.tasks ↔ task ∈ acc.state.tasks ∧
        task.id ∉ (surplusTasks svc live acc.state).map TaskRecord.id := by
  rw [reconcileStep_eq hjob hact hrep hres]
  refine Iff.trans ?_ (mem_retiredTurn_running hrun)
  constructor
  · intro h
    rcases mem_createTasks h with hmem | hnew
    · exact hmem
    · exact absurd hnew.observed hrepo
  · exact mem_createTasks_of_mem huuid (retiredTurn_fresh live svc hfresh)

/-! ## The tasks of one service -/

section Service

variable (huuid : Function.Injective uuid) {state : ClusterState}
  (hfresh : Fresh uuid { state }) {svc : ServiceRecord} (hservice : svc ∈ state.services)
  (hjob : svc.spec.job = none)

theorem givenUp_congr (h : s'.serviceOperations = s.serviceOperations)
    (task : TaskRecord) : givenUp s' live task = givenUp s live task := by
  unfold givenUp restartInProgress
  rw [h]

variable {task : TaskRecord}

theorem mem_giveUpTasks {acc : Sched} : task ∈ (giveUpTasks live acc).state.tasks ↔
      ∃ old ∈ acc.state.tasks, giveUp acc.state live old = task := by
  show task ∈ acc.state.tasks.map (giveUp acc.state live) (giveUp_id acc.state live) ↔ _
  rw [Table.mem_map]

include huuid hfresh

theorem mem_jobs_plain (hpla : task.job = none) :
    task ∈ (Jobs.reconcile ext uuid live now { state }).state.tasks ↔ task ∈ state.tasks :=
  keeps_of_step (P := fun s => task ∈ s.tasks ↔ task ∈ state.tasks)
    (fun _ _ h hs => (h.mem_plain hpla).trans hs)
    (jobsReconcile_advances live ext huuid now { state } hfresh).1 Iff.rfl

include hservice hjob in
/-- Job executions under the id of a replicated service are stopped. -/
theorem jobs_origin (hmem : task ∈ (Jobs.reconcile ext uuid live now { state }).state.tasks)
    (htask : task.serviceId = svc.id) :
    ∃ old ∈ state.tasks, JobTouched live old task ∧
      (task.job.isSome → task.desired = .stopped) := by
  let P : ClusterState → Prop := fun s => svc ∈ s.services ∧
    ∀ task ∈ s.tasks, task.serviceId = svc.id → ∃ old ∈ state.tasks,
      JobTouched live old task ∧ (task.job.isSome → task.desired = .stopped)
  have hsta : P (Jobs.stopExpiredTasks { state } live now).state := by
    refine ⟨hservice, fun task hmem htask => ?_⟩
    rw [show (Jobs.stopExpiredTasks { state } live now).state.tasks
      = state.tasks.map (Jobs.stopExpired state live now) (Jobs.stopExpired_id state live now)
      from rfl, Table.mem_map] at hmem
    obtain ⟨old, hold, rfl⟩ := hmem
    have htou := stopExpired_touched state live now old
    refine ⟨old, hold, htou, fun hsome => ?_⟩
    have hid : old.serviceId = svc.id := by
      rw [← htask, htou.eq]
    have hget : state.services.get? old.serviceId = some svc :=
      Table.get?_eq_some.mpr ⟨hservice, hid.symm⟩
    unfold Jobs.stopExpired at hsome ⊢
    split
    next hnone =>
      rw [hnone] at hsome
      simp [hnone] at hsome
    next execution _ =>
      have hexp : Jobs.expired state now old execution = true := by
        unfold Jobs.expired
        rw [hget]
        simp [hjob]
      rw [hexp]
      rfl
  have hstep : ∀ s s', JobMove live s s' → P s → P s' := by
    intro s s' hmove hs
    refine ⟨(hmove.sameFrame.plain svc hjob).mpr hs.1, fun task hmem htask => ?_⟩
    obtain ⟨middle, hmid, htou⟩ := hmove.mem_of_service hs.1 hjob hmem htask
    have hid : middle.serviceId = svc.id := by
      rw [← htask, htou.eq]
    obtain ⟨old, hold, hold', hsto⟩ := hs.2 middle hmid hid
    refine ⟨old, hold, hold'.trans htou, fun hsome => ?_⟩
    have hmidJ : task.job = middle.job := by rw [htou.eq]
    rw [hmidJ] at hsome
    rcases htou.desired with hsame | hstop
    · rw [hsame]
      exact hsto hsome
    · exact hstop
  have hmov := (jobsReconcile_after_stopExpired ext huuid now { state }
    (stopExpiredTasks_advances live _ now hfresh).2).1
  exact (keeps_of_step hstep hmov hsta).2 task hmem htask

theorem jobs_serviceOperations :
    (Jobs.reconcile ext uuid live now { state }).state.serviceOperations
      = state.serviceOperations := by
  have hfra := sameFrame_of_steps (fun _ _ h => h.sameFrame)
    (jobsReconcile_advances live ext huuid now { state } hfresh).1
  rw [hfra.rest]

include hservice hjob in
/-- Where a task of the service comes from: on a live node only its desired
state can have changed, and a running one has not changed at all. -/
theorem passStart_origin (hmem : task ∈ (passStart ext uuid live now state).state.tasks)
    (htask : task.serviceId = svc.id) :
    ∃ old ∈ state.tasks, task = { old with desired := task.desired, observed := task.observed } ∧
      (live.contains task.nodeId = true → task.observed = old.observed) ∧
      (task.desired = .running →
        task = old ∧ task.job = none ∧ givenUp state live task = false) := by
  obtain ⟨middle, hmid, rfl⟩ := mem_giveUpTasks.mp hmem
  have hops : (Jobs.reconcile ext uuid live now { state }).state.serviceOperations
      = state.serviceOperations := jobs_serviceOperations huuid hfresh
  have hid : middle.serviceId = svc.id := by
    rw [← htask]
    unfold giveUp
    split <;> rfl
  obtain ⟨old, hold, htou, hsto⟩ := jobs_origin huuid hfresh hservice hjob hmid hid
  have hnode : middle.nodeId = old.nodeId := by rw [htou.eq]
  refine ⟨old, hold, ?_⟩
  unfold giveUp
  rw [givenUp_congr hops]
  split
  next hgiv =>
    refine ⟨by rw [htou.eq], fun hlive => ?_, fun hrun => nomatch hrun⟩
    have hlive : live.contains middle.nodeId = true := hlive
    dsimp only
    rw [if_pos hlive]
    rcases htou.observed with hsame | ⟨_, hdead⟩
    · exact hsame
    · rw [← hnode, hlive] at hdead
      cases hdead
  next hkept =>
    refine ⟨htou.eq, fun hlive => ?_, fun hrun => ?_⟩
    · rcases htou.observed with hsame | ⟨_, hdead⟩
      · exact hsame
      · rw [← hnode, hlive] at hdead
        cases hdead
    · have hpla : middle.job = none := by
        by_contra hsome
        have := hsto (Option.isSome_iff_ne_none.mpr hsome)
        rw [hrun] at this
        cases this
      have hjobs : middle.job = old.job := by rw [htou.eq]
      exact ⟨htou.plain (hjobs.symm.trans hpla), hpla, by simpa using hkept⟩

include hservice hjob in
theorem mem_passStart_running (htask : task.serviceId = svc.id) (hrun : task.desired = .running) :
    task ∈ (passStart ext uuid live now state).state.tasks ↔
      task ∈ state.tasks ∧ task.job = none ∧ givenUp state live task = false := by
  constructor
  · intro hmem
    obtain ⟨old, hold, _, _, hsame⟩ := passStart_origin huuid hfresh hservice hjob hmem htask
    obtain ⟨heq, hpla, hkept⟩ := hsame hrun
    exact ⟨heq ▸ hold, hpla, hkept⟩
  · intro h
    obtain ⟨hmem, hpla, hkept⟩ := h
    have hops : (Jobs.reconcile ext uuid live now { state }).state.serviceOperations
        = state.serviceOperations := jobs_serviceOperations huuid hfresh
    refine mem_giveUpTasks.mpr ⟨task, (mem_jobs_plain huuid hfresh hpla).mpr hmem, ?_⟩
    unfold giveUp
    rw [givenUp_congr hops, hkept]
    rfl

variable (ext live now svc) in
/-- The state in which a service takes its turn. -/
theorem turnStart_spec : Fresh uuid (turnStart ext uuid live now state svc) ∧
    Moves live state (turnStart ext uuid live now state svc).state ∧
    ∀ task : TaskRecord, task.serviceId = svc.id →
      (task ∈ (turnStart ext uuid live now state svc).state.tasks ↔
        task ∈ (passStart ext uuid live now state).state.tasks) := by
  have hmov : Moves live state (passStart ext uuid live now state).state :=
    (passStart_advances ext huuid now state hfresh).1
  obtain ⟨hfresh', hmov', htas⟩ := foldl_reconcileStep_other live huuid svc.id
    ((passStart ext uuid live now state).state.services.rows.takeWhile
      fun other => other.id != svc.id)
    (passStart ext uuid live now state) (passStart_advances ext huuid now state hfresh).2
    (fun other hoth => by simpa using List.mem_takeWhile_imp hoth)
    (fun other hoth _ => (List.takeWhile_sublist _).subset hoth)
  exact ⟨hfresh', hmov.trans hmov', htas⟩

include hservice hjob

variable (ext now) in
/-- The running tasks a turn begins with, read off the state before the pass. -/
theorem turnStart_filter {p : TaskRecord → Bool}
    (hp : ∀ task, p task = true → runningLive svc live task = true) :
    (turnStart ext uuid live now state svc).state.tasks.rows.filter p
      = contenders live state p := by
  obtain ⟨_, _, hturn⟩ := turnStart_spec ext live now huuid hfresh svc
  have hmem : ∀ task, p task = true → (task ∈ (turnStart ext uuid live now state svc).state.tasks ↔
        task ∈ state.tasks ∧ task.job = none ∧ givenUp state live task = false) := by
    intro task htask
    obtain ⟨hid, hrun, _⟩ := runningLive_iff.mp (hp task htask)
    exact (hturn task hid).trans (mem_passStart_running huuid hfresh hservice hjob hid hrun)
  have hnar : (turnStart ext uuid live now state svc).state.tasks.rows.filter p
      = (turnStart ext uuid live now state svc).state.tasks.rows.filter
        fun task => p task && task.job.isNone && !givenUp state live task := by
    refine List.filter_congr fun task htask => ?_
    cases hcase : p task with
    | false => rfl
    | true =>
      obtain ⟨_, hpla, hkept⟩ := (hmem task hcase).mp htask
      rw [hpla, hkept]
      rfl
  rw [hnar]
  refine Table.filter_rows_congr fun task htask => ?_
  simp only [Bool.and_eq_true, Bool.not_eq_true', Option.isNone_iff_eq_none] at htask
  rw [hmem task htask.1.1]
  exact ⟨fun h => h.1, fun h => ⟨h, htask.1.2, htask.2⟩⟩

theorem turnStart_settled : settledTasks svc live (turnStart ext uuid live now state svc).state
      = contenders live state fun task =>
        currentRunning svc live task && !violatesConstraints state svc task := by
  obtain ⟨_, hmov, _⟩ := turnStart_spec ext live now huuid hfresh svc
  rw [← turnStart_filter ext now huuid hfresh hservice hjob]
  · unfold settledTasks violatesConstraints
    rw [hmov.sameFrame.rest]
  · intro task htask
    rw [Bool.and_eq_true] at htask
    exact (currentRunning_iff.mp htask.1).1

theorem turnStart_old : oldTasks svc live (turnStart ext uuid live now state svc).state
      = contenders live state (oldRunning svc live) := by
  rw [← turnStart_filter ext now huuid hfresh hservice hjob]
  · rfl
  · exact fun task htask => (oldRunning_iff.mp htask).1

/-- **A pass does to the tasks of a service what its turn does.** -/
theorem mem_reconcile_of_turn (htask : task.serviceId = svc.id) :
    task ∈ (reconcile ext uuid live now state).state.tasks ↔
      task ∈ (reconcileStep live uuid (turnStart ext uuid live now state svc) svc).state.tasks := by
  have hfra : SameFrame state (passStart ext uuid live now state).state :=
    Moves.sameFrame (passStart_advances ext huuid now state hfresh).1
  have hmem : svc ∈ (passStart ext uuid live now state).state.services :=
    (hfra.plain svc hjob).mpr hservice
  obtain ⟨rest, hrows, hrest⟩ := Table.rows_split hmem
    (p := fun other => other.id != svc.id) (fun other => bne_iff_ne)
  obtain ⟨hfresh', hmov', _⟩ := turnStart_spec ext live now huuid hfresh svc
  have hfra' := hmov'.sameFrame
  obtain ⟨hmov, hfresh''⟩ := reconcileStep_advances live huuid
    ((hfra'.plain svc hjob).mpr hservice) hfresh'
  have hturn : SameFrame state (reconcileStep live uuid
      (turnStart ext uuid live now state svc) svc).state :=
    hfra'.trans (sameFrame_of_steps (fun _ _ h => h.sameFrame) hmov)
  have heq : reconcile ext uuid live now state = rest.foldl (reconcileStep live uuid)
      (reconcileStep live uuid (turnStart ext uuid live now state svc) svc) := by
    show (passStart ext uuid live now state).state.services.rows.foldl
      (reconcileStep live uuid) (passStart ext uuid live now state) = _
    rw [hrows, List.foldl_append, List.foldl_cons]
    rfl
  rw [heq]
  refine (foldl_reconcileStep_other live huuid svc.id rest _ hfresh'' hrest ?_).2.2 task htask
  intro other hoth hnone
  rw [hturn.plain other hnone, ← hfra.plain other hnone]
  show other ∈ (passStart ext uuid live now state).state.services.rows
  rw [hrows]
  exact List.mem_append_right _ (List.mem_cons_of_mem _ hoth)

end Service

end Swarmlite
