import Swarmlite.Controller.Scheduler

/-!
# One service's turn

`reconcile_service` retires tasks in four places and recomputes its lists in
between. The victims can be read off the state before the turn: `surplusTasks`
names them, and `retireSurplus_eq` says that the four loops retire exactly these.
`createTasks_spec` is the induction rule for the loop that follows.
-/

namespace Swarmlite

open Ordered

/-! ## Retiring, in one go -/

theorem retireTasks_append (svc : ServiceRecord) (acc : Sched) (first second : List TaskRecord) :
    retireTasks svc (retireTasks svc acc first) second = retireTasks svc acc (first ++ second) := by
  unfold retireTasks
  rw [List.map_append, List.foldl_append]

theorem retireTasks_rows (svc : ServiceRecord) (acc : Sched) (tasks : List TaskRecord) :
    (retireTasks svc acc tasks).state.tasks.rows = acc.state.tasks.rows.map
      (retireIf (isServiceHttpRouted acc.state svc) (tasks.map TaskRecord.id)) := by
  rw [retireTasks_state]
  rfl

theorem retireRecord_desired_ne (routed : Bool) (task : TaskRecord) :
    (retireRecord routed task).desired ≠ .running := by
  unfold retireRecord
  split
  · dsimp only
    split <;> exact fun h => nomatch h
  next h => exact h

/-- A filter that only accepts running tasks sees the retired ones disappear and
the others unchanged. -/
theorem filter_retireIf (routed : Bool) (ids : List String) {p : TaskRecord → Bool}
    (hp : ∀ task, p task = true → task.desired = .running) :
    ∀ rows : List TaskRecord, (rows.map (retireIf routed ids)).filter p
      = rows.filter fun task => p task && !ids.contains task.id
  | [] => rfl
  | task :: rows => by
    rw [List.map_cons, List.filter_cons, List.filter_cons, filter_retireIf routed ids hp rows]
    unfold retireIf
    by_cases hid : task.id ∈ ids
    · rw [if_pos hid]
      have hgone : p (retireRecord routed task) = false := by
        cases hcase : p (retireRecord routed task) with
        | false => rfl
        | true => exact absurd (hp _ hcase) (retireRecord_desired_ne routed task)
      simp [hgone, hid]
    · rw [if_neg hid]
      simp [hid]

section Surplus

variable (service : ServiceRecord) (live : Keys String) (state : ClusterState)

/-- Wanted tasks of the current revision that stay where they are. -/
def settledTasks : List TaskRecord :=
  state.tasks.rows.filter fun task =>
    currentRunning service live task && !violatesConstraints state service task

def oldTasks : List TaskRecord := state.tasks.rows.filter (oldRunning service live)

def keptCurrent : List TaskRecord := (settledTasks service live state).take service.spec.replicas

/-- How many old tasks are still needed next to the serving current ones. -/
def oldToKeep : Nat := service.spec.replicas - (keptCurrent service live state).countP serving

def keptOld : List TaskRecord := (oldTasks service live state).take (oldToKeep service live state)

/-- The old task a stop-first update gives up to make room. -/
def stopFirst : List TaskRecord :=
  if service.spec.maxSurge = 0 && !(keptOld service live state).isEmpty
      && (keptCurrent service live state).length < service.spec.replicas then
    (keptOld service live state).take 1
  else []

/-- Everything the turn of the service retires. -/
def surplusTasks : List TaskRecord :=
  state.tasks.rows.filter (violatesConstraints state service)
    ++ (settledTasks service live state).drop service.spec.replicas
    ++ (oldTasks service live state).drop (oldToKeep service live state)
    ++ stopFirst service live state

end Surplus

variable {service : ServiceRecord} {live : Keys String} {task : TaskRecord} {state : ClusterState}
  {acc : Sched}

theorem runningLive_iff : runningLive service live task = true ↔
      task.serviceId = service.id ∧ task.desired = .running ∧ live.contains task.nodeId = true := by
  unfold runningLive
  simp only [Bool.and_eq_true, decide_eq_true_eq, and_assoc]

theorem currentRunning_iff : currentRunning service live task = true ↔
      runningLive service live task = true ∧ task.revision = service.revision := by
  unfold currentRunning
  simp only [Bool.and_eq_true, decide_eq_true_eq]

theorem oldRunning_iff : oldRunning service live task = true ↔
      runningLive service live task = true ∧ task.revision ≠ service.revision := by
  unfold oldRunning
  simp only [Bool.and_eq_true, bne_iff_ne]

theorem currentRunning_running
    (h : currentRunning service live task = true) : task.desired = .running :=
  (runningLive_iff.mp (currentRunning_iff.mp h).1).2.1

theorem currentRunning_serviceId (h : currentRunning service live task = true) :
    task.serviceId = service.id :=
  (runningLive_iff.mp (currentRunning_iff.mp h).1).1

theorem oldRunning_running (h : oldRunning service live task = true) : task.desired = .running :=
  (runningLive_iff.mp (oldRunning_iff.mp h).1).2.1

theorem oldRunning_serviceId
    (h : oldRunning service live task = true) : task.serviceId = service.id :=
  (runningLive_iff.mp (oldRunning_iff.mp h).1).1

theorem mem_filter_ids {p : TaskRecord → Bool} (hmem : task ∈ state.tasks) :
    ((state.tasks.rows.filter p).map TaskRecord.id).contains task.id = p task := by
  rw [Bool.eq_iff_iff, List.contains_iff_mem, List.mem_map]
  constructor
  · intro h
    obtain ⟨other, hoth, hid⟩ := h
    obtain ⟨hrow, hp⟩ := List.mem_filter.mp hoth
    rw [← Table.eq_of_key hrow hmem hid]
    exact hp
  · exact fun hp => ⟨task, List.mem_filter.mpr ⟨hmem, hp⟩, rfl⟩

/-- **The four retirement loops retire exactly the surplus.** -/
theorem retireSurplus_eq (svc : ServiceRecord) (live : Keys String) (acc : Sched) :
    retireSurplus svc live acc = retireTasks svc acc (surplusTasks svc live acc.state) := by
  -- after the first loop the settled and the old tasks are still there, unchanged
  have hcur : (retireTasks svc acc
      (acc.state.tasks.rows.filter (violatesConstraints acc.state svc))).state.tasks.rows.filter
        (currentRunning svc live) = settledTasks svc live acc.state := by
    rw [retireTasks_rows, filter_retireIf _ _ fun _ => currentRunning_running]
    refine List.filter_congr fun task htask => ?_
    rw [mem_filter_ids htask]
  have hold : (retireTasks svc acc
      (acc.state.tasks.rows.filter (violatesConstraints acc.state svc))).state.tasks.rows.filter
        (oldRunning svc live) = oldTasks svc live acc.state := by
    rw [retireTasks_rows, filter_retireIf _ _ fun _ => oldRunning_running]
    refine List.filter_congr fun task htask => ?_
    rw [mem_filter_ids htask]
    -- only tasks of the current revision can violate constraints
    unfold oldRunning violatesConstraints
    by_cases hrev : task.revision = svc.revision
    · simp [hrev]
    · simp [hrev]
  unfold retireSurplus
  dsimp only
  rw [hcur, hold]
  unfold surplusTasks stopFirst keptOld oldToKeep keptCurrent
  split
  · simp only [retireTasks_append, List.append_assoc]
  · simp only [retireTasks_append, List.append_assoc, List.append_nil]

theorem mem_settledTasks : task ∈ settledTasks service live state ↔
      task ∈ state.tasks ∧ currentRunning service live task = true ∧
        violatesConstraints state service task = false := by
  unfold settledTasks
  rw [List.mem_filter, Bool.and_eq_true, Bool.not_eq_true']
  exact Iff.rfl

theorem mem_oldTasks : task ∈ oldTasks service live state ↔
      task ∈ state.tasks ∧ oldRunning service live task = true := by
  unfold oldTasks
  rw [List.mem_filter]
  exact Iff.rfl

theorem stopFirst_subset (svc : ServiceRecord) (live : Keys String) (state : ClusterState) :
    ∀ task ∈ stopFirst svc live state, task ∈ keptOld svc live state := by
  intro task h
  unfold stopFirst at h
  split at h
  · exact List.mem_of_mem_take h
  · cases h

/-- A retired task is a task of the service. -/
theorem mem_surplusTasks (h : task ∈ surplusTasks service live state) :
    task ∈ state.tasks ∧ task.serviceId = service.id := by
  unfold surplusTasks at h
  rcases List.mem_append.mp h with h | h
  · rcases List.mem_append.mp h with h | h
    · rcases List.mem_append.mp h with h | h
      · obtain ⟨hmem, hvio⟩ := List.mem_filter.mp h
        unfold violatesConstraints at hvio
        simp only [Bool.and_eq_true, decide_eq_true_eq] at hvio
        exact ⟨hmem, hvio.1.1.1⟩
      · obtain ⟨hmem, hrun, _⟩ := mem_settledTasks.mp (List.mem_of_mem_drop h)
        exact ⟨hmem, currentRunning_serviceId hrun⟩
    · obtain ⟨hmem, hrun⟩ := mem_oldTasks.mp (List.mem_of_mem_drop h)
      exact ⟨hmem, oldRunning_serviceId hrun⟩
  · have hkept := stopFirst_subset service live state task h
    obtain ⟨hmem, hrun⟩ := mem_oldTasks.mp (List.mem_of_mem_take hkept)
    exact ⟨hmem, oldRunning_serviceId hrun⟩

theorem mem_take_iff_not_mem_drop {α : Type} {l : List α} (hnod : l.Nodup) {x : α}
    (hx : x ∈ l) (n : Nat) : x ∈ l.take n ↔ x ∉ l.drop n := by
  constructor
  · exact fun htake hdrop => List.disjoint_take_drop hnod (Nat.le_refl n) htake hdrop
  · intro hdrop
    rw [← List.take_append_drop n l] at hx
    rcases List.mem_append.mp hx with htake | hdrop'
    · exact htake
    · exact absurd hdrop' hdrop

/-- A running task in the right place stays if it is among the kept ones and is
not given up for a stop-first update. -/
theorem not_surplus_iff (hmem : task ∈ state.tasks) (hrun : runningLive service live task = true)
    (hpla : violatesConstraints state service task = false) :
    task.id ∉ (surplusTasks service live state).map TaskRecord.id ↔
      task ∈ keptCurrent service live state ++ keptOld service live state ∧
        task ∉ stopFirst service live state := by
  have hsur : task.id ∈ (surplusTasks service live state).map TaskRecord.id ↔
      (task ∈ (settledTasks service live state).drop service.spec.replicas ∨
        task ∈ (oldTasks service live state).drop (oldToKeep service live state)) ∨
      task ∈ stopFirst service live state := by
    have hself : task.id ∈ (surplusTasks service live state).map TaskRecord.id ↔
        task ∈ surplusTasks service live state := by
      refine ⟨fun h => ?_, fun h => List.mem_map_of_mem h⟩
      obtain ⟨victim, hvic, hvid⟩ := List.mem_map.mp h
      rw [← Table.eq_of_key (mem_surplusTasks hvic).1 hmem hvid]
      exact hvic
    rw [hself]
    unfold surplusTasks
    rw [List.mem_append, List.mem_append, List.mem_append, List.mem_filter, hpla]
    simp
  have hset : (settledTasks service live state).Nodup := state.tasks.rows_nodup.filter _
  have hold : (oldTasks service live state).Nodup := state.tasks.rows_nodup.filter _
  rw [hsur, not_or, not_or, List.mem_append]
  unfold keptCurrent keptOld
  by_cases hrev : task.revision = service.revision
  · -- of the current revision: settled, and not old
    have hin : task ∈ settledTasks service live state :=
      mem_settledTasks.mpr ⟨hmem, currentRunning_iff.mpr ⟨hrun, hrev⟩, hpla⟩
    have hout : task ∉ oldTasks service live state :=
      fun h => (oldRunning_iff.mp (mem_oldTasks.mp h).2).2 hrev
    rw [mem_take_iff_not_mem_drop hset hin]
    have hout' := fun h => hout (List.mem_of_mem_take (i := oldToKeep service live state) h)
    have hout'' := fun h => hout (List.mem_of_mem_drop (i := oldToKeep service live state) h)
    tauto
  · have hin : task ∈ oldTasks service live state :=
      mem_oldTasks.mpr ⟨hmem, oldRunning_iff.mpr ⟨hrun, hrev⟩⟩
    have hout : task ∉ settledTasks service live state :=
      fun h => hrev (currentRunning_iff.mp (mem_settledTasks.mp h).2.1).2
    rw [mem_take_iff_not_mem_drop hold hin]
    have hout' := fun h => hout (List.mem_of_mem_take (i := service.spec.replicas) h)
    have hout'' := fun h => hout (List.mem_of_mem_drop (i := service.spec.replicas) h)
    tauto

/-! ## Creating -/

/-- Induction rule for the creation loop: `P n` holds with `n` tasks left to
create. The loop ends when none is left or the next one cannot be placed. -/
theorem createTasks_spec {svc : ServiceRecord} {uuid : Nat → String} {P : Nat → Sched → Prop}
    (hstep : ∀ n acc task, P (n + 1) acc →
      scheduleTask acc.state svc live (uuid acc.minted) = some task →
      P n { state := acc.state.withTasks (acc.state.tasks.insert task)
            changed := true
            minted := acc.minted + 1 }) :
    ∀ (n : Nat) (acc : Sched), P n acc →
      ∃ left, left ≤ n ∧ P left (createTasks svc live uuid n acc) ∧
        (left = 0 ∨ scheduleTask (createTasks svc live uuid n acc).state svc live
          (uuid (createTasks svc live uuid n acc).minted) = none)
  | 0, acc, h => ⟨0, Nat.le_refl 0, h, .inl rfl⟩
  | n + 1, acc, h => by
    unfold createTasks
    split
    next hnone => exact ⟨n + 1, Nat.le_refl _, h, .inr hnone⟩
    next task hsome =>
      obtain ⟨left, hle, hleft⟩ := createTasks_spec hstep n _ (hstep n acc task h hsome)
      exact ⟨left, Nat.le_succ_of_le hle, hleft⟩

/-- What the loop adds: pending tasks of the current revision on matching live nodes. -/
structure IsReplica (state : ClusterState) (service : ServiceRecord) (live : Keys String)
    (task : TaskRecord) : Prop where
  serviceId : task.serviceId = service.id
  revision : task.revision = service.revision
  desired : task.desired = .running
  observed : task.observed = .pending
  job : task.job = none
  live : live.contains task.nodeId = true
  matching : ∃ node ∈ state.nodes, node.id = task.nodeId ∧
    matchesConstraints node service.spec.constraints = true

theorem scheduleTask_isReplica {freshId : String}
    (h : scheduleTask state service live freshId = some task) :
    IsReplica state service live task := by
  obtain ⟨node, slot, hnode, helig, _, _, rfl⟩ := scheduleTask_some h
  unfold eligibleNode at helig
  simp only [Bool.and_eq_true] at helig
  exact ⟨rfl, rfl, rfl, rfl, rfl, helig.1.1.1.1, node, hnode, rfl, helig.1.1.1.2⟩

theorem mem_createTasks {svc : ServiceRecord} {live : Keys String} {uuid : Nat → String}
    {task : TaskRecord} : ∀ {n : Nat} {acc : Sched},
      task ∈ (createTasks svc live uuid n acc).state.tasks →
      task ∈ acc.state.tasks ∨ IsReplica acc.state svc live task
  | 0, acc, h => .inl h
  | n + 1, acc, h => by
    unfold createTasks at h
    split at h
    · exact .inl h
    next new hsch =>
      rcases mem_createTasks h with hmem | hnew
      · rcases Table.mem_insert.mp hmem with rfl | ⟨hold, _⟩
        · exact .inr (scheduleTask_isReplica hsch)
        · exact .inl hold
      · exact .inr { hnew with }

theorem mem_retireTasks_running {tasks : List TaskRecord} (hrun : task.desired = .running) :
    task ∈ (retireTasks service acc tasks).state.tasks ↔
      task ∈ acc.state.tasks ∧ task.id ∉ tasks.map TaskRecord.id := by
  rw [retireTasks_state, ClusterState.withTasks_tasks, Table.mem_map]
  constructor
  · intro h
    obtain ⟨old, hold, rfl⟩ := h
    unfold retireIf at hrun ⊢
    split at hrun
    · exact absurd hrun (retireRecord_desired_ne _ old)
    next hid =>
      rw [if_neg hid]
      exact ⟨hold, hid⟩
  · exact fun h => ⟨task, h.1, if_neg h.2⟩

/-! ## The turn -/

/-- The turn of a service once its surplus is retired. -/
def retiredTurn (service : ServiceRecord) (live : Keys String) (acc : Sched) : Sched :=
  retireTasks service acc (surplusTasks service live acc.state)

theorem mem_retiredTurn_running (hrun : task.desired = .running) :
    task ∈ (retiredTurn service live acc).state.tasks ↔ task ∈ acc.state.tasks ∧
      task.id ∉ (surplusTasks service live acc.state).map TaskRecord.id := by
  unfold retiredTurn
  exact mem_retireTasks_running hrun

/-- An undisturbed turn: retire the surplus, then create. -/
theorem reconcileStep_eq {uuid : Nat → String} (hjob : service.spec.job = none)
    (hact : service.deleted = false)
    (hrep : 0 < service.spec.replicas) (hres : restartActive acc.state service.id = false) :
    reconcileStep live uuid acc service = createTasks service live uuid
        (creationBudget service live (retiredTurn service live acc).state)
        (retiredTurn service live acc) := by
  have hzero : service.spec.replicas ≠ 0 := by omega
  unfold reconcileStep reconcileService
  rw [hjob, hres, hact, retireSurplus_eq]
  simp [hzero, retiredTurn]

/-- The three ways a turn can go. -/
theorem reconcileStep_cases (hjob : service.spec.job = none)
    (live : Keys String) (uuid : Nat → String) (acc : Sched) :
    (restartActive acc.state service.id = true ∧ reconcileStep live uuid acc service = acc) ∨
    reconcileStep live uuid acc service = stopAllServiceTasks service acc ∨
    (service.deleted = false ∧ 0 < service.spec.replicas ∧
      restartActive acc.state service.id = false ∧
      reconcileStep live uuid acc service = createTasks service live uuid
        (creationBudget service live (retiredTurn service live acc).state)
        (retiredTurn service live acc)) := by
  by_cases hres : restartActive acc.state service.id = true
  · refine .inl ⟨hres, ?_⟩
    unfold reconcileStep
    simp [hjob, hres]
  · by_cases hstop : (service.deleted || decide (service.spec.replicas = 0)) = true
    · refine .inr (.inl ?_)
      unfold reconcileStep
      rw [if_neg (by simp [hjob]), if_neg hres, if_pos hstop]
    · simp only [Bool.or_eq_true, decide_eq_true_eq, not_or, Bool.not_eq_true] at hstop hres
      have hpos : 0 < service.spec.replicas := by omega
      exact .inr (.inr ⟨hstop.1, hpos, hres, reconcileStep_eq hjob hstop.1 hpos hres⟩)

end Swarmlite
