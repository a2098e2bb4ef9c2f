import Swarmlite.Controller.PlacementSound

/-!
# A second pass changes nothing — `scheduler.rs`, `reconcile`

A scheduler pass looks at each service once, in id order, while later services still change what
earlier ones have seen. A second pass with the same live nodes nevertheless finds nothing to do.

* After its own turn a service is **at rest** (`AtRest`): none of its wanted tasks is misplaced or
  surplus, and either it has all the tasks it may have or no further one can be placed.
* The turn of another service leaves it at rest. Its tasks are not touched; retiring a task
  changes what is desired of it and not what is observed, so no port and no room comes free; and a
  new task only takes ports.
* A service at rest is passed over, and so is a task that was not given up.

Start-first updates (`max_surge > 0`) are essential: a stop-first update gives up one old task in
every pass.
-/

namespace Swarmlite

open Ordered Relation

variable {live : Keys String} {svc : ServiceRecord} {s s' : ClusterState} {state : ClusterState}
  {acc : Sched}

/-! ## At rest -/

/-- The service has the tasks it asks for, or cannot get more of them now. -/
structure Supplied (live : Keys String) (state : ClusterState) (service : ServiceRecord) :
    Prop where
  placed : ∀ task ∈ state.tasks, violatesConstraints state service task = true →
    task.desired ≠ .running
  current : state.tasks.count (currentRunning service live) ≤ service.spec.replicas
  old : (oldTasks service live state).length ≤ service.spec.replicas
    - state.tasks.count fun task => currentRunning service live task && serving task
  creation : creationBudget service live state = 0
    ∨ ∀ id, scheduleTask state service live id = none

/-- The turn of the service would change nothing. -/
structure AtRest (live : Keys String) (state : ClusterState) (service : ServiceRecord) : Prop where
  stopped : restartActive state service.id = false →
    (service.deleted || decide (service.spec.replicas = 0)) = true →
      ∀ task ∈ state.tasks, task.serviceId = service.id → task.desired ≠ .running
  supplied : restartActive state service.id = false → service.deleted = false →
    0 < service.spec.replicas → Supplied live state service

/-! ## A service at rest is passed over -/

variable {service : ServiceRecord} {acc : Sched} {id : String}

theorem retireTask_idle (h : ∀ task ∈ acc.state.tasks, task.id = id → task.desired ≠ .running) :
    retireTask service acc id = acc := by
  have htas : acc.state.tasks.modify id
      (retireRecord (isServiceHttpRouted acc.state service)) (retireRecord_id _)
        = acc.state.tasks := by
    refine Table.modify_eq_self fun task hget => ?_
    obtain ⟨hmem, hid⟩ := Table.get?_eq_some.mp hget
    exact if_neg (h task hmem hid)
  have hcha : ((acc.state.tasks.get? id).any fun task => task.desired = .running) = false := by
    cases hget : acc.state.tasks.get? id with
    | none => rfl
    | some task =>
      obtain ⟨hmem, hid⟩ := Table.get?_eq_some.mp hget
      exact decide_eq_false (h task hmem hid)
  unfold retireTask
  dsimp only
  rw [htas, hcha, Bool.or_false]
  rfl

theorem retireTasks_idle {tasks : List TaskRecord}
    (h : ∀ task ∈ tasks, task ∈ acc.state.tasks ∧ task.desired ≠ .running) :
    retireTasks service acc tasks = acc := by
  unfold retireTasks
  induction tasks with
  | nil => rfl
  | cons task rest ih =>
    obtain ⟨hmem, hdone⟩ := h task (List.mem_cons_self ..)
    have hidle : retireTask service acc task.id = acc := by
      refine retireTask_idle fun other hoth hid => ?_
      rw [Table.eq_of_key hoth hmem hid]
      exact hdone
    rw [List.map_cons, List.foldl_cons, hidle]
    exact ih fun other hoth => h other (List.mem_cons_of_mem _ hoth)

theorem createTasks_idle {uuid : Nat → String}
    {n : Nat} (h : n = 0 ∨ ∀ id, scheduleTask acc.state service live id = none) :
    createTasks service live uuid n acc = acc := by
  cases n with
  | zero => rfl
  | succ n =>
    rcases h with hzero | hnone
    · cases hzero
    · unfold createTasks
      rw [hnone]

/-- Only a stop-first update gives up an old task to make room. -/
theorem stopFirst_nil (hsur : 0 < service.spec.maxSurge)
    (live : Keys String) (state : ClusterState) : stopFirst service live state = [] := by
  unfold stopFirst
  have hne : service.spec.maxSurge ≠ 0 := by omega
  simp [hne]

section Supplied

variable {live : Keys String} {state : ClusterState} {service : ServiceRecord}

/-- With no wanted task misplaced, the settled tasks are all the current ones. -/
theorem Supplied.settledTasks_eq (h : Supplied live state service) :
    settledTasks service live state = state.tasks.rows.filter (currentRunning service live) := by
  unfold settledTasks
  refine List.filter_congr fun task htask => ?_
  cases hcur : currentRunning service live task with
  | false => rfl
  | true =>
    have hpla : violatesConstraints state service task = false := by
      rw [← Bool.not_eq_true]
      exact fun hvio => h.placed task htask hvio (currentRunning_running hcur)
    rw [hpla]
    rfl

theorem Supplied.length_settledTasks (h : Supplied live state service) :
    (settledTasks service live state).length ≤ service.spec.replicas := by
  rw [h.settledTasks_eq, ← List.countP_eq_length_filter]
  exact h.current

theorem Supplied.oldToKeep_eq (h : Supplied live state service) :
    oldToKeep service live state = service.spec.replicas
      - state.tasks.count fun task => currentRunning service live task && serving task := by
  unfold oldToKeep keptCurrent
  rw [List.take_of_length_le h.length_settledTasks, h.settledTasks_eq, List.countP_filter]
  unfold Table.count
  congr 2
  funext task
  exact Bool.and_comm ..

/-- What a supplied service would retire is not wanted any more. -/
theorem Supplied.surplusTasks (h : Supplied live state service) (hsur : 0 < service.spec.maxSurge) :
    ∀ task ∈ surplusTasks service live state, task ∈ state.tasks ∧ task.desired ≠ .running := by
  have hcur : (settledTasks service live state).drop service.spec.replicas = [] :=
    List.drop_eq_nil_of_le h.length_settledTasks
  have hold : (oldTasks service live state).drop (oldToKeep service live state) = [] := by
    refine List.drop_eq_nil_of_le ?_
    rw [h.oldToKeep_eq]
    exact h.old
  intro task htask
  unfold Swarmlite.surplusTasks at htask
  rw [hcur, hold, stopFirst_nil hsur, List.append_nil, List.append_nil, List.append_nil] at htask
  obtain ⟨hmem, hvio⟩ := List.mem_filter.mp htask
  exact ⟨hmem, h.placed task hmem hvio⟩

end Supplied

theorem AtRest.reconcileStep (h : AtRest live acc.state svc) (hjob : svc.spec.job = none)
    (hsur : 0 < svc.spec.maxSurge) (uuid : Nat → String) :
    reconcileStep live uuid acc svc = acc := by
  by_cases hres : restartActive acc.state svc.id = true
  · unfold Swarmlite.reconcileStep
    simp [hres]
  rw [Bool.not_eq_true] at hres
  by_cases hstop : (svc.deleted || decide (svc.spec.replicas = 0)) = true
  · unfold Swarmlite.reconcileStep stopAllServiceTasks
    rw [if_neg (by simp [hjob]), if_neg (by simp [hres]), if_pos hstop]
    refine retireTasks_idle fun task htask => ?_
    obtain ⟨hmem, hown⟩ := List.mem_filter.mp htask
    exact ⟨hmem, h.stopped hres hstop task hmem (of_decide_eq_true hown)⟩
  · simp only [Bool.or_eq_true, decide_eq_true_eq, not_or, Bool.not_eq_true] at hstop
    have hrep : 0 < svc.spec.replicas := by omega
    have hsup := h.supplied hres hstop.1 hrep
    have hret : retiredTurn svc live acc = acc := retireTasks_idle (hsup.surplusTasks hsur)
    rw [reconcileStep_eq hjob hstop.1 hrep hres, hret]
    exact createTasks_idle hsup.creation

/-! ## Other services leave it at rest -/

theorem scheduleTask_eq_none_iff : scheduleTask state svc live id = none ↔
      (∀ node ∈ state.nodes, eligibleNode state svc live node = false)
        ∨ freeSlot state svc = none := by
  unfold scheduleTask
  split
  next hhead =>
    refine iff_of_true rfl (.inl fun node hnode => ?_)
    rw [← Bool.not_eq_true]
    intro helig
    have hmem := mem_candidates.mpr ⟨hnode, helig⟩
    rw [List.head?_eq_none_iff.mp hhead] at hmem
    cases hmem
  next node hhead =>
    obtain ⟨hnode, helig⟩ := mem_candidates.mp (List.mem_of_head? hhead)
    rw [Option.map_eq_none_iff]
    constructor
    · exact .inr
    · intro h
      rcases h with hnone | hslot
      · rw [hnone node hnode] at helig
        cases helig
      · exact hslot

/-- What the turn of another service does to the view of a service: its tasks are the same and
ports are only taken. -/
structure LeftAlone (service : ServiceRecord) (s s' : ClusterState) : Prop where
  frame : s' = s.withTasks s'.tasks
  own : ∀ task : TaskRecord, task.serviceId = service.id → (task ∈ s'.tasks ↔ task ∈ s.tasks)
  ports : ∀ nodeId pair, pair ∈ usedPorts s nodeId → pair ∈ usedPorts s' nodeId

section LeftAlone

variable {live : Keys String} {service : ServiceRecord} {s s' : ClusterState}
  {p : TaskRecord → Bool}

theorem LeftAlone.count (h : LeftAlone service s s')
    (hp : ∀ task, p task = true → task.serviceId = service.id) :
    s'.tasks.count p = s.tasks.count p :=
  Table.count_eq_of_mem_iff fun task htask => h.own task (hp task htask)

theorem LeftAlone.filter (h : LeftAlone service s s')
    (hp : ∀ task, p task = true → task.serviceId = service.id) :
    s'.tasks.rows.filter p = s.tasks.rows.filter p :=
  Table.filter_rows_congr fun task htask => h.own task (hp task htask)

theorem LeftAlone.nodes (h : LeftAlone service s s') : s'.nodes = s.nodes := by
  rw [h.frame]
  rfl

theorem LeftAlone.restartActive (h : LeftAlone service s s') :
    restartActive s' service.id = restartActive s service.id := by
  rw [h.frame]
  rfl

theorem LeftAlone.violatesConstraints (h : LeftAlone service s s') (task : TaskRecord) :
    violatesConstraints s' service task = violatesConstraints s service task := by
  rw [h.frame]
  rfl

theorem occupiesNode_own {nodeId : String} (task : TaskRecord)
    (h : occupiesNode service nodeId task = true) : task.serviceId = service.id := by
  unfold occupiesNode at h
  simp only [Bool.and_eq_true, decide_eq_true_eq] at h
  exact h.1.2

theorem oldRunningOnNode_own {nodeId : String} (task : TaskRecord)
    (h : oldRunningOnNode service nodeId task = true) : task.serviceId = service.id := by
  unfold oldRunningOnNode at h
  simp only [Bool.and_eq_true, decide_eq_true_eq] at h
  exact h.1.1.1.2

theorem occupying_own (task : TaskRecord) (h : occupying service live task = true) :
    task.serviceId = service.id := by
  unfold occupying at h
  simp only [Bool.and_eq_true, decide_eq_true_eq] at h
  exact h.1.1

theorem holdsSlot_own (task : TaskRecord) (h : holdsSlot service task = true) :
    task.serviceId = service.id := by
  unfold holdsSlot at h
  simp only [Bool.and_eq_true, decide_eq_true_eq] at h
  exact h.1.1

/-- A node that is eligible afterwards was eligible before. -/
theorem LeftAlone.eligibleNode (h : LeftAlone service s s') {node : NodeRecord}
    (helig : eligibleNode s' service live node = true) :
    eligibleNode s service live node = true := by
  have hpin : pinnedOperation s' service = pinnedOperation s service := by
    rw [h.frame]
    rfl
  have hcap : nodeHasReplicaCapacity s' node service = nodeHasReplicaCapacity s node service := by
    unfold nodeHasReplicaCapacity
    rw [h.count occupiesNode_own, h.count oldRunningOnNode_own]
  unfold Swarmlite.eligibleNode at helig ⊢
  rw [hpin, hcap, Bool.and_eq_true] at helig
  rw [Bool.and_eq_true]
  refine ⟨helig.1, explicitPortsAvailable_iff.mpr fun pair hpair hused => ?_⟩
  exact explicitPortsAvailable_iff.mp helig.2 pair hpair (h.ports node.id pair hused)

theorem LeftAlone.scheduleTask_none (h : LeftAlone service s s')
    (hnone : scheduleTask s service live id = none) :
    scheduleTask s' service live id = none := by
  have hslo : freeSlot s' service = freeSlot s service := by
    unfold freeSlot usedSlots
    rw [h.filter holdsSlot_own]
  rw [scheduleTask_eq_none_iff] at hnone ⊢
  rw [hslo, h.nodes]
  rcases hnone with hnod | hslot
  · refine .inl fun node hnode => ?_
    rw [← Bool.not_eq_true]
    intro helig
    have hbef := h.eligibleNode helig
    rw [hnod node hnode] at hbef
    cases hbef
  · exact .inr hslot

theorem LeftAlone.creationBudget (h : LeftAlone service s s') :
    creationBudget service live s' = creationBudget service live s := by
  have hold : s'.tasks.rows.any (oldRunning service live)
      = s.tasks.rows.any (oldRunning service live) :=
    Table.rows_any_congr fun task htask => h.own task (oldRunning_serviceId htask)
  unfold Swarmlite.creationBudget
  rw [hold, h.count occupying_own, h.count fun _ => currentRunning_serviceId]

theorem AtRest.leftAlone (hrest : AtRest live s service) (h : LeftAlone service s s') :
    AtRest live s' service := by
  refine ⟨?_, ?_⟩
  · intro hres hstop task htask hown
    rw [h.restartActive] at hres
    exact hrest.stopped hres hstop task ((h.own task hown).mp htask) hown
  · intro hres hact hrep
    rw [h.restartActive] at hres
    have hsup := hrest.supplied hres hact hrep
    refine ⟨?_, ?_, ?_, ?_⟩
    · intro task htask hvio
      rw [h.violatesConstraints] at hvio
      have hown : task.serviceId = service.id := by
        unfold Swarmlite.violatesConstraints at hvio
        simp only [Bool.and_eq_true, decide_eq_true_eq] at hvio
        exact hvio.1.1.1
      exact hsup.placed task ((h.own task hown).mp htask) hvio
    · rw [h.count fun _ => currentRunning_serviceId]
      exact hsup.current
    · have hold : oldTasks service live s' = oldTasks service live s :=
        h.filter fun _ => oldRunning_serviceId
      have hser : ∀ task, (currentRunning service live task && serving task) = true →
          task.serviceId = service.id := by
        intro task htask
        rw [Bool.and_eq_true] at htask
        exact currentRunning_serviceId htask.1
      rw [hold, h.count hser]
      exact hsup.old
    · rw [h.creationBudget]
      rcases hsup.creation with hzero | hnone
      · exact .inl hzero
      · exact .inr fun id => h.scheduleTask_none (hnone id)

end LeftAlone

theorem retireIf_frame (routed : Bool) (ids : List String) (task : TaskRecord) :
    (retireIf routed ids task).nodeId = task.nodeId
      ∧ (retireIf routed ids task).observed = task.observed
      ∧ (retireIf routed ids task).ports = task.ports
      ∧ (retireIf routed ids task).job = task.job := by
  unfold retireIf retireRecord
  split
  · split
    · exact ⟨rfl, rfl, rfl, rfl⟩
    · exact ⟨rfl, rfl, rfl, rfl⟩
  · exact ⟨rfl, rfl, rfl, rfl⟩

theorem ServiceMove.leftAlone {other svc : ServiceRecord} (h : ServiceMove live other s s')
    (hne : other.id ≠ svc.id) :
    LeftAlone svc s s' := by
  have hown : ∀ task : TaskRecord, task.serviceId = svc.id →
      (task ∈ s'.tasks ↔ task ∈ s.tasks) := by
    intro task hser
    exact h.mem_other fun hoth => hne (hoth.symm.trans hser)
  cases h with
  | retire ids _ _ _ =>
    refine ⟨rfl, hown, ?_⟩
    intro nodeId pair hpair
    rw [mem_usedPorts] at hpair ⊢
    refine hpair.imp ?_ id
    intro hused
    obtain ⟨task, htask, hnode, hobs, hpor⟩ := hused
    obtain ⟨hn, ho, hp, -⟩ := retireIf_frame (isServiceHttpRouted s other) ids task
    refine ⟨_, Table.mem_map_of_mem (retireIf_id _ _) htask, hn.trans hnode, ?_, ?_⟩
    · rw [ho]
      exact hobs
    · rw [hp]
      exact hpor
  | replica freshId new _ _ _ hfre hsch =>
    refine ⟨rfl, hown, ?_⟩
    intro nodeId pair hpair
    obtain ⟨node, slot, -, -, -, -, rfl⟩ := scheduleTask_some hsch
    rw [mem_usedPorts] at hpair ⊢
    refine hpair.imp ?_ id
    intro hused
    obtain ⟨task, htask, hpla⟩ := hused
    exact ⟨task, Table.mem_insert.mpr
      (.inr ⟨htask, Table.contains_eq_false.mp hfre task htask⟩), hpla⟩

/-! ## Nothing is left to give up -/

/-- No task is on a dead node or failed and still wanted, restarts apart. -/
def NoneGivenUp (live : Keys String) (state : ClusterState) : Prop :=
  ∀ task ∈ state.tasks, givenUp state live task = false

theorem noneGivenUp_giveUpTasks (live : Keys String) (acc : Sched) :
    NoneGivenUp live (giveUpTasks live acc).state := by
  intro task htask
  obtain ⟨old, -, rfl⟩ := mem_giveUpTasks.mp htask
  unfold giveUp
  split
  · simp [givenUp]
  next h => exact Bool.eq_false_iff.mpr h

theorem giveUpTasks_idle (h : NoneGivenUp live acc.state) : giveUpTasks live acc = acc := by
  have htas : acc.state.tasks.map (giveUp acc.state live) (giveUp_id acc.state live)
      = acc.state.tasks := by
    refine Table.map_eq_self fun task htask => ?_
    unfold giveUp
    rw [h task htask, if_neg Bool.false_ne_true]
  have hcha : acc.state.tasks.rows.any (givenUp acc.state live) = false := by
    rw [List.any_eq_false]
    intro task htask
    rw [h task htask]
    exact Bool.false_ne_true
  unfold giveUpTasks
  rw [htas, hcha, Bool.or_false]
  rfl

/-- Retiring a task gives nothing up that was not given up before. -/
theorem givenUp_of_retireIf {routed : Bool} {ids : List String} {task : TaskRecord}
    (h : givenUp state live (retireIf routed ids task) = true) :
    givenUp state live task = true := by
  obtain ⟨hnode, hobs, -, hjob⟩ := retireIf_frame routed ids task
  unfold givenUp at h ⊢
  rw [hnode, hobs, hjob, retireIf_id] at h
  simp only [Bool.and_eq_true] at h ⊢
  refine ⟨⟨h.1.1, ?_⟩, h.2⟩
  have hdes := h.1.2
  unfold retireIf retireRecord at hdes
  split at hdes
  · split at hdes
    next hrun => simp [hrun]
    · exact hdes
  · exact hdes

theorem ServiceMove.noneGivenUp (h : ServiceMove live svc s s') (hnone : NoneGivenUp live s) :
    NoneGivenUp live s' := by
  cases h with
  | retire ids _ _ _ =>
    intro task htask
    rw [ClusterState.withTasks_tasks, Table.mem_map] at htask
    obtain ⟨old, hold, rfl⟩ := htask
    rw [← Bool.not_eq_true]
    intro hgiv
    have hbef : givenUp s live old = true :=
      (givenUp_congr rfl old).symm.trans (givenUp_of_retireIf hgiv)
    rw [hnone old hold] at hbef
    cases hbef
  | replica freshId new _ _ _ _ hsch =>
    intro task htask
    rcases Table.mem_insert.mp htask with rfl | ⟨hold, -⟩
    · -- a new task waits on a live node
      have hrep := scheduleTask_isReplica hsch
      unfold givenUp
      simp [hrep.live, hrep.observed, ObservedTaskState.isFailedOrLost]
    · exact (givenUp_congr rfl task).trans (hnone task hold)

/-! ## After its own turn a service is at rest -/

theorem count_eq_length {κ ρ : Type} [LinearOrder κ] {key : ρ → κ} {t : Table key}
    {p : ρ → Bool} {l : List ρ} (hnod : l.Nodup) (h : ∀ r, r ∈ l ↔ r ∈ t ∧ p r = true) :
    t.count p = l.length := by
  unfold Table.count
  rw [List.countP_eq_length_filter]
  refine ((List.perm_ext_iff_of_nodup (t.rows_nodup.filter p) hnod).mpr fun r => ?_).length_eq
  rw [List.mem_filter, h]
  exact Iff.rfl

section Turn

variable {live : Keys String} {uuid : Nat → String} {acc : Sched} {service : ServiceRecord}

variable {task : TaskRecord} {left : Nat}

/-- No wanted task is misplaced once the surplus is retired. -/
theorem retiredTurn_placed
    (hmem : task ∈ (retiredTurn service live acc).state.tasks) (hrun : task.desired = .running) :
    violatesConstraints acc.state service task = false := by
  obtain ⟨hbef, hsur⟩ := (mem_retiredTurn_running hrun).mp hmem
  rw [← Bool.not_eq_true]
  intro hvio
  refine hsur (List.mem_map_of_mem ?_)
  unfold surplusTasks
  exact List.mem_append_left _ (List.mem_append_left _ (List.mem_append_left _
    (List.mem_filter.mpr ⟨hbef, hvio⟩)))

/-- The wanted tasks left after retiring the surplus are the kept ones. -/
theorem mem_retiredTurn_kept (hsurg : 0 < service.spec.maxSurge)
    (hrun : runningLive service live task = true) :
    task ∈ (retiredTurn service live acc).state.tasks ↔
      task ∈ keptCurrent service live acc.state ++ keptOld service live acc.state := by
  have hrunn := (runningLive_iff.mp hrun).2.1
  have hnone : task ∉ stopFirst service live acc.state := by
    rw [stopFirst_nil hsurg]
    exact List.not_mem_nil
  constructor
  · intro hmem
    obtain ⟨hbef, hsur⟩ := (mem_retiredTurn_running hrunn).mp hmem
    exact ((not_surplus_iff hbef hrun (retiredTurn_placed hmem hrunn)).mp hsur).1
  · intro hkept
    have hplac : task ∈ acc.state.tasks ∧ violatesConstraints acc.state service task = false := by
      rcases List.mem_append.mp hkept with hcur | hold
      · obtain ⟨hmem, -, hpla⟩ := mem_settledTasks.mp (List.mem_of_mem_take hcur)
        exact ⟨hmem, hpla⟩
      · obtain ⟨hmem, hrev⟩ := mem_oldTasks.mp (List.mem_of_mem_take hold)
        refine ⟨hmem, ?_⟩
        unfold violatesConstraints
        simp [(oldRunning_iff.mp hrev).2]
    exact (mem_retiredTurn_running hrunn).mpr
      ⟨hplac.1, (not_surplus_iff hplac.1 hrun hplac.2).mpr ⟨hkept, hnone⟩⟩

theorem mem_keptCurrent_iff (hsur : 0 < service.spec.maxSurge) (task : TaskRecord) :
    task ∈ keptCurrent service live acc.state ↔ task ∈ (retiredTurn service live acc).state.tasks
        ∧ currentRunning service live task = true := by
  constructor
  · intro hkept
    obtain ⟨-, hcur, -⟩ := mem_settledTasks.mp (List.mem_of_mem_take hkept)
    exact ⟨(mem_retiredTurn_kept hsur (currentRunning_iff.mp hcur).1).mpr
      (List.mem_append_left _ hkept), hcur⟩
  · intro h
    obtain ⟨hrun, hrev⟩ := currentRunning_iff.mp h.2
    rcases List.mem_append.mp ((mem_retiredTurn_kept hsur hrun).mp h.1) with hcur | hold
    · exact hcur
    · obtain ⟨-, holde⟩ := mem_oldTasks.mp (List.mem_of_mem_take hold)
      exact absurd hrev (oldRunning_iff.mp holde).2

theorem mem_keptOld_iff (hsur : 0 < service.spec.maxSurge) (task : TaskRecord) :
    task ∈ keptOld service live acc.state ↔
      task ∈ (retiredTurn service live acc).state.tasks ∧ oldRunning service live task = true := by
  constructor
  · intro hkept
    obtain ⟨-, hold⟩ := mem_oldTasks.mp (List.mem_of_mem_take hkept)
    exact ⟨(mem_retiredTurn_kept hsur (oldRunning_iff.mp hold).1).mpr
      (List.mem_append_right _ hkept), hold⟩
  · intro h
    obtain ⟨hrun, hrev⟩ := oldRunning_iff.mp h.2
    rcases List.mem_append.mp ((mem_retiredTurn_kept hsur hrun).mp h.1) with hcur | hold
    · obtain ⟨-, hsame, -⟩ := mem_settledTasks.mp (List.mem_of_mem_take hcur)
      exact absurd (currentRunning_iff.mp hsame).2 hrev
    · exact hold

theorem keptCurrent_nodup (state : ClusterState) : (keptCurrent service live state).Nodup :=
  (state.tasks.rows_nodup.filter _).sublist (List.take_sublist _ _)

theorem keptOld_nodup (state : ClusterState) : (keptOld service live state).Nodup :=
  (state.tasks.rows_nodup.filter _).sublist (List.take_sublist _ _)

/-- The creation loop: each new task counts as current and takes room, and serves nobody yet. -/
structure Filling (service : ServiceRecord) (live : Keys String) (uuid : Nat → String)
    (base : Sched) (budget left : Nat) (acc : Sched) : Prop where
  fresh : Fresh uuid acc
  frame : acc.state = base.state.withTasks acc.state.tasks
  current : acc.state.tasks.count (currentRunning service live) + left
    = base.state.tasks.count (currentRunning service live) + budget
  occupying : acc.state.tasks.count (occupying service live) + left
    = base.state.tasks.count (occupying service live) + budget
  serving : acc.state.tasks.count (fun task => currentRunning service live task && serving task)
    = base.state.tasks.count fun task => currentRunning service live task && serving task

theorem Filling.step (huuid : Function.Injective uuid) {base : Sched} {budget : Nat}
    (h : Filling service live uuid base budget (left + 1) acc)
    (hsch : scheduleTask acc.state service live (uuid acc.minted) = some task) :
    Filling service live uuid base budget left
      { state := acc.state.withTasks (acc.state.tasks.insert task)
        changed := true
        minted := acc.minted + 1 } := by
  have hid : task.id = uuid acc.minted := by
    obtain ⟨node, slot, -, -, -, -, rfl⟩ := scheduleTask_some hsch
    rfl
  have hnew : ∀ other ∈ acc.state.tasks, other.id ≠ task.id :=
    Table.contains_eq_false.mp (hid.symm ▸ h.fresh acc.minted (Nat.le_refl _))
  have hrep := scheduleTask_isReplica hsch
  have hcur : currentRunning service live task = true := currentRunning_iff.mpr ⟨runningLive_iff.mpr
      ⟨hrep.serviceId, hrep.desired, hrep.live⟩, hrep.revision⟩
  have hocc : Swarmlite.occupying service live task = true := by
    unfold Swarmlite.occupying
    simp [hrep.serviceId, hrep.live, hrep.observed, ObservedTaskState.isFailedOrLost]
  have hser : Swarmlite.serving task = false := by
    unfold Swarmlite.serving
    simp [hrep.observed]
  refine ⟨h.fresh.insert huuid hid rfl rfl, ?_, ?_, ?_, ?_⟩
  · rw [h.frame]
    rfl
  · have hcou := h.current
    rw [ClusterState.withTasks_tasks, Table.count_insert hnew, hcur]
    simp only [if_true]
    omega
  · have hcou := h.occupying
    rw [ClusterState.withTasks_tasks, Table.count_insert hnew, hocc]
    simp only [if_true]
    omega
  · rw [ClusterState.withTasks_tasks, Table.count_insert hnew, hser, Bool.and_false,
      if_neg Bool.false_ne_true, Nat.add_zero]
    exact h.serving

/-- What is left of the budget when the loop ends is the budget of the state it ends in. -/
theorem Filling.creationBudget {base turn : Sched}
    (h : Filling service live uuid base (creationBudget service live base.state) left turn)
    (hleft : left ≤ creationBudget service live base.state)
    (hold : turn.state.tasks.rows.any (oldRunning service live)
      = base.state.tasks.rows.any (oldRunning service live)) :
    creationBudget service live turn.state = left := by
  have hcur := h.current
  have hocc := h.occupying
  unfold Swarmlite.creationBudget at hleft hcur hocc ⊢
  rw [hold]
  dsimp only at hleft hcur hocc ⊢
  omega

/-- What the loop ends with, in terms of the state after retiring. -/
structure Turned (live : Keys String) (service : ServiceRecord) (base turn : ClusterState) :
    Prop where
  keeps : ∀ task ∈ base.tasks, task ∈ turn.tasks
  adds : ∀ task ∈ turn.tasks, task ∈ base.tasks ∨ IsReplica base service live task

theorem Turned.mem_old {base turn : ClusterState} (h : Turned live service base turn)
    (hold : oldRunning service live task = true) :
    task ∈ turn.tasks ↔ task ∈ base.tasks := by
  refine ⟨fun hmem => ?_, h.keeps task⟩
  rcases h.adds task hmem with hbase | hnew
  · exact hbase
  · exact absurd hnew.revision (oldRunning_iff.mp hold).2

/-- A new task sits on a node that matches. -/
theorem IsReplica.not_violates
    (h : IsReplica state service live task) : violatesConstraints state service task = false := by
  obtain ⟨node, hnode, hid, hmat⟩ := h.matching
  unfold violatesConstraints
  rw [Table.get?_eq_some.mpr ⟨hnode, hid⟩]
  simp [hmat]

/-- The end of an undisturbed turn. -/
theorem Filling.supplied {turn : Sched} (hsur : 0 < service.spec.maxSurge)
    (h : Filling service live uuid (retiredTurn service live acc)
      (Swarmlite.creationBudget service live (retiredTurn service live acc).state) left turn)
    (htur : Turned live service (retiredTurn service live acc).state turn.state)
    (hleft : left ≤ Swarmlite.creationBudget service live (retiredTurn service live acc).state)
    (hend : left = 0 ∨ ∀ id, scheduleTask turn.state service live id = none) :
    Supplied live turn.state service := by
  have hfra : (retiredTurn service live acc).state
      = acc.state.withTasks (retiredTurn service live acc).state.tasks := by
    unfold retiredTurn
    rw [retireTasks_state]
    rfl
  have hcur : (retiredTurn service live acc).state.tasks.count (currentRunning service live)
      = (keptCurrent service live acc.state).length :=
    count_eq_length (keptCurrent_nodup acc.state) (mem_keptCurrent_iff hsur)
  have hkept : (keptCurrent service live acc.state).length ≤ service.spec.replicas := by
    unfold keptCurrent
    exact List.length_take_le _ _
  refine ⟨?_, ?_, ?_, ?_⟩
  · intro task hmem hvio hrun
    have hsame : violatesConstraints turn.state service task
        = violatesConstraints (retiredTurn service live acc).state service task := by
      rw [h.frame]
      rfl
    have hbef : violatesConstraints (retiredTurn service live acc).state service task
        = violatesConstraints acc.state service task := by
      rw [hfra]
      rfl
    rw [hsame] at hvio
    rcases htur.adds task hmem with hbase | hnew
    · rw [hbef, retiredTurn_placed hbase hrun] at hvio
      cases hvio
    · rw [hnew.not_violates] at hvio
      cases hvio
  · have hcou := h.current
    have hbud : Swarmlite.creationBudget service live (retiredTurn service live acc).state
        ≤ service.spec.replicas
          - (retiredTurn service live acc).state.tasks.count (currentRunning service live) := by
      unfold Swarmlite.creationBudget
      exact min_le_left _ _
    omega
  · -- the old tasks are those kept, and the serving current ones too
    have hold : (oldTasks service live turn.state).length
        = (keptOld service live acc.state).length := by
      have hfil : oldTasks service live turn.state
          = oldTasks service live (retiredTurn service live acc).state :=
        Table.filter_rows_congr fun task htask => htur.mem_old htask
      rw [hfil, ← count_eq_length (keptOld_nodup acc.state) (mem_keptOld_iff hsur)]
      exact List.countP_eq_length_filter.symm
    have hser : (retiredTurn service live acc).state.tasks.count
          (fun task => currentRunning service live task && Swarmlite.serving task)
        = (keptCurrent service live acc.state).countP Swarmlite.serving := by
      rw [List.countP_eq_length_filter]
      refine count_eq_length ((keptCurrent_nodup acc.state).filter _) fun task => ?_
      rw [List.mem_filter, mem_keptCurrent_iff hsur, Bool.and_eq_true, and_assoc]
    rw [hold, h.serving, hser]
    unfold keptOld oldToKeep
    exact List.length_take_le _ _
  · rw [h.creationBudget hleft (Table.rows_any_congr fun task htask => htur.mem_old htask)]
    exact hend

theorem atRest_turn (huuid : Function.Injective uuid) (hfre : Fresh uuid acc)
    (hjob : service.spec.job = none) (hsur : 0 < service.spec.maxSurge) :
    AtRest live (reconcileStep live uuid acc service).state service := by
  by_cases hres : restartActive acc.state service.id = true
  · have hskip : reconcileStep live uuid acc service = acc := by
      unfold reconcileStep
      simp [hres]
    rw [hskip]
    refine ⟨fun hnot => ?_, fun hnot => ?_⟩
    · rw [hres] at hnot
      cases hnot
    · rw [hres] at hnot
      cases hnot
  rw [Bool.not_eq_true] at hres
  by_cases hstop : (service.deleted || decide (service.spec.replicas = 0)) = true
  · have hstep : reconcileStep live uuid acc service = stopAllServiceTasks service acc := by
      unfold reconcileStep
      rw [if_neg (by simp [hjob]), if_neg (by simp [hres]), if_pos hstop]
    rw [hstep]
    refine ⟨fun _ _ task hmem hown hrun => ?_, fun _ hact hrep => ?_⟩
    · unfold stopAllServiceTasks at hmem
      obtain ⟨hbef, hnot⟩ := (mem_retireTasks_running hrun).mp hmem
      exact hnot (List.mem_map_of_mem (List.mem_filter.mpr ⟨hbef, decide_eq_true hown⟩))
    · simp only [hact, Bool.false_or, decide_eq_true_eq] at hstop
      omega
  · have hnot : ¬ (service.deleted || decide (service.spec.replicas = 0)) = true := hstop
    simp only [Bool.or_eq_true, decide_eq_true_eq, not_or, Bool.not_eq_true] at hstop
    have hrep : 0 < service.spec.replicas := by omega
    refine ⟨fun _ hyes => absurd hyes hnot, fun _ _ _ => ?_⟩
    rw [reconcileStep_eq hjob hstop.1 hrep hres]
    have hfreR := retiredTurn_fresh live service hfre
    have hsta : Filling service live uuid (retiredTurn service live acc)
        (creationBudget service live (retiredTurn service live acc).state)
        (creationBudget service live (retiredTurn service live acc).state)
        (retiredTurn service live acc) := ⟨hfreR, rfl, rfl, rfl, rfl⟩
    obtain ⟨left, hleft, hdone, hend⟩ := createTasks_spec
      (P := Filling service live uuid (retiredTurn service live acc) _)
      (fun _ _ _ h hsch => h.step huuid hsch) _ _ hsta
    refine hdone.supplied hsur ⟨fun task hmem => mem_createTasks_of_mem huuid hfreR hmem,
        fun task hmem => mem_createTasks hmem⟩ hleft (hend.imp id fun hnone id => ?_)
    exact scheduleTask_eq_none_iff.mpr (scheduleTask_eq_none_iff.mp hnone)

end Turn

/-! ## Without jobs -/

structure NoJobs (state : ClusterState) : Prop where
  services : ∀ service ∈ state.services, service.spec.job = none
  tasks : ∀ task ∈ state.tasks, task.job = none

theorem pruneFinished_idle (h : ∀ task ∈ acc.state.tasks, task.job = none)
    (serviceId : String) : Jobs.pruneFinished acc serviceId = acc := by
  have hnone : Jobs.finishedExecutions acc.state serviceId = [] := by
    refine List.eq_nil_iff_forall_not_mem.mpr fun entry hent => ?_
    obtain ⟨task, htask, job, hjob, _⟩ := mem_finishedExecutions.mp hent
    rw [h task htask] at hjob
    cases hjob
  unfold Jobs.pruneFinished
  simp only [hnone, List.length_nil, List.take_nil, List.foldl_nil, List.isEmpty_nil, Bool.not_true,
    Bool.or_false]
  rfl

theorem jobsReconcile_idle (ext : Externals) (uuid : Nat → String) (live : Keys String) (now : Int)
    (h : NoJobs acc.state) : Jobs.reconcile ext uuid live now acc = acc := by
  have hstep : ∀ task ∈ acc.state.tasks, Jobs.stopExpired acc.state live now task = task := by
    intro task htask
    unfold Jobs.stopExpired
    rw [h.tasks task htask]
  have hsto : Jobs.stopExpiredTasks acc live now = acc := by
    have hany : (acc.state.tasks.rows.any fun task =>
        Jobs.stopExpired acc.state live now task != task) = false := by
      rw [List.any_eq_false]
      intro task htask
      rw [hstep task htask]
      simp
    unfold Jobs.stopExpiredTasks
    dsimp only
    rw [Table.map_eq_self hstep, hany, Bool.or_false]
    rfl
  have hdue : (acc.state.services.rows.filter fun service =>
      !service.deleted && service.spec.job.isSome) = [] := by
    rw [List.filter_eq_nil_iff]
    intro service hser
    rw [h.services service hser]
    simp
  unfold Jobs.reconcile
  dsimp only
  rw [hsto, hdue, List.foldl_nil]
  generalize acc.state.services.rows.map ServiceRecord.id = ids
  induction ids with
  | nil => rfl
  | cons id ids ih =>
    rw [List.foldl_cons, pruneFinished_idle h.tasks]
    exact ih

theorem ServiceMove.noJobs (h : ServiceMove live svc s s') (hjobs : NoJobs s) : NoJobs s' := by
  cases h with
  | retire ids _ _ _ =>
    refine ⟨hjobs.services, fun task htask => ?_⟩
    rw [ClusterState.withTasks_tasks, Table.mem_map] at htask
    obtain ⟨old, hold, rfl⟩ := htask
    exact (retireIf_frame _ ids old).2.2.2.trans (hjobs.tasks old hold)
  | replica freshId new _ _ _ _ hsch =>
    refine ⟨hjobs.services, fun task htask => ?_⟩
    rcases Table.mem_insert.mp htask with rfl | ⟨hold, -⟩
    · exact (scheduleTask_isReplica hsch).job
    · exact hjobs.tasks task hold

theorem ServiceMove.services (h : ServiceMove live svc s s') : s'.services = s.services := by
  cases h with
  | retire ids _ _ _ | replica freshId new _ _ _ _ _ => rfl

/-! ## The pass -/

/-- The loop over the services: those that had their turn are at rest and stay so. -/
theorem foldl_atRest {uuid : Nat → String} (huuid : Function.Injective uuid)
    (todo : List ServiceRecord) :
    ∀ (done : List ServiceRecord) (acc : Sched), Fresh uuid acc → NoJobs acc.state →
      NoneGivenUp live acc.state →
      (∀ svc ∈ todo, svc ∈ acc.state.services ∧ 0 < svc.spec.maxSurge) →
      (done ++ todo).Pairwise (fun a b => a.id ≠ b.id) →
      (∀ svc ∈ done, AtRest live acc.state svc) →
      NoJobs (todo.foldl (reconcileStep live uuid) acc).state
        ∧ NoneGivenUp live (todo.foldl (reconcileStep live uuid) acc).state
        ∧ (todo.foldl (reconcileStep live uuid) acc).state.services = acc.state.services
        ∧ ∀ svc ∈ done ++ todo,
          AtRest live (todo.foldl (reconcileStep live uuid) acc).state svc := by
  induction todo with
  | nil =>
    intro done acc _ hjobs hnone _ _ hrest
    rw [List.append_nil]
    exact ⟨hjobs, hnone, rfl, hrest⟩
  | cons svc todo ih =>
    intro done acc hfre hjobs hnone htodo hids hrest
    obtain ⟨hser, hsur⟩ := htodo svc (List.mem_cons_self ..)
    have hjob := hjobs.services svc hser
    obtain ⟨hmov, hfre'⟩ := reconcileStep_advances live huuid hser hfre
    have hserv : (reconcileStep live uuid acc svc).state.services = acc.state.services :=
      keeps_of_step (P := fun s => s.services = acc.state.services)
        (fun _ _ move hs => move.services.trans hs) hmov rfl
    have hspl : done ++ svc :: todo = (done ++ [svc]) ++ todo := by
      rw [List.append_assoc]
      rfl
    rw [hspl] at hids ⊢
    rw [List.foldl_cons]
    obtain ⟨hjobs'', hnone'', hserv'', hrest''⟩ := ih (done ++ [svc])
      (reconcileStep live uuid acc svc) hfre'
      (keeps_of_step (fun _ _ move hs => move.noJobs hs) hmov hjobs)
      (keeps_of_step (fun _ _ move hs => move.noneGivenUp hs) hmov hnone)
      (fun other hoth => by
        rw [hserv]
        exact htodo other (List.mem_cons_of_mem _ hoth))
      hids
      (fun other hoth => by
        rcases List.mem_append.mp hoth with hbef | hself
        · -- an earlier svc, which this turn leaves alone
          have hne : svc.id ≠ other.id := by
            have hpai := (List.pairwise_append.mp (List.pairwise_append.mp hids).1).2.2
            exact (hpai other hbef svc (List.mem_singleton_self _)).symm
          exact keeps_of_step (P := fun s => AtRest live s other)
            (fun _ _ move hs => hs.leftAlone (move.leftAlone hne)) hmov (hrest other hbef)
        · rw [List.mem_singleton.mp hself]
          exact atRest_turn huuid hfre hjob hsur)
    exact ⟨hjobs'', hnone'', hserv''.trans hserv, hrest''⟩

/-- **Reconcile is idempotent**: without jobs and with start-first updates, a second pass over the
same live nodes reports no change and leaves the state as it is. -/
theorem reconcile_idempotent (ext : Externals) {uuid : Nat → String}
    (huuid : Function.Injective uuid) (uuid' : Nat → String) (live : Keys String) (now now' : Int)
    {state : ClusterState} (hfresh : Fresh uuid { state }) (hjobs : NoJobs state)
    (hsurge : ∀ service ∈ state.services, 0 < service.spec.maxSurge) :
    (reconcile ext uuid' live now' (reconcile ext uuid live now state).state).changed = false
      ∧ (reconcile ext uuid' live now' (reconcile ext uuid live now state).state).state
        = (reconcile ext uuid live now state).state := by
  have hjobl : Jobs.reconcile ext uuid live now { state } = { state } :=
    jobsReconcile_idle ext uuid live now hjobs
  have hsta : passStart ext uuid live now state = giveUpTasks live { state } := by
    unfold passStart
    rw [hjobl]
  have hpass : NoJobs (giveUpTasks live { state }).state := by
    refine ⟨hjobs.services, fun task htask => ?_⟩
    obtain ⟨old, hold, rfl⟩ := mem_giveUpTasks.mp htask
    have hjob := hjobs.tasks old hold
    unfold giveUp
    split
    · exact hjob
    · exact hjob
  have hfreP : Fresh uuid (giveUpTasks live { state }) := by
    rw [← hsta]
    exact (passStart_advances ext huuid now state hfresh).2
  have hfir : reconcile ext uuid live now state
      = state.services.rows.foldl (reconcileStep live uuid) (giveUpTasks live { state }) := by
    unfold reconcile
    rw [hjobl]
    rfl
  obtain ⟨hjobs', hnone, hserv, hrest⟩ := foldl_atRest huuid state.services.rows []
    (giveUpTasks live { state }) hfreP hpass (noneGivenUp_giveUpTasks live { state })
    (fun service hser => ⟨hser, hsurge service hser⟩)
    (state.services.sorted.imp fun h => ne_of_lt h) (fun _ hmem => absurd hmem List.not_mem_nil)
  rw [← hfir] at hjobs' hnone hserv hrest
  generalize reconcile ext uuid live now state = first at hjobs' hnone hserv hrest
  -- the second pass: no jobs, nothing to give up, and every service at rest
  have hsec : reconcile ext uuid' live now' first.state = { state := first.state } := by
    have hjobl' : Jobs.reconcile ext uuid' live now' { state := first.state }
        = { state := first.state } := jobsReconcile_idle ext uuid' live now' hjobs'
    have hgiv : giveUpTasks live { state := first.state } = { state := first.state } :=
      giveUpTasks_idle hnone
    unfold reconcile
    rw [hjobl', hgiv]
    have htur : ∀ services : List ServiceRecord, (∀ service ∈ services,
        service ∈ state.services) → services.foldl (reconcileStep live uuid')
          { state := first.state } = ({ state := first.state } : Sched) := by
      intro services hmem
      induction services with
      | nil => rfl
      | cons service services ih =>
        have hser := hmem service (List.mem_cons_self ..)
        have hidle : reconcileStep live uuid' { state := first.state } service
            = { state := first.state } :=
          @AtRest.reconcileStep live service { state := first.state } (hrest service hser)
            (hjobs.services service hser) (hsurge service hser) uuid'
        rw [List.foldl_cons, hidle]
        exact ih fun other hoth => hmem other (List.mem_cons_of_mem _ hoth)
    refine htur _ fun service hser => ?_
    have hrows : service ∈ first.state.services := hser
    rw [hserv] at hrows
    exact hrows
  rw [hsec]
  exact ⟨rfl, rfl⟩

/-- One replica is created in the first pass, and nothing happens in the second. -/
theorem reconcile_idempotent_limited :
    (limitedPass 1).tasks.rows.length = 1
      ∧ (reconcile ⟨fun spec => spec.image, fun _ _ => none⟩ unaryId (Keys.ofElems ["n1"]) 1
        (limitedPass 1)).changed = false
      ∧ (reconcile ⟨fun spec => spec.image, fun _ _ => none⟩ unaryId (Keys.ofElems ["n1"]) 1
        (limitedPass 1)).state = limitedPass 1 := by
  refine ⟨by decide +kernel, ?_⟩
  refine reconcile_idempotent _ unaryId_injective unaryId (Keys.ofElems ["n1"]) 0 1
    (fresh_unaryId (by decide +kernel)) ⟨?_, fun task htask => absurd htask Table.mem_empty⟩ ?_
  · intro service hser
    rw [List.mem_singleton.mp (show service ∈ [limitedService 1] from hser)]
    rfl
  · intro service hser
    rw [List.mem_singleton.mp (show service ∈ [limitedService 1] from hser)]
    exact Nat.one_pos

end Swarmlite
