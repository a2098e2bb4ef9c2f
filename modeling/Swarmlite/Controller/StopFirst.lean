import Swarmlite.Controller.PlacementSound

/-!
# Stop-first updates

With `max_surge = 0` a turn gives up one old task before it starts a
replacement. It does so in every turn in which an old task is left and the new
revision is not complete, whether or not the slot freed by an earlier turn has
been filled: `R - 1` wanted tasks are guaranteed only if each call finds the
freed slot either filled or ready to be filled at once (`FreedSlotServed`).
The runs here are calls of `reconcile` with node reports between them
(`UpdateRun`).
-/

namespace Swarmlite

open Ordered Relation

variable {ext : Externals} {uuid : Nat → String} {live : Keys String} {now : Int}
  {task : TaskRecord}

/-- A task of the service, of any revision, that is to run. -/
def wantedBy (service : ServiceRecord) (task : TaskRecord) : Bool :=
  task.serviceId = service.id && task.desired = .running

theorem wantedBy_iff {svc : ServiceRecord} :
    wantedBy svc task = true ↔ task.serviceId = svc.id ∧ task.desired = .running := by
  unfold wantedBy
  simp only [Bool.and_eq_true, decide_eq_true_eq]

/-! ## What a turn keeps -/

theorem stopFirst_eq_take (svc : ServiceRecord) (live : Keys String) (state : ClusterState) :
    stopFirst svc live state = (keptOld svc live state).take (stopFirst svc live state).length := by
  unfold stopFirst
  split
  · rw [List.length_take]
    cases keptOld svc live state with
    | nil => rfl
    | cons task rest => simp
  · rfl

theorem stopFirst_length_le (svc : ServiceRecord) (live : Keys String) (state : ClusterState) :
    (stopFirst svc live state).length ≤ 1 := by
  unfold stopFirst
  split
  · exact List.length_take_le 1 _
  · exact Nat.zero_le 1

/-- **A turn retires no wanted task beyond the current surplus, the old surplus
and the one it gives up.** -/
theorem kept_le_wanted (svc : ServiceRecord) (live : Keys String) (acc : Sched) :
    (keptCurrent svc live acc.state).length + (keptOld svc live acc.state).length
        - (stopFirst svc live acc.state).length
      ≤ (retiredTurn svc live acc).state.tasks.count (wantedBy svc) := by
  have hcur : ∀ task ∈ keptCurrent svc live acc.state,
      task ∈ acc.state.tasks ∧ currentRunning svc live task = true ∧
        violatesConstraints acc.state svc task = false :=
    fun task h => mem_settledTasks.mp (List.mem_of_mem_take h)
  have hold : ∀ task ∈ keptOld svc live acc.state,
      task ∈ acc.state.tasks ∧ oldRunning svc live task = true :=
    fun task h => mem_oldTasks.mp (List.mem_of_mem_take h)
  have hnodO : (keptOld svc live acc.state).Nodup :=
    (acc.state.tasks.rows_nodup.filter _).sublist (List.take_sublist _ _)
  let kept := keptCurrent svc live acc.state
    ++ (keptOld svc live acc.state).drop (stopFirst svc live acc.state).length
  have hnod : kept.Nodup := by
    refine List.Nodup.append ((acc.state.tasks.rows_nodup.filter _).sublist (List.take_sublist _ _))
      (hnodO.sublist (List.drop_sublist _ _)) fun task hleft hrig => ?_
    have hrev := (currentRunning_iff.mp (hcur task hleft).2.1).2
    exact (oldRunning_iff.mp (hold task (List.mem_of_mem_drop hrig)).2).2 hrev
  have hsta : ∀ task ∈ kept,
      task ∈ (retiredTurn svc live acc).state.tasks ∧ wantedBy svc task = true := by
    intro task htask
    rcases List.mem_append.mp htask with h | h
    · obtain ⟨hmem, hrun, hpla⟩ := hcur task h
      have hlive := (currentRunning_iff.mp hrun).1
      have hnot : task ∉ stopFirst svc live acc.state := by
        intro hstop
        have hkept := stopFirst_subset svc live acc.state task hstop
        exact (oldRunning_iff.mp (hold task hkept).2).2 (currentRunning_iff.mp hrun).2
      refine ⟨(mem_retiredTurn_running (currentRunning_running hrun)).mpr ⟨hmem, ?_⟩,
        wantedBy_iff.mpr ⟨currentRunning_serviceId hrun, currentRunning_running hrun⟩⟩
      exact (not_surplus_iff hmem hlive hpla).mpr ⟨List.mem_append_left _ h, hnot⟩
    · have hkept := List.mem_of_mem_drop h
      obtain ⟨hmem, hrun⟩ := hold task hkept
      have hlive := (oldRunning_iff.mp hrun).1
      have hpla : violatesConstraints acc.state svc task = false := by
        unfold violatesConstraints
        simp [(oldRunning_iff.mp hrun).2]
      have hnot : task ∉ stopFirst svc live acc.state := by
        rw [stopFirst_eq_take]
        exact fun hstop => List.disjoint_take_drop hnodO (Nat.le_refl _) hstop h
      refine ⟨(mem_retiredTurn_running (oldRunning_running hrun)).mpr ⟨hmem, ?_⟩,
        wantedBy_iff.mpr ⟨oldRunning_serviceId hrun, oldRunning_running hrun⟩⟩
      exact (not_surplus_iff hmem hlive hpla).mpr ⟨List.mem_append_right _ hkept, hnot⟩
  have hlen := Table.length_le_count hnod hsta
  rw [List.length_append, List.length_drop] at hlen
  omega

/-! ## What a turn creates -/

theorem wanted_le_createTasks (live : Keys String) (svc : ServiceRecord)
    (huuid : Function.Injective uuid) {acc : Sched} (hfresh : Fresh uuid acc) (n : Nat) :
    acc.state.tasks.count (wantedBy svc)
      ≤ (createTasks svc live uuid n acc).state.tasks.count (wantedBy svc) :=
  Table.count_le_of_key fun task hmem hwan =>
    ⟨task, mem_createTasks_of_mem huuid hfresh hmem, hwan, rfl⟩

theorem wanted_lt_createTasks (huuid : Function.Injective uuid) {svc : ServiceRecord}
    {acc : Sched} (hfresh : Fresh uuid acc) {n : Nat} (hbud : 0 < n)
    (hsch : (scheduleTask acc.state svc live (uuid acc.minted)).isSome) :
    acc.state.tasks.count (wantedBy svc) + 1
      ≤ (createTasks svc live uuid n acc).state.tasks.count (wantedBy svc) := by
  obtain ⟨m, rfl⟩ : ∃ m, n = m + 1 := ⟨n - 1, by omega⟩
  obtain ⟨task, htask⟩ := Option.isSome_iff_exists.mp hsch
  have hrep := scheduleTask_isReplica htask
  have hid : task.id = uuid acc.minted := by
    obtain ⟨node, slot, _, _, _, _, rfl⟩ := scheduleTask_some htask
    rfl
  have hone : (acc.state.tasks.insert task).count (wantedBy svc)
      = acc.state.tasks.count (wantedBy svc) + 1 := by
    rw [Table.count_insert (hid.symm ▸ Table.contains_eq_false.mp (hfresh _ (Nat.le_refl _))),
      wantedBy_iff.mpr ⟨hrep.serviceId, hrep.desired⟩, if_pos rfl]
  unfold createTasks
  rw [htask]
  let next : Sched := ⟨acc.state.withTasks (acc.state.tasks.insert task), true, acc.minted + 1⟩
  have hnext : Fresh uuid next := hfresh.insert huuid hid rfl rfl
  have hrest := wanted_le_createTasks live svc huuid hnext m
  exact Nat.le_trans (Nat.le_of_eq hone.symm) hrest

/-! ## Calls during an update -/

/-- Nothing but the update is going on: the service is there and not being
restarted, and its wanted tasks are up, on live nodes that match. -/
structure Undisturbed (service : ServiceRecord) (live : Keys String) (state : ClusterState) :
    Prop where
  member : service ∈ state.services
  noRestart : restartActive state service.id = false
  plain : ∀ task ∈ state.tasks, wantedBy service task = true → task.job = none
  live : ∀ task ∈ state.tasks, wantedBy service task = true → live.contains task.nodeId = true
  up : ∀ task ∈ state.tasks, wantedBy service task = true →
    task.observed.isFailedOrLost = false
  matching : ∀ task ∈ state.tasks, wantedBy service task = true →
    ((state.nodes.get? task.nodeId).any fun node =>
      matchesConstraints node service.spec.constraints) = true

/-- A task can be created at once for a slot that is free: fewer than `R` tasks
take room, a node is eligible, and no other service publishes the same ports. -/
structure Refillable (service : ServiceRecord) (live : Keys String) (state : ClusterState) :
    Prop where
  room : state.tasks.count (occupying service live) < service.spec.replicas
  node : ∃ node ∈ state.nodes, eligibleNode state service live node = true
  ports : ∀ other ∈ state.services, other.id ≠ service.id →
    ∀ pair ∈ explicitPorts service.spec, pair ∉ explicitPorts other.spec

/-- No slot is free, no old task is left to give up, or a free slot is filled now. -/
def FreedSlotServed (service : ServiceRecord) (live : Keys String) (state : ClusterState) : Prop :=
  service.spec.replicas ≤ state.tasks.count (wantedBy service) ∨
  state.tasks.count (oldRunning service live) = 0 ∨
  Refillable service live state

section Call

variable {state : ClusterState} {svc : ServiceRecord} (hquiet : Undisturbed svc live state)

include hquiet

theorem contenders_undisturbed {p : TaskRecord → Bool}
    (hp : ∀ task, p task = true → wantedBy svc task = true) :
    contenders live state p = state.tasks.rows.filter p := by
  refine List.filter_congr fun task htask => ?_
  cases hcase : p task with
  | false => rfl
  | true =>
    have hwan := hp task hcase
    have hkept : givenUp state live task = false := by
      unfold givenUp
      simp [hquiet.live task htask hwan, hquiet.up task htask hwan]
    simp [hquiet.plain task htask hwan, hkept]

theorem wanted_split : state.tasks.count (wantedBy svc)
    = (state.tasks.rows.filter (currentRunning svc live)).length
      + (state.tasks.rows.filter (oldRunning svc live)).length := by
  rw [← Table.count_and_add_count_and_not state.tasks (wantedBy svc)
    (fun task => decide (task.revision = svc.revision))]
  unfold Table.count
  rw [List.countP_eq_length_filter, List.countP_eq_length_filter]
  have hlive : ∀ task ∈ state.tasks.rows, runningLive svc live task = wantedBy svc task := by
    intro task htask
    rw [Bool.eq_iff_iff, runningLive_iff, wantedBy_iff]
    refine ⟨fun h => ⟨h.1, h.2.1⟩, fun h => ⟨h.1, h.2, ?_⟩⟩
    exact hquiet.live task htask (wantedBy_iff.mpr h)
  congr 2
  · refine List.filter_congr fun task htask => ?_
    unfold currentRunning
    rw [hlive task htask]
  · refine List.filter_congr fun task htask => ?_
    unfold oldRunning
    rw [hlive task htask]
    simp only [bne, beq_eq_decide]

variable (huuid : Function.Injective uuid) (hfresh : Fresh uuid { state })
  (hjob : svc.spec.job = none)

include huuid hfresh hjob

theorem turnStart_settled_undisturbed :
    settledTasks svc live (turnStart ext uuid live now state svc).state
      = state.tasks.rows.filter (currentRunning svc live) := by
  rw [turnStart_settled huuid hfresh hquiet.member hjob, contenders_undisturbed hquiet]
  · refine List.filter_congr fun task htask => ?_
    cases hcase : currentRunning svc live task with
    | false => rfl
    | true =>
      obtain ⟨node, hnode, hmat⟩ := (Option.any_eq_true _ _).mp (hquiet.matching task htask
        (wantedBy_iff.mpr ⟨currentRunning_serviceId hcase, currentRunning_running hcase⟩))
      unfold violatesConstraints
      simp [hnode, hmat]
  · intro task htask
    rw [Bool.and_eq_true] at htask
    exact wantedBy_iff.mpr ⟨currentRunning_serviceId htask.1, currentRunning_running htask.1⟩

theorem turnStart_old_undisturbed : oldTasks svc live (turnStart ext uuid live now state svc).state
      = state.tasks.rows.filter (oldRunning svc live) := by
  rw [turnStart_old huuid hfresh hquiet.member hjob, contenders_undisturbed hquiet]
  intro task htask
  exact wantedBy_iff.mpr ⟨oldRunning_serviceId htask, oldRunning_running htask⟩

variable (ext now) in
/-- What is left of `c` current and `k` old wanted tasks once the turn has retired
its surplus; `h` of the current ones serve. -/
theorem wanted_retired : ∃ h, h ≤ min svc.spec.replicas
        (state.tasks.rows.filter (currentRunning svc live)).length ∧
      min svc.spec.replicas (state.tasks.rows.filter (currentRunning svc live)).length
          + min (svc.spec.replicas - h) (state.tasks.rows.filter (oldRunning svc live)).length
          - min 1 (state.tasks.rows.filter (oldRunning svc live)).length
        ≤ (retiredTurn svc live
            (turnStart ext uuid live now state svc)).state.tasks.count (wantedBy svc) := by
  have hbou := kept_le_wanted svc live (turnStart ext uuid live now state svc)
  have hser := List.countP_le_length (p := serving)
    (l := keptCurrent svc live (turnStart ext uuid live now state svc).state)
  have hcur : (keptCurrent svc live
      (turnStart ext uuid live now state svc).state).length = min svc.spec.replicas
        (state.tasks.rows.filter (currentRunning svc live)).length := by
    unfold keptCurrent
    rw [List.length_take, turnStart_settled_undisturbed hquiet huuid hfresh hjob]
  have hold : (keptOld svc live (turnStart ext uuid live now state svc).state).length
      = min (oldToKeep svc live (turnStart ext uuid live now state svc).state)
        (state.tasks.rows.filter (oldRunning svc live)).length := by
    unfold keptOld
    rw [List.length_take, turnStart_old_undisturbed hquiet huuid hfresh hjob]
  have hstop : (stopFirst svc live (turnStart ext uuid live now state svc).state).length
      ≤ min 1 (state.tasks.rows.filter (oldRunning svc live)).length := by
    have hone := stopFirst_length_le svc live (turnStart ext uuid live now state svc).state
    have hlen := congrArg List.length (stopFirst_eq_take svc live
      (turnStart ext uuid live now state svc).state)
    rw [List.length_take] at hlen
    omega
  rw [hcur] at hser hbou
  rw [hold] at hbou
  unfold oldToKeep at hbou
  exact ⟨_, hser, by omega⟩

/-- The tasks of the service after retirement were there before the pass. -/
theorem retired_samePlace (hmem : task ∈ (retiredTurn svc live
      (turnStart ext uuid live now state svc)).state.tasks)
    (htask : task.serviceId = svc.id) : ∃ old ∈ state.tasks, SamePlace live old task := by
  unfold retiredTurn at hmem
  rw [retireTasks_state, ClusterState.withTasks_tasks, Table.mem_map] at hmem
  obtain ⟨middle, hmid, rfl⟩ := hmem
  have hsame := retireIf_samePlace live
    (isServiceHttpRouted (turnStart ext uuid live now state svc).state svc)
    ((surplusTasks svc live (turnStart ext uuid live now state svc).state).map TaskRecord.id) middle
  obtain ⟨old, hold, hfrom⟩ := turnStart_samePlace huuid hfresh hquiet.member hjob hmid
    (hsame.serviceId.symm.trans htask)
  exact ⟨old, hold, hfrom.trans hsame⟩

theorem retired_moves : Moves live state (retiredTurn svc live
    (turnStart ext uuid live now state svc)).state := by
  obtain ⟨hfresh', hmov, _⟩ := turnStart_spec ext live now huuid hfresh svc
  have hret : Advances (ServiceMove live svc) uuid (turnStart ext uuid live now state svc)
      (retiredTurn svc live (turnStart ext uuid live now state svc)) :=
    retireTasks_advances ((hmov.sameFrame.plain svc hjob).mpr hquiet.member) hjob
      fun _ htask => mem_surplusTasks htask
  exact hmov.trans (ReflTransGen.mono (fun _ _ => Move.service svc) _ _ (hret hfresh').1)

/-- A wanted task after retirement is a wanted task from before the pass. -/
theorem mem_state_of_retired (hmem : task ∈ (retiredTurn svc live
      (turnStart ext uuid live now state svc)).state.tasks)
    (hwan : wantedBy svc task = true) : task ∈ state.tasks := by
  obtain ⟨hid, hrun⟩ := wantedBy_iff.mp hwan
  obtain ⟨_, _, hturn⟩ := turnStart_spec ext live now huuid hfresh svc
  have hsta := ((mem_retiredTurn_running hrun).mp hmem).1
  exact ((mem_passStart_running huuid hfresh hquiet.member hjob hid hrun).mp
    ((hturn task hid).mp hsta)).1

variable (ext now) in
theorem current_retired_le :
    (retiredTurn svc live (turnStart ext uuid live now state svc)).state.tasks.count
        (currentRunning svc live)
      ≤ (state.tasks.rows.filter (currentRunning svc live)).length := by
  rw [← List.countP_eq_length_filter]
  show _ ≤ state.tasks.count (currentRunning svc live)
  refine Table.count_le_of_key fun task hmem hrun => ⟨task, ?_, hrun, rfl⟩
  exact mem_state_of_retired hquiet huuid hfresh hjob hmem
    (wantedBy_iff.mpr ⟨currentRunning_serviceId hrun, currentRunning_running hrun⟩)

variable (ext now) in
theorem slots_retired_le :
    (retiredTurn svc live (turnStart ext uuid live now state svc)).state.tasks.count (holdsSlot svc)
      ≤ (state.tasks.rows.filter (currentRunning svc live)).length := by
  rw [← List.countP_eq_length_filter]
  show _ ≤ state.tasks.count (currentRunning svc live)
  refine Table.count_le_of_key fun task hmem hslot => ?_
  unfold holdsSlot wanted at hslot
  simp only [Bool.and_eq_true, decide_eq_true_eq] at hslot
  obtain ⟨⟨hid, hrev⟩, hrun, _⟩ := hslot
  have hwan : wantedBy svc task = true := wantedBy_iff.mpr ⟨hid, hrun⟩
  have hold := mem_state_of_retired hquiet huuid hfresh hjob hmem hwan
  refine ⟨task, hold, currentRunning_iff.mpr ⟨runningLive_iff.mpr ⟨hid, hrun, ?_⟩, hrev⟩, rfl⟩
  exact hquiet.live task hold hwan

/-- An eligible node stays eligible until the turn creates tasks. -/
theorem eligible_retired (hsur : svc.spec.maxSurge = 0) (href : Refillable svc live state)
    {node : NodeRecord} (helig : eligibleNode state svc live node = true) :
    eligibleNode (retiredTurn svc live (turnStart ext uuid live now state svc)).state
      svc live node = true := by
  have hprov : Provenance state live (retiredTurn svc live
      (turnStart ext uuid live now state svc)).state :=
    Moves.provenance (retired_moves hquiet huuid hfresh hjob)
  have hrest := hprov.frame.rest
  unfold eligibleNode at helig ⊢
  simp only [Bool.and_eq_true] at helig ⊢
  obtain ⟨⟨⟨⟨hlive, hmat⟩, hpin⟩, hcap⟩, hpor⟩ := helig
  have hpin' : pinnedOperation (retiredTurn svc live
      (turnStart ext uuid live now state svc)).state svc = pinnedOperation state svc := by
    unfold pinnedOperation
    rw [hrest]
  refine ⟨⟨⟨⟨hlive, hmat⟩, by rw [hpin']; exact hpin⟩, ?_⟩, ?_⟩
  · -- the node does not hold more tasks of the svc than before
    have hact : (retiredTurn svc live (turnStart ext uuid live now state svc)).state.tasks.count
          (occupiesNode svc node.id)
        ≤ state.tasks.count (occupiesNode svc node.id) := by
      refine Table.count_le_of_key fun task hmem htask => ?_
      unfold occupiesNode at htask
      simp only [Bool.and_eq_true, decide_eq_true_eq, Bool.not_eq_true'] at htask
      obtain ⟨⟨hnode, hid⟩, hup⟩ := htask
      obtain ⟨old, hold, hsame⟩ := retired_samePlace hquiet huuid hfresh hjob hmem hid
      have hnode' : old.nodeId = node.id := hsame.nodeId.symm.trans hnode
      refine ⟨old, hold, ?_, hsame.id.symm⟩
      unfold occupiesNode
      rw [← hsame.up (hnode' ▸ hlive), hup]
      simp [hnode', hsame.serviceId.symm.trans hid]
    unfold nodeHasReplicaCapacity at hcap ⊢
    split
    · rfl
    next limit hlim =>
      rw [hlim] at hcap
      simp only [hsur, Nat.lt_irrefl, gt_iff_lt, decide_false, Bool.false_and] at hcap ⊢
      split at hcap
      next hzero => rw [if_pos hzero]
      next hzero =>
        split at hcap
        next hlt => rw [if_neg hzero, if_pos (Nat.lt_of_le_of_lt hact hlt)]
        · cases hcap
  · -- a port in use now was in use before, or belongs to another svc
    rw [explicitPortsAvailable_iff] at hpor ⊢
    intro pair hpair hused
    rcases mem_usedPorts.mp hused with ⟨task, hmem, hnode, hup, hpub⟩ | ⟨task, hmem, hnode, hpub⟩
    · have hbef : ∀ old ∈ state.tasks, SamePlace live old task → False := by
        intro old hold hsame
        have hnode' : old.nodeId = node.id := hsame.nodeId.symm.trans hnode
        refine hpor pair hpair (mem_usedPorts.mpr (.inl ⟨old, hold, hnode', ?_, ?_⟩))
        · rw [← hsame.up (hnode' ▸ hlive)]
          exact hup
        · rw [← hsame.ports]
          exact hpub
      by_cases hid : task.serviceId = svc.id
      · obtain ⟨old, hold, hsame⟩ := retired_samePlace hquiet huuid hfresh hjob hmem hid
        exact hbef old hold hsame
      · rcases hprov.tasks task hmem with ⟨old, hold, hsame⟩ | ⟨other, hoth, hoid, hopub⟩
        · exact hbef old hold hsame
        · rw [hopub] at hpub
          exact href.ports other hoth (fun he => hid (hoid.symm.trans he)) pair hpair hpub
    · rw [hrest] at hmem
      exact hpor pair hpair (mem_usedPorts.mpr (.inr ⟨task, hmem, hnode, hpub⟩))

/-- **A call that serves the freed slot keeps `R - 1` tasks wanted.** -/
theorem wanted_after_call (hact : svc.deleted = false) (hrep : 0 < svc.spec.replicas)
    (hsur : svc.spec.maxSurge = 0) (hser : FreedSlotServed svc live state)
    (hwan : svc.spec.replicas - 1 ≤ state.tasks.count (wantedBy svc)) :
    svc.spec.replicas - 1
      ≤ (reconcile ext uuid live now state).state.tasks.count (wantedBy svc) := by
  obtain ⟨hfresh', hmov, _⟩ := turnStart_spec ext live now huuid hfresh svc
  have hres : restartActive (turnStart ext uuid live now state svc).state svc.id = false := by
    unfold restartActive
    rw [hmov.sameFrame.rest]
    exact hquiet.noRestart
  have hcou : (reconcile ext uuid live now state).state.tasks.count (wantedBy svc)
      = (createTasks svc live uuid (creationBudget svc live (retiredTurn svc live
            (turnStart ext uuid live now state svc)).state)
          (retiredTurn svc live (turnStart ext uuid live now state svc))).state.tasks.count
        (wantedBy svc) := by
    rw [count_reconcile_of_turn huuid hfresh hquiet.member hjob
      fun task htask => (wantedBy_iff.mp htask).1,
      reconcileStep_eq hjob hact hrep hres]
  have hgrow := wanted_le_createTasks live svc huuid (retiredTurn_fresh live svc hfresh')
    (creationBudget svc live (retiredTurn svc live (turnStart ext uuid live now state svc)).state)
  obtain ⟨h, hserv, hret⟩ := wanted_retired ext now hquiet huuid hfresh hjob
  have hspl := wanted_split hquiet
  rw [hcou]
  rcases hser with hfull | hnone | href
  · omega
  · unfold Table.count at hnone
    rw [List.countP_eq_length_filter] at hnone
    omega
  · by_cases hfull : svc.spec.replicas ≤ state.tasks.count (wantedBy svc)
    · omega
    · -- one old task goes and a new one comes
      have hcur := current_retired_le ext now hquiet huuid hfresh hjob
      have hslo := slots_retired_le ext now hquiet huuid hfresh hjob
      have hroom : (retiredTurn svc live
            (turnStart ext uuid live now state svc)).state.tasks.count (occupying svc live)
          < svc.spec.replicas := by
        rw [count_occupying_retiredTurn]
        exact Nat.lt_of_le_of_lt (count_occupying_turnStart huuid hfresh hquiet.member hjob)
          href.room
      have hbud : 0 < creationBudget svc live (retiredTurn svc live
          (turnStart ext uuid live now state svc)).state := by
        unfold creationBudget
        dsimp only
        split <;> omega
      obtain ⟨node, hnode, helig⟩ := href.node
      have hnode' : node ∈ (retiredTurn svc live
          (turnStart ext uuid live now state svc)).state.nodes := by
        rw [(retired_moves hquiet huuid hfresh hjob).sameFrame.rest]
        exact hnode
      have hmore := wanted_lt_createTasks huuid (retiredTurn_fresh live svc hfresh') hbud
        (scheduleTask_isSome hnode'
          (eligible_retired hquiet huuid hfresh hjob hsur href helig) (by omega))
      omega

end Call

/-! ## Runs -/

/-- A node report, as far as the service is concerned: no wanted task is lost.
Everything else may change. -/
def NodeReport (service : ServiceRecord) (s s' : ClusterState) : Prop :=
  ∀ task ∈ s.tasks, wantedBy service task = true →
    ∃ task' ∈ s'.tasks, wantedBy service task' = true ∧ task'.id = task.id

/-- A stop-first update about to begin: `R` healthy tasks, all of an old revision. -/
structure UpdateStart (service : ServiceRecord) (state : ClusterState) : Prop where
  full : state.tasks.count (wantedBy service) = service.spec.replicas
  old : ∀ task ∈ state.tasks, wantedBy service task = true →
    task.revision ≠ service.revision ∧ task.observed = .healthy

/-- States of an update: node reports and calls of `reconcile`, in any order. The
calls are those that meet `allowed`. -/
inductive UpdateRun (ext : Externals) (service : ServiceRecord)
    (allowed : Keys String → ClusterState → Prop) : ClusterState → Prop
  | start (state : ClusterState) (h : UpdateStart service state) :
      UpdateRun ext service allowed state
  | report {s s' : ClusterState} (hrun : UpdateRun ext service allowed s)
      (h : NodeReport service s s') : UpdateRun ext service allowed s'
  | call {s : ClusterState} (hrun : UpdateRun ext service allowed s) {uuid : Nat → String}
      (huuid : Function.Injective uuid) (live : Keys String) (now : Int)
      (hfresh : Fresh uuid { state := s }) (hquiet : Undisturbed service live s)
      (hallowed : allowed live s) :
      UpdateRun ext service allowed (reconcile ext uuid live now s).state

/-- **In a stop-first update in which every call serves the freed slot, `R - 1`
tasks are wanted at every point.** -/
theorem stopFirst_keeps_wanted (ext : Externals) (service : ServiceRecord)
    (hjob : service.spec.job = none) (hactive : service.deleted = false)
    (hreplicas : 0 < service.spec.replicas) (hsurge : service.spec.maxSurge = 0)
    (state : ClusterState) (hrun : UpdateRun ext service (FreedSlotServed service) state) :
    service.spec.replicas - 1 ≤ state.tasks.count (wantedBy service) := by
  induction hrun with
  | start state h =>
    have hfull := h.full
    omega
  | report hrun h ih => exact Nat.le_trans ih (Table.count_le_of_key h)
  | call hrun huuid live now hfresh hquiet hser ih =>
    exact wanted_after_call hquiet huuid hfresh hjob hactive hreplicas hsurge hser ih

section Example

/-- Two replicas are wanted at revision `2`; updates are stop-first. -/
def updatedService : ServiceRecord :=
  { id := "shop.web", stack := "shop", name := "web", revision := 2, deleted := false,
    spec := { image := "web:2", replicas := 2, maxSurge := 0 } }

def outdatedTask (id : String) (slot : Nat) : TaskRecord :=
  { id, serviceId := "shop.web", revision := 1, slot, nodeId := "n1",
    desired := .running, observed := .healthy, ports := [] }

def updateState : ClusterState :=
  { services := Table.ofList [updatedService]
    nodes := Table.ofList [{ id := "n1", address := "10.0.0.1" }]
    tasks := Table.ofList [outdatedTask "a" 0, outdatedTask "b" 1] }

def updateExternals : Externals := ⟨fun spec => spec.image, fun _ _ => none⟩

def updateCall (state : ClusterState) : ClusterState :=
  (reconcile updateExternals unaryId (Keys.ofElems ["n1"]) 0 state).state

theorem updateState_start : UpdateStart updatedService updateState :=
  ⟨by decide +kernel, by decide +kernel⟩

theorem updateState_quiet : Undisturbed updatedService (Keys.ofElems ["n1"]) updateState :=
  ⟨by decide +kernel, by decide +kernel, by decide +kernel, by decide +kernel, by decide +kernel,
    by decide +kernel⟩

/-- The state after one call, once the node has reported the removal of the task
that the call gave up. -/
def removedState : ClusterState :=
  { updateCall updateState with tasks := (updateCall updateState).tasks.erase "a" }

theorem removedState_quiet : Undisturbed updatedService (Keys.ofElems ["n1"]) removedState :=
  ⟨by decide +kernel, by decide +kernel, by decide +kernel, by decide +kernel, by decide +kernel,
    by decide +kernel⟩

/-- The second call fills the freed slot while it gives up the other old task. -/
theorem stopFirst_keeps_wanted_removed :
    1 ≤ (updateCall removedState).tasks.count (wantedBy updatedService) := by
  have hfir : UpdateRun updateExternals updatedService (FreedSlotServed updatedService)
      (updateCall updateState) :=
    UpdateRun.call (UpdateRun.start _ updateState_start) unaryId_injective _ 0
      (fresh_unaryId (by decide +kernel)) updateState_quiet (Or.inl (by decide +kernel))
  have hrep : NodeReport updatedService (updateCall updateState) removedState := by
    unfold NodeReport
    decide +kernel
  have hsec : UpdateRun updateExternals updatedService (FreedSlotServed updatedService)
      (updateCall removedState) :=
    UpdateRun.call (UpdateRun.report hfir hrep) unaryId_injective _ 0
      (fresh_unaryId (by decide +kernel)) removedState_quiet
      (Or.inr (Or.inr ⟨by decide +kernel, ⟨{ id := "n1", address := "10.0.0.1" },
        by decide +kernel, by decide +kernel⟩, by decide +kernel⟩))
  exact stopFirst_keeps_wanted updateExternals updatedService rfl rfl (by decide) rfl _ hsec

theorem updateCall_quiet :
    Undisturbed updatedService (Keys.ofElems ["n1"]) (updateCall updateState) :=
  ⟨by decide +kernel, by decide +kernel, by decide +kernel, by decide +kernel, by decide +kernel,
    by decide +kernel⟩

/-- Two calls without a report between them give up both old tasks, and no new
task exists yet. -/
theorem stopFirst_stops_all :
    UpdateRun updateExternals updatedService (fun _ _ => True)
        (updateCall (updateCall updateState)) ∧
      (updateCall (updateCall updateState)).tasks.count (wantedBy updatedService) = 0 :=
  ⟨UpdateRun.call (UpdateRun.call (UpdateRun.start _ updateState_start) unaryId_injective _ 0
      (fresh_unaryId (by decide +kernel)) updateState_quiet trivial) unaryId_injective _ 0
      (fresh_unaryId (by decide +kernel)) updateCall_quiet trivial,
    by decide +kernel⟩

end Example

end Swarmlite
