import Swarmlite.Controller.Turns

/-!
# Placement is sound over a whole pass

Ports are shared between services, so what one creation may rely on has to
survive all later creations of the pass: `portsFree_moves` carries it over every
move. Node capacity and the total of a service are matters of its own turn:
creation never exceeds them (`turn_capacity`, `turn_occupancy`), and other turns
do not touch the counts.

A limit of `0` tasks per node means no limit (`node_has_replica_capacity`).
-/

namespace Swarmlite

open Ordered Relation

variable {task : TaskRecord} {svc : ServiceRecord} {state : ClusterState}
  {f : TaskRecord → TaskRecord}

variable {ext : Externals} {uuid : Nat → String} {live : Keys String} {now : Int}

/-! ## Ports -/

/-- Only the ports a spec publishes by number are published when a task is created. -/
theorem publishedPairs_allocatePorts (state : ClusterState) (svc : ServiceRecord) :
    publishedPairs (allocatePorts state svc) = explicitPorts svc.spec := by
  unfold publishedPairs allocatePorts explicitPorts
  rw [List.filterMap_append, List.filterMap_map, List.filterMap_map]
  have hrou : (missingRoutedPorts state svc).filterMap
      ((fun port : PortBinding => port.published.map fun published => (published, port.protocol))
        ∘ fun target => ⟨target, none, "tcp"⟩) = [] :=
    List.filterMap_eq_nil_iff.mpr fun _ _ => rfl
  rw [hrou, List.append_nil]
  rfl

/-- No other task on the node, and no container found there, uses one of the ports. -/
structure PortsFree (state : ClusterState) (nodeId taskId : String) (ports : List (Nat × String)) :
    Prop where
  tasks : ∀ other ∈ state.tasks, other.id ≠ taskId → other.nodeId = nodeId →
    other.observed.isFailedOrLost = false → ∀ pair ∈ ports, pair ∉ publishedPairs other.ports
  unclaimed : ∀ other ∈ state.unclaimedTasks, other.nodeId = nodeId →
    ∀ pair ∈ ports, pair ∉ publishedPairs other.ports

theorem explicitPortsAvailable_free {node : NodeRecord} {spec : ServiceSpec}
    (h : explicitPortsAvailable state node spec = true) (taskId : String) :
    PortsFree state node.id taskId (explicitPorts spec) := by
  have hunu := explicitPortsAvailable_iff.mp h
  constructor
  · intro other hoth _ hnode hup pair hpair hused
    exact hunu pair hpair (mem_usedPorts.mpr (.inl ⟨other, hoth, hnode, hup, hused⟩))
  · intro other hoth hnode pair hpair hused
    exact hunu pair hpair (mem_usedPorts.mpr (.inr ⟨other, hoth, hnode, hused⟩))

/-- A change of a record that does not matter for placement. -/
structure SamePlace (live : Keys String) (task task' : TaskRecord) : Prop where
  id : task'.id = task.id
  serviceId : task'.serviceId = task.serviceId
  nodeId : task'.nodeId = task.nodeId
  ports : task'.ports = task.ports
  job : task'.job = task.job
  up : live.contains task.nodeId = true →
    task'.observed.isFailedOrLost = task.observed.isFailedOrLost

theorem SamePlace.refl (live : Keys String) (task : TaskRecord) : SamePlace live task task :=
  ⟨rfl, rfl, rfl, rfl, rfl, fun _ => rfl⟩

theorem SamePlace.trans {a b c : TaskRecord} (h : SamePlace live a b) (h' : SamePlace live b c) :
    SamePlace live a c :=
  ⟨h'.id.trans h.id, h'.serviceId.trans h.serviceId, h'.nodeId.trans h.nodeId,
    h'.ports.trans h.ports, h'.job.trans h.job,
    fun hlive => (h'.up (h.nodeId ▸ hlive)).trans (h.up hlive)⟩

theorem giveUp_samePlace (state : ClusterState) (live : Keys String) (task : TaskRecord) :
    SamePlace live task (giveUp state live task) := by
  unfold giveUp
  split
  · refine ⟨rfl, rfl, rfl, rfl, rfl, fun hlive => ?_⟩
    dsimp only
    rw [if_pos hlive]
  · exact SamePlace.refl live task

theorem retireIf_samePlace (live : Keys String) (routed : Bool) (ids : List String)
    (task : TaskRecord) : SamePlace live task (retireIf routed ids task) := by
  unfold retireIf retireRecord
  split
  · split <;> exact ⟨rfl, rfl, rfl, rfl, rfl, fun _ => rfl⟩
  · exact SamePlace.refl live task

theorem JobTouched.samePlace {task task' : TaskRecord} (h : JobTouched live task task') :
    SamePlace live task task' := by
  refine ⟨?_, ?_, ?_, ?_, ?_, fun hlive => ?_⟩
  · rw [h.eq]
  · rw [h.eq]
  · rw [h.eq]
  · rw [h.eq]
  · rw [h.eq]
  · rcases h.observed with hsame | ⟨_, hdead⟩
    · rw [hsame]
    · rw [hlive] at hdead
      cases hdead

/-- What holds of a task created in the pass, as long as the pass goes on. -/
structure Placed (live : Keys String) (state : ClusterState) (service : ServiceRecord)
    (task : TaskRecord) : Prop where
  plain : service.spec.job = none
  serviceId : task.serviceId = service.id
  live : live.contains task.nodeId = true
  matching : ∃ node ∈ state.nodes, node.id = task.nodeId ∧
    matchesConstraints node service.spec.constraints = true
  published : publishedPairs task.ports = explicitPorts service.spec
  up : task.observed.isFailedOrLost = false
  ports : PortsFree state task.nodeId task.id (explicitPorts service.spec)

theorem Placed.map (h : Placed live state svc task) (hf : ∀ task, (f task).id = task.id)
    (hsame : ∀ task ∈ state.tasks, SamePlace live task (f task)) (hmem : task ∈ state.tasks) :
    Placed live (state.withTasks (state.tasks.map f hf)) svc (f task) := by
  have htask := hsame task hmem
  refine ⟨h.plain, htask.serviceId.trans h.serviceId, by rw [htask.nodeId]; exact h.live, ?_,
    by rw [htask.ports]; exact h.published, (htask.up h.live).trans h.up, ?_, ?_⟩
  · rw [htask.nodeId]
    exact h.matching
  · intro other hoth hid hnode hup pair hpair
    rw [ClusterState.withTasks_tasks, Table.mem_map] at hoth
    obtain ⟨old, hold, rfl⟩ := hoth
    have hoth := hsame old hold
    rw [hf, hf] at hid
    rw [hoth.nodeId, htask.nodeId] at hnode
    rw [hoth.up (hnode ▸ h.live)] at hup
    rw [hoth.ports]
    exact h.ports.tasks old hold hid hnode hup pair hpair
  · intro other hoth hnode
    rw [htask.nodeId] at hnode
    exact h.ports.unclaimed other hoth hnode

/-- A new task whose own ports were free leaves the placed tasks undisturbed. -/
theorem Placed.insert {task new : TaskRecord}
    (h : Placed live state svc task) (hmem : task ∈ state.tasks) (hid : task.id ≠ new.id)
    (hfree : PortsFree state new.nodeId new.id (publishedPairs new.ports)) :
    Placed live (state.withTasks (state.tasks.insert new)) svc task := by
  refine ⟨h.plain, h.serviceId, h.live, h.matching, h.published, h.up, ?_, h.ports.unclaimed⟩
  intro other hoth hne hnode hup pair hpair
  rcases Table.mem_insert.mp hoth with rfl | ⟨hold, _⟩
  · intro hused
    rw [← h.published] at hpair
    exact hfree.tasks task hmem hid hnode.symm h.up pair hused hpair
  · exact h.ports.tasks other hold hne hnode hup pair hpair

/-- Every replica that is not in the original state is placed. -/
def NewPlaced (origin : ClusterState) (live : Keys String) (state : ClusterState) : Prop :=
  ∀ task ∈ state.tasks, task.job = none → origin.tasks.contains task.id = false →
    ∃ service ∈ state.services, Placed live state service task

section Moves

variable {origin s s' : ClusterState}

theorem newPlaced_map (h : NewPlaced origin live s)
    (hf : ∀ task, (f task).id = task.id) (hsame : ∀ task ∈ s.tasks, SamePlace live task (f task)) :
    NewPlaced origin live (s.withTasks (s.tasks.map f hf)) := by
  intro task hmem hplai hnew
  rw [ClusterState.withTasks_tasks, Table.mem_map] at hmem
  obtain ⟨old, hold, rfl⟩ := hmem
  rw [(hsame old hold).job] at hplai
  rw [hf] at hnew
  obtain ⟨service, hservice, hpla⟩ := h old hold hplai hnew
  exact ⟨service, hservice, hpla.map hf hsame hold⟩

theorem newPlaced_insert (h : NewPlaced origin live s) {new : TaskRecord}
    (hfresh : s.tasks.contains new.id = false)
    (hfree : PortsFree s new.nodeId new.id (publishedPairs new.ports))
    (hnew : new.job = none → ∃ service ∈ s.services,
      Placed live (s.withTasks (s.tasks.insert new)) service new) :
    NewPlaced origin live (s.withTasks (s.tasks.insert new)) := by
  intro task hmem hplai hori
  rcases Table.mem_insert.mp hmem with rfl | ⟨hold, hid⟩
  · exact hnew hplai
  · obtain ⟨service, hservice, hpla⟩ := h task hold hplai hori
    exact ⟨service, hservice, hpla.insert hold hid hfree⟩

theorem JobMove.newPlaced (hmove : JobMove live s s') (h : NewPlaced origin live s) :
    NewPlaced origin live s' := by
  cases hmove with
  | touch f hf htou =>
    exact newPlaced_map h hf fun task htask => (htou task htask).samePlace
  | execution service freshId task execution _ _ _ hfresh hsch =>
    obtain ⟨node, slot, hnode, helig, _, _, rfl⟩ := scheduleTask_some hsch
    unfold eligibleNode at helig
    simp only [Bool.and_eq_true] at helig
    refine newPlaced_insert h hfresh ?_ (fun hplai => nomatch hplai)
    show PortsFree s node.id freshId (publishedPairs (allocatePorts s (Jobs.template service)))
    rw [publishedPairs_allocatePorts]
    exact explicitPortsAvailable_free helig.2 freshId
  | forget id _ =>
    intro task hmem hplai hnew
    obtain ⟨service, hservice, hpla⟩ := h task (Table.mem_erase.mp hmem).1 hplai hnew
    refine ⟨service, hservice, { hpla with ports := ⟨?_, hpla.ports.unclaimed⟩ }⟩
    intro other hoth
    exact hpla.ports.tasks other (Table.mem_erase.mp hoth).1
  | cursor serviceId cursor hjob =>
    intro task hmem hplai hnew
    obtain ⟨service, hservice, hpla⟩ := h task hmem hplai hnew
    refine ⟨service, ?_, { hpla with
      ports := ⟨hpla.ports.tasks, hpla.ports.unclaimed⟩ }⟩
    exact ((sameFrame_withCursor hjob).plain service hpla.plain).mpr hservice

theorem ServiceMove.newPlaced (hmove : ServiceMove live svc s s')
    (h : NewPlaced origin live s) : NewPlaced origin live s' := by
  cases hmove with
  | retire ids _ _ _ =>
    exact newPlaced_map h _ fun task _ => retireIf_samePlace live _ ids task
  | replica freshId task hservice hjob _ hfresh hsch =>
    obtain ⟨node, slot, hnode, helig, _, _, rfl⟩ := scheduleTask_some hsch
    unfold eligibleNode at helig
    simp only [Bool.and_eq_true] at helig
    have hpai : publishedPairs (newTask s svc node slot freshId).ports
        = explicitPorts svc.spec := publishedPairs_allocatePorts s svc
    have hfree := explicitPortsAvailable_free helig.2 freshId
    refine newPlaced_insert h hfresh (hpai ▸ hfree) fun _ => ⟨svc, hservice, ?_⟩
    refine ⟨hjob, rfl, helig.1.1.1.1, ⟨node, hnode, rfl, helig.1.1.1.2⟩, hpai, rfl, ?_,
      hfree.unclaimed⟩
    intro other hoth hid
    rcases Table.mem_insert.mp hoth with rfl | ⟨hold, _⟩
    · exact absurd rfl hid
    · exact hfree.tasks other hold hid

/-- **No move disturbs the placement of a new replica.** -/
theorem Move.newPlaced (hmove : Move live s s') (h : NewPlaced origin live s) :
    NewPlaced origin live s' := by
  cases hmove with
  | giveUp => exact newPlaced_map h _ fun task _ => giveUp_samePlace s live task
  | jobs hjobs => exact hjobs.newPlaced h
  | service service hservice => exact hservice.newPlaced h

end Moves

/-! ## Where the tasks of a state come from -/

/-- Every task was there at the origin of the pass, in the same place, or has
been created for a service with the ports its spec publishes. -/
structure Provenance (origin : ClusterState) (live : Keys String) (state : ClusterState) :
    Prop where
  frame : SameFrame origin state
  tasks : ∀ task ∈ state.tasks, (∃ old ∈ origin.tasks, SamePlace live old task) ∨
    ∃ service ∈ origin.services, service.id = task.serviceId ∧
      publishedPairs task.ports = explicitPorts service.spec

section Provenance

variable {origin s s' : ClusterState}

theorem provenance_map (h : Provenance origin live s)
    (hf : ∀ task, (f task).id = task.id) (hsame : ∀ task ∈ s.tasks, SamePlace live task (f task)) :
    Provenance origin live (s.withTasks (s.tasks.map f hf)) := by
  refine ⟨h.frame.trans (sameFrame_withTasks s _), fun task hmem => ?_⟩
  rw [ClusterState.withTasks_tasks, Table.mem_map] at hmem
  obtain ⟨old, hold, rfl⟩ := hmem
  have hpla := hsame old hold
  rcases h.tasks old hold with ⟨first, hfir, hfrom⟩ | ⟨service, hservice, hid, hpor⟩
  · exact .inl ⟨first, hfir, hfrom.trans hpla⟩
  · refine .inr ⟨service, hservice, hid.trans hpla.serviceId.symm, ?_⟩
    rw [hpla.ports]
    exact hpor

theorem provenance_insert (h : Provenance origin live s) {new : TaskRecord}
    (hnew : ∃ service ∈ origin.services, service.id = new.serviceId ∧
      publishedPairs new.ports = explicitPorts service.spec) :
    Provenance origin live (s.withTasks (s.tasks.insert new)) := by
  refine ⟨h.frame.trans (sameFrame_withTasks s _), fun task hmem => ?_⟩
  rcases Table.mem_insert.mp hmem with rfl | ⟨hold, _⟩
  · exact .inr hnew
  · exact h.tasks task hold

theorem Move.provenance (hmove : Move live s s') (h : Provenance origin live s) :
    Provenance origin live s' := by
  cases hmove with
  | giveUp => exact provenance_map h _ fun task _ => giveUp_samePlace s live task
  | jobs hjobs =>
    cases hjobs with
    | touch f hf htou =>
      exact provenance_map h hf fun task htask => (htou task htask).samePlace
    | execution service freshId task execution hservice _ _ _ hsch =>
      obtain ⟨node, slot, _, _, _, _, rfl⟩ := scheduleTask_some hsch
      obtain ⟨current, hcur, hfor⟩ := hservice
      have hold : current.forgetCursor
          ∈ origin.services.map ServiceRecord.forgetCursor (fun _ => rfl) := by
        rw [← h.frame.services]
        exact Table.mem_map.mpr ⟨current, hcur, rfl⟩
      obtain ⟨first, hfir, hsame⟩ := Table.mem_map.mp hold
      have hid : first.id = service.id := congrArg (·.id) (hsame.trans hfor)
      have hspec : first.spec = service.spec := congrArg (·.spec) (hsame.trans hfor)
      refine provenance_insert h ⟨first, hfir, hid, ?_⟩
      rw [hspec]
      exact publishedPairs_allocatePorts s (Jobs.template service)
    | forget id _ =>
      refine ⟨h.frame.trans (sameFrame_withTasks s _), fun task hmem => ?_⟩
      exact h.tasks task (Table.mem_erase.mp hmem).1
    | cursor serviceId cursor hjob =>
      exact ⟨h.frame.trans (sameFrame_withCursor hjob), h.tasks⟩
  | service service hservice =>
    cases hservice with
    | retire ids _ _ _ => exact provenance_map h _ fun task _ => retireIf_samePlace live _ ids task
    | replica freshId task hservice hjob _ _ hsch =>
      obtain ⟨node, slot, _, _, _, _, rfl⟩ := scheduleTask_some hsch
      exact provenance_insert h ⟨service, (h.frame.plain service hjob).mp hservice, rfl,
        publishedPairs_allocatePorts s service⟩

theorem Moves.provenance (h : Moves live s s') : Provenance s live s' :=
  keeps_of_step (P := Provenance s live) (fun _ _ hmove hs => hmove.provenance hs) h
    ⟨SameFrame.refl s, fun task hmem => .inl ⟨task, hmem, SamePlace.refl live task⟩⟩

end Provenance

/-! ## Capacity of a node and of a service -/

/-- The bound on the tasks of a service that share a node. -/
def nodeBound (state : ClusterState) (service : ServiceRecord) (nodeId : String) (limit : Nat) :
    Nat :=
  limit + if 0 < service.spec.maxSurge then state.tasks.count (oldRunningOnNode service nodeId)
    else 0

/-- The node holds no more tasks of the service than its limit allows; no limit
and a limit of `0` allow any number. -/
def WithinNodeLimit (state : ClusterState) (service : ServiceRecord) (nodeId : String) : Prop :=
  ∀ limit, service.spec.maxReplicasPerNode = some limit → limit ≠ 0 →
    state.tasks.count (occupiesNode service nodeId) ≤ nodeBound state service nodeId limit

/-- The bound on the tasks of a service on live nodes. -/
def serviceBound (state : ClusterState) (service : ServiceRecord) (live : Keys String) : Nat :=
  service.spec.replicas
    + if state.tasks.rows.any (oldRunning service live) then service.spec.maxSurge else 0

theorem creationBudget_le (svc : ServiceRecord) (live : Keys String) (state : ClusterState) :
    creationBudget svc live state
      ≤ serviceBound state svc live - state.tasks.count (occupying svc live) := by
  unfold creationBudget serviceBound
  dsimp only
  split
  · exact Nat.min_le_right _ _
  · exact Nat.min_le_right _ _

theorem withinNodeLimit_insert {freshId : String} (hfresh : state.tasks.contains freshId = false)
    (hsch : scheduleTask state svc live freshId = some task) :
    WithinNodeLimit (state.withTasks (state.tasks.insert task)) svc task.nodeId := by
  obtain ⟨node, slot, _, helig, _, _, rfl⟩ := scheduleTask_some hsch
  unfold eligibleNode at helig
  simp only [Bool.and_eq_true] at helig
  have hcap := helig.1.2
  have hkeys := Table.contains_eq_false.mp hfresh
  intro limit hlim hzero
  unfold nodeHasReplicaCapacity at hcap
  rw [hlim] at hcap
  have hone : (state.tasks.insert (newTask state svc node slot freshId)).count
      (occupiesNode svc node.id) = state.tasks.count (occupiesNode svc node.id) + 1 := by
    rw [Table.count_insert hkeys]
    simp [occupiesNode, newTask, ObservedTaskState.isFailedOrLost]
  have hold : (state.tasks.insert (newTask state svc node slot freshId)).count
      (oldRunningOnNode svc node.id) = state.tasks.count (oldRunningOnNode svc node.id) := by
    rw [Table.count_insert hkeys]
    simp [oldRunningOnNode, newTask]
  unfold nodeBound
  show (state.tasks.insert (newTask state svc node slot freshId)).count
    (occupiesNode svc node.id) ≤ limit + if 0 < svc.spec.maxSurge then
      (state.tasks.insert (newTask state svc node slot freshId)).count
        (oldRunningOnNode svc node.id) else 0
  rw [hone, hold]
  simp only [hzero, if_false] at hcap
  split at hcap
  next hlt => omega
  · simp only [Bool.and_eq_true, decide_eq_true_eq] at hcap
    rw [if_pos hcap.1]
    omega

theorem WithinNodeLimit.insert_other {nodeId : String} (h : WithinNodeLimit state svc nodeId)
    (hfresh : state.tasks.contains task.id = false) (hoth : task.nodeId ≠ nodeId) :
    WithinNodeLimit (state.withTasks (state.tasks.insert task)) svc nodeId := by
  have hkeys := Table.contains_eq_false.mp hfresh
  intro limit hlim hzero
  have hcou := h limit hlim hzero
  unfold nodeBound at hcou ⊢
  rw [ClusterState.withTasks_tasks, Table.count_insert hkeys, Table.count_insert hkeys]
  simpa [occupiesNode, oldRunningOnNode, hoth] using hcou

/-- What the creation loop keeps, with `left` tasks still to create: the total
stays within the budget, and every node that got a task is within its limit. -/
structure Creating (service : ServiceRecord) (live : Keys String) (uuid : Nat → String)
    (base : Sched) (total left : Nat) (acc : Sched) : Prop where
  fresh : Fresh uuid acc
  total : acc.state.tasks.count (occupying service live) + left ≤ total
  nodes : ∀ task ∈ acc.state.tasks, task ∉ base.state.tasks →
    WithinNodeLimit acc.state service task.nodeId

theorem Creating.step (huuid : Function.Injective uuid) {base acc : Sched} {total left : Nat}
    (h : Creating svc live uuid base total (left + 1) acc)
    (hsch : scheduleTask acc.state svc live (uuid acc.minted) = some task) :
    Creating svc live uuid base total left
      { state := acc.state.withTasks (acc.state.tasks.insert task)
        changed := true
        minted := acc.minted + 1 } := by
  have hid : task.id = uuid acc.minted := by
    obtain ⟨node, slot, _, _, _, _, rfl⟩ := scheduleTask_some hsch
    rfl
  have hnew := h.fresh acc.minted (Nat.le_refl _)
  refine ⟨h.fresh.insert huuid hid rfl rfl, ?_, ?_⟩
  · have htot := h.total
    rw [ClusterState.withTasks_tasks,
      Table.count_insert (Table.contains_eq_false.mp (hid.symm ▸ hnew))]
    split <;> omega
  · intro other hoth hadd
    by_cases hnode : task.nodeId = other.nodeId
    · rw [← hnode]
      exact withinNodeLimit_insert hnew hsch
    · refine WithinNodeLimit.insert_other ?_ (hid.symm ▸ hnew) hnode
      rcases Table.mem_insert.mp hoth with rfl | ⟨hold, _⟩
      · exact absurd rfl hnode
      · exact h.nodes other hold hadd

/-- Retiring does not change how many tasks take room. -/
theorem count_occupying_retireTasks (svc : ServiceRecord) (acc : Sched) (tasks : List TaskRecord) :
    (retireTasks svc acc tasks).state.tasks.count (occupying svc live)
      = acc.state.tasks.count (occupying svc live) := by
  rw [retireTasks_state, ClusterState.withTasks_tasks, Table.count_map]
  refine Table.count_congr fun task _ => ?_
  unfold occupying retireIf retireRecord
  split
  · split <;> rfl
  · rfl

theorem count_occupying_retiredTurn (live : Keys String) (svc : ServiceRecord) (acc : Sched) :
    (retiredTurn svc live acc).state.tasks.count (occupying svc live)
      = acc.state.tasks.count (occupying svc live) := by
  unfold retiredTurn
  exact count_occupying_retireTasks svc acc _

section Turn

variable (huuid : Function.Injective uuid) {service : ServiceRecord} {acc : Sched}
  (hfresh : Fresh uuid acc)

include huuid hfresh

variable (live service) in
/-- The creation loop of a turn, run to its end. -/
theorem createTasks_creating : (createTasks service live uuid
        (creationBudget service live (retiredTurn service live acc).state)
        (retiredTurn service live acc)).state.tasks.count (occupying service live)
      ≤ (retiredTurn service live acc).state.tasks.count (occupying service live)
        + creationBudget service live (retiredTurn service live acc).state ∧
    ∀ task ∈ (createTasks service live uuid
        (creationBudget service live (retiredTurn service live acc).state)
        (retiredTurn service live acc)).state.tasks,
      task ∉ (retiredTurn service live acc).state.tasks →
      WithinNodeLimit (createTasks service live uuid
        (creationBudget service live (retiredTurn service live acc).state)
        (retiredTurn service live acc)).state service task.nodeId := by
  have hsta : Creating service live uuid (retiredTurn service live acc)
      ((retiredTurn service live acc).state.tasks.count (occupying service live)
        + creationBudget service live (retiredTurn service live acc).state)
      (creationBudget service live (retiredTurn service live acc).state)
      (retiredTurn service live acc) :=
    ⟨retiredTurn_fresh live service hfresh, Nat.le_refl _, fun task hmem hnew => absurd hmem hnew⟩
  obtain ⟨left, _, hdone, _⟩ := createTasks_spec
    (P := Creating service live uuid (retiredTurn service live acc) _)
    (fun _ _ _ h hsch => h.step huuid hsch) _ _ hsta
  refine ⟨?_, hdone.nodes⟩
  have htot := hdone.total
  omega

/-- Creation adds no old task, so the surge allowance is the same before and after. -/
theorem any_oldRunning_createTasks (n : Nat) :
    (createTasks service live uuid n acc).state.tasks.rows.any (oldRunning service live)
      = acc.state.tasks.rows.any (oldRunning service live) := by
  rw [Bool.eq_iff_iff, List.any_eq_true, List.any_eq_true]
  constructor
  · intro h
    obtain ⟨task, hmem, hold⟩ := h
    rcases mem_createTasks hmem with hmem | hnew
    · exact ⟨task, hmem, hold⟩
    · unfold oldRunning at hold
      simp [hnew.revision] at hold
  · intro h
    obtain ⟨task, hmem, hold⟩ := h
    exact ⟨task, mem_createTasks_of_mem huuid hfresh hmem, hold⟩

/-- **The turn of a service stays within its total, or does not raise it.** -/
theorem turn_occupancy (hjob : service.spec.job = none) :
    (reconcileStep live uuid acc service).state.tasks.count (occupying service live)
        ≤ serviceBound (reconcileStep live uuid acc service).state service live ∨
      (reconcileStep live uuid acc service).state.tasks.count (occupying service live)
        ≤ acc.state.tasks.count (occupying service live) := by
  rcases reconcileStep_cases hjob live uuid acc with ⟨_, heq⟩ | heq | ⟨_, _, _, heq⟩
  · rw [heq]
    exact .inr (Nat.le_refl _)
  · rw [heq]
    exact .inr (Nat.le_of_eq (count_occupying_retireTasks ..))
  · rw [heq]
    have hcou := (createTasks_creating live huuid service hfresh).1
    have hret := count_occupying_retiredTurn live service acc
    have hbud := creationBudget_le service live (retiredTurn service live acc).state
    have hbou : serviceBound (createTasks service live uuid
          (creationBudget service live (retiredTurn service live acc).state)
          (retiredTurn service live acc)).state service live
        = serviceBound (retiredTurn service live acc).state service live := by
      unfold serviceBound
      rw [any_oldRunning_createTasks huuid (retiredTurn_fresh live service hfresh)]
    omega

/-- **A node that gets a task of the service in its turn is within the limit.** -/
theorem turn_capacity (hjob : service.spec.job = none)
    (hmem : task ∈ (reconcileStep live uuid acc service).state.tasks)
    (htask : task.serviceId = service.id)
    (hnew : ∀ old ∈ acc.state.tasks, old.serviceId = service.id → old.id ≠ task.id) :
    WithinNodeLimit (reconcileStep live uuid acc service).state service task.nodeId := by
  have hret : ∀ tasks, task ∉ (retireTasks service acc tasks).state.tasks := by
    intro tasks h
    rw [retireTasks_state, ClusterState.withTasks_tasks, Table.mem_map] at h
    obtain ⟨old, hold, rfl⟩ := h
    have hsame := retireIf_samePlace live (isServiceHttpRouted acc.state service)
      (tasks.map TaskRecord.id) old
    exact hnew old hold (hsame.serviceId.symm.trans htask) hsame.id.symm
  rcases reconcileStep_cases hjob live uuid acc with ⟨_, heq⟩ | heq | ⟨_, _, _, heq⟩
  · rw [heq] at hmem
    exact absurd rfl (hnew task hmem htask)
  · rw [heq] at hmem
    exact absurd hmem (hret _)
  · rw [heq] at hmem ⊢
    exact (createTasks_creating live huuid service hfresh).2 task hmem (hret _)

end Turn

/-! ## The whole pass -/

section Pass

variable (huuid : Function.Injective uuid) {state : ClusterState}
  (hfresh : Fresh uuid { state }) {service : ServiceRecord} (hservice : service ∈ state.services)
  (hjob : service.spec.job = none)

include huuid hfresh hservice hjob

/-- Counts that only look at tasks of the service are those of its turn. -/
theorem count_reconcile_of_turn {p : TaskRecord → Bool}
    (hp : ∀ task, p task = true → task.serviceId = service.id) :
    (reconcile ext uuid live now state).state.tasks.count p
      = (reconcileStep live uuid (turnStart ext uuid live now state service)
          service).state.tasks.count p :=
  Table.count_eq_of_mem_iff fun task htask =>
    mem_reconcile_of_turn huuid hfresh hservice hjob (hp task htask)

/-- Until its turn, a service gets no task. -/
theorem turnStart_samePlace (hmem : task ∈ (turnStart ext uuid live now state service).state.tasks)
    (htask : task.serviceId = service.id) : ∃ old ∈ state.tasks, SamePlace live old task := by
  obtain ⟨_, _, hturn⟩ := turnStart_spec ext live now huuid hfresh service
  obtain ⟨old, hold, heq, hobs, _⟩ := passStart_origin huuid hfresh hservice hjob
    ((hturn task htask).mp hmem) htask
  have hnode : task.nodeId = old.nodeId := by rw [heq]
  refine ⟨old, hold, ?_, ?_, hnode, ?_, ?_, fun hlive => ?_⟩
  · rw [heq]
  · rw [heq]
  · rw [heq]
  · rw [heq]
  · rw [hobs (hnode ▸ hlive)]

theorem count_occupying_turnStart :
    (turnStart ext uuid live now state service).state.tasks.count (occupying service live)
      ≤ state.tasks.count (occupying service live) := by
  refine Table.count_le_of_key fun task hmem htask => ?_
  unfold occupying at htask
  simp only [Bool.and_eq_true, decide_eq_true_eq] at htask
  obtain ⟨⟨hid, hlive⟩, hup⟩ := htask
  obtain ⟨old, hold, hsame⟩ := turnStart_samePlace huuid hfresh hservice hjob hmem hid
  refine ⟨old, hold, ?_, hsame.id.symm⟩
  unfold occupying
  rw [← hsame.serviceId, ← hsame.up (hsame.nodeId ▸ hlive), hup, hsame.nodeId.symm, hlive]
  simp [hid]

theorem count_occupying_reconcile :
    (reconcile ext uuid live now state).state.tasks.count (occupying service live)
        ≤ serviceBound (reconcile ext uuid live now state).state service live ∨
      (reconcile ext uuid live now state).state.tasks.count (occupying service live)
        ≤ state.tasks.count (occupying service live) := by
  obtain ⟨hfresh', _, _⟩ := turnStart_spec ext live now huuid hfresh service
  have hcou : (reconcile ext uuid live now state).state.tasks.count (occupying service live)
      = (reconcileStep live uuid (turnStart ext uuid live now state service)
          service).state.tasks.count (occupying service live) := by
    refine count_reconcile_of_turn huuid hfresh hservice hjob fun task htask => ?_
    unfold occupying at htask
    simp only [Bool.and_eq_true, decide_eq_true_eq] at htask
    exact htask.1.1
  have hbou : serviceBound (reconcile ext uuid live now state).state service live
      = serviceBound (reconcileStep live uuid (turnStart ext uuid live now state service)
          service).state service live := by
    unfold serviceBound
    rw [Table.rows_any_congr fun task htask =>
      mem_reconcile_of_turn huuid hfresh hservice hjob (oldRunning_serviceId htask)]
  rw [hcou, hbou]
  rcases turn_occupancy huuid hfresh' hjob with h | h
  · exact .inl h
  · exact .inr (Nat.le_trans h (count_occupying_turnStart huuid hfresh hservice hjob))

theorem withinNodeLimit_reconcile (hmem : task ∈ (reconcile ext uuid live now state).state.tasks)
    (htask : task.serviceId = service.id) (hnew : state.tasks.contains task.id = false) :
    WithinNodeLimit (reconcile ext uuid live now state).state service task.nodeId := by
  obtain ⟨hfresh', _, _⟩ := turnStart_spec ext live now huuid hfresh service
  have hadd : ∀ old ∈ (turnStart ext uuid live now state service).state.tasks,
      old.serviceId = service.id → old.id ≠ task.id := by
    intro old hold hid heq
    obtain ⟨first, hfir, hsame⟩ := turnStart_samePlace huuid hfresh hservice hjob hold hid
    exact Table.contains_eq_false.mp hnew first hfir (hsame.id.symm.trans heq)
  have hlim := turn_capacity huuid hfresh' hjob
    ((mem_reconcile_of_turn huuid hfresh hservice hjob htask).mp hmem) htask hadd
  intro limit hsome hzero
  have hcou := hlim limit hsome hzero
  unfold nodeBound at hcou ⊢
  rw [count_reconcile_of_turn huuid hfresh hservice hjob,
    count_reconcile_of_turn huuid hfresh hservice hjob]
  · exact hcou
  · intro other hoth
    unfold oldRunningOnNode at hoth
    simp only [Bool.and_eq_true, decide_eq_true_eq] at hoth
    exact hoth.1.1.1.2
  · intro other hoth
    unfold occupiesNode at hoth
    simp only [Bool.and_eq_true, decide_eq_true_eq] at hoth
    exact hoth.1.2

end Pass

/-- What is required of the replicas a pass from `state` to `final` has created,
and of the totals it leaves. -/
structure PlacementSound (live : Keys String) (state final : ClusterState) : Prop where
  replicas : ∀ task ∈ final.tasks, task.job = none → state.tasks.contains task.id = false →
    ∃ service ∈ state.services, Placed live final service task ∧
      WithinNodeLimit final service task.nodeId
  totals : ∀ service ∈ state.services, service.spec.job = none →
    final.tasks.count (occupying service live) ≤ serviceBound final service live ∨
      final.tasks.count (occupying service live) ≤ state.tasks.count (occupying service live)

/-- **Every replica a pass creates is placed soundly, and no service outgrows its
replica count.** -/
theorem reconcile_placement_sound (ext : Externals) {uuid : Nat → String}
    (huuid : Function.Injective uuid) (live : Keys String) (now : Int) (state : ClusterState)
    (hfresh : Fresh uuid { state }) :
    PlacementSound live state (reconcile ext uuid live now state).state := by
  have hmov := reconcile_moves live ext huuid now hfresh
  have hsta : NewPlaced state live state := by
    intro task hmem _ hnew
    exact absurd rfl (Table.contains_eq_false.mp hnew task hmem)
  have hpla := keeps_of_step (P := NewPlaced state live)
    (fun _ _ hmove h => hmove.newPlaced h) hmov hsta
  constructor
  · intro task hmem hplai hnew
    obtain ⟨service, hservice, hsou⟩ := hpla task hmem hplai hnew
    have hmemb := (hmov.sameFrame.plain service hsou.plain).mp hservice
    exact ⟨service, hmemb, hsou,
      withinNodeLimit_reconcile huuid hfresh hmemb hsou.plain hmem hsou.serviceId hnew⟩
  · intro service hservice hjob
    exact count_occupying_reconcile huuid hfresh hservice hjob

section Example

/-- One replica of a service is wanted, at most `limit` on a node. -/
def limitedService (limit : Nat) : ServiceRecord :=
  { id := "shop.web", stack := "shop", name := "web", revision := 1, deleted := false,
    spec := { image := "web:1", maxReplicasPerNode := some limit,
              ports := [⟨80, some 8080, "tcp"⟩] } }

def limitedState (limit : Nat) : ClusterState :=
  { services := Table.ofList [limitedService limit]
    nodes := Table.ofList [{ id := "n1", address := "10.0.0.1" }] }

def limitedPass (limit : Nat) : ClusterState :=
  (reconcile ⟨fun spec => spec.image, fun _ _ => none⟩ unaryId (Keys.ofElems ["n1"]) 0
    (limitedState limit)).state

/-- The pass creates one task, and soundly. -/
theorem reconcile_placement_sound_limited :
    (limitedPass 1).tasks.count (occupiesNode (limitedService 1) "n1") = 1 ∧
      PlacementSound (Keys.ofElems ["n1"]) (limitedState 1) (limitedPass 1) :=
  ⟨by decide +kernel,
    reconcile_placement_sound _ unaryId_injective (Keys.ofElems ["n1"]) 0 (limitedState 1)
      (fresh_unaryId (by decide +kernel))⟩

/-- A limit of `0` does not keep a task off the node. -/
theorem zero_limit_is_exceeded :
    (limitedService 0).spec.maxReplicasPerNode = some 0 ∧
    (limitedState 0).tasks.count (occupiesNode (limitedService 0) "n1") = 0 ∧
    (limitedPass 0).tasks.count (occupiesNode (limitedService 0) "n1")
      > nodeBound (limitedPass 0) (limitedService 0) "n1" 0 := by
  decide +kernel

end Example

end Swarmlite
