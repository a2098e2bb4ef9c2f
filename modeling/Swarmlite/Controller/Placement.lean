import Swarmlite.Core.Gateway

/-!
# Placing one task — `swarmlite-controller/src/scheduler.rs`, `schedule_task`

`scheduleTask` picks a node and a slot for one new task of a service and builds
its record; it never changes the state. The spec lemmas at the end say what a
returned record looks like (`scheduleTask_some`) and when one is returned
(`scheduleTask_isSome`); callers use those and never unfold the search.

Mirroring notes:
- `candidates.sort_by_key(..).first()` is the head of an insertion sort with the
  same key. The key ends in the node id, so it does not tie.
- `used_ports` groups ports by protocol; here it is the list of used
  `(port, protocol)` pairs, which is all `explicit_ports_available` asks of it.
- `Uuid::new_v4()` is the argument `freshId`.
-/

namespace Swarmlite

open Ordered

/-! ## Constraints -/

/-- What the left-hand side of a constraint denotes on a node. -/
def constraintValue (node : NodeRecord) (left : String) : Option String :=
  if left = "node.id" || left = "node.hostname" then some node.id
  else
    match Text.dropPrefix? "node.labels." left with
    | some label => node.labels.lookup label
    | none => none

def matchesConstraint (node : NodeRecord) (constraint : String) : Bool :=
  match Text.splitOnce "!=" constraint with
  | some (left, right) => constraintValue node (Text.trim left) != some (Text.trim right)
  | none =>
    match Text.splitOnce "==" constraint with
    | some (left, right) => constraintValue node (Text.trim left) == some (Text.trim right)
    | none => false

def matchesConstraints (node : NodeRecord) (constraints : List String) : Bool :=
  constraints.all (matchesConstraint node)

/-! ## Ports -/

/-- The `(port, protocol)` pairs a list of bindings publishes. -/
def publishedPairs (ports : List PortBinding) : List (Nat × String) :=
  ports.filterMap fun port => port.published.map fun published => (published, port.protocol)

/-- Ports taken on a node: those of its tasks that have neither failed nor been
lost, and those of containers nobody has claimed yet. -/
def usedPorts (state : ClusterState) (nodeId : String) : List (Nat × String) :=
  ((state.tasks.rows.filter fun task => task.nodeId = nodeId && !task.observed.isFailedOrLost)
    |>.flatMap fun task => publishedPairs task.ports)
  ++ ((state.unclaimedTasks.rows.filter fun task => task.nodeId = nodeId)
    |>.flatMap fun task => publishedPairs task.ports)

/-- The pairs a spec asks for by number. -/
def explicitPorts (spec : ServiceSpec) : List (Nat × String) :=
  spec.ports.filterMap fun port => port.published.map fun published => (published, port.protocol)

def explicitPortsAvailable (state : ClusterState) (node : NodeRecord) (spec : ServiceSpec) : Bool :=
  (explicitPorts spec).all fun pair => !(usedPorts state node.id).contains pair

/-- The routed target ports the spec does not declare itself. -/
def missingRoutedPorts (state : ClusterState) (service : ServiceRecord) : List Nat :=
  (servicePorts state service).rows.filter fun target =>
    !service.spec.ports.any fun port => port.target = target && port.protocol = "tcp"

/-- The bindings of a new task: the declared ports, then one for each routed
target port that is not among them. -/
def allocatePorts (state : ClusterState) (service : ServiceRecord) : List PortBinding :=
  (service.spec.ports.map fun port => ⟨port.target, port.published, port.protocol⟩)
    ++ (missingRoutedPorts state service).map fun target => ⟨target, none, "tcp"⟩

/-! ## Capacity -/

/-- A task of the service on the node that still occupies it. -/
def occupiesNode (service : ServiceRecord) (nodeId : String) (task : TaskRecord) : Bool :=
  task.nodeId = nodeId && task.serviceId = service.id && !task.observed.isFailedOrLost

/-- An old-revision task of the service still wanted on the node. -/
def oldRunningOnNode (service : ServiceRecord) (nodeId : String) (task : TaskRecord) : Bool :=
  task.nodeId = nodeId && task.serviceId = service.id && task.revision != service.revision
    && task.desired = .running && !task.observed.isFailedOrLost

def nodeHasReplicaCapacity (state : ClusterState) (node : NodeRecord) (service : ServiceRecord) :
    Bool :=
  match service.spec.maxReplicasPerNode with
  | none => true
  | some limit =>
    if limit = 0 then true
    else
      let active := state.tasks.count (occupiesNode service node.id)
      if active < limit then true
      else
        -- each still-running old task lends one surge slot, in start-first updates only
        let oldRunning := state.tasks.count (oldRunningOnNode service node.id)
        service.spec.maxSurge > 0 && active < limit + oldRunning

/-! ## The search -/

/-- The deployed pull-redeploy operation whose images the revision is pinned to. -/
def pinnedOperation (state : ClusterState) (service : ServiceRecord) :
    Option ServiceOperationRecord :=
  state.serviceOperations.rows.find? fun op =>
    op.view.service = service.id && op.targetRevision = service.revision
      && op.view.kind = .pullRedeploy && op.view.deploymentGeneration.isSome

/-- A node the service may be placed on now. -/
def eligibleNode (state : ClusterState) (service : ServiceRecord) (live : Keys String)
    (node : NodeRecord) : Bool :=
  live.contains node.id && matchesConstraints node service.spec.constraints
    && ((pinnedOperation state service).all fun op =>
      node.supportsServiceOperations && op.preparedImages.contains node.id)
    && nodeHasReplicaCapacity state node service
    && explicitPortsAvailable state node service.spec

/-- Wanted and not a finished job execution. -/
def wanted (task : TaskRecord) : Bool :=
  task.desired = .running && !(task.job.isSome && task.observed.isJobTerminal)

/-- Fewest tasks of this revision, then of this service, then of all; then the id. -/
def placementKey (state : ClusterState) (service : ServiceRecord) (node : NodeRecord) :
    Nat ×ₗ Nat ×ₗ Nat ×ₗ String :=
  toLex (state.tasks.count (fun task => task.nodeId = node.id && task.serviceId = service.id
      && task.revision = service.revision && wanted task),
    toLex (state.tasks.count (fun task => task.nodeId = node.id && task.serviceId = service.id
        && wanted task),
      toLex (state.tasks.count (fun task => task.nodeId = node.id && wanted task), node.id)))

/-- The eligible nodes, best first. -/
def candidates (state : ClusterState) (service : ServiceRecord) (live : Keys String) :
    List NodeRecord :=
  (state.nodes.rows.filter (eligibleNode state service live)).insertionSort
    fun a b => placementKey state service a ≤ placementKey state service b

/-- A task of the service's current revision that holds its slot. -/
def holdsSlot (service : ServiceRecord) (task : TaskRecord) : Bool :=
  task.serviceId = service.id && task.revision = service.revision && wanted task

def usedSlots (state : ClusterState) (service : ServiceRecord) : List Nat :=
  (state.tasks.rows.filter (holdsSlot service)).map TaskRecord.slot

def freeSlot (state : ClusterState) (service : ServiceRecord) : Option Nat :=
  (List.range service.spec.replicas).find? fun slot => !(usedSlots state service).contains slot

def newTask (state : ClusterState) (service : ServiceRecord) (node : NodeRecord) (slot : Nat)
    (freshId : String) : TaskRecord :=
  { id := freshId
    serviceId := service.id
    revision := service.revision
    slot := slot
    nodeId := node.id
    desired := .running
    observed := .pending
    ports := allocatePorts state service
    configDigests := serviceConfigDigests service.spec }

def scheduleTask (state : ClusterState) (service : ServiceRecord) (live : Keys String)
    (freshId : String) : Option TaskRecord :=
  match (candidates state service live).head? with
  | none => none
  | some node => (freeSlot state service).map fun slot => newTask state service node slot freshId

/-! ## What the search returns -/

variable {state : ClusterState} {node : NodeRecord} {service : ServiceRecord} {live : Keys String}

theorem mem_usedPorts {nodeId : String} {pair : Nat × String} : pair ∈ usedPorts state nodeId ↔
      (∃ task ∈ state.tasks, task.nodeId = nodeId ∧ task.observed.isFailedOrLost = false ∧
        pair ∈ publishedPairs task.ports) ∨
      ∃ task ∈ state.unclaimedTasks, task.nodeId = nodeId ∧ pair ∈ publishedPairs task.ports := by
  unfold usedPorts
  rw [List.mem_append, List.mem_flatMap, List.mem_flatMap]
  refine or_congr (exists_congr fun task => ?_) (exists_congr fun task => ?_)
  · rw [List.mem_filter, Bool.and_eq_true, decide_eq_true_eq, Bool.not_eq_true', and_assoc,
      and_assoc]
    exact Iff.rfl
  · rw [List.mem_filter, decide_eq_true_eq, and_assoc]
    exact Iff.rfl

theorem explicitPortsAvailable_iff
    {spec : ServiceSpec} : explicitPortsAvailable state node spec = true ↔
      ∀ pair ∈ explicitPorts spec, pair ∉ usedPorts state node.id := by
  unfold explicitPortsAvailable
  rw [List.all_eq_true]
  refine forall_congr' fun pair => forall_congr' fun _ => ?_
  simp

theorem mem_candidates : node ∈ candidates state service live ↔
      node ∈ state.nodes ∧ eligibleNode state service live node = true := by
  unfold candidates
  rw [List.mem_insertionSort, List.mem_filter]
  exact Iff.rfl

/-- **A returned record sits on an eligible node and in a free slot.** -/
theorem scheduleTask_some {freshId : String} {task : TaskRecord}
    (h : scheduleTask state service live freshId = some task) :
    ∃ node slot, node ∈ state.nodes ∧ eligibleNode state service live node = true ∧
      slot < service.spec.replicas ∧ slot ∉ usedSlots state service ∧
      task = newTask state service node slot freshId := by
  unfold scheduleTask at h
  split at h
  · cases h
  next node hnode =>
    obtain ⟨slot, hslot, htask⟩ := Option.map_eq_some_iff.mp h
    obtain ⟨hmem, helig⟩ := mem_candidates.mp (List.mem_of_head? hnode)
    have hran : slot < service.spec.replicas := List.mem_range.mp (List.mem_of_find?_eq_some hslot)
    have hfree : slot ∉ usedSlots state service := by
      have hfou := List.find?_some hslot
      simpa using hfou
    exact ⟨node, slot, hmem, helig, hran, hfree, htask.symm⟩

/-- A slot below the replica count is free as long as fewer than that many tasks
hold one: the slots in use cannot cover the range. -/
theorem freeSlot_isSome (h : state.tasks.count (holdsSlot service) < service.spec.replicas) :
    (freeSlot state service).isSome := by
  by_contra hnone
  have hfree : freeSlot state service = none := Option.not_isSome_iff_eq_none.mp hnone
  unfold freeSlot at hfree
  have hcov : ∀ slot ∈ List.range service.spec.replicas, slot ∈ usedSlots state service := by
    intro slot hslot
    have hused := List.find?_eq_none.mp hfree slot hslot
    simpa using hused
  have hlen : (List.range service.spec.replicas).length ≤ (usedSlots state service).length :=
    (List.subperm_of_subset List.nodup_range hcov).length_le
  rw [List.length_range] at hlen
  have hcou : (usedSlots state service).length = state.tasks.count (holdsSlot service) := by
    unfold usedSlots Table.count
    rw [List.length_map, List.countP_eq_length_filter]
  omega

/-- **With an eligible node and a slot to spare the search succeeds.** -/
theorem scheduleTask_isSome {freshId : String} (hnode : node ∈ state.nodes)
    (helig : eligibleNode state service live node = true)
    (hslo : state.tasks.count (holdsSlot service) < service.spec.replicas) :
    (scheduleTask state service live freshId).isSome := by
  have hmem := mem_candidates.mpr ⟨hnode, helig⟩
  unfold scheduleTask
  split
  next hhead =>
    rw [List.head?_eq_none_iff.mp hhead] at hmem
    cases hmem
  next best _ =>
    rw [Option.isSome_map]
    exact freeSlot_isSome hslo

end Swarmlite
