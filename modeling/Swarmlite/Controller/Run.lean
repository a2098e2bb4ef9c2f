import Swarmlite.Controller.Lifecycle

/-!
# Runs of the controller

The controller as a state machine. A `World` is a controller process, its
database, and the stack operations under way; an `Event` is what the outside can
do to it, together with the surroundings (`Env`) it meets. Events interleave in
any order and any number, so a property of every `Reachable` world holds for
every schedule of agents, clients, timers and restarts.

Requests that change a stack take several events (`scale`, then `reserve`, then
`commit`), because other requests may come in between; `abandon` is a client that
goes away. `restart` replaces the process, with the same database and possibly
another configuration.

The one assumption about the surroundings is `FreshIds`: a UUID is never drawn
twice.
-/

namespace Swarmlite

open Ordered

structure World where
  config : ControllerConfig
  server : Server
  requests : List Request := []

def World.state (world : World) : ClusterState := world.server.inner.state

/-- `begin_stack_deployment` would fail. -/
def World.reserved (world : World) (stackName : String) : Bool :=
  world.requests.any fun request => request.reserved = some stackName

inductive Event where
  | heartbeat (nodeId : String) (body : NodeHeartbeat)
  | tick
  /-- Requests that end in an apply. -/
  | apply (stackName : String) (parsed : ParsedStack)
      (credentials : Map String RegistryCredential) (replace : Bool)
  | rollback (stackName : String) (generation : Option Nat)
  | scale (target : String) (replicas : Nat)
  | forceUpdate (target : String)
  | remove (stackName : String)
  | startPrepared
  /-- Their later phases; requests are numbered in order of arrival. -/
  | reserve (index : Nat)
  | commit (index : Nat)
  | abandon (index : Nat)
  | failPrepared (operationId : String)
  /-- Requests that take the lock once. -/
  | retry (stackName : String)
  | submitOperation (request : OperationRequest)
  | join (nodeId : String) (request : JoinRequest)
  | updateGateway (nodeId : String) (enabled : Bool)
  | updateLabel (nodeId key : String) (value : Option String)
  | runJob (target : String)
  | cancelJob (taskId : String)
  | registryLogin (registry : String) (credential : RegistryCredential)
  | updateClusterConfig (cluster : ClusterSettings)
  | restart (config : ControllerConfig)

theorem Event.ne_restart_or (event : Event) :
    (∀ config, event ≠ .restart config) ∨ ∃ config, event = .restart config := by
  cases event with
  | restart config => exact .inr ⟨config, rfl⟩
  | _ => exact .inl fun _ h => nomatch h

namespace World

/-- A request that changed the server, or failed without an effect. -/
def served (world : World) : Except ControllerError Server → World
  | .ok server => { world with server }
  | .error _ => world

/-- A request that goes on, or failed. -/
def queued (world : World) : Except ControllerError Request → World
  | .ok request => { world with requests := world.requests ++ [request] }
  | .error _ => world

/-- A stack file reserves its stack at once. -/
def guarded (world : World) : Except ControllerError ApplyRequest → World
  | .ok request =>
    if world.reserved request.stackName then world
    else { world with requests := world.requests ++ [.guarded request] }
  | .error _ => world

/-- The next phase of a request: it reserves its stack, or ends. -/
def reserve (world : World) (index : Nat) : World :=
  match world.requests[index]? with
  | none => world
  | some request =>
    match request with
    | .guarded _ => world
    | request =>
      match request.guard world.state with
      | .error _ => { world with requests := world.requests.eraseIdx index }
      | .ok apply =>
        if world.reserved apply.stackName then
          { world with requests := world.requests.eraseIdx index }
        else { world with requests := world.requests.set index (.guarded apply) }

/-- The last phase of a request. -/
def commit (platform : Platform) (env : Env) (world : World) (index : Nat) : World :=
  match world.requests[index]? with
  | some (.guarded request) =>
    let world' := { world with requests := world.requests.eraseIdx index }
    world'.served (applyGuarded platform world.config env world.server request)
  | _ => world

def startPrepared (world : World) : World :=
  match readyOperation world.state with
  | none => world
  | some op => world.queued (prepareOperation world.state op.view.operationId op.view.service)

def restart (platform : Platform) (env : Env) (world : World) (config : ControllerConfig) : World :=
  match start platform config env world.server.disk with
  | .error _ => world
  | .ok server => { config, server }

end World

/-- One event. -/
def World.step (platform : Platform) (env : Env) (world : World) : Event → World
  | .heartbeat nodeId body =>
    { world with server := (heartbeat platform world.config env world.server nodeId body).1 }
  | .tick => { world with server := tick platform world.config env world.server }
  | .apply stackName parsed credentials replace =>
    world.guarded (applyWithRegistryCredentials stackName parsed credentials replace)
  | .rollback stackName generation =>
    world.guarded (rollbackStack world.state stackName generation)
  | .scale target replicas => world.queued (scaleService world.state target replicas)
  | .forceUpdate target => world.queued (forceUpdateService world.state target)
  | .remove stackName => world.queued (removeStack world.state stackName)
  | .startPrepared => world.startPrepared
  | .reserve index => world.reserve index
  | .commit index => world.commit platform env index
  | .abandon index => { world with requests := world.requests.eraseIdx index }
  | .failPrepared operationId =>
    world.served (failPreparedOperation platform world.config env world.server operationId)
  | .retry stackName =>
    if world.reserved stackName then world
    else world.served (retryStackDeployment platform world.config env world.server stackName)
  | .submitOperation request =>
    world.served
      ((submitServiceOperation platform world.config env world.server request).map Prod.fst)
  | .join nodeId request =>
    world.served (joinNode platform world.config env world.server nodeId request)
  | .updateGateway nodeId enabled =>
    world.served (updateNodeGateway platform world.config env world.server nodeId enabled)
  | .updateLabel nodeId key value =>
    world.served (updateNodeLabel platform world.config env world.server nodeId key value)
  | .runJob target => world.served (runJob platform world.config env world.server target)
  | .cancelJob taskId => world.served (cancelJobTask platform world.config env world.server taskId)
  | .registryLogin registry credential =>
    world.served (setRegistryCredential platform world.config env world.server registry credential)
  | .updateClusterConfig cluster =>
    { world with server := updateClusterConfig platform world.config env world.server cluster }
  | .restart config => world.restart platform env config

/-- Ids drawn while an event is processed are new: to each other, to the tasks and
to the containers the controller knows of. -/
structure FreshIds (env : Env) (world : World) : Prop where
  injective : Function.Injective env.uuid
  tasks : ∀ k, world.state.tasks.contains (env.uuid k) = false
  unclaimed : ∀ k, world.state.unclaimedTasks.contains (env.uuid k) = false

/-- Every controller that started on a new database, or on one made from a
gateway's snapshot, and everything that can happen to it. -/
inductive Reachable (platform : Platform) : World → Prop
  | fresh {config : ControllerConfig} {env : Env} {server : Server}
      (h : start platform config env (initialDisk config) = .ok server) :
      Reachable platform { config, server }
  | recovered {config : ControllerConfig} {env : Env} {snapshot : GatewayRecoverySnapshot}
      {server : Server}
      (h : start platform config env (recoveredDisk config snapshot) = .ok server) :
      Reachable platform { config, server }
  | step {world : World} (hworld : Reachable platform world) (env : Env) (event : Event)
      (hfresh : FreshIds env world) : Reachable platform (world.step platform env event)

/-! ## Concrete runs

Ids in a concrete run begin with a tag chosen for the event, so that freshness can
be checked by comparing tags with the ids in use (`World.inputsFresh`). -/

/-- `tag`, `tag-`, `tag--`, … -/
def taggedId (tag : String) (k : Nat) : String := tag ++ String.ofList (List.replicate k '-')

theorem taggedId_injective (tag : String) : Function.Injective (taggedId tag) := by
  intro a b h
  have hlis := congrArg String.toList h
  simp only [taggedId, String.toList_append, String.toList_ofList] at hlis
  have hlen := congrArg List.length (List.append_cancel_left hlis)
  rw [List.length_replicate, List.length_replicate] at hlen
  exact hlen

/-- An event at a time. The clock stands still while it is processed, unless a
later reading is given. -/
structure Input where
  event : Event
  tag : String
  now : Clock := ⟨0, 0⟩
  later : Clock := now

def Input.env (input : Input) : Env :=
  { now := input.now, later := input.later, uuid := taggedId input.tag }

def World.perform (platform : Platform) (world : World) (inputs : List Input) : World :=
  inputs.foldl (fun world input => world.step platform input.env input.event) world

/-- No id in use begins with the tag. -/
def World.tagFree (world : World) (tag : String) : Bool :=
  (world.state.tasks.rows.all fun task => !tag.toList.isPrefixOf task.id.toList)
    && world.state.unclaimedTasks.rows.all fun task => !tag.toList.isPrefixOf task.id.toList

def World.inputsFresh (platform : Platform) : World → List Input → Bool
  | _, [] => true
  | world, input :: inputs =>
    world.tagFree input.tag
      && inputsFresh platform (world.step platform input.env input.event) inputs

theorem ne_taggedId {tag id : String} (h : (!tag.toList.isPrefixOf id.toList) = true) (k : Nat) :
    id ≠ taggedId tag k := by
  intro heq
  subst heq
  have hpre : tag.toList.isPrefixOf (taggedId tag k).toList = true := by
    rw [List.isPrefixOf_iff_prefix, taggedId, String.toList_append]
    exact List.prefix_append _ _
  rw [hpre] at h
  cases h

theorem freshIds_of_tagFree {world : World} {input : Input}
    (h : world.tagFree input.tag = true) : FreshIds input.env world := by
  unfold World.tagFree at h
  obtain ⟨htas, hunc⟩ := Bool.and_eq_true_iff.mp h
  refine ⟨taggedId_injective input.tag, fun k => ?_, fun k => ?_⟩
  · exact Table.contains_eq_false.mpr fun task htask =>
      ne_taggedId (List.all_eq_true.mp htas task htask) k
  · exact Table.contains_eq_false.mpr fun task htask =>
      ne_taggedId (List.all_eq_true.mp hunc task htask) k

theorem Reachable.perform {plat : Platform} :
    ∀ {inputs : List Input} {world : World}, Reachable plat world →
      world.inputsFresh plat inputs = true → Reachable plat (world.perform plat inputs)
  | [], _, hworld, _ => hworld
  | input :: inputs, world, hworld, hfresh => by
    obtain ⟨htag, hrest⟩ := Bool.and_eq_true_iff.mp hfresh
    show Reachable plat ((world.step plat input.env input.event).perform plat inputs)
    exact Reachable.perform (hworld.step input.env input.event (freshIds_of_tagFree htag)) hrest

/-- Libraries for concrete runs. -/
def samplePlatform : Platform :=
  { specHash := fun spec => spec.image
    nextAfter := fun _ _ => none
    requestHash := fun _ service _ => service
    advertisedHost := fun url => url
    deployAddress := fun url _ => url
    defaultGatewayImage := "gateway" }

/-- A cluster whose controller is the node `c`, with a gateway. -/
def sampleConfig : ControllerConfig :=
  { deployPort := 17081
    gatewayEnabled := true
    labels := Table.empty
    advertiseUrl := "c.local"
    nodeTimeoutSeconds := 10
    gatewayDrainTimeoutSeconds := 5
    cluster := { clusterId := "sample", controllerId := "c", gateway := { image := "gateway" } } }

/-- The controller of the sample cluster on a new database. -/
def sampleServer : Server :=
  let env : Env := { now := ⟨0, 0⟩, later := ⟨0, 0⟩, uuid := taggedId "" }
  let state := startState samplePlatform sampleConfig env {} 1
  let disk : VersionedState :=
    { generation := 2, cluster := sampleConfig.cluster, state := state.persisted }
  { inner := serve samplePlatform sampleConfig env disk state sampleConfig.cluster 1, disk }

def sampleWorld : World := { config := sampleConfig, server := sampleServer }

theorem sampleWorld_reachable : Reachable samplePlatform sampleWorld :=
  have hsta : start samplePlatform sampleConfig
      { now := ⟨0, 0⟩, later := ⟨0, 0⟩, uuid := taggedId "" } (initialDisk sampleConfig)
      = .ok sampleServer := rfl
  Reachable.fresh hsta

/-- A heartbeat of the sample controller's node. -/
def sampleBeat (tasks : List TaskReport) (results : List TaskReconcileReport)
    (images : List ImageResolutionReport) : Event :=
  .heartbeat "c" { node := { id := "c", address := "c.local" }, tasks, taskResults := results,
                   imageResults := images }

/-- The surroundings of an event with this tag. -/
def sampleEnv (tag : String) : Env := Input.env { event := .tick, tag }

end Swarmlite
