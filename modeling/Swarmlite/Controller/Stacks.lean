import Swarmlite.Core.Gateway

/-!
# Names and targets — `controller/stacks.rs`, `membership.rs`

Requests name a service or a stack by a string. The functions here look the
name up, explain a name of the wrong kind, and check what a request asks the
gateway for against what other stacks already own.

Mirroring notes:
- `ControllerError` and `StorageError` are those of `mod.rs` and `storage.rs`.
- `{:?}` of a string is `Text.quoted`.
- A failed `expect` kills the request that meets it. It is the error `panicked`,
  which the source's type does not have.
-/

namespace Swarmlite

open Ordered

variable {state : ClusterState} {stackName : String}

/-! ## Errors -/

inductive StorageError where
  | credentialInactive
  | conflict
  | backend (message : String)
  | invalidData (message : String)
deriving DecidableEq

inductive ControllerError where
  | unauthorized
  | forbidden
  | rateLimited
  | invalid (message : String)
  | notFound (message : String)
  | conflict (message : String)
  | storage (error : StorageError)
  | panicked (message : String)
deriving DecidableEq

def ControllerError.ofStorage : StorageError → ControllerError
  | .credentialInactive => .unauthorized
  | error => .storage error

/-! ## Services and stacks by name -/

/-- The records of a stack that are not deleted, in id order. -/
def activeServices (state : ClusterState) (stackName : String) : List ServiceRecord :=
  state.services.rows.filter fun service => service.stack = stackName && !service.deleted

def stackIsActive (state : ClusterState) (stackName : String) : Bool :=
  !(activeServices state stackName).isEmpty
    || ((state.stackRecords.get? stackName).any fun stack => stack.gateway.hasRoutes)
    || state.gatewayRoutes.contains stackName

/-- The target is the id of a task, the start of one, or `service.slot`. -/
def targetMatchesTask (state : ClusterState) (target : String) : Bool :=
  state.tasks.contains target
    || (!target.isEmpty && state.tasks.rows.any fun task => Text.startsWith target task.id)
    || state.tasks.rows.any fun task =>
      task.serviceId ++ "." ++ toString (min (task.slot + 1) 4294967295) = target

def stackServiceHint (state : ClusterState) (stack : String) : String :=
  let services := (activeServices state stack).map ServiceRecord.id
  if services.isEmpty then " This Stack has no active Services"
  else
    let hidden := services.length - 8
    " Available Services: " ++ ", ".intercalate (services.take 8)
      ++ (if hidden > 0 then " (and " ++ toString hidden ++ " more)" else "")

def resolveService (state : ClusterState) (target operation : String) :
    Except ControllerError ServiceRecord :=
  match (state.services.get? target).filter fun service => !service.deleted with
  | some service => .ok service
  | none =>
    if stackIsActive state target then
      .error (.invalid (operation ++ " expects a Service (STACK.SERVICE), but "
        ++ Text.quoted target ++ " is a Stack." ++ stackServiceHint state target))
    else if targetMatchesTask state target then
      .error (.invalid (operation ++ " expects a Service (STACK.SERVICE), but "
        ++ Text.quoted target ++ " identifies a Task; use the Task's parent Service instead"))
    else
      .error (.notFound ("Service " ++ Text.quoted target ++ " not found; " ++ operation
        ++ " expects STACK.SERVICE. Run `swarmlite ls` to list available Services"))

def requireStack (state : ClusterState) (target operation : String) :
    Except ControllerError Unit :=
  if stackIsActive state target then .ok ()
  else
    match (state.services.get? target).filter fun service => !service.deleted with
    | some service =>
      .error (.invalid (operation ++ " expects a Stack name, but " ++ Text.quoted target
        ++ " is a Service in Stack " ++ Text.quoted service.stack ++ "; use "
        ++ Text.quoted service.stack ++ " instead"))
    | none =>
      if targetMatchesTask state target then
        .error (.invalid (operation ++ " expects a Stack name, but " ++ Text.quoted target
          ++ " identifies a Task; use the Task's Stack instead"))
      else
        .error (.notFound ("Stack " ++ Text.quoted target ++ " not found; " ++ operation
          ++ " expects a Stack name. Run `swarmlite ls` to list available Stacks"))

def stackNotFound (stackName : String) : ControllerError :=
  .notFound ("stack " ++ Text.quoted stackName ++ " not found")

/-- The stack as it is deployed now, in the form of a parsed stack file. -/
def currentStack (state : ClusterState) (stackName : String) :
    Except ControllerError ParsedStack :=
  match state.stackRecords.get? stackName with
  | none => .error (stackNotFound stackName)
  | some stack =>
    .ok {
      services := (activeServices state stackName).foldl
        (fun services service => Map.put services service.name service.spec) Table.empty
      gateway := stack.gateway }

def checkStackName (name : String) : Except ControllerError Unit :=
  if validateStackName name then .ok () else .error (.invalid validateStackNameError)

/-! ## Ownership of ports and hostnames -/

/-- Who reserves TCP ports: the desired specs, then the served fragments. -/
def reservedSpecs (state : ClusterState) : List (String × StackGatewaySpec) :=
  (state.stackRecords.rows.map fun stack => (stack.name, stack.gateway))
    ++ state.gatewayRoutes.rows.map fun entry => (entry.1, entry.2.gateway)

/-- Who owns hostnames: the served fragment of a stack, or its spec if it serves
nothing. -/
def hostnameOwners (state : ClusterState) : Map String StackGatewaySpec :=
  let served : Map String StackGatewaySpec := state.gatewayRoutes.rows.foldl
    (fun owners entry => Map.put owners entry.1 entry.2.gateway) Table.empty
  state.stackRecords.rows.foldl (fun owners stack =>
    if owners.contains stack.name then owners else owners.put stack.name stack.gateway) served

def validateGatewayHostnameOwnership (state : ClusterState) (stackName : String)
    (gateway : StackGatewaySpec) : Except ControllerError Unit :=
  let requested := gateway.httpRoutes.flatMap HttpRouteSpec.hostnames
  let requestedTcp := gateway.tcpRoutes.map TcpRouteSpec.listen
  let takenPort := (reservedSpecs state).findSome? fun owner =>
    if owner.1 = stackName then none
    else (owner.2.tcpRoutes.find? fun route => requestedTcp.contains route.listen).map
      fun route => (route.listen, owner.1)
  match takenPort with
  | some (listen, owner) =>
    .error (.conflict ("gateway TCP port " ++ toString listen ++ " is already owned by stack "
      ++ Text.quoted owner))
  | none =>
    let takenHost := (hostnameOwners state).rows.findSome? fun owner =>
      if owner.1 = stackName then none
      else ((owner.2.httpRoutes.flatMap HttpRouteSpec.hostnames).find? fun hostname =>
        requested.contains hostname).map fun hostname => (hostname, owner.1)
    match takenHost with
    | some (hostname, owner) =>
      .error (.conflict ("gateway hostname " ++ Text.quoted hostname
        ++ " is already owned by stack " ++ Text.quoted owner))
    | none => .ok ()

/-! ## Node labels -/

def validateNodeLabelKey (key : String) : Except ControllerError Unit :=
  if key.isEmpty || Text.byteLength key > 256 || Text.trim key != key || Text.contains "=" key
      || key.toList.any Text.isControl then
    .error (.invalid ("node label key must contain 1 to 256 bytes without control characters, "
      ++ "'=' or surrounding whitespace"))
  else .ok ()

def validateNodeLabel (key value : String) : Except ControllerError Unit :=
  match validateNodeLabelKey key with
  | .error error => .error error
  | .ok () =>
    if Text.byteLength value > 4096 || value.toList.any Text.isControl then
      .error (.invalid
        "node label value must contain at most 4096 bytes without control characters")
    else .ok ()

/-! ## What a lookup returns -/

theorem resolveService_ok {target operation : String}
    {svc : ServiceRecord} (h : resolveService state target operation = .ok svc) :
    svc ∈ state.services ∧ svc.id = target ∧ svc.deleted = false := by
  unfold resolveService at h
  split at h
  next found hfou =>
    cases h
    obtain ⟨hget, hact⟩ := Option.filter_eq_some_iff.mp hfou
    exact ⟨Table.mem_of_get? hget, Table.key_of_get? hget, by simpa using hact⟩
  · split at h
    · cases h
    · split at h
      · cases h
      · cases h

theorem mem_activeServices {svc : ServiceRecord} : svc ∈ activeServices state stackName ↔
      svc ∈ state.services ∧ svc.stack = stackName ∧ svc.deleted = false := by
  unfold activeServices
  rw [List.mem_filter]
  simp [Table.mem_rows]

/-- The stack that is read back holds exactly its active services. -/
theorem mem_currentStack {parsed : ParsedStack}
    (hnam : ∀ svc ∈ state.services, ∀ other ∈ state.services,
      svc.stack = other.stack → svc.name = other.name → svc = other)
    (h : currentStack state stackName = .ok parsed) {name : String} {spec : ServiceSpec} :
    (name, spec) ∈ parsed.services ↔
      ∃ svc ∈ activeServices state stackName, svc.name = name ∧ svc.spec = spec := by
  unfold currentStack at h
  split at h
  · cases h
  · cases h
    have hdis : (activeServices state stackName).Pairwise fun a b => a.name ≠ b.name := by
      have hnod : (activeServices state stackName).Nodup := state.services.rows_nodup.filter _
      refine hnod.imp_of_mem fun ha hb hne hname => hne ?_
      obtain ⟨hmemA, hstaA, -⟩ := mem_activeServices.mp ha
      obtain ⟨hmemB, hstaB, -⟩ := mem_activeServices.mp hb
      exact hnam _ hmemA _ hmemB (hstaA.trans hstaB.symm) hname
    rw [Map.mem_foldl_put ServiceRecord.name ServiceRecord.spec hdis fun _ _ => rfl]
    exact or_iff_right Table.mem_empty

end Swarmlite
