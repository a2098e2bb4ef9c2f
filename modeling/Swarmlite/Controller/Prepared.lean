import Swarmlite.Controller.Windows

/-!
# Prepared redeployments

A pull-redeploy is accepted for a service at a revision and an image. Its images
are pulled, and when all nodes are ready the controller copies the stack as it is
deployed, lets the lock go, and later applies the copy with the target forced to its
next revision. What the copy says about everything else must still be true then.

`apply_guarded` refuses the copy unless the operation is still pending and the
target still at the accepted revision and image. Any commit of the same stack in
between ends the operation or starts its deployment, so a pending operation means
that nobody applied the stack (`applyGuarded_settles`). That leaves commits of other
stacks, which do not touch the records of this one unless two dotted names meet.

`prepared_commit_changes_target_only` is the result for all runs in which they do
not: the commit bumps the target by one and changes nothing else.
`prepared_commit_loses_update` is a run in which the stack `a.b` rewrites a service of
the stack `a` and the prepared copy undoes it.
-/

namespace Swarmlite

open Ordered Relation Loop

variable {s' : ClusterState} {s : ClusterState} {cause : Cause}

/-! ## A copy of a stack -/

/-- The parsed stack is what the stack declares now. -/
structure Copy (parsed : ParsedStack) (stackName : String) (s : ClusterState) : Prop where
  services : ∀ {name : String} {spec : ServiceSpec}, (name, spec) ∈ parsed.services ↔
    ∃ service ∈ s.services, service.stack = stackName ∧ service.deleted = false ∧
      service.name = name ∧ service.spec = spec
  gateway : gatewaySpec s stackName = some parsed.gateway

variable {s : ClusterState} {stackName : String} {parsed : ParsedStack}

theorem currentStack_copy (hfil : Filed s) (h : currentStack s stackName = .ok parsed) :
    Copy parsed stackName s := by
  refine ⟨fun {name spec} => ?_, ?_⟩
  · rw [mem_currentStack hfil.names h]
    constructor
    · intro hread
      obtain ⟨service, hact, hname, hspec⟩ := hread
      obtain ⟨hmem, hsta, hdel⟩ := mem_activeServices.mp hact
      exact ⟨service, hmem, hsta, hdel, hname, hspec⟩
    · intro hser
      obtain ⟨service, hmem, hsta, hdel, hname, hspec⟩ := hser
      exact ⟨service, mem_activeServices.mpr ⟨hmem, hsta, hdel⟩, hname, hspec⟩
  · unfold currentStack at h
    split at h
    · cases h
    next stack hsta =>
      cases h
      exact congrArg (Option.map _) hsta

/-- A copy stays one as long as the services of the stack declare the same. -/
theorem Copy.of_declared (h : Copy parsed stackName s)
    (hkept : ∀ service ∈ s.services, service.stack = stackName →
      ∃ service' ∈ s'.services, service'.declared = service.declared)
    (hold : ∀ service' ∈ s'.services, service'.stack = stackName →
      ∃ service ∈ s.services, service'.declared = service.declared)
    (hgat : gatewaySpec s' stackName = gatewaySpec s stackName) :
    Copy parsed stackName s' := by
  refine ⟨fun {name spec} => ?_, hgat.trans h.gateway⟩
  rw [h.services]
  constructor
  · intro hser
    obtain ⟨service, hmem, hsta, hdel, hname, hspec⟩ := hser
    obtain ⟨service', hmem', heq⟩ := hkept service hmem hsta
    exact ⟨service', hmem', (congrArg (·.stack) heq).trans hsta,
      (congrArg (·.deleted) heq).trans hdel, (congrArg (·.name) heq).trans hname,
      (congrArg (·.spec) heq).trans hspec⟩
  · intro hser
    obtain ⟨service', hmem', hsta, hdel, hname, hspec⟩ := hser
    obtain ⟨service, hmem, heq⟩ := hold service' hmem' hsta
    exact ⟨service, hmem, (congrArg (·.stack) heq).symm.trans hsta,
      (congrArg (·.deleted) heq).symm.trans hdel, (congrArg (·.name) heq).symm.trans hname,
      (congrArg (·.spec) heq).symm.trans hspec⟩

/-- Only applies can make a copy out of date. -/
theorem Edit.copy (hedit : Edit cause s s') (hcau : ∀ request, cause ≠ .apply request)
    (h : Copy parsed stackName s) : Copy parsed stackName s' := by
  refine h.of_declared (fun service hser _ => ?_) (fun service' hser' _ => ?_) ?_
  · have hmap := hedit.declared_get? hcau service.id
    rw [Table.get?_of_mem hser, Option.map_some] at hmap
    obtain ⟨service', hget', heq⟩ := Option.map_eq_some_iff.mp hmap
    exact ⟨service', Table.mem_of_get? hget', heq⟩
  · have hmap := hedit.declared_get? hcau service'.id
    rw [Table.get?_of_mem hser', Option.map_some] at hmap
    obtain ⟨service, hget, heq⟩ := Option.map_eq_some_iff.mp hmap.symm
    exact ⟨service, Table.mem_of_get? hget, heq.symm⟩
  · rcases hedit.gatewaySpec_eq stackName with hsame | ⟨request, hown, -, -⟩
    · exact hsame
    · exact absurd hown (hcau request)

/-! ## What an apply leaves -/

section Apply

variable {plat : Platform} {config : ControllerConfig} {env : Env} {server server' : Server}
  {request : ApplyRequest} (huuid : Function.Injective env.uuid)
  (htasks : ∀ k, server.inner.state.tasks.contains (env.uuid k) = false)
  (hunclaimed : ∀ k, server.inner.state.unclaimedTasks.contains (env.uuid k) = false)
  (h : applyGuarded plat config env server request = .ok server')

/-- The state before the scheduler, in the tables it does not touch. -/
theorem applyDesired_frame (ext : Externals) (inner : Inner) (req : ApplyRequest) (now : Int)
    (plan : Planning) :
    (applyDesired ext inner req now plan).stackRecords
      = (requestedState inner req now plan).stackRecords ∧
    (applyDesired ext inner req now plan).serviceOperations
      = (startOwnedDeployment (requestedState inner req now plan) req.policy
          (inner.generation + 1) now).serviceOperations := by
  have hres := (restoreUnclaimedServiceRevisions_restored ext
    (requestedState inner req now plan) plan.newServiceIds.rows).rest
  unfold applyDesired
  dsimp only
  rw [adopts_rest (adoptUnclaimedTasks_adopts ext _ req.stackName)]
  constructor
  · show (startOwnedDeployment _ _ _ _).stackRecords = _
    rw [startOwnedDeployment_rest, hres]
  · show (startOwnedDeployment _ _ _ _).serviceOperations = _
    rw [hres]
    unfold startOwnedDeployment
    split <;> rfl

include huuid htasks hunclaimed h

omit h in
/-- The scheduled state, before the routes of the stack are replaced. -/
theorem applyScheduled_frame (plan : Planning) :
    ∃ scheduled, applyScheduled plat config env server.inner request plan
        = (replaceStackRoute scheduled request.stackName).1 ∧
      SameFrame (applyDesired plat.toExternals server.inner request env.now.unixMs plan)
        scheduled :=
  ⟨_, rfl, (reconcile_moves (currentLiveNodes config env.now server.inner)
    plat.toExternals huuid env.now.unixMs
    (applyDesired_fresh plat.toExternals server.inner request env.now.unixMs plan htasks
      hunclaimed)).sameFrame⟩

/-- The committed state, up to what the scheduler does to tasks and cursors. -/
theorem applyGuarded_state : ∃ plan scheduled, checkApply server.inner request = .ok () ∧
      planServices server.inner.state (currentLiveNodes config env.now server.inner) request
        = .ok plan ∧
      SameFrame (applyDesired plat.toExternals server.inner request env.now.unixMs plan) scheduled ∧
      server'.inner.state.services = scheduled.services ∧
      server'.inner.state.serviceOperations = scheduled.serviceOperations ∧
      server'.inner.state.gatewayRoutes
        = (replaceStackRoute scheduled request.stackName).1.gatewayRoutes ∧
      ∀ name, gatewaySpec server'.inner.state name = gatewaySpec scheduled name := by
  obtain ⟨plan, refreshed, hche, hplan, href, hcom⟩ := applyGuarded_ok h
  obtain ⟨snap, -, rfl, -⟩ := commitLocked_ok hcom
  obtain ⟨scheduled, hsch, hfra⟩ := applyScheduled_frame huuid htasks hunclaimed plan
  have hrest := (refreshStackDeploymentsLocked_ok href).2
  rw [Inner.withState_state, hsch] at hrest
  refine ⟨plan, scheduled, hche, hplan, hfra, ?_, ?_, ?_, fun name => ?_⟩
  · show refreshed.1.state.services = _
    rw [hrest]
    rfl
  · show refreshed.1.state.serviceOperations = _
    rw [hrest]
    rfl
  · show refreshed.1.state.gatewayRoutes = _
    rw [hrest]
  · have hspec := ((refreshStackDeploymentsLocked_ok href).1 "").gatewaySpec_eq name
    rw [Inner.withState_state, hsch] at hspec
    exact hspec

theorem applyGuarded_gatewaySpec (name : String) : gatewaySpec server'.inner.state name
      = if name = request.stackName then some request.parsed.gateway
        else gatewaySpec server.inner.state name := by
  obtain ⟨plan, scheduled, -, -, hfra, -, -, -, hspec⟩ :=
    applyGuarded_state huuid htasks hunclaimed h
  rw [hspec, ← requestedState_gatewaySpec server.inner request env.now.unixMs plan]
  unfold gatewaySpec
  rw [hfra.rest, (applyDesired_frame plat.toExternals server.inner request env.now.unixMs plan).1]

/-- After an apply, the routes of the stack follow its record. -/
theorem applyGuarded_routesFollow : RoutesFollow server'.inner.state request.stackName := by
  obtain ⟨plan, scheduled, -, -, -, -, -, hrou, hspec⟩ :=
    applyGuarded_state huuid htasks hunclaimed h
  intro fragment spec hfra hget
  rw [hspec] at hget
  rw [hrou, replaceStackRoute_lookup, if_pos rfl] at hfra
  exact stackFragment_follows hfra hget

/-- **An apply leaves no operation of its stack pending.** -/
theorem applyGuarded_settles : ∀ op ∈ server'.inner.state.serviceOperations,
    op.stack = request.stackName → op.pending = false := by
  obtain ⟨plan, scheduled, -, -, hfra, -, hops, -, -⟩ :=
    applyGuarded_state huuid htasks hunclaimed h
  have hdes := (applyDesired_frame plat.toExternals server.inner request env.now.unixMs plan).2
  intro op hop hsta
  rw [hops, hfra.rest] at hop
  rw [show ({ applyDesired plat.toExternals server.inner request env.now.unixMs plan with
      tasks := scheduled.tasks, services := scheduled.services } : ClusterState).serviceOperations
    = (applyDesired plat.toExternals server.inner request env.now.unixMs
        plan).serviceOperations from rfl, hdes] at hop
  -- an operation that is not the owned one was superseded if it was active
  have hsup : ∀ op ∈ (requestedState server.inner request env.now.unixMs
      plan).serviceOperations, op.stack = request.stackName →
      some op.operationId ≠ request.policy.ownedOperation → op.pending = false := by
    intro op hop hsta hown
    obtain ⟨old, -, rfl⟩ := Table.exists_of_mem_map
      (supersedeOperation_id request env.now.unixMs) hop
    have hkept := supersedeOperation_kept request env.now.unixMs old
    have hcon : old.view.status.active = true → conflictingOperation request old = true := by
      intro hact
      unfold conflictingOperation
      rw [hkept.stack] at hsta
      rw [supersedeOperation_id] at hown
      simp only [hact, hsta, decide_true, Bool.and_self, Bool.true_and, decide_eq_true_eq]
      exact hown
    unfold ServiceOperationRecord.pending
    cases hact : (supersedeOperation request env.now.unixMs old).view.status.active with
    | false => rfl
    | true =>
      have hold := hcon (hkept.active hact)
      unfold supersedeOperation at hact
      rw [if_pos hold] at hact
      cases hact
  unfold startOwnedDeployment at hop
  split at hop
  next hnone => exact hsup op hop hsta (by rw [hnone]; exact fun heq => nomatch heq)
  next id hown =>
    dsimp only at hop
    rw [Table.mem_modify] at hop
    rcases hop with ⟨hold, hne⟩ | ⟨old, hold, hid, rfl⟩
    · refine hsup op hold hsta ?_
      rw [hown]
      exact fun heq => hne (Option.some.inj heq)
    · unfold ServiceOperationRecord.pending startDeployment
      simp

/-- Every service after an apply was planned. -/
theorem applyGuarded_planned {svc : ServiceRecord} (hser : svc ∈ server'.inner.state.services) :
    ∃ planned, plannedService server.inner.state request svc.id = some planned := by
  obtain ⟨plan, scheduled, -, hplan, hfra, hserv, -, -, -⟩ :=
    applyGuarded_state huuid htasks hunclaimed h
  rw [hserv] at hser
  have hmap := hfra.services_get? svc.id
  rw [Table.get?_of_mem hser, Option.map_some] at hmap
  obtain ⟨desired, hdes, -⟩ := Option.map_eq_some_iff.mp hmap.symm
  have hmem := Table.mem_of_get? hdes
  unfold applyDesired at hmem
  dsimp only at hmem
  rw [adopts_rest (adoptUnclaimedTasks_adopts plat.toExternals _ request.stackName)] at hmem
  change desired ∈ (startOwnedDeployment _ _ _ _).services at hmem
  rw [startOwnedDeployment_rest] at hmem
  obtain ⟨old, hold, heq, -⟩ := (restoreUnclaimedServiceRevisions_restored plat.toExternals
    (requestedState server.inner request env.now.unixMs plan)
    plan.newServiceIds.rows).mem desired hmem
  have hid : old.id = svc.id := by
    rw [← Table.key_of_get? hdes, heq]
    rfl
  refine ⟨old, ?_⟩
  rw [← planServices_get? hplan, ← hid]
  exact Table.get?_of_mem hold

/-- A foreign request asks for the records of the stack it meets as they are. -/
def writesSame (stackName : String) (previous : ClusterState) (request : ApplyRequest) : Prop :=
  ∀ entry ∈ request.parsed.services.rows, ∀ record ∈ previous.services,
    record.id = serviceId request.stackName entry.1 → record.stack = stackName →
    record.spec = entry.2 ∧ record.deleted = false

/-- Such a request leaves the stack as it was. -/
theorem applyGuarded_copy (hfor : request.stackName ≠ stackName)
    (hsame : writesSame stackName server.inner.state request)
    (hcopy : Copy parsed stackName server.inner.state) :
    Copy parsed stackName server'.inner.state := by
  have hkept : ∀ record ∈ server.inner.state.services, record.stack = stackName →
      ∃ record' ∈ server'.inner.state.services, record'.id = record.id ∧
        record'.declared = record.declared := by
    intro record hrec hsta
    have hoth : record.stack ≠ request.stackName := fun heq => hfor (heq ▸ hsta)
    have hfin := applyGuarded_services huuid htasks hunclaimed h hrec
    have hpla : ∃ planned, plannedService server.inner.state request record.id = some planned ∧
        planned.declared = record.declared := by
      unfold plannedService
      rw [Table.get?_of_mem hrec]
      cases hent : request.entry? record.id with
      | none => exact ⟨_, rfl, by rw [markDeleted_foreign hoth]⟩
      | some entry =>
        refine ⟨_, rfl, ?_⟩
        obtain ⟨hmem, hid⟩ := ApplyRequest.mem_of_entry? hent
        obtain ⟨hspec, hdel⟩ := hsame entry hmem record hrec hid.symm hsta
        unfold rewritten
        rw [markDeleted_foreign hoth]
        split
        · simp [ServiceRecord.update, ServiceRecord.declared, ServiceRecord.forgetCursor,
            ServiceRecord.forgetRevision, hspec, hdel]
        · rfl
    obtain ⟨planned, hget, hdec⟩ := hpla
    rw [hget, Option.map_some] at hfin
    obtain ⟨record', hget', heq⟩ := Option.map_eq_some_iff.mp hfin
    refine ⟨record', Table.mem_of_get? hget', Table.key_of_get? hget', ?_⟩
    exact (congrArg ServiceRecord.forgetRevision heq).trans hdec
  refine hcopy.of_declared (fun record hrec hsta => ?_) (fun record' hrec' hsta => ?_) ?_
  · obtain ⟨record', hrec', -, heq⟩ := hkept record hrec hsta
    exact ⟨record', hrec', heq⟩
  · -- a record of the stack is not new, since new ones belong to the stack being applied
    have hori : ∀ service ∈ server'.inner.state.services, service.stack ≠ request.stackName →
        ∃ old ∈ server.inner.state.services, Continues old service := by
      refine keeps_of_step (P := fun t => ∀ service ∈ t.services,
        service.stack ≠ request.stackName →
          ∃ old ∈ server.inner.state.services, Continues old service) (fun t t' hedit ht => ?_)
        (applyGuarded_requested huuid htasks hunclaimed h).effect.edits
        fun service hser _ => ⟨service, hser, Continues.refl service⟩
      intro service' hser' hoth
      rcases hedit.servicesContinue.origin service' hser' with ⟨mid, hmid, hcont⟩ | hnew
      · obtain ⟨old, hold, hcont'⟩ := ht mid hmid (hcont.stack ▸ hoth)
        exact ⟨old, hold, hcont'.trans hcont⟩
      · obtain ⟨other, heq, hsta, -⟩ := hnew
        cases heq
        exact absurd hsta hoth
    obtain ⟨old, hold, hcont⟩ := hori record' hrec' fun heq => hfor (heq ▸ hsta)
    obtain ⟨new, hnew, hid, heq⟩ := hkept old hold (hcont.stack ▸ hsta)
    rw [Table.eq_of_key hrec' hnew (hcont.id.trans hid.symm)]
    exact ⟨old, hold, heq⟩
  · rw [applyGuarded_gatewaySpec huuid htasks hunclaimed h, if_neg fun heq => hfor heq.symm]

end Apply

/-! ## Committing the copy -/

section Commit

variable {plat : Platform} {config : ControllerConfig} {env : Env} {server server' : Server}
  {parsed : ParsedStack} {target : ServiceRecord} {operationId : String}

/-- The request a prepared operation ends in. -/
def preparedRequest (target : ServiceRecord) (operationId : String) (parsed : ParsedStack) :
    ApplyRequest :=
  { stackName := target.stack, parsed, policy := .prepared target.name operationId,
    replace := false }

theorem preparedRequest_stackName (target : ServiceRecord) (operationId : String)
    (parsed : ParsedStack) :
    (preparedRequest target operationId parsed).stackName = target.stack := rfl

/-- An entry of the copy, looked up by its id. -/
theorem preparedRequest_entry {name : String} {spec : ServiceSpec}
    (h : (name, spec) ∈ parsed.services) (target : ServiceRecord) (operationId : String) :
    ApplyRequest.entry? (preparedRequest target operationId parsed) (serviceId target.stack name)
      = some (name, spec) :=
  ApplyRequest.entry?_of_mem
    (show (name, spec) ∈ (preparedRequest target operationId parsed).parsed.services.rows from h)

/-- The record with the next revision, if it is the target. -/
def bumpTarget (target : String) (record : ServiceRecord) : ServiceRecord :=
  if record.id = target then { record with revision := record.revision + 1 } else record

theorem previousGateway_of_follows
    (hcopy : Copy parsed stackName s) (hrou : RoutesFollow s stackName) :
    previousGateway s stackName = parsed.gateway := by
  have hspec := hcopy.gateway
  unfold previousGateway
  split
  next fragment hfra => exact hrou fragment parsed.gateway hfra hspec
  · change (gatewaySpec s stackName).getD {} = _
    rw [hspec]
    rfl

/-- What the copy plans for a record of its stack. -/
theorem rewritten_prepared (hcopy : Copy parsed target.stack s)
    (hrou : RoutesFollow s target.stack) {entry : String × ServiceSpec}
    (hent : entry ∈ parsed.services) {record : ServiceRecord}
    (hid : record.id = serviceId target.stack entry.1) (hspec : record.spec = entry.2)
    (hdel : record.deleted = false)
    (htar : record.id = target.id ↔ record.name = target.name) :
    rewritten s (preparedRequest target operationId parsed) entry record
      = bumpTarget target.id record := by
  have hmar : markDeleted (preparedRequest target operationId parsed) record = record := by
    refine markDeleted_eq_self fun _ => ?_
    rw [ApplyRequest.contains_desiredIds, hid, preparedRequest_entry hent]
    exact hdel
  have hpor : routingPortsChanged s (preparedRequest target operationId parsed) entry.1
      = false := by
    unfold routingPortsChanged
    rw [preparedRequest_stackName, previousGateway_of_follows hcopy hrou]
    exact decide_eq_false fun hne => hne rfl
  unfold rewritten bumpTarget serviceUpdatePlan
  rw [hmar, hpor]
  by_cases hfor : record.name = target.name
  · have hforc : (preparedRequest target operationId parsed).policy.forces record.name = true :=
      decide_eq_true hfor.symm
    rw [if_pos hforc, if_pos (htar.mpr hfor)]
    show record.update entry.2 true = _
    unfold ServiceRecord.update
    rw [← hspec, ← hdel]
    rfl
  · have hforc : (preparedRequest target operationId parsed).policy.forces record.name
        = false := decide_eq_false fun heq => hfor heq.symm
    rw [hforc, if_neg (by simp), if_neg (by simp [hdel, hspec]),
      if_neg fun heq => hfor (htar.mp heq)]
    have href : (preparedRequest target operationId parsed).policy.refreshesImages = false :=
      rfl
    rw [href, Bool.and_false, Bool.false_and]
    rfl

variable (operationId) in
/-- The copy asks for the services that are there, with the target forced. -/
theorem plannedService_prepared (hfil : Filed s)
    (hcopy : Copy parsed target.stack s) (hrou : RoutesFollow s target.stack)
    (hid : target.id = serviceId target.stack target.name)
    (hent : ∃ spec, (target.name, spec) ∈ parsed.services) (id : String) :
    plannedService s (preparedRequest target operationId parsed) id
      = (s.services.get? id).map (bumpTarget target.id) := by
  unfold plannedService
  cases hfou : ApplyRequest.entry? (preparedRequest target operationId parsed) id with
  | some entry =>
    obtain ⟨hmem, hkey⟩ := ApplyRequest.mem_of_entry? hfou
    obtain ⟨record, hrec, hsta, hdel, hname, hspec⟩ := hcopy.services.mp
      (show (entry.1, entry.2) ∈ parsed.services from hmem)
    have hrecI : record.id = serviceId target.stack entry.1 := by
      rw [hfil.named record hrec, hsta, hname]
    have hget : s.services.get? id = some record := by
      rw [← hkey, preparedRequest_stackName, ← hrecI]
      exact Table.get?_of_mem hrec
    rw [hget]
    refine congrArg some (rewritten_prepared hcopy hrou hmem hrecI hspec hdel ?_)
    rw [hrecI, hid, hname]
    exact (serviceId_injective target.stack).eq_iff
  | none =>
    -- without an entry: a service of another stack, or a deleted one of this stack
    cases hget : s.services.get? id with
    | none => rfl
    | some record =>
      have hrec := Table.mem_of_get? hget
      have hrecI := Table.key_of_get? hget
      have hnotT : record.id ≠ target.id := by
        intro heq
        obtain ⟨spec, hspec⟩ := hent
        have hsome := preparedRequest_entry hspec target operationId
        rw [← hid, ← heq, hrecI, hfou] at hsome
        cases hsome
      refine congrArg some ?_
      unfold bumpTarget
      rw [if_neg hnotT]
      refine markDeleted_eq_self fun hsta => ?_
      rw [ApplyRequest.contains_desiredIds, hrecI, hfou]
      by_contra hactive
      have hspec := hcopy.services.mpr ⟨record, hrec, hsta, by simpa using hactive, rfl, rfl⟩
      have hsome := preparedRequest_entry hspec target operationId
      rw [← preparedRequest_stackName target operationId parsed, ← hsta,
        ← hfil.named record hrec, hrecI, hfou] at hsome
      cases hsome

/-- The commit of an up-to-date copy. -/
theorem applyGuarded_prepared (hfre : FreshIds env ⟨config, server, []⟩)
    (h : applyGuarded plat config env server (preparedRequest target operationId parsed)
      = .ok server')
    (hfil : Filed server.inner.state) (hcopy : Copy parsed target.stack server.inner.state)
    (hrou : RoutesFollow server.inner.state target.stack)
    (hid : target.id = serviceId target.stack target.name)
    (hent : ∃ spec, (target.name, spec) ∈ parsed.services) :
    (∀ id, (server'.inner.state.services.get? id).map ServiceRecord.forgetCursor
      = (server.inner.state.services.get? id).map fun record =>
        (bumpTarget target.id record).forgetCursor) ∧
    ∀ name, gatewaySpec server'.inner.state name = gatewaySpec server.inner.state name := by
  have hplan := plannedService_prepared operationId hfil hcopy hrou hid hent
  refine ⟨fun id => ?_, fun name => ?_⟩
  · cases hget : server.inner.state.services.get? id with
    | some record =>
      have hfin := applyGuarded_services hfre.injective hfre.tasks hfre.unclaimed h
        (Table.mem_of_get? hget)
      rw [Table.key_of_get? hget] at hfin
      rw [hfin, hplan, hget]
      rfl
    | none =>
      -- the copy asks for no service that is not there
      cases hfin : server'.inner.state.services.get? id with
      | none => rfl
      | some final =>
        obtain ⟨planned, hsome⟩ := applyGuarded_planned hfre.injective hfre.tasks
          hfre.unclaimed h (Table.mem_of_get? hfin)
        rw [Table.key_of_get? hfin, hplan, hget] at hsome
        cases hsome
  · rw [applyGuarded_gatewaySpec hfre.injective hfre.tasks hfre.unclaimed h]
    split
    next hname =>
      rw [hname]
      exact hcopy.gateway.symm
    · rfl

end Commit

/-! ## Runs -/

variable {plat : Platform} {world world' : World} {s : ClusterState} {service : ServiceRecord}
  {operationId stackName : String} {parsed : ParsedStack}

theorem Reachable.routesFollow (h : Reachable plat world)
    (name : String) : RoutesFollow world.state name := by
  refine (h.invariant_of_step (P := fun s => RoutesFollow s name) ?_ ?_ ?_ ?_).1
  · exact fun s hs => hs.of_eq rfl rfl
  · exact fun config env s gen hs => hs.of_eq rfl rfl
  · exact fun _ _ _ _ _ hspec => nomatch hspec
  · intro world env event hfre hres hwor
    by_cases hown : ∃ request, world.cause env event = .apply request ∧ request.stackName = name
    · obtain ⟨request, hcau, rfl⟩ := hown
      rcases step_apply plat hcau with hsame | happ
      · unfold World.state
        rw [hsame]
        exact hwor
      · exact applyGuarded_routesFollow hfre.injective hfre.tasks hfre.unclaimed happ
    · refine keeps_of_step (P := fun s => RoutesFollow s name) (fun s s' hedit =>
        hedit.routesFollow fun request hcau hname => hown ⟨request, hcau, hname⟩)
        (step_effect plat hfre hres).edits hwor

/-- No event restarts the controller or draws the id of the operation again. -/
def KeepsOperation (operationId : String) (env : Env) (world : World) (event : Event) : Prop :=
  (∀ config, event ≠ .restart config) ∧ world.cause env event ≠ .submit operationId

/-- Neither does it, and a commit of another stack writes nothing new into records of
this one. -/
def KeepsStack (operationId stackName : String) (env : Env) (world : World) (event : Event) :
    Prop :=
  KeepsOperation operationId env world event ∧
    ∀ request, world.cause env event = .apply request → request.stackName ≠ stackName →
      writesSame stackName world.state request

theorem Runs.later {P : Env → World → Event → Prop}
    (hP : ∀ env world event, P env world event → ∀ config, event ≠ .restart config)
    (h : Runs plat P world world') : Later plat world world' := by
  refine ReflTransGen.mono (fun a b hstep => ?_) _ _ h
  obtain ⟨env, event, hfre, hcond, heq⟩ := hstep
  exact ⟨env, event, hfre, hP env a event hcond, heq⟩

/-- The operation under this id is for the service as it was accepted. -/
def PlannedFor (service : ServiceRecord) (operationId : String) (s : ClusterState) : Prop :=
  ∀ op ∈ s.serviceOperations, op.operationId = operationId →
    op.view.service = service.id ∧ op.stack = service.stack ∧
      op.targetRevision = service.revision + 1 ∧ op.image = service.spec.image

theorem Edits.plannedFor (hedi : Edits cause s s') (hcau : cause ≠ .submit operationId)
    (h : PlannedFor service operationId s) : PlannedFor service operationId s' := by
  intro op' hop' hid
  rcases hedi.operations op' hop' with ⟨op, hop, hplan⟩ | hnew
  · obtain ⟨hser, hsta, hrev, hima⟩ := h op hop (hplan.id ▸ hid)
    exact ⟨hplan.service.trans hser, hplan.stack.trans hsta,
      hplan.targetRevision.trans hrev, hplan.image.trans hima⟩
  · exact absurd (hid ▸ hnew) hcau

theorem Runs.plannedFor (h : Runs plat (KeepsOperation operationId) world world')
    (hwor : PlannedFor service operationId world.state) :
    PlannedFor service operationId world'.state :=
  h.keeps (Q := fun world => PlannedFor service operationId world.state)
    (fun hfre hkee => Edits.plannedFor (step_effect plat hfre hkee.1).edits hkee.2) hwor

/-- As long as the operation is pending, the copy is one. -/
def CopyWhilePending (parsed : ParsedStack) (stackName operationId : String) (s : ClusterState) :
    Prop :=
  ∀ op ∈ s.serviceOperations, op.operationId = operationId → op.stack = stackName ∧
    (op.pending = true → Copy parsed stackName s)

theorem Edit.copyWhilePending (hedit : Edit cause s s') (hcau : cause ≠ .submit operationId)
    (happ : ∀ request, cause ≠ .apply request)
    (h : CopyWhilePending parsed stackName operationId s) :
    CopyWhilePending parsed stackName operationId s' := by
  intro op' hop' hid
  rcases hedit.operations op' hop' with ⟨op, hop, hplan⟩ | hnew
  · obtain ⟨hsta, hcopy⟩ := h op hop (hplan.id ▸ hid)
    exact ⟨hplan.stack.trans hsta, fun hpen =>
      hedit.copy happ (hcopy (hplan.pending hpen))⟩
  · exact absurd (hid ▸ hnew) hcau

/-- One event between the copying and the commit. -/
theorem step_copyWhilePending {env : Env} {event : Event} (hfre : FreshIds env world)
    (hkee : KeepsStack operationId stackName env world event)
    (h : CopyWhilePending parsed stackName operationId world.state) :
    CopyWhilePending parsed stackName operationId (world.step plat env event).state := by
  obtain ⟨⟨hres, hcau⟩, hfor⟩ := hkee
  have hedi := (step_effect plat hfre hres).edits
  by_cases happ : ∃ request, world.cause env event = .apply request
  · obtain ⟨request, hreq⟩ := happ
    rcases step_apply plat hreq with hsame | hcom
    · unfold World.state
      rw [hsame]
      exact h
    · intro op' hop' hid
      rcases hedi.operations op' hop' with ⟨op, hop, hplan⟩ | hnew
      · obtain ⟨hsta, hcopy⟩ := h op hop (hplan.id ▸ hid)
        refine ⟨hplan.stack.trans hsta, fun hlat => ?_⟩
        by_cases hown : request.stackName = stackName
        · have hset := applyGuarded_settles hfre.injective hfre.tasks hfre.unclaimed
            hcom op' hop' (by rw [hplan.stack, hsta, hown])
          rw [hset] at hlat
          cases hlat
        · exact applyGuarded_copy hfre.injective hfre.tasks hfre.unclaimed hcom hown
            (hfor request hreq hown) (hcopy (hplan.pending hlat))
      · exact absurd (hid ▸ hnew) hcau
  · exact keeps_of_step (P := CopyWhilePending parsed stackName operationId)
      (fun s s' hedit => hedit.copyWhilePending hcau (not_exists.mp happ)) hedi h

theorem Runs.copyWhilePending (h : Runs plat (KeepsStack operationId stackName) world world')
    (hwor : CopyWhilePending parsed stackName operationId world.state) :
    CopyWhilePending parsed stackName operationId world'.state :=
  h.keeps (Q := fun world => CopyWhilePending parsed stackName operationId world.state)
    step_copyWhilePending hwor

/-! ## From acceptance to commit -/

/-- The state after an operation was submitted. -/
theorem submitOperation_plannedFor {env : Env}
    {req : OperationRequest} {op : ServiceOperationRecord}
    (hkind : req.kind = .pullRedeploy)
    (hser : resolveService world.state req.target "restart" = .ok service)
    (hacc : acceptOperation plat world.config env world.server.inner req = .ok op)
    (hunu : world.state.serviceOperations.contains op.operationId = false) :
    PlannedFor service op.operationId (world.step plat env (.submitOperation req)).state := by
  have hnone : PlannedFor service op.operationId world.state :=
    fun old hold hid => absurd hid (Table.contains_eq_false.mp hunu old hold)
  show PlannedFor service op.operationId (world.served ((submitServiceOperation plat
    world.config env world.server req).map Prod.fst)).server.inner.state
  cases hsub : (submitServiceOperation plat world.config env world.server req).map Prod.fst with
  | error e => exact hnone
  | ok server =>
    rcases submitServiceOperation_ok hsub with rfl | ⟨op', -, hacc', hcom⟩
    · exact hnone
    · rw [hacc] at hacc'
      cases hacc'
      obtain ⟨snap, -, rfl, -⟩ := commitLocked_ok (commitState_ok hcom)
      intro old hold hid
      change old ∈ world.state.serviceOperations.insert op at hold
      rcases Table.mem_insert.mp hold with rfl | ⟨hold, -⟩
      · obtain ⟨⟨target, htar, hview, hsta, hima, hrev⟩, -⟩ := acceptOperation_ok hacc
        rw [show resolveService world.server.inner.state req.target "restart" = .ok service
          from hser] at htar
        cases htar
        rw [if_pos hkind] at hrev
        exact ⟨hview, hsta, hrev, hima⟩
      · exact hnone old hold hid

theorem prepareOperation_ok {target : String} {prepared : Request}
    (h : prepareOperation s operationId target = .ok prepared) :
    ∃ service parsed, service ∈ s.services ∧ service.id = target ∧ service.deleted = false ∧
      currentStack s service.stack = .ok parsed ∧
      prepared = .prepared service operationId parsed := by
  unfold prepareOperation at h
  obtain ⟨service, hser, h⟩ := bind_ok h
  obtain ⟨hmem, hid, hdel⟩ := resolveService_ok hser
  split at h
  · cases h
  · obtain ⟨_, -, h⟩ := bind_ok h
    obtain ⟨parsed, hpar, h⟩ := bind_ok h
    cases h
    exact ⟨service, parsed, hmem, hid, hdel, hpar, rfl⟩

/-- **The commit of a prepared redeploy bumps its target and changes nothing else.** The
operation is accepted in `world`, the stack copied in `read` and the copy committed in
`committing`. Anything may happen in between, as long as no commit of another stack
writes into a record of this one. -/
theorem prepared_commit_changes_target_only {platform : Platform} {world read committing : World}
    {accepting env : Env} {request : OperationRequest} {op : ServiceOperationRecord}
    {service : ServiceRecord} {prepared : Request} {apply : ApplyRequest} {server' : Server}
    {s : ClusterState} (hworld : Reachable platform world) (hfresh : FreshIds accepting world)
    (hkind : request.kind = .pullRedeploy)
    (hservice : resolveService world.state request.target "restart" = .ok service)
    (haccept : acceptOperation platform world.config accepting world.server.inner request = .ok op)
    (hunused : world.state.serviceOperations.contains op.operationId = false)
    (hread : Runs platform (KeepsOperation op.operationId)
      (world.step platform accepting (.submitOperation request)) read)
    (hprepared : prepareOperation read.state op.operationId op.view.service = .ok prepared)
    (hcommitting : Runs platform (KeepsStack op.operationId service.stack) read committing)
    (hguard : prepared.guard s = .ok apply) (hfresh' : FreshIds env committing)
    (hcommit : applyGuarded platform committing.config env committing.server apply
      = .ok server') :
    (∃ before ∈ committing.state.services, before.id = service.id ∧
      before.revision = service.revision ∧ before.spec.image = service.spec.image) ∧
    (∀ id, (server'.inner.state.services.get? id).map ServiceRecord.forgetCursor
      = (committing.state.services.get? id).map fun record =>
        (bumpTarget service.id record).forgetCursor) ∧
    ∀ name, gatewaySpec server'.inner.state name = gatewaySpec committing.state name := by
  have hrun : Runs platform (KeepsOperation op.operationId) read committing :=
    ReflTransGen.mono (fun _ _ hstep => by
      obtain ⟨env, event, hfresh, hkee, heq⟩ := hstep
      exact ⟨env, event, hfresh, hkee.1, heq⟩) _ _ hcommitting
  have hsub : Proceeds platform world (world.step platform accepting
      (.submitOperation request)) :=
    ⟨accepting, .submitOperation request, hfresh, (fun _ heq => nomatch heq), rfl⟩
  have hlat : Later platform world read :=
    ReflTransGen.head hsub (hread.later fun _ _ _ hkee => hkee.1)
  have hlatC : Later platform world committing :=
    hlat.trans (hrun.later fun _ _ _ hkee => hkee.1)
  have hpla := hread.plannedFor
    (submitOperation_plannedFor hkind hservice haccept hunused)
  have hplaC := hrun.plannedFor hpla
  -- the service that is copied is the accepted one
  obtain ⟨⟨accepted, hacc, hview, -⟩, -⟩ := acceptOperation_ok haccept
  rw [show resolveService world.server.inner.state request.target "restart" = .ok service
    from hservice] at hacc
  cases hacc
  obtain ⟨hmem, -, -⟩ := resolveService_ok hservice
  obtain ⟨target, parsed, htar, htarI, hact, hpar, rfl⟩ :=
    prepareOperation_ok hprepared
  have hfilR := (hlat.reachable hworld).filed
  have hfil := (hlatC.reachable hworld).filed
  obtain ⟨found, hfou, hcont⟩ := (hlat.targeted hworld hmem).kept
  obtain rfl : found = target :=
    Table.eq_of_key hfou htar (hcont.id.trans (hview.symm.trans htarI.symm))
  have hcopR := currentStack_copy hfilR hpar
  have hent : ∃ spec, (found.name, spec) ∈ parsed.services :=
    ⟨found.spec, hcopR.services.mpr ⟨found, htar, rfl, hact, rfl, rfl⟩⟩
  have hwhi : CopyWhilePending parsed found.stack op.operationId committing.state := by
    rw [hcont.stack] at hcopR ⊢
    exact hcommitting.copyWhilePending fun old hold hid =>
      ⟨(hpla old hold hid).2.1, fun _ => hcopR⟩
  -- the checks of the commit
  change Except.ok (preparedRequest found op.operationId parsed) = .ok apply at hguard
  cases hguard
  obtain ⟨plan, refreshed, hche, -⟩ := applyGuarded_ok hcommit
  unfold checkApply at hche
  obtain ⟨_, hown, -⟩ := bind_ok hche
  obtain ⟨current, before, hcur, hbef, hpen, hrev, hima⟩ :=
    checkOwnedOperation_ok rfl hown
  have hcurM := Table.mem_of_get? hcur
  have hcurI : current.operationId = op.operationId := Table.key_of_get? hcur
  obtain ⟨hcurS, -, hcurR, hcurrI⟩ :=
    hplaC current hcurM hcurI
  have hcopy := (hwhi current hcurM hcurI).2 hpen
  have hrou := (hlatC.reachable hworld).routesFollow found.stack
  have hfra := applyGuarded_prepared ⟨hfresh'.injective, hfresh'.tasks, hfresh'.unclaimed⟩ hcommit
    hfil hcopy hrou (hfilR.named found htar) hent
  rw [hcont.id] at hfra
  refine ⟨⟨before, Table.mem_of_get? hbef, ?_, ?_, ?_⟩, hfra⟩
  · rw [Table.key_of_get? hbef, hcurS]
  · omega
  · rw [hima, hcurrI]

/-- The one container of the runs below. -/
def webUp : TaskReport :=
  { id := "3", observed := .healthy, containerId := some "k", imageId := some "i" }

/-- A service that runs and one that does not. -/
def twoServices : ParsedStack :=
  { services := Table.ofList
      [("web", { image := "one" }), ("b.c", { image := "one", replicas := 0 })] }

def webApplied : TaskReconcileReport :=
  { taskId := "3", desiredGeneration := 3, appliedGeneration := some 3, phase := .verify,
    error := none }

/-- The stack `a` is deployed and healthy. -/
def deployedInputs : List Input :=
  [{ event := sampleBeat [] [] [], tag := "1" },
   { event := .apply "a" twoServices Table.empty false, tag := "2" },
   { event := .commit 0, tag := "3" },
   { event := sampleBeat [webUp] [webApplied] [], tag := "4" }]

def submitWeb : OperationRequest :=
  { principal := .admin, target := "a.web", kind := .pullRedeploy, key := "key",
    source := Table.empty }

def webPulled : ImageResolutionReport :=
  { deploymentGeneration := 5
    image := "one"
    resolvedImageId := some "j"
    services := [{ serviceId := "a.web", oldImageIds := Table.empty, changed := true }] }

/-- The redeploy is submitted, its image pulled, and the stack copied. -/
def redeployInputs : List Input :=
  [{ event := .submitOperation submitWeb, tag := "5" },
   { event := sampleBeat [webUp] [] [webPulled], tag := "6" },
   { event := .startPrepared, tag := "7" }]

def redeployWorld (events : Nat) : World :=
  sampleWorld.perform samplePlatform (deployedInputs ++ redeployInputs.take events)

/-- The commit of the copy, with nobody else around. -/
def commitPrepared : Except ControllerError Server := do
  let prepared ← prepareOperation (redeployWorld 2).state "op_5" "a.web"
  let apply ← prepared.guard (redeployWorld 3).state
  applyGuarded samplePlatform (redeployWorld 3).config (sampleEnv "8")
    (redeployWorld 3).server apply

/-- It succeeds, and bumps the one service. -/
theorem prepared_commit_undisturbed :
    ∃ server', commitPrepared = .ok server' ∧
      ∀ id, (server'.inner.state.services.get? id).map ServiceRecord.forgetCursor
        = ((redeployWorld 3).state.services.get? id).map fun record =>
          (bumpTarget "a.web" record).forgetCursor := by
  have hok : commitPrepared.toBool = true := by decide +kernel
  have haccO : (acceptOperation samplePlatform (redeployWorld 0).config
      (sampleEnv "5") (redeployWorld 0).server.inner
      submitWeb).toBool = true := by decide +kernel
  cases hser : commitPrepared with
  | error e =>
    rw [hser] at hok
    cases hok
  | ok server' =>
    cases hacc : acceptOperation samplePlatform (redeployWorld 0).config
        (sampleEnv "5") (redeployWorld 0).server.inner submitWeb with
    | error e =>
      rw [hacc] at haccO
      cases haccO
    | ok op =>
      obtain ⟨⟨service, hserv, hview, -⟩, hid, -⟩ := acceptOperation_ok hacc
      have htar : service.id = "a.web" := (resolveService_ok hserv).2.1
      have hid : op.operationId = "op_5" := hid
      refine ⟨server', rfl, ?_⟩
      unfold commitPrepared at hser
      obtain ⟨prepared, hpre, hser⟩ := bind_ok hser
      obtain ⟨apply, hgua, happ⟩ := bind_ok hser
      rw [← htar, ← hview, ← hid] at hpre
      have hread : Runs samplePlatform (KeepsOperation op.operationId) (redeployWorld 1)
          (redeployWorld 2) :=
        ReflTransGen.single ⟨sampleEnv "6",
          sampleBeat [webUp] [] [webPulled], freshIds_of_tagFree (by decide +kernel),
          ⟨(fun _ heq => nomatch heq), (fun heq => nomatch heq)⟩, rfl⟩
      have hcom : Runs samplePlatform (KeepsStack op.operationId service.stack)
          (redeployWorld 2) (redeployWorld 3) :=
        ReflTransGen.single ⟨sampleEnv "7", .startPrepared,
          freshIds_of_tagFree (by decide +kernel),
          ⟨⟨(fun _ heq => nomatch heq), (fun heq => nomatch heq)⟩, (fun _ heq => nomatch heq)⟩,
          rfl⟩
      have hfra := (prepared_commit_changes_target_only
        (sampleWorld_reachable.perform (by decide +kernel)) (freshIds_of_tagFree (by decide +kernel))
        rfl hserv hacc (by rw [hid]; decide +kernel) hread hpre hcom hgua
        (freshIds_of_tagFree (by decide +kernel)) happ).2.1
      rw [htar] at hfra
      exact hfra

/-- Meanwhile the stack `a.b` asks for its service `c`, and then the copy is committed. -/
def foreignInputs : List Input :=
  [{ event := .apply "a.b"
      { services := Table.ofList [("c", { image := "two", replicas := 0 })] } Table.empty false
     tag := "8" },
   { event := .commit 1, tag := "9" },
   { event := .reserve 0, tag := "10" }]

def foreignWorld : World :=
  sampleWorld.perform samplePlatform (deployedInputs ++ redeployInputs ++ foreignInputs)

/-- **The copy undoes what was written after it was made**: the service `a.b.c` is back
at its old image. -/
theorem prepared_commit_loses_update :
    Reachable samplePlatform foreignWorld ∧
    recordUnder foreignWorld "a.web" = some ("a", "web", "one", 1) ∧
    recordUnder foreignWorld "a.b.c" = some ("a", "b.c", "two", 2) ∧
    recordUnder (foreignWorld.perform samplePlatform [{ event := .commit 0, tag := "11" }]) "a.web"
      = some ("a", "web", "one", 2) ∧
    recordUnder (foreignWorld.perform samplePlatform [{ event := .commit 0, tag := "11" }]) "a.b.c"
      = some ("a", "b.c", "one", 3) :=
  ⟨sampleWorld_reachable.perform (by decide +kernel), by decide +kernel, by decide +kernel,
    by decide +kernel, by decide +kernel⟩

end Swarmlite
