import Swarmlite.Controller.Steps

/-!
# Where things come from

What an edit can do to each table, one lemma per table. Rewritten tasks descend
from a task before. Nodes and unclaimed containers appear with a heartbeat of
their node, gateway specs with an apply of their stack, and stored routes change
in two ways only.
-/

namespace Swarmlite

open Ordered Relation Loop

/-- The same task later: it may have been stopped, but not moved or restarted. -/
structure Descends (task task' : TaskRecord) : Prop where
  id : task'.id = task.id
  serviceId : task'.serviceId = task.serviceId
  revision : task'.revision = task.revision
  slot : task'.slot = task.slot
  nodeId : task'.nodeId = task.nodeId
  job : task'.job.isSome = task.job.isSome
  running : task'.desired = .running → task.desired = .running

/-! ## Rewritten tasks -/

theorem Descends.refl (task : TaskRecord) : Descends task task :=
  ⟨rfl, rfl, rfl, rfl, rfl, rfl, fun h => h⟩

variable {nodeId name : String} {cause : Cause} {s s' : ClusterState} {task task' : TaskRecord}

theorem TaskObserved.descends (h : TaskObserved nodeId task task') : Descends task task' :=
  ⟨h.id, congrArg (·.serviceId) h.identity, congrArg (·.revision) h.identity,
    congrArg (·.slot) h.identity, h.nodeId_eq, h.job_isSome, fun hrun => h.desired ▸ hrun⟩

theorem JobTouched.descends {live : Keys String}
    (h : JobTouched live task task') : Descends task task' := by
  refine ⟨?_, ?_, ?_, ?_, ?_, ?_, fun hrun => ?_⟩
  iterate 6 rw [h.eq]
  rcases h.desired with hsame | hstop
  · exact hsame ▸ hrun
  · rw [hstop] at hrun
    cases hrun

theorem giveUp_descends (state : ClusterState) (live : Keys String) (task : TaskRecord) :
    Descends task (giveUp state live task) := by
  unfold giveUp
  split
  · exact ⟨rfl, rfl, rfl, rfl, rfl, rfl, fun h => nomatch h⟩
  · exact Descends.refl task

theorem retireIf_descends (routed : Bool) (ids : List String) (task : TaskRecord) :
    Descends task (retireIf routed ids task) := by
  unfold retireIf retireRecord
  split
  · split
    next hrun => exact ⟨rfl, rfl, rfl, rfl, rfl, rfl, fun _ => hrun⟩
    · exact Descends.refl task
  · exact Descends.refl task

theorem finishDrain_descends (now : Int) (task : TaskRecord) :
    Descends task (finishDrain now task) := by
  unfold finishDrain
  split
  · exact ⟨rfl, rfl, rfl, rfl, rfl, rfl, fun h => nomatch h⟩
  · exact Descends.refl task

theorem setDrainDeadline_descends (deadline : Int) (task : TaskRecord) :
    Descends task (setDrainDeadline deadline task) := by
  unfold setDrainDeadline
  split <;> exact ⟨rfl, rfl, rfl, rfl, rfl, rfl, fun h => h⟩

theorem forgetDrainDeadline_descends (task : TaskRecord) :
    Descends task (forgetDrainDeadline task) := by
  unfold forgetDrainDeadline
  split <;> exact ⟨rfl, rfl, rfl, rfl, rfl, rfl, fun h => h⟩

theorem retryTask_descends (services : List String) (task : TaskRecord) :
    Descends task (retryTask services task) := by
  unfold retryTask
  split <;> exact ⟨rfl, rfl, rfl, rfl, rfl, rfl, fun h => h⟩

/-- An accepted operation is for the service as it is. -/
theorem acceptOperation_ok {plat : Platform} {cfg : ControllerConfig} {env : Env}
    {inner : Inner} {req : OperationRequest} {op : ServiceOperationRecord}
    (h : acceptOperation plat cfg env inner req = .ok op) :
    (∃ svc, resolveService inner.state req.target "restart" = .ok svc ∧
      op.view.service = svc.id ∧ op.stack = svc.stack ∧
      op.image = svc.spec.image ∧ op.targetRevision =
        if req.kind = .pullRedeploy then svc.revision + 1 else svc.revision) ∧
      op.operationId = "op_" ++ env.uuid 0 ∧ op.view.kind = req.kind := by
  obtain ⟨svc, tasks, nodes, hser, -, -, -, -, rfl⟩ := acceptOperation_new h
  exact ⟨⟨svc, hser, rfl, rfl, rfl, rfl⟩, rfl, rfl⟩

/-! ## Services -/

/-- The same service later. Its revision never goes back. -/
structure Continues (service service' : ServiceRecord) : Prop where
  id : service'.id = service.id
  stack : service'.stack = service.stack
  name : service'.name = service.name
  kind : service'.spec.job.isSome = service.spec.job.isSome
  revision : service.revision ≤ service'.revision

theorem Continues.refl (svc : ServiceRecord) : Continues svc svc :=
  ⟨rfl, rfl, rfl, rfl, Nat.le_refl _⟩

theorem Continues.trans {a b c : ServiceRecord} (h : Continues a b) (h' : Continues b c) :
    Continues a c :=
  ⟨h'.id.trans h.id, h'.stack.trans h.stack, h'.name.trans h.name, h'.kind.trans h.kind,
    Nat.le_trans h.revision h'.revision⟩

theorem skipMissedService_continues (ext : Externals) (now : Int) (svc : ServiceRecord) :
    Continues svc (Jobs.skipMissedService ext now svc) := by
  unfold Jobs.skipMissedService
  repeat' split
  all_goals exact ⟨rfl, rfl, rfl, rfl, Nat.le_refl _⟩

/-- What holds between the service tables before and after an edit. -/
structure ServicesContinue (cause : Cause) (s s' : ClusterState) : Prop where
  kept : ∀ service ∈ s.services, ∃ service' ∈ s'.services, Continues service service'
  /-- A new service belongs to the stack being applied. -/
  origin : ∀ service' ∈ s'.services, (∃ service ∈ s.services, Continues service service') ∨
    ∃ request, cause = .apply request ∧ service'.stack = request.stackName ∧
      service'.id = serviceId request.stackName service'.name ∧
      s'.stackRecords.contains request.stackName = true

theorem ServicesContinue.of_eq (h : s'.services = s.services) : ServicesContinue cause s s' :=
  ⟨fun svc hser => ⟨svc, h ▸ hser, Continues.refl svc⟩,
    fun svc hser => .inl ⟨svc, h ▸ hser, Continues.refl svc⟩⟩

/-- Both tables hold records under the same ids, each continuing the other. -/
theorem ServicesContinue.of_get? (hkept : ∀ id svc, s.services.get? id = some svc →
      ∃ svc', s'.services.get? id = some svc')
    (hold : ∀ id svc', s'.services.get? id = some svc' →
      ∃ svc, s.services.get? id = some svc ∧ Continues svc svc') :
    ServicesContinue cause s s' := by
  refine ⟨fun svc hser => ?_, fun svc' hser' => ?_⟩
  · obtain ⟨svc', hget'⟩ := hkept svc.id svc (Table.get?_of_mem hser)
    obtain ⟨old, hget, hcont⟩ := hold svc.id svc' hget'
    rw [Table.get?_of_mem hser] at hget
    cases hget
    exact ⟨svc', Table.mem_of_get? hget', hcont⟩
  · obtain ⟨svc, hget, hcont⟩ := hold svc'.id svc' (Table.get?_of_mem hser')
    exact .inl ⟨svc, Table.mem_of_get? hget, hcont⟩

theorem Observed.servicesContinue (h : Observed nodeId s s') : ServicesContinue cause s s' := by
  refine ServicesContinue.of_get? (fun id svc => h.service_kept) fun id svc' hget' => ?_
  have hmap := h.services_get? id
  rw [hget', Option.map_some] at hmap
  obtain ⟨svc, hget, heq⟩ := Option.map_eq_some_iff.mp hmap.symm
  refine ⟨svc, hget, (congrArg (·.id) heq).symm, (congrArg (·.stack) heq).symm,
    (congrArg (·.name) heq).symm, ?_, h.revisions id svc svc' hget hget'⟩
  exact congrArg (·.spec.job.isSome) heq.symm

theorem SameFrame.servicesContinue (h : SameFrame s s') : ServicesContinue cause s s' := by
  refine ServicesContinue.of_get? (fun id svc hget => ?_) fun id svc' hget' => ?_
  · have hmap := h.services_get? id
    rw [hget, Option.map_some] at hmap
    obtain ⟨svc', hget', -⟩ := Option.map_eq_some_iff.mp hmap
    exact ⟨svc', hget'⟩
  · have hmap := h.services_get? id
    rw [hget', Option.map_some] at hmap
    obtain ⟨svc, hget, heq⟩ := Option.map_eq_some_iff.mp hmap.symm
    exact ⟨svc, hget, congrArg (·.id) heq.symm, congrArg (·.stack) heq.symm,
      congrArg (·.name) heq.symm, congrArg (·.spec.job.isSome) heq.symm,
      (congrArg (·.revision) heq).le⟩

theorem markDeleted_continues (req : ApplyRequest) (svc : ServiceRecord) :
    Continues svc (markDeleted req svc) := by
  unfold markDeleted
  split <;> exact ⟨rfl, rfl, rfl, rfl, Nat.le_refl _⟩

/-- A rewritten record keeps its names, and its revision grows if at all. -/
theorem rewritten_continues {previous : ClusterState} {req : ApplyRequest}
    {entry : String × ServiceSpec} {old : ServiceRecord}
    (hkind : old.spec.job.isSome = entry.2.job.isSome) :
    Continues old (rewritten previous req entry old) := by
  have hmar := markDeleted_continues req old
  unfold rewritten
  split
  next bump _ =>
    refine hmar.trans ⟨rfl, rfl, rfl, ?_, ?_⟩
    · rw [markDeleted_spec, hkind]
      rfl
    · cases bump
      · exact Nat.le_refl _
      · exact Nat.le_succ _
  · exact hmar

theorem requestedState_servicesContinue {inner : Inner} {live : Keys String}
    {req : ApplyRequest} {plan : Planning} (now : Int)
    (hche : checkApply inner req = .ok ())
    (hplan : planServices inner.state live req = .ok plan) :
    ServicesContinue (.apply req) inner.state (requestedState inner req now plan) := by
  -- the record under an id that held one
  have hpla : ∀ svc ∈ inner.state.services, ∃ svc',
      plan.services.get? svc.id = some svc' ∧ Continues svc svc' := by
    intro svc hser
    have hget := Table.get?_of_mem hser
    have hpla := planServices_get? hplan svc.id
    unfold plannedService at hpla
    rw [hget] at hpla
    cases hent : req.entry? svc.id with
    | none =>
      rw [hent] at hpla
      exact ⟨_, hpla, markDeleted_continues req svc⟩
    | some entry =>
      rw [hent] at hpla
      obtain ⟨hmem, hid⟩ := ApplyRequest.mem_of_entry? hent
      exact ⟨_, hpla, rewritten_continues (checkApply_kinds hche hmem (hid.symm ▸ hget))⟩
  refine ⟨fun svc hser => ?_, fun svc' hser' => ?_⟩
  · obtain ⟨svc', hget', hcont⟩ := hpla svc hser
    exact ⟨svc', Table.mem_of_get? hget', hcont⟩
  · have hget' : plan.services.get? svc'.id = some svc' := Table.get?_of_mem hser'
    cases hold : inner.state.services.get? svc'.id with
    | some svc =>
      obtain ⟨other, hoth, hcont⟩ := hpla svc (Table.mem_of_get? hold)
      rw [Table.key_of_get? hold, hget'] at hoth
      cases hoth
      exact .inl ⟨svc, Table.mem_of_get? hold, hcont⟩
    | none =>
      rw [planServices_get? hplan] at hget'
      unfold plannedService at hget'
      rw [hold] at hget'
      split at hget'
      · cases hget'
      next entry hent =>
        have heq : newService req.stackName entry.1 entry.2 = svc' := Option.some.inj hget'
        refine .inr ⟨req, rfl, by rw [← heq]; rfl, by rw [← heq]; rfl, ?_⟩
        show (inner.state.stackRecords.insert _).contains req.stackName = true
        rw [Table.contains_insert]
        exact Bool.or_eq_true_iff.mpr (.inl (decide_eq_true rfl))

/-- **No edit loses a service or takes its revision back.** -/
theorem Edit.servicesContinue (h : Edit cause s s') : ServicesContinue cause s s' := by
  cases h with
  | observe hobs => exact hobs.servicesContinue
  | bookkeep hobs => exact (hobs "").servicesContinue
  | schedule live hmove => exact hmove.sameFrame.servicesContinue
  | request inner live req now plan hche hplan =>
    exact requestedState_servicesContinue now hche hplan
  | restore ids hnew hres =>
    -- a restored svc was at its first revision
    have hcont : ∀ {old svc : ServiceRecord}, old ∈ s.services →
        svc = old.withRevision svc.revision →
        (svc.id ∈ ids ∧ 0 < svc.revision ∨ svc = old) → Continues old svc := by
      intro old svc hold heq hcase
      rcases hcase with ⟨hid, hpos⟩ | rfl
      · have hid' : svc.id = old.id := by rw [heq]; rfl
        have hfir := hnew old hold (hid' ▸ hid)
        exact ⟨hid', by rw [heq]; rfl, by rw [heq]; rfl, by rw [heq]; rfl, hfir ▸ hpos⟩
      · exact Continues.refl svc
    refine ⟨fun old hold => ?_, fun svc hser => ?_⟩
    · obtain ⟨svc, hser, heq, hcase⟩ := hres.kept old hold
      exact ⟨svc, hser, hcont hold heq hcase⟩
    · obtain ⟨old, hold, heq, hcase⟩ := hres.mem svc hser
      exact .inl ⟨old, hold, hcont hold heq hcase⟩
  | adopt hado => cases hado with | intro => exact ServicesContinue.of_eq rfl
  | retry s s' stackName now hret =>
    obtain ⟨stack, dep, -, -, -, -, rfl⟩ := retryStack_ok hret
    exact ServicesContinue.of_eq rfl
  | _ => exact ServicesContinue.of_eq rfl

/-- A service up to its revision and its cursor: what its stack file declares. -/
def ServiceRecord.declared (service : ServiceRecord) : ServiceRecord :=
  service.forgetCursor.forgetRevision

/-- **Only an apply changes what a service declares.** -/
theorem Edit.declared_get? (h : Edit cause s s') (hcau : ∀ req, cause ≠ .apply req) (id : String) :
    (s'.services.get? id).map ServiceRecord.declared
      = (s.services.get? id).map ServiceRecord.declared := by
  have hobse : ∀ {nodeId : String}, Observed nodeId s s' →
      (s'.services.get? id).map ServiceRecord.declared
        = (s.services.get? id).map ServiceRecord.declared := by
    intro nodeId hobs
    have hmap := congrArg (Option.map ServiceRecord.forgetCursor) (hobs.services_get? id)
    rw [Option.map_map, Option.map_map] at hmap
    exact hmap
  cases h with
  | observe hobs => exact hobse hobs
  | bookkeep hobs => exact hobse (hobs "")
  | schedule live hmove =>
    have hmap := congrArg (Option.map ServiceRecord.forgetRevision)
      (hmove.sameFrame.services_get? id)
    rw [Option.map_map, Option.map_map] at hmap
    exact hmap
  | request inner live req | @restore req | @adopt req => exact absurd rfl (hcau req)
  | reroute s req => exact absurd rfl (hcau req)
  | retry s s' stackName now hret =>
    obtain ⟨stack, dep, -, -, -, -, rfl⟩ := retryStack_ok hret
    rfl
  | _ => rfl

/-! ## Operations -/

/-- The same operation later: it is for the same service, revision and image, and
does not become pending again. -/
structure SamePlan (op op' : ServiceOperationRecord) : Prop where
  id : op'.operationId = op.operationId
  service : op'.view.service = op.view.service
  stack : op'.stack = op.stack
  targetRevision : op'.targetRevision = op.targetRevision
  image : op'.image = op.image
  pending : op'.pending = true → op.pending = true

theorem SamePlan.refl (op : ServiceOperationRecord) : SamePlan op op :=
  ⟨rfl, rfl, rfl, rfl, rfl, fun h => h⟩

theorem SamePlan.trans {a b c : ServiceOperationRecord} (h : SamePlan a b) (h' : SamePlan b c) :
    SamePlan a c :=
  ⟨h'.id.trans h.id, h'.service.trans h.service, h'.stack.trans h.stack,
    h'.targetRevision.trans h.targetRevision, h'.image.trans h.image,
    fun hpen => h.pending (h'.pending hpen)⟩

theorem OperationKept.samePlan {op op' : ServiceOperationRecord} (h : OperationKept op op') :
    SamePlan op op' := by
  refine ⟨h.id, h.service, h.stack, h.targetRevision, h.image, fun hpen => ?_⟩
  unfold ServiceOperationRecord.pending at hpen ⊢
  obtain ⟨hact, hnone⟩ := Bool.and_eq_true_iff.mp hpen
  refine Bool.and_eq_true_iff.mpr ⟨h.active hact, ?_⟩
  cases hgen : op.view.deploymentGeneration with
  | none => rfl
  | some gen =>
    have hdep := h.deployed (by rw [hgen]; rfl)
    rw [Option.isNone_iff_eq_none.mp hnone] at hdep
    cases hdep

theorem reviveOperation_samePlan (stackName : String) (gen : Nat) (now : Int)
    (op : ServiceOperationRecord) :
    SamePlan op (reviveOperation stackName gen now op) := by
  unfold reviveOperation
  split
  next hrev =>
    -- only operations whose deployment has started are revived
    refine ⟨rfl, rfl, rfl, rfl, rfl, fun hpen => ?_⟩
    simp only [Bool.and_eq_true, decide_eq_true_eq] at hrev
    simp [ServiceOperationRecord.pending, hrev.1.2] at hpen
  · exact SamePlan.refl op

/-- **Operations come from their requests and keep their plan.** -/
theorem Edit.operations (h : Edit cause s s') :
    ∀ op' ∈ s'.serviceOperations, (∃ op ∈ s.serviceOperations, SamePlan op op') ∨
      cause = .submit op'.operationId := by
  have hsame : s'.serviceOperations = s.serviceOperations → ∀ op' ∈ s'.serviceOperations,
      (∃ op ∈ s.serviceOperations, SamePlan op op') ∨ cause = .submit op'.operationId :=
    fun heq op' hop' => .inl ⟨op', heq ▸ hop', SamePlan.refl op'⟩
  have hobse : ∀ {nodeId : String}, Observed nodeId s s' → ∀ op' ∈ s'.serviceOperations,
      (∃ op ∈ s.serviceOperations, SamePlan op op') ∨ cause = .submit op'.operationId := by
    intro nodeId hobs op' hop'
    obtain ⟨op, hop, hkept⟩ := hobs.operations op' hop'
    exact .inl ⟨op, hop, hkept.samePlan⟩
  cases h with
  | observe hobs => exact hobse hobs
  | bookkeep hobs => exact hobse (hobs "")
  | schedule live hmove => exact hsame (by rw [hmove.sameFrame.rest])
  | request inner live req now plan hche hplan =>
    intro op' hop'
    obtain ⟨op, hop, rfl⟩ := Table.exists_of_mem_map (supersedeOperation_id req now) hop'
    exact .inl ⟨op, hop, (supersedeOperation_kept req now op).samePlan⟩
  | restore ids hnew hres => exact hsame (by rw [hres.rest])
  | adopt hado => cases hado with | intro => exact hsame rfl
  | retry s s' stackName now hret =>
    obtain ⟨stack, dep, -, -, -, -, rfl⟩ := retryStack_ok hret
    intro op' hop'
    obtain ⟨op, hop, rfl⟩ := Table.exists_of_mem_map
      (reviveOperation_id stack.name dep.generation now) hop'
    exact .inl ⟨op, hop, reviveOperation_samePlan stack.name dep.generation now op⟩
  | accept plat cfg env inner req op hacc =>
    intro op' hop'
    rcases Table.mem_insert.mp hop' with rfl | ⟨hold, -⟩
    · exact .inr (congrArg Cause.submit (acceptOperation_ok hacc).2.1.symm)
    · exact .inl ⟨op', hold, SamePlan.refl op'⟩
  | _ => exact hsame rfl

/-- The same for the edits of one event. -/
theorem Edits.operations (h : Edits cause s s') :
    ∀ op' ∈ s'.serviceOperations, (∃ op ∈ s.serviceOperations, SamePlan op op') ∨
      cause = .submit op'.operationId := by
  refine keeps_of_step (P := fun t => ∀ op' ∈ t.serviceOperations,
    (∃ op ∈ s.serviceOperations, SamePlan op op') ∨ cause = .submit op'.operationId)
    (fun t t' hedit ht op' hop' => ?_) h fun op hop => .inl ⟨op, hop, SamePlan.refl op⟩
  rcases hedit.operations op' hop' with ⟨mid, hmid, hsame⟩ | hnew
  · rcases ht mid hmid with ⟨op, hop, hplan⟩ | hnew
    · exact .inl ⟨op, hop, hplan.trans hsame⟩
    · exact .inr (hsame.id ▸ hnew)
  · exact .inr hnew

/-! ## Stacks -/

/-- Records that agree up to the course of their deployment. -/
theorem Observed.stackRecords_get? (h : Observed nodeId s s') (name : String) :
    (s'.stackRecords.get? name).map StackRecord.core
      = (s.stackRecords.get? name).map StackRecord.core := by
  have hget : ∀ records : Table StackRecord.name,
      (records.map StackRecord.core StackRecord.core_name).get? name
        = (records.get? name).map StackRecord.core :=
    fun records => Table.get?_map records name
  rw [← hget, ← hget, h.stackRecords]

/-- The gateway spec a stack has, if there is such a stack. -/
def gatewaySpec (s : ClusterState) (name : String) : Option StackGatewaySpec :=
  (s.stackRecords.get? name).map StackRecord.gateway

theorem Observed.gatewaySpec_eq (h : Observed nodeId s s')
    (name : String) : gatewaySpec s' name = gatewaySpec s name := by
  have hmap := congrArg (Option.map StackRecord.gateway) (h.stackRecords_get? name)
  rw [Option.map_map, Option.map_map] at hmap
  exact hmap

theorem requestedState_gatewaySpec (inner : Inner) (req : ApplyRequest) (now : Int)
    (plan : Planning) (name : String) :
    gatewaySpec (requestedState inner req now plan) name
      = if name = req.stackName then some req.parsed.gateway
        else gatewaySpec inner.state name := by
  unfold gatewaySpec requestedState
  dsimp only
  rw [Table.get?_insert]
  show Option.map _ (if name = req.stackName then _ else _) = _
  split <;> rfl

/-- **Only an apply of a stack changes its gateway spec.** -/
theorem Edit.gatewaySpec_eq (h : Edit cause s s')
    (name : String) : gatewaySpec s' name = gatewaySpec s name ∨
      ∃ req, cause = .apply req ∧ req.stackName = name ∧
        gatewaySpec s' name = some req.parsed.gateway := by
  have hsame : s'.stackRecords = s.stackRecords → gatewaySpec s' name = gatewaySpec s name := by
    intro heq
    unfold gatewaySpec
    rw [heq]
  cases h with
  | observe hobs => exact .inl (hobs.gatewaySpec_eq name)
  | bookkeep hobs => exact .inl ((hobs "").gatewaySpec_eq name)
  | schedule live hmove => exact .inl (hsame (by rw [hmove.sameFrame.rest]))
  | request inner live req now plan hche hplan =>
    rw [requestedState_gatewaySpec]
    split
    next hname => exact .inr ⟨req, rfl, hname.symm, rfl⟩
    · exact .inl rfl
  | restore ids hnew hres => exact .inl (hsame (by rw [hres.rest]))
  | adopt hado => cases hado with | intro => exact .inl (hsame rfl)
  | retry s s' stackName now hret =>
    obtain ⟨stack, dep, -, -, -, -, rfl⟩ := retryStack_ok hret
    refine .inl ?_
    unfold gatewaySpec retriedState modifyDeployment
    dsimp only
    rw [Table.get?_modify]
    split
    · rw [Option.map_map]
      rfl
    · rfl
  | _ => exact .inl (hsame rfl)

theorem gatewaySpec_isSome : (gatewaySpec s name).isSome = s.stackRecords.contains name := by
  unfold gatewaySpec Table.contains
  exact Option.isSome_map

/-! ## Routes -/

/-- Traffic of a stack follows the routes its record asks for. -/
def RoutesFollow (s : ClusterState) (name : String) : Prop :=
  ∀ fragment spec, s.gatewayRoutes.lookup name = some fragment → gatewaySpec s name = some spec →
    fragment.gateway = spec

theorem RoutesFollow.of_eq
    (h : RoutesFollow s name) (hspec : gatewaySpec s' name = gatewaySpec s name)
    (hrou : s'.gatewayRoutes.lookup name = s.gatewayRoutes.lookup name) :
    RoutesFollow s' name := by
  intro fragment spec hfra hget
  exact h fragment spec (hrou ▸ hfra) (hspec ▸ hget)

/-- A recomputed fragment follows the record. -/
theorem stackFragment_follows {fragment : RecoveredStackGateway} {spec : StackGatewaySpec}
    (hfra : stackFragment s name = some fragment) (hspec : gatewaySpec s name = some spec) :
    fragment.gateway = spec := by
  obtain ⟨stack, hsta, heq⟩ := stackFragment_gateway hfra
  unfold gatewaySpec at hspec
  rw [hsta] at hspec
  cases hspec
  exact heq

/-- Edits keep the routes of a stack in line, except those of its own apply. -/
theorem Edit.routesFollow (hedit : Edit cause s s')
    (hcau : ∀ req, cause = .apply req → req.stackName ≠ name)
    (h : RoutesFollow s name) : RoutesFollow s' name := by
  have hspec : gatewaySpec s' name = gatewaySpec s name := by
    rcases hedit.gatewaySpec_eq name with hsame | ⟨req, hown, hname, -⟩
    · exact hsame
    · exact absurd hname (hcau req hown)
  cases hedit with
  | observe hobs => exact h.of_eq hspec (by rw [hobs.rest])
  | bookkeep hobs => exact h.of_eq hspec (by rw [(hobs "").rest])
  | schedule live hmove => exact h.of_eq hspec (by rw [hmove.sameFrame.rest])
  | refreshRoutes s =>
    intro fragment spec hfra hget
    rw [hspec] at hget
    rw [refreshReadyStackRoutes_lookup] at hfra
    split at hfra
    · exact stackFragment_follows hfra hget
    · exact h fragment spec hfra hget
  | restore ids hnew hres => exact h.of_eq hspec (by rw [hres.rest])
  | adopt hado => cases hado with | intro => exact h.of_eq hspec rfl
  | reroute s req =>
    refine h.of_eq hspec ?_
    rw [replaceStackRoute_lookup]
    exact if_neg fun hname => hcau req rfl hname.symm
  | retry s s' stackName now hret =>
    obtain ⟨stack, dep, -, -, -, -, rfl⟩ := retryStack_ok hret
    exact h.of_eq hspec rfl
  | _ => exact h.of_eq hspec rfl

/-! ## Names -/

/-- Services carry the id of their names, and their stack is on record. -/
structure Filed (s : ClusterState) : Prop where
  named : ∀ service ∈ s.services, service.id = serviceId service.stack service.name
  filed : ∀ service ∈ s.services, s.stackRecords.contains service.stack = true

theorem Edit.filed (hedit : Edit cause s s') (h : Filed s) : Filed s' := by
  have hserv := hedit.servicesContinue
  have hkept : ∀ name, s.stackRecords.contains name = true →
      s'.stackRecords.contains name = true := by
    intro name hname
    rw [← gatewaySpec_isSome] at hname ⊢
    rcases hedit.gatewaySpec_eq name with hsame | ⟨req, -, -, hnew⟩
    · rw [hsame]
      exact hname
    · rw [hnew]
      rfl
  refine ⟨fun svc' hser' => ?_, fun svc' hser' => ?_⟩
  · rcases hserv.origin svc' hser' with ⟨svc, hser, hcont⟩ | hnew
    · rw [hcont.id, hcont.stack, hcont.name]
      exact h.named svc hser
    · obtain ⟨req, -, hsta, hid, -⟩ := hnew
      rw [hid, hsta]
  · rcases hserv.origin svc' hser' with ⟨svc, hser, hcont⟩ | hnew
    · rw [hcont.stack]
      exact hkept _ (h.filed svc hser)
    · obtain ⟨req, -, hsta, -, hrec⟩ := hnew
      rw [hsta]
      exact hrec

end Swarmlite
