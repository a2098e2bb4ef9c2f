import Swarmlite.Controller.Apply

/-!
# What an apply makes of the service records

The planning loop of `apply_guarded` rewrites the table of services one requested
service at a time. `planServices_get?` reads the result off the table before the
apply: a requested id gets a new record or a rewritten one, every other record is
only marked by whether it is asked for.

The loop looks a service up by its id, the two names joined by a dot. Within one
stack different names have different ids (`serviceId_injective`), so each record is
rewritten at most once. Between stacks this is not so, and nothing here assumes it.
-/

namespace Swarmlite

open Ordered Loop

variable {svc : ServiceRecord} {plan : Planning}

theorem serviceId_injective (stack : String) : Function.Injective (serviceId stack) := by
  intro a b h
  unfold serviceId at h
  have hlis := congrArg String.toList h
  simp only [String.toList_append] at hlis
  exact String.toList_injective (List.append_cancel_left hlis)

/-- The routed ports of a service differ between the routes in use and the request. -/
def routingPortsChanged (previous : ClusterState) (request : ApplyRequest) (name : String) : Bool :=
  routedServicePorts (previousGateway previous request.stackName) name
    ≠ routedServicePorts request.parsed.gateway name

/-- The record an apply leaves under a requested id. -/
def rewritten (previous : ClusterState) (request : ApplyRequest) (entry : String × ServiceSpec)
    (old : ServiceRecord) : ServiceRecord :=
  match serviceUpdatePlan old entry.2 (routingPortsChanged previous request entry.1)
      request.policy with
  | .reconcile bump => (markDeleted request old).update entry.2 bump
  | _ => markDeleted request old

/-- The requested service with this id. -/
def ApplyRequest.entry? (request : ApplyRequest) (id : String) : Option (String × ServiceSpec) :=
  request.parsed.services.rows.find? fun entry => serviceId request.stackName entry.1 = id

/-- The record an apply leaves under an id. -/
def plannedService (previous : ClusterState) (request : ApplyRequest) (id : String) :
    Option ServiceRecord :=
  match request.entry? id with
  | none => (previous.services.get? id).map (markDeleted request)
  | some entry =>
    match previous.services.get? id with
    | none => some (newService request.stackName entry.1 entry.2)
    | some old => some (rewritten previous request entry old)

section Loop

variable {previous : ClusterState} {live : Keys String} {req : ApplyRequest}

/-- One round: a record that is still as the loop found it becomes the planned one. -/
theorem planService_get? {acc acc' : Planning} {entry : String × ServiceSpec}
    (h : planService previous live (previousGateway previous req.stackName) req acc entry
      = .ok acc')
    (hacc : acc.services.get? (serviceId req.stackName entry.1)
      = (previous.services.get? (serviceId req.stackName entry.1)).map (markDeleted req))
    (id : String) :
    acc'.services.get? id =
      if id = serviceId req.stackName entry.1 then
        match previous.services.get? id with
        | none => some (newService req.stackName entry.1 entry.2)
        | some old => some (rewritten previous req entry old)
      else acc.services.get? id := by
  unfold planService at h
  dsimp only at h
  cases hold : previous.services.get? (serviceId req.stackName entry.1) with
  | none =>
    rw [hold, Option.map_none] at hacc
    rw [hacc] at h
    cases h
    show (acc.services.insert (newService req.stackName entry.1 entry.2)).get? id = _
    rw [Table.get?_insert, show (newService req.stackName entry.1 entry.2).id
      = serviceId req.stackName entry.1 from rfl]
    by_cases hid : id = serviceId req.stackName entry.1
    · rw [if_pos hid, if_pos hid, hid, hold]
    · rw [if_neg hid, if_neg hid]
  | some old =>
    rw [hold, Option.map_some] at hacc
    rw [hacc, hold] at h
    dsimp only [Option.getD_some] at h
    -- the two plans that keep the record, and the one that rewrites it
    have hkept : serviceUpdatePlan old entry.2 (routingPortsChanged previous req entry.1)
          req.policy = .verifyOnly ∨
        serviceUpdatePlan old entry.2 (routingPortsChanged previous req entry.1)
          req.policy = .resolveImage → acc'.services = acc.services →
        acc'.services.get? id = if id = serviceId req.stackName entry.1 then
          some (rewritten previous req entry old) else acc.services.get? id := by
      intro hplan hsame
      have hrew : rewritten previous req entry old = markDeleted req old := by
        unfold rewritten
        rcases hplan with hplan | hplan <;> rw [hplan]
      rw [hsame, hrew]
      split
      next hid => rw [hid, hacc]
      · rfl
    have hgoal : acc'.services.get? id = if id = serviceId req.stackName entry.1 then
        some (rewritten previous req entry old) else acc.services.get? id := by
      split at h
      next hplan =>
        refine hkept (.inl hplan) ?_
        split at h <;> cases h <;> rfl
      next hplan =>
        refine hkept (.inr hplan) ?_
        split at h
        · cases h
        · cases h
          rfl
      next bump hplan =>
        have hrew : rewritten previous req entry old
            = (markDeleted req old).update entry.2 bump := by
          unfold rewritten
          rw [show serviceUpdatePlan old entry.2 (routingPortsChanged previous req entry.1)
            req.policy = .reconcile bump from hplan]
        split at h
        · cases h
        · cases h
          rw [hrew, Table.get?_modify]
          split
          next hid =>
            rw [hid, hacc]
            rfl
          · rfl
    rw [hgoal]
    split
    next hid => rw [hid, hold]
    · rfl

theorem foldlM_planService_get? : ∀ {l : List (String × ServiceSpec)} {acc plan : Planning},
      l.Pairwise (fun a b => a.1 ≠ b.1) →
      (∀ entry ∈ l, acc.services.get? (serviceId req.stackName entry.1)
        = (previous.services.get? (serviceId req.stackName entry.1)).map (markDeleted req)) →
      l.foldlM (planService previous live (previousGateway previous req.stackName) req) acc
        = .ok plan →
      ∀ id, plan.services.get? id =
        match l.find? fun entry => serviceId req.stackName entry.1 = id with
        | none => acc.services.get? id
        | some entry =>
          match previous.services.get? id with
          | none => some (newService req.stackName entry.1 entry.2)
          | some old => some (rewritten previous req entry old)
  | [], acc, plan, _, _, h, id => by
    cases h
    rfl
  | entry :: l, acc, plan, hnam, hacc, h, id => by
    rw [List.foldlM_cons] at h
    obtain ⟨acc', hrou, hrest⟩ := bind_ok h
    obtain ⟨hfir, hnam⟩ := List.pairwise_cons.mp hnam
    have hget := planService_get? hrou (hacc entry (List.mem_cons_self ..))
    have hacc' : ∀ other ∈ l, acc'.services.get? (serviceId req.stackName other.1)
        = (previous.services.get? (serviceId req.stackName other.1)).map (markDeleted req) := by
      intro other hoth
      have hne : serviceId req.stackName other.1 ≠ serviceId req.stackName entry.1 :=
        fun heq => hfir other hoth (serviceId_injective _ heq).symm
      rw [hget, if_neg hne]
      exact hacc other (List.mem_cons_of_mem _ hoth)
    rw [foldlM_planService_get? hnam hacc' hrest id]
    by_cases hid : serviceId req.stackName entry.1 = id
    · have hlat : (l.find? fun other => serviceId req.stackName other.1 = id) = none := by
        refine List.find?_eq_none.mpr fun other hoth heq => ?_
        have hsame := serviceId_injective req.stackName ((of_decide_eq_true heq).trans hid.symm)
        exact hfir other hoth hsame.symm
      rw [hlat, List.find?_cons_of_pos (by simpa using hid), hget, if_pos hid.symm]
    · rw [List.find?_cons_of_neg (by simpa using hid)]
      split
      · rw [hget, if_neg fun heq => hid heq.symm]
      · rfl

/-- The table the loop starts from. -/
theorem markDeleted_get? (previous : ClusterState) (req : ApplyRequest) (id : String) :
    (previous.services.map (markDeleted req) (markDeleted_id req)).get? id
      = (previous.services.get? id).map (markDeleted req) :=
  Table.get?_map previous.services id

/-- **The service records after planning.** -/
theorem planServices_get? (h : planServices previous live req = .ok plan) (id : String) :
    plan.services.get? id = plannedService previous req id := by
  have hnam : req.parsed.services.rows.Pairwise fun a b => a.1 ≠ b.1 :=
    req.parsed.services.sorted.imp fun hlt => ne_of_lt hlt
  have hget := foldlM_planService_get? hnam (fun entry _ => markDeleted_get? previous req _) h id
  rw [hget]
  unfold plannedService ApplyRequest.entry?
  split
  · exact markDeleted_get? previous req id
  · rfl

/-- A round adds an id to the new ones only if it adds a record, and removes none. -/
theorem planService_newServiceIds {gateway : StackGatewaySpec} {acc acc' : Planning}
    {entry : String × ServiceSpec} (h : planService previous live gateway req acc entry = .ok acc')
    (id : String) :
    (id ∈ acc'.newServiceIds → id ∈ acc.newServiceIds ∨ acc.services.get? id = none) ∧
      (acc'.services.get? id = none → acc.services.get? id = none) := by
  unfold planService at h
  dsimp only at h
  split at h
  next habs =>
    cases h
    refine ⟨fun hid => ?_, fun hnone => ?_⟩
    · rcases Table.mem_insert.mp hid with rfl | ⟨hold, -⟩
      · exact .inr habs
      · exact .inl hold
    · dsimp only at hnone
      rw [Table.get?_insert] at hnone
      split at hnone
      · cases hnone
      · exact hnone
  · split at h
    · split at h <;> cases h <;> exact ⟨.inl, fun hnone => hnone⟩
    · split at h
      · cases h
      · cases h
        exact ⟨.inl, fun hnone => hnone⟩
    · split at h
      · cases h
      · cases h
        refine ⟨.inl, fun hnone => ?_⟩
        dsimp only at hnone
        rw [Table.get?_modify] at hnone
        split at hnone
        · exact Option.map_eq_none_iff.mp hnone
        · exact hnone

/-- Services are new only under ids that held no record. -/
theorem planServices_newServiceIds (h : planServices previous live req = .ok plan) :
    ∀ id ∈ plan.newServiceIds, previous.services.get? id = none := by
  suffices hloop : ∀ {l : List (String × ServiceSpec)} {acc : Planning},
      (∀ id ∈ acc.newServiceIds, previous.services.get? id = none) →
      (∀ id, acc.services.get? id = none → previous.services.get? id = none) →
      l.foldlM (planService previous live (previousGateway previous req.stackName) req) acc
        = .ok plan →
      ∀ id ∈ plan.newServiceIds, previous.services.get? id = none by
    refine hloop (fun id hid => absurd hid Table.mem_empty) (fun id hid => ?_) h
    exact Option.map_eq_none_iff.mp ((markDeleted_get? previous req id).symm.trans hid)
  intro l
  induction l with
  | nil =>
    intro acc hids _ h
    cases h
    exact hids
  | cons entry l ih =>
    intro acc hids hnone h
    rw [List.foldlM_cons] at h
    obtain ⟨acc', hrou, hrest⟩ := bind_ok h
    have hnew := planService_newServiceIds hrou
    refine ih (fun id hid => ?_) (fun id hid => hnone id ((hnew id).2 hid)) hrest
    rcases (hnew id).1 hid with hold | habs
    · exact hids id hold
    · exact hnone id habs

/-- A new service starts at the first revision. -/
theorem planServices_newRevision (h : planServices previous live req = .ok plan)
    (hser : svc ∈ plan.services) (hnew : svc.id ∈ plan.newServiceIds) :
    svc.revision = 1 := by
  have hget := planServices_get? h svc.id
  unfold plannedService at hget
  rw [Table.get?_of_mem hser, planServices_newServiceIds h svc.id hnew] at hget
  split at hget
  · cases hget
  · cases hget
    rfl

end Loop

variable {req : ApplyRequest} {entry : String × ServiceSpec} {previous : ClusterState}
  {old : ServiceRecord}

/-- What an apply has checked about the kinds of its services. -/
theorem checkApply_kinds {inner : Inner} (h : checkApply inner req = .ok ())
    (hent : entry ∈ req.parsed.services.rows)
    (hser : inner.state.services.get? (serviceId req.stackName entry.1) = some svc) :
    svc.spec.job.isSome = entry.2.job.isSome := by
  unfold checkApply at h
  obtain ⟨_, -, h⟩ := bind_ok h
  obtain ⟨_, -, h⟩ := bind_ok h
  obtain ⟨_, -, h⟩ := bind_ok h
  unfold checkKinds at h
  split at h
  next hnone =>
    have hkee := List.find?_eq_none.mp hnone entry hent
    unfold keepsKind at hkee
    rw [hser] at hkee
    simpa using hkee
  · cases h

theorem ApplyRequest.mem_of_entry? {id : String} (h : req.entry? id = some entry) :
    entry ∈ req.parsed.services.rows ∧ serviceId req.stackName entry.1 = id := by
  unfold ApplyRequest.entry? at h
  refine ⟨List.mem_of_find?_eq_some h, ?_⟩
  simpa using List.find?_some h

theorem ApplyRequest.entry?_of_mem (h : entry ∈ req.parsed.services.rows) :
    req.entry? (serviceId req.stackName entry.1) = some entry := by
  cases hfou : req.entry? (serviceId req.stackName entry.1) with
  | none => exact absurd (List.find?_eq_none.mp hfou entry h) (by simp)
  | some found =>
    obtain ⟨hmem, hid⟩ := ApplyRequest.mem_of_entry? hfou
    rw [Table.eq_of_key hmem h (serviceId_injective _ hid)]

/-- An id is asked for exactly if it has an entry. -/
theorem ApplyRequest.contains_desiredIds (req : ApplyRequest) (id : String) :
    (desiredIds req).contains id = (req.entry? id).isSome := by
  cases hent : req.entry? id with
  | some entry =>
    obtain ⟨hmem, hid⟩ := ApplyRequest.mem_of_entry? hent
    exact List.contains_iff_mem.mpr
      (List.mem_map.mpr ⟨entry.1, List.mem_map.mpr ⟨entry, hmem, rfl⟩, hid⟩)
  | none =>
    refine Bool.eq_false_iff.mpr fun hcon => ?_
    obtain ⟨name, hname, hid⟩ := List.mem_map.mp (List.contains_iff_mem.mp hcon)
    obtain ⟨entry, hrow, rfl⟩ := List.mem_map.mp hname
    exact List.find?_eq_none.mp hent entry hrow (by simpa using hid)

theorem markDeleted_spec (req : ApplyRequest) (old : ServiceRecord) :
    (markDeleted req old).spec = old.spec := by
  unfold markDeleted
  split <;> rfl

/-- A rewritten record has the spec that was asked for: a plan that keeps the record
found nothing to change. -/
theorem rewritten_spec_eq (previous : ClusterState) (req : ApplyRequest)
    (entry : String × ServiceSpec) (old : ServiceRecord) :
    (rewritten previous req entry old).spec = entry.2 := by
  have hkept : ∀ plan, serviceUpdatePlan old entry.2
      (routingPortsChanged previous req entry.1) req.policy = plan →
      (∀ bump, plan ≠ .reconcile bump) → old.spec = entry.2 := by
    intro plan hplan hkee
    unfold serviceUpdatePlan at hplan
    dsimp only at hplan
    split at hplan
    · exact absurd hplan.symm (hkee true)
    split at hplan
    · exact absurd hplan.symm (hkee _)
    next hsame =>
      simp only [Bool.or_eq_true, not_or, Bool.not_eq_true, bne_eq_false_iff_eq] at hsame
      exact hsame.1.2
  unfold rewritten
  split
  · rfl
  next hplan =>
    rw [markDeleted_spec]
    exact hkept _ rfl hplan

theorem markDeleted_jobCursor (req : ApplyRequest) (old : ServiceRecord) :
    (markDeleted req old).jobCursor = old.jobCursor := by
  unfold markDeleted
  split <;> rfl

/-- An apply neither makes nor moves a job cursor. -/
theorem plannedService_jobCursor {id : String} (h : plannedService previous req id = some svc) :
    svc.jobCursor = none ∨
      ∃ old, previous.services.get? id = some old ∧ svc.jobCursor = old.jobCursor := by
  unfold plannedService at h
  split at h
  · obtain ⟨old, hold, rfl⟩ := Option.map_eq_some_iff.mp h
    exact .inr ⟨old, hold, markDeleted_jobCursor req old⟩
  next entry _ =>
    split at h
    · cases h
      exact .inl rfl
    next old hold =>
      cases h
      refine .inr ⟨old, hold, ?_⟩
      unfold rewritten
      split <;> exact markDeleted_jobCursor req old

/-- A requested service of the stack itself is not deleted. -/
theorem rewritten_deleted (hent : entry ∈ req.parsed.services.rows)
    (hid : old.id = serviceId req.stackName entry.1) (hsta : old.stack = req.stackName) :
    (rewritten previous req entry old).deleted = false := by
  unfold rewritten
  split
  · rfl
  unfold markDeleted
  rw [if_pos hsta]
  show (!(desiredIds req).contains old.id) = false
  rw [req.contains_desiredIds, hid, ApplyRequest.entry?_of_mem hent]
  rfl

/-- A record that is deleted exactly if it is not asked for stays as it is. -/
theorem markDeleted_eq_self {record : ServiceRecord} (h : record.stack = req.stackName →
      record.deleted = !(desiredIds req).contains record.id) :
    markDeleted req record = record := by
  unfold markDeleted
  split
  next hsta => rw [← h hsta]
  · rfl

/-- A forced service gets the next revision. -/
theorem rewritten_forced (hfor : req.policy.forces old.name = true) :
    (rewritten previous req entry old).revision = old.revision + 1 := by
  have hplan : serviceUpdatePlan old entry.2 (routingPortsChanged previous req entry.1)
      req.policy = .reconcile true := by
    unfold serviceUpdatePlan
    exact if_pos hfor
  have hmar : (markDeleted req old).revision = old.revision := by
    unfold markDeleted
    split <;> rfl
  unfold rewritten
  rw [hplan, ← hmar]
  rfl

/-- A service of the stack that is not asked for is deleted. -/
theorem markDeleted_deleted (hent : req.entry? old.id = none) (hsta : old.stack = req.stackName) :
    (markDeleted req old).deleted = true := by
  unfold markDeleted
  rw [if_pos hsta]
  show (!(desiredIds req).contains old.id) = true
  rw [req.contains_desiredIds, hent]
  rfl

end Swarmlite
