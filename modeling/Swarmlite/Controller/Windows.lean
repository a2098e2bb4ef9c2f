import Swarmlite.Controller.Isolation

/-!
# Scaling and forced updates between two locks

`scale_service` and `force_update_service` look their target up, let the lock go,
reserve the stack, read it again, let the lock go, and apply what they read. Others
may act in both windows.

The second window is harmless: the request carries the whole stack, and whatever
stands under the id of the target when it is committed is rewritten. The first is
not. If the target is removed before the stack is read, a scale finds no such
service in it and panics, and a forced update applies a stack without its target
and reports success. `request_windows_iff` says that this is the only way to go
wrong: all depends on whether the target is active when the stack is read.
-/

namespace Swarmlite

open Ordered Relation Loop

variable {target : ServiceRecord} {s : ClusterState} {plat : Platform}

/-- The service is there and not deleted. -/
def serviceActive (s : ClusterState) (id : String) : Prop :=
  ∃ service ∈ s.services, service.id = id ∧ service.deleted = false

/-- The target as it was when it was looked up. -/
structure Targeted (s : ClusterState) (target : ServiceRecord) : Prop where
  filed : Filed s
  kept : ∃ service ∈ s.services, Continues target service

theorem Edit.targeted {cause : Cause} {s s' : ClusterState}
    (hedit : Edit cause s s') (h : Targeted s target) : Targeted s' target := by
  obtain ⟨svc, hser, hcont⟩ := h.kept
  obtain ⟨svc', hser', hcont'⟩ := hedit.servicesContinue.kept svc hser
  exact ⟨hedit.filed h.filed, svc', hser', hcont.trans hcont'⟩

namespace Filed

variable {s : ClusterState}

theorem names (h : Filed s) : ∀ svc ∈ s.services, ∀ other ∈ s.services,
    svc.stack = other.stack → svc.name = other.name → svc = other := by
  intro svc hser other hoth hstack hname
  refine Table.eq_of_key hser hoth ?_
  rw [h.named svc hser, h.named other hoth, hstack, hname]

end Filed

namespace Targeted

variable {s : ClusterState} {target : ServiceRecord}

theorem id_eq (h : Targeted s target) : target.id = serviceId target.stack target.name := by
  obtain ⟨svc, hser, hcont⟩ := h.kept
  rw [← hcont.id, ← hcont.stack, ← hcont.name]
  exact h.filed.named svc hser

/-- The stack can be read, and has an entry for the target exactly if it is active. -/
theorem currentStack_ok (h : Targeted s target) :
    ∃ parsed, currentStack s target.stack = .ok parsed ∧
      (parsed.services.contains target.name = true ↔ serviceActive s target.id) := by
  obtain ⟨svc, hser, hcont⟩ := h.kept
  have hrec : s.stackRecords.contains target.stack = true := hcont.stack ▸ h.filed.filed svc hser
  obtain ⟨stack, hstack⟩ := Option.isSome_iff_exists.mp hrec
  cases hread : currentStack s target.stack with
  | error e =>
    unfold currentStack at hread
    rw [hstack] at hread
    cases hread
  | ok parsed =>
    refine ⟨parsed, rfl, ?_⟩
    rw [Table.contains_iff]
    constructor
    · intro hent
      obtain ⟨entry, hmem, hname⟩ := hent
      obtain ⟨other, hact, hoth, -⟩ := (mem_currentStack h.filed.names hread).mp hmem
      obtain ⟨hmem', hstack', hdel⟩ := mem_activeServices.mp hact
      refine ⟨other, hmem', ?_, hdel⟩
      rw [h.filed.named other hmem', hstack', hoth, hname, h.id_eq]
    · intro hact
      obtain ⟨other, hoth, hid, hdel⟩ := hact
      have hsame : other = svc := Table.eq_of_key hoth hser (hid.trans hcont.id.symm)
      refine ⟨(target.name, other.spec), ?_, rfl⟩
      refine (mem_currentStack h.filed.names hread).mpr ⟨other, ?_, ?_, rfl⟩
      · exact mem_activeServices.mpr ⟨hoth, by rw [hsame, hcont.stack], hdel⟩
      · rw [hsame, hcont.name]

end Targeted

/-! ## Reading the stack -/

theorem scale_guard_panics_iff (h : Targeted s target) (replicas : Nat) :
    (∃ message, (Request.scale target replicas).guard s = .error (.panicked message)) ↔
      ¬ serviceActive s target.id := by
  obtain ⟨parsed, hread, hent⟩ := h.currentStack_ok
  unfold Request.guard
  dsimp only
  rw [hread]
  show (∃ message, (do
    let parsed ← parsed.scale target.name replicas
    return ({ stackName := target.stack, parsed, policy := .preserve target.name,
              replace := false } : ApplyRequest) : Except ControllerError ApplyRequest)
    = .error (.panicked message)) ↔ _
  unfold ParsedStack.scale
  rw [← hent]
  cases hcon : parsed.services.contains target.name with
  | true => exact iff_of_false (fun h => nomatch h) (fun h => h rfl)
  | false => exact iff_of_true ⟨_, rfl⟩ (fun h => nomatch h)

/-- The request of a scale asks for the new number of replicas. -/
theorem scale_guard_ok {replicas : Nat}
    {apply : ApplyRequest} (h : (Request.scale target replicas).guard s = .ok apply) :
    apply.stackName = target.stack ∧
      ∃ spec : ServiceSpec, (target.name, spec) ∈ apply.parsed.services ∧
        spec.replicas = replicas := by
  unfold Request.guard at h
  obtain ⟨parsed, hread, h⟩ := bind_ok h
  obtain ⟨scaled, hsca, h⟩ := bind_ok h
  cases h
  refine ⟨rfl, ?_⟩
  unfold ParsedStack.scale at hsca
  split at hsca
  next hcon =>
    cases hsca
    obtain ⟨entry, hmem, hname⟩ := Table.contains_iff.mp hcon
    refine ⟨{ entry.2 with replicas }, ?_, rfl⟩
    unfold Map.modifyValue
    rw [Table.mem_modify]
    exact .inr ⟨entry, hmem, hname, by rw [hname]⟩
  · cases hsca

theorem force_guard_ok (h : Targeted s target)
    {apply : ApplyRequest} (hgua : (Request.forceUpdate target).guard s = .ok apply) :
    apply.stackName = target.stack ∧ apply.policy = .force target.name ∧
      ((∃ spec, (target.name, spec) ∈ apply.parsed.services) ↔ serviceActive s target.id) := by
  obtain ⟨parsed, hread, hent⟩ := h.currentStack_ok
  unfold Request.guard at hgua
  dsimp only at hgua
  rw [hread] at hgua
  cases hgua
  refine ⟨rfl, rfl, ?_⟩
  rw [← hent, Table.contains_iff]
  constructor
  · intro hspec
    obtain ⟨spec, hmem⟩ := hspec
    exact ⟨_, hmem, rfl⟩
  · intro hrow
    obtain ⟨entry, hmem, hname⟩ := hrow
    exact ⟨entry.2, by rw [← hname]; exact hmem⟩

theorem force_guard_never_panics (h : Targeted s target) (message : String) :
    (Request.forceUpdate target).guard s ≠ .error (.panicked message) := by
  obtain ⟨parsed, hread, -⟩ := h.currentStack_ok
  unfold Request.guard
  dsimp only
  rw [hread]
  exact fun hpan => nomatch hpan

/-! ## Committing -/

section Commit

variable {plat : Platform} {cfg : ControllerConfig} {env : Env} {server server' : Server}
  {request : ApplyRequest} {target : ServiceRecord}
  (huuid : Function.Injective env.uuid)
  (htasks : ∀ k, server.inner.state.tasks.contains (env.uuid k) = false)
  (hunclaimed : ∀ k, server.inner.state.unclaimedTasks.contains (env.uuid k) = false)
  (h : applyGuarded plat cfg env server request = .ok server')
  (htarget : Targeted server.inner.state target) (hstack : request.stackName = target.stack)

include huuid htasks hunclaimed h htarget

/-- The record of the target after the commit, read off the one before it. -/
theorem applyGuarded_target : ∃ old ∈ server.inner.state.services, Continues target old ∧
      ∃ svc ∈ server'.inner.state.services, svc.id = target.id ∧ some svc.forgetCursor
          = (plannedService server.inner.state request target.id).map
            ServiceRecord.forgetCursor := by
  obtain ⟨old, hold, hcont⟩ := htarget.kept
  have hfin := applyGuarded_services huuid htasks hunclaimed h hold
  rw [hcont.id] at hfin
  cases hget : server'.inner.state.services.get? target.id with
  | some svc =>
    rw [hget] at hfin
    exact ⟨old, hold, hcont, svc, Table.mem_of_get? hget, Table.key_of_get? hget, hfin⟩
  | none =>
    -- an apply leaves a record under every id that held one
    rw [hget] at hfin
    have hrec : server.inner.state.services.get? target.id = some old :=
      hcont.id ▸ Table.get?_of_mem hold
    unfold plannedService at hfin
    rw [hrec] at hfin
    split at hfin <;> cases hfin

include hstack

/-- With an entry for the target, the commit leaves it active, as asked for, and at
the next revision if that was forced. -/
theorem applyGuarded_entry {spec : ServiceSpec}
    (hent : (target.name, spec) ∈ request.parsed.services) :
    ∃ svc ∈ server'.inner.state.services, svc.id = target.id ∧ svc.deleted = false ∧
      svc.spec = spec ∧
      (request.policy.forces target.name = true → target.revision < svc.revision) := by
  obtain ⟨old, hold, hcont, svc, hser, hid, hpla⟩ :=
    applyGuarded_target huuid htasks hunclaimed h htarget
  have hfou : request.entry? target.id = some (target.name, spec) := by
    rw [htarget.id_eq, ← hstack]
    exact ApplyRequest.entry?_of_mem
      (show (target.name, spec) ∈ request.parsed.services.rows from hent)
  unfold plannedService at hpla
  rw [hfou, show server.inner.state.services.get? target.id = some old from
    hcont.id ▸ Table.get?_of_mem hold] at hpla
  have hrec : svc.forgetCursor
      = (rewritten server.inner.state request (target.name, spec) old).forgetCursor :=
    Option.some.inj hpla
  refine ⟨svc, hser, hid, ?_, ?_, fun hfor => ?_⟩
  · refine (congrArg (·.deleted) hrec).trans (rewritten_deleted hent ?_ ?_)
    · rw [hcont.id, htarget.id_eq, hstack]
    · rw [hcont.stack, hstack]
  · exact (congrArg (·.spec) hrec).trans (rewritten_spec_eq ..)
  · have hrev : svc.revision = old.revision + 1 :=
      (congrArg (·.revision) hrec).trans (rewritten_forced (hcont.name.symm ▸ hfor))
    have hgro := hcont.revision
    omega

/-- Without an entry for it, the commit deletes the target. -/
theorem applyGuarded_no_entry (hent : ∀ spec, (target.name, spec) ∉ request.parsed.services) :
    ¬ serviceActive server'.inner.state target.id := by
  obtain ⟨old, hold, hcont, svc, hser, hid, hpla⟩ :=
    applyGuarded_target huuid htasks hunclaimed h htarget
  have hnone : request.entry? target.id = none := by
    cases hfou : request.entry? target.id with
    | none => rfl
    | some entry =>
      obtain ⟨hmem, heq⟩ := ApplyRequest.mem_of_entry? hfou
      have hname : entry.1 = target.name := by
        rw [htarget.id_eq, ← hstack] at heq
        exact serviceId_injective _ heq
      exact absurd (hname ▸ hmem : (target.name, entry.2) ∈ request.parsed.services) (hent entry.2)
  unfold plannedService at hpla
  rw [hnone, show server.inner.state.services.get? target.id = some old from
    hcont.id ▸ Table.get?_of_mem hold] at hpla
  have hrec : svc.forgetCursor = (markDeleted request old).forgetCursor := Option.some.inj hpla
  have hdel : svc.deleted = true :=
    (congrArg (·.deleted) hrec).trans (markDeleted_deleted (hcont.id.symm ▸ hnone)
      (by rw [hcont.stack, hstack]))
  intro hact
  obtain ⟨other, hoth, hothI, hnot⟩ := hact
  rw [Table.eq_of_key hoth hser (hothI.trans hid.symm), hdel] at hnot
  cases hnot

end Commit

/-! ## The whole call -/

theorem Visited.filed (h : Visited plat s) : Filed s := by
  refine h.invariant (P := Filed) ?_ (fun _ _ _ hedit => hedit.filed) ?_ ?_
  · exact fun _ _ => ⟨fun _ hser => absurd hser Table.mem_empty,
      fun _ hser => absurd hser Table.mem_empty⟩
  · exact fun s hs => ⟨hs.named, hs.filed⟩
  · intro cfg env s gen hs
    have hold : ∀ svc' ∈ (startState plat cfg env s gen).services,
        ∃ svc ∈ s.services, Continues svc svc' := by
      intro svc' hser'
      obtain ⟨svc, hser, rfl⟩ := Table.exists_of_mem_map (Jobs.skipMissedService_id _ _) hser'
      exact ⟨svc, hser, skipMissedService_continues _ _ svc⟩
    refine ⟨fun svc' hser' => ?_, fun svc' hser' => ?_⟩
    · obtain ⟨svc, hser, hcont⟩ := hold svc' hser'
      rw [hcont.id, hcont.stack, hcont.name]
      exact hs.named svc hser
    · obtain ⟨svc, hser, hcont⟩ := hold svc' hser'
      rw [hcont.stack]
      exact hs.filed svc hser

theorem Reachable.filed {world : World} (h : Reachable plat world) :
    Filed world.state := (Visited.world h).filed

/-- A service that was looked up remains a target. -/
theorem Later.targeted {world later : World}
    (hwor : Reachable plat world) (hlat : Later plat world later)
    (htarget : target ∈ world.state.services) :
    Targeted later.state target :=
  Runs.keeps (Q := fun world => Targeted world.state target) hlat
    (fun hfre hres => keeps_of_step (P := fun s => Targeted s target)
      (fun _ _ hedit => hedit.targeted) (step_effect plat hfre hres).edits)
    ⟨hwor.filed, target, htarget, Continues.refl target⟩

theorem resolveScalable_ok {state : ClusterState} {target operation : String}
    {svc : ServiceRecord} (h : resolveScalable state target operation = .ok svc) :
    svc ∈ state.services ∧ svc.id = target := by
  unfold resolveScalable at h
  obtain ⟨found, hfou, h⟩ := bind_ok h
  obtain ⟨_, -, h⟩ := bind_ok h
  cases h
  obtain ⟨hmem, hid, -⟩ := resolveService_ok hfou
  exact ⟨hmem, hid⟩

/-- **A scale and a forced update go wrong exactly if their target is gone when the
stack is read.** The call looks the target up in `world`, reads the stack in `read`
and commits in `committing`; anything may happen in between. -/
theorem request_windows_iff {platform : Platform} {world read committing : World}
    (hworld : Reachable platform world) (hread : Later platform world read)
    (hcommit : Later platform read committing) {env : Env} (hfresh : FreshIds env committing) :
    (∀ target replicas request, scaleService world.state target replicas = .ok request →
      ((∃ message, request.guard read.state = .error (.panicked message)) ↔
        ¬ serviceActive read.state target) ∧
      ∀ apply server', request.guard read.state = .ok apply →
        applyGuarded platform committing.config env committing.server apply = .ok server' →
        ∃ service ∈ server'.inner.state.services, service.id = target ∧
          service.deleted = false ∧ service.spec.replicas = replicas) ∧
    (∀ target old request, world.state.services.get? target = some old →
      forceUpdateService world.state target = .ok request →
      (∀ message, request.guard read.state ≠ .error (.panicked message)) ∧
      ∀ apply server', request.guard read.state = .ok apply →
        applyGuarded platform committing.config env committing.server apply = .ok server' →
        ((∃ service ∈ server'.inner.state.services, service.id = target ∧
          service.deleted = false ∧ old.revision < service.revision) ↔
          serviceActive read.state target)) := by
  have hcom : Later platform world committing := hread.trans hcommit
  constructor
  · intro target replicas request hreq
    unfold scaleService at hreq
    obtain ⟨service, hser, hreq⟩ := bind_ok hreq
    cases hreq
    obtain ⟨hmem, rfl⟩ := resolveScalable_ok hser
    refine ⟨scale_guard_panics_iff (hread.targeted hworld hmem) replicas, ?_⟩
    intro apply server' hgua happ
    obtain ⟨hstack, spec, hent, hrep⟩ := scale_guard_ok hgua
    obtain ⟨final, hfin, hid, hdel, hspec, -⟩ :=
      applyGuarded_entry hfresh.injective hfresh.tasks hfresh.unclaimed happ
        (hcom.targeted hworld hmem) hstack hent
    exact ⟨final, hfin, hid, hdel, by rw [hspec, hrep]⟩
  · intro target old request hold hreq
    unfold forceUpdateService at hreq
    obtain ⟨service, hser, hreq⟩ := bind_ok hreq
    cases hreq
    obtain ⟨hmem, rfl⟩ := resolveScalable_ok hser
    rw [Table.get?_of_mem hmem] at hold
    cases hold
    have htarget := hread.targeted hworld hmem
    refine ⟨force_guard_never_panics htarget, ?_⟩
    intro apply server' hgua happ
    obtain ⟨hstack, hpol, hact⟩ := force_guard_ok htarget hgua
    have hlat := hcom.targeted hworld hmem
    rw [← hact]
    constructor
    · intro hgood
      obtain ⟨final, hfin, hid, hdel, -⟩ := hgood
      by_contra hnone
      exact applyGuarded_no_entry hfresh.injective hfresh.tasks hfresh.unclaimed happ hlat
        hstack (not_exists.mp hnone) ⟨final, hfin, hid, hdel⟩
    · intro hent
      obtain ⟨spec, hent⟩ := hent
      obtain ⟨final, hfin, hid, hdel, -, hfor⟩ :=
        applyGuarded_entry hfresh.injective hfresh.tasks hfresh.unclaimed happ hlat hstack
          hent
      refine ⟨final, hfin, hid, hdel, hfor ?_⟩
      rw [hpol]
      exact decide_eq_true rfl

/-- A stack with one service that is meant to run nowhere. -/
def applyIdle : List Input :=
  [{ event := .apply "a" { services := Table.ofList [("web", { image := "one", replicas := 0 })] }
      Table.empty false
     tag := "1" },
   { event := .commit 0, tag := "2" }]

def idleWorld : World := sampleWorld.perform samplePlatform applyIdle

theorem idleWorld_reachable : Reachable samplePlatform idleWorld :=
  sampleWorld_reachable.perform (by decide +kernel)

/-- A scale that nothing interferes with. -/
def scaleIdle : Except ControllerError Server := do
  let request ← scaleService idleWorld.state "a.web" 2
  let apply ← request.guard idleWorld.state
  applyGuarded samplePlatform idleWorld.config (applyOne "a" "web" "one" "3").env idleWorld.server
    apply

/-- It succeeds, and the service has the two replicas. -/
theorem request_windows_idle :
    ∃ server', scaleIdle = .ok server' ∧
      ∃ service ∈ server'.inner.state.services, service.id = "a.web" ∧
        service.deleted = false ∧ service.spec.replicas = 2 := by
  have hok : scaleIdle.toBool = true := by decide +kernel
  have hfre : FreshIds (applyOne "a" "web" "one" "3").env idleWorld :=
    freshIds_of_tagFree (by decide +kernel)
  cases hser : scaleIdle with
  | error e =>
    rw [hser] at hok
    cases hok
  | ok server' =>
    refine ⟨server', rfl, ?_⟩
    unfold scaleIdle at hser
    obtain ⟨request, hreq, hser⟩ := bind_ok hser
    obtain ⟨apply, hgua, happ⟩ := bind_ok hser
    exact ((request_windows_iff idleWorld_reachable .refl .refl hfre).1 "a.web" 2 request
      hreq).2 apply server' hgua happ

/-- The target is removed by an apply of the empty stack, before the stack is read. -/
def removeTarget (event : Event) : List Input :=
  applyIdle ++ [{ event, tag := "3" }, { event := .apply "a" {} Table.empty true, tag := "4" },
    { event := .commit 1, tag := "5" }]

def scaleRemoved : World := sampleWorld.perform samplePlatform (removeTarget (.scale "a.web" 2))

def forceRemoved : World :=
  sampleWorld.perform samplePlatform
    (removeTarget (.forceUpdate "a.web") ++ [{ event := .reserve 0, tag := "6" }])

def panicMessage (request : Request) (state : ClusterState) : Option String :=
  match request.guard state with
  | .error (.panicked message) => some message
  | _ => none

/-- The services a reserved request leaves if it is committed, and whether they are
deleted. -/
def committedServices (world : World) (request : Request) : Option (List (String × Bool)) :=
  match request with
  | .guarded apply =>
    match applyGuarded samplePlatform world.config (applyOne "a" "web" "one" "7").env world.server
        apply with
    | .ok server => some (server.inner.state.services.rows.map fun service =>
        (service.id, service.deleted))
    | .error _ => none
  | _ => none

/-- **A scale panics, and a forced update succeeds without its target**, if the target
is removed after it was looked up. -/
theorem removed_target_goes_wrong :
    Reachable samplePlatform scaleRemoved ∧
    (scaleRemoved.requests.map fun request => panicMessage request scaleRemoved.state)
      = [some "resolved service must be present"] ∧
    Reachable samplePlatform forceRemoved ∧
    forceRemoved.requests.map (committedServices forceRemoved) = [some [("a.web", true)]] :=
  ⟨sampleWorld_reachable.perform (by decide +kernel), by decide +kernel,
    sampleWorld_reachable.perform (by decide +kernel), by decide +kernel⟩

end Swarmlite
