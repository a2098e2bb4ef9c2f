import Swarmlite.Controller.Slots

/-!
# Which applies leave other stacks alone

The service table is keyed by `stack.service`. Both parts may contain dots: a stack
name is checked to consist of letters, digits, `.`, `-` and `_`, a service name is
not checked at all. So `b.c` of the stack `a` and `c` of the stack `a.b` are one
record (`dotted_names_collide`), and applying the second stack rewrites what belongs
to the first.

`apply_isolates_stacks_iff` says exactly when an apply leaves all records of other
stacks as they were: every requested id that holds such a record must ask for what
is already there. An apply, a scale, a forced update, a rollback and a removal all
end in `applyGuarded`, so this covers them all.
-/

namespace Swarmlite

open Ordered Relation Loop

variable {record : ServiceRecord}

/-- The request asks for the record as it is, and in a way that does not bump its
revision. -/
def asksForSame (previous : ClusterState) (request : ApplyRequest) (entry : String × ServiceSpec)
    (record : ServiceRecord) : Prop :=
  request.policy.forces record.name = false ∧ record.deleted = false ∧ record.spec = entry.2 ∧
    (routingPortsChanged previous request entry.1 = true →
      request.policy.preserves record.name = true)

instance (previous : ClusterState) (request : ApplyRequest) (entry : String × ServiceSpec)
    (record : ServiceRecord) : Decidable (asksForSame previous request entry record) := by
  unfold asksForSame
  infer_instance

/-- Requested ids that hold a record of another stack ask for what is there. -/
def leavesForeignRecords (previous : ClusterState) (request : ApplyRequest) : Prop :=
  ∀ entry ∈ request.parsed.services.rows, ∀ record ∈ previous.services,
    record.id = serviceId request.stackName entry.1 → record.stack ≠ request.stackName →
    asksForSame previous request entry record

theorem markDeleted_foreign {req : ApplyRequest}
    (h : record.stack ≠ req.stackName) : markDeleted req record = record :=
  if_neg h

/-- A rewritten record of another stack is unchanged exactly if it was asked for as
it is. -/
theorem rewritten_foreign_iff {previous : ClusterState} {req : ApplyRequest}
    {entry : String × ServiceSpec}
    (h : record.stack ≠ req.stackName) :
    (rewritten previous req entry record).forgetCursor = record.forgetCursor ↔
      asksForSame previous req entry record := by
  unfold rewritten asksForSame serviceUpdatePlan
  rw [markDeleted_foreign h]
  -- a bumped revision differs, whatever else was asked for
  have hbump : ((record.update entry.2 true).forgetCursor = record.forgetCursor) ↔ False := by
    refine iff_false_intro fun heq => ?_
    have hrev : record.revision + 1 = record.revision := congrArg (·.revision) heq
    omega
  have hkeep : ((record.update entry.2 false).forgetCursor = record.forgetCursor) ↔
      record.deleted = false ∧ record.spec = entry.2 := by
    constructor
    · intro heq
      exact ⟨(congrArg (·.deleted) heq).symm, (congrArg (·.spec) heq).symm⟩
    · intro hsame
      simp [ServiceRecord.update, ServiceRecord.forgetCursor, hsame.1, hsame.2]
  cases hfor : req.policy.forces record.name with
  | true => simpa using hbump
  | false =>
    by_cases hcha : (record.deleted || record.spec != entry.2
        || routingPortsChanged previous req entry.1) = true
    · rw [if_neg (by simp), if_pos hcha]
      cases hpre : req.policy.preserves record.name with
      | true => simpa using hkeep
      | false =>
        refine (Iff.trans (by simpa using hbump) (iff_false_intro fun hsame => ?_).symm)
        obtain ⟨-, hdel, hspec, hpor⟩ := hsame
        simp only [hdel, hspec, bne_self_eq_false, Bool.false_or] at hcha
        exact absurd (hpor hcha) (by simp)
    · rw [if_neg (by simp), if_neg hcha]
      simp only [Bool.or_eq_true, not_or, Bool.not_eq_true, bne_eq_false_iff_eq] at hcha
      obtain ⟨⟨hdel, hspec⟩, hpor⟩ := hcha
      refine iff_of_true ?_ ⟨rfl, hdel, hspec, fun hpor' => ?_⟩
      · generalize (entry.2.job.isNone && req.policy.refreshesImages
          && entry.2.pullPolicy.refreshesCachedImage entry.2.image) = refresh
        cases refresh <;> rfl
      · rw [hpor] at hpor'
        cases hpor'

section Apply

variable {platform : Platform} {config : ControllerConfig} {env : Env} {server server' : Server}
  {request : ApplyRequest}

/-- Before the scheduler runs, the planned record stands under every id that held one. -/
theorem applyDesired_get? (ext : Externals) {inner : Inner} {live : Keys String} (now : Int)
    {plan : Planning} (hplan : planServices inner.state live request = .ok plan)
    (hrec : record ∈ inner.state.services) :
    (applyDesired ext inner request now plan).services.get? record.id
      = plannedService inner.state request record.id := by
  have hres := restoreUnclaimedServiceRevisions_restored ext
    (requestedState inner request now plan) plan.newServiceIds.rows
  have hold : record.id ∉ plan.newServiceIds := by
    intro hnew
    have hnone := planServices_newServiceIds hplan record.id hnew
    rw [Table.get?_of_mem hrec] at hnone
    cases hnone
  rw [applyDesired_services, ← planServices_get? hplan record.id]
  -- the restored table and the planned one agree outside the new ids
  refine Table.get?_congr fun svc hid => ?_
  constructor
  · intro hmem
    obtain ⟨old, holdM, -, hcase⟩ := hres.mem svc hmem
    rcases hcase with hnew | rfl
    · exact absurd (hid ▸ hnew.1) hold
    · exact holdM
  · intro hmem
    obtain ⟨svc', hmem', heq, hcase⟩ := hres.kept svc hmem
    have hid' : svc'.id = svc.id := by rw [heq]; rfl
    rcases hcase with hnew | rfl
    · exact absurd (hid ▸ hid' ▸ hnew.1) hold
    · exact hmem'

/-- Up to job cursors, an apply leaves the planned record under every id that held one. -/
theorem applyGuarded_services (huuid : Function.Injective env.uuid)
    (htas : ∀ k, server.inner.state.tasks.contains (env.uuid k) = false)
    (hunc : ∀ k, server.inner.state.unclaimedTasks.contains (env.uuid k) = false)
    (h : applyGuarded platform config env server request = .ok server')
    (hrec : record ∈ server.inner.state.services) :
    ((server'.inner.state.services.get? record.id).map ServiceRecord.forgetCursor)
      = (plannedService server.inner.state request record.id).map ServiceRecord.forgetCursor := by
  obtain ⟨plan, refreshed, hche, hplan, href, hcom⟩ := applyGuarded_ok h
  obtain ⟨snap, -, rfl, -⟩ := commitLocked_ok hcom
  have hfin : refreshed.1.state.services
      = (applyScheduled platform config env server.inner request plan).services := by
    rw [(refreshStackDeploymentsLocked_ok href).2, Inner.withState_state]
  have hmov := reconcile_moves (currentLiveNodes config env.now server.inner)
    platform.toExternals huuid env.now.unixMs
    (applyDesired_fresh platform.toExternals server.inner request env.now.unixMs plan htas hunc)
  show (refreshed.1.state.services.get? record.id).map ServiceRecord.forgetCursor = _
  rw [hfin, (applyScheduled_work ..).services,
    ← applyDesired_get? platform.toExternals env.now.unixMs hplan hrec]
  exact hmov.sameFrame.services_get? record.id

/-- A record is kept, read off its id. -/
theorem kept_iff_get? {services : Table ServiceRecord.id} :
    (services.get? record.id).map ServiceRecord.forgetCursor = some record.forgetCursor ↔
      ∃ record' ∈ services, record'.forgetCursor = record.forgetCursor := by
  rw [Option.map_eq_some_iff]
  constructor
  · intro h
    obtain ⟨record', hget, heq⟩ := h
    exact ⟨record', Table.mem_of_get? hget, heq⟩
  · intro h
    obtain ⟨record', hmem, heq⟩ := h
    have hid : record'.id = record.id := congrArg (·.id) heq
    exact ⟨record', hid ▸ Table.get?_of_mem hmem, heq⟩

/-- **An apply leaves the service records of other stacks alone exactly if the ids it
shares with them ask for what is there.** -/
theorem apply_isolates_stacks_iff (huuid : Function.Injective env.uuid)
    (htasks : ∀ k, server.inner.state.tasks.contains (env.uuid k) = false)
    (hunclaimed : ∀ k, server.inner.state.unclaimedTasks.contains (env.uuid k) = false)
    (h : applyGuarded platform config env server request = .ok server') :
    (∀ record ∈ server.inner.state.services, record.stack ≠ request.stackName →
      ∃ record' ∈ server'.inner.state.services,
        record'.forgetCursor = record.forgetCursor) ↔
      leavesForeignRecords server.inner.state request := by
  have hpla : ∀ record ∈ server.inner.state.services, record.stack ≠ request.stackName →
      ((∃ record' ∈ server'.inner.state.services, record'.forgetCursor = record.forgetCursor) ↔
        ∀ entry, request.entry? record.id = some entry →
          asksForSame server.inner.state request entry record) := by
    intro record hrec hfor
    have hfin := applyGuarded_services huuid htasks hunclaimed h hrec
    rw [← kept_iff_get?]
    unfold plannedService at hfin
    rw [Table.get?_of_mem hrec] at hfin
    cases hent : request.entry? record.id with
    | none =>
      rw [hent, Option.map_some, markDeleted_foreign hfor] at hfin
      exact iff_of_true hfin fun entry hsome => nomatch hsome
    | some entry =>
      rw [hent] at hfin
      rw [hfin]
      simp only [Option.map_some, Option.some.injEq, forall_eq']
      exact rewritten_foreign_iff hfor
  constructor
  · intro hkept entry hent record hrec hid hfor
    refine (hpla record hrec hfor).mp (hkept record hrec hfor) entry ?_
    rw [hid]
    exact ApplyRequest.entry?_of_mem hent
  · intro hlea record hrec hfor
    refine (hpla record hrec hfor).mpr fun entry hent => ?_
    obtain ⟨hmem, hid⟩ := ApplyRequest.mem_of_entry? hent
    exact hlea entry hmem record hrec hid.symm hfor

end Apply

/-- An apply of one service, up to the reservation of its stack. -/
def applyOne (stackName name image tag : String) : Input :=
  { event := .apply stackName { services := Table.ofList [(name, { image })] } Table.empty false
    tag }

/-- The request of such an apply. -/
def applyOneRequest (stackName name image : String) : ApplyRequest :=
  { stackName, parsed := { services := Table.ofList [(name, { image })] }, policy := .detectChanges,
    replace := false }

def isolatedWorld : World :=
  sampleWorld.perform samplePlatform [applyOne "a" "web" "one" "1", { event := .commit 0, tag := "2" }]

/-- An apply of `b` next to a stack `a`, whose record is kept. -/
theorem apply_isolates_stacks_separate :
    ∃ server', applyGuarded samplePlatform sampleConfig (applyOne "b" "web" "two" "3").env
        isolatedWorld.server (applyOneRequest "b" "web" "two") = .ok server' ∧
      isolatedWorld.state.services.contains "a.web" = true ∧
      ∀ record ∈ isolatedWorld.state.services, record.stack ≠ "b" →
        ∃ record' ∈ server'.inner.state.services,
          record'.forgetCursor = record.forgetCursor := by
  have hok : (applyGuarded samplePlatform sampleConfig (applyOne "b" "web" "two" "3").env
      isolatedWorld.server (applyOneRequest "b" "web" "two")).toBool = true := by decide +kernel
  have hfre : FreshIds (applyOne "b" "web" "two" "3").env isolatedWorld :=
    freshIds_of_tagFree (by decide +kernel)
  cases hser : applyGuarded samplePlatform sampleConfig (applyOne "b" "web" "two" "3").env
      isolatedWorld.server (applyOneRequest "b" "web" "two") with
  | error e =>
    rw [hser] at hok
    cases hok
  | ok server' =>
    refine ⟨server', rfl, by decide +kernel, ?_⟩
    have hlea : ∀ entry ∈ (applyOneRequest "b" "web" "two").parsed.services.rows,
        ∀ record ∈ isolatedWorld.state.services.rows, record.id = serviceId "b" entry.1 →
          record.stack ≠ "b" →
          asksForSame isolatedWorld.state (applyOneRequest "b" "web" "two") entry record := by
      decide +kernel
    exact (apply_isolates_stacks_iff hfre.injective hfre.tasks hfre.unclaimed hser).mpr
      hlea

/-- The service `b.c` of the stack `a`, and then the service `c` of the stack `a.b`. -/
def dottedInputs : List Input :=
  [applyOne "a" "b.c" "one" "1", { event := .commit 0, tag := "2" }, applyOne "a.b" "c" "two" "3"]

/-- The stack, name, image and revision of the record under an id. -/
def recordUnder (world : World) (id : String) : Option (String × String × String × Nat) :=
  (world.state.services.get? id).map fun record =>
    (record.stack, record.name, record.spec.image, record.revision)

/-- **Two pairs of accepted names with one id**: applying the stack `a.b` rewrites the
service of the stack `a`. -/
theorem dotted_names_collide :
    serviceId "a" "b.c" = serviceId "a.b" "c" ∧
    Reachable samplePlatform (sampleWorld.perform samplePlatform dottedInputs) ∧
    recordUnder (sampleWorld.perform samplePlatform dottedInputs) "a.b.c"
      = some ("a", "b.c", "one", 1) ∧
    recordUnder (sampleWorld.perform samplePlatform
      (dottedInputs ++ [{ event := .commit 0, tag := "4" }])) "a.b.c"
      = some ("a", "b.c", "two", 2) :=
  ⟨by decide +kernel, sampleWorld_reachable.perform (by decide +kernel), by decide +kernel,
    by decide +kernel⟩

end Swarmlite
