import Swarmlite.Controller.Changes
import Swarmlite.Controller.Prepared

/-!
# Operations and their keys

A caller names a service operation by a key of its own, and may send the request again when an
answer is lost. The controller looks for an operation of the principal with that key before
anything else, and answers with it.

Two things carry this. The operation table of the database has two unique indices, so what a
commit stores is `Exclusive`: one operation per principal and key, one active operation per
stack. Between two commits only upkeep changes the operations, and upkeep accepts nothing and
wakes nothing up. And whatever happens to an operation, what was requested stays
(`ServiceOperationRecord.call`), the hash of the request among it; the hash is taken over
the id the caller gave, whether or not the service still exists, because a service is only
found under its id.

**`operations_idempotent`**: every reachable state is exclusive; and an accepted request, sent
again after any run, is answered with the same operation and changes nothing, unless the
operation was forgotten meanwhile, ninety days or more after it had ended (`Expires`).
-/

namespace Swarmlite

open Ordered Relation Loop

variable {srv : Server} {world : World} {env : Env} {op : ServiceOperationRecord}

/-! ## What is unique -/

/-- One operation per principal and key, and one active operation per stack. -/
structure Exclusive (operations : Table ServiceOperationRecord.operationId) : Prop where
  key : ∀ op ∈ operations, ∀ other ∈ operations, op.principalId = other.principalId →
    op.idempotencyKey = other.idempotencyKey → op = other
  stack : ∀ op ∈ operations, ∀ other ∈ operations, op.view.status.active = true →
    other.view.status.active = true → op.stack = other.stack → op = other

/-- The indices of the database make operations exclusive. -/
theorem exclusive_of_storable {operations : Table ServiceOperationRecord.operationId}
    (h : operationsStorable operations = true) : Exclusive operations := by
  obtain ⟨hkeys, hact⟩ := Bool.and_eq_true_iff.mp h
  constructor
  · intro op hop other hoth hpri hkey
    exact List.inj_on_of_nodup_map (of_decide_eq_true hkeys) hop hoth (Prod.ext hpri hkey)
  · intro op hop other hoth hopA hothA hsta
    exact List.inj_on_of_nodup_map (of_decide_eq_true hact)
      (List.mem_filter.mpr ⟨hop, hopA⟩) (List.mem_filter.mpr ⟨hoth, hothA⟩) hsta

/-- What a caller asked for, and the id it was answered with. -/
structure OperationCall where
  operationId : String
  service : String
  kind : ServiceOperationKind
  principalId : String
  idempotencyKey : String
  requestHash : String

def ServiceOperationRecord.call (op : ServiceOperationRecord) : OperationCall :=
  { operationId := op.operationId
    service := op.view.service
    kind := op.view.kind
    principalId := op.principalId
    idempotencyKey := op.idempotencyKey
    requestHash := op.requestHash }

section Changes

variable {plat : Platform} {env : Env} {world : World} {event : Event} {found : Inner}
  {s s' : ClusterState} {op op' : ServiceOperationRecord}

theorem OperationTended.call (h : OperationTended env event s op op') : op'.call = op.call := by
  have hide := congrArg ServiceOperationRecord.call h.identity
  exact hide

theorem OperationDecided.call (h : OperationDecided env world event op op') :
    op'.call = op.call := by
  cases h with
  | kept => rfl
  | revived dep =>
    unfold reviveOperation
    split <;> rfl
  | superseded request =>
    unfold supersedeOperation
    split <;> rfl
  | started | unstarted => rfl

/-- Upkeep brings in no operation and wakes none up. -/
theorem Exclusive.upkeep (h : Exclusive s.serviceOperations) (hupk : Upkeep env event found s s') :
    Exclusive s'.serviceOperations := by
  -- two operations that come from one and the same have its id, and are the same
  have hsame : ∀ {op op' other'}, OperationTended env event s op op' →
      OperationTended env event s op other' → op' ∈ s'.serviceOperations →
      other' ∈ s'.serviceOperations → op' = other' := by
    intro op op' other' hop hothe hop' hothe'
    exact Table.eq_of_key hop' hothe' (hop.kept.id.trans hothe.kept.id.symm)
  constructor
  · intro op' hop' other' hothe' hpri hkey
    obtain ⟨op, hop, hten⟩ := hupk.operation_before hop'
    obtain ⟨other, hothe, hten'⟩ := hupk.operation_before hothe'
    have hop₀ := hten.call
    have hoth := hten'.call
    have hprin : op.principalId = other.principalId :=
      (congrArg OperationCall.principalId hop₀).symm.trans
        (hpri.trans (congrArg OperationCall.principalId hoth))
    have hkey₀ : op.idempotencyKey = other.idempotencyKey :=
      (congrArg OperationCall.idempotencyKey hop₀).symm.trans
        (hkey.trans (congrArg OperationCall.idempotencyKey hoth))
    obtain rfl := h.key op hop other hothe hprin hkey₀
    exact hsame hten hten' hop' hothe'
  · intro op' hop' other' hothe' hact hact' hstac
    obtain ⟨op, hop, hten⟩ := hupk.operation_before hop'
    obtain ⟨other, hothe, hten'⟩ := hupk.operation_before hothe'
    have hsta : op.stack = other.stack := hten.kept.stack.symm.trans (hstac.trans hten'.kept.stack)
    obtain rfl := h.stack op hop other hothe (hten.kept.active hact) (hten'.kept.active hact') hsta
    exact hsame hten hten' hop' hothe'

theorem Exclusive.upkeeps (h : Exclusive s.serviceOperations)
    (hupk : Upkeeps env event found s s') : Exclusive s'.serviceOperations := by
  induction hupk with
  | refl => exact h
  | tail _ hstep ih => exact ih.upkeep hstep

theorem Upkeeps.call_before (h : Upkeeps env event found s s') (hop' : op' ∈ s'.serviceOperations) :
    ∃ op ∈ s.serviceOperations, op'.call = op.call := by
  induction h generalizing op' with
  | refl => exact ⟨op', hop', rfl⟩
  | tail _ hstep ih =>
    obtain ⟨mid, hmid, hten⟩ := hstep.operation_before hop'
    obtain ⟨op, hop, hcall⟩ := ih hmid
    exact ⟨op, hop, hten.call.trans hcall⟩

end Changes

/-! ## Reachable worlds -/

/-- The operations are exclusive, in use and stored, and every operation in use is stored. -/
structure Indexed (server : Server) : Prop where
  exclusive : Exclusive server.inner.state.serviceOperations
  stored : Exclusive server.disk.state.serviceOperations
  backed : ∀ op ∈ server.inner.state.serviceOperations,
    ∃ op' ∈ server.disk.state.serviceOperations, op'.call = op.call

section Reachable

variable {plat : Platform} {cfg : ControllerConfig} {disk : VersionedState}

/-- What is written with storable operations is indexed. -/
theorem indexed_of_stored (hsto : srv.disk.state = srv.inner.state.persisted)
    (h : Exclusive srv.inner.state.serviceOperations) : Indexed srv := by
  have hsame : srv.disk.state.serviceOperations = srv.inner.state.serviceOperations := by
    rw [hsto]
    rfl
  refine ⟨h, by rw [hsame]; exact h, fun op hop => ⟨op, ?_, rfl⟩⟩
  rw [hsame]
  exact hop

/-- A process starts with the operations that are stored. -/
theorem start_operations (hok : start plat cfg env disk = .ok srv) :
    srv.inner.state.serviceOperations = disk.state.serviceOperations ∧
      srv.disk.state.serviceOperations = disk.state.serviceOperations := by
  obtain ⟨cluster, gen, hinn, hsame | hsto⟩ := start_ok hok
  · rw [hinn, hsame]
    exact ⟨rfl, rfl⟩
  · rw [hinn, hsto]
    exact ⟨rfl, rfl⟩

theorem start_indexed (hok : start plat cfg env disk = .ok srv)
    (h : Exclusive disk.state.serviceOperations) : Indexed srv := by
  obtain ⟨hinn, hdisk⟩ := start_operations hok
  constructor
  · rw [hinn]
    exact h
  · rw [hdisk]
    exact h
  · rw [hinn, hdisk]
    exact fun op hop => ⟨op, hop, rfl⟩

/-- Nothing but upkeep happens between two commits. -/
theorem Indexed.changed {event : Event}
    (h : Indexed world.server) (hcha : Changed plat env world event srv) :
    Indexed srv := by
  rcases hcha.disk with ⟨hdisk, hgen⟩ | ⟨hstor, -, hsto⟩
  · rcases hcha.changes with hupk | ⟨-, hmov⟩
    · refine ⟨h.exclusive.upkeeps hupk, by rw [hdisk]; exact h.stored, fun op' hop' => ?_⟩
      obtain ⟨op, hop, hcall⟩ := hupk.call_before hop'
      obtain ⟨stored, hmem, hsame⟩ := h.backed op hop
      rw [hdisk]
      exact ⟨stored, hmem, hsame.trans hcall.symm⟩
    · omega
  · exact indexed_of_stored hstor (exclusive_of_storable hsto)

theorem Reachable.indexed (h : Reachable plat world) : Indexed world.server := by
  induction h with
  | fresh hok | recovered hok => exact start_indexed hok ⟨(fun _ h => nomatch h), fun _ h => nomatch h⟩
  | @step world _ env event hfresh ih =>
    rcases event.ne_restart_or with hres | ⟨cfg, rfl⟩
    · exact ih.changed (step_changed plat hfresh hres)
    · show Indexed (world.restart plat env cfg).server
      unfold World.restart
      split
      · exact ih
      next server hok => exact start_indexed hok ih.stored

end Reachable

/-! ## One event -/

/-- A new operation gets an id that no operation has. -/
def NewOperationId (env : Env) (world : World) (event : Event) : Prop :=
  ∀ request, event = .submitOperation request →
    ∀ op ∈ world.state.serviceOperations, op.operationId ≠ "op_" ++ env.uuid 0

def Event.submits : Event → Bool
  | .submitOperation _ => true
  | _ => false

theorem newOperationId_of_not_submits {event : Event}
    (h : (!event.submits) = true) : NewOperationId env world event := by
  intro request heve
  rw [heve] at h
  cases h

/-- What an event makes of an operation before it forgets it. -/
def Became (env : Env) (world : World) (event : Event) (op op' : ServiceOperationRecord) : Prop :=
  ∃ decided, OperationDecided env world event op decided ∧
    ReflTransGen (fun a b => ∃ s, OperationTended env event s a b) decided op'

/-- The event forgets the operation, which had ended ninety days before, or earlier. -/
structure Expires (platform : Platform) (env : Env) (world : World) (event : Event)
    (operationId : String) : Prop where
  gone : (world.step platform env event).state.serviceOperations.get? operationId = none
  ended : ∃ op ∈ world.state.serviceOperations, op.operationId = operationId ∧
    ∃ last, Became env world event op last ∧ last.view.status.active = false ∧
      ∃ finished time, last.finishedAtUnixMs = some finished ∧ env.reads time ∧
        finished + 90 * 86400000 ≤ time

theorem ServiceOperationRecord.removable_ended {s : ClusterState}
    {now : Int} (h : op.removable s now = true) :
    op.view.status.active = false ∧
      ∃ finished, op.finishedAtUnixMs = some finished ∧ finished + 90 * 86400000 ≤ now := by
  unfold ServiceOperationRecord.removable at h
  simp only [Bool.and_eq_true, Bool.not_eq_true'] at h
  obtain ⟨⟨hina, -⟩, hold⟩ := h
  obtain ⟨finished, hfin, hage⟩ := (Option.any_eq_true _ _).mp hold
  refine ⟨hina, finished, hfin, ?_⟩
  have hage := of_decide_eq_true hage
  unfold satI64 at hage
  omega

section Events

variable {plat : Platform} {env : Env} {world : World} {event : Event}
  {op : ServiceOperationRecord}

/-- **One event keeps an operation as it was requested**, or lets it expire. -/
theorem step_call (hwor : Reachable plat world) (hfre : FreshIds env world)
    (hnew : NewOperationId env world event) (hop : op ∈ world.state.serviceOperations) :
    (∃ op' ∈ (world.step plat env event).state.serviceOperations, op'.call = op.call) ∨
    Expires plat env world event op.operationId := by
  rcases event.ne_restart_or with hres | ⟨cfg, rfl⟩
  · -- upkeep of what the event decides
    have hupke : ∀ {s decided}, decided ∈ s.serviceOperations →
        OperationDecided env world event op decided →
        Upkeeps env event world.server.inner s (world.step plat env event).state →
        (∃ op' ∈ (world.step plat env event).state.serviceOperations, op'.call = op.call) ∨
        Expires plat env world event op.operationId := by
      intro s decided hdec hmade hupk
      have hid := hmade.id
      rcases hupk.operation_keeps
          (R := fun _ op' => op'.call = op.call ∧ Became env world event op op')
          (fun _ hR hten => ⟨hten.call.trans hR.1, hR.2.elim fun first hfir =>
            ⟨first, hfir.1, hfir.2.tail ⟨_, hten⟩⟩⟩)
          hdec ⟨hmade.call, decided, hmade, .refl⟩ with
        ⟨op', hop', -, hcall, -⟩ | ⟨hgone, s₁, op₁, live, time, htime, ⟨-, hbec⟩, hrem⟩
      · exact .inl ⟨op', hop', hcall⟩
      · rw [hid] at hgone
        obtain ⟨hina, finished, hfin, hage⟩ := ServiceOperationRecord.removable_ended hrem
        obtain ⟨first, hfir, hlat⟩ := hbec
        have hlast : Became env world event op (op₁.advance s₁ live time) :=
          ⟨first, hfir, hlat.tail ⟨s₁, .inr (.advanced op₁ live time htime)⟩⟩
        exact .inr ⟨hgone, op, hop, rfl, _, hlast, hina, finished, time, hfin, htime, hage⟩
    rcases (step_changed plat hfre hres).changes with
      hupk | ⟨⟨s, hdeci, hupk⟩, -⟩
    · exact hupke hop .kept hupk
    · obtain ⟨decided, hdec, hmade⟩ := hdeci.operation_after hop
        fun request heve => hnew request heve op hop
      exact hupke hdec hmade hupk
  · left
    show ∃ op' ∈ (world.restart plat env cfg).server.inner.state.serviceOperations, _
    unfold World.restart
    split
    · exact ⟨op, hop, rfl⟩
    next server hok =>
      rw [(start_operations hok).1]
      exact hwor.indexed.backed op hop

/-- A service is found under its own id, so the target of a request does not change. -/
theorem canonicalTarget_eq (s : ClusterState) (target : String) :
    canonicalTarget s target = target := by
  unfold canonicalTarget
  split
  next svc hser => exact (resolveService_ok hser).2.1
  · rfl

/-- An operation that was requested in this way. -/
structure Answers (platform : Platform) (request : OperationRequest) (op : ServiceOperationRecord) :
    Prop where
  principal : op.principalId = request.principal.id
  key : op.idempotencyKey = request.key
  hash : op.requestHash = platform.requestHash request.kind request.target request.source

theorem Answers.of_call {req : OperationRequest} {op' : ServiceOperationRecord}
    (h : Answers plat req op) (hcall : op'.call = op.call) :
    Answers plat req op' :=
  ⟨(congrArg OperationCall.principalId hcall).trans h.principal,
    (congrArg OperationCall.idempotencyKey hcall).trans h.key,
    (congrArg OperationCall.requestHash hcall).trans h.hash⟩

variable {cfg : ControllerConfig} {server server' : Server} {request : OperationRequest}
  {view : ServiceOperation}

/-- What an accepted request was: permitted, and answered with an operation that is there. -/
theorem submitServiceOperation_answers
    (h : submitServiceOperation plat cfg env server request = .ok (server', view)) :
    validIdempotencyKey request.key = true ∧
      request.principal.mayTarget request.target request.kind = true ∧
      ∃ op ∈ server'.inner.state.serviceOperations, op.view = view ∧
    Answers plat request op := by
  unfold submitServiceOperation at h
  obtain ⟨_, hkey, h⟩ := bind_ok h
  obtain ⟨_, hall, h⟩ := bind_ok h
  refine ⟨ensure_ok hkey, ensure_ok hall, ?_⟩
  dsimp only at h
  rw [canonicalTarget_eq] at h
  split at h
  next existing hfou =>
    obtain ⟨_, hhash, h⟩ := bind_ok h
    cases h
    have hmat := List.find?_some hfou
    simp only [Bool.and_eq_true, decide_eq_true_eq] at hmat
    exact ⟨existing, List.mem_of_find?_eq_some hfou, rfl, hmat.1, hmat.2,
      of_decide_eq_true (ensure_ok hhash)⟩
  · obtain ⟨op, hacc, h⟩ := bind_ok h
    obtain ⟨committed, hcom, h⟩ := bind_ok h
    cases h
    refine ⟨op, ?_, rfl, ?_⟩
    · obtain ⟨snap, -, rfl, -⟩ := commitLocked_ok (commitState_ok hcom)
      exact Table.mem_insert.mpr (.inl rfl)
    · obtain ⟨svc, tasks, nodes, hser, -, -, -, -, rfl⟩ := acceptOperation_new hacc
      refine ⟨rfl, rfl, ?_⟩
      rw [← (resolveService_ok hser).2.1]
      rfl

/-- A request is answered with the operation of its key, and nothing else happens. -/
theorem submitServiceOperation_replayed (hkey : validIdempotencyKey request.key = true)
    (hall : request.principal.mayTarget request.target request.kind = true)
    (hexc : Exclusive server.inner.state.serviceOperations)
    (hop : op ∈ server.inner.state.serviceOperations) (hans : Answers plat request op) :
    submitServiceOperation plat cfg env server request = .ok (server, op.view) := by
  have hfou : server.inner.state.serviceOperations.rows.find? (fun op =>
      op.principalId = request.principal.id && op.idempotencyKey = request.key) = some op := by
    cases hfind : server.inner.state.serviceOperations.rows.find? (fun op =>
      op.principalId = request.principal.id && op.idempotencyKey = request.key) with
    | none =>
      have hnot := List.find?_eq_none.mp hfind op hop
      simp [hans.principal, hans.key] at hnot
    | some other =>
      have hmat := List.find?_some hfind
      simp only [Bool.and_eq_true, decide_eq_true_eq] at hmat
      have hoth := List.mem_of_find?_eq_some hfind
      rw [hexc.key other hoth op hop (hmat.1.trans hans.principal.symm)
        (hmat.2.trans hans.key.symm)]
  unfold submitServiceOperation
  dsimp only
  rw [canonicalTarget_eq, hfou, hkey, hall]
  dsimp only
  rw [decide_eq_true hans.hash]
  rfl

end Events

/-! ## Runs -/

/-- The request is answered with the operation it was first answered with, and changes
nothing. -/
def Replayed (platform : Platform) (world : World) (request : OperationRequest)
    (view : ServiceOperation) : Prop :=
  ∃ op ∈ world.state.serviceOperations, op.view.operationId = view.operationId ∧
    op.view.service = view.service ∧ op.view.kind = view.kind ∧
    ∀ env, submitServiceOperation platform world.config env world.server request
      = .ok (world.server, op.view)

/-- The operation expired between the two worlds. -/
def Forgotten (platform : Platform) (operationId : String) (world world' : World) : Prop :=
  ∃ before env event, Runs platform NewOperationId world before ∧
    Expires platform env before event operationId ∧
    Runs platform NewOperationId (before.step platform env event) world'

/-- A run keeps an operation as it was requested, or lets it expire. -/
theorem run_call {plat : Platform} {world world' : World}
    (hwor : Reachable plat world) (hop : op ∈ world.state.serviceOperations)
    (hrun : Runs plat NewOperationId world world') :
    (∃ op' ∈ world'.state.serviceOperations, op'.call = op.call) ∨
    Forgotten plat op.operationId world world' := by
  induction hrun with
  | refl => exact .inl ⟨op, hop, rfl⟩
  | tail hfir hstep ih =>
    obtain ⟨env, event, hfre, hnew, rfl⟩ := hstep
    rcases ih with ⟨mid, hmid, hcall⟩ | ⟨before, env', event', hear, hexp, hlat⟩
    · have hrea := Runs.reachable hfir hwor
      rcases step_call hrea hfre hnew hmid with ⟨op', hop', hsame⟩ | hexp
      · exact .inl ⟨op', hop', hsame.trans hcall⟩
      · have hid : mid.operationId = op.operationId := congrArg OperationCall.operationId hcall
        rw [hid] at hexp
        exact .inr ⟨_, env, event, hfir, hexp, .refl⟩
    · exact .inr ⟨before, env', event', hear, hexp, hlat.tail ⟨env, event, hfre, hnew, rfl⟩⟩

/-- **Operations are exclusive, and requests idempotent.** -/
theorem operations_idempotent (platform : Platform) :
    (∀ world, Reachable platform world → Exclusive world.state.serviceOperations) ∧
    ∀ world env request server view, Reachable platform world → FreshIds env world →
      submitServiceOperation platform world.config env world.server request = .ok (server, view) →
      ∀ world', Runs platform NewOperationId
          (world.step platform env (.submitOperation request)) world' →
        Replayed platform world' request view ∨
        Forgotten platform view.operationId
          (world.step platform env (.submitOperation request)) world' := by
  refine ⟨fun world hwor => hwor.indexed.exclusive, ?_⟩
  intro world env request server view hwor hfre hsub world' hrun
  obtain ⟨hkey, hall, op, hop, rfl, hans⟩ := submitServiceOperation_answers hsub
  have hser : (world.step platform env (.submitOperation request)).server = server := by
    show (world.served ((submitServiceOperation platform world.config env world.server request).map
      Prod.fst)).server = server
    rw [hsub]
    rfl
  have hthe : op ∈ (world.step platform env (.submitOperation request)).state.serviceOperations := by
    unfold World.state
    rw [hser]
    exact hop
  have hrea := hwor.step env (.submitOperation request) hfre
  rcases run_call hrea hthe hrun with ⟨op', hop', hcall⟩ | hfor
  · exact Or.inl ⟨op', hop', congrArg OperationCall.operationId hcall,
      congrArg OperationCall.service hcall, congrArg OperationCall.kind hcall,
      fun _ => submitServiceOperation_replayed hkey hall
        (Runs.reachable hrun hrea).indexed.exclusive hop' (hans.of_call hcall)⟩
  · exact Or.inr hfor

/-- The node cannot pull the image, so the redeploy fails; then the controller is restarted. -/
def failedThenRestarted : List Input :=
  [{ event := sampleBeat [webUp] []
      [{ deploymentGeneration := 5, image := "one", resolvedImageId := none,
         error := some "no such image", services := [] }], tag := "6" },
   { event := .restart sampleConfig, tag := "7" }]

/-- The redeploy of the sample, submitted again after it failed and the controller restarted. -/
theorem operations_idempotent_restarted :
    Exclusive (redeployWorld 1).state.serviceOperations ∧
    ∃ view : ServiceOperation, view.operationId = "op_5" ∧
      (Replayed samplePlatform ((redeployWorld 1).perform samplePlatform failedThenRestarted)
          submitWeb view ∨
        Forgotten samplePlatform view.operationId (redeployWorld 1)
          ((redeployWorld 1).perform samplePlatform failedThenRestarted)) := by
  have hans : (submitServiceOperation samplePlatform (redeployWorld 0).config (sampleEnv "5")
      (redeployWorld 0).server submitWeb).toOption.map (fun answer => answer.2.operationId)
      = some "op_5" := by decide +kernel
  have hrea : Reachable samplePlatform (redeployWorld 0) :=
    sampleWorld_reachable.perform (by decide +kernel)
  have hfre : FreshIds (sampleEnv "5") (redeployWorld 0) :=
    freshIds_of_tagFree (by decide +kernel)
  have hrun : Runs samplePlatform NewOperationId (redeployWorld 1)
      ((redeployWorld 1).perform samplePlatform failedThenRestarted) :=
    Runs.perform (fun _ _ event => !event.submits) newOperationId_of_not_submits
      (by decide +kernel)
  refine ⟨(operations_idempotent samplePlatform).1 _ (sampleWorld_reachable.perform
    (by decide +kernel)), ?_⟩
  cases hsub : submitServiceOperation samplePlatform (redeployWorld 0).config (sampleEnv "5")
      (redeployWorld 0).server submitWeb with
  | error e =>
    rw [hsub] at hans
    cases hans
  | ok answer =>
    rw [hsub] at hans
    exact ⟨answer.2, Option.some.inj hans, (operations_idempotent samplePlatform).2 _ _ _
      answer.1 answer.2 hrea hfre hsub _ hrun⟩

end Swarmlite
