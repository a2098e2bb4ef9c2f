import Swarmlite.Controller.Changes

/-!
# Generations number deployments and operations

Reports of agents carry a generation and nothing else to say what they are about, and the
controller looks for it among all stacks and all operations. That is sound only if a
generation belongs to one of them.

A generation is taken from the next commit before the commit is made. It is new because
nothing in use or stored is numbered above the controller's generation (`Numbered`), and it
is never given twice because a decision that takes it either commits, which moves the
generation, or leaves no trace (`Changed.changes`). `Numbered` is therefore an invariant of
the generation together with the state:

* upkeep does not number anything (`Numbered.renumbered`);
* an apply numbers one deployment, which takes the place of the stack's earlier one, and at
  most one operation refers to it (`Numbered.applied`);
* a submitted operation is numbered itself (`Numbered.accepted`).

The history of a stack is cut to its twenty newest entries, so an operation can outlive the
deployment it started; `step_starts` says which deployment that was.
-/

namespace Swarmlite

open Ordered Relation Loop

/-- A deployment of the stack, current or past, has this generation. -/
def StackRecord.numbers (stack : StackRecord) (generation : Nat) : Prop :=
  (∃ deployment, stack.deployment = some deployment ∧ deployment.generation = generation) ∨
    ∃ old ∈ stack.deploymentHistory, old.generation = generation

/-- Past deployments are older than the current one, and few. -/
structure StackRecord.Ordered (stack : StackRecord) : Prop where
  older : ∃ deployment, stack.deployment = some deployment ∧
    ∀ old ∈ stack.deploymentHistory, old.generation < deployment.generation
  few : stack.deploymentHistory.rows.length ≤ 20

/-- Generations up to a bound number deployments and operations, each at most one. -/
structure Numbered (bound : Nat) (s : ClusterState) : Prop where
  /-- No deployment of two stacks has the same number. -/
  stack : ∀ stack ∈ s.stackRecords, ∀ generation, stack.numbers generation →
    generation ≤ bound ∧ ∀ other ∈ s.stackRecords, other.numbers generation → other = stack
  ordered : ∀ stack ∈ s.stackRecords, stack.Ordered
  /-- No operation shares its number with another one or with a deployment. -/
  operation : ∀ op ∈ s.serviceOperations, op.generation ≤ bound ∧
    (∀ other ∈ s.serviceOperations, other.generation = op.generation → other = op) ∧
    ∀ stack ∈ s.stackRecords, ¬ stack.numbers op.generation
  /-- No two operations refer to the same deployment, and none to an operation. -/
  deployed : ∀ op ∈ s.serviceOperations, ∀ generation,
    op.view.deploymentGeneration = some generation → generation ≤ bound ∧
    ∀ other ∈ s.serviceOperations, other.generation ≠ generation ∧
      (other.view.deploymentGeneration = some generation → other = op)

variable {s s' : ClusterState} {env : Env} {event : Event} {found : Inner} {gen : Nat}
  {dep dep' : StackDeploymentRecord} {stack stack' : StackRecord} {op' : ServiceOperationRecord}

theorem Numbered.mono {n m : Nat} (hle : n ≤ m) (h : Numbered n s) : Numbered m s where
  stack := fun stack hsta gen hnum =>
    have hbou := h.stack stack hsta gen hnum
    ⟨hbou.1.trans hle, hbou.2⟩
  ordered := h.ordered
  operation := fun op hop =>
    have hbou := h.operation op hop
    ⟨hbou.1.trans hle, hbou.2⟩
  deployed := fun op hop gen hdep =>
    have hbou := h.deployed op hop gen hdep
    ⟨hbou.1.trans hle, hbou.2⟩

/-! ## Steps that number nothing -/

/-- Every stack has the numbers it had, and every operation too. -/
structure Renumbered (s s' : ClusterState) : Prop where
  stack : ∀ stack' ∈ s'.stackRecords, ∃ stack ∈ s.stackRecords, stack'.name = stack.name ∧
    (∀ generation, stack'.numbers generation → stack.numbers generation) ∧
    (stack.Ordered → stack'.Ordered)
  operation : ∀ op' ∈ s'.serviceOperations, ∃ op ∈ s.serviceOperations,
    op'.identity = op.identity

/-- What the identity of an operation determines. -/
theorem identity_fields {op op' : ServiceOperationRecord} (h : op'.identity = op.identity) :
    op'.operationId = op.operationId ∧ op'.generation = op.generation ∧
      op'.view.deploymentGeneration = op.view.deploymentGeneration := by
  have hid := congrArg ServiceOperationRecord.operationId h
  have hgen := congrArg ServiceOperationRecord.generation h
  have hdep := congrArg (fun op => op.view.deploymentGeneration) h
  exact ⟨hid, hgen, hdep⟩

theorem Numbered.renumbered {n : Nat} (h : Numbered n s)
    (hkept : Renumbered s s') : Numbered n s' where
  stack := by
    intro stack' hsta' gen hnum'
    obtain ⟨stack, hsta, hname, hnum, -⟩ := hkept.stack stack' hsta'
    obtain ⟨hle, huni⟩ := h.stack stack hsta gen (hnum gen hnum')
    refine ⟨hle, fun other' hother' hother_numbers => ?_⟩
    obtain ⟨other, hother, hothern, hothernu, -⟩ := hkept.stack other' hother'
    have hsame := huni other hother (hothernu gen hother_numbers)
    refine Table.eq_of_key hother' hsta' ?_
    rw [hothern, hname, hsame]
  ordered := by
    intro stack' hsta'
    obtain ⟨stack, hsta, -, -, hord⟩ := hkept.stack stack' hsta'
    exact hord (h.ordered stack hsta)
  operation := by
    intro op' hop'
    obtain ⟨op, hop, hide⟩ := hkept.operation op' hop'
    obtain ⟨hid, hgen, -⟩ := identity_fields hide
    obtain ⟨hle, huni, hapa⟩ := h.operation op hop
    rw [hgen]
    refine ⟨hle, fun other' hother' hsame => ?_, fun stack' hsta' hnum' => ?_⟩
    · obtain ⟨other, hother, hotherid⟩ := hkept.operation other' hother'
      obtain ⟨hotheri, hothe, -⟩ := identity_fields hotherid
      have hsame := huni other hother (hothe.symm.trans hsame)
      refine Table.eq_of_key hother' hop' ?_
      rw [hotheri, hid, hsame]
    · obtain ⟨stack, hsta, -, hnum, -⟩ := hkept.stack stack' hsta'
      exact hapa stack hsta (hnum _ hnum')
  deployed := by
    intro op' hop' gen hdep'
    obtain ⟨op, hop, hide⟩ := hkept.operation op' hop'
    obtain ⟨hid, -, hdep⟩ := identity_fields hide
    obtain ⟨hle, huni⟩ := h.deployed op hop gen (hdep.symm.trans hdep')
    refine ⟨hle, fun other' hother' => ?_⟩
    obtain ⟨other, hother, hotherid⟩ := hkept.operation other' hother'
    obtain ⟨hotheri, hothe, hoth⟩ := identity_fields hotherid
    obtain ⟨hapa, hsame⟩ := huni other hother
    refine ⟨fun heq => hapa (hothe.symm.trans heq), fun heq => ?_⟩
    refine Table.eq_of_key hother' hop' ?_
    rw [hotheri, hid, hsame (hoth.symm.trans heq)]

/-- Upkeep leaves what an apply or a retry fixed. -/
theorem DeploymentChange.core {name : String}
    (h : ReflTransGen (DeploymentChange env event found name) dep dep') :
    dep'.core = dep.core := by
  induction h with
  | refl => rfl
  | tail _ hstep ih =>
    rw [← ih]
    cases hstep with
    | progress time => exact recordProgress_core time _
    | gatewayProgress => exact recordGatewayProgress_core _ _
    | healthy | stalled => rfl
    | taskError error => exact recordTaskError_core _ error _
    | imageProgress | imageAnswer => rfl
    | imageFailure => exact failImageResolution_core _ _ _ _ _ _

theorem DeploymentChange.generation_eq {name : String}
    (h : ReflTransGen (DeploymentChange env event found name) dep dep') :
    dep'.generation = dep.generation := by
  have hgen := congrArg StackDeploymentRecord.generation (DeploymentChange.core h)
  exact hgen

/-- Changing the current deployment numbers nothing. -/
theorem StackTended.numbers (h : StackTended env event found stack stack')
    (hnum : stack'.numbers gen) : stack.numbers gen := by
  rcases hnum with ⟨dep', hdep', hgen⟩ | ⟨old, hold, hgen⟩
  · obtain ⟨dep, hdep, hcha⟩ := h.before hdep'
    exact .inl ⟨dep, hdep, (DeploymentChange.generation_eq hcha).symm.trans hgen⟩
  · rw [h.history] at hold
    exact .inr ⟨old, hold, hgen⟩

theorem StackTended.ordered
    (h : StackTended env event found stack stack') (hord : stack.Ordered) : stack'.Ordered := by
  obtain ⟨dep, hdep, holde⟩ := hord.older
  obtain ⟨dep', hdep', hcha⟩ := h.after hdep
  refine ⟨⟨dep', hdep', fun old hold => ?_⟩, ?_⟩
  · rw [h.history] at hold
    rw [DeploymentChange.generation_eq hcha]
    exact holde old hold
  · rw [h.history]
    exact hord.few

theorem Upkeep.renumbered (h : Upkeep env event found s s') : Renumbered s s' where
  stack := by
    intro stack' hsta'
    obtain ⟨stack, hsta, hten⟩ := Upkeeps.stack_before (.single h) hsta'
    exact ⟨stack, hsta, by obtain ⟨f, rfl, -⟩ := hten; rfl, fun _ => hten.numbers, hten.ordered⟩
  operation := by
    intro op' hop'
    obtain ⟨op, hop, hten⟩ := h.operation_before hop'
    exact ⟨op, hop, hten.identity⟩

/-- The same stacks, and operations that are the same but for their progress. -/
theorem Renumbered.of_operations (hsta : s'.stackRecords = s.stackRecords)
    (hope : ∀ op' ∈ s'.serviceOperations, ∃ op ∈ s.serviceOperations,
      op'.identity = op.identity) : Renumbered s s' := by
  refine ⟨fun stack hstac => ?_, hope⟩
  rw [hsta] at hstac
  exact ⟨stack, hstac, rfl, fun _ h => h, fun h => h⟩

/-! ## Decisions -/

theorem retriedState_renumbered (s : ClusterState) (stack : StackRecord) (gen : Nat)
    (now : Int) : Renumbered s (retriedState s stack gen now) where
  stack := by
    intro stack' hsta'
    have hget := Table.get?_of_mem hsta'
    have hrec : (retriedState s stack gen now).stackRecords.get? stack'.name
        = _ := get?_modifyDeployment s stack.name stack'.name (retryDeployment now)
    rw [hrec] at hget
    split at hget
    · obtain ⟨old, hold, rfl⟩ := Option.map_eq_some_iff.mp hget
      refine ⟨old, Table.mem_of_get? hold, rfl, fun number hnum => ?_, fun hord => ?_⟩
      · rcases hnum with ⟨dep', hdep', rfl⟩ | hpast
        · obtain ⟨dep, hdep, rfl⟩ := Option.map_eq_some_iff.mp hdep'
          exact .inl ⟨dep, hdep, rfl⟩
        · exact .inr hpast
      · obtain ⟨dep, hdep, holde⟩ := hord.older
        refine ⟨⟨retryDeployment now dep, ?_, holde⟩, hord.few⟩
        exact Option.map_eq_some_iff.mpr ⟨dep, hdep, rfl⟩
    · exact ⟨stack', Table.mem_of_get? hget, rfl, fun _ h => h, fun h => h⟩
  operation := by
    intro op' hop'
    obtain ⟨op, hop, rfl⟩ := Table.exists_of_mem_map (reviveOperation_id stack.name gen now) hop'
    refine ⟨op, hop, ?_⟩
    unfold reviveOperation
    split <;> rfl

/-- A past deployment of the new record is one of the record it replaces. -/
theorem deploymentHistory_numbers {previous : ClusterState} {stackName : String} {now : Int}
    {old : StackDeploymentRecord} (h : old ∈ deploymentHistory previous stackName now gen) :
    ∃ stack, previous.stackRecords.get? stackName = some stack ∧ stack.numbers old.generation := by
  unfold deploymentHistory at h
  extract_lets kept history at h
  have hhis : old ∈ history := by
    rw [← Table.mem_rows, Table.rows_foldl_erase_take] at h
    exact List.mem_of_mem_drop h
  cases hsta : previous.stackRecords.get? stackName with
  | none =>
    have hkept : history = Table.empty := by
      simp only [history, kept, stackDeployment, hsta, Option.bind_none, Option.map_none,
        Option.getD_none]
    rw [hkept] at hhis
    exact absurd hhis Table.mem_empty
  | some stack =>
    refine ⟨stack, rfl, ?_⟩
    have hkept : kept = stack.deploymentHistory := by
      simp only [kept, hsta, Option.map_some, Option.getD_some]
    cases hdep : stack.deployment with
    | none =>
      have hsame : history = stack.deploymentHistory := by
        simp only [history, stackDeployment, hsta, Option.bind_some, hdep, hkept]
      rw [hsame] at hhis
      exact .inr ⟨old, hhis, rfl⟩
    | some dep =>
      simp only [history, stackDeployment, hsta, Option.bind_some, hdep, hkept,
        Table.mem_insert] at hhis
      rcases hhis with rfl | ⟨hpast, -⟩
      · refine .inl ⟨dep, hdep, ?_⟩
        split <;> rfl
      · exact .inr ⟨old, hpast, rfl⟩

theorem deploymentHistory_few (previous : ClusterState) (stackName : String) (now : Int)
    (gen : Nat) :
    (deploymentHistory previous stackName now gen).rows.length ≤ 20 := by
  unfold deploymentHistory
  extract_lets kept history
  rw [Table.rows_foldl_erase_take, List.length_drop]
  omega

section Applied

variable {inner : Inner} {request : ApplyRequest} {now : Int} {plan : Planning}

/-- The record an apply leaves for its stack. -/
def Inner.newRecord (inner : Inner) (request : ApplyRequest) (now : Int) (planning : Planning) :
    StackRecord :=
  newStackRecord inner.state request now (inner.generation + 1)
    inner.cluster.deployment.progressDeadlineSeconds planning.imageResolutions

theorem newRecord_numbers (h : (inner.newRecord request now plan).numbers gen) :
    gen = inner.generation + 1 ∨ ∃ stack ∈ inner.state.stackRecords,
      stack.name = request.stackName ∧ stack.numbers gen := by
  rcases h with ⟨dep, hdep, rfl⟩ | ⟨old, hold, rfl⟩
  · cases hdep
    exact .inl rfl
  · obtain ⟨stack, hsta, hnum⟩ := deploymentHistory_numbers hold
    obtain ⟨hmem, hname⟩ := Table.get?_eq_some.mp hsta
    exact .inr ⟨stack, hmem, hname, hnum⟩

/-- The operations of an applied state: the old ones, of which the owned one refers to the
new deployment. -/
theorem applied_operation
    (h : op' ∈ (startOwnedDeployment (requestedState inner request now plan) request.policy
      (inner.generation + 1) now).serviceOperations) :
    ∃ op ∈ inner.state.serviceOperations, op'.operationId = op.operationId ∧
      op'.generation = op.generation ∧
      (op'.view.deploymentGeneration = op.view.deploymentGeneration ∨
        request.policy.ownedOperation = some op.operationId ∧
          op'.view.deploymentGeneration = some (inner.generation + 1)) := by
  have hsup : ∀ op' ∈ (requestedState inner request now plan).serviceOperations,
      ∃ op ∈ inner.state.serviceOperations, op'.identity = op.identity := by
    intro op' hop'
    obtain ⟨op, hop, rfl⟩ := Table.exists_of_mem_map (supersedeOperation_id request now) hop'
    refine ⟨op, hop, ?_⟩
    unfold supersedeOperation
    split <;> rfl
  unfold startOwnedDeployment at h
  split at h
  · obtain ⟨op, hop, hide⟩ := hsup op' h
    obtain ⟨hid, hgen, hdep⟩ := identity_fields hide
    exact ⟨op, hop, hid, hgen, .inl hdep⟩
  next id hown =>
    dsimp only at h
    rw [Table.mem_modify] at h
    rcases h with ⟨hold, -⟩ | ⟨superseded, hold, hkey, rfl⟩
    · obtain ⟨op, hop, hide⟩ := hsup op' hold
      obtain ⟨hid, hgen, hdep⟩ := identity_fields hide
      exact ⟨op, hop, hid, hgen, .inl hdep⟩
    · obtain ⟨op, hop, hide⟩ := hsup superseded hold
      obtain ⟨hid, hgen, -⟩ := identity_fields hide
      refine ⟨op, hop, hid, hgen, .inr ⟨?_, rfl⟩⟩
      rw [hown, ← hkey, hid]

/-- **An apply numbers its deployment**, and the owned operation refers to it. -/
theorem Numbered.applied (h : Numbered inner.generation inner.state) :
    Numbered (inner.generation + 1) (startOwnedDeployment
      (requestedState inner request now plan) request.policy (inner.generation + 1) now) := by
  -- a stack is the new record, or an old one of another name
  have hstac : ∀ stack' ∈ (startOwnedDeployment (requestedState inner request now plan)
      request.policy (inner.generation + 1) now).stackRecords,
      stack' = inner.newRecord request now plan ∨
        stack' ∈ inner.state.stackRecords ∧ stack'.name ≠ request.stackName := by
    intro stack' hstack'
    rw [startOwnedDeployment_rest] at hstack'
    exact Table.mem_insert.mp hstack'
  -- an old number cannot be the new one
  have hold : ∀ stack ∈ inner.state.stackRecords, ∀ gen, stack.numbers gen →
      gen ≤ inner.generation := fun stack hstack gen hnum =>
    (h.stack stack hstack gen hnum).1
  refine ⟨?_, ?_, ?_, ?_⟩
  · intro stack' hstack' gen hnum
    rcases hstac stack' hstack' with rfl | ⟨hstack, hname⟩
    · rcases newRecord_numbers hnum with rfl | ⟨stack, hstack, hname, hsta⟩
      · refine ⟨Nat.le_refl _, fun other' hother' hothernu => ?_⟩
        rcases hstac other' hother' with rfl | ⟨hother, -⟩
        · rfl
        · have := hold other' hother _ hothernu
          omega
      · obtain ⟨hle, huni⟩ := h.stack stack hstack gen hsta
        refine ⟨by omega, fun other' hother' hothernu => ?_⟩
        rcases hstac other' hother' with rfl | ⟨hother, hothern⟩
        · rfl
        · rw [huni other' hother hothernu] at hothern
          exact absurd hname hothern
    · obtain ⟨hle, huni⟩ := h.stack stack' hstack gen hnum
      refine ⟨by omega, fun other' hother' hothernu => ?_⟩
      rcases hstac other' hother' with rfl | ⟨hother, -⟩
      · rcases newRecord_numbers hothernu with rfl | ⟨stack, hmem, hsame, hsta⟩
        · omega
        · rw [huni stack hmem hsta] at hsame
          exact absurd hsame hname
      · exact huni other' hother hothernu
  · intro stack' hstack'
    rcases hstac stack' hstack' with rfl | ⟨hstack, -⟩
    · refine ⟨⟨_, rfl, fun old hmem => ?_⟩, deploymentHistory_few _ _ _ _⟩
      obtain ⟨stack, hstack, hnum⟩ := deploymentHistory_numbers hmem
      exact Nat.lt_succ_of_le (hold stack (Table.mem_of_get? hstack) _ hnum)
    · exact h.ordered stack' hstack
  · intro op' hop'
    obtain ⟨op, hop, hid, hgen, -⟩ := applied_operation hop'
    obtain ⟨hle, huni, hapa⟩ := h.operation op hop
    rw [hgen]
    refine ⟨by omega, fun other' hother' hsame => ?_, fun stack' hstack' hnum => ?_⟩
    · obtain ⟨other, hother, hotheri, hothe, -⟩ := applied_operation hother'
      refine Table.eq_of_key hother' hop' ?_
      rw [hotheri, hid, huni other hother (hothe.symm.trans hsame)]
    · rcases hstac stack' hstack' with rfl | ⟨hstack, -⟩
      · rcases newRecord_numbers hnum with heq | ⟨stack, hstack, -, hsta⟩
        · omega
        · exact hapa stack hstack hsta
      · exact hapa stack' hstack hnum
  · intro op' hop' gen hdep'
    obtain ⟨op, hop, hid, -, hdep⟩ := applied_operation hop'
    rcases hdep with hdep | ⟨hown, hdep⟩
    · -- the operation referred to this deployment before
      obtain ⟨hle, huni⟩ := h.deployed op hop gen (hdep.symm.trans hdep')
      refine ⟨by omega, fun other' hother' => ?_⟩
      obtain ⟨other, hother, hotheri, hothe, hoth⟩ := applied_operation hother'
      obtain ⟨hapa, hsame⟩ := huni other hother
      refine ⟨fun heq => hapa (hothe.symm.trans heq), fun heq => ?_⟩
      rcases hoth with hoth | ⟨-, hoth⟩
      · refine Table.eq_of_key hother' hop' ?_
        rw [hotheri, hid, hsame (hoth.symm.trans heq)]
      · rw [hoth] at heq
        cases heq
        omega
    · rw [hdep] at hdep'
      cases hdep'
      refine ⟨Nat.le_refl _, fun other' hother' => ?_⟩
      obtain ⟨other, hother, hotheri, hothe, hoth⟩ := applied_operation hother'
      have hle := (h.operation other hother).1
      refine ⟨by omega, fun heq => ?_⟩
      rcases hoth with hoth | ⟨hothero, -⟩
      · have := (h.deployed other hother _ (hoth.symm.trans heq)).1
        omega
      · rw [hown] at hothero
        refine Table.eq_of_key hother' hop' ?_
        rw [hotheri, hid]
        exact (Option.some.inj hothero).symm

end Applied

/-- **A submitted operation is numbered.** -/
theorem Numbered.accepted {n : Nat} {op : ServiceOperationRecord}
    (h : Numbered n s) (hnum : op.generation = n + 1)
    (hund : op.view.deploymentGeneration = none) :
    Numbered (n + 1) (s.withOperations (s.serviceOperations.insert op)) := by
  have hnew : ∀ other ∈ s.serviceOperations, other.generation ≤ n :=
    fun other hoth => (h.operation other hoth).1
  refine ⟨?_, h.ordered, ?_, ?_⟩
  · intro stack hsta gen hnumb
    obtain ⟨hle, huni⟩ := h.stack stack hsta gen hnumb
    exact ⟨by omega, huni⟩
  · intro op' hop'
    rcases Table.mem_insert.mp hop' with rfl | ⟨hold, -⟩
    · refine ⟨by omega, fun other hoth hsame => ?_, fun stack hsta hnumb => ?_⟩
      · rcases Table.mem_insert.mp hoth with rfl | ⟨hoth, -⟩
        · rfl
        · have := hnew other hoth
          omega
      · have := (h.stack stack hsta _ hnumb).1
        omega
    · obtain ⟨hle, huni, hapa⟩ := h.operation op' hold
      refine ⟨by omega, fun other hoth hsame => ?_, hapa⟩
      rcases Table.mem_insert.mp hoth with rfl | ⟨hoth, -⟩
      · omega
      · exact huni other hoth hsame
  · intro op' hop' gen hdep
    rcases Table.mem_insert.mp hop' with rfl | ⟨hold, -⟩
    · rw [hund] at hdep
      cases hdep
    · obtain ⟨hle, huni⟩ := h.deployed op' hold gen hdep
      refine ⟨by omega, fun other hoth => ?_⟩
      rcases Table.mem_insert.mp hoth with rfl | ⟨hoth, -⟩
      · refine ⟨by omega, fun heq => ?_⟩
        rw [hund] at heq
        cases heq
      · exact huni other hoth

variable {plat : Platform} {world : World}

/-- **A decision takes the next generation.** -/
theorem Decision.numbered (hdec : Decision plat env world event s)
    (h : Numbered world.server.inner.generation world.state) :
    Numbered (world.server.inner.generation + 1) s := by
  cases hdec with
  | retried heve hret =>
    obtain ⟨stack, dep, -, -, -, -, rfl⟩ := retryStack_ok hret
    exact (h.renumbered (retriedState_renumbered world.state stack _ _)).mono (Nat.le_succ _)
  | applied request live plan heve hreq hche hplan => exact h.applied
  | accepted request op heve hnew hacc =>
    obtain ⟨svc, tasks, nodes, -, -, -, -, -, rfl⟩ := acceptOperation_new hacc
    exact h.accepted rfl rfl
  | @unstarted operationId heve =>
    refine (h.renumbered (Renumbered.of_operations ?_ fun op' hop' => ?_)).mono (Nat.le_succ _)
    · rfl
    rw [ClusterState.withOperations_serviceOperations, Table.mem_modify] at hop'
    rcases hop' with ⟨hold, -⟩ | ⟨op, hop, -, rfl⟩
    · exact ⟨op', hold, rfl⟩
    · exact ⟨op, hop, rfl⟩

theorem Reachable.numbered (h : Reachable plat world) :
    Numbered world.server.inner.generation world.state ∧
      Numbered world.server.disk.generation world.server.disk.state := by
  refine h.holds_of_changes (P := Numbered) Numbered.mono (fun hs => hs.renumbered ?_)
    (fun cfg env gen hs => hs.renumbered ?_) (fun bound routes gen => ?_)
    (fun hupk hs => hs.renumbered hupk.renumbered) Decision.numbered
  · exact Renumbered.of_operations rfl fun op hop => ⟨op, hop, rfl⟩
  · exact Renumbered.of_operations rfl fun op hop => ⟨op, hop, rfl⟩
  · have hsta : ∀ stack, stack ∉ (Table.empty : Table StackRecord.name) := fun _ => Table.mem_empty
    have hop : ∀ op, op ∉ (Table.empty : Table ServiceOperationRecord.operationId) :=
      fun _ => Table.mem_empty
    exact ⟨fun stack hmem => absurd hmem (hsta stack), fun stack hmem => absurd hmem (hsta stack),
      fun op hmem => absurd hmem (hop op), fun op hmem => absurd hmem (hop op)⟩

/-! ## The deployment an operation started -/

/-- The event applies a request of the operation, and leaves the new deployment. -/
def StartsDeployment (platform : Platform) (env : Env) (world : World) (event : Event)
    (operationId : String) (generation : Nat) : Prop :=
  ∃ index request deployment, event = .commit index ∧
    world.requests[index]? = some (.guarded request) ∧
    request.policy.ownedOperation = some operationId ∧
    generation = world.server.inner.generation + 1 ∧
    stackDeployment (world.step platform env event).state request.stackName = some deployment ∧
    deployment.generation = generation

/-- An operation keeps referring to its deployment, or just started it. -/
theorem step_starts (hfre : FreshIds env world) (hres : ∀ cfg, event ≠ .restart cfg)
    (hop' : op' ∈ (world.step plat env event).state.serviceOperations)
    (hdep : op'.view.deploymentGeneration = some gen) :
    (∃ op ∈ world.state.serviceOperations, op.operationId = op'.operationId ∧
      op.view.deploymentGeneration = some gen) ∨
    StartsDeployment plat env world event op'.operationId gen := by
  have hback : ∀ {s s' : ClusterState}, Upkeeps env event world.server.inner s s' →
      ∀ op' ∈ s'.serviceOperations,
      ∃ op ∈ s.serviceOperations, op'.identity = op.identity := by
    intro s s' h
    induction h with
    | refl => exact fun op hop => ⟨op, hop, rfl⟩
    | tail _ hstep ih =>
      intro op' hop'
      obtain ⟨mid, hmid, hten⟩ := hstep.operation_before hop'
      obtain ⟨op, hop, hide⟩ := ih mid hmid
      exact ⟨op, hop, hten.identity.trans hide⟩
  have hsame : ∀ {op}, op ∈ world.state.serviceOperations → op'.identity = op.identity →
      (∃ op ∈ world.state.serviceOperations, op.operationId = op'.operationId ∧
        op.view.deploymentGeneration = some gen) ∨
      StartsDeployment plat env world event op'.operationId gen := by
    intro op hop hide
    obtain ⟨hid, -, hdepl⟩ := identity_fields hide
    exact .inl ⟨op, hop, hid.symm, hdepl.symm.trans hdep⟩
  rcases (step_changed plat hfre hres).changes with hupk | ⟨⟨s, hdec, hupk⟩, -⟩
  · obtain ⟨op, hop, hide⟩ := hback hupk op' hop'
    exact hsame hop hide
  · obtain ⟨decided, hmem, hide⟩ := hback hupk op' hop'
    obtain ⟨hid, -, hdepl⟩ := identity_fields hide
    cases hdec with
    | retried heve hret =>
      obtain ⟨stack, dep, -, -, -, -, rfl⟩ := retryStack_ok hret
      obtain ⟨op, hop, hrev⟩ :=
        (retriedState_renumbered world.state stack _ _).operation decided hmem
      exact hsame hop (hide.trans hrev)
    | applied request live plan heve hreq hche hplan =>
      obtain ⟨op, hop, hopid, -, hopd⟩ := applied_operation hmem
      rcases hopd with hopd | ⟨hown, hopd⟩
      · refine .inl ⟨op, hop, (hid.trans hopid).symm, ?_⟩
        rw [← hopd, ← hdepl, hdep]
      · refine .inr ?_
        have hgen : gen = world.server.inner.generation + 1 := by
          rw [hdep, hopd] at hdepl
          exact Option.some.inj hdepl
        -- the new record is there, with its dep changed at most by upkeep
        have hnew : (startOwnedDeployment (requestedState world.server.inner request
            env.now.unixMs plan) request.policy (world.server.inner.generation + 1)
            env.now.unixMs).stackRecords.get? request.stackName
            = some (world.server.inner.newRecord request env.now.unixMs plan) := by
          rw [startOwnedDeployment_rest]
          exact Table.get?_insert_self _ _
        obtain ⟨f, hf, hten⟩ := hupk.stack request.stackName
        obtain ⟨dep', hdepl', hcha⟩ := (hten _ hnew).after rfl
        rw [hnew] at hf
        refine ⟨_, request, dep', heve, hreq, ?_, hgen, ?_, ?_⟩
        · rw [hown, hid, hopid]
        · show ((world.step plat env event).server.inner.state.stackRecords.get?
            request.stackName).bind StackRecord.deployment = some dep'
          rw [hf]
          exact hdepl'
        · rw [DeploymentChange.generation_eq hcha, hgen]
    | accepted request op heve hnew hacc =>
      rcases Table.mem_insert.mp hmem with rfl | ⟨hold, -⟩
      · obtain ⟨svc, tasks, nodes, -, -, -, -, -, rfl⟩ := acceptOperation_new hacc
        rw [hdep] at hdepl
        cases hdepl
      · exact hsame hold hide
    | unstarted heve =>
      rw [ClusterState.withOperations_serviceOperations, Table.mem_modify] at hmem
      rcases hmem with ⟨hold, -⟩ | ⟨op, hop, -, rfl⟩
      · exact hsame hold hide
      · exact hsame hop hide

/-- **Generations identify deployments and operations.** In every reachable world no two of
them have the same generation and none is numbered above the controller's. An operation
refers to the deployment its own apply made. A report that names a generation has one stack
to go to, and no operation. -/
theorem generations_identify {platform : Platform} {world : World}
    (h : Reachable platform world) :
    Numbered world.server.inner.generation world.state ∧
    (∀ env event op' generation, FreshIds env world → (∀ config, event ≠ .restart config) →
      op' ∈ (world.step platform env event).state.serviceOperations →
      op'.view.deploymentGeneration = some generation →
      (∃ op ∈ world.state.serviceOperations, op.operationId = op'.operationId ∧
        op.view.deploymentGeneration = some generation) ∨
      StartsDeployment platform env world event op'.operationId generation) ∧
    ∀ generation stack deployment,
      activeDeploymentStack world.state generation = some (stack, deployment) →
      (∀ other ∈ world.state.stackRecords, other.numbers generation → other = stack) ∧
      ∀ op ∈ world.state.serviceOperations, op.generation ≠ generation := by
  have hnum := h.numbered.1
  refine ⟨hnum, fun env event op' generation hfre hres hop' hdep => ?_, ?_⟩
  · exact step_starts hfre hres hop' hdep
  · intro generation stack deployment hfou
    obtain ⟨-, -, hsta, hdepl, hgen⟩ := activeDeploymentStack_some hfou
    have hmem := Table.mem_of_get? hsta
    have hnumb : stack.numbers generation := Or.inl ⟨deployment, hdepl, hgen⟩
    refine ⟨(hnum.stack stack hmem generation hnumb).2, fun op hop heq => ?_⟩
    exact (hnum.operation op hop).2.2 stack hmem (heq ▸ hnumb)

/-- A stack is applied and replaced before any node has reported. -/
def appliedTwice : List Input :=
  let parsed : ParsedStack :=
    { services := Table.ofList [("web", { image := "web", replicas := 2 })] }
  [{ event := .apply "shop" parsed Table.empty false, tag := "a" },
   { event := .commit 0, tag := "b" },
   { event := .apply "shop" parsed Table.empty true, tag := "c" },
   { event := .commit 0, tag := "d" }]

theorem generations_identify_replaced :
    ∃ stack ∈ (sampleWorld.perform samplePlatform appliedTwice).state.stackRecords,
      stack.deploymentHistory.rows.map StackDeploymentRecord.generation = [3] ∧ stack.Ordered ∧
      ∀ other ∈ (sampleWorld.perform samplePlatform appliedTwice).state.stackRecords,
        other.numbers 3 → other = stack := by
  have hrea : Reachable samplePlatform (sampleWorld.perform samplePlatform appliedTwice) :=
    sampleWorld_reachable.perform (by decide +kernel)
  have hnum := (generations_identify hrea).1
  have hpast : ((sampleWorld.perform samplePlatform appliedTwice).state.stackRecords.get?
      "shop").map (fun stack => stack.deploymentHistory.rows.map StackDeploymentRecord.generation)
      = some [3] := by decide +kernel
  obtain ⟨stack, hsta, hhis⟩ := Option.map_eq_some_iff.mp hpast
  have hmem := Table.mem_of_get? hsta
  refine ⟨stack, hmem, hhis, hnum.ordered stack hmem, ?_⟩
  obtain ⟨old, hold, hgen⟩ : ∃ old ∈ stack.deploymentHistory.rows, old.generation = 3 :=
    List.mem_map.mp (by rw [hhis]; exact List.mem_singleton_self 3)
  exact (hnum.stack stack hmem 3 (Or.inr ⟨old, hold, hgen⟩)).2

end Swarmlite
