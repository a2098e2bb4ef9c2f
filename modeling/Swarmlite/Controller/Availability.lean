import Swarmlite.Controller.Turns

/-!
# Availability of start-first services

With `max_surge > 0` a replacement starts before the task it replaces stops, so
one expects a pass never to take ready tasks away below the replica count. The
scheduler picks its victims by task id, though, and counts health separately: it
keeps the first `R` current tasks whether they serve or not. `keptTasks` names
what a pass keeps, in terms of the state before it; the ready tasks after the
pass are the ready ones among them (`count_ready_reconcile`).
-/

namespace Swarmlite

open Ordered Relation

variable {task : TaskRecord} {state : ClusterState} {svc : ServiceRecord}

variable {ext : Externals} {uuid : Nat → String} {live : Keys String} {now : Int}

/-- Wanted, healthy, all ports published, on a live node whose labels match. -/
def ready (state : ClusterState) (service : ServiceRecord) (live : Keys String)
    (task : TaskRecord) : Bool :=
  runningLive service live task && serving task
    && (state.nodes.get? task.nodeId).any fun node =>
      matchesConstraints node service.spec.constraints

/-- The tasks of the service that a pass keeps: while a restart operation owns
the service all of them; otherwise the first `R` of the current revision that are
in the right place, and enough old ones to make up for those that do not serve. -/
def keptTasks (service : ServiceRecord) (live : Keys String) (state : ClusterState) :
    List TaskRecord :=
  if restartActive state service.id then contenders live state (runningLive service live)
  else
    let current := (contenders live state fun task =>
      currentRunning service live task && !violatesConstraints state service task).take
        service.spec.replicas
    let old := contenders live state (oldRunning service live)
    current ++ old.take (service.spec.replicas - current.countP serving)

theorem ready_iff : ready state svc live task = true ↔ runningLive svc live task = true ∧
      serving task = true ∧ ∃ node, state.nodes.get? task.nodeId = some node ∧
        matchesConstraints node svc.spec.constraints = true := by
  unfold ready
  simp only [Bool.and_eq_true, Option.any_eq_true, and_assoc]

/-- A ready task is not given up. -/
theorem ready_not_givenUp
    (h : ready state svc live task = true) : givenUp state live task = false := by
  obtain ⟨hrun, hser, _⟩ := ready_iff.mp h
  obtain ⟨_, _, hlive⟩ := runningLive_iff.mp hrun
  have hhea : task.observed = .healthy := by
    unfold serving at hser
    simp only [Bool.and_eq_true, decide_eq_true_eq] at hser
    exact hser.1
  unfold givenUp
  rw [hlive, hhea]
  simp [ObservedTaskState.isFailedOrLost]

/-- A ready task of the current revision is where its constraints want it. -/
theorem ready_not_violates (h : ready state svc live task = true) :
    violatesConstraints state svc task = false := by
  obtain ⟨_, _, node, hnode, hmat⟩ := ready_iff.mp h
  unfold violatesConstraints
  rw [hnode]
  simp [hmat]

section Pass

variable (huuid : Function.Injective uuid) {state : ClusterState}
  (hfresh : Fresh uuid { state }) {svc : ServiceRecord} (hservice : svc ∈ state.services)
  (hjob : svc.spec.job = none)

include huuid hfresh hservice hjob

/-- A ready task survives the pass if and only if it is one of the kept tasks. -/
theorem mem_reconcile_ready (hact : svc.deleted = false)
    (hrep : 0 < svc.spec.replicas) (hsur : 0 < svc.spec.maxSurge)
    (hrea : ready state svc live task = true) :
    task ∈ (reconcile ext uuid live now state).state.tasks ↔
      task ∈ state.tasks ∧ task ∈ keptTasks svc live state := by
  obtain ⟨hrunn, hser, _⟩ := ready_iff.mp hrea
  obtain ⟨hid, hrun, hlive⟩ := runningLive_iff.mp hrunn
  obtain ⟨hfresh', hmov, hturn⟩ := turnStart_spec ext live now huuid hfresh svc
  have hfra := hmov.sameFrame
  have hsta : task ∈ (turnStart ext uuid live now state svc).state.tasks ↔
      task ∈ state.tasks ∧ task.job = none := by
    rw [hturn task hid, mem_passStart_running huuid hfresh hservice hjob hid hrun]
    exact ⟨fun h => ⟨h.1, h.2.1⟩, fun h => ⟨h.1, h.2, ready_not_givenUp hrea⟩⟩
  have hres : restartActive (turnStart ext uuid live now state svc).state svc.id
      = restartActive state svc.id := by
    unfold restartActive
    rw [hfra.rest]
  rw [mem_reconcile_of_turn huuid hfresh hservice hjob hid]
  unfold keptTasks
  cases hop : restartActive state svc.id with
  | true =>
    have hskip : reconcileStep live uuid (turnStart ext uuid live now state svc) svc
        = turnStart ext uuid live now state svc := by
      unfold reconcileStep
      rw [hjob, hres, hop]
      rfl
    rw [hskip, hsta, if_pos rfl]
    unfold contenders
    rw [List.mem_filter, hrunn, ready_not_givenUp hrea]
    constructor
    · intro h
      exact ⟨h.1, h.1, by rw [h.2]; rfl⟩
    · intro h
      exact ⟨h.1, by simpa using h.2.2⟩
  | false =>
    have hrepo : task.observed ≠ .pending := by
      unfold serving at hser
      intro hpen
      rw [hpen] at hser
      simp at hser
    have hstop : stopFirst svc live (turnStart ext uuid live now state svc).state = [] := by
      have hne : svc.spec.maxSurge ≠ 0 := by omega
      unfold stopFirst
      simp [hne]
    have hpla : violatesConstraints (turnStart ext uuid live now state svc).state svc task
        = false := by
      have hrea' := ready_not_violates hrea
      unfold violatesConstraints at hrea' ⊢
      rw [hfra.rest]
      exact hrea'
    rw [mem_turn_iff huuid hfresh' hjob hact hrep (hres.trans hop) hrun hrepo,
      if_neg Bool.false_ne_true]
    have hkept : keptCurrent svc live (turnStart ext uuid live now state svc).state
        ++ keptOld svc live (turnStart ext uuid live now state svc).state
        = (contenders live state fun task => currentRunning svc live task
            && !violatesConstraints state svc task).take svc.spec.replicas
          ++ (contenders live state (oldRunning svc live)).take (svc.spec.replicas
            - ((contenders live state fun task => currentRunning svc live task
                && !violatesConstraints state svc task).take
                  svc.spec.replicas).countP serving) := by
      unfold keptOld oldToKeep keptCurrent
      rw [turnStart_settled huuid hfresh hservice hjob, turnStart_old huuid hfresh hservice hjob]
    constructor
    · intro h
      have hin := ((not_surplus_iff h.1 hrunn hpla).mp h.2).1
      rw [hkept] at hin
      exact ⟨(hsta.mp h.1).1, hin⟩
    · intro h
      have hin := h.2
      dsimp only at hin
      rw [← hkept] at hin
      have hmem : task ∈ (turnStart ext uuid live now state svc).state.tasks := by
        rcases List.mem_append.mp hin with hcur | hold
        · exact (mem_settledTasks.mp (List.mem_of_mem_take hcur)).1
        · exact (mem_oldTasks.mp (List.mem_of_mem_take hold)).1
      refine ⟨hmem, (not_surplus_iff hmem hrunn hpla).mpr ⟨hin, ?_⟩⟩
      rw [hstop]
      exact List.not_mem_nil

/-- **The ready tasks after a pass are the ready ones among the kept tasks.** -/
theorem count_ready_reconcile (hact : svc.deleted = false)
    (hrep : 0 < svc.spec.replicas) (hsur : 0 < svc.spec.maxSurge) :
    (reconcile ext uuid live now state).state.tasks.count
        (ready (reconcile ext uuid live now state).state svc live)
      = state.tasks.count fun task => ready state svc live task
          && (keptTasks svc live state).contains task := by
  have hfra := (reconcile_moves live ext huuid now hfresh).sameFrame
  have hrea : ready (reconcile ext uuid live now state).state svc live = ready state svc live := by
    funext task
    unfold ready
    rw [hfra.rest]
  rw [hrea]
  refine Table.count_eq_count_and fun task htask => ?_
  rw [List.contains_iff_mem]
  exact mem_reconcile_ready huuid hfresh hservice hjob hact hrep hsur htask

end Pass

/-- Every ready task is kept, or the kept ones hold enough ready tasks. -/
def KeepsReady (service : ServiceRecord) (live : Keys String) (state : ClusterState) : Prop :=
  (∀ task ∈ state.tasks, ready state service live task = true →
    task ∈ keptTasks service live state) ∨
  service.spec.replicas ≤ state.tasks.count fun task =>
    ready state service live task && (keptTasks service live state).contains task

/-- **A pass leaves `min R` of the ready tasks of a start-first service if and
only if it keeps the ready ones or keeps enough of them.** -/
theorem startFirst_available_iff (ext : Externals) {uuid : Nat → String}
    (huuid : Function.Injective uuid) (live : Keys String) (now : Int) (state : ClusterState)
    (hfresh : Fresh uuid { state }) (service : ServiceRecord) (hservice : service ∈ state.services)
    (hjob : service.spec.job = none) (hactive : service.deleted = false)
    (hreplicas : 0 < service.spec.replicas) (hsurge : 0 < service.spec.maxSurge) :
    min service.spec.replicas (state.tasks.count (ready state service live))
        ≤ (reconcile ext uuid live now state).state.tasks.count
          (ready (reconcile ext uuid live now state).state service live)
      ↔ KeepsReady service live state := by
  rw [count_ready_reconcile huuid hfresh hservice hjob hactive hreplicas hsurge]
  unfold KeepsReady
  have hspl := Table.count_and_add_count_and_not state.tasks (ready state service live)
    (keptTasks service live state).contains
  have hlost : (state.tasks.count fun task => ready state service live task
      && !(keptTasks service live state).contains task) = 0 ↔
      ∀ task ∈ state.tasks, ready state service live task = true →
        task ∈ keptTasks service live state := by
    rw [Table.count_eq_zero]
    refine forall_congr' fun task => forall_congr' fun _ => ?_
    simp
  rw [← hlost]
  omega

section Example

def surplusService : ServiceRecord :=
  { id := "shop.web", stack := "shop", name := "web", revision := 1, deleted := false,
    spec := { image := "web:1" } }

def surplusTask (id : String) (observed : ObservedTaskState) : TaskRecord :=
  { id, serviceId := "shop.web", revision := 1, slot := 0, nodeId := "n1",
    desired := .running, observed, ports := [] }

/-- One replica is wanted and there are two tasks; the one that is not up yet has
the smaller id. -/
def surplusState : ClusterState :=
  { services := Table.ofList [surplusService]
    nodes := Table.ofList [{ id := "n1", address := "10.0.0.1" }]
    tasks := Table.ofList [surplusTask "a" .starting, surplusTask "b" .healthy] }

/-- The same two tasks, both up. -/
def steadyState : ClusterState :=
  { surplusState with
    tasks := Table.ofList [surplusTask "a" .healthy, surplusTask "b" .healthy] }

def sampleExternals : Externals := ⟨fun spec => spec.image, fun _ _ => none⟩

theorem startFirst_available_steady :
    min 1 (steadyState.tasks.count (ready steadyState surplusService (Keys.ofElems ["n1"])))
      ≤ (reconcile sampleExternals unaryId (Keys.ofElems ["n1"]) 0 steadyState).state.tasks.count
        (ready (reconcile sampleExternals unaryId (Keys.ofElems ["n1"]) 0 steadyState).state
          surplusService (Keys.ofElems ["n1"])) :=
  (startFirst_available_iff sampleExternals unaryId_injective (Keys.ofElems ["n1"]) 0 steadyState
    (fresh_unaryId (by decide +kernel)) surplusService (by decide +kernel) rfl rfl (by decide)
    (by decide)).mpr (Or.inr (by decide +kernel))

/-- The pass stops the only ready task and keeps the one that is still starting. -/
theorem startFirst_loses_ready :
    surplusState.tasks.count (ready surplusState surplusService (Keys.ofElems ["n1"])) = 1 ∧
    (reconcile sampleExternals unaryId (Keys.ofElems ["n1"]) 0 surplusState).state.tasks.count
      (ready (reconcile sampleExternals unaryId (Keys.ofElems ["n1"]) 0 surplusState).state
        surplusService (Keys.ofElems ["n1"])) = 0 := by
  decide +kernel

end Example

end Swarmlite
