import Swarmlite.Controller.Lineage
import Swarmlite.Controller.Turns

/-!
# Slots are unique, and there is always one left

Two algorithms give out slots. `schedule_task` avoids the slots of wanted tasks of
the service's current revision; adoption avoids those of all tasks of the service
that are not stopped. Neither looks at what the other does, and scaling down leaves
tasks in slots beyond the replica count.

Still no two running replicas of a service and revision share a slot
(`SlotsSound.unique`): a new task avoids more than it has to, and no edit moves a
task to another slot, revision or service, or makes it run again. The second field
of `SlotsSound`, that executions belong to jobs and replicas to services, is kept
because an apply refuses to turn one into the other.

That a slot is left is counting. In a service's turn every running task of its
current revision sits on a live node, so the number of taken slots is the number of
current running tasks, and the loop creates only as many as are missing.
-/

namespace Swarmlite

open Ordered Relation Loop

/-- Services keep their ids and stay services or jobs. -/
def ServicesKept (s s' : ClusterState) : Prop :=
  ∀ service ∈ s.services, ∃ service' ∈ s'.services,
    service'.id = service.id ∧ service'.spec.job.isSome = service.spec.job.isSome

theorem ServicesKept.of_eq {s s' : ClusterState} (h : s'.services = s.services) :
    ServicesKept s s' := by
  intro service hservice
  rw [← h] at hservice
  exact ⟨service, hservice, rfl, rfl⟩

theorem ServicesContinue.servicesKept {cause : Cause} {s s' : ClusterState}
    (h : ServicesContinue cause s s') : ServicesKept s s' := by
  intro service hservice
  obtain ⟨service', hservice', hcont⟩ := h.kept service hservice
  exact ⟨service', hservice', hcont.id, hcont.kind⟩

structure SlotsSound (s : ClusterState) : Prop where
  /-- Running replicas of one service and revision have different slots. -/
  unique : ∀ a ∈ s.tasks, ∀ b ∈ s.tasks, a.desired = .running → b.desired = .running →
    a.job = none → b.job = none → a.serviceId = b.serviceId → a.revision = b.revision →
    a.slot = b.slot → a = b
  /-- Every task belongs to a service of its kind. -/
  kinds : ∀ task ∈ s.tasks, ∃ service ∈ s.services,
    service.id = task.serviceId ∧ service.spec.job.isSome = task.job.isSome

namespace SlotsSound

variable {s s' : ClusterState}

/-- No task is added. -/
theorem descend (h : SlotsSound s)
    (htas : ∀ task' ∈ s'.tasks, ∃ task ∈ s.tasks, Descends task task')
    (hser : ServicesKept s s') : SlotsSound s' := by
  refine ⟨?_, ?_⟩
  · intro a' ha' b' hb' hrunA hrunB hjobA hjobB hservice hrev hslot
    obtain ⟨a, ha, hda⟩ := htas a' ha'
    obtain ⟨b, hb, hdb⟩ := htas b' hb'
    have hpla : ∀ {task task' : TaskRecord}, Descends task task' → task'.job = none →
        task.job = none := by
      intro task task' hdesc hnone
      have hsome := hdesc.job
      rw [hnone] at hsome
      exact Option.isNone_iff_eq_none.mp (by simpa using hsome.symm)
    have hsame : a = b := by
      refine h.unique a ha b hb (hda.running hrunA) (hdb.running hrunB) (hpla hda hjobA)
        (hpla hdb hjobB) ?_ ?_ ?_
      · rw [← hda.serviceId, ← hdb.serviceId, hservice]
      · rw [← hda.revision, ← hdb.revision, hrev]
      · rw [← hda.slot, ← hdb.slot, hslot]
    refine Table.eq_of_key ha' hb' ?_
    rw [hda.id, hdb.id, hsame]
  · intro task' htask'
    obtain ⟨task, htask, hdesc⟩ := htas task' htask'
    obtain ⟨service, hservice, hid, hkind⟩ := h.kinds task htask
    obtain ⟨service', hservice', hid', hkind'⟩ := hser service hservice
    refine ⟨service', hservice', ?_, ?_⟩
    · rw [hid', hid, hdesc.serviceId]
    · rw [hkind', hkind, hdesc.job]

/-- Every task is rewritten. -/
theorem map (h : SlotsSound s) {f : TaskRecord → TaskRecord}
    {hf : ∀ task, (f task).id = task.id} (hdesc : ∀ task ∈ s.tasks, Descends task (f task)) :
    SlotsSound (s.withTasks (s.tasks.map f hf)) := by
  refine h.descend (fun task' htask' => ?_) (ServicesKept.of_eq rfl)
  rw [ClusterState.withTasks_tasks, Table.mem_map] at htask'
  obtain ⟨task, htask, rfl⟩ := htask'
  exact ⟨task, htask, hdesc task htask⟩

/-- The tasks and services stay as they are. -/
theorem congr (h : SlotsSound s) (htas : s'.tasks = s.tasks)
    (hser : s'.services = s.services) : SlotsSound s' :=
  ⟨htas ▸ h.unique, htas ▸ hser ▸ h.kinds⟩

/-- A task is added in a slot no running replica of its service and revision has. -/
theorem insert (h : SlotsSound s) {task : TaskRecord} {svc : ServiceRecord}
    (hservice : svc ∈ s.services) (hid : svc.id = task.serviceId)
    (hkind : svc.spec.job.isSome = task.job.isSome)
    (hfree : task.job = none → ∀ other ∈ s.tasks, other.desired = .running → other.job = none →
      other.serviceId = task.serviceId → other.revision = task.revision →
      other.slot ≠ task.slot) :
    SlotsSound (s.withTasks (s.tasks.insert task)) := by
  refine ⟨?_, ?_⟩
  · intro a ha b hb hrunA hrunB hjobA hjobB hservice hrev hslot
    rcases Table.mem_insert.mp ha with rfl | ⟨holdA, -⟩
    · rcases Table.mem_insert.mp hb with rfl | ⟨holdB, -⟩
      · rfl
      · exact absurd hslot.symm (hfree hjobA b holdB hrunB hjobB hservice.symm hrev.symm)
    · rcases Table.mem_insert.mp hb with rfl | ⟨holdB, -⟩
      · exact absurd hslot (hfree hjobB a holdA hrunA hjobA hservice hrev)
      · exact h.unique a holdA b holdB hrunA hrunB hjobA hjobB hservice hrev hslot
  · intro other hoth
    rcases Table.mem_insert.mp hoth with rfl | ⟨hold, -⟩
    · exact ⟨svc, hservice, hid, hkind⟩
    · exact h.kinds other hold

end SlotsSound

/-! ## Every edit keeps the slots sound -/

variable {live : Keys String} {s s' : ClusterState} {service : ServiceRecord} {task : TaskRecord}

theorem JobMove.slotsSound (hmove : JobMove live s s') (h : SlotsSound s) : SlotsSound s' := by
  have hfra := hmove.sameFrame
  cases hmove with
  | touch f hf htou => exact h.map fun task htask => (htou task htask).descends
  | execution service freshId task execution hservice hjob hact hfresh hsch =>
    obtain ⟨current, hcur, hfor⟩ := hservice
    obtain ⟨node, slot, -, -, -, -, rfl⟩ := scheduleTask_some hsch
    refine h.insert hcur (congrArg (·.id) hfor) ?_ fun hnone => nomatch hnone
    rw [show current.spec = service.spec from congrArg (·.spec) hfor, hjob]
    rfl
  | forget id hjob =>
    refine h.descend (fun task htask => ?_) (ServicesKept.of_eq rfl)
    exact ⟨task, (Table.mem_erase.mp htask).1, Descends.refl task⟩
  | cursor serviceId cursor hjob =>
    refine h.descend (fun task htask => ⟨task, htask, Descends.refl task⟩) ?_
    exact (hfra.servicesContinue : ServicesContinue .other _ _).servicesKept

theorem ServiceMove.slotsSound (hmove : ServiceMove live service s s') (h : SlotsSound s) :
    SlotsSound s' := by
  cases hmove with
  | retire ids hservice hjob hids => exact h.map fun task _ => retireIf_descends _ ids task
  | replica freshId task hservice hjob hact hfresh hsch =>
    obtain ⟨node, slot, -, -, -, hfree, rfl⟩ := scheduleTask_some hsch
    refine h.insert hservice rfl (by rw [hjob]; rfl) ?_
    intro _ other hoth hrun hpla hsid hrev hslot
    -- such a task is wanted, so its slot is among those the search avoids
    refine hfree (List.mem_map.mpr ⟨other, List.mem_filter.mpr ⟨hoth, ?_⟩, hslot⟩)
    have hsid' : other.serviceId = service.id := hsid
    have hrev' : other.revision = service.revision := hrev
    simp [holdsSlot, wanted, hsid', hrev', hrun, hpla]

theorem Move.slotsSound (hmove : Move live s s') (h : SlotsSound s) : SlotsSound s' := by
  cases hmove with
  | giveUp => exact h.map fun task _ => giveUp_descends s live task
  | jobs hjobs => exact hjobs.slotsSound h
  | service service hservice => exact hservice.slotsSound h

theorem Observed.slotsSound {nodeId : String} (hobs : Observed nodeId s s')
    (h : SlotsSound s) : SlotsSound s' := by
  refine h.descend (fun task' htask' => ?_)
    (hobs.servicesContinue : ServicesContinue .other _ _).servicesKept
  obtain ⟨task, htask, hobse⟩ := hobs.tasks task' htask'
  exact ⟨task, htask, hobse.descends⟩

theorem Adopts.slotsSound {stackName : String} (hado : Adopts stackName s s')
    (h : SlotsSound s) : SlotsSound s' := by
  cases hado with
  | intro service candidate hservice hsta hact hjob hmat hcan hfree hnew =>
    have hins : SlotsSound (s.withTasks (s.tasks.insert (adoptedTask service candidate))) := by
      refine h.insert hservice rfl (by rw [hjob]; rfl) ?_
      intro _ other hoth hrun _ hsid _
      refine hfree other hoth hsid ?_
      rw [hrun]
      exact fun hstop => nomatch hstop
    exact hins.congr rfl rfl

theorem Edit.slotsSound {cause : Cause} (hedit : Edit cause s s')
    (h : SlotsSound s) : SlotsSound s' := by
  have hser := hedit.servicesContinue.servicesKept
  cases hedit with
  | observe hobs => exact hobs.slotsSound h
  | bookkeep hobs => exact (hobs "").slotsSound h
  | schedule live hmove => exact hmove.slotsSound h
  | endDrains s now => exact h.map fun task _ => finishDrain_descends now task
  | setDeadlines s deadline => exact h.map fun task _ => setDrainDeadline_descends deadline task
  | request => exact h.descend (fun task htask => ⟨task, htask, Descends.refl task⟩) hser
  | restore ids hnew hres =>
    refine h.descend (fun task htask => ?_) hser
    rw [hres.rest] at htask
    exact ⟨task, htask, Descends.refl task⟩
  | adopt hado => exact hado.slotsSound h
  | retry s s' stackName now hret =>
    obtain ⟨stack, dep, -, -, -, -, rfl⟩ := retryStack_ok hret
    exact (h.map fun task _ => retryTask_descends stack.services task).congr rfl rfl
  | runJob s service live freshId task execution hservice hjob hfresh hsch =>
    obtain ⟨node, slot, -, -, -, -, rfl⟩ := scheduleTask_some hsch
    exact h.insert hservice rfl hjob fun hnone => nomatch hnone
  | cancelJob s id hjob =>
    refine h.map fun task _ => ?_
    split
    · exact ⟨rfl, rfl, rfl, rfl, rfl, rfl, fun hrun => nomatch hrun⟩
    · exact Descends.refl task
  | _ => exact h.congr rfl rfl

theorem startState_slotsSound {plat : Platform} {cfg : ControllerConfig} {env : Env}
    {gen : Nat} (h : SlotsSound s) :
    SlotsSound (startState plat cfg env s gen) := by
  have hund : SlotsSound (s.withTasks (s.tasks.map forgetDrainDeadline forgetDrainDeadline_id)) :=
    h.map fun task _ => forgetDrainDeadline_descends task
  refine hund.descend (fun task htask => ⟨task, htask, Descends.refl task⟩) ?_
  intro service hservice
  have hmem : Jobs.skipMissedService plat.toExternals env.now.unixMs service
      ∈ s.services.map (Jobs.skipMissedService plat.toExternals env.now.unixMs)
        (Jobs.skipMissedService_id _ _) :=
    Table.mem_map.mpr ⟨service, hservice, rfl⟩
  have hcont := skipMissedService_continues plat.toExternals env.now.unixMs service
  exact ⟨_, hmem, hcont.id, hcont.kind⟩

theorem persisted_slotsSound (h : SlotsSound s) : SlotsSound s.persisted := by
  have hsto : SlotsSound (s.withTasks (s.tasks.map TaskRecord.persisted TaskRecord.persisted_id)) :=
    h.map fun _ _ => ⟨rfl, rfl, rfl, rfl, rfl, rfl, id⟩
  exact hsto.congr rfl rfl

theorem initial_slotsSound (routes : Map String RecoveredStackGateway) (gen : Nat) :
    SlotsSound { gatewayRoutes := routes, gatewayGeneration := gen } :=
  ⟨fun _ ha => absurd ha Table.mem_empty, fun _ htask => absurd htask Table.mem_empty⟩

/-- **In every state the controller ever has, slots are sound.** -/
theorem Visited.slotsSound {plat : Platform} (h : Visited plat s) : SlotsSound s :=
  h.invariant initial_slotsSound (fun _ _ _ hedit => hedit.slotsSound)
    (fun _ => persisted_slotsSound) fun _ _ _ _ => startState_slotsSound

/-! ## A slot is left -/

/-- With an eligible node, the search returns a task in a free slot below the
replica count. -/
def FindsSlot (state : ClusterState) (service : ServiceRecord) (live : Keys String)
    (freshId : String) : Prop :=
  (∃ node ∈ state.nodes, eligibleNode state service live node = true) →
    ∃ task, scheduleTask state service live freshId = some task ∧
      task.slot < service.spec.replicas ∧ task.slot ∉ usedSlots state service

theorem findsSlot_of_count {state : ClusterState}
    {freshId : String} (h : state.tasks.count (holdsSlot service) < service.spec.replicas) :
    FindsSlot state service live freshId := by
  intro helig
  obtain ⟨node, hnode, helig⟩ := helig
  have hsome : (scheduleTask state service live freshId).isSome := scheduleTask_isSome hnode helig h
  obtain ⟨task, htask⟩ := Option.isSome_iff_exists.mp hsome
  obtain ⟨_, slot, -, -, hslot, hfree, rfl⟩ := scheduleTask_some htask
  exact ⟨_, htask, hslot, hfree⟩

/-- Wanted tasks of the current revision. -/
theorem holdsSlot_iff : holdsSlot service task = true ↔ task.serviceId = service.id ∧
      task.revision = service.revision ∧ wanted task = true := by
  unfold holdsSlot
  simp only [Bool.and_eq_true, decide_eq_true_eq, and_assoc]

theorem wanted_running (h : wanted task = true) : task.desired = .running := by
  unfold wanted at h
  simp only [Bool.and_eq_true, decide_eq_true_eq] at h
  exact h.1

/-- A replica that is wanted and not given up is on a live node. -/
theorem live_of_not_givenUp {state : ClusterState}
    (hrun : task.desired = .running) (hpla : task.job = none)
    (hkept : givenUp state live task = false) : live.contains task.nodeId = true := by
  cases hlive : live.contains task.nodeId with
  | true => rfl
  | false =>
    unfold givenUp at hkept
    simp [hrun, hpla, hlive] at hkept

/-- Each round of the creation loop takes at most one slot. -/
theorem createTasks_slots (svc : ServiceRecord) (live : Keys String) {uuid : Nat → String}
    (huuid : Function.Injective uuid) (n : Nat) {acc : Sched} (hfresh : Fresh uuid acc) :
    (createTasks svc live uuid n acc).state.tasks.count (holdsSlot svc)
      ≤ acc.state.tasks.count (holdsSlot svc) + n := by
  have hstep : ∀ (left : Nat) (acc' : Sched) (task : TaskRecord),
      (Fresh uuid acc' ∧ acc'.state.tasks.count (holdsSlot svc) + (left + 1)
        ≤ acc.state.tasks.count (holdsSlot svc) + n) →
      scheduleTask acc'.state svc live (uuid acc'.minted) = some task →
      Fresh uuid { state := acc'.state.withTasks (acc'.state.tasks.insert task), changed := true,
                   minted := acc'.minted + 1 } ∧
        (acc'.state.withTasks (acc'.state.tasks.insert task)).tasks.count (holdsSlot svc) + left
          ≤ acc.state.tasks.count (holdsSlot svc) + n := by
    intro left acc' task hacc hsch
    obtain ⟨hfresh', hcou⟩ := hacc
    obtain ⟨node, slot, -, -, -, -, rfl⟩ := scheduleTask_some hsch
    refine ⟨hfresh'.insert huuid rfl rfl rfl, ?_⟩
    have hnew := Table.contains_eq_false.mp (hfresh' _ (Nat.le_refl _))
    rw [ClusterState.withTasks_tasks, Table.count_insert hnew]
    split <;> omega
  obtain ⟨left, -, ⟨-, hcou⟩, -⟩ := createTasks_spec
    (P := fun left acc' => Fresh uuid acc' ∧ acc'.state.tasks.count (holdsSlot svc) + left
      ≤ acc.state.tasks.count (holdsSlot svc) + n) hstep n acc ⟨hfresh, Nat.le_refl _⟩
  omega

section Turn

variable {uuid : Nat → String} (huuid : Function.Injective uuid) {state : ClusterState}
  (hfresh : Fresh uuid { state }) {service : ServiceRecord} (hservice : service ∈ state.services)
  (hjob : service.spec.job = none)

include huuid hfresh hservice hjob

/-- In its turn, the wanted current tasks of a service are on live nodes. -/
theorem turn_holdsSlot_live (ext : Externals) (live : Keys String) (now : Int)
    (hmem : task ∈ (retireSurplus service live
      (turnStart ext uuid live now state service)).state.tasks)
    (hhol : holdsSlot service task = true) : currentRunning service live task = true := by
  obtain ⟨hsid, hrev, hwan⟩ := holdsSlot_iff.mp hhol
  have hrun := wanted_running hwan
  rw [retireSurplus_eq] at hmem
  obtain ⟨hturn, -⟩ := (mem_retireTasks_running hrun).mp hmem
  obtain ⟨-, -, hsame⟩ := turnStart_spec ext live now huuid hfresh service
  obtain ⟨-, hpla, hkept⟩ := (mem_passStart_running huuid hfresh hservice hjob hsid hrun).mp
    ((hsame task hsid).mp hturn)
  have hlive := live_of_not_givenUp hrun hpla hkept
  exact currentRunning_iff.mpr ⟨runningLive_iff.mpr ⟨hsid, hrun, hlive⟩, hrev⟩

/-- **As long as the loop has tasks to create, a slot is left.** -/
theorem turn_findsSlot (ext : Externals) (live : Keys String) (now : Int) {made : Nat}
    (hmade : made < creationBudget service live
      (retireSurplus service live (turnStart ext uuid live now state service)).state)
    (freshId : String) :
    FindsSlot (createTasks service live uuid made
      (retireSurplus service live (turnStart ext uuid live now state service))).state
      service live freshId := by
  have hfreT : Fresh uuid
      (retireSurplus service live (turnStart ext uuid live now state service)) := by
    rw [retireSurplus_eq]
    exact retiredTurn_fresh live service (turnStart_spec ext live now huuid hfresh service).1
  have hslo := createTasks_slots service live huuid made hfreT
  have hlive : (retireSurplus service live
        (turnStart ext uuid live now state service)).state.tasks.count (holdsSlot service)
      ≤ (retireSurplus service live (turnStart ext uuid live now state service)).state.tasks.count
          (currentRunning service live) :=
    List.countP_mono_left fun task htask =>
      turn_holdsSlot_live huuid hfresh hservice hjob ext live now htask
  refine findsSlot_of_count ?_
  unfold creationBudget at hmade
  dsimp only at hmade
  omega

end Turn

/-- A due job has stopped all its executions, so the only slot of the new one is free. -/
theorem launch_findsSlot (h : SlotsSound s) {svc current : ServiceRecord}
    (hcur : current ∈ s.services) (hfor : current.forgetCursor = svc.forgetCursor)
    (hjob : svc.spec.job.isSome) (live : Keys String) (freshId : String) :
    FindsSlot (Jobs.stopExecutions s svc) (Jobs.template svc) live freshId := by
  have hid : current.id = svc.id := congrArg (·.id) hfor
  have hspec : current.spec = svc.spec := congrArg (·.spec) hfor
  refine findsSlot_of_count (Nat.lt_of_le_of_lt (Nat.le_of_eq ?_) Nat.zero_lt_one)
  refine Table.count_eq_zero.mpr fun task htask => ?_
  unfold Jobs.stopExecutions at htask
  rw [ClusterState.withTasks_tasks, Table.mem_map] at htask
  obtain ⟨old, hold, rfl⟩ := htask
  intro hhol
  obtain ⟨hsid, -, hwan⟩ := holdsSlot_iff.mp hhol
  have hrun := wanted_running hwan
  have hsid' : (Jobs.stopExecution svc old).serviceId = svc.id := hsid
  unfold Jobs.stopExecution at hrun hsid'
  split at hrun
  · cases hrun
  next hoth =>
    rw [if_neg hoth] at hsid'
    -- the task belongs to the job, so it is an execution
    obtain ⟨owner, hown, hownI, hkind⟩ := h.kinds old hold
    have hown : owner = current := Table.eq_of_key hown hcur (hownI.trans (hsid'.trans hid.symm))
    rw [hown, hspec, hjob] at hkind
    exact hoth (by simp [hsid', hkind.symm])

/-- **Slot uniqueness.** In every state the controller ever has, running replicas of
one service and revision have different slots. And whenever a pass that begins in
this state still has a replica to create, or a job of this state is to be launched,
and some node is eligible, `schedule_task` returns a task in a free slot below the
replica count. -/
theorem slots_unique_and_found {platform : Platform} {s : ClusterState}
    (hs : Visited platform s) :
    (∀ a ∈ s.tasks, ∀ b ∈ s.tasks, a.desired = .running → b.desired = .running →
      a.job = none → b.job = none → a.serviceId = b.serviceId → a.revision = b.revision →
      a.slot = b.slot → a = b) ∧
    (∀ (ext : Externals) (uuid : Nat → String) (live : Keys String) (now : Int),
      Function.Injective uuid → Fresh uuid { state := s } →
      ∀ service ∈ s.services, service.spec.job = none →
      ∀ made, made < creationBudget service live
        (retireSurplus service live (turnStart ext uuid live now s service)).state →
      ∀ freshId, FindsSlot (createTasks service live uuid made
        (retireSurplus service live (turnStart ext uuid live now s service))).state
        service live freshId) ∧
    ∀ service : ServiceRecord, service.spec.job.isSome →
      (∃ current ∈ s.services, current.forgetCursor = service.forgetCursor) →
      ∀ (live : Keys String) (freshId : String),
        FindsSlot (Jobs.stopExecutions s service) (Jobs.template service)
          (Jobs.eligibleNodes (Jobs.stopExecutions s service) live) freshId := by
  refine ⟨hs.slotsSound.unique, ?_, ?_⟩
  · intro ext uuid live now huuid hfresh service hservice hjob made hmade freshId
    exact turn_findsSlot huuid hfresh hservice hjob ext live now hmade freshId
  · intro service hjob hcur live freshId
    obtain ⟨current, hcur, hfor⟩ := hcur
    exact launch_findsSlot hs.slotsSound hcur hfor hjob _ freshId

/-- A stack applied before any node has reported. -/
def earlyApply : List Input :=
  [{ event := .apply "shop" { services := Table.ofList [("web", { image := "web", replicas := 2 })] }
      Table.empty false, tag := "a" },
   { event := .commit 0, tag := "b" }]

/-- The state in which the first heartbeat of the controller's node has been admitted. -/
def earlyState : ClusterState :=
  admitted (sampleWorld.perform samplePlatform earlyApply).state
    (controllerMember samplePlatform sampleConfig
      { now := ⟨0, 0⟩, later := ⟨0, 0⟩, uuid := taggedId "" } Table.empty)
    { id := "c", address := "c.local" }

theorem earlyState_visited : Visited samplePlatform earlyState :=
  (Visited.world (sampleWorld_reachable.perform (by decide +kernel))).edit
    (Edit.arrive _ _ _ (by decide +kernel) rfl)

def earlyService : ServiceRecord := newService "shop" "web" { image := "web", replicas := 2 }

theorem slots_unique_and_found_early :
    1 < creationBudget earlyService (Keys.ofElems ["c"]) (retireSurplus earlyService
      (Keys.ofElems ["c"]) (turnStart samplePlatform.toExternals unaryId (Keys.ofElems ["c"]) 0
        earlyState earlyService)).state ∧
    ∃ task, scheduleTask (createTasks earlyService (Keys.ofElems ["c"]) unaryId 1
        (retireSurplus earlyService (Keys.ofElems ["c"]) (turnStart samplePlatform.toExternals
          unaryId (Keys.ofElems ["c"]) 0 earlyState earlyService))).state
        earlyService (Keys.ofElems ["c"]) "second" = some task ∧ task.slot < 2 := by
  have hfresh : Fresh unaryId { state := earlyState } := fresh_unaryId (by decide +kernel)
  have hnee : 1 < creationBudget earlyService (Keys.ofElems ["c"]) (retireSurplus earlyService
      (Keys.ofElems ["c"]) (turnStart samplePlatform.toExternals unaryId (Keys.ofElems ["c"]) 0
        earlyState earlyService)).state := by decide +kernel
  obtain ⟨task, htask, hslot, -⟩ := (slots_unique_and_found earlyState_visited).2.1
    samplePlatform.toExternals unaryId (Keys.ofElems ["c"]) 0 unaryId_injective hfresh earlyService
    (by decide +kernel) rfl 1 hnee "second" (by decide +kernel)
  exact ⟨hnee, task, htask, hslot⟩

end Swarmlite
