import Mathlib.Logic.Relation
import Swarmlite.Controller.Rounds

/-!
# What a scheduler pass can do

`reconcile` is long, but it changes the cluster in seven ways only. `Move` lists
them, and `reconcile_moves` says that a pass is a sequence of such moves. An
invariant of the scheduler is then a case split over the moves (`keeps_of_step`),
and no later proof unfolds the job scheduler or the loop over the services.

The one assumption is that task ids drawn from `uuid` are new (`Fresh`): a
repeated id would make `BTreeMap::insert` replace a task instead of adding one.
-/

namespace Swarmlite

open Ordered Relation

variable {serviceId : String} {svc : ServiceRecord}

/-! ## Fresh ids -/

/-- Ids not drawn yet name no task. -/
def Fresh (uuid : Nat → String) (acc : Sched) : Prop :=
  ∀ k, acc.minted ≤ k → acc.state.tasks.contains (uuid k) = false

theorem Fresh.insert {uuid : Nat → String} (huuid : Function.Injective uuid) {acc acc' : Sched}
    (hfre : Fresh uuid acc) {task : TaskRecord} (hid : task.id = uuid acc.minted)
    (hsta : acc'.state = acc.state.withTasks (acc.state.tasks.insert task))
    (hmin : acc'.minted = acc.minted + 1) : Fresh uuid acc' := by
  intro k hk
  rw [hmin] at hk
  have hne : uuid k ≠ task.id := by
    intro heq
    have hsame := huuid (heq.trans hid)
    omega
  rw [hsta, ClusterState.withTasks_tasks, Table.contains_insert, hfre k (by omega)]
  simp [hne]

/-- A concrete supply of ids: `u`, `uu`, `uuu`, … -/
def unaryId (k : Nat) : String := String.ofList (List.replicate (k + 1) 'u')

theorem unaryId_injective : Function.Injective unaryId := by
  intro a b h
  have hlis := String.ofList_injective h
  have hlen := congrArg List.length hlis
  rw [List.length_replicate, List.length_replicate] at hlen
  omega

/-- The supply is fresh for a state whose task ids hold another letter. -/
theorem fresh_unaryId {acc : Sched}
    (h : (acc.state.tasks.rows.all fun task => task.id.toList.any (· != 'u')) = true) :
    Fresh unaryId acc := by
  intro k _
  refine Table.contains_eq_false.mpr fun task htask hid => ?_
  have hoth := List.all_eq_true.mp h task htask
  rw [hid] at hoth
  simp [unaryId] at hoth

/-- A job execution may be asked to stop, or lose contact if its node is gone;
other tasks stay as they are. -/
structure JobTouched (live : Keys String) (task task' : TaskRecord) : Prop where
  plain : task.job = none → task' = task
  eq : task' = { task with desired := task'.desired, observed := task'.observed }
  desired : task'.desired = task.desired ∨ task'.desired = .stopped
  observed : task'.observed = task.observed ∨
    task'.observed = .unknown ∧ live.contains task.nodeId = false

theorem JobTouched.refl (live : Keys String) (task : TaskRecord) : JobTouched live task task :=
  ⟨fun _ => rfl, rfl, .inl rfl, .inl rfl⟩

variable {live : Keys String} {s s' : ClusterState} {R : ClusterState → ClusterState → Prop}

theorem JobTouched.trans {a b c : TaskRecord} (h : JobTouched live a b)
    (h' : JobTouched live b c) : JobTouched live a c := by
  have hjob : b.job = a.job := by rw [h.eq]
  have hnode : b.nodeId = a.nodeId := by rw [h.eq]
  refine ⟨fun hpla => ?_, ?_, ?_, ?_⟩
  · rw [h'.plain (hjob.trans hpla), h.plain hpla]
  · rw [h'.eq, h.eq]
  · rcases h'.desired with hsame | hstop
    · rw [hsame]
      exact h.desired
    · exact .inr hstop
  · rcases h'.observed with hsame | hlost
    · rw [hsame]
      exact h.observed
    · rw [hnode] at hlost
      exact .inr hlost

/-- A service up to the position of its job cursor. -/
def ServiceRecord.forgetCursor (service : ServiceRecord) : ServiceRecord :=
  { service with jobCursor := none }

/-- One change the job scheduler makes. -/
inductive JobMove (live : Keys String) : ClusterState → ClusterState → Prop
  /-- Executions are stopped or marked unknown. -/
  | touch (s : ClusterState) (f : TaskRecord → TaskRecord) (hf : ∀ task, (f task).id = task.id)
      (htouched : ∀ task ∈ s.tasks, JobTouched live task (f task)) :
      JobMove live s (s.withTasks (s.tasks.map f hf))
  /-- An execution is created. -/
  | execution (s : ClusterState) (service : ServiceRecord) (freshId : String) (task : TaskRecord)
      (execution : JobExecution)
      (hservice : ∃ current ∈ s.services, current.forgetCursor = service.forgetCursor)
      (hjob : service.spec.job.isSome) (hactive : service.deleted = false)
      (hfresh : s.tasks.contains freshId = false)
      (hsched : scheduleTask s (Jobs.template service) (Jobs.eligibleNodes s live) freshId
        = some task) :
      JobMove live s (s.withTasks (s.tasks.insert { task with job := some execution }))
  /-- A finished execution is forgotten. -/
  | forget (s : ClusterState) (id : String)
      (hjob : ∀ task ∈ s.tasks, task.id = id → task.job.isSome) :
      JobMove live s (s.withTasks (s.tasks.erase id))
  /-- The cursor of a job moves. -/
  | cursor (s : ClusterState) (serviceId : String) (cursor : JobCursor)
      (hjob : ∀ service ∈ s.services, service.id = serviceId → service.spec.job.isSome) :
      JobMove live s (Jobs.withCursor s serviceId cursor)

/-- One change made in the turn of a replicated service. -/
inductive ServiceMove (live : Keys String) (service : ServiceRecord) :
    ClusterState → ClusterState → Prop
  /-- Tasks of the service are retired. -/
  | retire (s : ClusterState) (ids : List String)
      (hservice : service ∈ s.services) (hjob : service.spec.job = none)
      (hids : ∀ task ∈ s.tasks, task.id ∈ ids → task.serviceId = service.id) :
      ServiceMove live service s (s.withTasks
        (s.tasks.map (retireIf (isServiceHttpRouted s service) ids) (retireIf_id _ _)))
  /-- A replica is created. -/
  | replica (s : ClusterState) (freshId : String) (task : TaskRecord)
      (hservice : service ∈ s.services) (hjob : service.spec.job = none)
      (hactive : service.deleted = false)
      (hfresh : s.tasks.contains freshId = false)
      (hsched : scheduleTask s service live freshId = some task) :
      ServiceMove live service s (s.withTasks (s.tasks.insert task))

/-- One change a scheduler pass makes. -/
inductive Move (live : Keys String) : ClusterState → ClusterState → Prop
  /-- Tasks on dead nodes and failed tasks are given up. -/
  | giveUp (s : ClusterState) :
      Move live s (s.withTasks (s.tasks.map (giveUp s live) (giveUp_id s live)))
  | jobs {s s' : ClusterState} (h : JobMove live s s') : Move live s s'
  | service {s s' : ClusterState} (service : ServiceRecord) (h : ServiceMove live service s s') :
      Move live s s'

abbrev Moves (live : Keys String) : ClusterState → ClusterState → Prop :=
  ReflTransGen (Move live)

/-- **A property every move keeps is kept by a whole sequence of moves.** -/
theorem keeps_of_step {P : ClusterState → Prop}
    (hstep : ∀ s s', R s s' → P s → P s') (h : ReflTransGen R s s') (hs : P s) : P s' := by
  induction h with
  | refl => exact hs
  | tail _ hmove ih => exact hstep _ _ hmove ih

/-! ## What no move changes -/

/-- A pass changes tasks and job cursors, nothing else. -/
structure SameFrame (s s' : ClusterState) : Prop where
  rest : s' = { s with tasks := s'.tasks, services := s'.services }
  services : s'.services.map ServiceRecord.forgetCursor (fun _ => rfl)
    = s.services.map ServiceRecord.forgetCursor (fun _ => rfl)
  plain : ∀ service : ServiceRecord, service.spec.job = none →
    (service ∈ s'.services ↔ service ∈ s.services)

theorem SameFrame.refl (s : ClusterState) : SameFrame s s := ⟨rfl, rfl, fun _ _ => Iff.rfl⟩

theorem SameFrame.trans {s'' : ClusterState} (h : SameFrame s s') (h' : SameFrame s' s'') :
    SameFrame s s'' := by
  refine ⟨?_, h'.services.trans h.services,
    fun service hjob => (h'.plain service hjob).trans (h.plain service hjob)⟩
  rw [h'.rest, h.rest]

theorem SameFrame.gatewayGeneration (h : SameFrame s s') :
    s'.gatewayGeneration = s.gatewayGeneration := by
  rw [h.rest]

/-- The record under an id differs in its cursor at most. -/
theorem SameFrame.services_get? (h : SameFrame s s') (id : String) :
    (s'.services.get? id).map ServiceRecord.forgetCursor
      = (s.services.get? id).map ServiceRecord.forgetCursor := by
  have hget : ∀ services : Table ServiceRecord.id,
      (services.map ServiceRecord.forgetCursor (fun _ => rfl)).get? id
        = (services.get? id).map ServiceRecord.forgetCursor :=
    fun services => Table.get?_map services id
  rw [← hget, ← hget, h.services]

theorem sameFrame_withTasks (s : ClusterState) (tasks : Table TaskRecord.id) :
    SameFrame s (s.withTasks tasks) :=
  ⟨rfl, rfl, fun _ _ => Iff.rfl⟩

theorem sameFrame_withCursor {cursor : JobCursor}
    (hjob : ∀ service ∈ s.services, service.id = serviceId → service.spec.job.isSome) :
    SameFrame s (Jobs.withCursor s serviceId cursor) := by
  refine ⟨rfl, ?_, ?_⟩
  · refine Table.map_modify (Jobs.moveCursor_id cursor) fun service _ => ?_
    split <;> rfl
  · intro service hnone
    have hoth : service ∈ s.services → service.id ≠ serviceId := by
      intro hmem hid
      have hsome := hjob service hmem hid
      rw [hnone] at hsome
      cases hsome
    unfold Jobs.withCursor
    rw [Table.mem_modify]
    constructor
    · intro h
      rcases h with ⟨hmem, _⟩ | ⟨old, hold, hid, rfl⟩
      · exact hmem
      · have hsome := hjob old hold hid
        rw [show old.spec.job = none from hnone] at hsome
        cases hsome
    · exact fun hmem => .inl ⟨hmem, hoth hmem⟩

theorem moveCursor_mem (hser : svc ∈ s.services) (hid : svc.id = serviceId) (cursor : JobCursor) :
    Jobs.moveCursor cursor svc ∈ (Jobs.withCursor s serviceId cursor).services := by
  unfold Jobs.withCursor
  rw [Table.mem_modify]
  exact .inr ⟨svc, hser, hid, rfl⟩

theorem JobMove.sameFrame (h : JobMove live s s') : SameFrame s s' := by
  cases h with
  | cursor serviceId cursor hjob => exact sameFrame_withCursor hjob
  | _ => exact sameFrame_withTasks s _

theorem ServiceMove.sameFrame (h : ServiceMove live svc s s') : SameFrame s s' := by
  cases h with
  | _ => exact sameFrame_withTasks s _

theorem Move.sameFrame (h : Move live s s') : SameFrame s s' := by
  cases h with
  | giveUp => exact sameFrame_withTasks s _
  | jobs h | service service h => exact h.sameFrame

theorem sameFrame_of_steps (hR : ∀ s s', R s s' → SameFrame s s') (h : ReflTransGen R s s') :
    SameFrame s s' :=
  keeps_of_step (P := SameFrame s) (fun _ _ hstep hfra => hfra.trans (hR _ _ hstep)) h
    (SameFrame.refl s)

theorem Moves.sameFrame (h : Moves live s s') : SameFrame s s' :=
  sameFrame_of_steps (fun _ _ hmove => hmove.sameFrame) h

/-! ## A pass is a sequence of moves -/

section Pass

variable {live : Keys String} {uuid : Nat → String} {R : ClusterState → ClusterState → Prop}

/-- From fresh ids, the step is a sequence of moves and leaves the remaining ids fresh. -/
def Advances (R : ClusterState → ClusterState → Prop) (uuid : Nat → String)
    (acc acc' : Sched) : Prop :=
  Fresh uuid acc → ReflTransGen R acc.state acc'.state ∧ Fresh uuid acc'

theorem Advances.refl (acc : Sched) : Advances R uuid acc acc := fun hfre => ⟨.refl, hfre⟩

theorem Advances.trans {a b c : Sched} (h : Advances R uuid a b)
    (h' : Advances R uuid b c) : Advances R uuid a c := by
  intro hfre
  obtain ⟨hmov, hfre⟩ := h hfre
  obtain ⟨hmov', hfre'⟩ := h' hfre
  exact ⟨hmov.trans hmov', hfre'⟩

theorem Advances.mono {R' : ClusterState → ClusterState → Prop} (hR : ∀ s s', R s s' → R' s s')
    {a b : Sched} (h : Advances R uuid a b) : Advances R' uuid a b := by
  intro hfre
  obtain ⟨hmov, hfre'⟩ := h hfre
  exact ⟨ReflTransGen.mono hR _ _ hmov, hfre'⟩

variable {acc acc' : Sched} {service : ServiceRecord}

/-- A single move that adds no task. -/
theorem advances_of_move (hmin : acc'.minted = acc.minted)
    (hids : ∀ id, acc.state.tasks.contains id = false → acc'.state.tasks.contains id = false)
    (hmove : R acc.state acc'.state) : Advances R uuid acc acc' := by
  intro hfre
  refine ⟨.single hmove, fun k hk => hids _ (hfre k ?_)⟩
  rw [← hmin]
  exact hk

theorem advances_of_map {f : TaskRecord → TaskRecord}
    (hf : ∀ task, (f task).id = task.id) (hmin : acc'.minted = acc.minted)
    (hsta : acc'.state = acc.state.withTasks (acc.state.tasks.map f hf))
    (hmove : R acc.state (acc.state.withTasks (acc.state.tasks.map f hf))) :
    Advances R uuid acc acc' := by
  refine advances_of_move hmin (fun id h => ?_) (hsta ▸ hmove)
  rw [hsta]
  exact (Table.contains_map acc.state.tasks f hf id).trans h

/-- A single move that adds a task under the next id. -/
theorem advances_of_insert (huuid : Function.Injective uuid)
    {task : TaskRecord} (hid : task.id = uuid acc.minted)
    (hsta : acc'.state = acc.state.withTasks (acc.state.tasks.insert task))
    (hmin : acc'.minted = acc.minted + 1)
    (hmove : acc.state.tasks.contains (uuid acc.minted) = false → R acc.state acc'.state) :
    Advances R uuid acc acc' := by
  intro hfre
  exact ⟨.single (hmove (hfre _ (Nat.le_refl _))), hfre.insert huuid hid hsta hmin⟩

/-- A loop whose rounds advance advances; a round may use that the frame is
still that of the start. -/
theorem foldl_advances {β : Type} {f : Sched → β → Sched} (hR : ∀ s s', R s s' → SameFrame s s') :
    ∀ {l : List β} {start : Sched},
      (∀ acc, SameFrame start.state acc.state → ∀ x ∈ l, Advances R uuid acc (f acc x)) →
      Advances R uuid start (l.foldl f start)
  | [], start, _ => Advances.refl start
  | x :: l, start, hstep => by
    intro hfre
    obtain ⟨hmov, hfre'⟩ := hstep start (SameFrame.refl _) x (List.mem_cons_self ..) hfre
    have hrest : Advances R uuid (f start x) (l.foldl f (f start x)) :=
      foldl_advances hR fun acc hfra y hy =>
        hstep acc ((sameFrame_of_steps hR hmov).trans hfra) y (List.mem_cons_of_mem _ hy)
    obtain ⟨hmov', hfre''⟩ := hrest hfre'
    exact ⟨hmov.trans hmov', hfre''⟩

/-! ### Jobs -/

theorem stopExpired_touched (state : ClusterState) (live : Keys String) (now : Int)
    (task : TaskRecord) : JobTouched live task (Jobs.stopExpired state live now task) := by
  unfold Jobs.stopExpired
  split
  next hjob => exact JobTouched.refl live task
  next job hjob =>
    refine ⟨fun hnone => ?_, rfl, ?_, ?_⟩
    · rw [hjob] at hnone
      cases hnone
    · dsimp only
      split
      · exact .inr rfl
      · exact .inl rfl
    · dsimp only
      split
      next hlost =>
        simp only [Bool.and_eq_true, Bool.not_eq_true'] at hlost
        exact .inr ⟨rfl, hlost.1.1⟩
      · exact .inl rfl

theorem stopExecution_touched (live : Keys String) (svc : ServiceRecord) (task : TaskRecord) :
    JobTouched live task (Jobs.stopExecution svc task) := by
  unfold Jobs.stopExecution
  split
  next h =>
    refine ⟨fun hnone => ?_, rfl, .inr rfl, .inl rfl⟩
    rw [hnone] at h
    simp at h
  · exact JobTouched.refl live task

variable (live) in
theorem stopExpiredTasks_advances (acc : Sched) (now : Int) :
    Advances (JobMove live) uuid acc (Jobs.stopExpiredTasks acc live now) := by
  refine advances_of_map (Jobs.stopExpired_id acc.state live now) rfl rfl ?_
  exact JobMove.touch acc.state _ _ fun task _ => stopExpired_touched acc.state live now task

theorem withCursor_advances {cursor : JobCursor}
    (hsta : acc'.state = Jobs.withCursor acc.state serviceId cursor)
    (hmin : acc'.minted = acc.minted)
    (hjob : ∀ service ∈ acc.state.services, service.id = serviceId → service.spec.job.isSome) :
    Advances (JobMove live) uuid acc acc' := by
  refine advances_of_move hmin (fun id h => ?_) ?_
  · rw [hsta]
    exact h
  · rw [hsta]
    exact JobMove.cursor acc.state serviceId cursor hjob

theorem stopExecutions_advances (acc : Sched) (svc : ServiceRecord) :
    Advances (JobMove live) uuid acc { acc with state := Jobs.stopExecutions acc.state svc } := by
  refine advances_of_map (Jobs.stopExecution_id svc) rfl rfl ?_
  exact JobMove.touch acc.state _ _ fun task _ => stopExecution_touched live svc task

theorem launch_advances (huuid : Function.Injective uuid) (now scheduled next : Int)
    (hser : ∃ current ∈ acc.state.services, current.forgetCursor = service.forgetCursor)
    (hjob : service.spec.job.isSome) (hact : service.deleted = false) :
    Advances (JobMove live) uuid acc (Jobs.launch acc live uuid now service scheduled next) := by
  refine (stopExecutions_advances acc service).trans ?_
  unfold Jobs.launch
  dsimp only
  split
  · exact Advances.refl _
  next task hsch =>
    obtain ⟨node, slot, _, _, _, _, rfl⟩ := scheduleTask_some hsch
    refine advances_of_insert huuid rfl rfl rfl fun hfre => ?_
    exact JobMove.execution _ service _ _ _ hser hjob hact hfre hsch

theorem reconcileJob_advances (ext : Externals) (huuid : Function.Injective uuid) (now : Int)
    (hser : ∃ current ∈ acc.state.services, current.forgetCursor = service.forgetCursor)
    (hjob : service.spec.job.isSome) (hact : service.deleted = false) :
    Advances (JobMove live) uuid acc (Jobs.reconcileJob ext live uuid now acc service) := by
  obtain ⟨current, hcur, hfor⟩ := hser
  have hspec : current.spec = service.spec := congrArg (·.spec) hfor
  have hid : current.id = service.id := congrArg (·.id) hfor
  -- the record under this id is the job itself
  have hcurs : ∀ r ∈ acc.state.services, r.id = service.id → r.spec.job.isSome := by
    intro r hr hrid
    rw [Table.eq_of_key hr hcur (hrid.trans hid.symm), hspec]
    exact hjob
  unfold Jobs.reconcileJob
  split
  · exact Advances.refl acc
  next job _ =>
    split
    · exact Advances.refl acc
    next schedule _ =>
      dsimp only
      split
      · split
        · exact Advances.refl acc
        · split
          · exact Advances.refl acc
          · exact withCursor_advances rfl rfl hcurs
      · split
        · exact Advances.refl acc
        next cursor _ =>
          split
          · exact Advances.refl acc
          split
          · exact Advances.refl acc
          next next _ =>
            split
            · exact withCursor_advances rfl rfl hcurs
            · refine Advances.trans (b := { acc with
                  state := Jobs.withCursor acc.state service.id _, changed := true })
                (withCursor_advances rfl rfl hcurs)
                (launch_advances huuid _ _ _ ?_ hjob hact)
              exact ⟨_, moveCursor_mem hcur hid _, hfor⟩

theorem mem_finishedExecutions {state : ClusterState}
    {entry : Int ×ₗ String} : entry ∈ Jobs.finishedExecutions state serviceId ↔
      ∃ task ∈ state.tasks, ∃ job, task.job = some job ∧ task.serviceId = serviceId ∧
        task.observed.isJobTerminal = true ∧ toLex (job.scheduledAtUnixMs, task.id) = entry := by
  unfold Jobs.finishedExecutions
  rw [List.mem_insertionSort, List.mem_filterMap]
  refine exists_congr fun task => and_congr_right fun _ => ?_
  cases task.job with
  | none => simp
  | some job => simp [and_assoc]

/-- Erasing ids of job executions one after the other. -/
theorem eraseAll_moves (live : Keys String) :
    ∀ (entries : List (Int ×ₗ String)) (state : ClusterState),
      (∀ entry ∈ entries, ∀ task ∈ state.tasks, task.id = (ofLex entry).2 → task.job.isSome) →
      ReflTransGen (JobMove live) state (state.withTasks
        (entries.foldl (fun tasks entry => tasks.erase (ofLex entry).2) state.tasks))
  | [], state, _ => .refl
  | entry :: entries, state, h => by
    have hfir : JobMove live state (state.withTasks (state.tasks.erase (ofLex entry).2)) :=
      JobMove.forget state _ (h entry (List.mem_cons_self ..))
    refine ReflTransGen.head hfir ?_
    refine eraseAll_moves live entries (state.withTasks (state.tasks.erase (ofLex entry).2)) ?_
    intro other hoth task htask
    exact h other (List.mem_cons_of_mem _ hoth) task (Table.mem_erase.mp htask).1

theorem pruneFinished_advances (acc : Sched) (serviceId : String) :
    Advances (JobMove live) uuid acc (Jobs.pruneFinished acc serviceId) := by
  intro hfre
  refine ⟨eraseAll_moves live _ acc.state ?_,
    fun k hk => Table.contains_eq_false.mpr fun task htask =>
      Table.contains_eq_false.mp (hfre k hk) task (Table.mem_foldl_erase.mp htask).1⟩
  intro entry hent task htask hid
  obtain ⟨finished, hfin, job, hjob, _, _, rfl⟩ :=
    mem_finishedExecutions.mp (List.mem_of_mem_take hent)
  rw [Table.eq_of_key htask hfin hid, hjob]
  rfl

theorem jobsReconcile_after_stopExpired (ext : Externals) (huuid : Function.Injective uuid)
    (now : Int) (acc : Sched) : Advances (JobMove live) uuid (Jobs.stopExpiredTasks acc live now)
      (Jobs.reconcile ext uuid live now acc) := by
  have hR : ∀ s s', JobMove live s s' → SameFrame s s' := fun _ _ h => h.sameFrame
  refine Advances.trans (foldl_advances hR fun other hfra service hser => ?_)
    (foldl_advances hR fun other _ serviceId _ => pruneFinished_advances other serviceId)
  obtain ⟨hmem, hdue⟩ := List.mem_filter.mp hser
  simp only [Bool.and_eq_true, Bool.not_eq_true'] at hdue
  refine reconcileJob_advances ext huuid now ?_ hdue.2 hdue.1
  have hfor : service.forgetCursor
      ∈ other.state.services.map ServiceRecord.forgetCursor (fun _ => rfl) := by
    rw [hfra.services]
    exact Table.mem_map.mpr ⟨service, hmem, rfl⟩
  exact Table.mem_map.mp hfor

variable (live) in
theorem jobsReconcile_advances (ext : Externals) (huuid : Function.Injective uuid) (now : Int)
    (acc : Sched) : Advances (JobMove live) uuid acc (Jobs.reconcile ext uuid live now acc) :=
  (stopExpiredTasks_advances live acc now).trans (jobsReconcile_after_stopExpired ext huuid now acc)

/-! ### Services -/

theorem giveUpTasks_advances (acc : Sched) : Advances (Move live) uuid acc (giveUpTasks live acc) :=
  advances_of_map (giveUp_id acc.state live) rfl rfl (Move.giveUp acc.state)

theorem retireTasks_advances {tasks : List TaskRecord}
    (hser : service ∈ acc.state.services) (hjob : service.spec.job = none)
    (htas : ∀ task ∈ tasks, task ∈ acc.state.tasks ∧ task.serviceId = service.id) :
    Advances (ServiceMove live service) uuid acc (retireTasks service acc tasks) := by
  refine advances_of_map (retireIf_id _ (tasks.map TaskRecord.id)) (retireTasks_minted ..)
    (retireTasks_state service tasks acc) (ServiceMove.retire acc.state _ hser hjob ?_)
  intro task htask hid
  obtain ⟨victim, hvic, hvid⟩ := List.mem_map.mp hid
  obtain ⟨hmem, hsid⟩ := htas victim hvic
  rw [← Table.eq_of_key hmem htask hvid]
  exact hsid

theorem createTasks_advances (huuid : Function.Injective uuid)
    (hjob : svc.spec.job = none) (hact : svc.deleted = false) :
    ∀ (n : Nat) (acc : Sched), svc ∈ acc.state.services →
      Advances (ServiceMove live svc) uuid acc (createTasks svc live uuid n acc)
  | 0, acc, _ => Advances.refl acc
  | n + 1, acc, hservice => by
    unfold createTasks
    split
    · exact Advances.refl acc
    next task hsch =>
      refine Advances.trans (advances_of_insert huuid ?_ rfl rfl fun hfre => ?_)
        (createTasks_advances huuid hjob hact n _ hservice)
      · obtain ⟨node, slot, _, _, _, _, rfl⟩ := scheduleTask_some hsch
        rfl
      · exact ServiceMove.replica acc.state _ task hservice hjob hact hfre hsch

variable (live) in
theorem reconcileStep_advances (huuid : Function.Injective uuid)
    (hser : service ∈ acc.state.services) :
    Advances (ServiceMove live service) uuid acc (reconcileStep live uuid acc service) := by
  unfold reconcileStep
  split
  · exact Advances.refl acc
  next hjob =>
    have hjob : service.spec.job = none := by simpa using hjob
    split
    · exact Advances.refl acc
    split
    · refine retireTasks_advances hser hjob fun task htask => ?_
      obtain ⟨hmem, hsid⟩ := List.mem_filter.mp htask
      exact ⟨hmem, of_decide_eq_true hsid⟩
    next hlive =>
      have hact : service.deleted = false := by
        cases hdel : service.deleted with
        | false => rfl
        | true => exact absurd (by rw [hdel]; rfl) hlive
      unfold reconcileService
      rw [retireSurplus_eq]
      refine Advances.trans (retireTasks_advances hser hjob fun task htask => ?_)
        (createTasks_advances huuid hjob hact _ _ ?_)
      · exact mem_surplusTasks htask
      · rw [retireTasks_state]
        exact hser

/-- The pass before the first service takes its turn. -/
def passStart (ext : Externals) (uuid : Nat → String) (live : Keys String) (now : Int)
    (state : ClusterState) : Sched :=
  giveUpTasks live (Jobs.reconcile ext uuid live now { state })

theorem passStart_advances (ext : Externals) (huuid : Function.Injective uuid) (now : Int)
    (state : ClusterState) :
    Advances (Move live) uuid { state } (passStart ext uuid live now state) :=
  ((jobsReconcile_advances live ext huuid now _).mono fun _ _ => Move.jobs).trans
    (giveUpTasks_advances _)

variable (live) in
/-- After the jobs and the tasks given up, the services take their turns. -/
theorem turns_advance (ext : Externals) (huuid : Function.Injective uuid) (now : Int)
    (state : ClusterState) :
    Advances (fun s s' => ∃ service, ServiceMove live service s s') uuid
      (passStart ext uuid live now state) (reconcile ext uuid live now state) := by
  have hfra : ∀ s s', (∃ service, ServiceMove live service s s') → SameFrame s s' :=
    fun _ _ ⟨_, h⟩ => h.sameFrame
  refine foldl_advances hfra fun acc hfra service hser => ?_
  by_cases hjob : service.spec.job = none
  · have hmem := (hfra.plain service hjob).mpr hser
    exact (reconcileStep_advances live huuid hmem).mono fun _ _ h => ⟨service, h⟩
  unfold reconcileStep
  rw [if_pos (Option.isSome_iff_ne_none.mpr hjob)]
  exact Advances.refl acc

variable (live) in
/-- **A scheduler pass is a sequence of moves.** -/
theorem reconcile_moves (ext : Externals) (huuid : Function.Injective uuid) (now : Int)
    {state : ClusterState} (hfre : Fresh uuid { state }) :
    Moves live state (reconcile ext uuid live now state).state := by
  have hser := (turns_advance live ext huuid now state).mono
    fun _ _ ⟨service, h⟩ => Move.service service h
  exact (((passStart_advances ext huuid now state).trans hser) hfre).1

end Pass

end Swarmlite
