import Swarmlite.Controller.Availability
import Swarmlite.Controller.Executions

/-!
# Start windows and retention — `swarmlite-controller/src/jobs.rs`

One call of `Jobs.reconcile`, from any state. An execution it creates may start
from now on, and its start window closes later than it opens
(`notBefore_window`). Of the finished executions of a service the last twenty by
scheduled time and id stay (`pruneAll_finished`), and one that has not finished
is never removed (`pruneAll_keeps`).

Mirroring notes:
- `next_after(now)` is an `i64` after `now`; that is a hypothesis on `Externals`.
- The stack parser refuses a `stop_grace_period` above `i32::MAX` seconds. Under
  this bound neither the cast nor the unchecked `+ 5_000` leaves `i64`, at any
  service the loop reaches.
-/

namespace Swarmlite

open Ordered

namespace Jobs

/-- The next occurrence comes after `now`, and both are `i64` values. -/
structure Timely (ext : Externals) (now : Int) : Prop where
  clock : -9223372036854775808 ≤ now
  next : ∀ job next, ext.nextAfter job now = some next → now < next ∧ next ≤ 9223372036854775807

/-- The parser accepts the grace periods of the services and of their executions. -/
structure GraceAccepted (state : ClusterState) : Prop where
  services : ∀ service ∈ state.services, service.spec.stopGracePeriodSeconds ≤ 2147483647
  tasks : ∀ task ∈ state.tasks, ∀ job ∈ task.job, job.spec.stopGracePeriodSeconds ≤ 2147483647

/-! ## The start window -/

theorem notBefore_window {now next grace : Int} (hnow : -9223372036854775808 ≤ now)
    (hnext : now < next) (hmax : next ≤ 9223372036854775807) (hgra : 0 ≤ grace) :
    now ≤ satI64 (now + min (min grace 30000) ((satI64 (next - now)).tdiv 2)) ∧
    satI64 (now + min (min grace 30000) ((satI64 (next - now)).tdiv 2)) < next := by
  have hgap : satI64 (next - now) = min 9223372036854775807 (next - now) := by
    unfold satI64
    omega
  rw [hgap, Int.tdiv_eq_ediv_of_nonneg (by omega)]
  unfold satI64
  omega

theorem graceMs_nonneg (state : ClusterState) (svc : ServiceRecord) : 0 ≤ graceMs state svc := by
  unfold graceMs
  refine List.foldlRecOn (motive := fun grace => 0 ≤ grace) _ _ le_rfl fun grace hgra task _ => ?_
  split
  · split
    · exact le_max_of_le_left hgra
    · exact hgra
  · exact hgra

/-- What the loop adds for a grace period the parser accepts is exact. -/
theorem grace_exact {seconds : Nat} (h : seconds ≤ 2147483647) :
    asI64 (min (seconds * 1000) 18446744073709551615) + 5000 = seconds * 1000 + 5000 ∧
    (seconds : Int) * 1000 + 5000 ≤ 9223372036854775807 := by
  unfold asI64
  rw [min_eq_left (by omega), if_pos (by omega)]
  omega

/-! ## The loop over the due jobs -/

/-- The loop, once it has been through these services. -/
def reached (ext : Externals) (uuid : Nat → String) (live : Keys String) (now : Int)
    (state : ClusterState) (services : List ServiceRecord) : Sched :=
  services.foldl (reconcileJob ext live uuid now) (stopExpiredTasks { state } live now)

/-- A new execution, to be started from now on and before its deadline. -/
def Opened (now : Int) (task : TaskRecord) : Prop :=
  task.observed = .pending ∧ ∃ job, task.job = some job ∧
    now ≤ job.notBeforeUnixMs ∧ job.notBeforeUnixMs < job.startDeadlineUnixMs

/-- A task that `state` does not have is a new execution, and the parser accepts
the grace period of every execution. -/
def Sound (now : Int) (state : ClusterState) (task : TaskRecord) : Prop :=
  (state.tasks.contains task.id = false → Opened now task) ∧
    ∀ job ∈ task.job, job.spec.stopGracePeriodSeconds ≤ 2147483647

/-- What the loop keeps. -/
structure Launched (uuid : Nat → String) (now : Int) (state : ClusterState) (acc : Sched) :
    Prop where
  tasks : ∀ task ∈ acc.state.tasks, Sound now state task
  drawn : ∀ k < acc.minted, acc.state.tasks.contains (uuid k) = true

section Loop

variable {ext : Externals} {live : Keys String} {uuid : Nat → String} {now : Int}
  {state : ClusterState} {acc acc' : Sched} {service : ServiceRecord}

theorem Launched.of_tasks (h : Launched uuid now state acc)
    (htas : acc'.state.tasks = acc.state.tasks) (hmin : acc'.minted = acc.minted) :
    Launched uuid now state acc' := by
  obtain ⟨hall, hdra⟩ := h
  rw [← htas] at hall hdra
  rw [← hmin] at hdra
  exact ⟨hall, hdra⟩

theorem Launched.stopExecutions (h : Launched uuid now state acc) (svc : ServiceRecord) :
    Launched uuid now state { acc with state := stopExecutions acc.state svc } := by
  refine ⟨fun task htask => ?_, fun k hk => ?_⟩
  · obtain ⟨old, hold, rfl⟩ := Table.exists_of_mem_map (stopExecution_id svc) htask
    have hsou := h.tasks old hold
    unfold stopExecution
    split <;> exact hsou
  · exact (Table.contains_map _ _ (stopExecution_id svc) _).trans (h.drawn k hk)

theorem Launched.launch (h : Launched uuid now state acc) (htim : Timely ext now)
    {job : JobSpec} {next : Int} (hnext : ext.nextAfter job now = some next)
    (hspec : service.spec.stopGracePeriodSeconds ≤ 2147483647) (scheduled : Int) :
    Launched uuid now state (launch acc live uuid now service scheduled next) := by
  have hsto := h.stopExecutions service
  unfold Jobs.launch
  dsimp only
  split
  · exact hsto
  next task hsch =>
    obtain ⟨node, slot, _, _, _, _, rfl⟩ := scheduleTask_some hsch
    refine ⟨fun task htask => ?_, fun k hk => ?_⟩
    · rcases Table.mem_insert.mp htask with rfl | ⟨hold, _⟩
      · obtain ⟨hlt, hmax⟩ := htim.next job next hnext
        refine ⟨fun _ => ⟨rfl, _, rfl, ?_⟩, fun job hjob => ?_⟩
        · exact notBefore_window htim.clock hlt hmax (graceMs_nonneg _ service)
        · cases hjob
          exact hspec
      · exact hsto.tasks task hold
    · refine (Table.contains_insert _ _ _).trans (Bool.or_eq_true_iff.mpr ?_)
      rcases Nat.lt_succ_iff_lt_or_eq.mp hk with hlt | rfl
      · exact .inr (hsto.drawn k hlt)
      · exact .inl (decide_eq_true rfl)

theorem Launched.reconcileJob (h : Launched uuid now state acc) (htim : Timely ext now)
    (hspec : service.spec.stopGracePeriodSeconds ≤ 2147483647) :
    Launched uuid now state (reconcileJob ext live uuid now acc service) := by
  cases hlau : launches ext now service with
  | false =>
    obtain ⟨htas, hmin⟩ := reconcileJob_of_not_launches hlau acc
    exact h.of_tasks htas hmin
  | true =>
    obtain ⟨job, cursor, next, _, _, hnext, _, heq⟩ := reconcileJob_of_launches hlau acc
    have hmoved : Launched uuid now state { acc with
        state := withCursor acc.state service.id (passedCursor cursor next)
        changed := true } := h.of_tasks rfl rfl
    rw [heq]
    exact hmoved.launch htim hnext hspec _

/-- At the start of the loop there is nothing new. -/
theorem launched_stopExpired (hacc : GraceAccepted state) :
    Launched uuid now state (stopExpiredTasks { state } live now) := by
  refine ⟨fun task htask => ?_, fun k hk => absurd hk (Nat.not_lt_zero k)⟩
  obtain ⟨old, hold, rfl⟩ := Table.exists_of_mem_map (stopExpired_id state live now) htask
  refine ⟨fun hnew => ?_, fun job hjob => ?_⟩
  · exact absurd (stopExpired_id state live now old).symm (Table.contains_eq_false.mp hnew old hold)
  · rw [stopExpired_job] at hjob
    exact hacc.tasks old hold job hjob

theorem launched_reached (htim : Timely ext now) (hacc : GraceAccepted state)
    {services : List ServiceRecord} (hpre : services <+: dueServices state) :
    Launched uuid now state (reached ext uuid live now state services) := by
  unfold reached
  refine List.foldlRecOn (motive := Launched uuid now state) _ _ (launched_stopExpired hacc) ?_
  intro acc h service hmem
  refine h.reconcileJob htim (hacc.services service ?_)
  exact (List.mem_filter.mp (hpre.subset hmem)).1

end Loop

/-! ## The finished executions -/

variable {s : ClusterState} {acc : Sched} {id : String} {id' : String}

/-- The last twenty. -/
def latest (entries : List (Int ×ₗ String)) : List (Int ×ₗ String) :=
  entries.drop (entries.length - 20)

/-- A task has one entry, under its own service. -/
theorem finishedExecutions_unique {entry other : Int ×ₗ String}
    (hent : entry ∈ finishedExecutions s id) (hoth : other ∈ finishedExecutions s id')
    (h : (ofLex entry).2 = (ofLex other).2) : entry = other ∧ id = id' := by
  obtain ⟨task, htask, job, hjob, hser, _, rfl⟩ := mem_finishedExecutions.mp hent
  obtain ⟨task', htask', job', hjob', hser', _, rfl⟩ := mem_finishedExecutions.mp hoth
  cases Table.eq_of_key htask htask' h
  cases hjob.symm.trans hjob'
  exact ⟨rfl, hser.symm.trans hser'⟩

theorem finishedExecutions_nodup (s : ClusterState) (id : String) :
    (finishedExecutions s id).Nodup := by
  refine (List.perm_insertionSort _ _).nodup_iff.mpr (List.pairwise_filterMap.mpr ?_)
  refine s.tasks.sorted.imp fun hlt entry hent entry' hent' heq => ?_
  subst heq
  split at hent
  · split at hent'
    · simp only [Option.ite_none_right_eq_some, Option.some.injEq] at hent hent'
      have hids := congrArg (fun entry => (ofLex entry).2) (hent.2.trans hent'.2.symm)
      exact absurd hids (ne_of_lt hlt)
    · cases hent'
  · cases hent

theorem finishedExecutions_sorted (s : ClusterState) (id : String) :
    (finishedExecutions s id).Pairwise (· ≤ ·) := List.pairwise_insertionSort _ _

/-- The list is determined by its elements. -/
theorem finishedExecutions_eq {l : List (Int ×ₗ String)} (hsor : l.Pairwise (· ≤ ·))
    (hnod : l.Nodup) (h : ∀ entry, entry ∈ finishedExecutions s id ↔ entry ∈ l) :
    finishedExecutions s id = l :=
  ((List.perm_ext_iff_of_nodup (finishedExecutions_nodup s id) hnod).mpr h).eq_of_pairwise
    (fun _ _ _ _ => le_antisymm) (finishedExecutions_sorted s id) hsor

theorem mem_finishedExecutions_prune {entry : Int ×ₗ String} :
    entry ∈ finishedExecutions (pruneFinished acc id).state id' ↔
      entry ∈ finishedExecutions acc.state id' ∧
      ∀ other ∈ (finishedExecutions acc.state id).take
        ((finishedExecutions acc.state id).length - 20), (ofLex entry).2 ≠ (ofLex other).2 := by
  rw [mem_finishedExecutions, mem_finishedExecutions]
  constructor
  · intro h
    obtain ⟨task, htask, job, hjob, hser, hter, rfl⟩ := h
    obtain ⟨hmem, hera⟩ := Table.mem_foldl_erase.mp htask
    exact ⟨⟨task, hmem, job, hjob, hser, hter, rfl⟩, hera⟩
  · intro h
    obtain ⟨⟨task, hmem, job, hjob, hser, hter, rfl⟩, hera⟩ := h
    exact ⟨task, Table.mem_foldl_erase.mpr ⟨hmem, hera⟩, job, hjob, hser, hter, rfl⟩

theorem pruneFinished_own (acc : Sched) (id : String) :
    finishedExecutions (pruneFinished acc id).state id
      = latest (finishedExecutions acc.state id) := by
  have hsub : (latest (finishedExecutions acc.state id)).Sublist (finishedExecutions acc.state id) :=
    List.drop_sublist _ _
  have hnod := finishedExecutions_nodup acc.state id
  refine finishedExecutions_eq ((finishedExecutions_sorted _ _).sublist hsub) (hnod.sublist hsub) ?_
  intro entry
  rw [mem_finishedExecutions_prune]
  constructor
  · intro h
    obtain ⟨hmem, hera⟩ := h
    rw [← List.take_append_drop ((finishedExecutions acc.state id).length - 20)
      (finishedExecutions acc.state id)] at hmem
    exact (List.mem_append.mp hmem).resolve_left fun hold => hera entry hold rfl
  · intro hnew
    refine ⟨hsub.subset hnew, fun other hoth heq => ?_⟩
    obtain ⟨rfl, -⟩ := finishedExecutions_unique (hsub.subset hnew) (List.mem_of_mem_take hoth) heq
    exact List.disjoint_take_drop hnod le_rfl hoth hnew

theorem pruneFinished_other (hne : id' ≠ id) (acc : Sched) :
    finishedExecutions (pruneFinished acc id).state id' = finishedExecutions acc.state id' := by
  refine finishedExecutions_eq (finishedExecutions_sorted _ _) (finishedExecutions_nodup _ _) ?_
  intro entry
  rw [mem_finishedExecutions_prune]
  refine and_iff_left_of_imp fun hent other hoth heq => hne ?_
  exact (finishedExecutions_unique hent (List.mem_of_mem_take hoth) heq).2

/-- **Each service keeps its last twenty finished executions.** -/
theorem pruneAll_finished (id : String) : ∀ {ids : List String} (acc : Sched), ids.Nodup →
    finishedExecutions (ids.foldl pruneFinished acc).state id = if id ∈ ids then
      latest (finishedExecutions acc.state id) else finishedExecutions acc.state id
  | [], _, _ => rfl
  | other :: ids, acc, hnod => by
    obtain ⟨hnot, hnod⟩ := List.nodup_cons.mp hnod
    rw [List.foldl_cons, pruneAll_finished id _ hnod]
    by_cases hid : id = other
    · subst hid
      rw [if_neg hnot, if_pos (List.mem_cons_self ..), pruneFinished_own]
    · simp [pruneFinished_other hid, hid]

/-- **An execution that has not finished is not forgotten.** -/
theorem pruneAll_keeps {task : TaskRecord} (hmem : task ∈ acc.state.tasks)
    (h : task.observed.isJobTerminal = false) (ids : List String) :
    task ∈ (ids.foldl pruneFinished acc).state.tasks := by
  refine List.foldlRecOn (motive := fun acc : Sched => task ∈ acc.state.tasks) ids _ hmem ?_
  intro acc hmem id _
  refine Table.mem_foldl_erase.mpr ⟨hmem, fun entry hent hid => ?_⟩
  obtain ⟨other, hoth, job, _, _, hter, rfl⟩ :=
    mem_finishedExecutions.mp (List.mem_of_mem_take hent)
  rw [Table.eq_of_key hmem hoth hid, hter] at h
  cases h

theorem pruneAll_rest (ids : List String) (acc : Sched) :
    (ids.foldl pruneFinished acc).state.services = acc.state.services ∧
      (ids.foldl pruneFinished acc).minted = acc.minted :=
  List.foldlRecOn (motive := fun acc' : Sched =>
    acc'.state.services = acc.state.services ∧ acc'.minted = acc.minted) ids _ ⟨rfl, rfl⟩
    fun _ h _ _ => h

theorem pruneAll_subset {task : TaskRecord} : ∀ (ids : List String) {acc : Sched},
    task ∈ (ids.foldl pruneFinished acc).state.tasks → task ∈ acc.state.tasks
  | [], _, h => h
  | _ :: ids, _, h => (Table.mem_foldl_erase.mp (pruneAll_subset ids h)).1

/-! ## The whole call -/

variable (ext : Externals) (live : Keys String) (now : Int) {state : ClusterState}
  {uuid : Nat → String}

theorem settled_isJobTerminal (state : ClusterState) (task : TaskRecord) :
    (settled ext live now state task).observed.isJobTerminal = task.observed.isJobTerminal := by
  have hsto : (stopExpired state live now task).observed.isJobTerminal
      = task.observed.isJobTerminal := by
    unfold stopExpired
    split
    · rfl
    · dsimp only
      split
      next hlost =>
        simp only [Bool.and_eq_true, Bool.not_eq_true'] at hlost
        exact hlost.1.2.symm
      · rfl
  unfold settled
  dsimp only
  split <;> exact hsto

theorem settled_mem_launched (hfre : ∀ k, state.tasks.contains (uuid k) = false)
    (task : TaskRecord) (hmem : task ∈ state.tasks) :
    settled ext live now state task
      ∈ (reached ext uuid live now state (dueServices state)).state.tasks := by
  have hne : ∀ k, uuid k ≠ task.id :=
    fun k heq => Table.contains_eq_false.mp (hfre k) task hmem heq.symm
  have hget := launched_get? ext hne live now { state }
  rw [show Table.get? _ task.id = _ from Table.get?_of_mem hmem] at hget
  exact Table.mem_of_get? hget

/-- The loop leaves the finished executions alone and adds none. -/
theorem finishedExecutions_launched (hfre : ∀ k, state.tasks.contains (uuid k) = false)
    (h : Launched uuid now state (reached ext uuid live now state (dueServices state)))
    (id : String) :
    finishedExecutions (reached ext uuid live now state (dueServices state)).state id
      = finishedExecutions state id := by
  refine finishedExecutions_eq (finishedExecutions_sorted _ _) (finishedExecutions_nodup _ _) ?_
  intro entry
  rw [mem_finishedExecutions, mem_finishedExecutions]
  constructor
  · intro hent
    obtain ⟨task, htask, job, hjob, hser, hter, rfl⟩ := hent
    cases hold : state.tasks.contains task.id with
    | false =>
      rw [((h.tasks task htask).1 hold).1] at hter
      cases hter
    | true =>
      obtain ⟨old, hmem, hid⟩ := Table.contains_iff.mp hold
      have hset := settled_mem_launched ext live now hfre _ hmem
      cases Table.eq_of_key htask hset (hid.symm.trans (settled_id ..).symm)
      rw [settled_job] at hjob
      rw [settled_serviceId] at hser
      rw [settled_isJobTerminal] at hter
      exact ⟨old, hmem, job, hjob, hser, hter, by rw [settled_id]⟩
  · intro hent
    obtain ⟨old, hmem, job, hjob, hser, hter, rfl⟩ := hent
    refine ⟨_, settled_mem_launched ext live now hfre _ hmem, job, ?_, ?_, ?_, ?_⟩
    · rw [settled_job, hjob]
    · rw [settled_serviceId, hser]
    · rw [settled_isJobTerminal, hter]
    · rw [settled_id]

end Jobs

open Jobs

/-- **Start windows and retention of one call.** The ids it has drawn name tasks;
a task that is not in `state` is an execution with a proper start window; per
service the last twenty finished executions stay; an unfinished one stays with
its job; and no sum of the loop leaves `i64`. -/
theorem jobs_windows_and_retention (ext : Externals) (uuid : Nat → String) (live : Keys String)
    (now : Int) (state : ClusterState) (htimely : Timely ext now)
    (haccepted : GraceAccepted state) (hfresh : ∀ k, state.tasks.contains (uuid k) = false) :
    let result := Jobs.reconcile ext uuid live now { state }
    (∀ k < result.minted, result.state.tasks.contains (uuid k) = true) ∧
    (∀ task ∈ result.state.tasks, state.tasks.contains task.id = false →
      ∃ job, task.job = some job ∧ now ≤ job.notBeforeUnixMs ∧
        job.notBeforeUnixMs < job.startDeadlineUnixMs) ∧
    (∀ service ∈ result.state.services,
      finishedExecutions result.state service.id = latest (finishedExecutions state service.id) ∧
      (finishedExecutions result.state service.id).length ≤ 20) ∧
    (∀ task ∈ state.tasks, task.job.isSome → task.observed.isJobTerminal = false →
      ∃ task' ∈ result.state.tasks, task'.id = task.id ∧ task'.job = task.job ∧
        task'.observed.isJobTerminal = false) ∧
    (∀ services, services <+: dueServices state →
      ∀ task ∈ (reached ext uuid live now state services).state.tasks, ∀ job ∈ task.job,
        asI64 (min (job.spec.stopGracePeriodSeconds * 1000) 18446744073709551615) + 5000
          = job.spec.stopGracePeriodSeconds * 1000 + 5000 ∧
        (job.spec.stopGracePeriodSeconds : Int) * 1000 + 5000 ≤ 9223372036854775807) := by
  intro result
  have hall : Launched uuid now state (reached ext uuid live now state (dueServices state)) :=
    launched_reached htimely haccepted List.prefix_rfl
  have hold := settled_mem_launched ext live now hfresh
  have hfin := finishedExecutions_launched ext live now hfresh hall
  -- from here on only these facts about the launched state are used
  have hres : result = ((reached ext uuid live now state (dueServices state)).state.services.rows.map
    ServiceRecord.id).foldl pruneFinished (reached ext uuid live now state (dueServices state)) := rfl
  clear_value result
  generalize reached ext uuid live now state (dueServices state) = launched at *
  subst hres
  obtain ⟨hser, hmin⟩ := pruneAll_rest (launched.state.services.rows.map ServiceRecord.id) launched
  refine ⟨fun k hk => ?_, fun task htask hnew => ?_, fun service hmem => ?_,
    fun task htask _ hunf => ?_, fun services hpre task htask job hjob => ?_⟩
  · rw [hmin] at hk
    obtain ⟨task, htask, hid⟩ := Table.contains_iff.mp (hall.drawn k hk)
    have hnew := (hall.tasks task htask).1 (hid ▸ hfresh k)
    exact Table.contains_iff.mpr ⟨task, pruneAll_keeps htask (by rw [hnew.1]; rfl) _, hid⟩
  · exact ((hall.tasks task (pruneAll_subset _ htask)).1 hnew).2
  · rw [hser] at hmem
    rw [pruneAll_finished service.id launched (Table.keys_nodup _),
      if_pos (List.mem_map_of_mem hmem), hfin]
    refine ⟨rfl, ?_⟩
    rw [latest, List.length_drop]
    omega
  · refine ⟨_, pruneAll_keeps (hold task htask) ?_ _, settled_id .., settled_job .., ?_⟩ <;>
      rw [settled_isJobTerminal, hunf]
  · exact grace_exact (((launched_reached htimely haccepted hpre).tasks task htask).2 job hjob)

section Example

/-- A job that is due at time 0, with an execution under way. -/
def dueState : ClusterState :=
  let job : JobSpec :=
    { schedule := some "@hourly", timeZone := "UTC", suspend := false, timeoutSeconds := none }
  let cursor : JobCursor := ⟨none, "@hourly", "UTC", 0⟩
  let spec : ServiceSpec := { image := "one", job := some job }
  { services := Table.ofList [{ surplusService with spec, jobCursor := some cursor }]
    nodes := Table.ofList [{ id := "n1", address := "10.0.0.1" }]
    tasks := Table.ofList
      [{ surplusTask "a" .healthy with job := some ⟨none, "shop.web", -3600000, -3600000, 0, spec⟩ }] }

/-- Occurrences come every hour. -/
def hourly : Externals := ⟨fun spec => spec.image, fun _ time => some (time + 3600000)⟩

/-- The job gets a second execution, which has a proper window, and keeps the first. -/
theorem dueState_windows : ∃ task ∈
    (Jobs.reconcile hourly unaryId (Keys.ofElems ["n1"]) 0 { state := dueState }).state.tasks,
    task.id = unaryId 0 ∧ ∃ job, task.job = some job ∧ 0 ≤ job.notBeforeUnixMs ∧
      job.notBeforeUnixMs < job.startDeadlineUnixMs := by
  have htimely : Jobs.Timely hourly 0 := by
    refine ⟨by decide, fun job next h => ?_⟩
    cases h
    decide
  have haccepted : Jobs.GraceAccepted dueState := ⟨by decide +kernel, by decide +kernel⟩
  have hfresh : Fresh unaryId { state := dueState } := fresh_unaryId (by decide +kernel)
  obtain ⟨hdrawn, hwindow, _⟩ := jobs_windows_and_retention hourly unaryId
    (Keys.ofElems ["n1"]) 0 dueState htimely haccepted fun k => hfresh k (Nat.zero_le k)
  obtain ⟨task, htask, hid⟩ := Table.contains_iff.mp (hdrawn 0 (by decide +kernel))
  exact ⟨task, htask, hid, hwindow task htask (hid ▸ hfresh 0 (Nat.zero_le 0))⟩

end Example

end Swarmlite
