import Swarmlite.Controller.Moves
import Swarmlite.Controller.Stacks

/-!
# Adopting containers — `controller/recovery.rs`

After the loss of its database the controller meets containers it has no task
for. An apply that brings their service back restores the revision the
containers carry and adopts one container per free slot.

Adoption and `schedule_task` use different notions of a taken slot: here every
task of the service that is not stopped counts, whatever its revision.
`adoptUnclaimedTasks_adopts` reduces the loops to a sequence of single
adoptions (`Adopts`), which is all later proofs look at.
-/

namespace Swarmlite

open Ordered Relation

variable {svc : ServiceRecord} {stackName : String} {ids : List String}

def recoveryTaskPriority : ObservedTaskState → Nat
  | .healthy => 5
  | .running => 4
  | .starting => 3
  | .pending => 2
  | .failed => 1
  | .lost | .unknown | .succeeded | .timedOut | .cancelled => 0

/-- The container was started for this service with the same spec, and has the
ports the routes need. -/
def recoveryCandidateMatches (task : UnclaimedTask) (service : ServiceRecord) (specHash : String)
    (routedPorts : Keys Nat) : Bool :=
  task.stack = service.stack && task.service = service.name && task.specHash = specHash
    && task.slot < service.spec.replicas
    && routedPorts.rows.all fun target =>
      task.ports.any fun port => port.target = target && port.protocol = "tcp"

/-! ## Revisions -/

/-- The newest revision among the matching containers; zero and the largest
`u64` are no usable revisions. -/
def recoveredRevision (ext : Externals) (state : ClusterState) (service : ServiceRecord) :
    Option Nat :=
  ((state.unclaimedTasks.rows.filter fun task =>
      recoveryCandidateMatches task service (ext.specHash service.spec) (servicePorts state service)
        && task.revision > 0 && task.revision < 18446744073709551615).map
    UnclaimedTask.revision).max?

def ServiceRecord.withRevision (revision : Nat) (service : ServiceRecord) : ServiceRecord :=
  { service with revision }

theorem ServiceRecord.withRevision_id (revision : Nat) (svc : ServiceRecord) :
    (svc.withRevision revision).id = svc.id := rfl

def restoreServiceRevision (ext : Externals) (state : ClusterState) (serviceId : String) :
    ClusterState :=
  match (state.services.get? serviceId).filter fun service => service.spec.job.isNone with
  | none => state
  | some service =>
    match recoveredRevision ext state service with
    | none => state
    | some revision =>
      { state with
        services := state.services.modify serviceId (ServiceRecord.withRevision revision)
          (ServiceRecord.withRevision_id revision) }

def restoreUnclaimedServiceRevisions (ext : Externals) (state : ClusterState)
    (newServiceIds : List String) : ClusterState :=
  newServiceIds.foldl (restoreServiceRevision ext) state

/-! ## Adoption -/

/-- Slot order; on a slot the healthier, then the newer container first. -/
def adoptedBefore (left right : UnclaimedTask) : Prop :=
  left.slot < right.slot ∨ left.slot = right.slot ∧
    (recoveryTaskPriority right.observed < recoveryTaskPriority left.observed ∨
      recoveryTaskPriority right.observed = recoveryTaskPriority left.observed ∧
        (right.revision < left.revision ∨
          right.revision = left.revision ∧ left.id ≤ right.id))

instance (left right : UnclaimedTask) : Decidable (adoptedBefore left right) := by
  unfold adoptedBefore
  infer_instance

def adoptionCandidates (ext : Externals) (state : ClusterState) (service : ServiceRecord) :
    List UnclaimedTask :=
  (state.unclaimedTasks.rows.filter fun task =>
      recoveryCandidateMatches task service (ext.specHash service.spec) (servicePorts state service)
        && task.revision = service.revision).insertionSort adoptedBefore

/-- The slots adoption leaves alone. -/
def occupiedSlots (state : ClusterState) (service : ServiceRecord) : List Nat :=
  (state.tasks.rows.filter fun task =>
    task.serviceId = service.id && task.desired != .stopped).map TaskRecord.slot

def adoptedTask (service : ServiceRecord) (candidate : UnclaimedTask) : TaskRecord :=
  { id := candidate.id
    serviceId := service.id
    revision := service.revision
    slot := candidate.slot
    nodeId := candidate.nodeId
    desired := .running
    observed := candidate.observed
    ports := candidate.ports
    configDigests := candidate.configDigests
    containerId := candidate.containerId }

/-- The state with a container turned into a task. -/
def adopt (state : ClusterState) (service : ServiceRecord) (candidate : UnclaimedTask) :
    ClusterState :=
  { state with
    tasks := state.tasks.insert (adoptedTask service candidate)
    unclaimedTasks := state.unclaimedTasks.erase candidate.id }

/-- One candidate of the inner loop, with the slots taken so far. -/
def adoptCandidate (service : ServiceRecord) (acc : ClusterState × List Nat)
    (candidate : UnclaimedTask) : ClusterState × List Nat :=
  if acc.2.contains candidate.slot || acc.1.tasks.contains candidate.id then acc
  else (adopt acc.1 service candidate, candidate.slot :: acc.2)

def adoptService (ext : Externals) (state : ClusterState) (service : ServiceRecord) :
    ClusterState :=
  ((adoptionCandidates ext state service).foldl (adoptCandidate service)
    (state, occupiedSlots state service)).1

def adoptUnclaimedTasks (ext : Externals) (state : ClusterState) (stackName : String) :
    ClusterState :=
  (state.services.rows.filter fun service =>
    service.stack = stackName && !service.deleted && service.spec.job.isNone).foldl
      (adoptService ext) state

/-! ## Restored revisions -/

/-- Only revisions of the listed services change. -/
structure RevisionsRestored (ids : List String) (s s' : ClusterState) : Prop where
  rest : s' = { s with services := s'.services }
  /-- Every record comes from one that differs in its revision at most. -/
  mem : ∀ service ∈ s'.services, ∃ old ∈ s.services,
    service = old.withRevision service.revision ∧
      (service.id ∈ ids ∧ 0 < service.revision ∨ service = old)
  kept : ∀ old ∈ s.services, ∃ service ∈ s'.services,
    service = old.withRevision service.revision ∧
      (service.id ∈ ids ∧ 0 < service.revision ∨ service = old)

theorem RevisionsRestored.refl (ids : List String) (s : ClusterState) : RevisionsRestored ids s s :=
  ⟨rfl, fun svc hmem => ⟨svc, hmem, rfl, .inr rfl⟩, fun old hold => ⟨old, hold, rfl, .inr rfl⟩⟩

/-- Two changes of a revision are one. -/
theorem withRevision_trans {a b c : ServiceRecord}
    (h : b = a.withRevision b.revision ∧ (b.id ∈ ids ∧ 0 < b.revision ∨ b = a))
    (h' : c = b.withRevision c.revision ∧ (c.id ∈ ids ∧ 0 < c.revision ∨ c = b)) :
    c = a.withRevision c.revision ∧ (c.id ∈ ids ∧ 0 < c.revision ∨ c = a) := by
  refine ⟨?_, ?_⟩
  · rw [h'.1, h.1]
    rfl
  · rcases h'.2 with hid | rfl
    · exact .inl hid
    · exact h.2

theorem RevisionsRestored.trans {a b c : ClusterState}
    (h : RevisionsRestored ids a b) (h' : RevisionsRestored ids b c) :
    RevisionsRestored ids a c := by
  refine ⟨?_, ?_, ?_⟩
  · rw [h'.rest, h.rest]
  · intro svc hmem
    obtain ⟨mid, hmid, hser⟩ := h'.mem svc hmem
    obtain ⟨old, hold, hmidE⟩ := h.mem mid hmid
    exact ⟨old, hold, withRevision_trans hmidE hser⟩
  · intro old hold
    obtain ⟨mid, hmid, hmidE⟩ := h.kept old hold
    obtain ⟨svc, hmem, hser⟩ := h'.kept mid hmid
    exact ⟨svc, hmem, withRevision_trans hmidE hser⟩

theorem recoveredRevision_pos {ext : Externals} {state : ClusterState}
    {revision : Nat} (h : recoveredRevision ext state svc = some revision) : 0 < revision := by
  unfold recoveredRevision at h
  obtain ⟨task, htask, rfl⟩ := List.mem_map.mp (List.max?_mem h)
  have hmat := (List.mem_filter.mp htask).2
  simp only [Bool.and_eq_true, decide_eq_true_eq] at hmat
  exact hmat.1.2

variable (ext : Externals) (s : ClusterState)

theorem restoreServiceRevision_restored {serviceId : String} (hid : serviceId ∈ ids) :
    RevisionsRestored ids s (restoreServiceRevision ext s serviceId) := by
  unfold restoreServiceRevision
  split
  · exact RevisionsRestored.refl ids s
  split
  · exact RevisionsRestored.refl ids s
  next revision hrec =>
    have hpos := recoveredRevision_pos hrec
    refine ⟨rfl, ?_, ?_⟩
    · intro svc hmem
      dsimp only at hmem
      rw [Table.mem_modify] at hmem
      rcases hmem with ⟨hmem, _⟩ | ⟨old, hold, hkey, rfl⟩
      · exact ⟨svc, hmem, rfl, .inr rfl⟩
      · refine ⟨old, hold, rfl, .inl ⟨?_, hpos⟩⟩
        rw [ServiceRecord.withRevision_id, hkey]
        exact hid
    · intro old hold
      dsimp only
      by_cases hkey : old.id = serviceId
      · refine ⟨old.withRevision revision, ?_, rfl, .inl ⟨hkey ▸ hid, hpos⟩⟩
        rw [Table.mem_modify]
        exact .inr ⟨old, hold, hkey, rfl⟩
      · refine ⟨old, ?_, rfl, .inr rfl⟩
        rw [Table.mem_modify]
        exact .inl ⟨hold, hkey⟩

/-- **Restoring revisions touches the revisions of the new services only.** -/
theorem restoreUnclaimedServiceRevisions_restored (ids : List String) :
    RevisionsRestored ids s (restoreUnclaimedServiceRevisions ext s ids) := by
  unfold restoreUnclaimedServiceRevisions
  suffices h : ∀ (l : List String) (state : ClusterState), (∀ id ∈ l, id ∈ ids) →
      RevisionsRestored ids state (l.foldl (restoreServiceRevision ext) state) from
    h ids s fun _ hid => hid
  intro l
  induction l with
  | nil => exact fun state _ => RevisionsRestored.refl ids state
  | cons id l ih =>
    intro state hall
    exact (restoreServiceRevision_restored ext state (hall id (List.mem_cons_self ..))).trans
      (ih _ fun other hoth => hall other (List.mem_cons_of_mem _ hoth))

/-! ## Adoptions -/

/-- One container of the stack becomes a task of a service that runs no task in
its slot. -/
inductive Adopts (stackName : String) : ClusterState → ClusterState → Prop
  | intro (s : ClusterState) (service : ServiceRecord) (candidate : UnclaimedTask)
      (hservice : service ∈ s.services) (hstack : service.stack = stackName)
      (hactive : service.deleted = false) (hjob : service.spec.job = none)
      (hmatch : candidate.stack = stackName ∧ candidate.service = service.name ∧
        candidate.revision = service.revision ∧ candidate.slot < service.spec.replicas)
      (hcandidate : candidate ∈ s.unclaimedTasks)
      (hfree : ∀ task ∈ s.tasks, task.serviceId = service.id → task.desired ≠ .stopped →
        task.slot ≠ candidate.slot)
      (hnew : s.tasks.contains candidate.id = false) :
      Adopts stackName s (adopt s service candidate)

theorem mem_adoptionCandidates {ext : Externals} {state : ClusterState}
    {candidate : UnclaimedTask} (h : candidate ∈ adoptionCandidates ext state svc) :
    candidate ∈ state.unclaimedTasks ∧ candidate.stack = svc.stack ∧
      candidate.service = svc.name ∧ candidate.revision = svc.revision ∧
      candidate.slot < svc.spec.replicas := by
  unfold adoptionCandidates at h
  rw [List.mem_insertionSort, List.mem_filter] at h
  obtain ⟨hmem, hmat⟩ := h
  unfold recoveryCandidateMatches at hmat
  simp only [Bool.and_eq_true, decide_eq_true_eq] at hmat
  obtain ⟨⟨⟨⟨⟨hsta, hname⟩, -⟩, hslot⟩, -⟩, hrev⟩ := hmat
  exact ⟨hmem, hsta, hname, hrev, hslot⟩

/-- The loop over the candidates. Its invariant: the taken slots include those of
all tasks of the service that are not stopped, and a remaining candidate is still
an unclaimed container. -/
theorem foldl_adoptCandidate_adopts (hsta : svc.stack = stackName) (hact : svc.deleted = false)
    (hjob : svc.spec.job = none) :
    ∀ (l : List UnclaimedTask) (acc : ClusterState × List Nat), svc ∈ acc.1.services →
      (∀ task ∈ acc.1.tasks, task.serviceId = svc.id → task.desired ≠ .stopped →
        task.slot ∈ acc.2) →
      (∀ candidate ∈ l, candidate ∈ acc.1.unclaimedTasks ∨
        acc.1.tasks.contains candidate.id = true) →
      (∀ candidate ∈ l, candidate.stack = stackName ∧ candidate.service = svc.name ∧
        candidate.revision = svc.revision ∧ candidate.slot < svc.spec.replicas) →
      ReflTransGen (Adopts stackName) acc.1 (l.foldl (adoptCandidate svc) acc).1
  | [], acc, _, _, _, _ => .refl
  | candidate :: l, acc, hser, hslots, hmem, hmatch => by
    rw [List.foldl_cons]
    have hmatR := fun other hoth => hmatch other (List.mem_cons_of_mem candidate hoth)
    have hmemR := fun other hoth => hmem other (List.mem_cons_of_mem candidate hoth)
    by_cases hskip : (acc.2.contains candidate.slot || acc.1.tasks.contains candidate.id) = true
    · rw [show adoptCandidate svc acc candidate = acc from if_pos hskip]
      exact foldl_adoptCandidate_adopts hsta hact hjob l acc hser hslots hmemR hmatR
    · rw [show adoptCandidate svc acc candidate
        = (adopt acc.1 svc candidate, candidate.slot :: acc.2) from if_neg hskip]
      simp only [Bool.or_eq_true, not_or, Bool.not_eq_true] at hskip
      obtain ⟨hslot, hnew⟩ := hskip
      have hunc : candidate ∈ acc.1.unclaimedTasks := by
        rcases hmem candidate (List.mem_cons_self ..) with h | h
        · exact h
        · rw [hnew] at h
          cases h
      have hfree : ∀ task ∈ acc.1.tasks, task.serviceId = svc.id →
          task.desired ≠ .stopped → task.slot ≠ candidate.slot := by
        intro task htask hsid hdes heq
        have htak := hslots task htask hsid hdes
        rw [heq] at htak
        simp [htak] at hslot
      refine ReflTransGen.head (Adopts.intro acc.1 svc candidate hser hsta hact hjob
        (hmatch candidate (List.mem_cons_self ..)) hunc hfree hnew) ?_
      refine foldl_adoptCandidate_adopts hsta hact hjob l
        (adopt acc.1 svc candidate, candidate.slot :: acc.2) hser ?_ ?_ hmatR
      · intro task htask hsid hdes
        rcases Table.mem_insert.mp htask with rfl | ⟨hold, -⟩
        · exact List.mem_cons_self ..
        · exact List.mem_cons_of_mem _ (hslots task hold hsid hdes)
      · intro other hoth
        by_cases hid : other.id = candidate.id
        · right
          show (acc.1.tasks.insert (adoptedTask svc candidate)).contains other.id = true
          rw [Table.contains_insert, hid]
          simp [adoptedTask]
        · rcases hmemR other hoth with h | h
          · exact .inl (Table.mem_erase.mpr ⟨h, hid⟩)
          · right
            show (acc.1.tasks.insert (adoptedTask svc candidate)).contains other.id = true
            rw [Table.contains_insert, h, Bool.or_true]

theorem adoptService_adopts {s : ClusterState} (hser : svc ∈ s.services)
    (hsta : svc.stack = stackName) (hact : svc.deleted = false)
    (hjob : svc.spec.job = none) :
    ReflTransGen (Adopts stackName) s (adoptService ext s svc) := by
  refine foldl_adoptCandidate_adopts hsta hact hjob _ (s, occupiedSlots s svc) hser ?_ ?_ ?_
  · intro task htask hsid hdes
    refine List.mem_map.mpr ⟨task, List.mem_filter.mpr ⟨htask, ?_⟩, rfl⟩
    simp [hsid, hdes]
  · exact fun candidate hcand => .inl (mem_adoptionCandidates hcand).1
  · intro candidate hcand
    obtain ⟨-, hcst, hname, hrev, hslot⟩ := mem_adoptionCandidates hcand
    exact ⟨hcst.trans hsta, hname, hrev, hslot⟩

/-- Adoption changes tasks and unclaimed containers, nothing else. -/
theorem adopts_rest {s s' : ClusterState} (h : ReflTransGen (Adopts stackName) s s') :
    s' = { s with tasks := s'.tasks, unclaimedTasks := s'.unclaimedTasks } := by
  induction h with
  | refl => rfl
  | tail _ hstep ih =>
    cases hstep
    rw [ih]
    rfl

/-- **Adopting the containers of a stack is a sequence of single adoptions.** -/
theorem adoptUnclaimedTasks_adopts (stackName : String) :
    ReflTransGen (Adopts stackName) s (adoptUnclaimedTasks ext s stackName) := by
  unfold adoptUnclaimedTasks
  suffices h : ∀ (l : List ServiceRecord) (state : ClusterState), state.services = s.services →
      (∀ svc ∈ l, svc ∈ s.services ∧ svc.stack = stackName ∧
        svc.deleted = false ∧ svc.spec.job = none) →
      ReflTransGen (Adopts stackName) state (l.foldl (adoptService ext) state) by
    refine h _ s rfl fun svc hser => ?_
    obtain ⟨hmem, hcond⟩ := List.mem_filter.mp hser
    simp only [Bool.and_eq_true, decide_eq_true_eq, Bool.not_eq_true', Option.isNone_iff_eq_none]
      at hcond
    exact ⟨hmem, hcond.1.1, hcond.1.2, hcond.2⟩
  intro l
  induction l with
  | nil => exact fun state _ _ => .refl
  | cons svc l ih =>
    intro state hserv hall
    obtain ⟨hmem, hsta, hact, hjob⟩ := hall svc (List.mem_cons_self ..)
    have hfir := adoptService_adopts ext (hserv ▸ hmem) hsta hact hjob
    refine hfir.trans (ih _ ?_ fun other hoth => hall other (List.mem_cons_of_mem _ hoth))
    rw [adopts_rest hfir]
    exact hserv

end Swarmlite
