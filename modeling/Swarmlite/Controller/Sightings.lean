import Swarmlite.Controller.Inventory
import Swarmlite.Controller.Steps

/-!
# Sightings of containers

What a task record says about its container — which container, which image, whether it is
healthy — is written by the inventory of a heartbeat and by nothing else. All other code may
only take it back: a failed result, a completed restart or a lost node show the task as not
healthy, a new task has no image yet, and a stored task has none.

`Unsighted` states this for two states, and the lemmas here say that the scheduler and the
requests are of this kind.
-/

namespace Swarmlite

open Ordered Relation Loop

variable {s s' : ClusterState} {live : Keys String}

/-- The record is seen as it was before, or worse. -/
structure SameSight (task task' : TaskRecord) : Prop where
  id : task'.id = task.id
  job : task'.job.isSome = task.job.isSome
  image : task'.imageId = task.imageId
  container : task'.containerId = task.containerId
  healthy : task'.observed = .healthy → task.observed = .healthy

namespace SameSight

variable {task task' task'' : TaskRecord}

theorem refl (task : TaskRecord) : SameSight task task := ⟨rfl, rfl, rfl, rfl, fun h => h⟩

theorem trans (h : SameSight task task') (h' : SameSight task' task'') : SameSight task task'' :=
  ⟨h'.id.trans h.id, h'.job.trans h.job, h'.image.trans h.image, h'.container.trans h.container,
    fun healthy => h.healthy (h'.healthy healthy)⟩

end SameSight

/-- No container is sighted: every task with an image was there before. -/
def Unsighted (s s' : ClusterState) : Prop :=
  ∀ task' ∈ s'.tasks, task'.imageId = none ∨ ∃ task ∈ s.tasks, SameSight task task'

namespace Unsighted

variable {s s' s'' : ClusterState} {f : TaskRecord → TaskRecord}

theorem of_tasks (h : s'.tasks = s.tasks) : Unsighted s s' := by
  intro task htask
  rw [h] at htask
  exact .inr ⟨task, htask, SameSight.refl task⟩

theorem refl (s : ClusterState) : Unsighted s s := of_tasks rfl

theorem trans (h : Unsighted s s') (h' : Unsighted s' s'') : Unsighted s s'' := by
  intro task'' htask''
  rcases h' task'' htask'' with hnone | ⟨task', htask', hsame'⟩
  · exact .inl hnone
  · rcases h task' htask' with hnone | ⟨task, htask, hsame⟩
    · exact .inl (hsame'.image.trans hnone)
    · exact .inr ⟨task, htask, hsame.trans hsame'⟩

/-- Every task is rewritten in other respects. -/
theorem map (hf : ∀ task, (f task).id = task.id)
    (hsame : ∀ task ∈ s.tasks, SameSight task (f task)) :
    Unsighted s (s.withTasks (s.tasks.map f hf)) := by
  intro task' htask'
  obtain ⟨task, htask, rfl⟩ := Table.exists_of_mem_map hf htask'
  exact .inr ⟨task, htask, hsame task htask⟩

theorem modify {id : String} (hf : ∀ task, (f task).id = task.id)
    (hsame : ∀ task, SameSight task (f task)) :
    Unsighted s (s.withTasks (s.tasks.modify id f hf)) := by
  intro task' htask'
  rw [ClusterState.withTasks_tasks, Table.mem_modify] at htask'
  rcases htask' with ⟨hold, -⟩ | ⟨task, htask, -, rfl⟩
  · exact .inr ⟨task', hold, SameSight.refl task'⟩
  · exact .inr ⟨task, htask, hsame task⟩

/-- A new task has no image yet. -/
theorem insert {task : TaskRecord} (hima : task.imageId = none) :
    Unsighted s (s.withTasks (s.tasks.insert task)) := by
  intro task' htask'
  rcases Table.mem_insert.mp htask' with rfl | ⟨hold, -⟩
  · exact .inl hima
  · exact .inr ⟨task', hold, SameSight.refl task'⟩

theorem erase (id : String) : Unsighted s (s.withTasks (s.tasks.erase id)) := by
  intro task' htask'
  rw [ClusterState.withTasks_tasks, Table.mem_erase] at htask'
  exact .inr ⟨task', htask'.1, SameSight.refl task'⟩

end Unsighted

/-! ## The scheduler -/

theorem scheduleTask_imageId {svc : ServiceRecord}
    {freshId : String} {task : TaskRecord} (h : scheduleTask s svc live freshId = some task) :
    task.imageId = none := by
  obtain ⟨node, slot, -, -, -, -, rfl⟩ := scheduleTask_some h
  rfl

theorem giveUp_sameSight (s : ClusterState) (live : Keys String) (task : TaskRecord) :
    SameSight task (giveUp s live task) := by
  unfold giveUp
  split
  · refine ⟨rfl, rfl, rfl, rfl, fun healthy => ?_⟩
    dsimp only at healthy
    split at healthy
    · exact healthy
    · cases healthy
  · exact SameSight.refl task

theorem retireIf_sameSight (routed : Bool) (ids : List String) (task : TaskRecord) :
    SameSight task (retireIf routed ids task) := by
  unfold retireIf retireRecord
  split
  · split <;> exact ⟨rfl, rfl, rfl, rfl, fun h => h⟩
  · exact SameSight.refl task

theorem JobTouched.sameSight {task task' : TaskRecord}
    (h : JobTouched live task task') : SameSight task task' := by
  rw [h.eq]
  refine ⟨rfl, rfl, rfl, rfl, fun healthy => ?_⟩
  rcases h.observed with hsame | ⟨hunk, -⟩
  · exact hsame.symm.trans healthy
  · exact absurd (hunk.symm.trans healthy) (by decide)

theorem Move.unsighted (h : Move live s s') : Unsighted s s' := by
  cases h with
  | giveUp => exact Unsighted.map _ fun task _ => giveUp_sameSight s live task
  | jobs h =>
    cases h with
    | touch f hf htou => exact Unsighted.map hf fun task htask => (htou task htask).sameSight
    | execution svc freshId task execution _ _ _ _ hsch =>
      have hima := scheduleTask_imageId hsch
      exact Unsighted.insert hima
    | forget id => exact Unsighted.erase id
    | cursor => exact Unsighted.of_tasks rfl
  | service svc h =>
    cases h with
    | retire ids => exact Unsighted.map _ fun task _ => retireIf_sameSight _ ids task
    | replica freshId task _ _ _ _ hsch => exact Unsighted.insert (scheduleTask_imageId hsch)

theorem Moves.unsighted (h : Moves live s s') : Unsighted s s' := by
  induction h with
  | refl => exact Unsighted.refl s
  | tail _ hmove ih => exact ih.trans hmove.unsighted

theorem finishDrains_unsighted (s : ClusterState) (now : Int) :
    Unsighted s (finishDrains s now).1 := by
  refine Unsighted.map _ fun task _ => ?_
  unfold finishDrain
  split
  · exact ⟨rfl, rfl, rfl, rfl, fun h => h⟩
  · exact SameSight.refl task

theorem setDrainDeadline_sameSight (deadline : Int) (task : TaskRecord) :
    SameSight task (setDrainDeadline deadline task) := by
  unfold setDrainDeadline
  split
  · exact ⟨rfl, rfl, rfl, rfl, fun h => h⟩
  · exact SameSight.refl task

/-! ## Requests -/

theorem Adopts.unsighted {stackName : String} (h : Adopts stackName s s') : Unsighted s s' := by
  cases h with
  | intro svc candidate =>
    intro task' htask'
    rcases Table.mem_insert.mp htask' with rfl | ⟨hold, -⟩
    · exact .inl rfl
    · exact .inr ⟨task', hold, SameSight.refl task'⟩

theorem adopts_unsighted {stackName : String}
    (h : ReflTransGen (Adopts stackName) s s') : Unsighted s s' := by
  induction h with
  | refl => exact Unsighted.refl s
  | tail _ hstep ih => exact ih.trans hstep.unsighted

/-! ## Phases of a heartbeat -/

theorem recordResult_sameSight (report : TaskReconcileReport) (task : TaskRecord) :
    SameSight task (task.recordResult report) := by
  refine ⟨rfl, rfl, rfl, rfl, fun healthy => ?_⟩
  unfold TaskRecord.recordResult at healthy
  dsimp only at healthy
  split at healthy
  · cases healthy
  · exact healthy

end Swarmlite
