import Swarmlite.Controller.Courses
import Swarmlite.Controller.Windows
import Swarmlite.Lib.Versions

/-!
# What lasts

Records refer to each other by id, and clients keep ids and generations over restarts of the
controller. Three things can be relied on.

* In every state the controller ever has, a task belongs to a service of its kind, and a service
  to a stack, under the id made of their names (`references_resolve`).
* A service record is never lost or renamed, and its revision never goes back
  (`services_continue`). The state in use and the stored one keep this each by itself, so a
  restart, which goes from one to the other, keeps it too.
* The generation of the stored document identifies it (`documents_numbered`).
-/

namespace Swarmlite

open Ordered Relation

variable {platform : Platform} {first world world' : World}

/-- **References resolve**, also in the middle of an event. -/
theorem references_resolve {s : ClusterState} (h : Visited platform s) :
    ∀ task ∈ s.tasks, ∃ service ∈ s.services, service.id = task.serviceId ∧
      service.spec.job.isSome = task.job.isSome ∧
      service.id = serviceId service.stack service.name ∧
      s.stackRecords.contains service.stack = true := by
  intro task htask
  obtain ⟨service, hser, hid, hkind⟩ := h.slotsSound.kinds task htask
  exact ⟨service, hser, hid, hkind, h.filed.named service hser, h.filed.filed service hser⟩

/-- Three tasks of one service. -/
theorem references_resolve_halfFailed :
    (sampleWorld.perform samplePlatform halfFailed).state.tasks.rows.length = 3 ∧
      ∀ task ∈ (sampleWorld.perform samplePlatform halfFailed).state.tasks,
        ∃ service ∈ (sampleWorld.perform samplePlatform halfFailed).state.services,
          service.id = task.serviceId := by
  refine ⟨by decide +kernel, fun task htask => ?_⟩
  obtain ⟨service, hser, hid, -⟩ := references_resolve
    (.world (halfFailed_run.reachable sampleWorld_started.reachable)) task htask
  exact ⟨service, hser, hid⟩

/-- **Services continue**, whatever happens and over any number of restarts. -/
theorem services_continue (hfirst : Started platform first)
    (hbefore : UnexhaustedRun platform first world)
    (hrun : Runs platform (fun _ _ _ => True) world world') {service : ServiceRecord}
    (hservice : service ∈ world.state.services) :
    ∃ service' ∈ world'.state.services, Continues service service' := by
  let kept (s : ClusterState) : Prop := ∃ service' ∈ s.services, Continues service service'
  have hdisk : world.server.disk.state.services = world.state.services := by
    rw [(hbefore.stored hfirst).state]
    rfl
  refine (hrun.keeps (Q := fun world => kept world.state ∧ kept world.server.disk.state)
    (fun {world env event} hfre _ h => step_keeps (fun _ hs => hs) ?_ hfre (fun hres => ?_) h)
    ⟨⟨service, hservice, .refl service⟩, service, hdisk ▸ hservice, .refl service⟩).1
  · intro config env s gen hs
    obtain ⟨old, hold, hcont⟩ := hs
    exact ⟨_, Table.mem_map_of_mem (Jobs.skipMissedService_id _ _) hold,
      hcont.trans (skipMissedService_continues _ _ old)⟩
  · refine keeps_of_step (P := kept) (fun s s' hedit hs => ?_)
      (step_effect platform hfre hres).edits h.1
    obtain ⟨old, hold, hcont⟩ := hs
    obtain ⟨new, hnew, hcont'⟩ := hedit.servicesContinue.kept old hold
    exact ⟨new, hnew, hcont.trans hcont'⟩

/-- The service of a stack is there after a restart. -/
theorem services_continue_restarted :
    ∃ service' ∈ ((sampleWorld.perform samplePlatform halfFailed).step samplePlatform
      (sampleEnv "e") (.restart sampleConfig)).state.services, service'.id = "shop.web" := by
  have hfre : FreshIds (sampleEnv "e") (sampleWorld.perform samplePlatform halfFailed) :=
    freshIds_of_tagFree (by decide +kernel)
  have hser : ((sampleWorld.perform samplePlatform halfFailed).state.services.get?
      "shop.web").isSome = true := by decide +kernel
  obtain ⟨service, hget⟩ := Option.isSome_iff_exists.mp hser
  obtain ⟨service', hmem, hcont⟩ := services_continue sampleWorld_started halfFailed_run
    (.single ⟨_, _, hfre, trivial, rfl⟩) (Table.mem_of_get? hget)
  exact ⟨service', hmem, hcont.id.trans (Table.key_of_get? hget)⟩

/-- **Documents are numbered**: between two moments of a run the stored document stays, or is
replaced by one of a later generation. -/
theorem documents_numbered (hfirst : Started platform first)
    (hbefore : UnexhaustedRun platform first world) (hrun : UnexhaustedRun platform world world') :
    Versions.Follows VersionedState.generation world.server.disk world'.server.disk := by
  refine (hrun.keeps (Q := fun now => Stored False now.config now.server ∧
    Versions.Follows VersionedState.generation world.server.disk now.server.disk)
    (fun {now env event} hfre hune h => ?_) ⟨hbefore.stored hfirst, .refl _⟩).2
  have hdur : False → Durable platform env now event := False.elim
  have hwri := step_writes h.1 hfre hune hdur
  refine ⟨hwri.stored, h.2.trans ?_⟩
  rcases hwri.disk with hsame | hlt
  · exact .inr hsame.symm
  · exact .inl hlt

/-- Applying a stack makes a new document. -/
theorem documents_numbered_halfFailed :
    sampleWorld.server.disk.generation
      < (sampleWorld.perform samplePlatform halfFailed).server.disk.generation := by
  refine (documents_numbered sampleWorld_started .refl halfFailed_run).resolve_right fun heq => ?_
  exact absurd (congrArg VersionedState.generation heq) (by decide +kernel)

end Swarmlite
