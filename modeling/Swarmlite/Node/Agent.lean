import Swarmlite.Controller.Run
import Swarmlite.Node.Reconcile

/-!
# An agent over its whole life — `swarmlite-agent/src/lib.rs`

An agent sends heartbeats and hands the answers it accepts to its reconciliation loop.
The steps are those of the two loops, in any order, and the end of the process:

* `boot` — `run_with_runtime` reads the fence from the disk;
* `receive` — an answer arrives. One below the fence is dropped. Otherwise the fence
  rises in memory and on the disk, credentials and job authorizations are stored, and
  the answer is put into the watch channel unless it asks for nothing new. If any of
  the three cannot be stored the answer is not handed over;
* `take` — the loop reads the channel, also while it prepares an older answer, which is
  then given up;
* `inspectFails`, `commit` — the inventory cannot be read, or the pass begins;
* `perform`, `finish` — the pass goes on by one operation, and ends;
* `crash` — the process ends, also in the middle of a pass.

A heartbeat without an answer is no step: it changes nothing. The answers handed to a
pass come from a controller (`FromController`), so that every assignment is of a task that
runs or drains.

`accepted`, `passes` and `latest` (the answer handed over last, put into the channel or
not) are kept for the statements. An answer is accepted once the
fence with its generation is on the disk; the disk holds a fence at least as high as
every accepted generation, and the memory one at least as high as the disk's
(`Agent.Fenced`), also after the process ended.

Mirroring notes:
- A write that fails may have reached the disk.
- The gateway's part of an answer, metrics and the pruning of images are left out, and
  the time limits of jobs, which have a loop of their own.
- The hash of the credentials is a function of the credentials.
-/

namespace Swarmlite

open Ordered Programs

/-! ## Which answers ask for the same -/

def normalizedTaskAssignments (response : HeartbeatResponse) : Map String TaskAssignment :=
  response.assignments.foldl (fun normalized assignment =>
    normalized.put assignment.id { assignment with generation := 0, imageResolved := false })
    Table.empty

def normalizedImageAssignments (response : HeartbeatResponse) : List ImageResolutionAssignment :=
  (response.imageAssignments.map fun assignment =>
    { assignment with
      services := (assignment.services.map fun service =>
        { service with taskIds := service.taskIds.mergeSort (· ≤ ·) }).mergeSort
          fun left right => decide (toLex (left.serviceId, left.taskIds)
            ≤ toLex (right.serviceId, right.taskIds)) }).mergeSort
    fun left right => decide (toLex (left.deploymentGeneration, left.image)
      ≤ toLex (right.deploymentGeneration, right.image))

def normalizedTaskRemovals (response : HeartbeatResponse) : List TaskRemovalAssignment :=
  response.removeTasks.mergeSort fun left right =>
    decide (toLex (left.id, left.deploymentGeneration)
      ≤ toLex (right.id, right.deploymentGeneration))

def sameReconciliationInput (left right : HeartbeatResponse) : Bool :=
  normalizedTaskAssignments left = normalizedTaskAssignments right
    && normalizedImageAssignments left = normalizedImageAssignments right
    && normalizedTaskRemovals left = normalizedTaskRemovals right
    && left.registryCredentials = right.registryCredentials

/-! ## The agent -/

/-- A pass: what it works on and what it did, latest first. -/
structure AgentPass where
  response : HeartbeatResponse
  existing : Inventory
  acts : List RuntimeAct := []
  finished : Bool := false

/-- Where the reconciliation loop is. -/
inductive ReconcilePhase where
  | waiting
  | preparing (response : HeartbeatResponse)
  | committing (pass : AgentPass) (rest : RuntimeProg (List TaskReconcileReport))

structure AgentProcess where
  fence : Nat
  watch : Option HeartbeatResponse := none
  changed : Bool := false
  latest : Option HeartbeatResponse := none
  phase : ReconcilePhase := .waiting

structure Agent where
  fence : Option Nat := none
  process : Option AgentProcess := none
  accepted : List HeartbeatResponse := []
  passes : List AgentPass := []

/-- What the local storage does with one answer. -/
structure StoreOutcome where
  fenceStored : Bool
  fenceReached : Bool
  credentialsStored : Bool
  jobsAuthorized : Bool

/-- `assignments_tx.send_if_modified`. -/
def AgentProcess.publish (process : AgentProcess) (response : HeartbeatResponse) : AgentProcess :=
  if process.watch.any fun current => sameReconciliationInput current response then
    { process with latest := some response }
  else { process with watch := some response, changed := true, latest := some response }

def AgentProcess.raise (process : AgentProcess) (generation : Nat) : AgentProcess :=
  { process with fence := generation }

/-- An answer of the controller arrives. -/
def Agent.receive (agent : Agent) (process : AgentProcess) (response : HeartbeatResponse)
    (outcome : StoreOutcome) : Agent :=
  if response.generation < process.fence then agent
  else
    let raised := process.raise response.generation
    if !outcome.fenceStored then
      { agent with
        fence := if outcome.fenceReached then some response.generation else agent.fence
        process := some raised }
    else
      { agent with
        fence := some response.generation
        accepted := response :: agent.accepted
        process := some (if outcome.credentialsStored && outcome.jobsAuthorized
          then raised.publish response else raised) }

def AgentProcess.withPhase (process : AgentProcess) (phase : ReconcilePhase) : AgentProcess :=
  { process with phase }

def Agent.withPhase (agent : Agent) (process : AgentProcess) (phase : ReconcilePhase) : Agent :=
  { agent with process := some (process.withPhase phase) }

/-- The pass that is under way. -/
def ReconcilePhase.pass : ReconcilePhase → Option AgentPass
  | .committing pass _ => some pass
  | _ => none

/-- The process ends; a pass under way is cut off. -/
def Agent.crash (agent : Agent) (process : AgentProcess) : Agent :=
  { agent with process := none, passes := process.phase.pass.toList ++ agent.passes }

/-- All passes so far, the one under way included. -/
def Agent.allPasses (agent : Agent) : List AgentPass :=
  (agent.process.bind fun process => process.phase.pass).toList ++ agent.passes

/-- The answers of a controller. -/
def FromController (response : HeartbeatResponse) : Prop :=
  ∃ platform config env inner member heartbeat,
    response = heartbeatResponse platform config env inner member heartbeat

section Steps

variable (expand : ExpandEnvironment) (node : TemplateNode)

inductive AgentStep (agent : Agent) : Agent → Prop
  | boot (hdown : agent.process = none) :
      AgentStep agent { agent with process := some { fence := agent.fence.getD 0 } }
  | receive (process : AgentProcess) (hup : agent.process = some process)
      (response : HeartbeatResponse) (hanswer : FromController response) (outcome : StoreOutcome) :
      AgentStep agent (agent.receive process response outcome)
  | take (process : AgentProcess) (hup : agent.process = some process)
      (response : HeartbeatResponse) (hwatch : process.watch = some response)
      (hchanged : process.changed = true) (hidle : process.phase.pass = none) :
      AgentStep agent (agent.withPhase { process with changed := false } (.preparing response))
  | inspectFails (process : AgentProcess) (hup : agent.process = some process)
      (response : HeartbeatResponse) (hphase : process.phase = .preparing response) :
      AgentStep agent (agent.withPhase process .waiting)
  | commit (process : AgentProcess) (hup : agent.process = some process)
      (response : HeartbeatResponse) (hphase : process.phase = .preparing response)
      (existing : Inventory) (configErrors : Map String String)
      (removals : List TaskRemovalAssignment) (hremovals : removals.Perm response.removeTasks) :
      AgentStep agent (agent.withPhase process (.committing { response, existing }
        (reconcileContainers expand node existing configErrors removals response.assignments)))
  | perform (process : AgentProcess) (hup : agent.process = some process) (pass : AgentPass)
      (op : RuntimeOp) (next : op.Reply → RuntimeProg (List TaskReconcileReport))
      (hphase : process.phase = .committing pass (.call op next)) (reply : op.Reply) :
      AgentStep agent (agent.withPhase process
        (.committing { pass with acts := ⟨op, reply⟩ :: pass.acts } (next reply)))
  | finish (process : AgentProcess) (hup : agent.process = some process) (pass : AgentPass)
      (reports : List TaskReconcileReport)
      (hphase : process.phase = .committing pass (.done reports)) :
      AgentStep agent { agent.withPhase process .waiting with
        passes := { pass with finished := true } :: agent.passes }
  | crash (process : AgentProcess) (hup : agent.process = some process) :
      AgentStep agent (agent.crash process)

/-- The agents of a node, over any number of processes. -/
inductive AgentRun : Agent → Prop
  | new : AgentRun {}
  | step {agent agent' : Agent} (hrun : AgentRun agent)
      (hstep : AgentStep expand node agent agent') : AgentRun agent'

end Steps

/-! ## Answers of a controller -/

theorem FromController.desired {resp : HeartbeatResponse} (h : FromController resp) :
    ∀ asg ∈ resp.assignments, asg.desired = .running ∨ asg.desired = .draining := by
  obtain ⟨plat, cfg, env, inner, member, beat, rfl⟩ := h
  intro asg hass
  obtain ⟨task, htask, hassi⟩ := List.mem_filterMap.mp hass
  have hdes : task.desired = .running ∨ task.desired = .draining := by
    have hkept := (List.mem_filter.mp htask).2
    simp only [Bool.and_eq_true, Bool.or_eq_true, decide_eq_true_eq] at hkept
    exact hkept.2
  have hsame : asg.desired = task.desired := by
    unfold taskAssignment at hassi
    obtain ⟨svc, -, hassi⟩ := Option.bind_eq_some_iff.mp hassi
    dsimp only at hassi
    split at hassi
    · cases hassi
    split at hassi
    · cases hassi
    · cases hassi
      rfl
  rw [hsame]
  exact hdes

/-! ## What holds of an agent at any time -/

/-- The fences cover what was accepted. -/
structure Agent.Fenced (agent : Agent) : Prop where
  disk : ∀ response ∈ agent.accepted, response.generation ≤ agent.fence.getD 0
  memory : ∀ process, agent.process = some process → agent.fence.getD 0 ≤ process.fence
  ordered : agent.accepted.Pairwise fun later earlier => earlier.generation ≤ later.generation

/-- What the loop of a process works on was accepted. -/
structure AgentProcess.Grounded (accepted : List HeartbeatResponse) (process : AgentProcess) :
    Prop where
  watch : ∀ response, process.watch = some response → response ∈ accepted
  preparing : ∀ response, process.phase = .preparing response → response ∈ accepted
  current : ∀ response, process.watch = some response → ∃ latest, process.latest = some latest ∧
    sameReconciliationInput response latest = true
  committing : ∀ pass rest, process.phase = .committing pass rest → pass.finished = false ∧
    Behaves pass.response pass.existing pass.acts rest

/-- A pass is on an accepted answer, kept to what it may do, and did not end early. -/
structure AgentPass.Proper (accepted : List HeartbeatResponse) (pass : AgentPass) : Prop where
  accepted : pass.response ∈ accepted
  guarded : Guarded (Permitted pass.response pass.existing) pass.acts
  settled : pass.finished = true → NothingOwed pass.response pass.acts

structure Agent.Confined (agent : Agent) : Prop where
  fenced : agent.Fenced
  answered : ∀ response ∈ agent.accepted, FromController response
  process : ∀ process, agent.process = some process → process.Grounded agent.accepted
  passes : ∀ pass ∈ agent.allPasses, pass.Proper agent.accepted

theorem sameReconciliationInput_refl (resp : HeartbeatResponse) :
    sameReconciliationInput resp resp = true := by
  unfold sameReconciliationInput
  simp only [decide_true, Bool.and_self]

variable {accepted : List HeartbeatResponse} {process : AgentProcess} {agent : Agent}
  {reports : List TaskReconcileReport} {expand : ExpandEnvironment}

theorem AgentProcess.Grounded.publish (h : process.Grounded accepted) {resp : HeartbeatResponse}
    (hres : resp ∈ accepted) : (process.publish resp).Grounded accepted := by
  unfold AgentProcess.publish
  split
  next hsame =>
    refine ⟨h.watch, h.preparing, fun current hwat => ⟨resp, rfl, ?_⟩, h.committing⟩
    have hwat : process.watch = some current := hwat
    rw [hwat] at hsame
    exact hsame
  · refine ⟨fun current hwat => ?_, h.preparing, fun current hwat => ⟨resp, rfl, ?_⟩, h.committing⟩
    · cases hwat
      exact hres
    · cases hwat
      exact sameReconciliationInput_refl resp

theorem Agent.mem_allPasses (hup : agent.process = some process) {pass : AgentPass} :
    pass ∈ agent.allPasses ↔ process.phase.pass = some pass ∨ pass ∈ agent.passes := by
  unfold Agent.allPasses
  rw [hup, List.mem_append, Option.mem_toList]
  rfl

namespace Agent.Confined

variable {agent agent' : Agent} {process process' : AgentProcess}

/-- Steps that only move the loop. -/
theorem move (h : agent.Confined) (hup : agent.process = some process)
    (hup' : agent'.process = some process') (hdisk : agent'.fence = agent.fence)
    (hacc : agent'.accepted = agent.accepted) (hfen : process'.fence = process.fence)
    (hgro : process'.Grounded agent.accepted)
    (hpas : ∀ pass, process'.phase.pass = some pass ∨ pass ∈ agent'.passes →
      pass.Proper agent.accepted) : agent'.Confined where
  fenced := by
    refine ⟨?_, fun other heq => ?_, ?_⟩
    · rw [hacc, hdisk]
      exact h.fenced.disk
    · rw [hup'] at heq
      rw [← Option.some.inj heq, hfen, hdisk]
      exact h.fenced.memory process hup
    · rw [hacc]
      exact h.fenced.ordered
  answered := hacc ▸ h.answered
  process other heq := by
    rw [hup'] at heq
    rw [← Option.some.inj heq, hacc]
    exact hgro
  passes pass hmem := by
    rw [hacc]
    exact hpas pass ((Agent.mem_allPasses hup').mp hmem)

variable {pass : AgentPass} {response : HeartbeatResponse}

theorem past (h : agent.Confined) (hmem : pass ∈ agent.passes) : pass.Proper agent.accepted :=
  h.passes pass (List.mem_append_right _ hmem)

theorem boot (h : agent.Confined) :
    ({ agent with process := some { fence := agent.fence.getD 0 } } : Agent).Confined where
  fenced := ⟨h.fenced.disk, fun other heq => Option.some.inj heq ▸ Nat.le_refl _, h.fenced.ordered⟩
  answered := h.answered
  process other heq := by
    rw [← Option.some.inj heq]
    refine ⟨fun _ heq => ?_, fun _ heq => ?_, fun _ heq => ?_, fun _ _ heq => ?_⟩ <;> cases heq
  passes pass hmem := h.past hmem

/-- The answer counts from the moment the fence is on the disk. -/
theorem accept (h : agent.Confined) (hup : agent.process = some process)
    (hans : FromController response)
    (hfre : process.fence ≤ response.generation)
    (hfen : process'.fence = response.generation) (hpha : process'.phase = process.phase)
    (hgro : process'.Grounded (response :: agent.accepted)) : ({ agent with
        fence := some response.generation
        accepted := response :: agent.accepted
        process := some process' } : Agent).Confined where
  fenced := by
    have hbel : ∀ earlier ∈ agent.accepted, earlier.generation ≤ response.generation := by
      intro earlier hear
      calc earlier.generation ≤ agent.fence.getD 0 := h.fenced.disk earlier hear
        _ ≤ process.fence := h.fenced.memory process hup
        _ ≤ response.generation := hfre
    refine ⟨fun other hoth => ?_, fun other heq => ?_, List.pairwise_cons.mpr
      ⟨hbel, h.fenced.ordered⟩⟩
    · rcases List.mem_cons.mp hoth with rfl | hear
      · exact Nat.le_refl _
      · exact hbel other hear
    · rw [← Option.some.inj heq, hfen]
      exact Nat.le_refl _
  answered other hoth := by
    rcases List.mem_cons.mp hoth with rfl | hear
    · exact hans
    · exact h.answered other hear
  process other heq := by
    rw [← Option.some.inj heq]
    exact hgro
  passes pass hmem := by
    have hpro := h.passes pass <| by
      rw [Agent.mem_allPasses hup, ← hpha]
      exact (List.mem_append.mp hmem).imp_left Option.mem_toList.mp
    exact ⟨List.mem_cons_of_mem _ hpro.accepted, hpro.guarded, hpro.settled⟩

/-- The fence was not stored, though it may have reached the disk. -/
theorem refuse (h : agent.Confined) (hup : agent.process = some process) {gen : Nat}
    (hfre : process.fence ≤ gen) {fence : Option Nat}
    (hfen : fence = some gen ∨ fence = agent.fence) :
    ({ agent with fence, process := some (process.raise gen) } : Agent).Confined where
  fenced := by
    have hdisk : agent.fence.getD 0 ≤ gen := Nat.le_trans (h.fenced.memory process hup) hfre
    refine ⟨fun other hoth => ?_, fun other heq => ?_, h.fenced.ordered⟩
    · refine Nat.le_trans (h.fenced.disk other hoth) ?_
      rcases hfen with rfl | rfl
      · exact hdisk
      · exact Nat.le_refl _
    · rw [← Option.some.inj heq]
      rcases hfen with rfl | rfl
      · exact Nat.le_refl _
      · exact hdisk
  answered := h.answered
  process other heq := by
    rw [← Option.some.inj heq]
    have hgro := h.process process hup
    exact ⟨hgro.watch, hgro.preparing, hgro.current, hgro.committing⟩
  passes pass hmem := by
    refine h.passes pass ((Agent.mem_allPasses hup).mpr ?_)
    exact (List.mem_append.mp hmem).imp_left Option.mem_toList.mp

theorem receive (h : agent.Confined) (hup : agent.process = some process)
    (hans : FromController response) (outcome : StoreOutcome) :
    (agent.receive process response outcome).Confined := by
  have hgro := h.process process hup
  unfold Agent.receive
  split
  · exact h
  next hsta =>
    have hfre : process.fence ≤ response.generation := Nat.le_of_not_lt hsta
    dsimp only
    split
    · refine h.refuse hup hfre ?_
      split
      · exact .inl rfl
      · exact .inr rfl
    · have hrai : (process.raise response.generation).Grounded (response :: agent.accepted) :=
        ⟨fun other hwat => List.mem_cons_of_mem _ (hgro.watch other hwat),
          fun other hpha => List.mem_cons_of_mem _ (hgro.preparing other hpha), hgro.current,
          hgro.committing⟩
      refine h.accept hup hans hfre ?_ ?_ ?_
      · split
        · unfold AgentProcess.publish
          split <;> rfl
        · rfl
      · split
        · unfold AgentProcess.publish
          split <;> rfl
        · rfl
      · split
        · exact hrai.publish (List.mem_cons_self ..)
        · exact hrai

theorem crash (h : agent.Confined) (hup : agent.process = some process) :
    (agent.crash process).Confined where
  fenced := ⟨h.fenced.disk, fun _ heq => (by cases heq), h.fenced.ordered⟩
  answered := h.answered
  process _ heq := by cases heq
  passes pass hmem := by
    have hmem : pass ∈ process.phase.pass.toList ++ agent.passes := hmem
    refine h.passes pass ((Agent.mem_allPasses hup).mpr ?_)
    exact (List.mem_append.mp hmem).imp_left Option.mem_toList.mp

/-- The loop turns to an answer, or lets go of one. -/
theorem turn (h : agent.Confined) (hup : agent.process = some process) {changed : Bool}
    {phase : ReconcilePhase} (hpass : phase.pass = none)
    (hpre : ∀ response, phase = .preparing response → response ∈ agent.accepted) :
    (agent.withPhase { process with changed } phase).Confined := by
  have hgro := h.process process hup
  refine h.move hup rfl rfl rfl rfl ⟨hgro.watch, hpre, hgro.current,
    fun pass rest heq => ?_⟩ fun pass hmem => ?_
  · rw [show phase = _ from heq] at hpass
    cases hpass
  · rcases hmem with hund | hpast
    · exact absurd (hpass.symm.trans hund) nofun
    · exact h.past hpast

variable {expand : ExpandEnvironment} {node : TemplateNode}

theorem commit (h : agent.Confined) (hup : agent.process = some process)
    (hpha : process.phase = .preparing response)
    (existing : Inventory) (configErrors : Map String String)
    {removals : List TaskRemovalAssignment} (hrem : removals.Perm response.removeTasks) :
    (agent.withPhase process (.committing { response, existing }
      (reconcileContainers expand node existing configErrors removals
        response.assignments))).Confined := by
  have hgro := h.process process hup
  have hacc := hgro.preparing response hpha
  refine h.move hup rfl rfl rfl rfl ⟨hgro.watch, fun _ heq => ?_, hgro.current,
    fun pass rest heq => ?_⟩ fun pass hmem => ?_
  · cases heq
  · cases heq
    exact ⟨rfl, reconcileContainers_behaves hrem (h.answered response hacc).desired⟩
  · rcases hmem with hund | hpast
    · cases hund
      exact ⟨hacc, trivial, fun hfin => by cases hfin⟩
    · exact h.past hpast

/-- The pass goes on by one operation. -/
theorem perform (h : agent.Confined) (hup : agent.process = some process)
    {op : RuntimeOp} {next : op.Reply → RuntimeProg (List TaskReconcileReport)}
    (hpha : process.phase = .committing pass (.call op next)) (reply : op.Reply) :
    (agent.withPhase process
      (.committing { pass with acts := ⟨op, reply⟩ :: pass.acts } (next reply))).Confined := by
  have hgro := h.process process hup
  obtain ⟨hunf, hper, hrest⟩ := hgro.committing pass _ hpha
  have hpro := h.passes pass ((Agent.mem_allPasses hup).mpr (.inl (by rw [hpha]; rfl)))
  refine h.move hup rfl rfl rfl rfl ⟨hgro.watch, fun _ heq => ?_, hgro.current,
    fun other rest heq => ?_⟩ fun other hmem => ?_
  · cases heq
  · cases heq
    exact ⟨hunf, hrest reply⟩
  · rcases hmem with hund | hpast
    · cases hund
      exact ⟨hpro.accepted, ⟨hper, hpro.guarded⟩, fun hfin =>
        absurd (hunf.symm.trans hfin) nofun⟩
    · exact h.past hpast

theorem finish (h : agent.Confined) (hup : agent.process = some process)
    (hpha : process.phase = .committing pass (.done reports)) :
    ({ agent.withPhase process .waiting with
        passes := { pass with finished := true } :: agent.passes } : Agent).Confined := by
  have hgro := h.process process hup
  have hpro := h.passes pass ((Agent.mem_allPasses hup).mpr (.inl (by rw [hpha]; rfl)))
  refine h.move hup rfl rfl rfl rfl ⟨hgro.watch, fun _ heq => ?_, hgro.current,
    fun _ _ heq => ?_⟩ fun other hmem => ?_
  · cases heq
  · cases heq
  · rcases hmem with hund | hpast
    · cases hund
    · rcases List.mem_cons.mp hpast with rfl | hpast
      · exact ⟨hpro.accepted, hpro.guarded, fun _ =>
          (hgro.committing pass _ hpha).2⟩
      · exact h.past hpast

theorem step (h : agent.Confined) (hstep : AgentStep expand node agent agent') :
    agent'.Confined := by
  cases hstep with
  | boot hdown => exact h.boot
  | receive process hup response hans outcome => exact h.receive hup hans outcome
  | take process hup response hwat hcha hidle =>
    refine h.turn hup rfl fun other heq => ?_
    cases heq
    exact (h.process process hup).watch response hwat
  | inspectFails process hup response hpha =>
    exact h.turn hup rfl fun _ heq => by cases heq
  | commit process hup response hpha existing configErrors removals hrem =>
    exact h.commit hup hpha existing configErrors hrem
  | perform process hup pass op next hpha reply => exact h.perform hup hpha reply
  | finish process hup pass reports hpha => exact h.finish hup hpha
  | crash process hup => exact h.crash hup

end Agent.Confined

theorem AgentRun.confined {node : TemplateNode}
    (hrun : AgentRun expand node agent) : agent.Confined := by
  induction hrun with
  | new =>
    refine ⟨⟨fun _ h => ?_, fun _ h => ?_, List.Pairwise.nil⟩, fun _ h => ?_, fun _ h => ?_,
      fun _ h => ?_⟩ <;> cases h
  | step _ hstep ih => exact ih.step hstep

/-- A pass that comes to its end. -/
theorem AgentRun.finished {node : TemplateNode} (hrun : AgentRun expand node agent)
    (hup : agent.process = some process) {pass : AgentPass}
    (hpha : process.phase = .committing pass (.done reports)) :
    ∃ agent', AgentRun expand node agent' ∧ { pass with finished := true } ∈ agent'.allPasses :=
  ⟨_, hrun.step (.finish process hup pass reports hpha),
    List.mem_append_right _ (List.mem_cons_self ..)⟩

/-- A task of revision 2 on the node `c`. -/
def replacedInner : Inner :=
  sampleServer.inner.withState
    { services := Table.ofList [{ id := "s", stack := "shop", name := "web", revision := 2,
                                  spec := { image := "web" }, deleted := false }]
      tasks := Table.ofList [{ id := "t", serviceId := "s", revision := 2, slot := 0, nodeId := "c",
                               desired := .running, observed := .pending, ports := [] }] }

def replacedResponse : HeartbeatResponse :=
  heartbeatResponse samplePlatform sampleConfig (sampleEnv "") replacedInner
    { id := "c", address := "c.local", gatewayEnabled := false, labels := Table.empty,
      joinedAtUnixMs := 0 }
    { node := { id := "c", address := "c.local" } }

/-- Its container of revision 1. -/
def replacedContainer : ManagedContainer :=
  { job := none, id := "k", taskId := "t", revision := some 1, running := true,
    observed := .running, stopGraceSeconds := 10 }

def plainExpand : ExpandEnvironment := fun _ environment => .ok environment

def plainNode : TemplateNode :=
  { id := "c", hostname := "c", platformArchitecture := "x86_64", platformOs := "linux" }

theorem replacedResponse_removeTasks : replacedResponse.removeTasks = [] := by decide +kernel

end Swarmlite
