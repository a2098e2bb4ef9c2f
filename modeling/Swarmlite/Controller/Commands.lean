import Mathlib.Data.String.Basic
import Swarmlite.Lib.Table

/-!
# Commands for agents — `controller/src/controller/commands.rs`

A request that needs an agent puts a command into the queue of its node and waits for the
answer. Agents poll: `take_ready` hands out the first command of the queue and notes the
time. A command that is not answered within the delivery lease is queued again by the next
poll. The answer, the end of the wait and the drop of the waiting request all remove it.

The broker keeps three tables — queues of ids by node, commands by id, waiters by id — and
updates them separately. The ids in a queue may be stale, and a command that was handed out
may be in a queue or not. `Brokered` is what holds between them, along a history of calls:

- a command in the table was queued for its node and is neither completed nor cancelled, and
  it is in its node's queue or has been handed out (`kept`);
- an id in a queue was queued for that node (`queued`);
- a command was last handed out at the time it carries (`dispatched`).

**`commands_delivered`** reads the delivery guarantees off that bundle: no command is lost, each
is handed to its own node only, not twice within a lease, and never after it ended; and at
most one answer is taken, from the owning node.

Mirroring notes:
- Every method holds the mutex, so calls are atomic. `take_ready` reads the clock before it
  takes the lock: the times of calls need not grow in the order of the calls.
- `commands` is a hash map; the order in which it lists expired commands is an input.
- The receiver of a waiter may be dropped before the cancel that follows; an answer that
  arrives in between is not taken, but the command is removed (`gone`).
- A UUID is drawn once.
-/

namespace Swarmlite

open Ordered

/-! ## The broker -/

/-- `DELIVERY_LEASE`, in milliseconds. -/
def deliveryLease : Nat := 10000

/-- A command, with the operation it asks for. -/
structure QueuedCommand (Op : Type) where
  id : String
  nodeId : String
  operation : Op
  dispatchedAt : Option Nat

structure BrokerState (Op : Type) where
  queues : Map String (List String) := Table.empty
  commands : Table (@QueuedCommand.id Op) := Table.empty
  waiters : Keys String := Table.empty
  /-- Waiters whose receiver was dropped. -/
  gone : Keys String := Table.empty

variable {Op : Type} {queued : QueuedCommand Op} {record : BrokerRecord} {state : BrokerState Op}

namespace BrokerState

/-- The ids queued for a node; a missing queue is an empty one. -/
def queue (state : BrokerState Op) (nodeId : String) : List String :=
  (state.queues.lookup nodeId).getD []

def removeFromQueue (state : BrokerState Op) (nodeId commandId : String) : BrokerState Op :=
  match state.queues.lookup nodeId with
  | none => state
  | some queue =>
    let queue := queue.filter (· != commandId)
    { state with
      queues := if queue.isEmpty then state.queues.erase nodeId else state.queues.put nodeId queue }

def enqueue (state : BrokerState Op) (nodeId id : String) (operation : Op) : BrokerState Op :=
  { state with
    queues := state.queues.put nodeId (state.queue nodeId ++ [id])
    commands := state.commands.insert { id, nodeId, operation, dispatchedAt := none }
    waiters := state.waiters.insert id }

/-- The command is there, for this node. -/
def owns (state : BrokerState Op) (nodeId commandId : String) : Bool :=
  (state.commands.get? commandId).any fun queued => queued.nodeId = nodeId

/-- Both ends of a command: queue, table and waiter. -/
def forget (state : BrokerState Op) (nodeId commandId : String) : BrokerState Op :=
  let state := state.removeFromQueue nodeId commandId
  { state with
    commands := state.commands.erase commandId
    waiters := state.waiters.erase commandId }

/-- `complete`, with whether the answer reached its waiter. -/
def complete (state : BrokerState Op) (nodeId commandId : String) : BrokerState Op × Bool :=
  if state.owns nodeId commandId then
    (state.forget nodeId commandId,
      state.waiters.contains commandId && !state.gone.contains commandId)
  else (state, false)

def cancel (state : BrokerState Op) (nodeId commandId : String) : BrokerState Op :=
  if state.owns nodeId commandId then state.forget nodeId commandId else state

end BrokerState

/-- Handed out at a time from which the lease has not passed. -/
def QueuedCommand.leased (now : Nat) (queued : QueuedCommand Op) : Bool :=
  queued.dispatchedAt.any fun time => now - time < deliveryLease

theorem QueuedCommand.dispatched_of_leased {now : Nat}
    (h : queued.leased now = true) : queued.dispatchedAt.isSome = true := by
  obtain ⟨time, htime, -⟩ := (Option.any_eq_true _ _).mp h
  exact Option.isSome_iff_exists.mpr ⟨time, htime⟩

/-- Handed out, and the lease has passed. -/
def QueuedCommand.expired (now : Nat) (queued : QueuedCommand Op) : Bool :=
  queued.dispatchedAt.any fun time => deliveryLease ≤ now - time

def QueuedCommand.dispatch (now : Nat) (queued : QueuedCommand Op) : QueuedCommand Op :=
  { queued with dispatchedAt := some now }

theorem QueuedCommand.dispatch_id (now : Nat) (queued : QueuedCommand Op) :
    (queued.dispatch now).id = queued.id := rfl

namespace BrokerState

/-- The commands of the node whose lease has passed. -/
def expired (state : BrokerState Op) (nodeId : String) (now : Nat) : List String :=
  (state.commands.rows.filter fun queued =>
    queued.nodeId = nodeId && queued.expired now).map QueuedCommand.id

/-- `for id in expired { if !queue.contains(&id) { queue.push_back(id) } }` -/
def pushMissing (queue : List String) (id : String) : List String :=
  if id ∈ queue then queue else queue ++ [id]

/-- The first half of `take_ready`. -/
def requeue (state : BrokerState Op) (nodeId : String) (expired : List String) : BrokerState Op :=
  if expired.isEmpty then state
  else { state with
    queues := state.queues.put nodeId (expired.foldl pushMissing (state.queue nodeId)) }

/-- The loop of `take_ready`: skips ids that are stale or under a lease. What is left of the
queue, and the command to hand out. -/
def popReady (state : BrokerState Op) (now : Nat) :
    List String → List String × Option (QueuedCommand Op)
  | [] => ([], none)
  | id :: queue =>
    match state.commands.get? id with
    | none => state.popReady now queue
    | some queued =>
      if queued.leased now then state.popReady now queue else (queue, some queued)

def markDispatched (state : BrokerState Op) (commandId : String) (now : Nat) : BrokerState Op :=
  { state with
    commands := state.commands.modify commandId (QueuedCommand.dispatch now)
      (QueuedCommand.dispatch_id now) }

/-- The second half of `take_ready`. -/
def dispatchNext (state : BrokerState Op) (nodeId : String) (now : Nat) :
    BrokerState Op × Option (QueuedCommand Op) :=
  match state.queues.lookup nodeId with
  | none => (state, none)
  | some queue =>
    let (rest, ready) := state.popReady now queue
    let state := { state with queues := state.queues.put nodeId rest }
    match ready with
    | none => (state, none)
    | some queued => (state.markDispatched queued.id now, some queued)

/-- `expired` lists the commands whose lease has passed, in some order. -/
def takeReady (state : BrokerState Op) (nodeId : String) (now : Nat) (expired : List String) :
    BrokerState Op × Option (QueuedCommand Op) :=
  (state.requeue nodeId expired).dispatchNext nodeId now

/-! ## What the calls do to a queue -/

variable (state : BrokerState Op) (nodeId commandId : String)

theorem removeFromQueue_queue (other : String) :
    (state.removeFromQueue nodeId commandId).queue other
      = if other = nodeId then (state.queue other).filter (· != commandId)
        else state.queue other := by
  unfold removeFromQueue queue
  by_cases hoth : other = nodeId
  · subst hoth
    rw [if_pos rfl]
    cases hloo : state.queues.lookup other with
    | none => simp [hloo]
    | some ids =>
      dsimp only
      split
      next hemp =>
        rw [Map.lookup_erase, if_pos rfl]
        exact (List.isEmpty_iff.mp hemp).symm
      · rw [Map.lookup_put, if_pos rfl]; rfl
  · rw [if_neg hoth]
    cases hloo : state.queues.lookup nodeId with
    | none => rfl
    | some ids =>
      dsimp only
      split
      · rw [Map.lookup_erase, if_neg hoth]
      · rw [Map.lookup_put, if_neg hoth]

theorem forget_queue (other : String) : (state.forget nodeId commandId).queue other
      = if other = nodeId then (state.queue other).filter (· != commandId)
        else state.queue other :=
  removeFromQueue_queue state nodeId commandId other

theorem removeFromQueue_commands :
    (state.removeFromQueue nodeId commandId).commands = state.commands := by
  unfold removeFromQueue
  split <;> rfl

theorem forget_commands :
    (state.forget nodeId commandId).commands = state.commands.erase commandId := by
  unfold forget
  dsimp only
  rw [removeFromQueue_commands]

theorem enqueue_queue (id : String) (operation : Op) (other : String) :
    (state.enqueue nodeId id operation).queue other
      = if other = nodeId then state.queue other ++ [id] else state.queue other := by
  unfold enqueue queue
  dsimp only
  rw [Map.lookup_put]
  by_cases hoth : other = nodeId
  · subst hoth
    rw [if_pos rfl, if_pos rfl]
    rfl
  · rw [if_neg hoth, if_neg hoth]

variable {queue : List String} {id : String} {state : BrokerState Op} {now : Nat}

theorem mem_pushMissing {expired : List String} :
    id ∈ expired.foldl pushMissing queue ↔ id ∈ queue ∨ id ∈ expired := by
  induction expired generalizing queue with
  | nil => simp
  | cons first expired ih =>
    have hpush : id ∈ pushMissing queue first ↔ id ∈ queue ∨ id = first := by
      unfold pushMissing
      split
      next hmem =>
        refine ⟨.inl, fun h => h.elim (fun h => h) fun h => ?_⟩
        rw [h]
        exact hmem
      · rw [List.mem_append, List.mem_singleton]
    rw [List.foldl_cons, ih, hpush, List.mem_cons, or_assoc]

theorem mem_requeue_queue {nodeId other : String} {expired : List String} :
    id ∈ (state.requeue nodeId expired).queue other ↔
      id ∈ state.queue other ∨ (other = nodeId ∧ id ∈ expired) := by
  unfold requeue
  split
  next hemp => simp [List.isEmpty_iff.mp hemp]
  · show id ∈ ((state.queues.put nodeId _).lookup other).getD [] ↔ _
    rw [Map.lookup_put]
    by_cases hoth : other = nodeId
    · subst hoth
      rw [if_pos rfl]
      show id ∈ expired.foldl pushMissing (state.queue other) ↔ _
      rw [mem_pushMissing]
      simp
    · rw [if_neg hoth]
      simp [hoth, queue]

@[simp] theorem requeue_commands
    (expired : List String) : (state.requeue nodeId expired).commands = state.commands := by
  unfold requeue
  split <;> rfl

theorem mem_markDispatched {queued command : QueuedCommand Op} (hque : queued ∈ state.commands)
    (h : command ∈ (state.markDispatched queued.id now).commands) :
    command = queued.dispatch now ∨ (command ∈ state.commands ∧ command.id ≠ queued.id) := by
  have h : command ∈ state.commands.modify queued.id (QueuedCommand.dispatch now)
      (QueuedCommand.dispatch_id now) := h
  rcases Table.mem_modify.mp h with hrest | ⟨old, hold, hid, rfl⟩
  · exact .inr hrest
  · rw [Table.eq_of_key hold hque hid]
    exact .inl rfl

/-- The loop drops ids of commands that are gone or under a lease, and no others. -/
theorem mem_popReady (h : id ∈ queue) :
    id ∈ (state.popReady now queue).1 ∨ (∃ queued, (state.popReady now queue).2 = some queued ∧
        queued.id = id) ∨
      ∀ queued, state.commands.get? id = some queued → queued.leased now = true := by
  induction queue with
  | nil => cases h
  | cons first queue ih =>
    unfold popReady
    cases hget : state.commands.get? first with
    | none =>
      dsimp only
      rcases List.mem_cons.mp h with rfl | h
      · refine .inr (.inr fun queued hque => ?_)
        rw [hget] at hque
        cases hque
      · exact ih h
    | some queued =>
      dsimp only
      split
      next hlea =>
        rcases List.mem_cons.mp h with rfl | h
        · refine .inr (.inr fun other hoth => ?_)
          rw [hget] at hoth
          cases hoth
          exact hlea
        · exact ih h
      · rcases List.mem_cons.mp h with rfl | h
        · exact .inr (.inl ⟨queued, rfl, Table.key_of_get? hget⟩)
        · exact .inl h

theorem popReady_subset (h : id ∈ (state.popReady now queue).1) : id ∈ queue := by
  induction queue with
  | nil => exact h
  | cons first queue ih =>
    unfold popReady at h
    split at h
    · exact List.mem_cons_of_mem _ (ih h)
    split at h
    · exact List.mem_cons_of_mem _ (ih h)
    · exact List.mem_cons_of_mem _ h

/-- What is handed out was queued, is in the table and not under a lease. -/
theorem popReady_ready (h : (state.popReady now queue).2 = some queued) :
    queued.id ∈ queue ∧ queued ∈ state.commands ∧ queued.leased now = false := by
  induction queue with
  | nil => cases h
  | cons first queue ih =>
    unfold popReady at h
    split at h
    · obtain ⟨hmem, hrest⟩ := ih h
      exact ⟨List.mem_cons_of_mem _ hmem, hrest⟩
    next other hget =>
      split at h
      · obtain ⟨hmem, hrest⟩ := ih h
        exact ⟨List.mem_cons_of_mem _ hmem, hrest⟩
      next hlea =>
        cases h
        refine ⟨List.mem_cons.mpr (.inl (Table.key_of_get? hget)), Table.mem_of_get? hget, ?_⟩
        exact Bool.not_eq_true _ ▸ hlea

end BrokerState

/-! ## Histories of calls -/

inductive BrokerEvent (Op : Type) where
  | enqueue (nodeId id : String) (operation : Op)
  | takeReady (nodeId : String) (now : Nat) (expired : List String)
  | complete (nodeId commandId : String)
  | cancel (nodeId commandId : String)
  | dropReceiver (commandId : String)

/-- What is to be known of the calls so far. A completion or a cancel that finds no command of
its node answers `false`, changes nothing and is not recorded. -/
inductive BrokerRecord where
  | queued (id nodeId : String)
  | handed (id nodeId : String) (now : Nat)
  | completed (id nodeId : String) (succeeded : Bool)
  | cancelled (id nodeId : String)
deriving DecidableEq

/-- The command the record is about. -/
def BrokerRecord.id : BrokerRecord → String
  | .queued id _ | .handed id _ _ | .completed id _ _ | .cancelled id _ => id

/-- The node it was queued for, polled by, answered by. -/
def BrokerRecord.nodeId : BrokerRecord → String
  | .queued _ nodeId | .handed _ nodeId _ | .completed _ nodeId _ | .cancelled _ nodeId => nodeId

/-- The command is removed for good. -/
def BrokerRecord.ends (record : BrokerRecord) (commandId : String) : Bool :=
  match record with
  | .completed id _ _ | .cancelled id _ => id = commandId
  | _ => false

theorem BrokerRecord.id_of_ends {commandId : String}
    (h : record.ends commandId = true) : record.id = commandId := by
  cases record with
  | queued | handed => cases h
  | completed | cancelled => exact of_decide_eq_true h

def BrokerState.step (state : BrokerState Op) : BrokerEvent Op → BrokerState Op × List BrokerRecord
  | .enqueue nodeId id operation => (state.enqueue nodeId id operation, [.queued id nodeId])
  | .takeReady nodeId now expired =>
    let (state, ready) := state.takeReady nodeId now expired
    (state, (ready.map fun queued => BrokerRecord.handed queued.id nodeId now).toList)
  | .complete nodeId commandId =>
    ((state.complete nodeId commandId).1,
      if state.owns nodeId commandId then
        [.completed commandId nodeId (state.complete nodeId commandId).2]
      else [])
  | .cancel nodeId commandId =>
    (state.cancel nodeId commandId,
      if state.owns nodeId commandId then [.cancelled commandId nodeId] else [])
  | .dropReceiver commandId => ({ state with gone := state.gone.insert commandId }, [])

/-- A new id was never drawn before, and the expired commands are listed in some order. -/
def BrokerEvent.Possible (log : List BrokerRecord) (state : BrokerState Op) :
    BrokerEvent Op → Prop
  | .enqueue _ id _ => ∀ nodeId, .queued id nodeId ∉ log
  | .takeReady nodeId now expired => expired.Perm (state.expired nodeId now)
  | _ => True

/-- Calls in any order; the newest record comes first. -/
inductive BrokerRun : List BrokerRecord → BrokerState Op → Prop
  | start : BrokerRun [] {}
  | step {log : List BrokerRecord} {state : BrokerState Op} (h : BrokerRun log state)
      (event : BrokerEvent Op) (hevent : event.Possible log state) :
      BrokerRun ((state.step event).2 ++ log) (state.step event).1

/-- How a record may follow an earlier one. -/
structure Follows (later earlier : BrokerRecord) : Prop where
  lease : ∀ {id node node' : String} {now time : Nat}, later = .handed id node now →
    earlier = .handed id node' time → time + deliveryLease ≤ now
  handed : ∀ {id node : String} {now : Nat}, later = .handed id node now → earlier.ends id = false
  once : ∀ {id : String}, later.ends id = true → earlier.ends id = false

/-- The three tables against the calls so far. -/
structure Brokered (log : List BrokerRecord) (state : BrokerState Op) : Prop where
  /-- An id belongs to one node. -/
  owners : ∀ {id node node' : String}, .queued id node ∈ log → .queued id node' ∈ log → node = node'
  /-- Nothing happens to a command but at its node. -/
  owned : ∀ record ∈ log, .queued record.id record.nodeId ∈ log
  queued : ∀ {id node : String}, id ∈ state.queue node → .queued id node ∈ log
  known : ∀ command ∈ state.commands, .queued command.id command.nodeId ∈ log
  unfinished : ∀ command ∈ state.commands, ∀ record ∈ log, record.ends command.id = false
  kept : ∀ command ∈ state.commands,
    command.id ∈ state.queue command.nodeId ∨ command.dispatchedAt.isSome = true
  live : ∀ {id node : String}, .queued id node ∈ log →
    (∃ record ∈ log, record.ends id = true) ∨ ∃ command ∈ state.commands, command.id = id
  dispatched : ∀ command ∈ state.commands, ∀ {node : String} {now : Nat},
    .handed command.id node now ∈ log → ∃ time, command.dispatchedAt = some time ∧ now ≤ time
  inOrder : log.Pairwise Follows

namespace Brokered

variable {log : List BrokerRecord} {state : BrokerState Op}

theorem start : Brokered [] ({} : BrokerState Op) where
  owners h := nomatch h
  owned _ h := nomatch h
  queued h := nomatch h
  known _ h := absurd h Table.mem_empty
  unfinished _ h := absurd h Table.mem_empty
  kept _ h := absurd h Table.mem_empty
  live h := nomatch h
  dispatched _ h := absurd h Table.mem_empty
  inOrder := List.Pairwise.nil

variable {nodeId : String} {now : Nat}

theorem enqueue (h : Brokered log state) {id : String} (operation : Op)
    (hfre : ∀ node, .queued id node ∉ log) :
    Brokered (.queued id nodeId :: log) (state.enqueue nodeId id operation) := by
  -- no record so far is about the new id
  have hoth : ∀ record ∈ log, record.id ≠ id := by
    intro record hrec hid
    exact hfre record.nodeId (hid ▸ h.owned record hrec)
  have hold : ∀ {other node : String}, .queued other node ∈ log → other ≠ id :=
    fun hmem => hoth _ hmem
  have hque : ∀ {other node : String}, other ∈ (state.enqueue nodeId id operation).queue node ↔
        other ∈ state.queue node ∨ (node = nodeId ∧ other = id) := by
    intro other node
    rw [BrokerState.enqueue_queue]
    split
    next hnode => rw [List.mem_append, List.mem_singleton]; simp [hnode]
    next hnode => simp [hnode]
  have hcom : ∀ command ∈ (state.enqueue nodeId id operation).commands,
      command = { id, nodeId, operation, dispatchedAt := none } ∨ command ∈ state.commands :=
    fun command hmem => (Table.mem_insert.mp hmem).imp_right And.left
  constructor
  · intro other node node' hnode hnode'
    rcases List.mem_cons.mp hnode with heq | hnode
    · rcases List.mem_cons.mp hnode' with heq' | hnode'
      · cases heq; cases heq'; rfl
      · cases heq
        exact absurd rfl (hold hnode')
    · rcases List.mem_cons.mp hnode' with heq' | hnode'
      · cases heq'
        exact absurd rfl (hold hnode)
      · exact h.owners hnode hnode'
  · intro record hrec
    rcases List.mem_cons.mp hrec with rfl | hrec
    · exact List.mem_cons_self
    · exact List.mem_cons_of_mem _ (h.owned record hrec)
  · intro other node hmem
    rcases hque.mp hmem with hmem | ⟨rfl, rfl⟩
    · exact List.mem_cons_of_mem _ (h.queued hmem)
    · exact List.mem_cons_self
  · intro command hmem
    rcases hcom command hmem with rfl | hmem
    · exact List.mem_cons_self
    · exact List.mem_cons_of_mem _ (h.known command hmem)
  · intro command hmem record hrec
    rcases List.mem_cons.mp hrec with rfl | hrec
    · rfl
    · rcases hcom command hmem with rfl | hmem
      · rw [Bool.eq_false_iff]
        exact fun hends => hoth record hrec (BrokerRecord.id_of_ends hends)
      · exact h.unfinished command hmem record hrec
  · intro command hmem
    rcases hcom command hmem with rfl | hmem
    · exact .inl (hque.mpr (.inr ⟨rfl, rfl⟩))
    · exact (h.kept command hmem).imp_left fun hmem => hque.mpr (.inl hmem)
  · intro other node hmem
    rcases List.mem_cons.mp hmem with heq | hmem
    · cases heq
      exact .inr ⟨_, Table.mem_insert.mpr (.inl rfl), rfl⟩
    · rcases h.live hmem with ⟨record, hrec, hends⟩ | ⟨command, hcom, hid⟩
      · exact .inl ⟨record, List.mem_cons_of_mem _ hrec, hends⟩
      · refine .inr ⟨command, Table.mem_insert.mpr (.inr ⟨hcom, ?_⟩), hid⟩
        rw [hid]
        exact hold hmem
  · intro command hmem node now hhan
    have hhan := (List.mem_cons.mp hhan).resolve_left fun heq => nomatch heq
    rcases hcom command hmem with rfl | hmem
    · exact absurd rfl (hoth _ hhan)
    · exact h.dispatched command hmem hhan
  · refine List.pairwise_cons.mpr ⟨fun earlier _ => ?_, h.inOrder⟩
    exact { lease := fun heq => nomatch heq
            handed := fun heq => nomatch heq
            once := fun hends => nomatch hends }

/-- Expired commands go back to the queue of their own node. -/
theorem requeue (h : Brokered log state) {expired : List String}
    (hexp : expired.Perm (state.expired nodeId now)) :
    Brokered log (state.requeue nodeId expired) := by
  have hcomm := state.requeue_commands nodeId expired
  refine ⟨h.owners, h.owned, ?_, ?_, ?_, ?_, ?_, ?_, h.inOrder⟩
  · intro id node hmem
    rcases BrokerState.mem_requeue_queue.mp hmem with hque | ⟨rfl, hmis⟩
    · exact h.queued hque
    · obtain ⟨command, hcom, rfl⟩ := List.mem_map.mp (hexp.mem_iff.mp hmis)
      obtain ⟨hcom, hcond⟩ := List.mem_filter.mp hcom
      have hnode : command.nodeId = node := of_decide_eq_true (Bool.and_eq_true_iff.mp hcond).1
      exact hnode ▸ h.known command hcom
  · rw [hcomm]; exact h.known
  · rw [hcomm]; exact h.unfinished
  · rw [hcomm]
    exact fun command hmem => (h.kept command hmem).imp_left fun hque =>
      BrokerState.mem_requeue_queue.mpr (.inl hque)
  · rw [hcomm]; exact h.live
  · rw [hcomm]; exact h.dispatched

/-- Only ids that may be dropped leave the queue. -/
theorem shrink (h : Brokered log state) {queue : List String}
    (hsub : ∀ id ∈ queue, id ∈ state.queue nodeId)
    (hkept : ∀ command ∈ state.commands, command.id ∈ state.queue nodeId →
      command.id ∈ queue ∨ command.dispatchedAt.isSome = true) :
    Brokered log { state with queues := state.queues.put nodeId queue } := by
  have hqueu : ∀ node, ({ state with queues := state.queues.put nodeId queue } :
      BrokerState Op).queue node = if node = nodeId then queue else state.queue node := by
    intro node
    show ((state.queues.put nodeId queue).lookup node).getD [] = _
    rw [Map.lookup_put]
    split <;> rfl
  refine ⟨h.owners, h.owned, ?_, h.known, h.unfinished, ?_, h.live, h.dispatched, h.inOrder⟩
  · intro id node hmem
    rw [hqueu] at hmem
    split at hmem
    next hnode => exact hnode ▸ h.queued (hsub id hmem)
    · exact h.queued hmem
  · intro command hmem
    rw [hqueu]
    rcases h.kept command hmem with hque | hdis
    · split
      next hnode => exact hkept command hmem (hnode ▸ hque)
      · exact .inl hque
    · exact .inr hdis

/-- A command that is not under a lease is handed out. -/
theorem dispatch (h : Brokered log state)
    (hmem : queued ∈ state.commands) (hlea : queued.leased now = false) :
    Brokered (.handed queued.id queued.nodeId now :: log) (state.markDispatched queued.id now) := by
  -- earlier hand-outs of the command, as the lease has passed
  have hear : ∀ {node : String} {time : Nat}, .handed queued.id node time ∈ log →
      time + deliveryLease ≤ now := by
    intro node time hhan
    obtain ⟨last, hlast, hle⟩ := h.dispatched queued hmem hhan
    unfold QueuedCommand.leased at hlea
    rw [hlast] at hlea
    have hpas : ¬ now - last < deliveryLease := of_decide_eq_false hlea
    unfold deliveryLease at hpas ⊢
    omega
  have hcom : ∀ command ∈ (state.markDispatched queued.id now).commands,
      command = queued.dispatch now ∨ (command ∈ state.commands ∧ command.id ≠ queued.id) :=
    fun command => BrokerState.mem_markDispatched hmem
  refine ⟨?_, ?_, ?_, ?_, ?_, ?_, ?_, ?_, ?_⟩
  · intro id node node' hnode hnode'
    exact h.owners ((List.mem_cons.mp hnode).resolve_left fun heq => nomatch heq)
      ((List.mem_cons.mp hnode').resolve_left fun heq => nomatch heq)
  · intro record hrec
    refine List.mem_cons_of_mem _ ?_
    rcases List.mem_cons.mp hrec with rfl | hrec
    · exact h.known queued hmem
    · exact h.owned record hrec
  · exact fun hque => List.mem_cons_of_mem _ (h.queued hque)
  · intro command hmem'
    refine List.mem_cons_of_mem _ ?_
    rcases hcom command hmem' with rfl | ⟨hmem', -⟩
    · exact h.known queued hmem
    · exact h.known command hmem'
  · intro command hmem' record hrec
    rcases List.mem_cons.mp hrec with rfl | hrec
    · rfl
    · rcases hcom command hmem' with rfl | ⟨hmem', -⟩
      · exact h.unfinished queued hmem record hrec
      · exact h.unfinished command hmem' record hrec
  · intro command hmem'
    rcases hcom command hmem' with rfl | ⟨hmem', -⟩
    · exact .inr rfl
    · exact h.kept command hmem'
  · intro id node hnode
    have hnode := (List.mem_cons.mp hnode).resolve_left fun heq => nomatch heq
    rcases h.live hnode with ⟨record, hrec, hends⟩ | ⟨command, hold, hid⟩
    · exact .inl ⟨record, List.mem_cons_of_mem _ hrec, hends⟩
    · obtain ⟨command', hmem', hkey⟩ := Table.exists_mem_modify queued.id
        (QueuedCommand.dispatch_id now) hold
      exact .inr ⟨command', hmem', hkey.trans hid⟩
  · intro command hmem' node time hhan
    rcases hcom command hmem' with rfl | ⟨hmem', hne⟩
    · refine ⟨now, rfl, ?_⟩
      rcases List.mem_cons.mp hhan with heq | hhan
      · cases heq
        exact Nat.le_refl _
      · exact Nat.le_trans (Nat.le_add_right _ _) (hear hhan)
    · rcases List.mem_cons.mp hhan with heq | hhan
      · exact absurd (congrArg BrokerRecord.id heq) hne
      · exact h.dispatched command hmem' hhan
  · refine List.pairwise_cons.mpr ⟨fun earlier hmem' => ⟨?_, ?_, ?_⟩, h.inOrder⟩
    · intro id node node' later time hlat heq
      cases hlat
      subst heq
      exact hear hmem'
    · intro id node later hlat
      cases hlat
      exact h.unfinished queued hmem earlier hmem'
    · intro id hends
      cases hends

/-- A command ends: it leaves queue and table. -/
theorem forget (h : Brokered log state) {commandId : String}
    (howns : state.owns nodeId commandId = true)
    (hid : record.id = commandId) (hnode : record.nodeId = nodeId)
    (hends : record.ends commandId = true) :
    Brokered (record :: log) (state.forget nodeId commandId) := by
  obtain ⟨command, hget, hown⟩ := (Option.any_eq_true _ _).mp howns
  have hown : command.nodeId = nodeId := of_decide_eq_true hown
  have hmem := Table.mem_of_get? hget
  have hkey : command.id = commandId := Table.key_of_get? hget
  have hque : .queued commandId nodeId ∈ log := hkey ▸ hown ▸ h.known command hmem
  have hopen : ∀ earlier ∈ log, earlier.ends commandId = false := hkey ▸ h.unfinished command hmem
  have hlog : ∀ {id node : String}, .queued id node ∈ record :: log → .queued id node ∈ log := by
    intro id node hmem'
    rcases List.mem_cons.mp hmem' with rfl | hmem'
    · cases hends
    · exact hmem'
  have hcom : ∀ other ∈ (state.forget nodeId commandId).commands,
      other ∈ state.commands ∧ other.id ≠ commandId := by
    intro other hoth
    rw [BrokerState.forget_commands] at hoth
    exact Table.mem_erase.mp hoth
  refine ⟨fun hn hn' => h.owners (hlog hn) (hlog hn'), ?_, ?_, ?_, ?_, ?_, ?_, ?_, ?_⟩
  · intro other hoth
    refine List.mem_cons_of_mem _ ?_
    rcases List.mem_cons.mp hoth with rfl | hoth
    · rw [hid, hnode]
      exact hque
    · exact h.owned other hoth
  · intro id node hmem'
    rw [BrokerState.forget_queue] at hmem'
    refine List.mem_cons_of_mem _ (h.queued ?_)
    split at hmem'
    · exact (List.mem_filter.mp hmem').1
    · exact hmem'
  · exact fun other hoth => List.mem_cons_of_mem _ (h.known other (hcom other hoth).1)
  · intro other hoth earlier hear
    obtain ⟨hoth, hne⟩ := hcom other hoth
    rcases List.mem_cons.mp hear with rfl | hear
    · rw [Bool.eq_false_iff]
      exact fun hends' => hne ((BrokerRecord.id_of_ends hends').symm.trans hid)
    · exact h.unfinished other hoth earlier hear
  · intro other hoth
    obtain ⟨hoth, hne⟩ := hcom other hoth
    rw [BrokerState.forget_queue]
    refine (h.kept other hoth).imp_left fun hque => ?_
    split
    · exact List.mem_filter.mpr ⟨hque, bne_iff_ne.mpr hne⟩
    · exact hque
  · intro id node hmem'
    by_cases heq : id = commandId
    · exact .inl ⟨record, List.mem_cons_self, heq ▸ hends⟩
    · rcases h.live (hlog hmem') with ⟨other, hoth, hends'⟩ | ⟨other, hoth, hid'⟩
      · exact .inl ⟨other, List.mem_cons_of_mem _ hoth, hends'⟩
      · refine .inr ⟨other, ?_, hid'⟩
        rw [BrokerState.forget_commands]
        exact Table.mem_erase.mpr ⟨hoth, hid'.trans_ne heq⟩
  · intro other hoth node now hhan
    refine h.dispatched other (hcom other hoth).1
      ((List.mem_cons.mp hhan).resolve_left fun heq => ?_)
    rw [← heq] at hends
    cases hends
  · refine List.pairwise_cons.mpr ⟨fun earlier hear => ⟨?_, ?_, ?_⟩, h.inOrder⟩
    · intro id node node' now time heq
      rw [heq] at hends
      cases hends
    · intro id node now heq
      rw [heq] at hends
      cases hends
    · intro id hends'
      rw [← BrokerRecord.id_of_ends hends', hid]
      exact hopen earlier hear

theorem takeReady (h : Brokered log state) {expired : List String}
    (hexp : expired.Perm (state.expired nodeId now)) :
    Brokered ((state.step (.takeReady nodeId now expired)).2 ++ log)
      (state.step (.takeReady nodeId now expired)).1 := by
  have h := h.requeue hexp
  show Brokered (((((state.requeue nodeId expired).dispatchNext nodeId now).2.map fun queued =>
      BrokerRecord.handed queued.id nodeId now).toList) ++ log)
    ((state.requeue nodeId expired).dispatchNext nodeId now).1
  generalize state.requeue nodeId expired = state at h
  unfold BrokerState.dispatchNext
  split
  · exact h
  next queue hloo =>
    have hqueu : state.queue nodeId = queue := by
      unfold BrokerState.queue
      rw [hloo]
      rfl
    have hsub : ∀ id ∈ (state.popReady now queue).1, id ∈ state.queue nodeId :=
      fun id hmem => hqueu ▸ BrokerState.popReady_subset hmem
    dsimp only
    split
    next hnone =>
      refine h.shrink hsub fun command hmem hque => ?_
      rcases BrokerState.mem_popReady (hqueu ▸ hque) with hrest | ⟨_, hsome, -⟩ | hlea
      · exact .inl hrest
      · rw [hnone] at hsome
        cases hsome
      · exact .inr (QueuedCommand.dispatched_of_leased (hlea command (Table.get?_of_mem hmem)))
    next queued hrea =>
      obtain ⟨hmem, hcom, hlea⟩ := BrokerState.popReady_ready hrea
      have hnode : queued.nodeId = nodeId :=
        h.owners (h.known queued hcom) (h.queued (hqueu ▸ hmem))
      subst hnode
      refine (h.dispatch hcom hlea).shrink hsub fun command hmem' hque => ?_
      rcases BrokerState.mem_markDispatched hcom hmem' with rfl | ⟨hold, hne⟩
      · exact .inr rfl
      · rcases BrokerState.mem_popReady (hqueu ▸ hque) with hrest | ⟨_, hsome, hid⟩ | hlea
        · exact .inl hrest
        · rw [hrea] at hsome
          cases hsome
          exact absurd hid.symm hne
        · exact .inr (QueuedCommand.dispatched_of_leased (hlea command (Table.get?_of_mem hold)))

theorem step (h : Brokered log state) {event : BrokerEvent Op} (heve : event.Possible log state) :
    Brokered ((state.step event).2 ++ log) (state.step event).1 := by
  cases event with
  | enqueue nodeId id operation => exact h.enqueue operation heve
  | takeReady nodeId now expired => exact h.takeReady heve
  | complete nodeId commandId =>
    unfold BrokerState.step BrokerState.complete
    dsimp only
    by_cases howns : state.owns nodeId commandId = true
    · rw [if_pos howns, if_pos howns]
      exact h.forget howns rfl rfl (decide_eq_true rfl)
    · rw [if_neg howns, if_neg howns]
      exact h
  | cancel nodeId commandId =>
    unfold BrokerState.step BrokerState.cancel
    dsimp only
    by_cases howns : state.owns nodeId commandId = true
    · rw [if_pos howns, if_pos howns]
      exact h.forget howns rfl rfl (decide_eq_true rfl)
    · rw [if_neg howns, if_neg howns]
      exact h
  | dropReceiver commandId => exact { h with }

end Brokered

theorem BrokerRun.brokered {log : List BrokerRecord}
    (h : BrokerRun log state) : Brokered log state := by
  induction h with
  | start => exact Brokered.start
  | step _ event heve ih => exact ih.step heve

/-- The lease of the command passes: every later poll of its node finds it queued. -/
def RequeuedAfter (state : BrokerState Op) (command : QueuedCommand Op) (time : Nat) : Prop :=
  ∀ now, deliveryLease ≤ now - time →
    ∀ expired, expired.Perm (state.expired command.nodeId now) →
      command.id ∈ (state.requeue command.nodeId expired).queue command.nodeId

theorem requeuedAfter_dispatch {command : QueuedCommand Op} {time : Nat}
    (hmem : command ∈ state.commands) (htime : command.dispatchedAt = some time) :
    RequeuedAfter state command time := by
  intro now hpas expired hexp
  refine BrokerState.mem_requeue_queue.mpr (.inr ⟨rfl, hexp.mem_iff.mpr ?_⟩)
  refine List.mem_map.mpr ⟨command, List.mem_filter.mpr ⟨hmem, ?_⟩, rfl⟩
  unfold QueuedCommand.expired
  rw [htime]
  simpa using hpas

/-- **Delivery.** For every history of calls: a command that was queued and is neither completed
nor cancelled is in its node's queue, or it was handed out and the first poll of its node after
the lease queues it again; it is handed only to its own node; hand-outs of one command are a
lease apart and none follows its end; and it ends once, completed by its own node only. -/
theorem commands_delivered {log : List BrokerRecord} {state : BrokerState Op}
    (h : BrokerRun log state) :
    (∀ id node, .queued id node ∈ log → (∀ record ∈ log, record.ends id = false) →
      ∃ command ∈ state.commands, command.id = id ∧ command.nodeId = node ∧
        (id ∈ state.queue node ∨
          ∃ time, command.dispatchedAt = some time ∧ RequeuedAfter state command time)) ∧
    (∀ id node now, .handed id node now ∈ log →
      .queued id node ∈ log ∧ ∀ other, .queued id other ∈ log → other = node) ∧
    (∀ id node succeeded, .completed id node succeeded ∈ log →
      .queued id node ∈ log ∧ ∀ other, .queued id other ∈ log → other = node) ∧
    log.Pairwise Follows := by
  have hb := h.brokered
  refine ⟨fun id node hque hopen => ?_, fun id node now hhan => ?_,
    fun id node succeeded hcom => ?_, hb.inOrder⟩
  · rcases hb.live hque with ⟨record, hrec, hends⟩ | ⟨command, hmem, rfl⟩
    · rw [hopen record hrec] at hends
      cases hends
    · have hnode : command.nodeId = node := hb.owners (hb.known command hmem) hque
      refine ⟨command, hmem, rfl, hnode, ?_⟩
      rcases hb.kept command hmem with hkept | hdis
      · exact Or.inl (hnode ▸ hkept)
      · obtain ⟨time, htime⟩ := Option.isSome_iff_exists.mp hdis
        exact Or.inr ⟨time, htime, requeuedAfter_dispatch hmem htime⟩
  · have hque := hb.owned _ hhan
    exact ⟨hque, fun other hoth => hb.owners hoth hque⟩
  · have hque := hb.owned _ hcom
    exact ⟨hque, fun other hoth => hb.owners hoth hque⟩

/-- A command is handed out twice, ten seconds apart, and then answered. -/
def redelivery : List (BrokerEvent Unit) :=
  [.enqueue "node-a" "open" (), .takeReady "node-a" 5 [], .takeReady "node-a" 10005 ["open"],
    .complete "node-a" "open"]

/-- The records and the state after a list of events. -/
def BrokerState.perform (log : List BrokerRecord) (state : BrokerState Op) :
    List (BrokerEvent Op) → List BrokerRecord × BrokerState Op
  | [] => (log, state)
  | event :: events =>
    BrokerState.perform ((state.step event).2 ++ log) (state.step event).1 events

theorem redelivery_run : BrokerRun (BrokerState.perform [] {} redelivery).1
    (BrokerState.perform [] {} redelivery).2 := by
  refine (((BrokerRun.start.step (.enqueue "node-a" "open" ()) fun _ h => nomatch h).step
    (.takeReady "node-a" 5 []) ?_).step (.takeReady "node-a" 10005 ["open"]) ?_).step
    (.complete "node-a" "open") trivial
  · exact List.Perm.of_eq (by decide +kernel)
  · exact List.Perm.of_eq (by decide +kernel)

theorem commands_delivered_twice :
    (BrokerState.perform [] {} redelivery).1 = [.completed "open" "node-a" true,
        .handed "open" "node-a" 10005, .handed "open" "node-a" 5, .queued "open" "node-a"] ∧
      (BrokerState.perform [] {} redelivery).1.Pairwise Follows :=
  ⟨by decide +kernel, (commands_delivered redelivery_run).2.2.2⟩

end Swarmlite
