import Swarmlite.Lib.Programs

/-!
# Threads — programs that share a state, one operation at a time

Callers run programs (`Prog`). A `Machine` says what an
operation does to the shared state, which programs callers may start, and what the
surroundings may do on their own. A `Pool` is the shared state with the calls that are
running and the operations performed so far; its steps interleave in any order, and a
call may be cut off between any two operations (`abandon`).

Reasoning goes call by call. A `Contract` fixes what holds of every state (`valid`),
what a caller may assume of the others between two of its own operations (`rely`) and
what it promises about each of them (`guar`); its fields say that the promises cover
the assumptions. `Safe` says that a program keeps the contract from a given view on,
whatever the others do, and ends in its postcondition. It is proved along the program
(`Safe.perform`, `Safe.bind`), and `Reach.allSafe` turns it into a fact about every
reachable pool: every state is valid, every operation keeps the promise of its caller,
and a call that returns has established its postcondition.
-/

namespace Threads

open Programs

variable {ι σ Op : Type} {Reply : Op → Type} {α β : Type} {caller : ι} {prog : Prog Op Reply α}

/-! ## Pools -/

/-- An operation that was performed. -/
structure Label (ι Op : Type) (Reply : Op → Type) where
  caller : ι
  op : Op
  reply : Reply op

/-- The shared state and what led to it, latest first. -/
structure View (ι σ Op : Type) (Reply : Op → Type) where
  shared : σ
  trace : List (Label ι Op Reply)

def View.after (view : View ι σ Op Reply) (caller : ι) (op : Op) (reply : Reply op) (shared : σ) :
    View ι σ Op Reply :=
  { shared, trace := { caller, op, reply } :: view.trace }

structure Pool (ι σ Op : Type) (Reply : Op → Type) (α : Type) where
  view : View ι σ Op Reply
  calls : ι → Option (Prog Op Reply α)

structure Machine (ι σ Op : Type) (Reply : Op → Type) (α : Type) where
  exec : ι → σ → (op : Op) → Reply op → σ → Prop
  starts : ι → Prog Op Reply α → Prop
  interferes : σ → σ → Prop
  initial : σ → Prop

/-- The caller has not done anything yet. -/
def Unseen (caller : ι) (trace : List (Label ι Op Reply)) : Prop :=
  ∀ label ∈ trace, label.caller ≠ caller

section Steps

variable [DecidableEq ι]

def Pool.set (pool : Pool ι σ Op Reply α) (caller : ι) (call : Option (Prog Op Reply α)) :
    ι → Option (Prog Op Reply α) :=
  fun other => if other = caller then call else pool.calls other

/-- A call performs its next operation. -/
inductive Performs (machine : Machine ι σ Op Reply α) (caller : ι) (pool : Pool ι σ Op Reply α) :
    Pool ι σ Op Reply α → Prop
  | mk (op : Op) (next : Reply op → Prog Op Reply α) (reply : Reply op) (shared : σ)
      (hcall : pool.calls caller = some (.call op next))
      (hexec : machine.exec caller pool.view.shared op reply shared) :
      Performs machine caller pool
        { view := pool.view.after caller op reply shared
          calls := pool.set caller (some (next reply)) }

inductive Step (machine : Machine ι σ Op Reply α) (pool : Pool ι σ Op Reply α) :
    Pool ι σ Op Reply α → Prop
  | start (caller : ι) (prog : Prog Op Reply α) (hstarts : machine.starts caller prog)
      (hunseen : Unseen caller pool.view.trace) :
      Step machine pool { pool with calls := pool.set caller (some prog) }
  | perform {caller : ι} {pool' : Pool ι σ Op Reply α}
      (h : Performs machine caller pool pool') : Step machine pool pool'
  | abandon (caller : ι) : Step machine pool { pool with calls := pool.set caller none }
  | interfere (shared : σ) (h : machine.interferes pool.view.shared shared) :
      Step machine pool { pool with view := { pool.view with shared } }

inductive Reach (machine : Machine ι σ Op Reply α) : Pool ι σ Op Reply α → Prop
  | init (shared : σ) (h : machine.initial shared) :
      Reach machine { view := { shared, trace := [] }, calls := fun _ => none }
  | step {pool pool' : Pool ι σ Op Reply α} (hpool : Reach machine pool)
      (hstep : Step machine pool pool') : Reach machine pool'

/-- One call, with nobody else about, gets as far as `goal`. -/
inductive Runs (machine : Machine ι σ Op Reply α) (caller : ι)
    (goal : View ι σ Op Reply → Prog Op Reply α → Prop) :
    View ι σ Op Reply → Prog Op Reply α → Prop
  | here {view : View ι σ Op Reply} {prog : Prog Op Reply α} (h : goal view prog) :
      Runs machine caller goal view prog
  | perform {view : View ι σ Op Reply} {op : Op} {next : Reply op → Prog Op Reply α}
      (reply : Reply op) (shared : σ) (hexec : machine.exec caller view.shared op reply shared)
      (h : Runs machine caller goal (view.after caller op reply shared) (next reply)) :
      Runs machine caller goal view (.call op next)

theorem Reach.runs {machine : Machine ι σ Op Reply α}
    {goal : View ι σ Op Reply → Prog Op Reply α → Prop}
    {view : View ι σ Op Reply} (h : Runs machine caller goal view prog)
    {calls : ι → Option (Prog Op Reply α)} (hpool : Reach machine { view, calls })
    (hcall : calls caller = some prog) :
    ∃ pool prog', Reach machine pool ∧ pool.calls caller = some prog' ∧ goal pool.view prog' := by
  induction h generalizing calls with
  | @here view prog h => exact ⟨_, prog, hpool, hcall, h⟩
  | perform reply shared hexec _ ih =>
    exact ih (hpool.step (.perform (.mk _ _ reply shared hcall hexec))) (if_pos rfl)

end Steps

/-! ## Contracts -/

structure Contract (machine : Machine ι σ Op Reply α) where
  valid : View ι σ Op Reply → Prop
  rely : ι → View ι σ Op Reply → View ι σ Op Reply → Prop
  guar : ι → View ι σ Op Reply → View ι σ Op Reply → Prop
  initial : ∀ {shared}, machine.initial shared → valid { shared, trace := [] }
  refl : ∀ {caller view}, rely caller view view
  trans : ∀ {caller a b c}, rely caller a b → rely caller b c → rely caller a c
  /-- What a caller promises is what the others assume. -/
  others : ∀ {caller other a b}, guar caller a b → other ≠ caller → rely other a b
  interferes : ∀ {view shared}, valid view → machine.interferes view.shared shared →
    valid { view with shared } ∧ ∀ caller, rely caller view { view with shared }

variable {machine : Machine ι σ Op Reply α}

/-- From this view on the program keeps the contract, and ends in `post`. -/
inductive Safe (contract : Contract machine) (caller : ι)
    (post : β → View ι σ Op Reply → Prop) : Prog Op Reply β → View ι σ Op Reply → Prop
  | done {value : β} {view : View ι σ Op Reply} (h : post value view) :
      Safe contract caller post (.done value) view
  | call {op : Op} {next : Reply op → Prog Op Reply β} {view : View ι σ Op Reply}
      (h : ∀ later, contract.valid later → contract.rely caller view later →
        ∀ reply shared, machine.exec caller later.shared op reply shared →
          contract.valid (later.after caller op reply shared) ∧
            contract.guar caller later (later.after caller op reply shared))
      (hnext : ∀ later, contract.valid later → contract.rely caller view later →
        ∀ reply shared, machine.exec caller later.shared op reply shared →
          Safe contract caller post (next reply) (later.after caller op reply shared)) :
      Safe contract caller post (.call op next) view

namespace Safe

variable {contract : Contract machine} {caller : ι} {view : View ι σ Op Reply} {γ : Type}

variable {post : β → View ι σ Op Reply → Prop} {prog : Prog Op Reply β}

/-- A running call stays safe whatever the others do. -/
theorem later {op : Op} {next : Reply op → Prog Op Reply β}
    {after : View ι σ Op Reply} (h : Safe contract caller post (.call op next) view)
    (hrely : contract.rely caller view after) : Safe contract caller post
    (.call op next) after := by
  cases h with
  | call hkept hnext =>
    exact .call (fun view' hval hlat => hkept view' hval (contract.trans hrely hlat))
      (fun view' hval hlat => hnext view' hval (contract.trans hrely hlat))

theorem weaken {post' : β → View ι σ Op Reply → Prop} (h : Safe contract caller post prog view)
    (hpost : ∀ value after, post value after → post' value after) :
    Safe contract caller post' prog view := by
  induction h with
  | done hdone => exact .done (hpost _ _ hdone)
  | call hkept _ ih => exact .call hkept ih

/-- What neither the others nor the caller can undo still holds at the end. -/
theorem keep {kept : View ι σ Op Reply → Prop} (h : Safe contract caller post prog view)
    (hoth : ∀ {view later}, contract.rely caller view later → kept view → kept later)
    (hown : ∀ {view op reply shared}, kept view → kept (view.after caller op reply shared))
    (hkept : kept view) :
    Safe contract caller (fun value after => post value after ∧ kept after) prog view := by
  induction h with
  | done hdone => exact .done ⟨hdone, hkept⟩
  | call hcall _ ih =>
    exact .call hcall fun later hval hrely reply shared hexec =>
      ih later hval hrely reply shared hexec (hown (hoth hrely hkept))

theorem bind {post' : γ → View ι σ Op Reply → Prop} {rest : β → Prog Op Reply γ}
    (h : Safe contract caller post prog view)
    (hval : contract.valid view)
    (hrest : ∀ value after, contract.valid after → post value after →
      Safe contract caller post' (rest value) after) :
    Safe contract caller post' (prog >>= rest) view := by
  induction h with
  | @done value view hpost => exact hrest value view hval hpost
  | @call op next view hkept hnext ih =>
    refine .call hkept fun later hlat hrely reply shared hexec => ?_
    exact ih later hlat hrely reply shared hexec (hkept later hlat hrely reply shared hexec).1

/-- The rule for one operation. The caller knows `pre` of the view before it, whatever
the others did; what the operation establishes is left to the rest. -/
theorem perform {pre : View ι σ Op Reply → Prop} {op : Op}
    {rest : Reply op → Prog Op Reply β} (hpre : pre view)
    (hsta : ∀ later, contract.valid later → contract.rely caller view later → pre view →
      pre later) (hkept : ∀ later, contract.valid later → pre later → ∀ reply shared,
      machine.exec caller later.shared op reply shared →
        contract.valid (later.after caller op reply shared) ∧
          contract.guar caller later (later.after caller op reply shared) ∧
          Safe contract caller post (rest reply) (later.after caller op reply shared)) :
    Safe contract caller post (Prog.perform op >>= rest) view := by
  refine .call (fun later hval hrely reply shared hexec => ?_)
    (fun later hval hrely reply shared hexec => ?_)
  · obtain ⟨hval', hguar, -⟩ := hkept later hval (hsta later hval hrely hpre) reply shared hexec
    exact ⟨hval', hguar⟩
  · exact (hkept later hval (hsta later hval hrely hpre) reply shared hexec).2.2

end Safe

/-! ## Every reachable pool -/

section Soundness

variable {contract : Contract machine} {post : ι → α → View ι σ Op Reply → Prop}

/-- A call that has not returned is safe. -/
def CallSafe (contract : Contract machine) (post : ι → α → View ι σ Op Reply → Prop) (caller : ι)
    (prog : Prog Op Reply α) (view : View ι σ Op Reply) : Prop :=
  (∃ value, prog = .done value) ∨ Safe contract caller (post caller) prog view

theorem CallSafe.later {view after : View ι σ Op Reply}
    (h : CallSafe contract post caller prog view) (hrely : contract.rely caller view after) :
    CallSafe contract post caller prog after := by
  cases prog with
  | done value => exact .inl ⟨value, rfl⟩
  | call op next =>
    rcases h with ⟨value, hdone⟩ | hsafe
    · cases hdone
    · exact .inr (hsafe.later hrely)

structure AllSafe (contract : Contract machine) (post : ι → α → View ι σ Op Reply → Prop)
    (pool : Pool ι σ Op Reply α) : Prop where
  valid : contract.valid pool.view
  calls : ∀ caller prog, pool.calls caller = some prog →
    CallSafe contract post caller prog pool.view

variable [DecidableEq ι]

/-- What a step of one caller leaves. -/
theorem AllSafe.performs {pool pool' : Pool ι σ Op Reply α}
    (h : AllSafe contract post pool) (hper : Performs machine caller pool pool') :
    contract.guar caller pool.view pool'.view ∧ AllSafe contract post pool' ∧
      ∀ value, pool'.calls caller = some (.done value) → post caller value pool'.view := by
  cases hper with
  | mk op next reply shared hcall hexec =>
    have hsafe : Safe contract caller (post caller) (.call op next) pool.view := by
      rcases h.calls caller _ hcall with ⟨value, hdone⟩ | hsafe
      · cases hdone
      · exact hsafe
    cases hsafe with
    | call hkept hnext =>
      obtain ⟨hval, hguar⟩ := hkept _ h.valid contract.refl reply shared hexec
      have hrest := hnext _ h.valid contract.refl reply shared hexec
      refine ⟨hguar, ⟨hval, fun other prog hprog => ?_⟩, fun value hvalu => ?_⟩
      · simp only [Pool.set] at hprog
        split at hprog
        next heq =>
          cases hprog
          subst heq
          exact .inr hrest
        next hne => exact (h.calls other prog hprog).later (contract.others hguar hne)
      · simp only [Pool.set, if_pos] at hvalu
        rw [Option.some.inj hvalu] at hrest
        cases hrest with
        | done hpost => exact hpost

theorem Reach.allSafe (hsta : ∀ caller prog view, machine.starts caller prog → contract.valid view →
      Unseen caller view.trace → Safe contract caller (post caller) prog view)
    {pool : Pool ι σ Op Reply α} (hpool : Reach machine pool) : AllSafe contract post pool := by
  induction hpool with
  | init shared h => exact ⟨contract.initial h, nofun⟩
  | step hpool hstep ih =>
    cases hstep with
    | start caller prog hprog huns =>
      refine ⟨ih.valid, fun other prog' hprog' => ?_⟩
      simp only [Pool.set] at hprog'
      split at hprog'
      next heq =>
        cases hprog'
        subst heq
        exact .inr (hsta other prog _ hprog ih.valid huns)
      · exact ih.calls other prog' hprog'
    | perform hper => exact (ih.performs hper).2.1
    | abandon caller =>
      refine ⟨ih.valid, fun other prog hprog => ?_⟩
      simp only [Pool.set] at hprog
      split at hprog
      · cases hprog
      · exact ih.calls other prog hprog
    | interfere shared h =>
      obtain ⟨hval, hrely⟩ := contract.interferes ih.valid h
      exact ⟨hval, fun other prog hprog => (ih.calls other prog hprog).later (hrely other)⟩

end Soundness

end Threads
