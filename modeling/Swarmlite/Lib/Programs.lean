/-!
# Programs — operations performed one after the other

A `Prog` performs operations and goes on with their replies. What a program may do is
said by a guard, which sees the operation and everything performed before it: `Obeys`
is a guard kept along every branch, with a postcondition at the end, whatever the
replies are. Of a program that was followed for a while, what it did is `Guarded` and
the rest obeys.
-/

namespace Programs

variable {Op : Type} {Reply : Op → Type} {α β : Type}

inductive Prog (Op : Type) (Reply : Op → Type) (α : Type) where
  | done (value : α)
  | call (op : Op) (next : Reply op → Prog Op Reply α)

namespace Prog

def bind : Prog Op Reply α → (α → Prog Op Reply β) → Prog Op Reply β
  | .done value, rest => rest value
  | .call op next, rest => .call op fun reply => (next reply).bind rest

instance : Monad (Prog Op Reply) where
  pure := .done
  bind := bind

/-- One operation. -/
def perform (op : Op) : Prog Op Reply (Reply op) := .call op .done

end Prog

/-- An operation that was performed, and its reply. -/
structure Act (Op : Type) (Reply : Op → Type) where
  op : Op
  reply : Reply op

/-- Every operation the program goes on to perform meets `guard`, given what was
performed before it, latest first; and it ends in `post`. -/
def Obeys (guard : List (Act Op Reply) → Op → Prop) (post : α → List (Act Op Reply) → Prop) :
    List (Act Op Reply) → Prog Op Reply α → Prop
  | acts, .done value => post value acts
  | acts, .call op next => guard acts op ∧ ∀ reply, Obeys guard post (⟨op, reply⟩ :: acts)
    (next reply)

/-- Every operation that was performed met the guard when it was. -/
def Guarded (guard : List (Act Op Reply) → Op → Prop) : List (Act Op Reply) → Prop
  | [] => True
  | act :: acts => guard acts act.op ∧ Guarded guard acts

section Rules

variable {guard : List (Act Op Reply) → Op → Prop} {acts : List (Act Op Reply)}

theorem Obeys.bind {post : α → List (Act Op Reply) → Prop} {post' : β → List (Act Op Reply) → Prop}
    {prog : Prog Op Reply α} {rest : α → Prog Op Reply β} (h : Obeys guard post acts prog)
    (hrest : ∀ value after, post value after → Obeys guard post' after (rest value)) :
    Obeys guard post' acts (prog >>= rest) := by
  induction prog generalizing acts with
  | done value => exact hrest value acts h
  | call op next ih => exact ⟨h.1, fun reply => ih reply (h.2 reply)⟩

theorem Guarded.of_append {newer older : List (Act Op Reply)} {act : Act Op Reply}
    (h : Guarded guard (newer ++ act :: older)) : guard older act.op := by
  induction newer with
  | nil => exact h.1
  | cons _ newer ih => exact ih h.2

end Rules

end Programs
