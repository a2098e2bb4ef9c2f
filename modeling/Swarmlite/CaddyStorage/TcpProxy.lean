import Mathlib.Data.Finset.Basic
import Mathlib.Data.List.Pairwise
import Mathlib.Data.List.Perm.Subperm

/-!
# The TCP proxy — `caddy-storage/tcp.go`

Each route of the app has a goroutine that binds its listener and probes its backends
(`maintain`), each listener one that accepts clients (`accept`), and each client one that
forwards its traffic (`forward`). They share the flag of the cancelled context, the map of
tracked connections, the channel of slots and the wait group. `Cleanup` cancels the context,
closes what is tracked and waits.

A `Goroutine` is what such a goroutine does next, with the connections it has in hand.
`TcpApp.act` is one action of a goroutine and `TcpApp.mainAct` one of the caller of `Start` and
`Cleanup`; a run is any sequence of them.

`act_effect` says once what an action can do: to the slots, to open and tracked connections,
and to the connections in hand. `Sound` follows from it for every run. A connection is open
only while a goroutine has yet to close it, and tracked only while one has yet to remove it.
When the wait group is empty there is no goroutine, so nothing is open: **`tcp_lifecycle`**.

Mirroring notes:
- A section under `connMu` is one action. `Close` inside `track` and `Cleanup` belongs to it.
- Sockets are numbered in the order in which they are opened.
- Left open, as it depends on others: what `Accept`, `Listen` and the dialer return, when a copy
  ends, and which backend is healthy. Every outcome is possible at any time, also after the
  context was cancelled or the listener closed; the table of listeners is therefore left out.
- The two copying goroutines are not in the wait group. `forward` receives a result of each.
- Caddy calls `Cleanup` after `Start` has returned. `sync.Once` makes a second call wait.
- `taken` and `given` record for which client each slot was sent and received.
-/

namespace Swarmlite

def tcpConnectionLimit : Nat := 1024

/-- A goroutine, by what it does next. -/
inductive Goroutine where
  /-- `ln.Accept()` -/
  | accepting
  /-- The `select` on the slots. -/
  | accepted (conn : Nat)
  /-- No slot: `conn.Close()`. -/
  | refused (conn : Nat)
  /-- `track(conn)` -/
  | admitted (conn : Nat)
  /-- Not tracked: the slot is given back. -/
  | unslotting (conn : Nat)
  /-- `wg.Add(1)` and the goroutine of the client. -/
  | registered (conn : Nat)
  /-- Choosing and dialling a backend. -/
  | forwarding (conn : Nat)
  /-- `track(up)` -/
  | dialled (conn up : Nat)
  /-- Waiting for the first result. -/
  | copying (conn up : Nat)
  /-- A copy failed: `down.Close()`. -/
  | broken (conn up : Nat)
  /-- A copy failed: `up.Close()`. -/
  | halfClosed (conn up : Nat)
  /-- Waiting for the second result. -/
  | draining (conn up : Nat)
  /-- `untrack(up)`: `Close`. -/
  | closingUp (conn up : Nat)
  /-- `untrack(up)`: `delete`. -/
  | removingUp (conn up : Nat)
  /-- `untrack(conn)`: `Close`. -/
  | closing (conn : Nat) (up : Option Nat)
  /-- `untrack(conn)`: `delete`. -/
  | removing (conn : Nat) (up : Option Nat)
  /-- The forward has ended: the slot is given back. -/
  | releasing (conn : Nat) (up : Option Nat)
  /-- `checkHealth`: backends left, probes that dial, and connections of probes. -/
  | checking (backends left dialling : Nat) (probes : List Nat)
  /-- The `select` of `maintain`. -/
  | idle (backends : Nat)
  /-- `bind`: `Listen`. -/
  | binding (backends : Nat)
  /-- `bind`: the listener is there. -/
  | bound (backends : Nat)
  /-- `wg.Done()` -/
  | done
deriving DecidableEq

/-- The caller of `Start` and `Cleanup`, with the number of backends of each route. -/
inductive Main where
  | starting (routes : List Nat)
  | started (backends : Nat) (routes : List Nat)
  | running
  | cancelled
  | waiting
  | returned
deriving DecidableEq

/-- What an action comes to where others decide. -/
inductive TcpMove where
  | ok
  | fail
  /-- A further probe is started. -/
  | probe
  /-- The context is found cancelled. -/
  | stop
  /-- A probe closes its connection. -/
  | close (conn : Nat)
deriving DecidableEq

structure TcpApp where
  cancelled : Bool := false
  opened : Finset Nat := ∅
  tracked : Finset Nat := ∅
  slots : Nat := 0
  wg : Nat := 0
  next : Nat := 0
  goroutines : List Goroutine := []
  main : Main
  taken : List Nat := []
  given : List Nat := []

namespace TcpApp

/-- A new connection. -/
def connect (app : TcpApp) : TcpApp :=
  { app with opened := insert app.next app.opened, next := app.next + 1 }

def closeConn (app : TcpApp) (conn : Nat) : TcpApp :=
  { app with opened := app.opened.erase conn }

def track (app : TcpApp) (conn : Nat) : TcpApp :=
  { app with tracked := insert conn app.tracked }

def delete (app : TcpApp) (conn : Nat) : TcpApp :=
  { app with tracked := app.tracked.erase conn }

def takeSlot (app : TcpApp) (conn : Nat) : TcpApp :=
  { app with slots := app.slots + 1, taken := conn :: app.taken }

def giveSlot (app : TcpApp) (conn : Nat) : TcpApp :=
  { app with slots := app.slots - 1, given := conn :: app.given }

/-- One action of a goroutine: the app after it, and what the goroutine goes on as, with the
goroutine it has started. -/
def act (app : TcpApp) : Goroutine → TcpMove → Option (TcpApp × List Goroutine)
  | .accepting, .ok => some (app.connect, [.accepted app.next])
  | .accepting, .fail => some (app, [.done])
  | .accepted conn, .ok =>
    if app.slots < tcpConnectionLimit then some (app.takeSlot conn, [.admitted conn])
    else some (app, [.refused conn])
  | .refused conn, .ok => some (app.closeConn conn, [.accepting])
  | .admitted conn, .ok =>
    if app.cancelled then some (app.closeConn conn, [.unslotting conn])
    else some (app.track conn, [.registered conn])
  | .unslotting conn, .ok => some (app.giveSlot conn, [.accepting])
  | .registered conn, .ok => some ({ app with wg := app.wg + 1 }, [.accepting, .forwarding conn])
  | .forwarding conn, .fail => some (app, [.closing conn none])
  | .forwarding conn, .ok => some (app.connect, [.dialled conn app.next])
  | .dialled conn up, .ok =>
    if app.cancelled then some (app.closeConn up, [.closing conn (some up)])
    else some (app.track up, [.copying conn up])
  | .copying conn up, .ok => some (app, [.draining conn up])
  | .copying conn up, .fail => some (app, [.broken conn up])
  | .broken conn up, .ok => some (app.closeConn conn, [.halfClosed conn up])
  | .halfClosed conn up, .ok => some (app.closeConn up, [.draining conn up])
  | .draining conn up, .ok => some (app, [.closingUp conn up])
  | .closingUp conn up, .ok => some (app.closeConn up, [.removingUp conn up])
  | .removingUp conn up, .ok => some (app.delete up, [.closing conn (some up)])
  | .closing conn up, .ok => some (app.closeConn conn, [.removing conn up])
  | .removing conn up, .ok => some (app.delete conn, [.releasing conn up])
  | .releasing conn _, .ok => some (app.giveSlot conn, [.done])
  | .checking backends (left + 1) dialling probes, .probe =>
    some (app, [.checking backends left (dialling + 1) probes])
  | .checking backends _ dialling probes, .stop =>
    if app.cancelled then some (app, [.checking backends 0 dialling probes]) else none
  | .checking backends left (dialling + 1) probes, .fail =>
    some (app, [.checking backends left dialling probes])
  | .checking backends left (dialling + 1) probes, .ok =>
    some (app.connect, [.checking backends left dialling (app.next :: probes)])
  | .checking backends left dialling probes, .close conn =>
    if conn ∈ probes then
      some (app.closeConn conn, [.checking backends left dialling (probes.erase conn)])
    else none
  | .checking backends 0 0 [], .ok => some (app, [.idle backends])
  | .idle backends, .ok => some (app, [.binding backends])
  | .idle _, .stop => if app.cancelled then some (app, [.done]) else none
  | .binding backends, .fail => some (app, [.checking backends backends 0 []])
  | .binding backends, .ok => some (app, [.bound backends])
  | .bound backends, .ok =>
    if app.cancelled then some (app, [.checking backends backends 0 []])
    else some ({ app with wg := app.wg + 1 }, [.checking backends backends 0 [], .accepting])
  | .done, .ok => some ({ app with wg := app.wg - 1 }, [])
  | _, _ => none

/-- A goroutine is added to the wait group and started. -/
def spawn (app : TcpApp) (goroutine : Goroutine) : TcpApp :=
  { app with wg := app.wg + 1, goroutines := goroutine :: app.goroutines }

/-- One action of the caller. -/
def mainAct (app : TcpApp) (move : TcpMove) : Option TcpApp :=
  match app.main, move with
  | .starting (backends :: routes), .ok =>
    some { app.spawn .accepting with main := .started backends routes }
  | .starting (backends :: routes), .fail => some { app with main := .started backends routes }
  | .started backends routes, .ok =>
    some { app.spawn (.checking backends backends 0 []) with main := .starting routes }
  | .starting [], .ok => some { app with main := .running }
  | .running, .ok => some { app with cancelled := true, main := .cancelled }
  | .cancelled, .ok => some { app with opened := app.opened \ app.tracked, main := .waiting }
  | .waiting, .ok => if app.wg = 0 then some { app with main := .returned } else none
  | _, _ => none

end TcpApp

/-- Whose turn it is. -/
inductive Turn where
  | goroutine (index : Nat) (move : TcpMove)
  | main (move : TcpMove)

namespace TcpApp

def step (app : TcpApp) : Turn → Option TcpApp
  | .goroutine index move => do
    let goroutine ← app.goroutines[index]?
    let (app', next) ← app.act goroutine move
    return { app' with
      goroutines := app.goroutines.take index ++ next ++ app.goroutines.drop (index + 1) }
  | .main move => app.mainAct move

def run (app : TcpApp) : List Turn → Option TcpApp
  | [] => some app
  | turn :: turns => do
    let app' ← app.step turn
    run app' turns

/-- The app after `Provision`. -/
def provisioned (routes : List Nat) : TcpApp := { main := .starting routes }

end TcpApp

/-! ## What a goroutine has in hand -/

namespace Goroutine

/-- The connections of the goroutine. -/
def hand : Goroutine → List Nat
  | accepted conn | refused conn | admitted conn | unslotting conn | registered conn
  | forwarding conn => [conn]
  | dialled conn up | copying conn up | broken conn up | halfClosed conn up | draining conn up
  | closingUp conn up | removingUp conn up => [conn, up]
  | closing conn up | removing conn up | releasing conn up => conn :: up.toList
  | checking _ _ _ probes => probes
  | _ => []

/-- Those it has yet to close. -/
def unclosed : Goroutine → List Nat
  | unslotting _ | removing _ _ | releasing _ _ => []
  | removingUp conn _ | closing conn _ => [conn]
  | goroutine => goroutine.hand

/-- Those it has yet to remove from the map. -/
def listed : Goroutine → List Nat
  | registered conn | forwarding conn | dialled conn _ | closing conn _ | removing conn _ => [conn]
  | copying conn up | broken conn up | halfClosed conn up | draining conn up | closingUp conn up
  | removingUp conn up => [conn, up]
  | _ => []

/-- An accept loop. -/
def accepts : Goroutine → Bool
  | accepting | accepted _ | refused _ | admitted _ | unslotting _ | registered _ => true
  | _ => false

/-- An accept loop that is registering a client. -/
def registers : Goroutine → Bool
  | admitted _ | unslotting _ | registered _ => true
  | _ => false

/-- The goroutine of a client. -/
def forwards : Goroutine → Bool
  | forwarding _ | dialled _ _ | copying _ _ | broken _ _ | halfClosed _ _ | draining _ _
  | closingUp _ _ | removingUp _ _ | closing _ _ | removing _ _ | releasing _ _ => true
  | _ => false

/-- The client whose slot it has. -/
def slot (goroutine : Goroutine) : List Nat :=
  if goroutine.registers || goroutine.forwards then goroutine.hand.take 1 else []

/-- A client without a slot so far. -/
def unslotted : Goroutine → List Nat
  | accepted conn => [conn]
  | _ => []

end Goroutine

/-- What an action does to the slots. -/
inductive SlotUse (app : TcpApp) (goroutine : Goroutine) (app' : TcpApp)
    (next : List Goroutine) : Prop
  | kept (hslots : app'.slots = app.slots) (htaken : app'.taken = app.taken)
      (hgiven : app'.given = app.given) (hslot : next.flatMap Goroutine.slot = goroutine.slot)
      (hunslotted : ∀ conn ∈ next.flatMap Goroutine.unslotted,
        conn ∈ goroutine.unslotted ∨ app.next ≤ conn)
  | took (conn : Nat) (hfree : app.slots < tcpConnectionLimit) (hslots : app'.slots = app.slots + 1)
      (htaken : app'.taken = conn :: app.taken) (hgiven : app'.given = app.given)
      (hnone : goroutine.slot = []) (hslot : next.flatMap Goroutine.slot = [conn])
      (hunslotted : goroutine.unslotted = [conn])
      (hslotted : next.flatMap Goroutine.unslotted = [])
  | gave (conn : Nat) (hslots : app'.slots = app.slots - 1) (htaken : app'.taken = app.taken)
      (hgiven : app'.given = conn :: app.given) (hslot : goroutine.slot = [conn])
      (hnone : next.flatMap Goroutine.slot = [])
      (hunslotted : next.flatMap Goroutine.unslotted = [])

/-- What an action of a goroutine does. -/
structure ActEffect (app : TcpApp) (goroutine : Goroutine) (app' : TcpApp)
    (next : List Goroutine) : Prop where
  wg : 0 < app.wg → app'.wg + 1 = app.wg + next.length
  main : app'.main = app.main
  opened : ∀ conn ∈ app'.opened, conn ∈ next.flatMap Goroutine.unclosed ∨
    conn ∈ app.opened ∧ conn ∉ goroutine.unclosed
  tracked : ∀ conn ∈ app'.tracked, conn ∈ next.flatMap Goroutine.listed ∨
    conn ∈ app.tracked ∧ conn ∉ goroutine.listed
  hand : app'.next = app.next ∧ (next.flatMap Goroutine.hand).Subperm goroutine.hand ∨
    app'.next = app.next + 1 ∧ (next.flatMap Goroutine.hand).Subperm (app.next :: goroutine.hand)
  slots : SlotUse app goroutine app' next

section Actions

attribute [local simp] TcpApp.connect TcpApp.closeConn TcpApp.track TcpApp.delete TcpApp.takeSlot
  TcpApp.giveSlot Goroutine.hand Goroutine.unclosed Goroutine.listed Goroutine.unslotted
  List.Subperm.refl

theorem act_effect {app app' : TcpApp} {goroutine : Goroutine} {move : TcpMove}
    {next : List Goroutine} (h : app.act goroutine move = some (app', next)) :
    ActEffect app goroutine app' next := by
  unfold TcpApp.act at h
  split at h
  all_goals try split at h
  all_goals cases h
  all_goals refine ⟨?_, rfl, ?_, ?_, ?_, ?_⟩
  -- the slots change in one of three ways; the rest is about lists of one or two connections
  all_goals try first
    | exact .kept rfl rfl rfl rfl (by simp)
    | exact .took _ ‹_› rfl rfl rfl rfl rfl rfl rfl
    | exact .gave _ rfl rfl rfl rfl rfl rfl
  all_goals try (simp; done)
  all_goals try (simp; grind)
  · exact .inr ⟨rfl, (List.Perm.swap _ _ _).subperm⟩
  · exact .inl ⟨rfl, by simpa using List.erase_subperm _ _⟩

end Actions

/-! ## Invariant -/

/-- What holds between the shared state and the goroutines. -/
structure TcpSound (app : TcpApp) (goroutines : List Goroutine) : Prop where
  wg : app.wg = goroutines.length
  returned : app.main = .returned → goroutines = []
  opened : ∀ conn ∈ app.opened, conn ∈ goroutines.flatMap Goroutine.unclosed
  tracked : ∀ conn ∈ app.tracked, conn ∈ goroutines.flatMap Goroutine.listed
  hand : (goroutines.flatMap Goroutine.hand).Nodup
  known : ∀ conn ∈ goroutines.flatMap Goroutine.hand, conn < app.next
  slots : app.slots = (goroutines.flatMap Goroutine.slot).length
  limit : app.slots ≤ tcpConnectionLimit
  log : app.taken.Perm (app.given ++ goroutines.flatMap Goroutine.slot)
  once : app.taken.Nodup
  taken : ∀ conn ∈ app.taken, conn < app.next ∧ conn ∉ goroutines.flatMap Goroutine.unslotted

namespace TcpSound

variable {app app' : TcpApp} {goroutine : Goroutine} {goroutines next rest : List Goroutine}

theorem perm (h : TcpSound app goroutines) (hperm : goroutines.Perm next) : TcpSound app next where
  wg := h.wg.trans hperm.length_eq
  returned := fun hmain => (h.returned hmain ▸ hperm).nil_eq.symm
  opened := fun conn hconn => (hperm.flatMap_right _).subset (h.opened conn hconn)
  tracked := fun conn hconn => (hperm.flatMap_right _).subset (h.tracked conn hconn)
  hand := (hperm.flatMap_right _).nodup h.hand
  known := fun conn hconn => h.known conn ((hperm.flatMap_right _).symm.subset hconn)
  slots := h.slots.trans (hperm.flatMap_right _).length_eq
  limit := h.limit
  log := h.log.trans ((hperm.flatMap_right _).append_left _)
  once := h.once
  taken := fun conn hconn => ⟨(h.taken conn hconn).1, fun huns =>
    (h.taken conn hconn).2 ((hperm.flatMap_right _).symm.subset huns)⟩

end TcpSound

namespace Goroutine

variable {goroutine : Goroutine} {conn : Nat}

theorem hand_of_unslotted (h : conn ∈ goroutine.unslotted) : conn ∈ goroutine.hand := by
  cases goroutine with
  | accepted => exact h
  | _ => cases h

theorem hand_of_slot (h : conn ∈ goroutine.slot) : conn ∈ goroutine.hand := by
  unfold slot at h
  split at h
  · exact List.mem_of_mem_take h
  · cases h

theorem hand_of_unclosed (h : conn ∈ goroutine.unclosed) : conn ∈ goroutine.hand := by
  cases goroutine with
  | unslotting | removing | releasing => cases h
  | removingUp | closing => exact List.mem_cons.mpr (.inl (List.mem_singleton.mp h))
  | _ => exact h

theorem hand_of_listed (h : conn ∈ goroutine.listed) : conn ∈ goroutine.hand := by
  cases goroutine with
  | registered | forwarding | copying | broken | halfClosed | draining | closingUp
  | removingUp => exact h
  | dialled | closing | removing => exact List.mem_cons.mpr (.inl (List.mem_singleton.mp h))
  | _ => cases h

end Goroutine

namespace TcpSound

variable {app app' : TcpApp} {goroutine : Goroutine} {goroutines next rest : List Goroutine}
  {conn : Nat}

/-- What the goroutines have in hand after an action. -/
theorem hand_after (heff : ActEffect app goroutine app' next) :
    ((next ++ rest).flatMap Goroutine.hand).Subperm ((goroutine :: rest).flatMap Goroutine.hand) ∨
    app'.next = app.next + 1 ∧ ((next ++ rest).flatMap Goroutine.hand).Subperm
      (app.next :: (goroutine :: rest).flatMap Goroutine.hand) := by
  rw [List.flatMap_append, List.flatMap_cons]
  rcases heff.hand with ⟨-, hsub⟩ | ⟨hlar, hsub⟩
  · exact .inl (hsub.append (List.Subperm.refl _))
  · exact .inr ⟨hlar, hsub.append (List.Subperm.refl _)⟩

/-- An action on the slots keeps their log. -/
theorem slots_after (h : TcpSound app (goroutine :: rest))
    (huse : SlotUse app goroutine app' next) :
    app'.slots = ((next ++ rest).flatMap Goroutine.slot).length ∧
    app'.slots ≤ tcpConnectionLimit ∧
    app'.taken.Perm (app'.given ++ (next ++ rest).flatMap Goroutine.slot) := by
  have hslo := h.slots
  have hlog := h.log
  have hlim := h.limit
  rw [List.flatMap_cons] at hslo hlog
  rw [List.flatMap_append]
  cases huse with
  | kept hsame htak hgiv hslot =>
    rw [hsame, htak, hgiv, hslot]
    exact ⟨hslo, hlim, hlog⟩
  | took conn hfree hmore htak hgiv hnone hslot =>
    rw [hnone, List.nil_append] at hslo hlog
    rw [hmore, htak, hgiv, hslot, List.singleton_append, List.length_cons]
    exact ⟨by rw [hslo], hfree, (hlog.cons conn).trans List.perm_middle.symm⟩
  | gave conn hless htak hgiv hslot hnone =>
    rw [hslot, List.singleton_append] at hslo hlog
    rw [hless, htak, hgiv, hnone, List.nil_append]
    rw [List.length_cons] at hslo
    exact ⟨by omega, by omega, hlog.trans List.perm_middle⟩

/-- A client that has taken a slot takes no second one. -/
theorem taken_after (h : TcpSound app (goroutine :: rest))
    (heff : ActEffect app goroutine app' next) (hnext : app.next ≤ app'.next) :
    app'.taken.Nodup ∧ ∀ conn ∈ app'.taken, conn < app'.next ∧
      conn ∉ (next ++ rest).flatMap Goroutine.unslotted := by
  have htak := h.taken
  simp only [List.flatMap_cons, List.mem_append, not_or] at htak
  simp only [List.flatMap_append, List.mem_append, not_or]
  cases heff.slots with
  | kept _ hsame _ _ huns =>
    rw [hsame]
    refine ⟨h.once, fun conn hconn => ?_⟩
    obtain ⟨hlt, hnot, hrest⟩ := htak conn hconn
    refine ⟨Nat.lt_of_lt_of_le hlt hnext, fun hin => ?_, hrest⟩
    rcases huns conn hin with hold | hnew
    · exact hnot hold
    · omega
  | took conn _ _ hmore _ _ _ huns hslo =>
    have hin : conn ∈ goroutine.unslotted := huns ▸ List.mem_singleton_self conn
    have hhand := Goroutine.hand_of_unslotted hin
    have hnod := h.hand
    rw [List.flatMap_cons, List.nodup_append'] at hnod
    rw [hmore, hslo]
    refine ⟨List.nodup_cons.mpr ⟨fun hold => (htak conn hold).2.1 hin, h.once⟩, ?_⟩
    intro other hoth
    refine ⟨?_, List.not_mem_nil, ?_⟩
    · rcases List.mem_cons.mp hoth with rfl | hold
      · exact Nat.lt_of_lt_of_le (h.known other (List.mem_append_left _ hhand)) hnext
      · exact Nat.lt_of_lt_of_le (htak other hold).1 hnext
    · rcases List.mem_cons.mp hoth with rfl | hold
      · -- it is in the hand of this goroutine, so in no other
        intro hrest
        obtain ⟨another, hano, hmem⟩ := List.mem_flatMap.mp hrest
        exact hnod.2.2 hhand
          (List.mem_flatMap.mpr ⟨another, hano, Goroutine.hand_of_unslotted hmem⟩)
      · exact (htak other hold).2.2
  | gave conn _ hsame _ _ _ huns =>
    rw [hsame, huns]
    refine ⟨h.once, fun conn hconn => ?_⟩
    obtain ⟨hlt, -, hrest⟩ := htak conn hconn
    exact ⟨Nat.lt_of_lt_of_le hlt hnext, List.not_mem_nil, hrest⟩

/-- What a goroutine is done with comes from it alone. -/
theorem mem_after {f : Goroutine → List Nat} {before : Finset Nat}
    (h : ∀ conn ∈ before, conn ∈ (goroutine :: rest).flatMap f)
    (haft : conn ∈ next.flatMap f ∨ conn ∈ before ∧ conn ∉ f goroutine) :
    conn ∈ (next ++ rest).flatMap f := by
  rw [List.flatMap_append, List.mem_append]
  rcases haft with hin | ⟨hold, hnot⟩
  · exact .inl hin
  · rcases List.mem_append.mp (h conn hold) with hown | hrest
    · exact absurd hown hnot
    · exact .inr hrest

theorem act (h : TcpSound app (goroutine :: rest)) (heff : ActEffect app goroutine app' next) :
    TcpSound app' (next ++ rest) := by
  have hnext : app.next ≤ app'.next := by
    rcases heff.hand with ⟨hsame, -⟩ | ⟨hlar, -⟩ <;> omega
  have hfre : app.next ∉ (goroutine :: rest).flatMap Goroutine.hand :=
    fun hmem => Nat.lt_irrefl _ (h.known _ hmem)
  obtain ⟨hslo, hlim, hlog⟩ := h.slots_after heff.slots
  obtain ⟨honce, htak⟩ := h.taken_after heff hnext
  have hwg := h.wg
  rw [List.length_cons] at hwg
  have hwg' := heff.wg (by omega)
  refine ⟨?_, ?_, ?_, ?_, ?_, ?_, hslo, hlim, hlog, honce, htak⟩
  · rw [List.length_append]
    omega
  · intro hmain
    cases h.returned (heff.main ▸ hmain)
  · exact fun conn hconn => mem_after h.opened (heff.opened conn hconn)
  · exact fun conn hconn => mem_after h.tracked (heff.tracked conn hconn)
  · rcases hand_after heff with ⟨_, hperm, hsub⟩ | ⟨-, _, hperm, hsub⟩
    · exact hperm.nodup (hsub.nodup h.hand)
    · exact hperm.nodup (hsub.nodup (List.nodup_cons.mpr ⟨hfre, h.hand⟩))
  · intro conn hconn
    rcases hand_after heff with hsub | ⟨hlar, hsub⟩
    · exact Nat.lt_of_lt_of_le (h.known conn (hsub.subset hconn)) hnext
    · rcases List.mem_cons.mp (hsub.subset hconn) with rfl | hold
      · omega
      · exact Nat.lt_of_lt_of_le (h.known conn hold) hnext

/-- A goroutine starts with nothing in hand. -/
theorem spawn {main : Main} (h : TcpSound app goroutines) (hhand : goroutine.hand = [])
    (hmain : main ≠ .returned) :
    TcpSound { app.spawn goroutine with main } (goroutine :: goroutines) := by
  have hnone : ∀ {f : Goroutine → List Nat}, (∀ conn ∈ f goroutine, conn ∈ goroutine.hand) →
      (goroutine :: goroutines).flatMap f = goroutines.flatMap f := by
    intro f hf
    rw [hhand] at hf
    rw [List.flatMap_cons, List.eq_nil_iff_forall_not_mem.mpr fun conn hconn =>
      absurd (hf conn hconn) List.not_mem_nil, List.nil_append]
  have hslot := hnone fun _ => Goroutine.hand_of_slot
  refine ⟨congrArg Nat.succ h.wg, fun hback => absurd hback hmain, ?_, ?_, ?_, ?_,
    hslot ▸ h.slots, h.limit, hslot ▸ h.log, h.once, ?_⟩
  · rw [hnone fun _ => Goroutine.hand_of_unclosed]
    exact h.opened
  · rw [hnone fun _ => Goroutine.hand_of_listed]
    exact h.tracked
  · rw [hnone fun _ hconn => hconn]
    exact h.hand
  · rw [hnone fun _ hconn => hconn]
    exact h.known
  · rw [hnone fun _ => Goroutine.hand_of_unslotted]
    exact h.taken

/-- The caller goes on; it returns when there is no goroutine left. -/
theorem proceed {main : Main} {opened : Finset Nat} {cancelled : Bool}
    (h : TcpSound app goroutines) (hope : opened ⊆ app.opened)
    (hmain : main = .returned → goroutines = []) :
    TcpSound { app with main, opened, cancelled } goroutines :=
  { h with
    returned := hmain
    opened := fun conn hconn => h.opened conn (hope hconn) }

theorem mainAct {move : TcpMove} (h : TcpSound app app.goroutines)
    (hact : app.mainAct move = some app') : TcpSound app' app'.goroutines := by
  unfold TcpApp.mainAct at hact
  split at hact
  · cases hact; exact h.spawn rfl nofun
  · cases hact; exact h.proceed (Finset.Subset.refl _) nofun
  · cases hact; exact h.spawn rfl nofun
  · cases hact; exact h.proceed (Finset.Subset.refl _) nofun
  · cases hact; exact h.proceed (Finset.Subset.refl _) nofun
  · cases hact; exact h.proceed Finset.sdiff_subset nofun
  · split at hact
    next hwait =>
      cases hact
      refine h.proceed (Finset.Subset.refl _) fun _ => ?_
      exact List.length_eq_zero_iff.mp (h.wg.symm.trans hwait)
    · cases hact
  · cases hact

theorem step {turn : Turn} (h : TcpSound app app.goroutines) (hstep : app.step turn = some app') :
    TcpSound app' app'.goroutines := by
  cases turn with
  | main move => exact h.mainAct hstep
  | goroutine index move =>
    obtain ⟨goroutine, hgor, hstep⟩ := Option.bind_eq_some_iff.mp hstep
    obtain ⟨⟨after, next⟩, hact, hstep⟩ := Option.bind_eq_some_iff.mp hstep
    cases hstep
    obtain ⟨hind, rfl⟩ := List.getElem?_eq_some_iff.mp hgor
    -- the goroutine whose turn it is may as well be the first one
    have hspl : app.goroutines.Perm (app.goroutines[index]
        :: (app.goroutines.take index ++ app.goroutines.drop (index + 1))) := by
      have hwho := List.take_append_drop index app.goroutines
      rw [List.drop_eq_getElem_cons hind] at hwho
      conv => lhs; rw [← hwho]
      exact List.perm_middle
    have haft : TcpSound after
        (app.goroutines.take index ++ next ++ app.goroutines.drop (index + 1)) := by
      refine ((h.perm hspl).act (act_effect hact)).perm ?_
      rw [← List.append_assoc]
      exact List.perm_append_comm.append_right _
    exact { haft with }

theorem run {turns : List Turn} (h : TcpSound app app.goroutines)
    (hrun : app.run turns = some app') : TcpSound app' app'.goroutines := by
  induction turns generalizing app with
  | nil =>
    cases hrun
    exact h
  | cons turn turns ih =>
    obtain ⟨mid, hstep, hrun⟩ := Option.bind_eq_some_iff.mp hrun
    exact ih (h.step hstep) hrun

theorem provisioned (routes : List Nat) :
    TcpSound (TcpApp.provisioned routes) (TcpApp.provisioned routes).goroutines where
  wg := rfl
  returned := nofun
  opened := nofun
  tracked := nofun
  hand := List.nodup_nil
  known := nofun
  slots := rfl
  limit := Nat.zero_le _
  log := List.Perm.refl _
  once := List.nodup_nil
  taken := nofun

/-- The slots are those of clients being forwarded and of clients being registered. -/
theorem slots_eq (goroutines : List Goroutine) : (goroutines.flatMap Goroutine.slot).length
      = goroutines.countP Goroutine.forwards + goroutines.countP Goroutine.registers := by
  induction goroutines with
  | nil => rfl
  | cons goroutine rest ih =>
    rw [List.flatMap_cons, List.length_append, ih, List.countP_cons, List.countP_cons]
    have hone : goroutine.slot.length = (if goroutine.forwards then 1 else 0)
        + (if goroutine.registers then 1 else 0) := by cases goroutine <;> rfl
    omega

/-- A connection is in the hand of one goroutine. -/
theorem eq_of_hand (h : TcpSound app goroutines) {other : Goroutine}
    (hgor : goroutine ∈ goroutines) (hoth : other ∈ goroutines)
    (hconn : conn ∈ goroutine.hand) (hconn' : conn ∈ other.hand) : goroutine = other := by
  have hsymm : Std.Symm (Function.onFun List.Disjoint Goroutine.hand) := ⟨fun _ _ hdis => hdis.symm⟩
  by_contra hne
  exact (List.nodup_flatMap.mp h.hand).2.forall hgor hoth hne hconn hconn'

/-- A connection that every goroutine has closed and removed. -/
theorem closed (h : TcpSound app goroutines)
    (hdone : ∀ goroutine ∈ goroutines, conn ∈ goroutine.hand →
      goroutine.unclosed = [] ∧ goroutine.listed = []) :
    conn ∉ app.opened ∧ conn ∉ app.tracked := by
  constructor
  · intro hope
    obtain ⟨goroutine, hgor, hmem⟩ := List.mem_flatMap.mp (h.opened conn hope)
    rw [(hdone goroutine hgor (Goroutine.hand_of_unclosed hmem)).1] at hmem
    cases hmem
  · intro htra
    obtain ⟨goroutine, hgor, hmem⟩ := List.mem_flatMap.mp (h.tracked conn htra)
    rw [(hdone goroutine hgor (Goroutine.hand_of_listed hmem)).2] at hmem
    cases hmem

end TcpSound

/-- **The lifecycle of a connection.** After every run from `Provision` on: -/
theorem tcp_lifecycle {routes : List Nat} {turns : List Turn} {app : TcpApp}
    (h : (TcpApp.provisioned routes).run turns = some app) :
    -- the slots are those of the clients being forwarded, and of at most one per listener
    -- that is being registered
    (app.slots = app.goroutines.countP Goroutine.forwards
        + app.goroutines.countP Goroutine.registers ∧
      app.goroutines.countP Goroutine.registers ≤ app.goroutines.countP Goroutine.accepts ∧
      app.slots ≤ tcpConnectionLimit) ∧
    -- a client takes one slot; it has been given back once, or a goroutine still has it
    (app.taken.Nodup ∧ app.taken.Perm (app.given ++ app.goroutines.flatMap Goroutine.slot)) ∧
    -- the connections of a forward that has ended are closed and not tracked
    (∀ client up, Goroutine.releasing client up ∈ app.goroutines →
      ∀ conn ∈ client :: up.toList, conn ∉ app.opened ∧ conn ∉ app.tracked) ∧
    (∀ conn, (∀ goroutine ∈ app.goroutines, conn ∉ goroutine.hand) →
      conn ∉ app.opened ∧ conn ∉ app.tracked) ∧
    -- when `Cleanup` has returned there is none
    (app.main = .returned → app.opened = ∅ ∧ app.tracked = ∅ ∧ app.slots = 0 ∧
      app.taken.Perm app.given) := by
  have hsou := (TcpSound.provisioned routes).run h
  refine ⟨⟨hsou.slots.trans (TcpSound.slots_eq _), ?_, hsou.limit⟩, ⟨hsou.once, hsou.log⟩,
    ?_, ?_, ?_⟩
  · refine List.countP_mono_left fun goroutine _ hreg => ?_
    cases goroutine <;> first | rfl | cases hreg
  · intro client up hrel conn hconn
    refine hsou.closed fun other hoth hhand => ?_
    rw [← hsou.eq_of_hand hrel hoth hconn hhand]
    exact ⟨rfl, rfl⟩
  · exact fun conn hnone => hsou.closed fun other hoth hhand =>
      absurd hhand (hnone other hoth)
  · intro hret
    have hnone := hsou.returned hret
    rw [hnone] at hsou
    have hlog := hsou.log
    rw [List.flatMap_nil, List.append_nil] at hlog
    refine ⟨Finset.eq_empty_of_forall_notMem fun conn hconn => ?_,
      Finset.eq_empty_of_forall_notMem fun conn hconn => ?_, hsou.slots, hlog⟩
    · cases hsou.opened conn hconn
    · cases hsou.tracked conn hconn

/-- A client is accepted and forwarded, and `Cleanup` called while it is. -/
def clientServed : List Turn :=
  [.main .ok, .main .ok, .main .ok] ++ List.replicate 4 (.goroutine 1 .ok)
    ++ List.replicate 2 (.goroutine 2 .ok) ++ [.main .ok, .main .ok, .goroutine 2 .fail]
    ++ List.replicate 9 (.goroutine 2 .ok)
    ++ [.goroutine 1 .fail, .goroutine 1 .ok, .goroutine 0 .stop, .goroutine 0 .ok,
        .goroutine 0 .stop, .goroutine 0 .ok, .main .ok]

theorem tcp_lifecycle_served :
    ∃ app, (TcpApp.provisioned [1]).run clientServed = some app ∧ app.main = .returned ∧
      app.given = [0] ∧ app.opened = ∅ ∧ app.tracked = ∅ := by
  have hser : ((TcpApp.provisioned [1]).run clientServed).map
      (fun app => (app.main, app.given)) = some (.returned, [0]) := by decide
  obtain ⟨app, hrun, hfie⟩ := Option.map_eq_some_iff.mp hser
  obtain ⟨hret, hgiv⟩ := Prod.mk.inj hfie
  obtain ⟨hope, htra, -, -⟩ := (tcp_lifecycle hrun).2.2.2.2 hret
  exact ⟨app, hrun, hret, hgiv, hope, htra⟩

end Swarmlite
