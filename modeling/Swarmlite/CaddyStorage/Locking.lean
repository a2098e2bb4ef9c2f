import Swarmlite.Kv.Locks

/-!
# Locks of one storage instance — `caddy-storage/storage.go`

Caddy serialises the work on a certificate with a lock from its storage. Here the
lock is taken at the controller and remembered in the map `locks` of the instance;
if the controller does not answer, a lock file takes its place. Many goroutines call
`Lock`, `TryLock` and `Unlock` on the one instance, and all of them act under the
one owner id it drew at the start.

A call is not atomic. `Lock` looks whether the name is free, asks the controller
(again and again while the lock is busy), and only then writes the map; `phase` says
where each caller stands and `LockingAction` is one step of one caller, of the
renewal loop or of somebody else. The controller's side is `LockTables.serve`.

The map is what keeps callers of one instance apart: the controller cannot, since it
gives a lock again to the owner that has it. So exclusion holds if no two calls for a
name are between their check and their entry at the same time
(`holders_exclusive`): then a name has at most one caller that is engaged with it, its
entry is missing while that caller is on its way (`free`) and present once it holds
the lock (`held`). Two calls that pass the check together both get the lock
(`holders_overlap`).

Mirroring notes:
- `certificateLockEligible` asks which gateway owns the host; its answer only decides
  whether a call goes on or gives up, so it is part of `giveUp`.
- A reply may be lost on the way (`lost`); the caller then sees an error.
- `FileStorage` creates a lock file only if there is none.
- `Unlock` is called by the caller that holds the lock.
-/

namespace Swarmlite

open Ordered

structure HeldLock where
  remote : Bool
  fencingToken : Nat
deriving DecidableEq

/-- Where a caller stands. -/
inductive LockPhase where
  | idle
  /-- The name was free. -/
  | checked (name : String) (blocking : Bool)
  /-- The controller gave the lock. -/
  | granted (name : String) (token : Nat)
  /-- The controller did not answer. -/
  | unanswered (name : String)
  /-- The lock file was created. -/
  | filed (name : String)
  /-- `Lock` or `TryLock` has returned. -/
  | holding (name : String)
  /-- `Unlock` has taken the entry out of the map. -/
  | releasing (name : String) (held : HeldLock)
deriving DecidableEq

structure StorageInstance where
  ownerId : String
  lockLeaseMillis : Nat
  locks : Map String HeldLock := Table.empty
  lockFiles : Keys String := Table.empty
  tables : LockTables
  phase : Nat → LockPhase := fun _ => .idle

inductive LockingAction where
  /-- `Lock` or `TryLock` is called and looks whether the name is free. -/
  | check (caller : Nat) (name : String) (blocking : Bool)
  | acquire (caller : Nat) (now : Int) (sqlite : Option String) (lost : Bool)
  /-- The context ends, or another gateway owns the host. -/
  | giveUp (caller : Nat)
  | createFile (caller : Nat)
  /-- The lock is written into the map. -/
  | remember (caller : Nat)
  | unlock (caller : Nat)
  | release (caller : Nat) (now : Int) (sqlite : Option String)
  | renew (name : String) (token : Nat) (now : Int) (sqlite : Option String)
  /-- A request of another instance. -/
  | other (request : LockRequest) (now : Int) (sqlite : Option String)

def namespacedLock (name : String) : String := "caddy/locks/" ++ name

namespace StorageInstance

def ensureLockIsFree (storage : StorageInstance) (name : String) : Bool :=
  (storage.locks.lookup name).isNone

def acquireRequest (storage : StorageInstance) (name : String) : LockRequest :=
  .acquire { name := namespacedLock name, ownerId := storage.ownerId,
             leaseMillis := storage.lockLeaseMillis }

def mutationRequest (storage : StorageInstance) (name : String) (token : Nat)
    (leaseMillis : Option Nat) : KvLockMutationRequest :=
  { name := namespacedLock name, ownerId := storage.ownerId, fencingToken := token, leaseMillis }

def goto (storage : StorageInstance) (caller : Nat) (phase : LockPhase) : StorageInstance :=
  { storage with phase := Function.update storage.phase caller phase }

/-- The controller's side of a request. -/
def ask (storage : StorageInstance) (now : Int) (sqlite : Option String) (request : LockRequest) :
    StorageInstance × Except ControllerError LockAnswer :=
  let served := storage.tables.serve now sqlite request
  ({ storage with tables := served.1 }, served.2)

/-- Where a call goes with the controller's answer. -/
def answered (name : String) (blocking : Bool) : Except ControllerError LockAnswer → LockPhase
  | .ok (.lock response) =>
    match response.status, response.fencingToken with
    | .acquired, some token => .granted name token
    | .acquired, none => if blocking then .unanswered name else .idle
    | .busy, _ => if blocking then .checked name blocking else .idle
  | _ => .unanswered name

def remember (storage : StorageInstance) (caller : Nat) (name : String) (held : HeldLock) :
    StorageInstance :=
  ({ storage with locks := storage.locks.put name held }).goto caller (.holding name)

def step (storage : StorageInstance) : LockingAction → StorageInstance
  | .check caller name blocking =>
    match storage.phase caller with
    | .idle =>
      if storage.ensureLockIsFree name then storage.goto caller (.checked name blocking)
      else storage
    | _ => storage
  | .acquire caller now sqlite lost =>
    match storage.phase caller with
    | .checked name blocking =>
      let asked := storage.ask now sqlite (storage.acquireRequest name)
      asked.1.goto caller (if lost then .unanswered name else answered name blocking asked.2)
    | _ => storage
  | .giveUp caller =>
    match storage.phase caller with
    | .checked _ _ => storage.goto caller .idle
    | .unanswered _ => storage.goto caller .idle
    | _ => storage
  | .createFile caller =>
    match storage.phase caller with
    | .unanswered name =>
      if storage.lockFiles.contains name then storage
      else ({ storage with lockFiles := storage.lockFiles.insert name }).goto caller (.filed name)
    | _ => storage
  | .remember caller =>
    match storage.phase caller with
    | .granted name token => storage.remember caller name { remote := true, fencingToken := token }
    | .filed name => storage.remember caller name { remote := false, fencingToken := 0 }
    | _ => storage
  | .unlock caller =>
    match storage.phase caller with
    | .holding name =>
      match storage.locks.lookup name with
      | none => storage.goto caller .idle
      | some held =>
        ({ storage with locks := storage.locks.erase name }).goto caller (.releasing name held)
    | _ => storage
  | .release caller now sqlite =>
    match storage.phase caller with
    | .releasing name held =>
      if held.remote then
        (storage.ask now sqlite
          (.release (storage.mutationRequest name held.fencingToken none))).1.goto caller .idle
      else ({ storage with lockFiles := storage.lockFiles.erase name }).goto caller .idle
    | _ => storage
  | .renew name token now sqlite =>
    (storage.ask now sqlite
      (.renew (storage.mutationRequest name token (some storage.lockLeaseMillis)))).1
  | .other request now sqlite => (storage.ask now sqlite request).1

end StorageInstance

/-! ## Engaged callers -/

/-- The name a caller has found free and not yet entered into the map. -/
def LockPhase.underWay : LockPhase → Option String
  | .checked name _ => some name
  | .granted name _ => some name
  | .unanswered name => some name
  | .filed name => some name
  | _ => none

/-- The name a caller is on its way to or holds. -/
def LockPhase.engaged : LockPhase → Option String
  | .holding name => some name
  | phase => phase.underWay

variable {phase : LockPhase} {name : String} {caller : Nat} {storage : StorageInstance}
  {storage' : StorageInstance}

theorem LockPhase.engaged_cases
    (h : phase.engaged = some name) : phase.underWay = some name ∨ phase = .holding name := by
  cases phase with
  | holding held =>
    cases h
    exact .inr rfl
  | _ => exact .inl h

theorem LockPhase.engaged_of_underWay (h : phase.underWay = some name) :
    phase.engaged = some name := by
  cases phase with
  | holding => cases h
  | _ => exact h

theorem answered_cases (name : String) (blocking : Bool)
    (answer : Except ControllerError LockAnswer) :
    StorageInstance.answered name blocking answer = .idle ∨
      (StorageInstance.answered name blocking answer).underWay = some name := by
  unfold StorageInstance.answered
  split
  · split
    · exact .inr rfl
    · cases blocking with
      | true => exact .inr rfl
      | false => exact .inl rfl
    · cases blocking with
      | true => exact .inr rfl
      | false => exact .inl rfl
  · exact .inr rfl

/-- Everything a step can do to the phases and the map. -/
inductive Moved (storage : StorageInstance) (action : LockingAction)
    (storage' : StorageInstance) : Prop
  | quiet (hphase : storage'.phase = storage.phase) (hlocks : storage'.locks = storage.locks)
  /-- A call passes its check. -/
  | start (caller : Nat) (name : String) (blocking : Bool)
      (haction : action = .check caller name blocking)
      (hphase : storage'.phase = Function.update storage.phase caller (.checked name blocking))
      (hlocks : storage'.locks = storage.locks) (hfree : storage.locks.lookup name = none)
  /-- A caller goes on with its name, or ends without the lock. -/
  | walk (caller : Nat) (phase : LockPhase)
      (hphase : storage'.phase = Function.update storage.phase caller phase)
      (hlocks : storage'.locks = storage.locks)
      (hnext : phase.engaged = none ∨ ∃ name, phase.underWay = some name ∧
        (storage.phase caller).underWay = some name)
  | enter (caller : Nat) (name : String) (held : HeldLock)
      (hphase : storage'.phase = Function.update storage.phase caller (.holding name))
      (hlocks : storage'.locks = storage.locks.put name held)
      (hbefore : (storage.phase caller).underWay = some name)
  | leave (caller : Nat) (name : String) (phase : LockPhase)
      (hphase : storage'.phase = Function.update storage.phase caller phase)
      (hlocks : storage'.locks = storage.locks.erase name)
      (hbefore : storage.phase caller = .holding name) (hnext : phase.engaged = none)

theorem step_moved (storage : StorageInstance) (action : LockingAction) :
    Moved storage action (storage.step action) := by
  cases action with
  | check caller name blocking =>
    simp only [StorageInstance.step]
    split
    · split
      next hfree =>
        exact .start caller name blocking rfl rfl rfl (Option.isNone_iff_eq_none.mp hfree)
      · exact .quiet rfl rfl
    · exact .quiet rfl rfl
  | acquire caller now sqlite lost =>
    simp only [StorageInstance.step]
    split
    next name blocking hpha =>
      have hbef : (storage.phase caller).underWay = some name := by rw [hpha]; rfl
      refine .walk caller _ rfl rfl ?_
      cases lost with
      | true => exact .inr ⟨name, rfl, hbef⟩
      | false =>
        rcases answered_cases name blocking
          (storage.ask now sqlite (storage.acquireRequest name)).2 with hidle | hname
        · refine .inl ?_
          show (StorageInstance.answered name blocking _).engaged = none
          rw [hidle]
          rfl
        · exact .inr ⟨name, hname, hbef⟩
    · exact .quiet rfl rfl
  | giveUp caller =>
    simp only [StorageInstance.step]
    split
    · exact .walk caller .idle rfl rfl (.inl rfl)
    · exact .walk caller .idle rfl rfl (.inl rfl)
    · exact .quiet rfl rfl
  | createFile caller =>
    simp only [StorageInstance.step]
    split
    next name hpha =>
      split
      · exact .quiet rfl rfl
      · exact .walk caller (.filed name) rfl rfl (.inr ⟨name, rfl, by rw [hpha]; rfl⟩)
    · exact .quiet rfl rfl
  | remember caller =>
    simp only [StorageInstance.step]
    split
    next name token hpha => exact .enter caller name _ rfl rfl (by rw [hpha]; rfl)
    next name hpha => exact .enter caller name _ rfl rfl (by rw [hpha]; rfl)
    · exact .quiet rfl rfl
  | unlock caller =>
    simp only [StorageInstance.step]
    split
    next name hpha =>
      split
      · exact .walk caller .idle rfl rfl (.inl rfl)
      · exact .leave caller name (.releasing name _) rfl rfl hpha rfl
    · exact .quiet rfl rfl
  | release caller now sqlite =>
    simp only [StorageInstance.step]
    split
    · split
      · exact .walk caller .idle rfl rfl (.inl rfl)
      · exact .walk caller .idle rfl rfl (.inl rfl)
    · exact .quiet rfl rfl
  | renew name token now sqlite | other req now sqlite => exact .quiet rfl rfl

/-! ## Exclusion -/

/-- At most one caller is engaged with a name, and the map says whether it has it. -/
structure Excludes (storage : StorageInstance) : Prop where
  single : ∀ caller other name, (storage.phase caller).engaged = some name →
    (storage.phase other).engaged = some name → caller = other
  free : ∀ caller name, (storage.phase caller).underWay = some name →
    storage.locks.lookup name = none
  held : ∀ caller name, storage.phase caller = .holding name →
    (storage.locks.lookup name).isSome = true

/-- No call for the name is between its check and its entry. -/
def Clear (storage : StorageInstance) (name : String) : Prop :=
  ∀ caller, (storage.phase caller).underWay ≠ some name

/-- A call starts only while no other call for its name is under way. -/
def StartsAlone (storage : StorageInstance) (action : LockingAction) : Prop :=
  ∀ caller name blocking, action = .check caller name blocking → Clear storage name

/-- A fact about one caller's phase after `caller` moved. -/
theorem update_phase {phases : Nat → LockPhase} {other : Nat}
    {P : LockPhase → Prop} (h : P (Function.update phases caller phase other)) :
    (other = caller ∧ P phase) ∨ (other ≠ caller ∧ P (phases other)) := by
  by_cases hcal : other = caller
  · rw [hcal, Function.update_self] at h
    exact .inl ⟨hcal, h⟩
  · rw [Function.update_of_ne hcal] at h
    exact .inr ⟨hcal, h⟩

/-- Nobody shares a name after a move to a name that nobody else was engaged with. -/
theorem Excludes.single_update (h : Excludes storage)
    (hnext : ∀ name, phase.engaged = some name → ∀ other, other ≠ caller →
      (storage.phase other).engaged ≠ some name) :
    ∀ first second name, (Function.update storage.phase caller phase first).engaged = some name →
      (Function.update storage.phase caller phase second).engaged = some name →
      first = second := by
  intro first second name hfir hsec
  rcases update_phase (P := fun phase => phase.engaged = some name) hfir with
    ⟨hone, hpha⟩ | ⟨hone, hfir⟩
  · rcases update_phase (P := fun phase => phase.engaged = some name) hsec with
      ⟨htwo, -⟩ | ⟨htwo, hsec⟩
    · exact hone.trans htwo.symm
    · exact absurd hsec (hnext name hpha second htwo)
  · rcases update_phase (P := fun phase => phase.engaged = some name) hsec with
      ⟨-, hpha⟩ | ⟨-, hsec⟩
    · exact absurd hfir (hnext name hpha first hone)
    · exact h.single first second name hfir hsec

/-- Nobody else is engaged with the name of an engaged caller. -/
theorem Excludes.alone (h : Excludes storage)
    (hcal : (storage.phase caller).engaged = some name) {other : Nat}
    (hne : other ≠ caller) : (storage.phase other).engaged ≠ some name :=
  fun hoth => hne (h.single other caller name hoth hcal)

/-- A caller moves alone: nobody else is engaged with its name, the map says what it has, and says
the same as before about the names of the others. -/
theorem Excludes.move (h : Excludes storage)
    (hpha : storage'.phase = Function.update storage.phase caller phase)
    (hsole : ∀ name, phase.engaged = some name → ∀ other, other ≠ caller →
      (storage.phase other).engaged ≠ some name)
    (hfree : ∀ name, phase.underWay = some name → storage'.locks.lookup name = none)
    (hheld : ∀ name, phase = .holding name → (storage'.locks.lookup name).isSome = true)
    (hrest : ∀ other name, other ≠ caller → (storage.phase other).engaged = some name →
      storage'.locks.lookup name = storage.locks.lookup name) : Excludes storage' := by
  refine ⟨?_, fun other name hoth => ?_, fun other name hoth => ?_⟩
  · rw [hpha]
    exact h.single_update hsole
  · rw [hpha] at hoth
    rcases update_phase (P := fun phase => phase.underWay = some name) hoth with
      ⟨-, hname⟩ | ⟨hne, hoth⟩
    · exact hfree name hname
    · rw [hrest other name hne (LockPhase.engaged_of_underWay hoth)]
      exact h.free other name hoth
  · rw [hpha] at hoth
    rcases update_phase (P := (· = .holding name)) hoth with ⟨-, hname⟩ | ⟨hne, hoth⟩
    · exact hheld name hname
    · rw [hrest other name hne (hoth ▸ rfl)]
      exact h.held other name hoth

theorem Excludes.step {action : LockingAction}
    (h : Excludes storage) (halo : StartsAlone storage action)
    (hmov : Moved storage action storage') : Excludes storage' := by
  cases hmov with
  | quiet hpha hloc =>
    exact ⟨hpha ▸ h.single, hpha ▸ hloc ▸ h.free, hpha ▸ hloc ▸ h.held⟩
  | start caller name blocking hact hpha hloc hfree =>
    refine h.move hpha (fun name' hname other _ hoth => ?_) (fun name' hname => ?_) nofun
      fun _ _ _ _ => hloc ▸ rfl
    · -- Nobody holds a name without an entry, and by assumption nobody is on the way.
      cases hname
      rcases LockPhase.engaged_cases hoth with hund | hhol
      · exact halo caller name blocking hact other hund
      · have hsome := h.held other name hhol
        rw [hfree] at hsome
        cases hsome
    · cases hname
      rw [hloc, hfree]
  | walk caller phase hpha hloc hnext =>
    have hbef : ∀ name, phase.engaged = some name →
        phase.underWay = some name ∧ (storage.phase caller).underWay = some name := by
      intro name hname
      rcases hnext with hnone | ⟨name', haft, hbef⟩
      · exact absurd (hnone.symm.trans hname) nofun
      · cases (LockPhase.engaged_of_underWay haft).symm.trans hname
        exact ⟨haft, hbef⟩
    refine h.move hpha (fun name hname other hne => ?_) (fun name hname => ?_) (fun name hname => ?_)
      fun _ _ _ _ => hloc ▸ rfl
    · exact h.alone (LockPhase.engaged_of_underWay (hbef name hname).2) hne
    · rw [hloc]
      exact h.free caller name (hbef name (LockPhase.engaged_of_underWay hname)).2
    · have hund := (hbef name (hname ▸ rfl)).1
      rw [hname] at hund
      cases hund
  | enter caller name held hpha hloc hbef =>
    have heng := LockPhase.engaged_of_underWay hbef
    refine h.move hpha (fun name' hname other hne => ?_) nofun (fun name' hname => ?_)
      fun other name' hne hoth => ?_
    · cases hname
      exact h.alone heng hne
    · cases hname
      rw [hloc, Map.lookup_put, if_pos rfl]
      rfl
    · rw [hloc, Map.lookup_put, if_neg fun heq : name' = name => h.alone heng hne (heq ▸ hoth)]
  | leave caller name phase hpha hloc hbef hnext =>
    have heng : (storage.phase caller).engaged = some name := by rw [hbef]; rfl
    have hout : ∀ name', phase.engaged ≠ some name' := fun _ => hnext ▸ nofun
    refine h.move hpha (fun name' hname => absurd hname (hout name')) (fun name' hname => ?_)
      (fun name' hname => absurd (hname ▸ rfl) (hout name')) fun other name' hne hoth => ?_
    · exact absurd (LockPhase.engaged_of_underWay hname) (hout name')
    · rw [hloc, Map.lookup_erase, if_neg fun heq : name' = name => h.alone heng hne (heq ▸ hoth)]

/-! ## Runs -/

/-- Runs of a new instance in which every step meets a condition. The controller's
tables are as other instances left them. -/
inductive LockingRun (P : StorageInstance → LockingAction → Prop) : StorageInstance → Prop
  | start (ownerId : String) (lockLeaseMillis : Nat) (lockFiles : Keys String)
      (tables : LockTables) : LockingRun P { ownerId, lockLeaseMillis, lockFiles, tables }
  | step {storage : StorageInstance} (hrun : LockingRun P storage) (action : LockingAction)
      (hstep : P storage action) : LockingRun P (storage.step action)

theorem LockingRun.excludes (hrun : LockingRun StartsAlone storage) : Excludes storage := by
  induction hrun with
  | start ownerId lockLeaseMillis lockFiles tables => exact ⟨nofun, nofun, nofun⟩
  | step hrun action hstep ih => exact ih.step hstep (step_moved _ action)

/-- **One holder per name.** If calls for a name do not overlap before they have
entered it into the map, then at every moment at most one caller is between a
successful `Lock` or `TryLock` of the name and its `Unlock`. -/
theorem holders_exclusive {storage : StorageInstance} (hrun : LockingRun StartsAlone storage)
    {caller other : Nat} {name : String} (hcaller : storage.phase caller = .holding name)
    (hother : storage.phase other = .holding name) : caller = other :=
  hrun.excludes.single caller other name (by rw [hcaller]; rfl) (by rw [hother]; rfl)

def sampleInstance : StorageInstance :=
  { ownerId := "one", lockLeaseMillis := 30000, tables := {} }

/-- One caller takes the lock at the controller. -/
def lockedInstance : StorageInstance :=
  [.check 0 "cert" true, .acquire 0 5 none false, .remember 0].foldl StorageInstance.step
    sampleInstance

theorem holders_exclusive_alone :
    lockedInstance.phase 0 = .holding "cert" ∧
      ∀ other, lockedInstance.phase other = .holding "cert" → other = 0 := by
  have hcle : StartsAlone sampleInstance (.check 0 "cert" true) := nofun
  have hrun := (((LockingRun.start "one" 30000 Table.empty {}).step _ hcle).step
    (.acquire 0 5 none false) nofun).step (.remember 0) nofun
  have hhol : lockedInstance.phase 0 = .holding "cert" := by decide +kernel
  exact ⟨hhol, fun other hoth => holders_exclusive hrun hoth hhol⟩

/-- Two calls that pass the check together. The controller answers both with the
lock, since both ask under one owner id, and both callers hold it. -/
def overlappingCalls : List LockingAction :=
  [.check 0 "cert" true, .check 1 "cert" true, .acquire 0 5 none false, .acquire 1 6 none false,
    .remember 0, .remember 1]

theorem LockingRun.perform {P : StorageInstance → LockingAction → Prop}
    (hP : ∀ storage action, P storage action) :
    ∀ {actions : List LockingAction} {storage : StorageInstance}, LockingRun P storage →
      LockingRun P (actions.foldl StorageInstance.step storage)
  | [], _, hrun => hrun
  | action :: _, storage, hrun => by
    rw [List.foldl_cons]
    exact LockingRun.perform hP (hrun.step action (hP storage action))

theorem holders_overlap :
    LockingRun (fun _ _ => True) (overlappingCalls.foldl StorageInstance.step sampleInstance) ∧
      (overlappingCalls.foldl StorageInstance.step sampleInstance).phase 0 = .holding "cert" ∧
      (overlappingCalls.foldl StorageInstance.step sampleInstance).phase 1 = .holding "cert" :=
  ⟨LockingRun.perform (fun _ _ => trivial) (LockingRun.start "one" 30000 Table.empty {}),
    by decide +kernel, by decide +kernel⟩

end Swarmlite
