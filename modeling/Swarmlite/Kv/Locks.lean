import Swarmlite.Lib.Loop
import Swarmlite.Controller.Stacks

/-!
# Leases and fencing tokens — `controller/src/kv.rs`, `controller/kv_store.rs`

Gateways coordinate through named locks in the controller's key-value store. A lock
is a row with an owner, a fencing token and the end of its lease; a lease that has
run out is not removed, the next acquire overwrites it. Tokens come from one
counter for all names.

One request is a transaction, so a history of the store is a sequence of requests
in the order in which SQLite ran them (`LockHistory`). Each request reads the clock
before it waits for the database: `now` is that reading and `clock` the time at
which its transaction runs. The clock never goes back from one transaction to the
next, the readings may.

The argument has two halves. What one transaction does to the rows is
`serve_rows`: an acquire writes one row, with its owner's old token or a new one; a
renewal and a release touch the row of their own owner and token and no other. What
a history keeps is `Counted`: no token that was ever given out, and none that is
stored, is above the counter. A new token is the counter plus one, hence above all
of them.

Mirroring notes:
- Tokens and times are `i64` in the database. A counter at its maximum and a lease
  that ends before 1970 are refused by the column constraints.
- A failing SQLite call is an input; it leaves the tables as they were.
-/

namespace Swarmlite

open Ordered Loop

/-! ## The tables -/

structure LockRow where
  name : String
  ownerId : String
  fencingToken : Nat
  leaseUntilUnixMs : Int
deriving DecidableEq

/-- The tables `kv_locks` and `kv_meta`. -/
structure LockTables where
  locks : Table LockRow.name := Table.empty
  nextFencingToken : Nat := 0

inductive KvLockStatus where
  | acquired
  | busy
deriving DecidableEq

structure KvLockAcquireResponse where
  status : KvLockStatus
  fencingToken : Option Nat
  leaseUntilUnixMs : Option Int
  retryAfterMillis : Option Nat
deriving DecidableEq

/-- `CHECK (lease_until_unix_ms >= 0)`. -/
def checkLease (leaseUntil : Int) : Except StorageError Unit :=
  ensure (0 ≤ leaseUntil) (.backend "CHECK constraint failed: lease_until_unix_ms >= 0")

def checkToken (token : Nat) : Except StorageError Unit :=
  ensure (token ≤ 9223372036854775807)
    (.invalidData "KV fencing token exceeds SQLite integer range")

def LockRow.extend (leaseUntil : Int) (row : LockRow) : LockRow :=
  { row with leaseUntilUnixMs := leaseUntil }

theorem LockRow.extend_name (leaseUntil : Int) (row : LockRow) :
    (row.extend leaseUntil).name = row.name := rfl

/-- The lease of a lock, if there is one, ends at another time. -/
def LockTables.extendLease (tables : LockTables) (name : String) (leaseUntil : Int) : LockTables :=
  { tables with
    locks := tables.locks.modify name (LockRow.extend leaseUntil)
      (LockRow.extend_name leaseUntil) }

theorem LockTables.extendLease_get? (tables : LockTables) (name other : String) (leaseUntil : Int) :
    (tables.extendLease name leaseUntil).locks.get? other
      = if other = name then (tables.locks.get? other).map (LockRow.extend leaseUntil)
        else tables.locks.get? other := by
  unfold LockTables.extendLease
  rw [Table.get?_modify]

def busyResponse (now : Int) (row : LockRow) : KvLockAcquireResponse :=
  { status := .busy
    fencingToken := none
    leaseUntilUnixMs := some row.leaseUntilUnixMs
    retryAfterMillis := some (min (max (row.leaseUntilUnixMs - now).toNat 100) 1000) }

def acquiredResponse (token : Nat) (leaseUntil : Int) : KvLockAcquireResponse :=
  { status := .acquired
    fencingToken := some token
    leaseUntilUnixMs := some leaseUntil
    retryAfterMillis := none }

/-- The lock becomes the owner's, under the next token. -/
def issueLock (tables : LockTables) (name ownerId : String) (leaseUntil : Int) :
    Except StorageError (LockTables × KvLockAcquireResponse) := do
  ensure (tables.nextFencingToken < 9223372036854775807)
    (.backend "cannot store REAL value in INTEGER column kv_meta.next_fencing_token")
  checkLease leaseUntil
  let token := tables.nextFencingToken + 1
  return ({ locks := tables.locks.insert
              { name, ownerId, fencingToken := token, leaseUntilUnixMs := leaseUntil }
            nextFencingToken := token },
    acquiredResponse token leaseUntil)

def acquireLock (tables : LockTables) (name ownerId : String) (now leaseUntil : Int) :
    Except StorageError (LockTables × KvLockAcquireResponse) :=
  match tables.locks.get? name with
  | none => issueLock tables name ownerId leaseUntil
  | some row =>
    if row.leaseUntilUnixMs ≤ now then issueLock tables name ownerId leaseUntil
    else if row.ownerId ≠ ownerId then .ok (tables, busyResponse now row)
    else do
      -- The owner asks again while it holds the lock: the same token, a longer lease.
      checkLease leaseUntil
      return (tables.extendLease name leaseUntil, acquiredResponse row.fencingToken leaseUntil)

def renewLock (tables : LockTables) (name ownerId : String) (token : Nat) (now leaseUntil : Int) :
    Except StorageError (LockTables × Bool) := do
  checkToken token
  if (tables.locks.get? name).any fun row =>
      row.ownerId = ownerId && row.fencingToken = token && decide (now < row.leaseUntilUnixMs) then
    checkLease leaseUntil
    return (tables.extendLease name leaseUntil, true)
  else return (tables, false)

def releaseLock (tables : LockTables) (name ownerId : String) (token : Nat) :
    Except StorageError (LockTables × Bool) := do
  checkToken token
  match tables.locks.get? name with
  | none => return (tables, true)
  | some row =>
    if row.ownerId = ownerId ∧ row.fencingToken = token then
      return ({ tables with locks := tables.locks.erase name }, true)
    else return (tables, false)

/-! ## The requests -/

structure KvLockAcquireRequest where
  name : String
  ownerId : String
  leaseMillis : Nat

structure KvLockMutationRequest where
  name : String
  ownerId : String
  fencingToken : Nat
  leaseMillis : Option Nat

def validateKvLockIdentity (name ownerId : String) : Except ControllerError Unit := do
  ensure (!((Text.trim name).isEmpty || decide (1024 < Text.byteLength name)))
    (.invalid "KV lock name must contain 1 to 1024 bytes")
  ensure (!((Text.trim ownerId).isEmpty || decide (512 < Text.byteLength ownerId)))
    (.invalid "KV lock owner_id must contain 1 to 512 bytes")

def validateKvLockLease (leaseMillis : Nat) : Except ControllerError Unit :=
  ensure (decide (1000 ≤ leaseMillis) && decide (leaseMillis ≤ 300000))
    (.invalid "KV lock lease_millis must be between 1000 and 300000")

def leaseDeadline (now : Int) (leaseMillis : Nat) : Except ControllerError Int :=
  if now + leaseMillis ≤ 9223372036854775807 then .ok (now + leaseMillis)
  else .error (.invalid "KV lock lease overflow")

/-- A storage error as the answer of a request. -/
def stored {α : Type} : Except StorageError α → Except ControllerError α
  | .ok value => .ok value
  | .error error => .error (.ofStorage error)

def acquireKvLock (tables : LockTables) (now : Int) (request : KvLockAcquireRequest) :
    Except ControllerError (LockTables × KvLockAcquireResponse) := do
  validateKvLockIdentity request.name request.ownerId
  validateKvLockLease request.leaseMillis
  let deadline ← leaseDeadline now request.leaseMillis
  stored (acquireLock tables request.name request.ownerId now deadline)

/-- The tables after a change that was made, or the conflict. -/
def accepted (message : String) (changed : LockTables × Bool) : Except ControllerError LockTables :=
  if changed.2 then .ok changed.1 else .error (.conflict message)

def renewKvLock (tables : LockTables) (now : Int) (request : KvLockMutationRequest) :
    Except ControllerError LockTables := do
  validateKvLockIdentity request.name request.ownerId
  match request.leaseMillis with
  | none => .error (.invalid "lease_millis is required")
  | some leaseMillis =>
    validateKvLockLease leaseMillis
    let deadline ← leaseDeadline now leaseMillis
    let renewed ← stored
      (renewLock tables request.name request.ownerId request.fencingToken now deadline)
    accepted "the KV lock is no longer owned" renewed

def releaseKvLock (tables : LockTables) (request : KvLockMutationRequest) :
    Except ControllerError LockTables := do
  validateKvLockIdentity request.name request.ownerId
  let released ← stored (releaseLock tables request.name request.ownerId request.fencingToken)
  accepted "the KV lock is owned by another writer" released

inductive LockRequest where
  | acquire (request : KvLockAcquireRequest)
  | renew (request : KvLockMutationRequest)
  | release (request : KvLockMutationRequest)

inductive LockAnswer where
  | lock (response : KvLockAcquireResponse)
  | noContent
deriving DecidableEq

def LockTables.handle (tables : LockTables) (now : Int) :
    LockRequest → Except ControllerError (LockTables × LockAnswer)
  | .acquire request => (acquireKvLock tables now request).map fun done => (done.1, .lock done.2)
  | .renew request => (renewKvLock tables now request).map fun tables => (tables, .noContent)
  | .release request => (releaseKvLock tables request).map fun tables => (tables, .noContent)

/-- One request: the tables after it and its answer. -/
def LockTables.serve (tables : LockTables) (now : Int) (sqlite : Option String)
    (request : LockRequest) : LockTables × Except ControllerError LockAnswer :=
  match sqlite with
  | some message => (tables, .error (.storage (.backend message)))
  | none =>
    match tables.handle now request with
    | .ok (tables', answer) => (tables', .ok answer)
    | .error error => (tables, .error error)

/-! ## What a transaction does to the rows -/

/-- The row a successful acquire leaves. -/
structure Acquired (tables tables' : LockTables) (name ownerId : String) (now : Int)
    (token : Nat) : Prop where
  row : ∃ row, tables'.locks.get? name = some row ∧ row.ownerId = ownerId ∧
    row.fencingToken = token
  others : ∀ other, other ≠ name → tables'.locks.get? other = tables.locks.get? other
  /-- The token is new, or the owner's own. -/
  token : (token = tables.nextFencingToken + 1 ∧ tables'.nextFencingToken = token) ∨
    (tables'.nextFencingToken = tables.nextFencingToken ∧
      ∃ row, tables.locks.get? name = some row ∧ row.ownerId = ownerId ∧
        row.fencingToken = token)
  /-- Nobody else's lease was running. -/
  free : ∀ row, tables.locks.get? name = some row → row.ownerId ≠ ownerId →
    row.leaseUntilUnixMs ≤ now

variable {tables tables' : LockTables} {now clock : Int} {request : LockRequest}
  {past : List LockCall} {name ownerId : String} {done : LockTables × KvLockAcquireResponse}
  {acquire : KvLockAcquireRequest} {resp : KvLockAcquireResponse}

theorem issueLock_acquired {leaseUntil : Int}
    (hfree : ∀ row, tables.locks.get? name = some row → row.leaseUntilUnixMs ≤ now)
    (h : issueLock tables name ownerId leaseUntil = .ok done) :
    ∃ token, done.2 = acquiredResponse token leaseUntil ∧
      Acquired tables done.1 name ownerId now token := by
  unfold issueLock at h
  obtain ⟨_, -, h⟩ := bind_ok h
  obtain ⟨_, -, h⟩ := bind_ok h
  cases h
  refine ⟨tables.nextFencingToken + 1, rfl, ⟨_, Table.get?_insert_self .., rfl, rfl⟩, ?_,
    .inl ⟨rfl, rfl⟩, fun row hrow _ => hfree row hrow⟩
  intro other hoth
  exact Table.get?_insert_ne _ hoth

/-- An acquire is refused while another owner's lease runs, and otherwise leaves the
lock with its owner. -/
theorem acquireLock_cases {leaseUntil : Int}
    (h : acquireLock tables name ownerId now leaseUntil = .ok done) :
    (done.1 = tables ∧ ∃ row, done.2 = busyResponse now row) ∨
      ∃ token, done.2 = acquiredResponse token leaseUntil ∧
        Acquired tables done.1 name ownerId now token := by
  unfold acquireLock at h
  split at h
  next hnone =>
    refine .inr (issueLock_acquired (fun row hrow => ?_) h)
    rw [hnone] at hrow
    cases hrow
  next row hrow =>
    split at h
    next hexp =>
      refine .inr (issueLock_acquired (fun other hoth => ?_) h)
      rw [hrow] at hoth
      cases hoth
      exact hexp
    · split at h
      · cases h
        exact .inl ⟨rfl, row, rfl⟩
      next hown =>
        obtain ⟨_, -, h⟩ := bind_ok h
        cases h
        have hown' : row.ownerId = ownerId := not_not.mp hown
        refine .inr ⟨row.fencingToken, rfl, ?_, ?_, .inr ⟨rfl, row, hrow, hown', rfl⟩, ?_⟩
        · refine ⟨row.extend leaseUntil, ?_, hown', rfl⟩
          rw [LockTables.extendLease_get?, if_pos rfl, hrow]
          rfl
        · intro other hoth
          rw [LockTables.extendLease_get?, if_neg hoth]
        · intro other hoth hne
          rw [hrow] at hoth
          cases hoth
          exact absurd hown' hne

/-- What a renewal or a release leaves: its own row may change or go, every other
row is as it was, and no token is issued. -/
structure Mutated (tables tables' : LockTables) (request : KvLockMutationRequest) : Prop where
  owned : ∀ row, tables.locks.get? request.name = some row →
    row.ownerId = request.ownerId ∧ row.fencingToken = request.fencingToken
  others : ∀ other, other ≠ request.name → tables'.locks.get? other = tables.locks.get? other
  kept : ∀ row, tables'.locks.get? request.name = some row →
    ∃ before, tables.locks.get? request.name = some before ∧
      row.ownerId = before.ownerId ∧ row.fencingToken = before.fencingToken
  counter : tables'.nextFencingToken = tables.nextFencingToken

theorem accepted_ok {message : String} {changed : LockTables × Bool}
    (h : accepted message changed = .ok tables) : changed = (tables, true) := by
  unfold accepted at h
  split at h
  next htrue =>
    cases h
    exact Prod.ext rfl htrue
  · cases h

theorem stored_ok {α : Type} {result : Except StorageError α} {value : α}
    (h : stored result = .ok value) : result = .ok value := by
  unfold stored at h
  split at h
  · cases h
    rfl
  · cases h

theorem renewKvLock_mutated
    {request : KvLockMutationRequest} (h : renewKvLock tables now request = .ok tables') :
    Mutated tables tables' request := by
  unfold renewKvLock at h
  obtain ⟨_, -, h⟩ := bind_ok h
  split at h
  · cases h
  next leaseMillis _ =>
    obtain ⟨_, -, h⟩ := bind_ok h
    obtain ⟨deadline, -, h⟩ := bind_ok h
    obtain ⟨renewed, hren, h⟩ := bind_ok h
    have hren := stored_ok hren
    rw [accepted_ok h] at hren
    unfold renewLock at hren
    obtain ⟨_, -, hren⟩ := bind_ok hren
    split at hren
    next hown =>
      obtain ⟨_, -, hren⟩ := bind_ok hren
      cases hren
      obtain ⟨row, hrow, hmat⟩ := (Option.any_eq_true _ _).mp hown
      simp only [Bool.and_eq_true, decide_eq_true_eq] at hmat
      refine ⟨fun other hoth => ?_, fun other hoth => ?_, fun other hoth => ?_, rfl⟩
      · rw [hrow] at hoth
        cases hoth
        exact hmat.1
      · rw [LockTables.extendLease_get?, if_neg hoth]
      · rw [LockTables.extendLease_get?, if_pos rfl, hrow] at hoth
        cases hoth
        exact ⟨row, hrow, rfl, rfl⟩
    · cases hren

theorem releaseKvLock_mutated
    {request : KvLockMutationRequest} (h : releaseKvLock tables request = .ok tables') :
    Mutated tables tables' request := by
  unfold releaseKvLock at h
  obtain ⟨_, -, h⟩ := bind_ok h
  obtain ⟨released, hrel, h⟩ := bind_ok h
  have hrel := stored_ok hrel
  rw [accepted_ok h] at hrel
  unfold releaseLock at hrel
  obtain ⟨_, -, hrel⟩ := bind_ok hrel
  split at hrel
  next hnone =>
    cases hrel
    refine ⟨fun row hrow => ?_, fun _ _ => rfl, fun row hrow => ⟨row, hrow, rfl, rfl⟩, rfl⟩
    rw [hnone] at hrow
    cases hrow
  next row hrow =>
    split at hrel
    next hmat =>
      cases hrel
      refine ⟨fun other hoth => ?_, fun other hoth => Table.get?_erase_ne _ hoth,
        fun other hoth => ?_, rfl⟩
      · rw [hrow] at hoth
        cases hoth
        exact hmat
      · rw [Table.get?_erase_self] at hoth
        cases hoth
    · cases hrel

theorem serve_ok {sqlite : Option String} {answer : LockAnswer}
    (h : (tables.serve now sqlite request).2 = .ok answer) :
    tables.handle now request = .ok ((tables.serve now sqlite request).1, answer) := by
  unfold LockTables.serve at h ⊢
  split at h
  · cases h
  split at h
  next tables' answer' hhan =>
    cases h
    exact hhan
  · cases h

/-- **Everything a request that succeeds can do to the tables.** -/
theorem handle_rows {answer : LockAnswer} (h : tables.handle now request = .ok (tables', answer)) :
    (∃ acquire resp, request = .acquire acquire ∧ answer = .lock resp ∧
      ((tables' = tables ∧ resp.status = .busy ∧ resp.fencingToken = none) ∨
        ∃ token, resp.status = .acquired ∧ resp.fencingToken = some token ∧
          Acquired tables tables' acquire.name acquire.ownerId now token)) ∨
      (answer = .noContent ∧ ∃ mutation, (request = .renew mutation ∨ request = .release mutation) ∧
        Mutated tables tables' mutation) := by
  cases request with
  | acquire acquire =>
    obtain ⟨done, hacq, hdone⟩ := map_ok h
    cases hdone
    unfold acquireKvLock at hacq
    obtain ⟨_, -, hacq⟩ := bind_ok hacq
    obtain ⟨_, -, hacq⟩ := bind_ok hacq
    obtain ⟨deadline, -, hacq⟩ := bind_ok hacq
    refine .inl ⟨acquire, done.2, rfl, rfl, ?_⟩
    rcases acquireLock_cases (stored_ok hacq) with ⟨hsame, row, hbusy⟩ | ⟨token, hres, hrow⟩
    · rw [hbusy]
      exact .inl ⟨hsame, rfl, rfl⟩
    · rw [hres]
      exact .inr ⟨token, rfl, rfl, hrow⟩
  | renew mutation =>
    obtain ⟨after, hren, hdone⟩ := map_ok h
    cases hdone
    exact .inr ⟨rfl, mutation, .inl rfl, renewKvLock_mutated hren⟩
  | release mutation =>
    obtain ⟨after, hrel, hdone⟩ := map_ok h
    cases hdone
    exact .inr ⟨rfl, mutation, .inr rfl, releaseKvLock_mutated hrel⟩

/-! ## Histories -/

/-- A request that was served: when it read the clock, when it ran, its answer. -/
structure LockCall where
  request : LockRequest
  now : Int
  clock : Int
  answer : Except ControllerError LockAnswer

/-- The token a call gave out. -/
def LockCall.token (call : LockCall) : Option Nat :=
  match call.answer with
  | .ok (.lock response) => response.fencingToken
  | _ => none

/-- The calls so far, latest first, and the tables they left. -/
inductive LockHistory : List LockCall → LockTables → Prop
  | empty : LockHistory [] {}
  | serve {past : List LockCall} {tables : LockTables} (hpast : LockHistory past tables)
      (request : LockRequest) (now clock : Int) (sqlite : Option String) (hnow : now ≤ clock)
      (hclock : ∀ call ∈ past, call.clock ≤ clock) :
      LockHistory ({ request, now, clock, answer := (tables.serve now sqlite request).2 } :: past)
        (tables.serve now sqlite request).1

/-- No token is above the counter. -/
structure Counted (past : List LockCall) (tables : LockTables) : Prop where
  issued : ∀ call ∈ past, ∀ token, call.token = some token → token ≤ tables.nextFencingToken
  stored : ∀ row ∈ tables.locks, row.fencingToken ≤ tables.nextFencingToken

/-- The tables a call leaves, whether it succeeds or not. -/
theorem serve_cases (tables : LockTables) (now : Int) (sqlite : Option String)
    (request : LockRequest) :
    (∃ answer, (tables.serve now sqlite request).2 = .ok answer ∧
        tables.handle now request = .ok ((tables.serve now sqlite request).1, answer)) ∨
      (∃ error, (tables.serve now sqlite request).2 = .error error) ∧
        (tables.serve now sqlite request).1 = tables := by
  cases h : (tables.serve now sqlite request).2 with
  | ok answer => exact .inl ⟨answer, rfl, serve_ok h⟩
  | error error =>
    refine .inr ⟨⟨error, rfl⟩, ?_⟩
    unfold LockTables.serve at h ⊢
    split
    · rfl
    split
    next heq => rw [heq] at h; cases h
    · rfl

theorem Counted.served (h : Counted past tables)
    (request : LockRequest) (now clock : Int) (sqlite : Option String) :
    Counted ({ request, now, clock, answer := (tables.serve now sqlite request).2 } :: past)
      (tables.serve now sqlite request).1 := by
  rcases serve_cases tables now sqlite request with ⟨answer, hans, hhan⟩ | ⟨⟨error, herr⟩, hsame⟩
  · rw [hans]
    generalize (tables.serve now sqlite request).1 = tables' at hhan ⊢
    rcases handle_rows hhan with ⟨acquire, resp, rfl, rfl, hacq⟩ | ⟨rfl, mutation, -, hrow⟩
    · rcases hacq with ⟨rfl, -, hnone⟩ | ⟨token, -, htok, hrow⟩
      · refine ⟨fun call hcall => ?_, h.stored⟩
        rcases List.mem_cons.mp hcall with rfl | hcall
        · intro token htok
          exact absurd (hnone.symm.trans htok) nofun
        · exact h.issued call hcall
      · -- The counter never falls, and the token of this call is at most the counter.
        have hcou : tables.nextFencingToken ≤ tables'.nextFencingToken ∧
            token ≤ tables'.nextFencingToken := by
          rcases hrow.token with ⟨hnew, hnext⟩ | ⟨hnext, row, hget, -, hown⟩
          · omega
          · have := h.stored row (Table.mem_of_get? hget)
            omega
        refine ⟨fun call hcall other hoth => ?_, fun row hmem => ?_⟩
        · rcases List.mem_cons.mp hcall with rfl | hcall
          · cases htok.symm.trans hoth
            exact hcou.2
          · exact (h.issued call hcall other hoth).trans hcou.1
        · have hget := Table.get?_of_mem hmem
          by_cases hname : row.name = acquire.name
          · obtain ⟨row', hget', -, htok'⟩ := hrow.row
            rw [hname, hget'] at hget
            cases hget
            exact htok' ▸ hcou.2
          · rw [hrow.others row.name hname] at hget
            exact (h.stored row (Table.mem_of_get? hget)).trans hcou.1
    · refine ⟨fun call hcall => ?_, fun row hmem => ?_⟩
      · rw [hrow.counter]
        rcases List.mem_cons.mp hcall with rfl | hcall
        · nofun
        · exact h.issued call hcall
      · rw [hrow.counter]
        have hget := Table.get?_of_mem hmem
        by_cases hname : row.name = mutation.name
        · rw [hname] at hget
          obtain ⟨before, hbef, -, htok⟩ := hrow.kept row hget
          rw [htok]
          exact h.stored before (Table.mem_of_get? hbef)
        · rw [hrow.others row.name hname] at hget
          exact h.stored row (Table.mem_of_get? hget)
  · rw [herr, hsame]
    refine ⟨fun call hcall => ?_, h.stored⟩
    rcases List.mem_cons.mp hcall with rfl | hcall
    · nofun
    · exact h.issued call hcall

theorem LockHistory.counted (h : LockHistory past tables) : Counted past tables := by
  induction h with
  | empty => exact ⟨nofun, fun _ hrow => absurd hrow Table.mem_empty⟩
  | serve hpast request now clock sqlite hnow hclo ih =>
    exact ih.served request now clock sqlite

/-! ## Safety -/

/-- What the locks promise about one more request, after the calls `past`. -/
structure LocksKept (past : List LockCall) (tables : LockTables) (clock : Int)
    (request : LockRequest) (tables' : LockTables)
    (answer : Except ControllerError LockAnswer) : Prop where
  /-- A name whose owner or token is not what it was has a token above all that were
  given out, for any name. -/
  fresh : ∀ row ∈ tables'.locks,
    (∀ before ∈ tables.locks, before.name = row.name →
      ¬ (before.ownerId = row.ownerId ∧ before.fencingToken = row.fencingToken)) →
    ∀ call ∈ past, ∀ token, call.token = some token → token < row.fencingToken
  /-- The answer of an acquire that succeeds is the ownership that is stored. -/
  granted : ∀ acquire response token, request = .acquire acquire → answer = .ok (.lock response) →
    response.fencingToken = some token →
    ∃ row ∈ tables'.locks, row.name = acquire.name ∧ row.ownerId = acquire.ownerId ∧
      row.fencingToken = token
  /-- An acquire does not succeed while the stored lease of another owner runs. -/
  exclusive : ∀ acquire response, request = .acquire acquire → answer = .ok (.lock response) →
    ∀ row ∈ tables.locks, row.name = acquire.name → row.ownerId ≠ acquire.ownerId →
    clock < row.leaseUntilUnixMs →
    response.status = .busy ∧ response.fencingToken = none ∧ tables' = tables
  /-- Renewals and releases that succeed come from the owner, with its token. -/
  owned : ∀ mutation, (request = .renew mutation ∨ request = .release mutation) →
    answer = .ok .noContent → ∀ row ∈ tables.locks, row.name = mutation.name →
    row.ownerId = mutation.ownerId ∧ row.fencingToken = mutation.fencingToken
  /-- They change nobody else's lock. -/
  stale : ∀ mutation, (request = .renew mutation ∨ request = .release mutation) →
    ∀ row ∈ tables.locks, ¬ (row.name = mutation.name ∧ row.ownerId = mutation.ownerId ∧
      row.fencingToken = mutation.fencingToken) → row ∈ tables'.locks

theorem LocksKept.refused (past : List LockCall) (tables : LockTables) (clock : Int)
    (request : LockRequest) (error : ControllerError) :
    LocksKept past tables clock request tables (.error error) where
  fresh row hrow hnew := absurd ⟨rfl, rfl⟩ (hnew row hrow rfl)
  granted := nofun
  exclusive := nofun
  owned := nofun
  stale _ _ _ hrow _ := hrow

theorem LocksKept.acquired {token : Nat} (hcou : Counted past tables) (hnow : now ≤ clock)
    (htok : resp.fencingToken = some token)
    (h : Acquired tables tables' acquire.name acquire.ownerId now token) :
    LocksKept past tables clock (.acquire acquire) tables' (.ok (.lock resp)) where
  fresh row hrow hnew call hcall issued hissued := by
    have hget := Table.get?_of_mem hrow
    have hbel := hcou.issued call hcall issued hissued
    by_cases hname : row.name = acquire.name
    · obtain ⟨row', hget', hown, htok'⟩ := h.row
      rw [hname, hget'] at hget
      cases hget
      rcases h.token with ⟨hnext, -⟩ | ⟨-, before, hbef, hown', hsame⟩
      · omega
      · -- The owner acquired again: nothing about the row is new.
        refine absurd ⟨hown'.trans hown.symm, hsame.trans htok'.symm⟩
          (hnew before (Table.mem_of_get? hbef) ?_)
        rw [hname]
        exact Table.key_of_get? hbef
    · rw [h.others row.name hname] at hget
      exact absurd ⟨rfl, rfl⟩ (hnew row (Table.mem_of_get? hget) rfl)
  granted other resp' token' hrequest hanswer htok'' := by
    cases hrequest
    cases hanswer
    cases htok.symm.trans htok''
    obtain ⟨row, hget, hown, hrow⟩ := h.row
    exact ⟨row, Table.mem_of_get? hget, Table.key_of_get? hget, hown, hrow⟩
  exclusive other resp' hrequest _ row hrow hname hown hlease := by
    cases hrequest
    have hexp := h.free row (hname ▸ Table.get?_of_mem hrow) hown
    omega
  owned := nofun
  stale := nofun

theorem LocksKept.busy (hsta : resp.status = .busy) (htok : resp.fencingToken = none) :
    LocksKept past tables clock (.acquire acquire) tables (.ok (.lock resp)) where
  fresh row hrow hnew := absurd ⟨rfl, rfl⟩ (hnew row hrow rfl)
  granted other resp' token hrequest hanswer htok' := by
    cases hanswer
    cases htok.symm.trans htok'
  exclusive other resp' hrequest hanswer row hrow hname howner hlease := by
    cases hanswer
    exact ⟨hsta, htok, rfl⟩
  owned := nofun
  stale := nofun

theorem LocksKept.mutated {mutation : KvLockMutationRequest}
    (hreq : request = .renew mutation ∨ request = .release mutation)
    (h : Mutated tables tables' mutation) :
    LocksKept past tables clock request tables' (.ok .noContent) where
  fresh row hrow hnew := by
    have hget := Table.get?_of_mem hrow
    by_cases hname : row.name = mutation.name
    · rw [hname] at hget
      obtain ⟨before, hbef, hown, htok⟩ := h.kept row hget
      refine absurd ⟨hown.symm, htok.symm⟩ (hnew before (Table.mem_of_get? hbef) ?_)
      rw [hname]
      exact Table.key_of_get? hbef
    · rw [h.others row.name hname] at hget
      exact absurd ⟨rfl, rfl⟩ (hnew row (Table.mem_of_get? hget) rfl)
  granted := nofun
  exclusive := nofun
  owned other hoth _ row hrow hname := by
    have hsame : other = mutation := by
      rcases hreq with rfl | rfl <;> rcases hoth with hoth | hoth <;> cases hoth <;> rfl
    subst hsame
    exact h.owned row (hname ▸ Table.get?_of_mem hrow)
  stale other hoth row hrow hne := by
    have hsame : other = mutation := by
      rcases hreq with rfl | rfl <;> rcases hoth with hoth | hoth <;> cases hoth <;> rfl
    subst hsame
    by_cases hname : row.name = other.name
    · exact absurd ⟨hname, h.owned row (hname ▸ Table.get?_of_mem hrow)⟩ hne
    · have hget := Table.get?_of_mem hrow
      rw [← h.others row.name hname] at hget
      exact Table.mem_of_get? hget

/-- **Locks are safe under every interleaving.** After any calls, in any order and
with any delay between reading the clock and running, the next request keeps the
promises of the locks. -/
theorem kv_locks_safe {past : List LockCall} {tables : LockTables} (h : LockHistory past tables)
    (request : LockRequest) (now clock : Int) (sqlite : Option String) (hnow : now ≤ clock) :
    LocksKept past tables clock request (tables.serve now sqlite request).1
      (tables.serve now sqlite request).2 := by
  rcases serve_cases tables now sqlite request with ⟨answer, hans, hhan⟩ | ⟨⟨error, herr⟩, hsame⟩
  · rw [hans]
    generalize (tables.serve now sqlite request).1 = tables' at hhan ⊢
    rcases handle_rows hhan with ⟨acquire, resp, rfl, rfl, hacq⟩ | ⟨rfl, mutation, hreq, hrow⟩
    · rcases hacq with ⟨rfl, hbusy, hnone⟩ | ⟨token, -, htok, hrow⟩
      · exact LocksKept.busy hbusy hnone
      · exact LocksKept.acquired h.counted hnow htok hrow
    · exact LocksKept.mutated hreq hrow
  · rw [herr, hsame]
    exact LocksKept.refused past tables clock request error

/-- The lock of a certificate, asked for by a gateway. -/
def sampleAcquire (ownerId : String) : LockRequest :=
  .acquire { name := "caddy/locks/issue_cert_a.example", ownerId, leaseMillis := 1000 }

/-- A gateway takes the lock at time 0; its lease ends at 1000. -/
def sampleTables : LockTables := (({} : LockTables).serve 0 none (sampleAcquire "one")).1

/-- A second gateway is refused at 999 and gets the next token at 1000. -/
theorem kv_locks_safe_handed_over :
    (sampleTables.serve 999 none (sampleAcquire "two")).2
        = .ok (.lock { status := .busy, fencingToken := none, leaseUntilUnixMs := some 1000,
                       retryAfterMillis := some 100 }) ∧
      (sampleTables.serve 1000 none (sampleAcquire "two")).2
        = .ok (.lock { status := .acquired, fencingToken := some 2,
                       leaseUntilUnixMs := some 2000, retryAfterMillis := none }) ∧
      LocksKept [{ request := sampleAcquire "one", now := 0, clock := 0,
                   answer := (({} : LockTables).serve 0 none (sampleAcquire "one")).2 }]
        sampleTables 1200 (sampleAcquire "two")
        (sampleTables.serve 1000 none (sampleAcquire "two")).1
        (sampleTables.serve 1000 none (sampleAcquire "two")).2 := by
  refine ⟨by decide +kernel, by decide +kernel, ?_⟩
  have hhis := LockHistory.empty.serve (sampleAcquire "one") 0 0 none (by decide) nofun
  exact kv_locks_safe hhis (sampleAcquire "two") 1000 1200 none (by decide)

end Swarmlite
