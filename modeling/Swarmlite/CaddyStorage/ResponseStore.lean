import Mathlib
import Swarmlite.Lib.Table

/-!
# The response cache's tables — `caddy-storage/sqlite_store.go`

A stored response has a row in `cache_entries` and one in `cache_access`, which knows its size
and when it was last used. `cache_usage` counts both, and the process keeps a copy of the total
in `usageBytes`. `Put` writes all of them in one transaction, as do the batches that delete
expired and least recently used entries; the copy is updated after the commit, so it is behind
by what is `pending`.

`Accounted` says that the books balance. The two tables list the same keys and sizes, so all
that a transaction has to get right is the difference it makes to one sum; `bytes_insert` and
`bytes_delete` are these differences. **`cache_accounting`**: after every sequence of events
the books balance, and what an eviction batch deletes is the shortest prefix of the entries by
last use that is large enough, or as many as a batch may hold.

Mirroring notes:
- A transaction is one event; one that is rolled back changes nothing.
- `Put` loads `usageBytes` twice before its transaction. What it has seen (`seen`, `seen'`) may
  be of any age, so it is an argument. So is the total that `enforceCapacity` has counted down.
- Keys are 16 bytes of a hash, numbers here. `responseCacheKey` computes them from the resource's
  generation and the request, and enters as an argument.
- Entries that expire at the same time are deleted in the order of their keys.
- Headers and bodies are the bytes that are stored.
-/

namespace Swarmlite

open Ordered

abbrev CacheKey := Nat

/-- A row of `cache_resources`. -/
structure CacheResource where
  baseKey : CacheKey
  varyHeaders : List String
  generation : Nat
  expiresAt : Int

/-- A row of `cache_entries`. -/
structure CacheRow where
  key : CacheKey
  status : Nat
  headers : List UInt8
  body : List UInt8
  storedAt : Int
  expiresAt : Int

/-- A row of `cache_access`. -/
structure AccessRow where
  key : CacheKey
  accessedAt : Int
  sizeBytes : Nat

def cacheKeySize : Nat := 16

def cacheEntrySizeBytes (headers body : List UInt8) : Nat :=
  cacheKeySize + headers.length + body.length

structure CacheStore where
  maxSizeBytes : Nat
  lowWaterBytes : Int
  touchWindow : Int
  resources : Table CacheResource.baseKey := Table.empty
  entries : Table CacheRow.key := Table.empty
  access : Table AccessRow.key := Table.empty
  totalBytes : Int := 0
  entryCount : Int := 0
  usageBytes : Int := 0
  /-- What has been committed and not yet added to `usageBytes`. -/
  pending : List Int := []

/-- What `Put` is called with. -/
structure CachePut (R : Type) where
  request : R
  baseKey : CacheKey
  varyHeaders : List String
  status : Nat
  headers : List UInt8
  body : List UInt8
  storedAt : Int
  expiresAt : Int

def exceedsCacheCapacity (currentBytes candidateBytes maxBytes : Int) : Bool :=
  currentBytes ≥ maxBytes || candidateBytes > maxBytes - currentBytes

/-- The order of eviction. -/
def usedBefore (a b : AccessRow) : Prop :=
  a.accessedAt < b.accessedAt ∨ a.accessedAt = b.accessedAt ∧ a.key ≤ b.key

instance : DecidableRel usedBefore := fun a b =>
  inferInstanceAs (Decidable (a.accessedAt < b.accessedAt ∨ _))

/-- The rows a batch takes from its selection. -/
def takeBytes (stopAfterBytes : Int) : Int → List AccessRow → List AccessRow
  | _, [] => []
  | removedBytes, row :: rows =>
    let removedBytes := removedBytes + row.sizeBytes
    row :: if stopAfterBytes > 0 && removedBytes ≥ stopAfterBytes then []
      else takeBytes stopAfterBytes removedBytes rows

def bytes (rows : List AccessRow) : Int := (rows.map fun row => (row.sizeBytes : Int)).sum

namespace CacheStore

variable {R : Type} (responseCacheKey : CacheKey → Nat → R → List String → CacheKey)

/-- The upsert of the resource. A new Vary policy starts a new generation. -/
def putResource (store : CacheStore) (put : CachePut R) : CacheResource :=
  match store.resources.get? put.baseKey with
  | none =>
    { baseKey := put.baseKey, varyHeaders := put.varyHeaders, generation := 1,
      expiresAt := put.expiresAt }
  | some former =>
    { baseKey := put.baseKey
      varyHeaders := put.varyHeaders
      generation := former.generation + if former.varyHeaders = put.varyHeaders then 0 else 1
      expiresAt := max former.expiresAt put.expiresAt }

/-- The transaction of `Put`, if it is not rolled back for lack of room. -/
def putTransaction (store : CacheStore) (put : CachePut R) : Option CacheStore :=
  let resource := store.putResource put
  let key := responseCacheKey put.baseKey resource.generation put.request put.varyHeaders
  let entrySize := cacheEntrySizeBytes put.headers put.body
  let former := (store.access.get? key).map AccessRow.sizeBytes
  let formerSize := former.getD 0
  let projectedBytes : Int := store.totalBytes - formerSize + entrySize
  if projectedBytes > store.maxSizeBytes && entrySize > formerSize then none
  else
    some { store with
      resources := store.resources.insert resource
      entries := store.entries.insert
        { key, status := put.status, headers := put.headers, body := put.body,
          storedAt := put.storedAt, expiresAt := put.expiresAt }
      access := store.access.insert { key, accessedAt := put.storedAt, sizeBytes := entrySize }
      totalBytes := projectedBytes
      entryCount := store.entryCount + if former.isSome then 0 else 1
      pending := store.pending ++ [(entrySize : Int) - formerSize] }

def put (store : CacheStore) (seen seen' : Int) (put : CachePut R) : CacheStore :=
  if exceedsCacheCapacity seen (cacheKeySize + put.body.length : Nat) store.maxSizeBytes then store
  else if cacheEntrySizeBytes put.headers put.body > store.maxSizeBytes then store
  else if exceedsCacheCapacity seen' (cacheEntrySizeBytes put.headers put.body)
      store.maxSizeBytes then store
  else (store.putTransaction responseCacheKey put).getD store

/-- The transaction of `deleteEntryBatch`, with the rows of its selection. -/
def deleteEntryBatch (store : CacheStore) (selection : List AccessRow) (stopAfterBytes : Int) :
    CacheStore :=
  let removed := takeBytes stopAfterBytes 0 selection
  let keys := removed.map AccessRow.key
  if removed.isEmpty then store
  else { store with
    entries := store.entries.filter fun row => !keys.contains row.key
    access := store.access.filter fun row => !keys.contains row.key
    totalBytes := max 0 (store.totalBytes - bytes removed)
    entryCount := max 0 (store.entryCount - keys.length)
    pending := store.pending ++ [-bytes removed] }

def sqliteCleanupBatchSize : Nat := 1000

def sqliteEvictionBatchSize : Nat := 512

def expiredSelection (store : CacheStore) (now : Int) : List AccessRow :=
  let expired := (store.entries.rows.filter fun row => row.expiresAt ≤ now).insertionSort
    fun a b => a.expiresAt ≤ b.expiresAt
  ((expired.map CacheRow.key).filterMap store.access.get?).take sqliteCleanupBatchSize

/-- The entries by last use. -/
def byLastUse (store : CacheStore) : List AccessRow := store.access.rows.insertionSort usedBefore

/-- One batch of `enforceCapacity`, which has counted down to `totalBytes`. -/
def evict (store : CacheStore) (totalBytes : Int) : CacheStore :=
  if totalBytes > store.lowWaterBytes then
    store.deleteEntryBatch (store.byLastUse.take sqliteEvictionBatchSize)
      (totalBytes - store.lowWaterBytes)
  else store

/-- `flushCacheTouches` -/
def touch (store : CacheStore) (now : Int) (keys : List CacheKey) : CacheStore :=
  { store with
    access := store.access.map
      (fun row => if row.accessedAt < now - store.touchWindow && keys.contains row.key
        then { row with accessedAt := now } else row)
      (fun row => by split <;> rfl) }

/-- One batch of `deleteExpiredRows`. -/
def deleteExpiredResources (store : CacheStore) (now : Int) : CacheStore :=
  let keys := (((store.resources.rows.filter fun row => row.expiresAt ≤ now).insertionSort
    fun a b => a.expiresAt ≤ b.expiresAt).take sqliteCleanupBatchSize).map CacheResource.baseKey
  { store with resources := store.resources.filter fun row => !keys.contains row.baseKey }

end CacheStore

inductive CacheEvent (R : Type) where
  | put (seen seen' : Int) (put : CachePut R)
  | expire (now : Int)
  | evict (totalBytes : Int)
  | touch (now : Int) (keys : List CacheKey)
  | deleteExpiredResources (now : Int)
  | rolledBack
  /-- `usageBytes.Add` after the commit. -/
  | settle (index : Nat)
  /-- A new process. -/
  | reopen

namespace CacheStore

variable {R : Type} (responseCacheKey : CacheKey → Nat → R → List String → CacheKey)

def step (store : CacheStore) : CacheEvent R → CacheStore
  | .put seen seen' put => store.put responseCacheKey seen seen' put
  | .expire now => store.deleteEntryBatch (store.expiredSelection now) 0
  | .evict totalBytes => store.evict totalBytes
  | .touch now keys => store.touch now keys
  | .deleteExpiredResources now => store.deleteExpiredResources now
  | .rolledBack => store
  | .settle index =>
    { store with
      usageBytes := store.usageBytes + (store.pending[index]?).getD 0
      pending := store.pending.eraseIdx index }
  | .reopen => { store with usageBytes := store.totalBytes, pending := [] }

def run (store : CacheStore) (events : List (CacheEvent R)) : CacheStore :=
  events.foldl (step responseCacheKey) store

end CacheStore

/-! ## Sums over the rows -/

/-- What both tables know of an entry. -/
def CacheRow.sized (row : CacheRow) : CacheKey × Nat :=
  (row.key, cacheEntrySizeBytes row.headers row.body)

def AccessRow.sized (row : AccessRow) : CacheKey × Nat := (row.key, row.sizeBytes)

theorem sized_insert {ρ : Type} {key : ρ → CacheKey} {sized : ρ → CacheKey × Nat}
    (t : Table key) (row : ρ) (hkey : ∀ row, (sized row).1 = key row) :
    (t.insert row).rows.map sized = insertRow Prod.fst (sized row) (t.rows.map sized) :=
  map_insertRow hkey row t.rows

theorem bytes_append (rows rows' : List AccessRow) :
    bytes (rows ++ rows') = bytes rows + bytes rows' := by
  unfold bytes
  rw [List.map_append, List.sum_append]

theorem bytes_cons (row : AccessRow) (rows : List AccessRow) :
    bytes (row :: rows) = row.sizeBytes + bytes rows := by
  unfold bytes
  rw [List.map_cons, List.sum_cons]

theorem bytes_perm {rows rows' : List AccessRow} (h : rows.Perm rows') : bytes rows = bytes rows' :=
  (h.map _).sum_eq

theorem bytes_nonneg (rows : List AccessRow) : 0 ≤ bytes rows := by
  induction rows with
  | nil => exact Int.le_refl 0
  | cons row rows ih =>
    rw [bytes_cons]
    omega

/-- A row that is written takes the place of the one with its key. -/
theorem bytes_insert (access : Table AccessRow.key) (row : AccessRow) :
    bytes (access.insert row).rows
        = bytes access.rows - ((access.get? row.key).map AccessRow.sizeBytes).getD 0
          + row.sizeBytes ∧
      ((access.insert row).rows.length : Int)
        = access.rows.length
          + if ((access.get? row.key).map AccessRow.sizeBytes).isSome then 0 else 1 := by
  have haft := access.insert_perm row
  rw [bytes_perm haft, bytes_cons, haft.length_eq, List.length_cons]
  cases hfor : access.get? row.key with
  | none =>
    rw [Table.erase_eq_self hfor]
    simp
    omega
  | some former =>
    have hbef := Table.perm_erase (Table.mem_of_get? hfor)
    rw [Table.key_of_get? hfor] at hbef
    rw [bytes_perm hbef, bytes_cons, hbef.length_eq]
    simp
    omega

/-- Deleting rows by their keys. -/
theorem bytes_delete {access : Table AccessRow.key} {removed : List AccessRow}
    (hnod : removed.Nodup) (hsub : ∀ row ∈ removed, row ∈ access) :
    access.rows.Perm (removed
      ++ (access.filter fun row => !(removed.map AccessRow.key).contains row.key).rows) := by
  have hrem : (access.rows.filter fun row => (removed.map AccessRow.key).contains row.key).Perm
      removed := by
    refine (List.perm_ext_iff_of_nodup (access.rows_nodup.filter _) hnod).mpr fun row => ?_
    rw [List.mem_filter, List.contains_iff_mem, List.mem_map]
    constructor
    · intro ⟨hrow, other, hoth, hkey⟩
      rw [← Table.eq_of_key (hsub other hoth) hrow hkey]
      exact hoth
    · exact fun hrow => ⟨hsub row hrow, row, hrow, rfl⟩
  exact (List.filter_append_perm _ access.rows).symm.trans (hrem.append_right _)

/-! ## A batch -/

/-- A batch stops as soon as it has enough, or at the end of its selection. -/
theorem takeBytes_eq {stopAfterBytes removedBytes : Int} (h : removedBytes < stopAfterBytes)
    (rows : List AccessRow) (hstop : 0 < stopAfterBytes) :
    ∃ n ≤ rows.length, takeBytes stopAfterBytes removedBytes rows = rows.take n ∧
      (∀ m < n, removedBytes + bytes (rows.take m) < stopAfterBytes) ∧
      (stopAfterBytes ≤ removedBytes + bytes (rows.take n) ∨ n = rows.length) := by
  induction rows generalizing removedBytes with
  | nil => exact ⟨0, Nat.le_refl 0, rfl, nofun, .inr rfl⟩
  | cons row rows ih =>
    have hfir : ∀ n, bytes ((row :: rows).take (n + 1)) = row.sizeBytes + bytes (rows.take n) :=
      fun n => bytes_cons row (rows.take n)
    unfold takeBytes
    dsimp only
    split
    next hdone =>
      rw [Bool.and_eq_true, decide_eq_true_eq, decide_eq_true_eq] at hdone
      refine ⟨1, Nat.succ_le_succ (Nat.zero_le _), rfl, ?_, .inl ?_⟩
      · intro m hm
        obtain rfl := Nat.lt_one_iff.mp hm
        simpa [bytes] using h
      · rw [hfir 0]
        simpa [bytes] using hdone.2
    next hmore =>
      rw [Bool.and_eq_true, decide_eq_true_eq, decide_eq_true_eq, not_and] at hmore
      obtain ⟨n, hn, htake, hless, hend⟩ := ih (Int.not_le.mp (hmore hstop))
      refine ⟨n + 1, Nat.succ_le_succ hn, congrArg (List.cons row) htake, ?_, ?_⟩
      · intro m hm
        cases m with
        | zero => simpa [bytes] using h
        | succ m =>
          have hm' := hless m (Nat.lt_of_succ_lt_succ hm)
          rw [hfir]
          omega
      · rw [hfir]
        rcases hend with heno | hlast
        · exact .inl (by omega)
        · exact .inr (congrArg Nat.succ hlast)

/-- A batch takes a part of its selection. -/
theorem takeBytes_sublist (stopAfterBytes removedBytes : Int) (rows : List AccessRow) :
    (takeBytes stopAfterBytes removedBytes rows).Sublist rows := by
  induction rows generalizing removedBytes with
  | nil => exact List.Sublist.refl []
  | cons row rows ih =>
    unfold takeBytes
    dsimp only
    split
    · exact (List.nil_sublist rows).cons_cons row
    · exact (ih _).cons_cons row

/-! ## The books -/

/-- The books balance. -/
structure Accounted (store : CacheStore) : Prop where
  sizes : store.entries.rows.map CacheRow.sized = store.access.rows.map AccessRow.sized
  total : store.totalBytes = bytes store.access.rows
  count : store.entryCount = store.access.rows.length
  limit : store.totalBytes ≤ store.maxSizeBytes
  usage : store.usageBytes + store.pending.sum = store.totalBytes

namespace Accounted

variable {store : CacheStore}

theorem putTransaction {R : Type} {responseCacheKey : CacheKey → Nat → R → List String → CacheKey}
    (h : Accounted store) {put : CachePut R} {store' : CacheStore}
    (hput : store.putTransaction responseCacheKey put = some store') : Accounted store' := by
  unfold CacheStore.putTransaction at hput
  dsimp only at hput
  generalize responseCacheKey put.baseKey _ put.request put.varyHeaders = key at hput
  split at hput
  · cases hput
  next hroom =>
    cases hput
    have hins := bytes_insert store.access
      { key, accessedAt := put.storedAt, sizeBytes := cacheEntrySizeBytes put.headers put.body }
    refine ⟨?_, ?_, ?_, ?_, ?_⟩
    · dsimp only
      rw [sized_insert, sized_insert, h.sizes]
      · rfl
      all_goals exact fun _ => rfl
    · rw [hins.1, ← h.total]
    · rw [hins.2, ← h.count]
    · -- an entry that grows must fit; one that does not leaves the total below what it was
      have hlim := h.limit
      rw [Bool.and_eq_true, decide_eq_true_eq, decide_eq_true_eq, not_and] at hroom
      dsimp only
      omega
    · have husa := h.usage
      rw [List.sum_append, List.sum_singleton]
      dsimp only
      omega

theorem deleteEntryBatch (h : Accounted store) {selection : List AccessRow} (stopAfterBytes : Int)
    (hnod : selection.Nodup) (hsub : ∀ row ∈ selection, row ∈ store.access) :
    Accounted (store.deleteEntryBatch selection stopAfterBytes) := by
  have hpart := takeBytes_sublist stopAfterBytes 0 selection
  unfold CacheStore.deleteEntryBatch
  generalize takeBytes stopAfterBytes 0 selection = removed at hpart
  dsimp only
  split
  · exact h
  · have hdel := bytes_delete (hpart.nodup hnod) fun row hrow => hsub row (hpart.subset hrow)
    have hbyt := bytes_perm hdel
    have hlen := hdel.length_eq
    rw [bytes_append] at hbyt
    rw [List.length_append] at hlen
    have hrest := bytes_nonneg
      (store.access.filter fun row => !(removed.map AccessRow.key).contains row.key).rows
    have hless := bytes_nonneg removed
    have htot := h.total
    have hcou := h.count
    have hlim := h.limit
    have husa := h.usage
    refine ⟨?_, ?_, ?_, ?_, ?_⟩
    · -- both tables lose the rows whose key is among the deleted ones
      have hfil := congrArg (List.filter fun sized =>
        !(removed.map AccessRow.key).contains sized.1) h.sizes
      rw [List.filter_map, List.filter_map] at hfil
      exact hfil
    · dsimp only
      omega
    · dsimp only
      rw [List.length_map]
      omega
    · dsimp only
      omega
    · rw [List.sum_append, List.sum_singleton]
      dsimp only
      omega

theorem expire (h : Accounted store) (now : Int) :
    Accounted (store.deleteEntryBatch (store.expiredSelection now) 0) := by
  refine h.deleteEntryBatch 0 ?_ fun row hrow => ?_
  · refine (List.take_sublist _ _).nodup (List.Nodup.filterMap ?_ ?_)
    · intro key key' row hrow hrow'
      exact (Table.key_of_get? hrow).symm.trans (Table.key_of_get? hrow')
    · have hperm := List.perm_insertionSort (fun a b : CacheRow => a.expiresAt ≤ b.expiresAt)
        (store.entries.rows.filter fun row => row.expiresAt ≤ now)
      exact (hperm.map _).symm.nodup ((List.filter_sublist.map _).nodup store.entries.keys_nodup)
  · obtain ⟨key, -, hget⟩ := List.mem_filterMap.mp (List.mem_of_mem_take hrow)
    exact Table.mem_of_get? hget

theorem evict (h : Accounted store) (totalBytes : Int) : Accounted (store.evict totalBytes) := by
  unfold CacheStore.evict
  split
  · have hperm := List.perm_insertionSort usedBefore store.access.rows
    refine h.deleteEntryBatch _ ?_ fun row hrow => hperm.subset (List.mem_of_mem_take hrow)
    exact (List.take_sublist _ _).nodup (hperm.symm.nodup store.access.rows_nodup)
  · exact h

theorem touch (h : Accounted store) (now : Int) (keys : List CacheKey) :
    Accounted (store.touch now keys) := by
  have hkept : ∀ {α : Type} (f : AccessRow → α),
      (∀ row : AccessRow, f { row with accessedAt := now } = f row) →
      (store.touch now keys).access.rows.map f = store.access.rows.map f := by
    intro α f hf
    refine List.map_map.trans (List.map_congr_left fun row _ => ?_)
    show f (if _ then _ else row) = f row
    split
    · exact hf row
    · rfl
  refine ⟨h.sizes.trans (hkept _ fun _ => rfl).symm, ?_, ?_, h.limit, h.usage⟩
  · exact h.total.trans (congrArg List.sum (hkept _ fun _ => rfl).symm)
  · exact h.count.trans (congrArg Nat.cast (List.length_map _).symm)

theorem settle (h : Accounted store) (index : Nat) :
    store.usageBytes + (store.pending[index]?).getD 0 + (store.pending.eraseIdx index).sum
      = store.totalBytes := by
  rw [← h.usage]
  cases hdel : store.pending[index]? with
  | none =>
    rw [List.eraseIdx_of_length_le (List.getElem?_eq_none_iff.mp hdel)]
    simp
  | some delta =>
    obtain ⟨hind, rfl⟩ := List.getElem?_eq_some_iff.mp hdel
    have hperm := (List.getElem_cons_eraseIdx_perm hind).sum_eq
    rw [List.sum_cons] at hperm
    rw [← hperm, Option.getD_some]
    omega

section Runs

variable {R : Type} {responseCacheKey : CacheKey → Nat → R → List String → CacheKey}

theorem step (h : Accounted store) (event : CacheEvent R) :
    Accounted (store.step responseCacheKey event) := by
  cases event with
  | put seen seen' put =>
    show Accounted (store.put responseCacheKey seen seen' put)
    unfold CacheStore.put
    repeat' split
    case isFalse =>
      cases hput : store.putTransaction responseCacheKey put with
      | none => exact h
      | some store' => exact h.putTransaction hput
    all_goals exact h
  | expire now => exact h.expire now
  | evict totalBytes => exact h.evict totalBytes
  | touch now keys => exact h.touch now keys
  | deleteExpiredResources => exact { h with }
  | rolledBack => exact h
  | settle index => exact { h with usage := h.settle index }
  | reopen => exact { h with usage := Int.add_zero _ }

theorem run (h : Accounted store) (events : List (CacheEvent R)) :
    Accounted (store.run responseCacheKey events) := by
  induction events generalizing store with
  | nil => exact h
  | cons event events ih => exact ih (h.step event)

end Runs

end Accounted

/-- An eviction batch deletes `removed`: the entries least recently used, as few as have the
requested size together, or a full batch. -/
structure Evicted (store store' : CacheStore) (amount : Int) (removed : List AccessRow) : Prop where
  shortest : ∃ n, removed = store.byLastUse.take n ∧
    (∀ m < n, bytes (store.byLastUse.take m) < amount) ∧
    (n ≤ CacheStore.sqliteEvictionBatchSize ∧ amount ≤ bytes removed ∨
      n = min CacheStore.sqliteEvictionBatchSize store.byLastUse.length)
  access : ∀ row, row ∈ store'.access ↔ row ∈ store.access ∧ row ∉ removed
  entries : ∀ row, row ∈ store'.entries ↔
    row ∈ store.entries ∧ ∀ used ∈ removed, used.key ≠ row.key

section Eviction

variable {store : CacheStore} {totalBytes : Int} {removed : List AccessRow}

theorem evict_tables (h : store.lowWaterBytes < totalBytes)
    (htake : takeBytes (totalBytes - store.lowWaterBytes) 0
      (store.byLastUse.take CacheStore.sqliteEvictionBatchSize) = removed) :
    (store.evict totalBytes).access
        = store.access.filter (fun row => !(removed.map AccessRow.key).contains row.key) ∧
      (store.evict totalBytes).entries
        = store.entries.filter fun row => !(removed.map AccessRow.key).contains row.key := by
  unfold CacheStore.evict CacheStore.deleteEntryBatch
  rw [if_pos h, htake]
  dsimp only
  split
  next hemp =>
    obtain rfl := List.isEmpty_iff.mp hemp
    exact ⟨(Table.ext_rows (List.filter_eq_self.mpr fun _ _ => rfl)).symm,
      (Table.ext_rows (List.filter_eq_self.mpr fun _ _ => rfl)).symm⟩
  · exact ⟨rfl, rfl⟩

end Eviction

theorem evict_evicted (store : CacheStore) {totalBytes : Int}
    (h : store.lowWaterBytes < totalBytes) :
    ∃ removed, Evicted store (store.evict totalBytes)
    (totalBytes - store.lowWaterBytes) removed := by
  have hstop : 0 < totalBytes - store.lowWaterBytes := by omega
  obtain ⟨n, hn, htake, hless, hend⟩ := takeBytes_eq hstop
    (store.byLastUse.take CacheStore.sqliteEvictionBatchSize) hstop
  rw [List.length_take] at hn hend
  simp only [List.take_take, Int.zero_add] at htake hless hend
  rw [Nat.min_eq_left (by omega)] at htake hend
  refine ⟨store.byLastUse.take n, ⟨n, rfl, fun m hm => ?_,
    hend.imp_left fun h => ⟨by omega, h⟩⟩, ?_, ?_⟩
  · have hm' := hless m hm
    rwa [Nat.min_eq_left (by omega)] at hm'
  · intro row
    rw [(evict_tables h htake).1, Table.mem_filter, Bool.not_eq_true', ← Bool.not_eq_true,
      List.contains_iff_mem, List.mem_map]
    -- keys are unique, so a row whose key was deleted is the deleted row
    refine and_congr_right fun hrow => not_congr ⟨?_, fun hin => ⟨row, hin, rfl⟩⟩
    intro ⟨used, hused, hkey⟩
    have hmem := (List.perm_insertionSort usedBefore _).subset (List.mem_of_mem_take hused)
    rwa [← Table.eq_of_key hmem hrow hkey]
  · intro row
    rw [(evict_tables h htake).2, Table.mem_filter, Bool.not_eq_true', ← Bool.not_eq_true,
      List.contains_iff_mem, List.mem_map]
    exact and_congr_right fun _ => ⟨fun hnone used hused hkey => hnone ⟨used, hused, hkey⟩,
      fun hnone ⟨used, hused, hkey⟩ => hnone used hused hkey⟩

instance : Std.Total usedBefore := ⟨fun a b => by
  rcases lt_trichotomy a.accessedAt b.accessedAt with hlt | heq | hlt
  · exact Or.inl (Or.inl hlt)
  · exact (Nat.le_total a.key b.key).imp (fun h => Or.inr ⟨heq, h⟩) fun h => Or.inr ⟨heq.symm, h⟩
  · exact Or.inr (Or.inl hlt)⟩

instance : IsTrans AccessRow usedBefore := ⟨fun a b c hab hbc => by
  rcases hab with hab | ⟨hab, hkey⟩ <;> rcases hbc with hbc | ⟨hbc, hkey'⟩
  · exact Or.inl (hab.trans hbc)
  · exact Or.inl (hbc ▸ hab)
  · exact Or.inl (hab ▸ hbc)
  · exact Or.inr ⟨hab.trans hbc, Nat.le_trans hkey hkey'⟩⟩

/-- Nothing changes the settings. -/
theorem CacheStore.step_settings {R : Type}
    (responseCacheKey : CacheKey → Nat → R → List String → CacheKey) (store : CacheStore)
    (event : CacheEvent R) :
    (store.step responseCacheKey event).maxSizeBytes = store.maxSizeBytes ∧
      (store.step responseCacheKey event).lowWaterBytes = store.lowWaterBytes := by
  have hbat : ∀ selection stopAfterBytes,
      (store.deleteEntryBatch selection stopAfterBytes).maxSizeBytes = store.maxSizeBytes ∧
      (store.deleteEntryBatch selection stopAfterBytes).lowWaterBytes = store.lowWaterBytes := by
    intro selection stopAfterBytes
    unfold deleteEntryBatch
    dsimp only
    split <;> exact ⟨rfl, rfl⟩
  cases event with
  | put seen seen' put =>
    show (store.put responseCacheKey seen seen' put).maxSizeBytes = _ ∧
      (store.put responseCacheKey seen seen' put).lowWaterBytes = _
    unfold CacheStore.put putTransaction
    dsimp only
    repeat' split
    all_goals exact ⟨rfl, rfl⟩
  | expire => exact hbat _ _
  | evict =>
    show (store.evict _).maxSizeBytes = _ ∧ (store.evict _).lowWaterBytes = _
    unfold CacheStore.evict
    split
    · exact hbat _ _
    · exact ⟨rfl, rfl⟩
  | _ => exact ⟨rfl, rfl⟩

theorem CacheStore.run_settings {R : Type}
    (responseCacheKey : CacheKey → Nat → R → List String → CacheKey) (store : CacheStore)
    (events : List (CacheEvent R)) :
    (store.run responseCacheKey events).maxSizeBytes = store.maxSizeBytes ∧
      (store.run responseCacheKey events).lowWaterBytes = store.lowWaterBytes := by
  induction events generalizing store with
  | nil => exact ⟨rfl, rfl⟩
  | cons event events ih =>
    obtain ⟨hmax, hlow⟩ := store.step_settings responseCacheKey event
    obtain ⟨hmax', hlow'⟩ := ih (store.step responseCacheKey event)
    exact ⟨hmax'.trans hmax, hlow'.trans hlow⟩

/-- **The books of the response cache balance** after every sequence of events on an empty
database, and every eviction batch then deletes what it should. -/
theorem cache_accounting {R : Type}
    (responseCacheKey : CacheKey → Nat → R → List String → CacheKey) (maxSizeBytes : Nat)
    (lowWaterBytes touchWindow : Int) (events : List (CacheEvent R)) :
    let store := ({ maxSizeBytes, lowWaterBytes, touchWindow : CacheStore }).run
      responseCacheKey events
    store.totalBytes
        = (store.entries.rows.map fun row => (cacheEntrySizeBytes row.headers row.body : Int)).sum ∧
      store.entryCount = store.entries.rows.length ∧
      store.entries.rows.map CacheRow.key = store.access.rows.map AccessRow.key ∧
      store.totalBytes ≤ maxSizeBytes ∧
      (store.pending = [] → store.usageBytes = store.totalBytes) ∧
      (store.byLastUse.Perm store.access.rows ∧ store.byLastUse.Pairwise usedBefore) ∧
      ∀ totalBytes > lowWaterBytes,
        ∃ removed, Evicted store (store.evict totalBytes) (totalBytes - lowWaterBytes) removed := by
  intro store
  have hemp : Accounted { maxSizeBytes, lowWaterBytes, touchWindow } :=
    ⟨rfl, rfl, rfl, Int.natCast_nonneg _, rfl⟩
  have h : Accounted store := hemp.run events
  have hset := CacheStore.run_settings responseCacheKey
    { maxSizeBytes, lowWaterBytes, touchWindow } events
  have hmax : store.maxSizeBytes = maxSizeBytes := hset.1
  have hlow : store.lowWaterBytes = lowWaterBytes := hset.2
  refine ⟨?_, ?_, ?_, ?_, fun hsett => ?_, ⟨List.perm_insertionSort _ _,
    List.pairwise_insertionSort _ _⟩, fun totalBytes hlar => ?_⟩
  · have hsiz := congrArg (List.map fun sized : CacheKey × Nat => (sized.2 : Int)) h.sizes
    rw [List.map_map, List.map_map] at hsiz
    exact h.total.trans (congrArg List.sum hsiz.symm)
  · have hlen := congrArg List.length h.sizes
    rw [List.length_map, List.length_map] at hlen
    rw [h.count, hlen]
  · have hkeys := congrArg (List.map Prod.fst) h.sizes
    rwa [List.map_map, List.map_map] at hkeys
  · have hlim := h.limit
    rwa [hmax] at hlim
  · have husa := h.usage
    rw [hsett] at husa
    exact (Int.add_zero _).symm.trans husa
  · have hevi := evict_evicted store (hlow.symm ▸ hlar : store.lowWaterBytes < totalBytes)
    rwa [hlow] at hevi

end Swarmlite
