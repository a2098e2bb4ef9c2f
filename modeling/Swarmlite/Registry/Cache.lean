import Mathlib.Data.String.Basic
import Mathlib.Order.WellFounded
import Swarmlite.Lib.Table
import Swarmlite.Lib.Text

/-!
# The registry cache — `swarmlite-registry/src/cache.rs`, `service.rs`

The controller passes image blobs on from an upstream registry and keeps a copy of each under its
digest. A copy is written to a temporary file while the client reads, and renamed into place by
`commit`. The upstream stream checks the digest itself and reports a mismatch as an error after
its last chunk, so a copy is good once the stream has ended without one.

**Where the copy is kept too early.** The loop of `caching_stream_response` commits as soon as the
announced length has been written (`has_expected_size`), before it asks the stream for its end. An
error that follows, the digest mismatch among them, comes too late. Copies are whole exactly if
no stream reaches its announced length before its end (`Upstream.Timely`).

The proof follows the writer of each exchange: it holds the chunks read so far (`Tracks`). A
commit in the loop then is a prefix of the stream that has the announced length.

Mirroring notes:
- Every exchange has its own temporary file (a fresh UUID), which nobody else reads; its content
  is part of the writer. A temporary file that `gc` removes makes the rename fail.
- The futures of an exchange are dropped when the client stops reading: `drop`, at any point. An
  exchange dropped inside `commit` has renamed the file or it has not; both are runs here.
- A write that returns `Ok` has written the bytes (a property of the file system and `tokio`).
- `cached` may answer anything before an exchange begins, since a cached object that cannot be
  served is fetched again; what `get` found in `store_bytes` may be out of date at the commit.
- `gc` removes objects by age and lease; here it removes any.
-/

namespace Swarmlite

open Ordered

/-! ## Names -/

/-- `RegistryCache::object_path`, below `objects/sha256`. -/
def objectPath (digest : String) : Option String :=
  match Text.splitOnce ":" digest with
  | none => none
  | some (algorithm, encoded) =>
    if algorithm ≠ "sha256" || Text.byteLength encoded ≠ 64
        || !encoded.toList.all (fun c => c.isDigit || ('a' ≤ c && c ≤ 'f') || ('A' ≤ c && c ≤ 'F'))
    then none
    else some encoded

/-! ## Streams and writers -/

/-- A blob as the upstream registry sends it: its chunks, then the end or an error. -/
structure Upstream where
  announced : Option Nat
  chunks : List (List UInt8)
  failed : Bool
deriving DecidableEq

def Upstream.whole (upstream : Upstream) : List UInt8 := upstream.chunks.flatten

/-- `u64::MAX` -/
def lengthLimit : Nat := 18446744073709551615

structure CacheWriter where
  digest : String
  content : List UInt8
  expectedSize : Option Nat
  written : Nat
deriving DecidableEq

namespace CacheWriter

def write (writer : CacheWriter) (bytes : List UInt8) : CacheWriter :=
  { writer with
    content := writer.content ++ bytes
    written := min (writer.written + bytes.length) lengthLimit }

def hasExpectedSize (writer : CacheWriter) : Bool := writer.expectedSize = some writer.written

/-- The size check of `commit`. -/
def sizeAgrees (writer : CacheWriter) : Bool :=
  match writer.expectedSize with
  | some expected => writer.written = expected
  | none => true

end CacheWriter

/-- How the file system answers to `sync_all` and `rename`. -/
inductive CommitResult where
  | renamed
  | alreadyExists
  | failed
deriving DecidableEq

/-! ## Exchanges -/

/-- A blob request whose response is being streamed. -/
structure Exchange where
  id : Nat
  digest : String
  upstream : Upstream
  rest : List (List UInt8)
  writer : Option CacheWriter
deriving DecidableEq

/-- A blob that was put in place, with the stream it came from. -/
structure BlobCommit where
  digest : String
  upstream : Upstream
  content : List UInt8
deriving DecidableEq

structure RegistryWorld where
  objects : Map String (List UInt8)
  exchanges : Table Exchange.id
  /-- The blobs committed so far. -/
  commits : List BlobCommit

namespace RegistryWorld

def empty : RegistryWorld := { objects := Table.empty, exchanges := Table.empty, commits := [] }

def commit (world : RegistryWorld) (upstream : Upstream) (writer : CacheWriter) :
    CommitResult → RegistryWorld
  | .renamed =>
    if writer.sizeAgrees then
      { world with
        objects := world.objects.put writer.digest writer.content
        commits := ⟨writer.digest, upstream, writer.content⟩ :: world.commits }
    else world
  | .alreadyExists => world
  | .failed => world

def setExchange (world : RegistryWorld) (exchange : Exchange) : RegistryWorld :=
  { world with exchanges := world.exchanges.insert exchange }

def dropExchange (world : RegistryWorld) (id : Nat) : RegistryWorld :=
  { world with exchanges := world.exchanges.erase id }

/-- `Ok(bytes)` in the loop of `caching_stream_response`. -/
def chunk (world : RegistryWorld) (exchange : Exchange) (bytes : List UInt8)
    (rest : List (List UInt8)) (wrote : Bool) (result : CommitResult) : RegistryWorld :=
  match exchange.writer with
  | none => world.setExchange { exchange with rest := rest }
  | some writer =>
    -- a failed write aborts the writer, the client gets its bytes all the same
    if !wrote then world.setExchange { exchange with rest := rest, writer := none }
    else if (writer.write bytes).hasExpectedSize then
      (world.commit exchange.upstream (writer.write bytes) result).setExchange
        { exchange with rest := rest, writer := none }
    else world.setExchange { exchange with rest := rest, writer := some (writer.write bytes) }

/-- The end of the stream. -/
def finish (world : RegistryWorld) (exchange : Exchange) (result : CommitResult) :
    RegistryWorld :=
  match exchange.writer with
  | none => world.dropExchange exchange.id
  | some writer => (world.commit exchange.upstream writer result).dropExchange exchange.id

end RegistryWorld

inductive RegistryEvent where
  /-- `blob` starts streaming; `opened` is the result of `begin_write`. -/
  | begin (id : Nat) (digest : String) (upstream : Upstream) (opened : Bool)
  | chunk (id : Nat) (wrote : Bool) (result : CommitResult)
  | finish (id : Nat) (result : CommitResult)
  | fail (id : Nat)
  /-- The client stops reading. -/
  | drop (id : Nat)
  /-- `manifest`; `found` is what `get` answered. -/
  | manifest (digest : String) (bytes : List UInt8) (found : Bool) (result : CommitResult)
  | gc (removed : List String)
  | restart

namespace RegistryWorld

/-- One event; `none` if it cannot happen. -/
def step (world : RegistryWorld) : RegistryEvent → Option RegistryWorld
  | .begin id digest upstream opened =>
    if world.exchanges.contains id then none
    else if opened && (objectPath digest).isNone then none
    else
      let writer : CacheWriter := ⟨digest, [], upstream.announced, 0⟩
      some (world.setExchange
        { id, digest, upstream, rest := upstream.chunks
          writer := if opened then some writer else none })
  | .chunk id wrote result =>
    match world.exchanges.get? id with
    | none => none
    | some exchange =>
      match exchange.rest with
      | [] => none
      | bytes :: rest => some (world.chunk exchange bytes rest wrote result)
  | .finish id result =>
    match world.exchanges.get? id with
    | none => none
    | some exchange =>
      if exchange.rest.isEmpty && !exchange.upstream.failed then some (world.finish exchange result)
      else none
  | .fail id =>
    match world.exchanges.get? id with
    | none => none
    | some exchange =>
      if exchange.rest.isEmpty && exchange.upstream.failed then some (world.dropExchange id)
      else none
  | .drop id => some (world.dropExchange id)
  | .manifest digest bytes found result =>
    if found || (objectPath digest).isNone || result ≠ .renamed then some world
    else some { world with objects := world.objects.put digest bytes }
  | .gc removed => some { world with objects := removed.foldl Table.erase world.objects }
  | .restart => some { world with exchanges := Table.empty }

def run (world : RegistryWorld) : List RegistryEvent → Option RegistryWorld
  | [] => some world
  | event :: rest => (world.step event).bind fun next => next.run rest

end RegistryWorld

/-! ## What the upstream registry may send -/

/-- The blobs and manifests an upstream registry serves under a digest. -/
structure Supply where
  blob : String → Upstream → Prop
  manifest : String → List UInt8 → Prop

def Supply.Allows (supply : Supply) : RegistryEvent → Prop
  | .begin _ digest upstream _ => supply.blob digest upstream
  | .manifest digest bytes _ _ => supply.manifest digest bytes
  | _ => True

/-- A stream that ends without an error has the digest it was asked for, and a manifest comes
with its own. -/
structure Supply.Honest (supply : Supply) (sha256 : List UInt8 → String) : Prop where
  blob : ∀ digest upstream, supply.blob digest upstream → upstream.failed = false →
    sha256 upstream.whole = digest
  manifest : ∀ digest bytes, supply.manifest digest bytes → sha256 bytes = digest

/-- **No early commit**: when the announced length is reached, no bytes follow and no error. -/
def Upstream.Timely (upstream : Upstream) : Prop :=
  ∀ n < upstream.chunks.length,
    upstream.announced = some (min (upstream.chunks.take (n + 1)).flatten.length lengthLimit) →
      (upstream.chunks.drop (n + 1)).flatten = [] ∧ upstream.failed = false

instance (upstream : Upstream) : Decidable upstream.Timely :=
  inferInstanceAs (Decidable (∀ n < upstream.chunks.length, _ → _))

/-- The copy of a stream that ended without an error, all of it. -/
def BlobCommit.Complete (made : BlobCommit) : Prop :=
  made.upstream.failed = false ∧ made.content = made.upstream.whole

/-! ## Timely streams are committed whole -/

/-- The writer holds the chunks read so far. -/
structure CacheWriter.Holds (writer : CacheWriter) (digest : String) (upstream : Upstream)
    (read : List (List UInt8)) : Prop where
  digest : writer.digest = digest
  content : writer.content = read.flatten
  written : writer.written = min read.flatten.length lengthLimit
  expectedSize : writer.expectedSize = upstream.announced

theorem CacheWriter.Holds.write {writer : CacheWriter} {digest : String} {upstream : Upstream}
    {read : List (List UInt8)} (h : writer.Holds digest upstream read) (bytes : List UInt8) :
    (writer.write bytes).Holds digest upstream (read ++ [bytes]) := by
  refine ⟨h.digest, ?_, ?_, h.expectedSize⟩
  · show writer.content ++ bytes = _
    rw [h.content]
    simp
  · show min (writer.written + bytes.length) lengthLimit = _
    rw [h.written]
    simp only [List.flatten_append, List.length_append, List.flatten_cons, List.flatten_nil,
      List.append_nil]
    omega

/-- An exchange has read a part of its stream and its writer, if it still has one, holds it. -/
def Exchange.Tracks (exchange : Exchange) : Prop :=
  ∃ read, exchange.upstream.chunks = read ++ exchange.rest
    ∧ ∀ writer, exchange.writer = some writer →
      (objectPath exchange.digest).isSome = true
        ∧ writer.Holds exchange.digest exchange.upstream read

/-- Where everything in the cache comes from. -/
structure RegistryWorld.Sound (supply : Supply) (world : RegistryWorld) : Prop where
  exchanges : ∀ exchange ∈ world.exchanges,
    supply.blob exchange.digest exchange.upstream ∧ exchange.Tracks
  commits : ∀ made ∈ world.commits, supply.blob made.digest made.upstream ∧ made.Complete
  objects : ∀ digest bytes, (digest, bytes) ∈ world.objects →
    (∃ made ∈ world.commits, made.digest = digest ∧ made.content = bytes)
      ∨ supply.manifest digest bytes

namespace RegistryWorld

variable {supply : Supply} {world : RegistryWorld} {exchange : Exchange}

/-- A commit of a whole blob keeps the cache sound. -/
theorem Sound.commit (h : world.Sound supply) {upstream : Upstream} {writer : CacheWriter}
    (hblob : supply.blob writer.digest upstream) (hfai : upstream.failed = false)
    (hcon : writer.content = upstream.whole) (result : CommitResult) :
    (world.commit upstream writer result).Sound supply := by
  cases result with
  | alreadyExists | failed => exact h
  | renamed =>
    simp only [RegistryWorld.commit]
    split
    · refine ⟨h.exchanges, ?_, ?_⟩
      · intro made hmade
        rcases List.mem_cons.mp hmade with rfl | hold
        · exact ⟨hblob, hfai, hcon⟩
        · exact h.commits made hold
      · intro digest bytes hobj
        rcases Table.mem_insert.mp hobj with heq | ⟨hold, -⟩
        · obtain ⟨rfl, rfl⟩ := Prod.mk.inj heq
          exact .inl ⟨_, List.mem_cons_self .., rfl, rfl⟩
        · rcases h.objects digest bytes hold with ⟨made, hmade, hori⟩ | hman
          · exact .inl ⟨made, List.mem_cons_of_mem _ hmade, hori⟩
          · exact .inr hman
    · exact h

theorem Sound.setExchange (h : world.Sound supply)
    (hblob : supply.blob exchange.digest exchange.upstream) (htra : exchange.Tracks) :
    (world.setExchange exchange).Sound supply := by
  refine ⟨?_, h.commits, h.objects⟩
  intro other hoth
  rcases Table.mem_insert.mp hoth with rfl | ⟨hold, -⟩
  · exact ⟨hblob, htra⟩
  · exact h.exchanges other hold

theorem Sound.dropExchange (h : world.Sound supply) (id : Nat) :
    (world.dropExchange id).Sound supply :=
  ⟨fun exchange hmem => h.exchanges exchange (Table.mem_erase.mp hmem).1, h.commits, h.objects⟩

/-- A chunk of a timely stream. -/
theorem Sound.chunk (h : world.Sound supply) {bytes : List UInt8}
    {rest : List (List UInt8)} (hmem : exchange ∈ world.exchanges)
    (hrest : exchange.rest = bytes :: rest)
    (htim : (objectPath exchange.digest).isSome = true → exchange.upstream.Timely)
    (wrote : Bool) (result : CommitResult) :
    (world.chunk exchange bytes rest wrote result).Sound supply := by
  obtain ⟨hblob, read, hchu, hwri⟩ := h.exchanges exchange hmem
  have hread : exchange.upstream.chunks = (read ++ [bytes]) ++ rest := by
    rw [hchu, hrest, List.append_assoc]
    rfl
  have hunw : Exchange.Tracks { exchange with rest := rest, writer := none } :=
    ⟨read ++ [bytes], hread, fun _ hnone => nomatch hnone⟩
  unfold RegistryWorld.chunk
  cases hcase : exchange.writer with
  | none => exact h.setExchange hblob hunw
  | some writer =>
    obtain ⟨hpath, hhol⟩ := hwri writer hcase
    have hmore := hhol.write bytes
    dsimp only
    split
    · exact h.setExchange hblob hunw
    split
    next hsize =>
      -- the announced length is reached here, so nothing may follow
      refine Sound.setExchange ?_ hblob hunw
      have hann : exchange.upstream.announced
          = some (min (read ++ [bytes]).flatten.length lengthLimit) := by
        unfold CacheWriter.hasExpectedSize at hsize
        rw [← hmore.expectedSize, ← hmore.written]
        exact of_decide_eq_true hsize
      have htake : exchange.upstream.chunks.take (read.length + 1) = read ++ [bytes] := by
        rw [hread]
        exact List.take_left' (by simp)
      have hdrop : exchange.upstream.chunks.drop (read.length + 1) = rest := by
        rw [hread]
        exact List.drop_left' (by simp)
      have hlast := htim hpath read.length (by rw [hread]; simp)
      rw [htake, hdrop] at hlast
      obtain ⟨hnot, hfai⟩ := hlast hann
      refine h.commit (hmore.digest ▸ hblob) hfai ?_ result
      have hwho : ((read ++ [bytes]) ++ rest).flatten
          = (read ++ [bytes]).flatten ++ rest.flatten := List.flatten_append
      rw [hmore.content]
      unfold Upstream.whole
      rw [hread, hwho, hnot, List.append_nil]
    · refine h.setExchange hblob ⟨read ++ [bytes], hread, ?_⟩
      intro after haft
      cases haft
      exact ⟨hpath, hmore⟩

/-- At the end of the stream the writer holds all of it. -/
theorem Sound.finish (h : world.Sound supply)
    (hmem : exchange ∈ world.exchanges) (hrest : exchange.rest = [])
    (hfai : exchange.upstream.failed = false) (result : CommitResult) :
    (world.finish exchange result).Sound supply := by
  obtain ⟨hblob, read, hchu, hwri⟩ := h.exchanges exchange hmem
  unfold RegistryWorld.finish
  cases hcase : exchange.writer with
  | none => exact h.dropExchange _
  | some writer =>
    obtain ⟨-, hhol⟩ := hwri writer hcase
    refine Sound.dropExchange ?_ _
    refine h.commit (hhol.digest ▸ hblob) hfai ?_ result
    rw [hhol.content]
    unfold Upstream.whole
    rw [hchu, hrest, List.append_nil]

theorem mem_foldl_erase {removed : List String} {objects : Map String (List UInt8)}
    {object : String × List UInt8} (h : object ∈ removed.foldl Table.erase objects) :
    object ∈ objects := by
  induction removed generalizing objects with
  | nil => exact h
  | cons digest removed ih => exact (Table.mem_erase.mp (ih h)).1

/-- **One step** of a cache whose streams are timely. -/
theorem Sound.step (h : world.Sound supply) (htim : ∀ digest upstream, supply.blob digest upstream →
      (objectPath digest).isSome = true → upstream.Timely)
    {event : RegistryEvent} (hall : supply.Allows event) {next : RegistryWorld}
    (hstep : world.step event = some next) : next.Sound supply := by
  cases event with
  | begin id digest upstream opened =>
    simp only [RegistryWorld.step] at hstep
    split at hstep
    · cases hstep
    split at hstep
    · cases hstep
    next hpath =>
      cases hstep
      refine h.setExchange hall ⟨[], rfl, ?_⟩
      intro writer hwri
      cases opened with
      | false => cases hwri
      | true =>
        cases hwri
        refine ⟨?_, rfl, rfl, rfl, rfl⟩
        simpa [Option.isSome_iff_ne_none] using hpath
  | chunk id wrote result =>
    simp only [RegistryWorld.step] at hstep
    split at hstep
    · cases hstep
    next exchange hget =>
      split at hstep
      · cases hstep
      next bytes rest hrest =>
        cases hstep
        have hmem := (Table.get?_eq_some.mp hget).1
        exact h.chunk hmem hrest (htim _ _ (h.exchanges exchange hmem).1) wrote result
  | finish id result =>
    simp only [RegistryWorld.step] at hstep
    split at hstep
    · cases hstep
    next exchange hget =>
      split at hstep
      next hend =>
        cases hstep
        simp only [Bool.and_eq_true, List.isEmpty_iff, Bool.not_eq_true'] at hend
        exact h.finish (Table.get?_eq_some.mp hget).1 hend.1 hend.2 result
      · cases hstep
  | fail id =>
    simp only [RegistryWorld.step] at hstep
    split at hstep
    · cases hstep
    split at hstep
    · cases hstep
      exact h.dropExchange id
    · cases hstep
  | drop id =>
    cases hstep
    exact h.dropExchange id
  | manifest digest bytes found result =>
    simp only [RegistryWorld.step] at hstep
    split at hstep
    · cases hstep
      exact h
    · cases hstep
      refine ⟨h.exchanges, h.commits, ?_⟩
      intro name content hobj
      rcases Table.mem_insert.mp hobj with heq | ⟨hold, -⟩
      · obtain ⟨rfl, rfl⟩ := Prod.mk.inj heq
        exact .inr hall
      · exact h.objects name content hold
  | gc removed =>
    cases hstep
    exact ⟨h.exchanges, h.commits, fun digest bytes hobj =>
      h.objects digest bytes (mem_foldl_erase hobj)⟩
  | restart =>
    cases hstep
    exact ⟨fun _ hmem => absurd hmem Table.mem_empty, h.commits, h.objects⟩

/-- **Whole runs.** -/
theorem Sound.run (htim : ∀ digest upstream, supply.blob digest upstream →
      (objectPath digest).isSome = true → upstream.Timely)
    {events : List RegistryEvent} (hall : ∀ event ∈ events, supply.Allows event)
    {last : RegistryWorld} (h : world.Sound supply) (hrun : world.run events = some last) :
    last.Sound supply := by
  induction events generalizing world with
  | nil =>
    cases hrun
    exact h
  | cons event rest ih =>
    obtain ⟨next, hstep, hrest⟩ := Option.bind_eq_some_iff.mp hrun
    exact ih (fun other hmem => hall other (List.mem_cons_of_mem _ hmem))
      (h.step htim (hall event (List.mem_cons_self ..)) hstep) hrest

end RegistryWorld

/-! ## Other streams are committed too early -/

/-- The announced length is reached with chunk `n`. -/
def Upstream.Reaches (upstream : Upstream) (n : Nat) : Prop :=
  n < upstream.chunks.length
    ∧ upstream.announced = some (min (upstream.chunks.take (n + 1)).flatten.length lengthLimit)

instance (upstream : Upstream) (n : Nat) : Decidable (upstream.Reaches n) :=
  inferInstanceAs (Decidable (_ ∧ _))

/-- A stream that is not timely already fails to be at the first chunk that reaches the announced
length. -/
theorem Upstream.first_reached {upstream : Upstream} (h : ¬ upstream.Timely) :
    ∃ n, upstream.Reaches n ∧ (∀ m < n, ¬ upstream.Reaches m)
      ∧ ¬ ((upstream.chunks.drop (n + 1)).flatten = [] ∧ upstream.failed = false) := by
  unfold Upstream.Timely at h
  push Not at h
  obtain ⟨n, hlen, hann, hlate⟩ := h
  have hsome : ∃ m, upstream.Reaches m := ⟨n, hlen, hann⟩
  refine ⟨Nat.find hsome, Nat.find_spec hsome, fun m hm => Nat.find_min hsome hm, ?_⟩
  intro hend
  have hle : Nat.find hsome ≤ n := Nat.find_min' hsome ⟨hlen, hann⟩
  refine hlate ?_ hend.2
  -- what is left after a later chunk is part of what is left after an earlier one
  have hdrop : upstream.chunks.drop (n + 1)
      = (upstream.chunks.drop (Nat.find hsome + 1)).drop (n - Nat.find hsome) := by
    rw [List.drop_drop]
    congr 1
    omega
  rw [List.flatten_eq_nil_iff] at hend ⊢
  intro bytes hbyt
  rw [hdrop] at hbyt
  exact hend.1 bytes (List.mem_of_mem_drop hbyt)

namespace RegistryWorld

/-- Chunks up to the announced length, each written, end in a commit. -/
theorem run_chunks {upstream : Upstream} {k : Nat} :
    ∀ {world : RegistryWorld} {exchange : Exchange} {writer : CacheWriter}
      {read : List (List UInt8)},
      world.exchanges.get? exchange.id = some exchange → exchange.upstream = upstream →
      exchange.writer = some writer → writer.Holds exchange.digest upstream read →
      upstream.chunks = read ++ exchange.rest → upstream.Reaches (read.length + k) →
      (∀ m < read.length + k, ¬ upstream.Reaches m) →
      ∃ last, world.run (List.replicate (k + 1) (.chunk exchange.id true .renamed)) = some last
        ∧ ∃ made ∈ last.commits, made.upstream = upstream
          ∧ made.content = (upstream.chunks.take (read.length + k + 1)).flatten := by
  induction k with
  | zero =>
    intro world exchange writer read hget hups hwri hhol hchu hrea _
    obtain ⟨hlen, hann⟩ := hrea
    cases hrest : exchange.rest with
    | nil =>
      rw [hchu, hrest, List.append_nil] at hlen
      exact absurd hlen (by simp)
    | cons bytes rest =>
      have hmore := hhol.write bytes
      have hread : upstream.chunks = (read ++ [bytes]) ++ rest := by
        rw [hchu, hrest, List.append_assoc]
        rfl
      have htake : upstream.chunks.take (read.length + 0 + 1) = read ++ [bytes] := by
        rw [hread]
        exact List.take_left' (by simp)
      rw [htake, ← hmore.written, ← hmore.expectedSize] at hann
      have hsize : (writer.write bytes).hasExpectedSize = true := decide_eq_true hann
      have hagr : (writer.write bytes).sizeAgrees = true := by
        unfold CacheWriter.sizeAgrees
        rw [hann]
        exact decide_eq_true rfl
      refine ⟨(world.commit upstream (writer.write bytes) .renamed).setExchange
        { exchange with rest := rest, writer := none }, ?_, ?_⟩
      · simp [RegistryWorld.run, RegistryWorld.step, hget, hrest, RegistryWorld.chunk, hwri,
          hsize, hups]
      · refine ⟨⟨(writer.write bytes).digest, upstream, (writer.write bytes).content⟩, ?_, rfl, ?_⟩
        · simp [RegistryWorld.commit, hagr, RegistryWorld.setExchange]
        · rw [htake]
          exact hmore.content
  | succ k ih =>
    intro world exchange writer read hget hups hwri hhol hchu hrea hfir
    cases hrest : exchange.rest with
    | nil =>
      have hlen := hrea.1
      rw [hchu, hrest, List.append_nil] at hlen
      omega
    | cons bytes rest =>
      have hmore := hhol.write bytes
      have hread : upstream.chunks = (read ++ [bytes]) ++ rest := by
        rw [hchu, hrest, List.append_assoc]
        rfl
      have hcou : (read ++ [bytes]).length = read.length + 1 := by simp
      -- this chunk does not reach the announced length
      have hsize : (writer.write bytes).hasExpectedSize = false := by
        rw [← Bool.not_eq_true]
        intro hsize
        refine hfir read.length (by omega) ⟨by rw [hread]; simp, ?_⟩
        have htake : upstream.chunks.take (read.length + 1) = read ++ [bytes] := by
          rw [hread]
          exact List.take_left' (by simp)
        rw [htake, ← hmore.written, ← hmore.expectedSize]
        exact of_decide_eq_true hsize
      let after : Exchange := { exchange with rest := rest, writer := some (writer.write bytes) }
      have hreads : read.length + (k + 1) = (read ++ [bytes]).length + k := by omega
      rw [hreads] at hrea hfir ⊢
      obtain ⟨last, hrun, hmade⟩ := @ih (world.setExchange after) after (writer.write bytes)
        (read ++ [bytes]) (Table.get?_insert_self ..) hups rfl hmore hread hrea hfir
      refine ⟨last, ?_, hmade⟩
      have hstep : world.step (.chunk exchange.id true .renamed)
          = some (world.setExchange after) := by
        simp [RegistryWorld.step, hget, hrest, RegistryWorld.chunk, hwri, hsize, after]
      rw [List.replicate_succ]
      simp only [RegistryWorld.run, hstep, Option.bind_some]
      exact hrun

end RegistryWorld

/-- **The registry cache is content-addressed** — only streams that ended without an error are
committed, each as a whole, and hence every object has the digest it is named by — in every run,
exactly if every stream that is cached is timely. -/
theorem content_addressed_iff (sha256 : List UInt8 → String) (supply : Supply) :
    (∀ events world, (∀ event ∈ events, supply.Allows event) →
      RegistryWorld.empty.run events = some world →
        (∀ made ∈ world.commits, made.Complete)
          ∧ (supply.Honest sha256 →
            ∀ digest bytes, (digest, bytes) ∈ world.objects → sha256 bytes = digest))
      ↔ ∀ digest upstream, supply.blob digest upstream → (objectPath digest).isSome = true →
        upstream.Timely := by
  constructor
  · intro hruns digest upstream hblob hpath
    by_contra hlate
    obtain ⟨n, hrea, hfir, hinc⟩ := Upstream.first_reached hlate
    let opened : Exchange :=
      { id := 0, digest, upstream, rest := upstream.chunks
        writer := some ⟨digest, [], upstream.announced, 0⟩ }
    have hbeg : RegistryWorld.empty.step (.begin 0 digest upstream true)
        = some (RegistryWorld.empty.setExchange opened) := by
      obtain ⟨path, hsome⟩ := Option.isSome_iff_exists.mp hpath
      simp only [RegistryWorld.step, hsome]
      rfl
    obtain ⟨last, hrun, made, hmade, hups, hcon⟩ :=
      @RegistryWorld.run_chunks upstream n (RegistryWorld.empty.setExchange opened) opened
        ⟨digest, [], upstream.announced, 0⟩ [] (Table.get?_insert_self ..) rfl rfl
        ⟨rfl, rfl, rfl, rfl⟩ rfl (by simpa using hrea) (by simpa using hfir)
    have hwho : RegistryWorld.empty.run (.begin 0 digest upstream true
        :: List.replicate (n + 1) (.chunk 0 true .renamed)) = some last := by
      simp only [RegistryWorld.run, hbeg, Option.bind_some]
      exact hrun
    obtain ⟨hcom, -⟩ := hruns _ last (by
      intro event heve
      rcases List.mem_cons.mp heve with rfl | hchu
      · exact hblob
      · rw [List.eq_of_mem_replicate hchu]
        exact trivial) hwho
    obtain ⟨hfai, hall⟩ := hcom made hmade
    rw [hups] at hfai hall
    refine hinc ⟨?_, hfai⟩
    rw [hcon] at hall
    unfold Upstream.whole at hall
    have hspl := congrArg List.flatten (List.take_append_drop (n + 1) upstream.chunks)
    rw [List.flatten_append] at hspl
    simp only [List.length_nil, Nat.zero_add] at hall
    rw [← hall] at hspl
    exact List.append_right_eq_self.mp hspl
  · intro htim events world hallo hrun
    have hemp : RegistryWorld.empty.Sound supply :=
      ⟨fun _ hmem => absurd hmem Table.mem_empty, fun _ hmem => absurd hmem List.not_mem_nil,
        fun _ _ hmem => absurd hmem Table.mem_empty⟩
    have hsou := hemp.run htim hallo hrun
    refine ⟨fun made hmade => (hsou.commits made hmade).2, ?_⟩
    intro hhon digest bytes hobj
    rcases hsou.objects digest bytes hobj with ⟨made, hmade, rfl, rfl⟩ | hman
    · obtain ⟨hblob, hfai, hcon⟩ := hsou.commits made hmade
      rw [hcon]
      exact hhon.blob _ _ hblob hfai
    · exact hhon.manifest digest bytes hman

/-- One byte announced and sent, then the error that reports the wrong digest: the byte stays. -/
theorem mismatch_committed :
    let digest := "sha256:aaaaaaaaaaaaaaaaaaaaaaaaaaaaaaaaaaaaaaaaaaaaaaaaaaaaaaaaaaaaaaaa"
    let upstream : Upstream := ⟨some 1, [[7]], true⟩
    ∃ world, RegistryWorld.empty.run
        [.begin 0 digest upstream true, .chunk 0 true .renamed, .fail 0] = some world
      ∧ world.objects.lookup digest = some [7] ∧ upstream.failed = true := by
  exact ⟨_, rfl, by decide +kernel, rfl⟩

end Swarmlite
