import Swarmlite.CaddyStorage.Capture

/-!
# Cache misses — what the client sees and what is stored

**Where the two writers part.** The wrapper keeps its own `wroteHeader`, and sets it at any
`WriteHeader`, also at an informational one (`103 Early Hints`), after which `net/http` still
waits for the final status. The next `WriteHeader` is dropped, so the client gets `200`. The
writers agree exactly if at most one informational status comes before the response starts, and
what follows it is `200`, given or implied, with the header map left alone until it is sent
(`transparent`).

**Where the copy falls short.** `Write` records the bytes that the connection took and leaves
`cacheable` as it is when the connection took fewer than it was given. A handler that carries on
after a failed write and returns without an error gets the truncated body stored.

The proofs relate the response of a client served directly to that of a client behind the
wrapper. `SameResponse` says that they agree; every call keeps it but a `WriteHeader` that the wrapper
drops. Once both have sent their header nothing can be dropped any more (`Underway`).
-/

namespace Swarmlite

open Ordered

/-! ## What the client sees -/

/-- A header map without the field the cache may set. -/
def HttpHeader.plain (header : HttpHeader) : HttpHeader := header.del "Cache-Status"

theorem HttpHeader.plain_set (header : HttpHeader) (value : String) :
    (header.set "Cache-Status" value).plain = header.plain := by
  unfold HttpHeader.plain HttpHeader.del HttpHeader.set
  generalize canonicalHeaderKey "Cache-Status" = key
  refine Table.ext_get? fun k => ?_
  by_cases h : k = key
  · rw [h, Table.get?_erase_self, Table.get?_erase_self]
  · rw [Table.get?_erase_ne _ h, Table.get?_erase_ne _ h]
    unfold Map.put
    rw [Table.get?_insert, if_neg h]

/-- An edit of the handler does not look at the field the cache sets. -/
theorem HandlerCall.plain_edited (call : HandlerCall) {a b : HttpHeader} (h : a.plain = b.plain) :
    (call.edited a).plain = (call.edited b).plain := by
  unfold HttpHeader.plain HttpHeader.del at *
  generalize canonicalHeaderKey "Cache-Status" = key at *
  have hget : ∀ k, k ≠ key → Table.get? a k = Table.get? b k := by
    intro k hk
    rw [← Table.get?_erase_ne a hk, h, Table.get?_erase_ne b hk]
  refine Table.ext_get? fun k => ?_
  by_cases hk : k = key
  · rw [hk, Table.get?_erase_self, Table.get?_erase_self]
  rw [Table.get?_erase_ne _ hk, Table.get?_erase_ne _ hk]
  cases call with
  | setHeader name values =>
    simp only [HandlerCall.edited, Map.put]
    rw [Table.get?_insert, Table.get?_insert, hget k hk]
  | deleteHeader name =>
    simp only [HandlerCall.edited]
    by_cases hname : k = name
    · rw [hname, Table.get?_erase_self, Table.get?_erase_self]
    · rw [Table.get?_erase_ne _ hname, Table.get?_erase_ne _ hname, hget k hk]
  | writeHeader status | write bytes | readFrom pieces | flush => exact hget k hk

/-- A response as the client gets it, apart from the field the cache may set. -/
structure SeenResponse where
  informational : List (Int × HttpHeader)
  status : Int
  header : HttpHeader
  body : List UInt8
  aborted : Bool
deriving DecidableEq

def ClientResponse.plainInformational (client : ClientResponse) : List (Int × HttpHeader) :=
  client.informational.map fun sent => (sent.1, sent.2.plain)

def ClientResponse.seen (client : ClientResponse) : SeenResponse :=
  { informational := client.plainInformational
    status := client.status
    header := client.sentHeader.plain
    body := client.body
    aborted := client.panicked }

/-- Two clients that differ at most in the status line and the header sent with it. -/
structure Alike (a b : ClientResponse) : Prop where
  header : a.header.plain = b.header.plain
  informational : a.plainInformational = b.plainInformational
  body : a.body = b.body
  panicked : a.panicked = b.panicked
  outcomes : a.outcomes = b.outcomes

/-- Two clients that see the same. -/
structure SameResponse (a b : ClientResponse) : Prop extends Alike a b where
  wroteHeader : a.wroteHeader = b.wroteHeader
  status : a.status = b.status
  sentHeader : a.sentHeader.plain = b.sentHeader.plain

variable {a b client : ClientResponse} {writer : CacheCaptureWriter} {direct behind : HttpHeader}
  {informational : List (Int × HttpHeader)}

theorem SameResponse.seen (h : SameResponse a b) : a.seen = b.seen := by
  unfold ClientResponse.seen
  rw [h.informational, h.status, h.sentHeader, h.body, h.panicked]

theorem Alike.output (h : Alike a b) (hsta : a.status = b.status) (bytes : List UInt8) :
    Alike (a.output bytes).1 (b.output bytes).1 ∧ (a.output bytes).2 = (b.output bytes).2 := by
  unfold ClientResponse.output
  rw [hsta, h.outcomes]
  split
  · exact ⟨h, rfl⟩
  split
  · exact ⟨h, rfl⟩
  · refine ⟨⟨h.header, h.informational, ?_, h.panicked, rfl⟩, rfl⟩
    show a.body ++ _ = b.body ++ _
    rw [h.body]

/-- Output changes the body and nothing of the header. -/
theorem ClientResponse.output_frame (bytes : List UInt8) (client : ClientResponse) :
    (client.output bytes).1.wroteHeader = client.wroteHeader
      ∧ (client.output bytes).1.status = client.status
      ∧ (client.output bytes).1.sentHeader = client.sentHeader
      ∧ (client.output bytes).1.informational = client.informational
      ∧ (client.output bytes).1.panicked = client.panicked
      ∧ (client.output bytes).1.header = client.header := by
  unfold ClientResponse.output
  split
  · exact ⟨rfl, rfl, rfl, rfl, rfl, rfl⟩
  split
  · exact ⟨rfl, rfl, rfl, rfl, rfl, rfl⟩
  · exact ⟨rfl, rfl, rfl, rfl, rfl, rfl⟩

theorem SameResponse.writeHeader (h : SameResponse a b) (status : Int) :
    SameResponse (a.writeHeader status) (b.writeHeader status) := by
  unfold ClientResponse.writeHeader
  rw [h.wroteHeader]
  split
  · exact h
  split
  · exact ⟨⟨h.header, h.informational, h.body, rfl, h.outcomes⟩, rfl, h.status, h.sentHeader⟩
  split
  · refine ⟨⟨h.header, ?_, h.body, h.panicked, h.outcomes⟩, rfl, h.status, h.sentHeader⟩
    have hold := h.informational
    unfold ClientResponse.plainInformational at hold ⊢
    rw [List.map_append, List.map_append, hold]
    show _ ++ [(status, a.header.plain)] = _ ++ [(status, b.header.plain)]
    rw [h.header]
  · exact ⟨⟨h.header, h.informational, h.body, h.panicked, h.outcomes⟩, rfl, rfl, h.header⟩

theorem SameResponse.finish (h : SameResponse a b) : SameResponse a.finish b.finish := by
  unfold ClientResponse.finish
  rw [h.panicked]
  split
  · exact h
  · exact h.writeHeader 200

theorem SameResponse.withHeader (h : SameResponse a b) {f g : HttpHeader → HttpHeader}
    (hhea : (f a.header).plain = (g b.header).plain) :
    SameResponse { a with header := f a.header } { b with header := g b.header } :=
  ⟨⟨hhea, h.informational, h.body, h.panicked, h.outcomes⟩, h.wroteHeader, h.status, h.sentHeader⟩

/-! ## The wrapper, call by call -/

theorem CacheCaptureWriter.record_client (policy : CachePolicy) (taken : List UInt8)
    (writer : CacheCaptureWriter) :
    (writer.record policy taken).client = writer.client
      ∧ (writer.record policy taken).wroteHeader = writer.wroteHeader
      ∧ (writer.record policy taken).status = writer.status
      ∧ (writer.record policy taken).header = writer.header := by
  unfold CacheCaptureWriter.record
  split
  · split
    · exact ⟨rfl, rfl, rfl, rfl⟩
    · exact ⟨rfl, rfl, rfl, rfl⟩
  · exact ⟨rfl, rfl, rfl, rfl⟩

theorem CacheCaptureWriter.writeHeader_wroteHeader (policy : CachePolicy) (status : Int)
    (writer : CacheCaptureWriter) : (writer.writeHeader policy status).wroteHeader = true := by
  unfold CacheCaptureWriter.writeHeader
  split
  next h => exact h
  · rfl

/-- A `WriteHeader` that the wrapper passes on. -/
theorem SameResponse.passed (h : SameResponse a writer.client)
    (policy : CachePolicy) (hopen : writer.wroteHeader = false) (status : Int) :
    SameResponse (a.writeHeader status) (writer.writeHeader policy status).client := by
  unfold CacheCaptureWriter.writeHeader
  rw [if_neg (by rw [hopen]; exact Bool.false_ne_true)]
  refine SameResponse.writeHeader ?_ status
  exact h.withHeader (f := id) (g := fun header => header.set "Cache-Status" _)
    (by rw [HttpHeader.plain_set]; exact h.header)

theorem ClientResponse.writeHeader_twice (client : ClientResponse) :
    (client.writeHeader 200).writeHeader 200 = client.writeHeader 200 := by
  by_cases h : client.wroteHeader = true
  · simp [ClientResponse.writeHeader, h]
  · simp [ClientResponse.writeHeader, h, isInformational]

/-- Before its own write or flush the wrapper may send the header itself: the client does not
notice. -/
theorem SameResponse.opened (h : SameResponse a writer.client) (policy : CachePolicy) :
    SameResponse (a.writeHeader 200) ((writer.writeHeader policy 200).client.writeHeader 200) := by
  by_cases hopen : writer.wroteHeader = true
  · unfold CacheCaptureWriter.writeHeader
    rw [if_pos hopen]
    exact h.writeHeader 200
  · have hpas := (h.passed policy (by simpa using hopen) 200).writeHeader 200
    rwa [ClientResponse.writeHeader_twice] at hpas

/-! ## Once the response has started -/

/-- Both clients have their status line, the same, with the given header maps. -/
structure Underway (direct behind : HttpHeader) (a : ClientResponse)
    (writer : CacheCaptureWriter) : Prop extends Alike a writer.client where
  status : a.status = writer.client.status
  wroteDirect : a.wroteHeader = true
  wroteBehind : writer.client.wroteHeader = true
  wroteWriter : writer.wroteHeader = true
  sentDirect : a.sentHeader = direct
  sentBehind : writer.client.sentHeader = behind

theorem ClientResponse.writeHeader_of_wrote
    (h : client.wroteHeader = true) (status : Int) : client.writeHeader status = client :=
  if_pos h

theorem CacheCaptureWriter.writeHeader_of_wrote
    (h : writer.wroteHeader = true) (policy : CachePolicy) (status : Int) :
    writer.writeHeader policy status = writer :=
  if_pos h

theorem CacheCaptureWriter.flush_of_wrote (h : writer.wroteHeader = true) (policy : CachePolicy) :
    writer.flush policy = { writer with client := writer.client.writeHeader 200 } := by
  simp only [CacheCaptureWriter.flush, CacheCaptureWriter.writeHeader_of_wrote h]

/-- A write by the wrapper, once it has given a status. -/
theorem CacheCaptureWriter.write_client
    (h : writer.wroteHeader = true) (policy : CachePolicy) (bytes : List UInt8) :
    (writer.write policy bytes).1.client = (writer.client.write bytes).1
      ∧ (writer.write policy bytes).1.wroteHeader = true
      ∧ (writer.write policy bytes).2 = (writer.client.write bytes).2 := by
  unfold CacheCaptureWriter.write
  rw [CacheCaptureWriter.writeHeader_of_wrote h]
  obtain ⟨hcli, hwro, -⟩ := CacheCaptureWriter.record_client policy
    (bytes.take (writer.client.write bytes).2.written)
    { writer with client := (writer.client.write bytes).1 }
  exact ⟨hcli, hwro.trans h, rfl⟩

/-- Output after the status line is the same for both. -/
theorem Underway.output
    {after : CacheCaptureWriter} {bytes : List UInt8} (h : Underway direct behind a writer)
    (hcli : after.client = (writer.client.output bytes).1) (hwro : after.wroteHeader = true) :
    Underway direct behind (a.output bytes).1 after := by
  obtain ⟨hali, -⟩ := h.toAlike.output h.status bytes
  obtain ⟨hwa, hsa, hha, -⟩ := a.output_frame bytes
  obtain ⟨hwb, hsb, hhb, -⟩ := writer.client.output_frame bytes
  rw [← hcli] at hali hwb hsb hhb
  exact ⟨hali, by rw [hsa, hsb, h.status], hwa.trans h.wroteDirect, hwb.trans h.wroteBehind,
    hwro, hha.trans h.sentDirect, hhb.trans h.sentBehind⟩

theorem Underway.related (policy : CachePolicy) (direct behind : HttpHeader) :
    ResponseWriter.Related clientWriter (captureWriter policy) (Underway direct behind) where
  editHeader call _ _ h :=
    ⟨⟨call.plain_edited h.header, h.informational, h.body, h.panicked, h.outcomes⟩, h.status,
      h.wroteDirect, h.wroteBehind, h.wroteWriter, h.sentDirect, h.sentBehind⟩
  writeHeader status a writer h := by
    show Underway direct behind (a.writeHeader status) (writer.writeHeader policy status)
    rw [ClientResponse.writeHeader_of_wrote h.wroteDirect,
      CacheCaptureWriter.writeHeader_of_wrote h.wroteWriter]
    exact h
  write bytes a writer h := by
    obtain ⟨hcli, hwro, -⟩ := CacheCaptureWriter.write_client h.wroteWriter policy bytes
    unfold ClientResponse.write at hcli
    rw [ClientResponse.writeHeader_of_wrote h.wroteBehind] at hcli
    show Underway direct behind ((a.writeHeader 200).output bytes).1 (writer.write policy bytes).1
    rw [ClientResponse.writeHeader_of_wrote h.wroteDirect]
    exact h.output hcli hwro
  answer bytes a writer h := by
    obtain ⟨-, -, hans⟩ := CacheCaptureWriter.write_client h.wroteWriter policy bytes
    show ((a.writeHeader 200).output bytes).2 = (writer.write policy bytes).2
    unfold ClientResponse.write at hans
    rw [hans, ClientResponse.writeHeader_of_wrote h.wroteDirect,
      ClientResponse.writeHeader_of_wrote h.wroteBehind]
    exact (h.toAlike.output h.status bytes).2
  flush {a writer} h := by
    show Underway direct behind (a.writeHeader 200) (writer.flush policy)
    rw [CacheCaptureWriter.flush_of_wrote h.wroteWriter,
      ClientResponse.writeHeader_of_wrote h.wroteDirect,
      ClientResponse.writeHeader_of_wrote h.wroteBehind]
    exact h
  panicked h := h.panicked

/-- Whether the two clients see the same once the handler has made its calls. -/
def SeenAlike (policy : CachePolicy) (calls : List HandlerCall) (a : ClientResponse)
    (writer : CacheCaptureWriter) : Prop :=
  ((captureWriter policy).run calls writer).client.finish.seen
    = (clientWriter.run calls a).finish.seen

theorem ClientResponse.finish_of_wrote (h : client.wroteHeader = true) :
    client.finish = client := by
  unfold ClientResponse.finish
  rw [ClientResponse.writeHeader_of_wrote h, ite_self]

/-- From the start of the response on, only the header maps sent can make a difference. -/
theorem Underway.seenAlike (h : Underway direct behind a writer) (policy : CachePolicy)
    (calls : List HandlerCall) :
    SeenAlike policy calls a writer ↔ direct.plain = behind.plain := by
  have hend := (Underway.related policy direct behind).run calls h
  unfold SeenAlike
  rw [ClientResponse.finish_of_wrote hend.wroteBehind,
    ClientResponse.finish_of_wrote hend.wroteDirect]
  unfold ClientResponse.seen
  rw [hend.informational, hend.status, hend.body, hend.panicked, hend.sentDirect, hend.sentBehind]
  constructor
  · intro heq
    exact (congrArg SeenResponse.header heq).symm
  · intro heq
    rw [heq]

/-! ## After an informational status -/

/-- The direct client has its `200`, the one behind the wrapper waits for the first output. -/
structure Pending (a : ClientResponse) (writer : CacheCaptureWriter) : Prop
    extends Alike a writer.client where
  running : a.panicked = false
  status : a.status = 200
  wroteDirect : a.wroteHeader = true
  waiting : writer.client.wroteHeader = false
  wroteWriter : writer.wroteHeader = true

/-- A `WriteHeader(200)` that takes effect. -/
theorem ClientResponse.writeHeader_ok (h : client.wroteHeader = false) : client.writeHeader 200
      = { client with wroteHeader := true, status := 200, sentHeader := client.header } := by
  simp [ClientResponse.writeHeader, h, isInformational]

/-- With the implied `200` the client behind the wrapper gets the header map of that moment. -/
theorem Pending.opened (h : Pending a writer) : Underway a.sentHeader writer.client.header a
      { writer with client := writer.client.writeHeader 200 } := by
  rw [ClientResponse.writeHeader_ok h.waiting]
  exact ⟨⟨h.header, h.informational, h.body, h.panicked, h.outcomes⟩, h.status, h.wroteDirect, rfl,
    h.wroteWriter, rfl, rfl⟩

theorem Pending.outputs (h : Pending a writer)
    (policy : CachePolicy) {call : HandlerCall} (hcall : call.outputs = true) :
    Underway a.sentHeader writer.client.header (clientWriter.perform call a)
      ((captureWriter policy).perform call writer) := by
  refine (Underway.related policy _ _).outputs ?_ ?_ hcall
  · intro bytes
    obtain ⟨hcli, hwro, hans⟩ := CacheCaptureWriter.write_client h.wroteWriter policy bytes
    show Underway _ _ ((a.writeHeader 200).output bytes).1 (writer.write policy bytes).1
      ∧ ((a.writeHeader 200).output bytes).2 = (writer.write policy bytes).2
    rw [ClientResponse.writeHeader_of_wrote h.wroteDirect, hans]
    exact ⟨h.opened.output hcli hwro, (h.opened.toAlike.output h.opened.status bytes).2⟩
  · show Underway _ _ (a.writeHeader 200) (writer.flush policy)
    rw [CacheCaptureWriter.flush_of_wrote h.wroteWriter,
      ClientResponse.writeHeader_of_wrote h.wroteDirect]
    exact h.opened

/-- Whether the header map is as it was sent when the response starts or the handler returns. -/
def headerKept (sent : HttpHeader) : HttpHeader → List HandlerCall → Bool
  | header, [] => sent.plain = header.plain
  | header, call :: rest =>
    if call.outputs then sent.plain = header.plain else headerKept sent (call.edited header) rest

theorem Pending.edited (h : Pending a writer) (policy : CachePolicy) (call : HandlerCall) :
    Pending (clientWriter.editHeader call.edited a)
      ((captureWriter policy).editHeader call.edited writer) :=
  ⟨⟨call.plain_edited h.header, h.informational, h.body, h.panicked, h.outcomes⟩, h.running,
    h.status, h.wroteDirect, h.waiting, h.wroteWriter⟩

/-- One call of the handler, on both sides. -/
theorem seenAlike_cons (hpan : a.panicked = writer.client.panicked) (hrun : a.panicked = false)
    (policy : CachePolicy) (call : HandlerCall) (rest : List HandlerCall) :
    SeenAlike policy (call :: rest) a writer ↔
      if call.outputs = true then SeenAlike policy rest (clientWriter.perform call a)
        ((captureWriter policy).perform call writer)
      else match call.status? with
        | some status =>
          SeenAlike policy rest (a.writeHeader status) (writer.writeHeader policy status)
        | none => SeenAlike policy rest (clientWriter.editHeader call.edited a)
          ((captureWriter policy).editHeader call.edited writer) := by
  unfold SeenAlike
  rw [clientWriter.run_cons hrun, (captureWriter policy).run_cons (hpan.symm.trans hrun)]
  split
  · rfl
  next hout =>
    rw [Bool.not_eq_true] at hout
    split
    next hsta => rw [clientWriter.perform_status hsta, (captureWriter policy).perform_status hsta]; rfl
    next hsta =>
      rw [clientWriter.perform_quiet (fun _ => rfl) hout hsta,
        (captureWriter policy).perform_quiet (fun _ => rfl) hout hsta]

theorem Pending.seenAlike (h : Pending a writer) (policy : CachePolicy) (calls : List HandlerCall) :
    SeenAlike policy calls a writer ↔ headerKept a.sentHeader a.header calls = true := by
  induction calls generalizing a writer with
  | nil =>
    have hnil := h.opened.seenAlike policy []
    unfold SeenAlike at hnil ⊢
    simp only [ResponseWriter.run, headerKept, decide_eq_true_eq] at hnil ⊢
    rw [h.header, ← hnil]
    rw [ClientResponse.finish_of_wrote h.opened.wroteBehind]
    unfold ClientResponse.finish
    rw [← h.panicked, h.running, if_neg Bool.false_ne_true]
  | cons call rest ih =>
    rw [seenAlike_cons h.panicked h.running]
    unfold headerKept
    split
    next hout =>
      rw [decide_eq_true_eq, h.header]
      exact (h.outputs policy hout).seenAlike policy rest
    cases hsta : call.status? with
    | some status =>
      -- a further status is ignored by both
      have hsame : call.edited a.header = a.header := by
        cases call <;> first | rfl | cases hsta
      dsimp only
      rw [hsame, ClientResponse.writeHeader_of_wrote h.wroteDirect,
        CacheCaptureWriter.writeHeader_of_wrote h.wroteWriter]
      exact ih h
    | none => exact ih (h.edited policy call)

/-- What the wrapper can still do once it has passed an informational status on. -/
structure Spent (informational : List (Int × HttpHeader)) (writer : CacheCaptureWriter) : Prop where
  wroteWriter : writer.wroteHeader = true
  informational : writer.client.plainInformational = informational
  running : writer.client.panicked = false
  status : writer.client.wroteHeader = true → writer.client.status = 200

theorem Spent.opened (h : Spent informational writer) :
    Spent informational { writer with client := writer.client.writeHeader 200 } := by
  by_cases hwro : writer.client.wroteHeader = true
  · rw [ClientResponse.writeHeader_of_wrote hwro]
    exact h
  · rw [ClientResponse.writeHeader_ok (by simpa using hwro)]
    exact ⟨h.wroteWriter, h.informational, h.running, fun _ => rfl⟩

theorem Spent.preserved (policy : CachePolicy) (informational : List (Int × HttpHeader)) :
    ResponseWriter.Preserves (captureWriter policy) (Spent informational) where
  editHeader _ _ h := ⟨h.wroteWriter, h.informational, h.running, h.status⟩
  writeHeader status writer h := by
    show Spent informational (writer.writeHeader policy status)
    rw [CacheCaptureWriter.writeHeader_of_wrote h.wroteWriter]
    exact h
  write bytes writer h := by
    obtain ⟨hcli, hwro, -⟩ := CacheCaptureWriter.write_client h.wroteWriter policy bytes
    obtain ⟨hw, hs, -, hi, hp, -⟩ := (writer.client.writeHeader 200).output_frame bytes
    change (writer.write policy bytes).1.client = ((writer.client.writeHeader 200).output bytes).1
      at hcli
    rw [← hcli] at hw hs hi hp
    refine ⟨hwro, ?_, hp.trans h.opened.running, ?_⟩
    · refine Eq.trans ?_ h.opened.informational
      show List.map _ (writer.write policy bytes).1.client.informational = List.map _ _
      rw [hi]
    · intro hsent
      exact hs.trans (h.opened.status (hw.symm.trans hsent))
  flush {writer} h := by
    show Spent informational (writer.flush policy)
    rw [CacheCaptureWriter.flush_of_wrote h.wroteWriter]
    exact h.opened

theorem Spent.seen
    (h : Spent informational writer) (policy : CachePolicy) (calls : List HandlerCall) :
    let seen := ((captureWriter policy).run calls writer).client.finish.seen
    seen.informational = informational ∧ seen.status = 200 ∧ seen.aborted = false := by
  have hend := (Spent.preserved policy informational).run calls h
  generalize (captureWriter policy).run calls writer = last at hend
  show last.client.finish.plainInformational = informational ∧ last.client.finish.status = 200
    ∧ last.client.finish.panicked = false
  have hfin : last.client.finish = last.client.writeHeader 200 := by
    unfold ClientResponse.finish
    rw [hend.running, if_neg Bool.false_ne_true]
  rw [hfin]
  refine ⟨hend.opened.informational, hend.opened.status ?_, hend.opened.running⟩
  show (last.client.writeHeader 200).wroteHeader = true
  by_cases hwro : last.client.wroteHeader = true
  · rw [ClientResponse.writeHeader_of_wrote hwro]
    exact hwro
  · rw [ClientResponse.writeHeader_ok (by simpa using hwro)]

/-- Both clients wait for a final status, which the wrapper will not pass on. -/
structure Informed (a : ClientResponse) (writer : CacheCaptureWriter) : Prop
    extends SameResponse a writer.client where
  running : a.panicked = false
  waiting : a.wroteHeader = false
  wroteWriter : writer.wroteHeader = true

theorem Informed.spent (h : Informed a writer) : Spent a.plainInformational writer := by
  refine ⟨h.wroteWriter, h.informational.symm, h.panicked.symm.trans h.running, ?_⟩
  intro hwro
  rw [← h.wroteHeader, h.waiting] at hwro
  cases hwro

/-- Whether, after an informational status, the client gets what the handler says. -/
def transparentAfter : HttpHeader → List HandlerCall → Bool
  | _, [] => true
  | header, call :: rest =>
    if call.outputs then true
    else match call.status? with
      | some status => status = 200 && headerKept header header rest
      | none => transparentAfter (call.edited header) rest

/-- **Which handlers the wrapper is transparent for.** -/
def transparent : HttpHeader → List HandlerCall → Bool
  | _, [] => true
  | header, call :: rest =>
    if call.outputs then true
    else match call.status? with
      | some status => !isInformational status || transparentAfter header rest
      | none => transparent (call.edited header) rest

/-- Output starts the response of both clients, if the wrapper dropped nothing before it. -/
theorem SameResponse.outputs
    (h : SameResponse a writer.client) (hwai : a.wroteHeader = false) (policy : CachePolicy)
    {call : HandlerCall} (hcall : call.outputs = true) (rest : List HandlerCall) :
    SeenAlike policy rest (clientWriter.perform call a)
      ((captureWriter policy).perform call writer) := by
  -- the state in which the wrapper has opened the response and nothing else happened
  have hope := h.opened policy
  have hwro : (a.writeHeader 200).wroteHeader = true := by
    rw [ClientResponse.writeHeader_ok hwai]
  generalize hw : writer.writeHeader policy 200 = opened at hope
  have hwroW : opened.wroteHeader = true :=
    hw ▸ CacheCaptureWriter.writeHeader_wroteHeader policy 200 writer
  have hund : Underway (a.writeHeader 200).sentHeader
      (opened.client.writeHeader 200).sentHeader (a.writeHeader 200)
      { opened with client := opened.client.writeHeader 200 } :=
    ⟨hope.toAlike, hope.status, hwro, hope.wroteHeader.symm.trans hwro, hwroW, rfl, rfl⟩
  refine (Underway.seenAlike ?_ policy rest).mpr hope.sentHeader
  refine (Underway.related policy _ _).outputs ?_ ?_ hcall
  · intro bytes
    obtain ⟨hcli, hwro', -⟩ := CacheCaptureWriter.record_client policy
      (bytes.take (opened.client.write bytes).2.written)
      { opened with client := (opened.client.write bytes).1 }
    have hwri : writer.write policy bytes = (CacheCaptureWriter.record policy
        (bytes.take (opened.client.write bytes).2.written)
        { opened with client := (opened.client.write bytes).1 },
        (opened.client.write bytes).2) := by
      unfold CacheCaptureWriter.write
      rw [hw]
    show Underway _ _ ((a.writeHeader 200).output bytes).1 (writer.write policy bytes).1
      ∧ ((a.writeHeader 200).output bytes).2 = (writer.write policy bytes).2
    rw [hwri]
    exact ⟨hund.output hcli (hwro'.trans hwroW), (hope.toAlike.output hope.status bytes).2⟩
  · show Underway _ _ (a.writeHeader 200) (writer.flush policy)
    have hflu : writer.flush policy = { opened with client := opened.client.writeHeader 200 } := by
      unfold CacheCaptureWriter.flush
      rw [hw]
    rw [hflu]
    exact hund

/-! ## A status that the wrapper drops is missed -/

theorem ClientResponse.length_informational_le (status : Int) (client : ClientResponse) :
    client.plainInformational.length ≤ (client.writeHeader status).plainInformational.length := by
  unfold ClientResponse.writeHeader ClientResponse.plainInformational
  split
  · exact le_refl _
  split
  · exact le_refl _
  split
  · simp
  · exact le_refl _

/-- Informational responses are not taken back. -/
theorem ClientResponse.informed_preserved (n : Nat) :
    ResponseWriter.Preserves clientWriter fun client => n < client.plainInformational.length where
  editHeader _ _ h := h
  writeHeader status client h := lt_of_lt_of_le h (client.length_informational_le status)
  write bytes client h := by
    obtain ⟨-, -, -, hi, -⟩ := (client.writeHeader 200).output_frame bytes
    show n < (List.map _ ((client.writeHeader 200).output bytes).1.informational).length
    rw [hi]
    exact lt_of_lt_of_le h (client.length_informational_le 200)
  flush {client} h := lt_of_lt_of_le h (client.length_informational_le 200)

/-- The status line is sent once. -/
theorem ClientResponse.status_preserved (status : Int) :
    ResponseWriter.Preserves clientWriter fun client =>
      client.wroteHeader = true ∧ client.status = status where
  editHeader _ _ h := h
  writeHeader other client h := by
    show (client.writeHeader other).wroteHeader = true ∧ (client.writeHeader other).status = status
    rw [ClientResponse.writeHeader_of_wrote h.1]
    exact h
  write bytes client h := by
    obtain ⟨hw, hs, -⟩ := (client.writeHeader 200).output_frame bytes
    rw [ClientResponse.writeHeader_of_wrote h.1] at hw hs
    show ((client.writeHeader 200).output bytes).1.wroteHeader = true
      ∧ ((client.writeHeader 200).output bytes).1.status = status
    rw [ClientResponse.writeHeader_of_wrote h.1]
    exact ⟨hw.trans h.1, hs.trans h.2⟩
  flush {client} h := by
    show (client.writeHeader 200).wroteHeader = true ∧ (client.writeHeader 200).status = status
    rw [ClientResponse.writeHeader_of_wrote h.1]
    exact h

/-- What a status does to a client that is waiting for one. -/
theorem ClientResponse.writeHeader_of_waiting (client : ClientResponse)
    (h : client.wroteHeader = false) (status : Int) :
    client.writeHeader status =
      if status < 100 || 999 < status then { client with panicked := true }
      else if isInformational status then
        { client with informational := client.informational ++ [(status, client.header)] }
      else { client with wroteHeader := true, status := status, sentHeader := client.header } := by
  unfold ClientResponse.writeHeader
  rw [h, if_neg Bool.false_ne_true]

/-- Whatever the handler does after a status other than `200`, a client that is waiting for one
ends with something else than a plain `200` and no further informational response. -/
theorem ClientResponse.seen_of_status
    (hwai : client.wroteHeader = false) {status : Int} (hsta : status ≠ 200)
    (calls : List HandlerCall) :
    let seen := (clientWriter.run calls (client.writeHeader status)).finish.seen
    seen.aborted = true ∨ seen.status ≠ 200
      ∨ client.plainInformational.length < seen.informational.length := by
  intro seen
  have hwri := client.writeHeader_of_waiting hwai status
  split at hwri
  · -- no such status: the handler panics
    left
    show (clientWriter.run calls (client.writeHeader status)).finish.panicked = true
    have hpan : (client.writeHeader status).panicked = true := by rw [hwri]
    rw [clientWriter.run_panicked hpan]
    unfold ClientResponse.finish
    rw [if_pos hpan]
    exact hpan
  split at hwri
  · right; right
    have hlon : client.plainInformational.length
        < (client.writeHeader status).plainInformational.length := by
      rw [hwri]
      simp [ClientResponse.plainInformational]
    have hend := (ClientResponse.informed_preserved _).run calls hlon
    show _ < (clientWriter.run calls (client.writeHeader status)).finish.plainInformational.length
    unfold ClientResponse.finish
    split
    · exact hend
    · exact lt_of_lt_of_le hend (ClientResponse.length_informational_le 200 _)
  · right; left
    have hsent : (client.writeHeader status).wroteHeader = true
        ∧ (client.writeHeader status).status = status := by
      rw [hwri]
      exact ⟨rfl, rfl⟩
    have hend := (ClientResponse.status_preserved status).run calls hsent
    show (clientWriter.run calls (client.writeHeader status)).finish.status ≠ 200
    rw [ClientResponse.finish_of_wrote hend.1, hend.2]
    exact hsta

theorem SameResponse.edited
    (h : SameResponse a writer.client) (policy : CachePolicy) (call : HandlerCall) :
    SameResponse (clientWriter.editHeader call.edited a)
      ((captureWriter policy).editHeader call.edited writer).client :=
  h.withHeader (call.plain_edited h.header)

theorem Informed.pending (h : Informed a writer) : Pending (a.writeHeader 200) writer := by
  rw [ClientResponse.writeHeader_ok h.waiting]
  exact ⟨⟨h.header, h.informational, h.body, h.panicked, h.outcomes⟩, h.running, rfl, rfl,
    h.wroteHeader.symm.trans h.waiting, h.wroteWriter⟩

theorem Informed.seenAlike
    (h : Informed a writer) (policy : CachePolicy) (calls : List HandlerCall) :
    SeenAlike policy calls a writer ↔ transparentAfter a.header calls = true := by
  induction calls generalizing a writer with
  | nil => exact iff_of_true h.toSameResponse.finish.seen.symm rfl
  | cons call rest ih =>
    rw [seenAlike_cons h.panicked h.running]
    unfold transparentAfter
    split
    next hout => exact iff_of_true (h.toSameResponse.outputs h.waiting policy hout rest) rfl
    cases hsta : call.status? with
    | none => exact ih ⟨h.toSameResponse.edited policy call, h.running, h.waiting, h.wroteWriter⟩
    | some status =>
      show SeenAlike policy rest (a.writeHeader status) (writer.writeHeader policy status)
        ↔ (decide (status = 200) && headerKept a.header a.header rest) = true
      rw [CacheCaptureWriter.writeHeader_of_wrote h.wroteWriter]
      by_cases hok : status = 200
      · subst hok
        rw [h.pending.seenAlike policy rest, ClientResponse.writeHeader_ok h.waiting]
        simp
      · -- the wrapper ends with a plain `200`, the direct client does not
        refine iff_of_false ?_ (by simp [hok])
        intro hali
        obtain ⟨hinf, hpla, habo⟩ := h.spent.seen policy rest
        unfold SeenAlike at hali
        rw [hali] at hinf hpla habo
        rcases ClientResponse.seen_of_status h.waiting hok rest with hpan | hoth | hmore
        · rw [hpan] at habo
          cases habo
        · exact hoth hpla
        · rw [hinf] at hmore
          exact lt_irrefl _ hmore

/-! ## Transparency -/

/-- Neither client has a status yet, and the wrapper has passed everything on. -/
structure Unopened (a : ClientResponse) (writer : CacheCaptureWriter) : Prop
    extends SameResponse a writer.client where
  running : a.panicked = false
  waiting : a.wroteHeader = false
  unopened : writer.wroteHeader = false

/-- A first status reaches both clients; only an informational one leaves the response open. -/
theorem Unopened.firstStatus (h : Unopened a writer)
    (policy : CachePolicy) (status : Int) (rest : List HandlerCall) :
    SeenAlike policy rest (a.writeHeader status) (writer.writeHeader policy status)
      ↔ (!isInformational status || transparentAfter a.header rest) = true := by
  have hsame := h.toSameResponse.passed policy h.unopened status
  have hwro := CacheCaptureWriter.writeHeader_wroteHeader policy status writer
  generalize writer.writeHeader policy status = after at hsame hwro
  have hwri := a.writeHeader_of_waiting h.waiting status
  split at hwri
  next hran =>
    have hpan : clientWriter.panicked (a.writeHeader status) = true := by rw [hwri]; rfl
    have hpan' : (captureWriter policy).panicked after = true := hsame.panicked.symm.trans hpan
    have hfin : isInformational status = false := by
      simp only [Bool.or_eq_true, decide_eq_true_eq] at hran
      simp only [isInformational, Bool.and_eq_false_iff, decide_eq_false_iff_not]
      omega
    unfold SeenAlike
    rw [clientWriter.run_panicked hpan, (captureWriter policy).run_panicked hpan', hfin]
    exact iff_of_true hsame.finish.seen.symm rfl
  split at hwri
  next hinfo =>
    have hinf : Informed (a.writeHeader status) after := by
      refine ⟨hsame, ?_, ?_, hwro⟩
      · rw [hwri]
        exact h.running
      · rw [hwri]
        exact h.waiting
    rw [hinf.seenAlike policy rest, hinfo, hwri]
    rfl
  next hinfo =>
    rw [Bool.not_eq_true] at hinfo
    have hsent : (a.writeHeader status).wroteHeader = true := by rw [hwri]
    have hund : Underway (a.writeHeader status).sentHeader after.client.sentHeader
        (a.writeHeader status) after :=
      ⟨hsame.toAlike, hsame.status, hsent, hsame.wroteHeader.symm.trans hsent, hwro, rfl, rfl⟩
    rw [hinfo]
    exact iff_of_true ((hund.seenAlike policy rest).mpr hsame.sentHeader) rfl

theorem Unopened.seenAlike
    (h : Unopened a writer) (policy : CachePolicy) (calls : List HandlerCall) :
    SeenAlike policy calls a writer ↔ transparent a.header calls = true := by
  induction calls generalizing a writer with
  | nil => exact iff_of_true h.toSameResponse.finish.seen.symm rfl
  | cons call rest ih =>
    rw [seenAlike_cons h.panicked h.running]
    unfold transparent
    split
    next hout => exact iff_of_true (h.toSameResponse.outputs h.waiting policy hout rest) rfl
    cases hsta : call.status? with
    | none => exact ih ⟨h.toSameResponse.edited policy call, h.running, h.waiting, h.unopened⟩
    | some status => exact h.firstStatus policy status rest

theorem unopened_fresh (header : HttpHeader) (outcomes : List WriteOutcome) :
    Unopened (.fresh header outcomes) (newCacheCaptureWriter (.fresh header outcomes)) :=
  ⟨⟨⟨rfl, rfl, rfl, rfl, rfl⟩, rfl, rfl, rfl⟩, rfl, rfl, rfl⟩

/-- **Transparency of a miss.** For every handler, every header map it starts from and every
behaviour of the connection, the client behind the capture writer sees what it would have seen
without it, the `Cache-Status` field apart, exactly if the handler is one of `transparent`. -/
theorem miss_transparent_iff (policy : CachePolicy) (header : HttpHeader)
    (outcomes : List WriteOutcome) (calls : List HandlerCall) :
    (serveCaptured policy header outcomes calls).seen = (serveDirectly header outcomes calls).seen
      ↔ transparent header calls = true :=
  (unopened_fresh header outcomes).seenAlike policy calls

/-- The settings of a handler without any: `200` is stored, up to 10 MiB. -/
def defaultCachePolicy : CachePolicy where
  statusCodes := [200]
  maxBody := 10485760
  keyHeaders := []
  supported := by
    intro status hstatus
    rw [List.mem_singleton] at hstatus
    subst hstatus
    decide

/-- Early hints, then `404`: the client gets `200`. -/
theorem early_hints_hide_status :
    let calls := [HandlerCall.writeHeader 103, .writeHeader 404]
    (serveCaptured defaultCachePolicy Table.empty [] calls).status = 200
      ∧ (serveDirectly Table.empty [] calls).status = 404 := by
  decide +kernel

end Swarmlite
