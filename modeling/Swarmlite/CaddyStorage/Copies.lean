import Swarmlite.CaddyStorage.Misses

/-!
# The stored copy of a response — the end of `ServeHTTP`

When the handler has returned without an error, `ServeHTTP` stores what the capture writer kept.
**The copy is what the connection took** (`stored_iff`): the status and the header map with which
the response was opened, and the bytes that reached the client. `Write` does not give the copy up
when the connection takes fewer bytes than it was given, so the copy is the whole response exactly
if the client got all of it, or the response is not stored for another reason.

The opening of a response decides everything else. `Recorded` says what the writer holds from
there on: the copy equals what the client has, until that exceeds the limit.

Mirroring notes:
- A handler that panics does not return, and nothing is stored.
- The keys and times of the entry are added by the store; `Put` may refuse an entry, here it is
  what `Put` gets.
-/

namespace Swarmlite

open Ordered

/-! ## The tail of `ServeHTTP` -/

/-- What a `cacheEntry` keeps of the response. -/
structure StoredResponse where
  varyHeaders : List String
  status : Int
  header : HttpHeader
  body : List UInt8
deriving DecidableEq

def storedResponse (policy : CachePolicy) (store : Bool) (writer : CacheCaptureWriter) :
    Option StoredResponse :=
  if !store || !writer.cacheable || writer.status = 0 then none
  else
    (responseVaryHeaders writer.header policy.keyHeaders).map fun varyHeaders =>
      { varyHeaders
        status := writer.status
        header := sanitizedCacheHeader writer.header
        body := writer.body }

/-- What is stored after a handler made its calls. -/
def responseStored (policy : CachePolicy) (store : Bool) (header : HttpHeader)
    (outcomes : List WriteOutcome) (calls : List HandlerCall) : Option StoredResponse :=
  let writer := capture policy header outcomes calls
  if writer.client.panicked then none else storedResponse policy store writer

/-! ## What the handler meant -/

/-- All bytes the handler passed to `Write` and `ReadFrom`. -/
def passedBytes (calls : List HandlerCall) : List UInt8 := calls.flatMap HandlerCall.bytes

/-- The final status the handler chose. -/
def chosenStatus : List HandlerCall → Int
  | [] => 200
  | call :: rest =>
    if call.outputs then 200
    else match call.status? with
      | some status => if isInformational status then chosenStatus rest else status
      | none => chosenStatus rest

/-- The first status of the response and the header map at that moment. -/
def opening : HttpHeader → List HandlerCall → Option (Int × HttpHeader)
  | _, [] => none
  | header, call :: rest =>
    if call.outputs then some (200, header)
    else match call.status? with
      | some status => some (status, header)
      | none => opening (call.edited header) rest

/-- Whether a response opened like this may be stored. -/
def mayBeKept (policy : CachePolicy) (status : Int) (header : HttpHeader) : Bool :=
  responseMayBeStored policy.statusCodes status header && !announcesTooMuch policy header

/-- Whether the response is one to be stored: by the request, by its opening, and by what the
client takes of it. -/
def storable (policy : CachePolicy) (store : Bool) (header : HttpHeader)
    (outcomes : List WriteOutcome) (calls : List HandlerCall) : Bool :=
  match opening header calls with
  | none => false
  | some (status, opened) =>
    store && mayBeKept policy status opened
      && (responseVaryHeaders opened policy.keyHeaders).isSome
      && (serveDirectly header outcomes calls).body.length ≤ policy.maxBody

theorem chosenStatus_of_opening {status : Int} {opened : HttpHeader}
    (hfin : isInformational status = false) {calls : List HandlerCall} :
    ∀ {header : HttpHeader}, opening header calls = some (status, opened) →
      chosenStatus calls = status ∧ transparent header calls = true := by
  induction calls with
  | nil =>
    intro header h
    cases h
  | cons call rest ih =>
    intro header h
    unfold opening at h
    unfold chosenStatus transparent
    by_cases hout : call.outputs = true
    · rw [if_pos hout] at h
      rw [if_pos hout, if_pos hout]
      cases h
      exact ⟨rfl, rfl⟩
    rw [if_neg hout] at h
    rw [if_neg hout, if_neg hout]
    cases hsta : call.status? with
    | some given =>
      rw [hsta] at h
      cases h
      simp [hfin]
    | none =>
      rw [hsta] at h
      exact ih h

/-! ## The field the cache sets does not matter -/

variable (policy : CachePolicy) (status : Int) (client : ClientResponse) (header : HttpHeader)
  (value : String) {writer : CacheCaptureWriter}

theorem HttpHeader.values_set {name field : String}
    (h : canonicalHeaderKey field ≠ canonicalHeaderKey name) :
    (header.set name value).values field = header.values field := by
  unfold HttpHeader.values HttpHeader.set
  rw [Map.lookup_put, if_neg h]

/-- The fields that decide about storing are others than `Cache-Status`. -/
theorem deciding_fields : ∀ field ∈ ["Set-Cookie", "Content-Range", "Content-Length", "Vary"],
      canonicalHeaderKey field ≠ canonicalHeaderKey "Cache-Status" := by
  decide +kernel

theorem mayBeKept_set :
    mayBeKept policy status (header.set "Cache-Status" value) = mayBeKept policy status header := by
  have hcoo := HttpHeader.values_set header value (deciding_fields "Set-Cookie" (by simp))
  have hran := HttpHeader.values_set header value (deciding_fields "Content-Range" (by simp))
  have hlen := HttpHeader.values_set header value (deciding_fields "Content-Length" (by simp))
  unfold mayBeKept responseMayBeStored announcesTooMuch HttpHeader.first
  rw [hcoo, hran, hlen]

theorem responseVaryHeaders_set (configured : List String) :
    responseVaryHeaders (header.set "Cache-Status" value) configured
      = responseVaryHeaders header configured := by
  unfold responseVaryHeaders
  rw [HttpHeader.values_set header value (deciding_fields "Vary" (by simp))]

/-! ## What the writer holds -/

theorem ClientResponse.writeHeader_body : (client.writeHeader status).body = client.body := by
  unfold ClientResponse.writeHeader
  split
  · rfl
  split
  · rfl
  split
  · rfl
  · rfl

/-- The client gets the bytes that a write reports as written. -/
theorem ClientResponse.write_body (bytes : List UInt8) (client : ClientResponse) :
    (client.write bytes).1.body = client.body ++ bytes.take (client.write bytes).2.written := by
  have hbody := client.writeHeader_body 200
  unfold ClientResponse.write ClientResponse.output
  split
  · simp [hbody]
  split
  · simp [hbody]
  · simp [hbody]

/-- `200` is a status. -/
theorem ClientResponse.writeHeader_ok_panicked :
    (client.writeHeader 200).panicked = client.panicked := by
  by_cases hwro : client.wroteHeader = true
  · rw [ClientResponse.writeHeader_of_wrote hwro]
  · rw [ClientResponse.writeHeader_ok (by simpa using hwro)]

theorem ClientResponse.write_panicked (bytes : List UInt8) (client : ClientResponse) :
    (client.write bytes).1.panicked = client.panicked := by
  obtain ⟨-, -, -, -, hpan, -⟩ := (client.writeHeader 200).output_frame bytes
  exact hpan.trans client.writeHeader_ok_panicked

/-- The writer from the opening of the response on. -/
structure Recorded (policy : CachePolicy) (first : Int) (opened : HttpHeader)
    (writer : CacheCaptureWriter) : Prop where
  wroteHeader : writer.wroteHeader = true
  status : writer.status = first
  header : ∃ value, writer.header = opened.set "Cache-Status" value
  cacheable : writer.cacheable = (mayBeKept policy first opened
    && decide (writer.client.body.length ≤ policy.maxBody))
  body : writer.cacheable = true → writer.body = writer.client.body
  running : mayBeKept policy first opened = true → writer.client.panicked = false

/-- A status that may be stored is a final one. -/
theorem CachePolicy.final_of_mayBeKept {policy : CachePolicy} {status : Int} {header : HttpHeader}
    (h : mayBeKept policy status header = true) :
    isInformational status = false ∧ 200 ≤ status ∧ status ≤ 599 := by
  have hmem : status ∈ policy.statusCodes := by
    simp only [mayBeKept, responseMayBeStored, Bool.and_eq_true, List.contains_iff_mem] at h
    exact h.1.1.1
  obtain ⟨hlow, hhigh, -⟩ := policy.supported status hmem
  refine ⟨?_, hlow, hhigh⟩
  simp only [isInformational, Bool.and_eq_false_iff, decide_eq_false_iff_not]
  omega

/-- The copy follows the client, until the client has more than may be stored. -/
theorem Recorded.record {policy : CachePolicy} {status : Int} {opened : HttpHeader}
    (h : Recorded policy status opened writer) {client : ClientResponse} {taken : List UInt8}
    (hbody : client.body = writer.client.body ++ taken)
    (hpan : client.panicked = writer.client.panicked) :
    Recorded policy status opened ({ writer with client := client }.record policy taken) := by
  obtain ⟨hcli, hwro, hsta, hhea⟩ :=
    CacheCaptureWriter.record_client policy taken { writer with client := client }
  have hlen : client.body.length = writer.client.body.length + taken.length := by
    rw [hbody, List.length_append]
  have hcopy : (({ writer with client := client } : CacheCaptureWriter).record policy taken).cacheable
        = (mayBeKept policy status opened && decide (client.body.length ≤ policy.maxBody))
      ∧ ((({ writer with client := client } : CacheCaptureWriter).record policy taken).cacheable
          = true →
        (({ writer with client := client } : CacheCaptureWriter).record policy taken).body
          = client.body) := by
    have hcac := h.cacheable
    unfold CacheCaptureWriter.record
    split
    next hboth =>
      simp only [Bool.and_eq_true, Bool.not_eq_true'] at hboth
      have hold := h.body hboth.1
      rw [hboth.1, eq_comm, Bool.and_eq_true] at hcac
      rw [hold]
      split
      next hfits =>
        refine ⟨?_, fun _ => hbody.symm⟩
        show writer.cacheable = _
        rw [hboth.1, hcac.1, Bool.true_and, eq_comm, decide_eq_true_eq]
        omega
      next hfits =>
        refine ⟨?_, fun hfal => by cases hfal⟩
        rw [hcac.1, Bool.true_and, eq_comm, decide_eq_false_iff_not]
        omega
    next hnot =>
      -- nothing taken, or the copy was given up before
      by_cases hkept : writer.cacheable = true
      · have hemp : taken = [] := by simpa [hkept] using hnot
        subst hemp
        rw [List.append_nil] at hbody
        refine ⟨?_, fun _ => ?_⟩
        · rw [hbody]
          exact hcac
        · rw [hbody]
          exact h.body hkept
      · refine ⟨?_, fun htrue => absurd htrue hkept⟩
        show writer.cacheable = _
        rw [Bool.not_eq_true] at hkept
        rw [hkept, eq_comm, Bool.and_eq_false_iff, decide_eq_false_iff_not] at hcac
        rw [hkept, eq_comm, Bool.and_eq_false_iff, decide_eq_false_iff_not]
        rcases hcac with href | hlong
        · exact .inl href
        · exact .inr (by omega)
  refine ⟨hwro.trans h.wroteHeader, hsta.trans h.status, ?_, ?_, ?_, ?_⟩
  · rw [hhea]
    exact h.header
  · rw [hcli]
    exact hcopy.1
  · rw [hcli]
    exact hcopy.2
  · intro hkeep
    rw [hcli]
    exact hpan.trans (h.running hkeep)

theorem Recorded.preserved (opened : HttpHeader) :
    ResponseWriter.Preserves (captureWriter policy) (Recorded policy status opened) where
  editHeader _ _ h := ⟨h.wroteHeader, h.status, h.header, h.cacheable, h.body, h.running⟩
  writeHeader given writer h := by
    show Recorded policy status opened (writer.writeHeader policy given)
    rw [CacheCaptureWriter.writeHeader_of_wrote h.wroteHeader]
    exact h
  write bytes writer h := by
    show Recorded policy status opened (writer.write policy bytes).1
    unfold CacheCaptureWriter.write
    rw [CacheCaptureWriter.writeHeader_of_wrote h.wroteHeader]
    exact h.record (writer.client.write_body bytes) (writer.client.write_panicked bytes)
  flush {writer} h := by
    show Recorded policy status opened (writer.flush policy)
    rw [CacheCaptureWriter.flush_of_wrote h.wroteHeader]
    have hbody := writer.client.writeHeader_body 200
    refine ⟨h.wroteHeader, h.status, h.header, ?_, ?_, ?_⟩
    · show writer.cacheable = _
      rw [hbody]
      exact h.cacheable
    · intro hkept
      exact (h.body hkept).trans hbody.symm
    · intro hkeep
      exact writer.client.writeHeader_ok_panicked.trans (h.running hkeep)

/-! ## The opening of the response -/

/-- The writer before it has given a status. -/
structure Untold (writer : CacheCaptureWriter) : Prop where
  wroteHeader : writer.wroteHeader = false
  status : writer.status = 0
  body : writer.body = []
  clientBody : writer.client.body = []
  running : writer.client.panicked = false

theorem Untold.recorded (h : Untold writer) (policy : CachePolicy)
    (status : Int) : Recorded policy status writer.client.header
    (writer.writeHeader policy status) := by
  have hwri : writer.writeHeader policy status = { writer with
        wroteHeader := true
        status := status
        header := writer.client.header.set "Cache-Status" "Swarmlite; fwd=uri-miss"
        cacheable := mayBeKept policy status
          (writer.client.header.set "Cache-Status" "Swarmlite; fwd=uri-miss")
        client := { writer.client with
          header := writer.client.header.set "Cache-Status" "Swarmlite; fwd=uri-miss"
          }.writeHeader status } := by
    unfold CacheCaptureWriter.writeHeader
    rw [h.wroteHeader, if_neg Bool.false_ne_true]
    rfl
  rw [hwri]
  refine ⟨rfl, rfl, ⟨_, rfl⟩, ?_, ?_, ?_⟩
  · rw [mayBeKept_set, ClientResponse.writeHeader_body, h.clientBody]
    simp
  · intro _
    rw [ClientResponse.writeHeader_body, h.clientBody]
    exact h.body
  · intro hkeep
    obtain ⟨hfin, hlow, hhigh⟩ := CachePolicy.final_of_mayBeKept hkeep
    have hran : (decide (status < 100) || decide (999 < status)) = false := by
      simp only [Bool.or_eq_false_iff, decide_eq_false_iff_not]
      omega
    unfold ClientResponse.writeHeader
    rw [hran, hfin]
    split
    · exact h.running
    · exact h.running

theorem CacheCaptureWriter.writeHeader_idem (writer : CacheCaptureWriter) :
    (writer.writeHeader policy 200).writeHeader policy 200 = writer.writeHeader policy 200 :=
  CacheCaptureWriter.writeHeader_of_wrote
    (CacheCaptureWriter.writeHeader_wroteHeader policy 200 writer) policy 200

/-- Output without a status is output after a `200`. -/
theorem captureWriter_outputs (writer : CacheCaptureWriter)
    {call : HandlerCall} (hcall : call.outputs = true) :
    (captureWriter policy).perform call writer
      = (captureWriter policy).perform call (writer.writeHeader policy 200) := by
  have hwri : ∀ bytes, (captureWriter policy).write bytes writer
      = (captureWriter policy).write bytes (writer.writeHeader policy 200) := by
    intro bytes
    show writer.write policy bytes = (writer.writeHeader policy 200).write policy bytes
    unfold CacheCaptureWriter.write
    rw [CacheCaptureWriter.writeHeader_idem]
  cases call with
  | setHeader key values | deleteHeader key | writeHeader status => cases hcall
  | write bytes => exact congrArg Prod.fst (hwri bytes)
  | flush =>
    show writer.flush policy = (writer.writeHeader policy 200).flush policy
    unfold CacheCaptureWriter.flush
    rw [CacheCaptureWriter.writeHeader_idem]
  | readFrom pieces =>
    show (captureWriter policy).readFrom pieces writer
      = (captureWriter policy).readFrom pieces (writer.writeHeader policy 200)
    induction pieces with
    | nil => cases hcall
    | cons piece rest ih =>
      simp only [ResponseWriter.readFrom]
      by_cases hemp : piece.isEmpty = true
      · rw [if_pos hemp, if_pos hemp]
        refine ih ?_
        simpa [HandlerCall.outputs, hemp] using hcall
      · rw [if_neg hemp, if_neg hemp, hwri piece]

/-- From its opening on, a response is recorded. -/
theorem Untold.run (h : Untold writer) (policy : CachePolicy) (calls : List HandlerCall) :
    (opening writer.client.header calls = none →
        ((captureWriter policy).run calls writer).status = 0)
      ∧ ∀ status opened, opening writer.client.header calls = some (status, opened) →
        Recorded policy status opened ((captureWriter policy).run calls writer) := by
  induction calls generalizing writer with
  | nil =>
    refine ⟨fun _ => h.status, ?_⟩
    intro status opened hope
    cases hope
  | cons call rest ih =>
    rw [(captureWriter policy).run_cons h.running]
    unfold opening
    by_cases hout : call.outputs = true
    · rw [if_pos hout, captureWriter_outputs policy writer hout]
      refine ⟨fun hnone => (by cases hnone), ?_⟩
      intro status opened hope
      cases hope
      -- one call more, on a writer that has just given its status
      have hrun : (captureWriter policy).panicked (writer.writeHeader policy 200) = false := by
        show (writer.writeHeader policy 200).client.panicked = false
        unfold CacheCaptureWriter.writeHeader
        rw [h.wroteHeader, if_neg Bool.false_ne_true]
        exact (ClientResponse.writeHeader_ok_panicked _).trans h.running
      have hall := (Recorded.preserved policy 200 writer.client.header).run (call :: rest)
        (h.recorded policy 200)
      rwa [(captureWriter policy).run_cons hrun] at hall
    rw [if_neg hout]
    cases hsta : call.status? with
    | some given =>
      rw [(captureWriter policy).perform_status hsta]
      refine ⟨fun hnone => (by cases hnone), ?_⟩
      intro status opened hope
      cases hope
      exact (Recorded.preserved policy given writer.client.header).run rest
        (h.recorded policy given)
    | none =>
      rw [Bool.not_eq_true] at hout
      rw [(captureWriter policy).perform_quiet (fun _ => rfl) hout hsta]
      have hedi : Untold ((captureWriter policy).editHeader call.edited writer) :=
        ⟨h.wroteHeader, h.status, h.body, h.clientBody, h.running⟩
      exact ih hedi

/-! ## Completeness -/

theorem ClientResponse.finish_body : client.finish.body = client.body := by
  unfold ClientResponse.finish
  split
  · rfl
  · exact client.writeHeader_body 200

/-- The bytes behind the wrapper are those of a client served directly, if the response opens
with a final status. -/
theorem capture_body {header opened : HttpHeader} {status : Int} {calls : List HandlerCall}
    (hope : opening header calls = some (status, opened))
    (hfin : isInformational status = false) (policy : CachePolicy)
    (outcomes : List WriteOutcome) :
    (capture policy header outcomes calls).client.body
      = (serveDirectly header outcomes calls).body := by
  have hsame := ((unopened_fresh header outcomes).seenAlike policy calls).mpr
    (chosenStatus_of_opening hfin hope).2
  have hbody := congrArg SeenResponse.body hsame
  exact (ClientResponse.finish_body _).symm.trans hbody

/-- **What is stored**: a response that is to be stored, with the bytes the client got. -/
theorem stored_iff (store : Bool) (header : HttpHeader)
    (outcomes : List WriteOutcome) (calls : List HandlerCall) :
    (storable policy store header outcomes calls = true
        → ∃ entry, responseStored policy store header outcomes calls = some entry)
      ∧ ∀ entry, responseStored policy store header outcomes calls = some entry →
        storable policy store header outcomes calls = true
          ∧ entry.body = (serveDirectly header outcomes calls).body
          ∧ entry.status = chosenStatus calls
          ∧ entry.body.length ≤ policy.maxBody := by
  have hunt : Untold (newCacheCaptureWriter (.fresh header outcomes)) := ⟨rfl, rfl, rfl, rfl, rfl⟩
  obtain ⟨hnone, hsome⟩ := hunt.run policy calls
  change opening header calls = none → (capture policy header outcomes calls).status = 0 at hnone
  change ∀ status opened, opening header calls = some (status, opened) →
    Recorded policy status opened (capture policy header outcomes calls) at hsome
  have hbod := fun {status opened} (hope : opening header calls = some (status, opened))
    (hkeep : mayBeKept policy status opened = true) =>
      capture_body hope (CachePolicy.final_of_mayBeKept hkeep).1 policy outcomes
  unfold storable responseStored storedResponse
  generalize capture policy header outcomes calls = writer at hnone hsome hbod
  cases hope : opening header calls with
  | none =>
    refine ⟨fun hfal => (by cases hfal), ?_⟩
    intro entry hent
    simp [hnone hope] at hent
  | some pair =>
    obtain ⟨status, opened⟩ := pair
    have hrec := hsome status opened hope
    obtain ⟨value, hhea⟩ := hrec.header
    have hvary : responseVaryHeaders writer.header policy.keyHeaders
        = responseVaryHeaders opened policy.keyHeaders := by
      rw [hhea, responseVaryHeaders_set]
    constructor
    · intro hsto
      simp only [Bool.and_eq_true, decide_eq_true_eq] at hsto
      obtain ⟨⟨⟨hstor, hkeep⟩, hfie⟩, hlen⟩ := hsto
      have hcac : writer.cacheable = true := by
        rw [hrec.cacheable, hkeep, hbod hope hkeep, Bool.true_and, decide_eq_true_eq]
        exact hlen
      obtain ⟨-, hlow, -⟩ := CachePolicy.final_of_mayBeKept hkeep
      obtain ⟨varyHeaders, hlis⟩ := Option.isSome_iff_exists.mp hfie
      have hnon : ¬ writer.status = 0 := by
        rw [hrec.status]
        omega
      exact ⟨_, by simp [hrec.running hkeep, hstor, hcac, hnon, hvary, hlis]; rfl⟩
    · intro entry hent
      dsimp only at hent
      split at hent
      · cases hent
      split at hent
      · cases hent
      next hcon =>
        simp only [Bool.or_eq_true, Bool.not_eq_true', decide_eq_true_eq, not_or,
          Bool.not_eq_false] at hcon
        obtain ⟨⟨hstor, hcac⟩, -⟩ := hcon
        obtain ⟨varyHeaders, hlis, hmade⟩ := Option.map_eq_some_iff.mp hent
        have hkept := hcac
        rw [hrec.cacheable, Bool.and_eq_true, decide_eq_true_eq] at hkept
        have hbody := hbod hope hkept.1
        rw [hvary] at hlis
        have hcho := (chosenStatus_of_opening (CachePolicy.final_of_mayBeKept hkept.1).1 hope).1
        subst hmade
        refine ⟨?_, (hrec.body hcac).trans hbody, hrec.status.trans hcho.symm, ?_⟩
        · simp only [hstor, hkept.1, hlis, Option.isSome_some, Bool.true_and, ← hbody,
            decide_eq_true_eq]
          exact hkept.2
        · show writer.body.length ≤ policy.maxBody
          rw [hrec.body hcac]
          exact hkept.2

/-- **Only complete responses are stored**, with the status the handler chose and within the
limit, exactly if a response to be stored reaches the client whole. -/
theorem stored_complete_iff (policy : CachePolicy) (store : Bool) (header : HttpHeader)
    (outcomes : List WriteOutcome) (calls : List HandlerCall) :
    (∀ entry, responseStored policy store header outcomes calls = some entry →
        entry.body = passedBytes calls ∧ entry.status = chosenStatus calls
          ∧ entry.body.length ≤ policy.maxBody)
      ↔ (storable policy store header outcomes calls = true →
        (serveDirectly header outcomes calls).body = passedBytes calls) := by
  obtain ⟨hexi, hent⟩ := stored_iff policy store header outcomes calls
  constructor
  · intro hcom hsto
    obtain ⟨entry, hentr⟩ := hexi hsto
    obtain ⟨-, hbody, -⟩ := hent entry hentr
    rw [← hbody]
    exact (hcom entry hentr).1
  · intro hwho entry hentr
    obtain ⟨hsto, hbody, hsta, hlen⟩ := hent entry hentr
    exact ⟨hbody.trans (hwho hsto), hsta, hlen⟩

/-- The connection breaks after the first byte of two; the handler does not mind, and the one
byte is stored. -/
theorem truncated_body_stored :
    let calls := [HandlerCall.write [1, 2]]
    (responseStored defaultCachePolicy true Table.empty [⟨1, true⟩] calls).map StoredResponse.body
        = some [1]
      ∧ passedBytes calls = [1, 2] := by
  decide +kernel

end Swarmlite
