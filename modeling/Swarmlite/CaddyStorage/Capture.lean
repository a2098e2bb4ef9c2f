import Swarmlite.CaddyStorage.Headers

/-!
# The capture writer — `caddy-storage/cache_handler.go`, `cacheCaptureWriter`

On a miss the downstream handler does not write to the client but to a writer that passes every
call on and keeps a copy of the response, which `ServeHTTP` then stores. Two questions: does the
client see what it would have seen without the wrapper, and is the copy the whole response?

This module has the two writers and what holds of any writer; `CaddyStorage/Misses.lean` compares
them.

Mirroring notes:
- The client is the `http.ResponseWriter` of `net/http`: informational statuses are sent at once
  and leave the header open, `101` is final, a status below 100 or above 999 panics, a body is
  refused for 1xx, 204 and 304, and a response without a status is a `200`.
- Each write that reaches the connection meets the next `WriteOutcome`; after the last one the
  connection takes everything. `http.ErrContentLength` is an outcome that takes nothing.
- Trailers, `Hijack` and `Push` are left out.
- A handler is the list of its calls. `ReadFrom` gets the pieces its reader yields; both writers
  copy them in a loop that ends at an error or a short write.
-/

namespace Swarmlite

open Ordered

/-! ## Writers and handlers -/

/-- What `Write` returns. -/
structure WriteResult where
  written : Nat
  failed : Bool
deriving DecidableEq

/-- The methods of an `http.ResponseWriter` over the states `σ`. -/
structure ResponseWriter (σ : Type) where
  editHeader : (HttpHeader → HttpHeader) → σ → σ
  writeHeader : Int → σ → σ
  write : List UInt8 → σ → σ × WriteResult
  flush : σ → σ
  panicked : σ → Bool

/-- One call of a downstream handler. -/
inductive HandlerCall where
  | setHeader (key : String) (values : List String)
  | deleteHeader (key : String)
  | writeHeader (status : Int)
  | write (bytes : List UInt8)
  | readFrom (pieces : List (List UInt8))
  | flush
deriving DecidableEq

namespace HandlerCall

/-- The header map after the call, as far as the handler edits it. -/
def edited : HandlerCall → HttpHeader → HttpHeader
  | setHeader key values, header => header.put key values
  | deleteHeader key, header => header.erase key
  | _, header => header

/-- The status the call gives. -/
def status? : HandlerCall → Option Int
  | writeHeader status => some status
  | _ => none

/-- Whether the call starts the response if nothing did before. -/
def outputs : HandlerCall → Bool
  | write _ => true
  | readFrom pieces => pieces.any fun piece => !piece.isEmpty
  | flush => true
  | _ => false

/-- The bytes the call passes. -/
def bytes : HandlerCall → List UInt8
  | write bytes => bytes
  | readFrom pieces => pieces.flatten
  | _ => []

end HandlerCall

namespace ResponseWriter

variable {σ τ : Type} {s : σ} {call : HandlerCall}

/-- The loop of `ReadFrom`. -/
def readFrom (writer : ResponseWriter σ) : List (List UInt8) → σ → σ
  | [], s => s
  | piece :: rest, s =>
    if piece.isEmpty then readFrom writer rest s
    else
      let after := writer.write piece s
      if after.2.failed || after.2.written ≠ piece.length then after.1
      else readFrom writer rest after.1

def perform (writer : ResponseWriter σ) (call : HandlerCall) (s : σ) : σ :=
  match call with
  | .writeHeader status => writer.writeHeader status s
  | .write bytes => (writer.write bytes s).1
  | .readFrom pieces => writer.readFrom pieces s
  | .flush => writer.flush s
  | edit => writer.editHeader edit.edited s

/-- The calls of a handler, up to a panic. -/
def run (writer : ResponseWriter σ) : List HandlerCall → σ → σ
  | [], s => s
  | call :: rest, s => if writer.panicked s then s else run writer rest (writer.perform call s)

/-- Two writers that stay related whatever is called, and answer alike. -/
structure Related (a : ResponseWriter σ) (b : ResponseWriter τ) (R : σ → τ → Prop) : Prop where
  editHeader : ∀ (call : HandlerCall) {s t}, R s t →
    R (a.editHeader call.edited s) (b.editHeader call.edited t)
  writeHeader : ∀ status {s t}, R s t → R (a.writeHeader status s) (b.writeHeader status t)
  write : ∀ bytes {s t}, R s t → R (a.write bytes s).1 (b.write bytes t).1
  answer : ∀ bytes {s t}, R s t → (a.write bytes s).2 = (b.write bytes t).2
  flush : ∀ {s t}, R s t → R (a.flush s) (b.flush t)
  panicked : ∀ {s t}, R s t → a.panicked s = b.panicked t

namespace Related

variable {a : ResponseWriter σ} {b : ResponseWriter τ} {R : σ → τ → Prop} {t : τ}

theorem readFrom (h : Related a b R) (pieces : List (List UInt8)) (hR : R s t) :
    R (a.readFrom pieces s) (b.readFrom pieces t) := by
  induction pieces generalizing s t with
  | nil => exact hR
  | cons piece rest ih =>
    simp only [ResponseWriter.readFrom]
    by_cases hemp : piece.isEmpty = true
    · rw [if_pos hemp, if_pos hemp]
      exact ih hR
    · rw [if_neg hemp, if_neg hemp, h.answer piece hR]
      split
      · exact h.write piece hR
      · exact ih (h.write piece hR)

theorem perform (h : Related a b R) (call : HandlerCall) (hR : R s t) :
    R (a.perform call s) (b.perform call t) := by
  cases call with
  | setHeader key values => exact h.editHeader (.setHeader key values) hR
  | deleteHeader key => exact h.editHeader (.deleteHeader key) hR
  | writeHeader status => exact h.writeHeader status hR
  | write bytes => exact h.write bytes hR
  | readFrom pieces => exact h.readFrom pieces hR
  | flush => exact h.flush hR

theorem run (h : Related a b R) (calls : List HandlerCall) (hR : R s t) :
    R (a.run calls s) (b.run calls t) := by
  induction calls generalizing s t with
  | nil => exact hR
  | cons call rest ih =>
    simp only [ResponseWriter.run]
    rw [h.panicked hR]
    split
    · exact hR
    · exact ih (h.perform call hR)

/-- States from which every write and flush leads to related ones. -/
theorem outputs (h : Related a b R) (hwri : ∀ bytes, R (a.write bytes s).1 (b.write bytes t).1
      ∧ (a.write bytes s).2 = (b.write bytes t).2)
    (hflu : R (a.flush s) (b.flush t)) (hcall : call.outputs = true) :
    R (a.perform call s) (b.perform call t) := by
  cases call with
  | setHeader key values | deleteHeader key | writeHeader status => cases hcall
  | write bytes => exact (hwri bytes).1
  | flush => exact hflu
  | readFrom pieces =>
    show R (a.readFrom pieces s) (b.readFrom pieces t)
    induction pieces with
    | nil => cases hcall
    | cons piece rest ih =>
      simp only [ResponseWriter.readFrom]
      by_cases hemp : piece.isEmpty = true
      · rw [if_pos hemp, if_pos hemp]
        refine ih ?_
        simpa [HandlerCall.outputs, hemp] using hcall
      · -- the first piece with bytes starts the resp, the others follow in the loop
        rw [if_neg hemp, if_neg hemp, (hwri piece).2]
        split
        · exact (hwri piece).1
        · exact h.readFrom rest (hwri piece).1

end Related

/-- A property of the writer that no call ends. -/
structure Preserves (writer : ResponseWriter σ) (I : σ → Prop) : Prop where
  editHeader : ∀ (call : HandlerCall) {s}, I s → I (writer.editHeader call.edited s)
  writeHeader : ∀ status {s}, I s → I (writer.writeHeader status s)
  write : ∀ bytes {s}, I s → I (writer.write bytes s).1
  flush : ∀ {s}, I s → I (writer.flush s)

theorem Preserves.run {writer : ResponseWriter σ} {I : σ → Prop} (h : Preserves writer I)
    (calls : List HandlerCall) (hI : I s) : I (writer.run calls s) := by
  have hrel : Related writer writer fun s t => s = t ∧ I s :=
    { editHeader := fun call _ _ hR => ⟨by rw [hR.1], h.editHeader call hR.2⟩
      writeHeader := fun status _ _ hR => ⟨by rw [hR.1], h.writeHeader status hR.2⟩
      write := fun bytes _ _ hR => ⟨by rw [hR.1], h.write bytes hR.2⟩
      answer := fun _ _ _ hR => by rw [hR.1]
      flush := fun hR => ⟨by rw [hR.1], h.flush hR.2⟩
      panicked := fun hR => by rw [hR.1] }
  exact (hrel.run calls ⟨rfl, hI⟩).2

/-- A call that gives no status and starts nothing is an edit of the header map. -/
theorem perform_quiet (writer : ResponseWriter σ) (hid : ∀ s, writer.editHeader id s = s)
    (hout : call.outputs = false) (hsta : call.status? = none) (s : σ) :
    writer.perform call s = writer.editHeader call.edited s := by
  cases call with
  | setHeader key values | deleteHeader key => rfl
  | writeHeader status => cases hsta
  | write bytes | flush => cases hout
  | readFrom pieces =>
    show writer.readFrom pieces s = writer.editHeader id s
    rw [hid]
    induction pieces with
    | nil => rfl
    | cons piece rest ih =>
      have hpar : piece.isEmpty = true ∧ HandlerCall.outputs (.readFrom rest) = false := by
        simpa [HandlerCall.outputs] using hout
      simp only [ResponseWriter.readFrom]
      rw [if_pos hpar.1]
      exact ih hpar.2 rfl

theorem perform_status (writer : ResponseWriter σ) {status : Int}
    (hsta : call.status? = some status) (s : σ) :
    writer.perform call s = writer.writeHeader status s := by
  cases call with
  | writeHeader given => cases hsta; rfl
  | setHeader key values | deleteHeader key | write bytes | readFrom pieces | flush => cases hsta

theorem run_panicked (writer : ResponseWriter σ) (h : writer.panicked s = true)
    (calls : List HandlerCall) : writer.run calls s = s := by
  cases calls with
  | nil => rfl
  | cons call rest => exact if_pos h

theorem run_cons (writer : ResponseWriter σ) (h : writer.panicked s = false)
    (call : HandlerCall) (rest : List HandlerCall) :
    writer.run (call :: rest) s = writer.run rest (writer.perform call s) :=
  if_neg (by rw [h]; exact Bool.false_ne_true)

end ResponseWriter

/-! ## The client -/

/-- What the connection does with the bytes of one write. -/
structure WriteOutcome where
  taken : Nat
  failed : Bool
deriving DecidableEq

/-- `http.response` -/
structure ClientResponse where
  header : HttpHeader
  wroteHeader : Bool
  status : Int
  sentHeader : HttpHeader
  informational : List (Int × HttpHeader)
  body : List UInt8
  panicked : Bool
  outcomes : List WriteOutcome
deriving DecidableEq

def isInformational (status : Int) : Bool := 100 ≤ status && status ≤ 199 && status ≠ 101

/-- `bodyAllowedForStatus` -/
def bodyAllowed (status : Int) : Bool :=
  !((100 ≤ status && status ≤ 199) || status = 204 || status = 304)

namespace ClientResponse

def fresh (header : HttpHeader) (outcomes : List WriteOutcome) : ClientResponse :=
  { header, wroteHeader := false, status := 0, sentHeader := Table.empty, informational := [],
    body := [], panicked := false, outcomes }

def writeHeader (status : Int) (client : ClientResponse) : ClientResponse :=
  if client.wroteHeader then client
  else if status < 100 || 999 < status then { client with panicked := true }
  else if isInformational status then
    { client with informational := client.informational ++ [(status, client.header)] }
  else { client with wroteHeader := true, status := status, sentHeader := client.header }

/-- The part of `Write` after the header. -/
def output (bytes : List UInt8) (client : ClientResponse) : ClientResponse × WriteResult :=
  if bytes.isEmpty then (client, ⟨0, false⟩)
  else if !bodyAllowed client.status then (client, ⟨0, true⟩)
  else
    let outcome := client.outcomes.headD ⟨bytes.length, false⟩
    let written := min outcome.taken bytes.length
    ({ client with body := client.body ++ bytes.take written, outcomes := client.outcomes.tail },
      ⟨written, outcome.failed⟩)

def write (bytes : List UInt8) (client : ClientResponse) : ClientResponse × WriteResult :=
  (client.writeHeader 200).output bytes

/-- `finishRequest`; a handler that panicked has its connection closed instead. -/
def finish (client : ClientResponse) : ClientResponse :=
  if client.panicked then client else client.writeHeader 200

end ClientResponse

def clientWriter : ResponseWriter ClientResponse where
  editHeader edit client := { client with header := edit client.header }
  writeHeader := ClientResponse.writeHeader
  write := ClientResponse.write
  flush := ClientResponse.writeHeader 200
  panicked := ClientResponse.panicked

/-- The response of a handler that writes to the client itself. -/
def serveDirectly (header : HttpHeader) (outcomes : List WriteOutcome) (calls : List HandlerCall) :
    ClientResponse :=
  (clientWriter.run calls (.fresh header outcomes)).finish

/-! ## The capture writer -/

/-- The settings of `CacheHandler` the writer uses, as `Provision` leaves them. -/
structure CachePolicy where
  statusCodes : List Int
  maxBody : Nat
  keyHeaders : List String
  supported : ∀ status ∈ statusCodes, 200 ≤ status ∧ status ≤ 599 ∧ status ≠ 304

structure CacheCaptureWriter where
  client : ClientResponse
  status : Int
  header : HttpHeader
  body : List UInt8
  wroteHeader : Bool
  cacheable : Bool
deriving DecidableEq

def newCacheCaptureWriter (client : ClientResponse) : CacheCaptureWriter :=
  { client, status := 0, header := Table.empty, body := [], wroteHeader := false,
    cacheable := false }

/-- Whether a `Content-Length` announces more than may be stored. -/
def announcesTooMuch (policy : CachePolicy) (header : HttpHeader) : Bool :=
  match parseInt64 (header.first "Content-Length") with
  | some length => (policy.maxBody : Int) < length
  | none => false

namespace CacheCaptureWriter

def writeHeader (policy : CachePolicy) (status : Int) (writer : CacheCaptureWriter) :
    CacheCaptureWriter :=
  if writer.wroteHeader then writer
  else
    let header := writer.client.header.set "Cache-Status" "Swarmlite; fwd=uri-miss"
    { writer with
      wroteHeader := true
      status := status
      header := header
      cacheable := responseMayBeStored policy.statusCodes status header
        && !announcesTooMuch policy header
      client := { writer.client with header := header }.writeHeader status }

/-- The copy `Write` takes of what the client took. -/
def record (policy : CachePolicy) (taken : List UInt8) (writer : CacheCaptureWriter) :
    CacheCaptureWriter :=
  if writer.cacheable && !taken.isEmpty then
    if writer.body.length + taken.length ≤ policy.maxBody then
      { writer with body := writer.body ++ taken }
    else { writer with cacheable := false, body := [] }
  else writer

def write (policy : CachePolicy) (bytes : List UInt8) (writer : CacheCaptureWriter) :
    CacheCaptureWriter × WriteResult :=
  let opened := writer.writeHeader policy 200
  let passed := opened.client.write bytes
  ({ opened with client := passed.1 }.record policy (bytes.take passed.2.written), passed.2)

/-- `FlushError` -/
def flush (policy : CachePolicy) (writer : CacheCaptureWriter) : CacheCaptureWriter :=
  let opened := writer.writeHeader policy 200
  { opened with client := opened.client.writeHeader 200 }

end CacheCaptureWriter

def captureWriter (policy : CachePolicy) : ResponseWriter CacheCaptureWriter where
  editHeader edit writer :=
    { writer with client := { writer.client with header := edit writer.client.header } }
  writeHeader := CacheCaptureWriter.writeHeader policy
  write := CacheCaptureWriter.write policy
  flush := CacheCaptureWriter.flush policy
  panicked writer := writer.client.panicked

/-- The writer after the handler returned. -/
def capture (policy : CachePolicy) (header : HttpHeader) (outcomes : List WriteOutcome)
    (calls : List HandlerCall) : CacheCaptureWriter :=
  (captureWriter policy).run calls (newCacheCaptureWriter (.fresh header outcomes))

/-- The response of a client behind the capture writer. -/
def serveCaptured (policy : CachePolicy) (header : HttpHeader) (outcomes : List WriteOutcome)
    (calls : List HandlerCall) : ClientResponse :=
  (capture policy header outcomes calls).client.finish

end Swarmlite
