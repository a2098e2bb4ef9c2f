import Swarmlite.Lib.Loop
import Swarmlite.Registry.Cache

/-!
# Answers from the registry cache — `swarmlite-registry/src/service.rs`

A cached manifest or blob is sent with a `Content-Length` computed from the inclusive bounds of
the range, and streamed from its file in chunks. The two agree but for an empty object without a
`Range` header: its bounds are `0..=0`, so one byte is announced and none is sent. A `HEAD` request
does not open the file, so its `Content-Type` is that of an empty manifest.
**`cached_responses_consistent_iff`** says that nothing else goes wrong.

Mirroring notes:
- Opening and reading the file succeed; a read may return fewer bytes than asked for (`more`).
- `serde_json` finds the `mediaType` of a manifest: `mediaTypeOf`.
- Each round of the loop sends at least one byte, so `length` rounds are enough.
-/

namespace Swarmlite

open Loop

/-- An object of the cache; the size of a file is a `u64`. -/
structure CachedObject where
  bytes : List UInt8
  fits : bytes.length ≤ lengthLimit

structure RegistryResponse where
  status : Nat
  contentType : String
  contentLength : Nat
  contentDigest : String
  contentRange : Option String
  acceptRanges : String := "bytes"
  body : List UInt8
deriving DecidableEq

def orError {α : Type} (value : Option α) (error : String) : Except String α :=
  (value.map Except.ok).getD (.error error)

def parseRange (range : Option String) (size : Nat) : Except String (Nat × Nat × Nat) :=
  match range with
  | none => .ok (0, size - 1, 200)
  | some value => do
    ensure (value.toList.all fun c => (32 ≤ c.toNat && c.toNat < 127) || c == '\t')
      "failed to convert header to a str"
    let value ← orError (Text.dropPrefix? "bytes=" value) "unsupported Range header"
    ensure (!Text.contains "," value) "multiple ranges are unsupported"
    let (start, last) ← orError (Text.splitOnce "-" value) "invalid Range header"
    let start ← orError (Text.parseUnsigned lengthLimit start) "invalid range start"
    let last ← orError (if last = "" then some (size - 1) else Text.parseUnsigned lengthLimit last)
      "invalid range end"
    ensure (!(size = 0 || last < start || size ≤ last)) "range is outside the cached object"
    .ok (start, last, 206)

/-- The loop of the body: at most 64 KiB a round, until the length is reached or the file ends. -/
def streamBody (more : Nat → Nat) : Nat → Nat → List UInt8 → List UInt8
  | 0, _, _ => []
  | rounds + 1, remaining, file =>
    let chunk := file.take (min (more remaining + 1) (min remaining (64 * 1024)))
    if chunk.isEmpty then []
    else chunk ++ streamBody more rounds (remaining - chunk.length) (file.drop chunk.length)

def ociImageMediaType : String := "application/vnd.oci.image.manifest.v1+json"

section Serving

variable (mediaTypeOf : List UInt8 → Option String) (more : Nat → Nat)

def manifestMediaTypeFromFile (bytes : List UInt8) : String :=
  if bytes.isEmpty then ociImageMediaType else (mediaTypeOf bytes).getD ociImageMediaType

/-- The answer for inclusive bounds. -/
def rangeResponse (object : CachedObject) (digest : String) (mediaType : List UInt8 → String)
    (head : Bool) (start last status : Nat) : RegistryResponse :=
  let size := object.bytes.length
  let length := min (last - start + 1) lengthLimit
  { status
    contentType := if head || 4 * 1024 * 1024 < size then mediaType [] else mediaType object.bytes
    contentLength := length
    contentDigest := digest
    contentRange := if status = 206 then some s!"bytes {start}-{last}/{size}" else none
    body := if head then [] else streamBody more length length (object.bytes.drop start) }

def cachedResponse (object : CachedObject) (digest : String) (mediaType : List UInt8 → String)
    (head : Bool) (range : Option String) : Except String RegistryResponse := do
  let (start, last, status) ← parseRange range object.bytes.length
  .ok (rangeResponse more object digest mediaType head start last status)

/-- What is served: a manifest, always as a whole, or a blob. -/
inductive CachedResource where
  | manifest
  | blob (range : Option String)

def CachedResource.range : CachedResource → Option String
  | .manifest => none
  | .blob range => range

/-- The calls of `cached_response` in `manifest` and `blob`. -/
def serveCached (resource : CachedResource) (object : CachedObject) (digest : String)
    (head : Bool) : Except String RegistryResponse :=
  match resource with
  | .manifest =>
    cachedResponse more object digest (manifestMediaTypeFromFile mediaTypeOf) head none
  | .blob range => cachedResponse more object digest (fun _ => "application/octet-stream") head range

/-! ## The body -/

/-- However the file is read, the body is what the file holds up to the length. -/
theorem streamBody_eq {rounds remaining : Nat} (h : remaining ≤ rounds) (file : List UInt8) :
    streamBody more rounds remaining file = file.take remaining := by
  induction rounds generalizing remaining file with
  | zero => simp [streamBody, Nat.le_zero.mp h]
  | succ rounds ih =>
    unfold streamBody
    dsimp only
    generalize hn : min (more remaining + 1) (min remaining (64 * 1024)) = n
    split
    next hemp =>
      rcases List.take_eq_nil_iff.mp (List.isEmpty_iff.mp hemp) with hzero | hfile
      · rw [show remaining = 0 by omega, List.take_zero]
      · rw [hfile, List.take_nil]
    next hsome =>
      have hpos : 0 < (file.take n).length := List.length_pos_iff.mpr fun h => hsome (by simp [h])
      have hle : (file.take n).length ≤ n := List.length_take_le n file
      rw [ih (by omega)]
      -- the chunk is where the rest of the body begins
      have htake : file.take n = file.take (file.take n).length := by simp
      generalize (file.take n).length = sent at *
      rw [htake, ← List.take_add, Nat.add_sub_of_le (by omega)]

/-- A range that is accepted lies in the object. -/
theorem parseRange_bounds {value : String} {size start last status : Nat}
    (h : parseRange (some value) size = .ok (start, last, status)) :
    status = 206 ∧ start ≤ last ∧ last < size := by
  simp only [parseRange, bind_ok_iff, ensure_ok_iff] at h
  obtain ⟨_, _, _, _, _, _, ⟨_, _⟩, _, _, _, _, _, _, hbou, heq⟩ := h
  cases heq
  simp at hbou
  omega

/-! ## What is announced and what is sent -/

/-- What `HEAD` and `GET` have in common. -/
def RegistryResponse.announced (response : RegistryResponse) : Nat × String × Nat :=
  (response.status, response.contentType, response.contentLength)

/-- An answer agrees with its body, the body is the object or the part asked for, and `HEAD` and
`GET` announce the same. -/
structure ConsistentAnswers (object : CachedObject) (range : Option String)
    (get head : Except String RegistryResponse) : Prop where
  length : ∀ response, get = .ok response → response.contentLength = response.body.length
  whole : ∀ response, get = .ok response → range = none → response.body = object.bytes
  part : ∀ response, get = .ok response → range ≠ none →
    ∃ start last, start ≤ last ∧ last < object.bytes.length ∧
      response.body = (object.bytes.drop start).take (last - start + 1)
  head : head.map RegistryResponse.announced = get.map RegistryResponse.announced

variable {more} {object : CachedObject} {digest : String} {mediaType : List UInt8 → String}
  {range : Option String}

/-- An answer is consistent if the bounds describe its body and the type can be told without
looking at the file. -/
theorem rangeResponse_consistent_iff {start last status : Nat} (hsma : last ≤ object.bytes.length)
    (hbou : range ≠ none → start ≤ last ∧ last < object.bytes.length)
    (hwho : range = none → start = 0 ∧ last = object.bytes.length - 1) :
    ConsistentAnswers object range
      (.ok (rangeResponse more object digest mediaType false start last status))
      (.ok (rangeResponse more object digest mediaType true start last status)) ↔
      (object.bytes = [] → range ≠ none) ∧
      (object.bytes.length ≤ 4 * 1024 * 1024 → mediaType [] = mediaType object.bytes) := by
  have hbody : (rangeResponse more object digest mediaType false start last status).body
      = (object.bytes.drop start).take (min (last - start + 1) lengthLimit) :=
    streamBody_eq more (Nat.le_refl _) _
  have hfits := object.fits
  have hlen : (object.bytes = [] → range ≠ none) ↔ min (last - start + 1) lengthLimit
      = ((object.bytes.drop start).take (min (last - start + 1) lengthLimit)).length := by
    rw [← List.length_eq_zero_iff, List.length_take, List.length_drop]
    unfold lengthLimit at *
    by_cases hran : range = none
    · obtain ⟨rfl, rfl⟩ := hwho hran
      simp only [hran, ne_eq, not_true_eq_false, imp_false]
      omega
    · have := hbou hran
      simp only [ne_eq, hran, not_false_eq_true, implies_true, true_iff]
      omega
  constructor
  · intro h
    refine ⟨hlen.mpr ((h.length _ rfl).trans (congrArg List.length hbody)), fun hlook => ?_⟩
    have htyp : (rangeResponse more object digest mediaType true start last status).contentType
        = (rangeResponse more object digest mediaType false start last status).contentType :=
      congrArg (fun announced => announced.2.1) (Except.ok.inj h.head)
    simpa [rangeResponse, Nat.not_lt.mpr hlook] using htyp
  · intro h
    obtain ⟨hsome, htype⟩ := h
    refine ⟨fun _ heq => ?_, fun _ heq hnone => ?_, fun _ heq hran => ?_, congrArg Except.ok ?_⟩
    · cases heq
      exact (hlen.mp hsome).trans (congrArg List.length hbody).symm
    · cases heq
      obtain ⟨rfl, rfl⟩ := hwho hnone
      rw [hbody, List.drop_zero, List.take_of_length_le (by omega)]
    · cases heq
      have hin := hbou hran
      exact ⟨start, last, hin.1, hin.2, by rw [hbody, Nat.min_eq_left (by omega)]⟩
    · by_cases hlook : 4 * 1024 * 1024 < object.bytes.length
      · simp [RegistryResponse.announced, rangeResponse, hlook]
      · simp [RegistryResponse.announced, rangeResponse, hlook, htype (Nat.not_lt.mp hlook)]

theorem cachedResponse_consistent_iff :
    ConsistentAnswers object range (cachedResponse more object digest mediaType false range)
      (cachedResponse more object digest mediaType true range) ↔
      (object.bytes = [] → range ≠ none) ∧
      ((∃ bounds, parseRange range object.bytes.length = .ok bounds) →
        object.bytes.length ≤ 4 * 1024 * 1024 → mediaType [] = mediaType object.bytes) := by
  unfold cachedResponse
  cases hpar : parseRange range object.bytes.length with
  | error error =>
    have hran : range ≠ none := fun hnone => by simp [hnone, parseRange] at hpar
    exact ⟨fun _ => ⟨fun _ => hran, nofun⟩, fun _ => ⟨nofun, nofun, nofun, rfl⟩⟩
  | ok bounds =>
    have hok : ∃ found, (.ok bounds : Except String (Nat × Nat × Nat)) = .ok found := ⟨_, rfl⟩
    rw [and_congr_right fun _ => forall_prop_of_true hok]
    obtain ⟨start, last, status⟩ := bounds
    cases range with
    | none =>
      cases hpar
      exact rangeResponse_consistent_iff (by omega) (fun h => absurd rfl h) fun _ => ⟨rfl, rfl⟩
    | some value =>
      obtain ⟨_, hle, hlt⟩ := parseRange_bounds hpar
      exact rangeResponse_consistent_iff hlt.le (fun _ => ⟨hle, hlt⟩) (nomatch ·)

end Serving

end Swarmlite
