import Mathlib.Data.Fin.Basic
import Swarmlite.Protocol.DataPlane
import Swarmlite.Lib.Table

/-!
# Data streams — `controller/sessions.rs`, `AgentDataAttachment::serve`

An agent sends the frames of the streams assigned to it over one socket, interleaved. The
controller checks each frame — it is of an assigned stream, of a kind an agent may send, and the
next of its stream — and forwards it to the client unchanged. When the socket ends, or a frame
does not pass, the streams that have not ended get an error and an end.

What the loop forwards is `orderlyFrames`, the frames up to the first that does not pass, as
far as the client takes them. `Tracks` relates the two tables of the loop to the frames sent so
far: which streams ended, and the number of the next frame of each. One frame keeps it
(`Tracks.forward`), the loop follows (`relayFrames_spec`), and `closeStreams_spec` is about the
frames sent at the end.

One check is missing: a frame of a stream that ended is forwarded like any other, as long as
another stream is open. **`streams_well_formed`**: a client sees well-formed streams exactly if
the agent sends none (`Quiet`); `frame_after_end` is the shortest case.

Mirroring notes:
- A session ends with the close of the socket, an error of it, or a cancel; `select!` may take
  the cancel before messages that have arrived, so the messages are those read before.
- The channel to the client closes after some number of frames, or never (`room`).
- The error of the socket is a text of the WebSocket library; it fits a frame.
-/

namespace Swarmlite

open Ordered Loop

/-! ## The loop -/

structure AgentDataAttachment where
  allowedStreams : Keys StreamId

/-- A message on the socket; its size is a `usize`. -/
inductive SocketMessage where
  | binary (encoded : List UInt8) (size : encoded.length < 18446744073709551616)
  | other

/-- A text the WebSocket library gives for an error. -/
structure SocketError where
  text : String
  short : text.length ≤ 16000

inductive SessionEnd where
  | closed
  | failed (error : SocketError)
  | cancelled

/-- The tables of the loop, and what went to the client. -/
structure Relay where
  ended : Keys StreamId := Table.empty
  sequences : Map StreamId Sequence := Table.empty
  forwarded : List (List UInt8) := []

namespace Relay

def nextSequence (relay : Relay) (stream : StreamId) : Sequence :=
  ((relay.sequences.lookup stream).map Sequence.saturatingNext).getD 0

/-- `sender.send`: fails when the channel is closed. -/
def send (room : Option Nat) (relay : Relay) (encoded : List UInt8) : Option Relay :=
  if room.any (· ≤ relay.forwarded.length) then none
  else some { relay with forwarded := relay.forwarded ++ [encoded] }

def sendFrame (room : Option Nat) (relay : Relay) (frame : DataFrame) : Option Relay :=
  match frame.encode with
  | .error _ => none
  | .ok encoded => relay.send room encoded

/-- The frame is noted in the tables. -/
def note (relay : Relay) (frame : DataFrame) : Relay :=
  { relay with
    sequences := relay.sequences.put frame.streamId frame.sequence
    ended := if frame.kind = .end then relay.ended.insert frame.streamId else relay.ended }

end Relay

/-- The kinds an agent may send. -/
def DataFrameKind.fromAgent (kind : DataFrameKind) : Bool :=
  kind = .data || kind = .end || kind = .error

/-- The checks of a message, or why the session ends. -/
def AgentDataAttachment.checkFrame (attachment : AgentDataAttachment) (relay : Relay)
    (encoded : List UInt8) : Except String DataFrame := do
  let frame ← (DataFrame.decode encoded).mapError ("node sent an invalid data frame: " ++ ·)
  ensure (attachment.allowedStreams.contains frame.streamId)
    ("node sent unassigned stream ID " ++ toString frame.streamId.val)
  ensure frame.kind.fromAgent ("node sent disallowed " ++ frame.kind.debug ++ " frame")
  let expected := relay.nextSequence frame.streamId
  ensure (frame.sequence = expected)
    ("stream " ++ toString frame.streamId.val ++ " sequence " ++ toString frame.sequence.val
      ++ " arrived; expected " ++ toString expected.val)
  return frame

/-- The loop. The text is the `disconnect_error` it breaks with; without one, `serve` returns. -/
def AgentDataAttachment.relayFrames (attachment : AgentDataAttachment) (room : Option Nat)
    (ending : SessionEnd) : List SocketMessage → Relay → Relay × Option String
  | [], relay =>
    match ending with
    | .closed => (relay, some "node data stream disconnected")
    | .failed error => (relay, some ("node data stream failed: " ++ error.text))
    | .cancelled => (relay, none)
  | .other :: messages, relay => attachment.relayFrames room ending messages relay
  | .binary encoded _ :: messages, relay =>
    match attachment.checkFrame relay encoded with
    | .error message => (relay, some message)
    | .ok frame =>
      match (relay.note frame).send room encoded with
      | none => (relay.note frame, none)
      | some relay =>
        if relay.ended.rows.length = attachment.allowedStreams.rows.length then (relay, none)
        else attachment.relayFrames room ending messages relay

/-- The loop over the streams that have not ended. -/
def closeStreams (room : Option Nat) (error : String) : List StreamId → Relay → Relay
  | [], relay => relay
  | stream :: streams, relay =>
    let sequence := relay.nextSequence stream
    match relay.sendFrame room (.failure stream sequence error) with
    | none => relay
    | some relay =>
      -- a failure to send the end is ignored
      let relay := (relay.sendFrame room (.ending stream (sequence + 1))).getD relay
      closeStreams room error streams relay

/-- `serve`: everything that is sent to the client. -/
def AgentDataAttachment.serve (attachment : AgentDataAttachment) (room : Option Nat)
    (messages : List SocketMessage) (ending : SessionEnd) : List (List UInt8) :=
  match attachment.relayFrames room ending messages {} with
  | (relay, none) => relay.forwarded
  | (relay, some error) =>
    (closeStreams room error (attachment.allowedStreams.rows.filter fun stream =>
      !relay.ended.contains stream) relay).forwarded

/-! ## What a client sees -/

/-- How many frames of the stream there are. -/
def framesOf (frames : List DataFrame) (stream : StreamId) : Nat :=
  frames.countP fun frame => frame.streamId = stream

/-- The stream has ended in these frames. -/
def hasEnded (frames : List DataFrame) (stream : StreamId) : Bool :=
  frames.any fun frame => frame.streamId = stream && frame.kind = .end

/-- No frame follows the end of its stream. -/
def Quiet (frames : List DataFrame) : Prop :=
  frames.Pairwise fun earlier later => earlier.kind = .end → later.streamId ≠ earlier.streamId

instance (frames : List DataFrame) : Decidable (Quiet frames) :=
  inferInstanceAs (Decidable (frames.Pairwise _))

/-- Frames as they are received: of assigned streams, and numbered from zero in each. -/
structure InSequence (allowed : Keys StreamId) (forwarded : List (List UInt8))
    (frames : List DataFrame) : Prop where
  decoded : forwarded.map DataFrame.decode = frames.map Except.ok
  assigned : ∀ frame ∈ frames, frame.streamId ∈ allowed
  numbered : ∀ stream, (frames.filter fun frame => frame.streamId = stream).map
    (fun frame => frame.sequence.val) = List.range (framesOf frames stream)

/-- A client gets consecutive frames of the streams assigned to the agent, none after the end of
its stream, and, unless the session is cut short, exactly one end for each of them. -/
def WellFormed (allowed : Keys StreamId) (forwarded : List (List UInt8)) (cut : Prop) : Prop :=
  ∃ frames, InSequence allowed forwarded frames ∧ Quiet frames ∧
    (¬ cut → ∀ stream ∈ allowed,
      (frames.filter fun frame => frame.streamId = stream && frame.kind = .end).length = 1)

/-! ## What the agent sends -/

/-- The frame is the next of an assigned stream, and of a kind an agent may send. -/
def isNext (allowed : Keys StreamId) (before : List DataFrame) (frame : DataFrame) : Bool :=
  allowed.contains frame.streamId && frame.kind.fromAgent
    && frame.sequence.val = framesOf before frame.streamId

/-- The frames up to the first message that is none or not the next of its stream, or up to the
end of the last stream, after the frames `before`. -/
def orderlyFrames (allowed : Keys StreamId) :
    List DataFrame → List SocketMessage → List DataFrame
  | before, [] => before
  | before, .other :: messages => orderlyFrames allowed before messages
  | before, .binary encoded _ :: messages =>
    match DataFrame.decode encoded with
    | .error _ => before
    | .ok frame =>
      if isNext allowed before frame then
        if allowed.rows.all (hasEnded (before ++ [frame])) then before ++ [frame]
        else orderlyFrames allowed (before ++ [frame]) messages
      else before

/-- As many frames as the client takes. -/
def within (room : Option Nat) (frames : List DataFrame) : List DataFrame :=
  match room with
  | none => frames
  | some limit => frames.take limit

/-- Sequence numbers stay below the maximum, with room for an error and an end. -/
def SequencesBelowMax (messages : List SocketMessage) : Prop :=
  ∀ encoded size, .binary encoded size ∈ messages → ∀ frame, DataFrame.decode encoded = .ok frame →
    frame.sequence.val + 2 < 18446744073709551616

/-! ## Frames sent -/

variable {allowed : Keys StreamId} {frames : List DataFrame} {forwarded : List (List UInt8)}

theorem framesOf_append (frames : List DataFrame) (frame : DataFrame) (stream : StreamId) :
    framesOf (frames ++ [frame]) stream
      = framesOf frames stream + if frame.streamId = stream then 1 else 0 := by
  unfold framesOf
  rw [List.countP_append, List.countP_singleton]
  simp

theorem hasEnded_append (frames rest : List DataFrame) (stream : StreamId) :
    hasEnded (frames ++ rest) stream = (hasEnded frames stream || hasEnded rest stream) :=
  List.any_append

variable {encoded : List UInt8} {frame : DataFrame} {stream : StreamId} {relay : Relay}
  {messages : List SocketMessage}

/-- The next frame of an assigned stream is sent. -/
theorem InSequence.append (h : InSequence allowed forwarded frames)
    (hdec : DataFrame.decode encoded = .ok frame)
    (hass : frame.streamId ∈ allowed)
    (hnext : frame.sequence.val = framesOf frames frame.streamId) :
    InSequence allowed (forwarded ++ [encoded]) (frames ++ [frame]) := by
  refine ⟨?_, ?_, fun stream => ?_⟩
  · rw [List.map_append, List.map_append, h.decoded, List.map_singleton, List.map_singleton, hdec]
  · intro other hoth
    rcases List.mem_append.mp hoth with hoth | hoth
    · exact h.assigned other hoth
    · rw [List.mem_singleton.mp hoth]
      exact hass
  · rw [framesOf_append, List.filter_append, List.map_append, h.numbered stream]
    by_cases hstr : frame.streamId = stream
    · rw [if_pos hstr, List.range_succ]
      simp [hstr, hnext]
    · rw [if_neg hstr]
      simp [hstr]

theorem Quiet.append (h : Quiet frames)
    (hopen : hasEnded frames frame.streamId = false) : Quiet (frames ++ [frame]) := by
  refine List.pairwise_append.mpr ⟨h, List.pairwise_singleton _ _, fun earlier hear later hlat => ?_⟩
  intro hkind hstr
  rw [List.mem_singleton.mp hlat] at hstr
  have hany := List.any_eq_false.mp hopen earlier hear
  simp [hkind, hstr] at hany

/-- A stream that ended has one end, if nothing follows ends. -/
theorem Quiet.one_end (h : Quiet frames) (hende : hasEnded frames stream = true) :
    (frames.filter fun frame => frame.streamId = stream && frame.kind = .end).length = 1 := by
  generalize hends : (frames.filter fun frame => frame.streamId = stream && frame.kind = .end) = ends
  have hmem : ∀ frame ∈ ends, frame.streamId = stream ∧ frame.kind = .end := by
    intro frame hfra
    rw [← hends] at hfra
    simpa using (List.mem_filter.mp hfra).2
  have hqui : Quiet ends := by
    rw [← hends]
    exact h.sublist List.filter_sublist
  match ends, hmem, hqui with
  | [], _, _ =>
    obtain ⟨frame, hfra, hend⟩ := List.any_eq_true.mp hende
    have hnone := List.filter_eq_nil_iff.mp hends frame hfra
    exact absurd hend hnone
  | [_], _, _ => rfl
  | first :: second :: rest, hmem, hqui =>
    have hfir := hmem first List.mem_cons_self
    have hsec := hmem second (List.mem_cons_of_mem _ List.mem_cons_self)
    have hapa := (List.pairwise_cons.mp hqui).1 second List.mem_cons_self hfir.2
    exact absurd (hsec.1.trans hfir.1.symm) hapa

/-! ## The tables of the loop -/

/-- The tables say which streams have ended and which number is next. -/
structure Tracks (allowed : Keys StreamId) (frames : List DataFrame) (relay : Relay) : Prop
    extends InSequence allowed relay.forwarded frames where
  ended : ∀ stream, stream ∈ relay.ended ↔ hasEnded frames stream = true
  next : ∀ stream, (relay.nextSequence stream).val = framesOf frames stream
  below : ∀ stream, framesOf frames stream + 1 < 18446744073709551616

theorem Tracks.start (allowed : Keys StreamId) : Tracks allowed [] {} where
  toInSequence := ⟨rfl, fun _ h => absurd h List.not_mem_nil, fun _ => rfl⟩
  ended _ := ⟨fun h => absurd h Table.mem_empty, fun h => nomatch h⟩
  next _ := rfl
  below _ := by
    show 0 + 1 < 18446744073709551616
    decide

theorem isNext_iff : isNext allowed frames frame = true ↔
    frame.streamId ∈ allowed ∧ frame.kind.fromAgent = true ∧
      frame.sequence.val = framesOf frames frame.streamId := by
  unfold isNext
  rw [Bool.and_eq_true, Bool.and_eq_true, Keys.contains_iff_mem, decide_eq_true_iff, and_assoc]

/-- **One frame**: the loop forwards it and its tables follow. -/
theorem Tracks.forward (h : Tracks allowed frames relay)
    (hdec : DataFrame.decode encoded = .ok frame)
    (hnext : isNext allowed frames frame = true)
    (hbel : frame.sequence.val + 2 < 18446744073709551616) :
    Tracks allowed (frames ++ [frame])
      { relay.note frame with forwarded := relay.forwarded ++ [encoded] } := by
  obtain ⟨hass, -, hseq⟩ := isNext_iff.mp hnext
  refine { h.toInSequence.append hdec hass hseq with ended := ?_, next := ?_, below := ?_ }
  · intro stream
    have hlast : hasEnded [frame] stream = true ↔ frame.streamId = stream ∧ frame.kind = .end := by
      simp [hasEnded]
    rw [hasEnded_append, Bool.or_eq_true, ← h.ended, hlast]
    show stream ∈ (if frame.kind = .end then relay.ended.insert frame.streamId else relay.ended) ↔ _
    split
    next hkind =>
      refine ⟨fun hmem => ?_, fun hmem => ?_⟩
      · rcases Table.mem_insert.mp hmem with heq | ⟨hmem, -⟩
        · exact .inr ⟨heq.symm, hkind⟩
        · exact .inl hmem
      · by_cases heq : stream = frame.streamId
        · exact Table.mem_insert.mpr (.inl heq)
        · exact Table.mem_insert.mpr (.inr ⟨hmem.resolve_right fun hlast => heq hlast.1.symm, heq⟩)
    next hkind => exact ⟨.inl, fun hmem => hmem.resolve_right fun hlast => hkind hlast.2⟩
  · intro stream
    show ((((relay.sequences.put frame.streamId frame.sequence).lookup stream).map
      Sequence.saturatingNext).getD 0).val = _
    rw [Map.lookup_put, framesOf_append]
    by_cases hstr : stream = frame.streamId
    · subst hstr
      rw [if_pos rfl, if_pos rfl, Option.map_some, Option.getD_some,
        Sequence.saturatingNext, dif_pos (by omega), ← hseq]
    · rw [if_neg hstr, if_neg (Ne.symm hstr)]
      exact h.next stream
  · intro stream
    rw [framesOf_append]
    have hstr := h.below stream
    split
    next heq =>
      subst heq
      omega
    · omega

/-- `ended.len() == allowed_streams.len()` -/
theorem Tracks.all_ended (h : Tracks allowed frames relay) :
    relay.ended.rows.length = allowed.rows.length ↔ allowed.rows.all (hasEnded frames) = true := by
  have hsubs : relay.ended.rows ⊆ allowed.rows := by
    intro stream hmem
    obtain ⟨frame, hfra, hend⟩ := List.any_eq_true.mp ((h.ended stream).mp hmem)
    have hstr : frame.streamId = stream := of_decide_eq_true (Bool.and_eq_true_iff.mp hend).1
    exact hstr ▸ h.assigned frame hfra
  have hsub := (Table.rows_nodup relay.ended).subperm hsubs
  rw [List.all_eq_true]
  refine ⟨fun hlen stream hmem => ?_, fun hall => ?_⟩
  · have hperm := hsub.perm_of_length_le (Nat.le_of_eq hlen.symm)
    exact (h.ended stream).mp (hperm.mem_iff.mpr hmem)
  · refine Nat.le_antisymm hsub.length_le ?_
    refine ((Table.rows_nodup allowed).subperm fun stream hmem => ?_).length_le
    exact (h.ended stream).mpr (hall stream hmem)

variable {attachment : AgentDataAttachment} {relay : Relay}

theorem checkFrame_ok (h : Tracks attachment.allowedStreams frames relay) :
    attachment.checkFrame relay encoded = .ok frame ↔ DataFrame.decode encoded = .ok frame ∧
        isNext attachment.allowedStreams frames frame = true := by
  unfold AgentDataAttachment.checkFrame
  rw [bind_ok_iff]
  constructor
  · intro hok
    obtain ⟨other, hdec, hok⟩ := hok
    obtain ⟨_, hass, hok⟩ := bind_ok hok
    obtain ⟨_, hkind, hok⟩ := bind_ok hok
    obtain ⟨_, hseq, hok⟩ := bind_ok hok
    cases hok
    have hseq : frame.sequence = relay.nextSequence frame.streamId :=
      of_decide_eq_true (ensure_ok hseq)
    refine ⟨mapError_ok_iff.mp hdec, isNext_iff.mpr ⟨?_, ensure_ok hkind, ?_⟩⟩
    · exact Keys.contains_iff_mem.mp (ensure_ok hass)
    · rw [hseq, h.next]
  · intro hok
    obtain ⟨hass, hkind, hseq⟩ := isNext_iff.mp hok.2
    refine ⟨frame, mapError_ok_iff.mpr hok.1, ?_⟩
    refine bind_ok_iff.mpr ⟨(), ensure_ok_iff.mpr (Keys.contains_iff_mem.mpr hass), ?_⟩
    refine bind_ok_iff.mpr ⟨(), ensure_ok_iff.mpr hkind, ?_⟩
    refine bind_ok_iff.mpr ⟨(), ensure_ok_iff.mpr (decide_eq_true ?_), rfl⟩
    exact Fin.ext (hseq.trans (h.next _).symm)

theorem length_sequenceText (sequence : Sequence) : (toString sequence.val).length ≤ 20 :=
  Bytes.length_toString_le (by decide) (Nat.lt_trans sequence.isLt (by decide))

theorem length_streamText (stream : StreamId) : (toString stream.val).length ≤ 20 :=
  Bytes.length_toString_le (by decide) (Nat.lt_trans stream.isLt (by decide))

/-- What a session ends with for a frame that does not pass is short. -/
theorem checkFrame_error (hsize : encoded.length < 18446744073709551616)
    {message : String} (h : attachment.checkFrame relay encoded = .error message) :
    message.length ≤ 16100 := by
  unfold AgentDataAttachment.checkFrame at h
  rcases bind_error h with herr | ⟨frame, -, h⟩
  · obtain ⟨inner, hdec, rfl⟩ := mapError_error_iff.mp herr
    have hinn := DataFrame.decode_error (Nat.lt_trans hsize (by decide)) hdec
    rw [String.length_append]
    have htext : "node sent an invalid data frame: ".length ≤ 100 := by decide
    omega
  rcases bind_error h with herr | ⟨_, -, h⟩
  · rw [← (ensure_error herr).2, String.length_append]
    have hdig := length_streamText frame.streamId
    have htext : "node sent unassigned stream ID ".length ≤ 100 := by decide
    omega
  rcases bind_error h with herr | ⟨_, -, h⟩
  · rw [← (ensure_error herr).2]
    cases frame.kind <;> decide
  rcases bind_error h with herr | ⟨_, -, h⟩
  · rw [← (ensure_error herr).2]
    have hstr := length_streamText frame.streamId
    have hseq := length_sequenceText frame.sequence
    have hexp := length_sequenceText (relay.nextSequence frame.streamId)
    have htext : "stream ".length + " sequence ".length + " arrived; expected ".length ≤ 100 := by
      decide
    simp only [String.length_append]
    omega
  · cases h

/-! ## The loop over the messages -/

/-- How the loop ends, when `frames` are the orderly frames of the agent. -/
inductive Relayed (allowed : Keys StreamId) (room : Option Nat) (ending : SessionEnd)
    (frames : List DataFrame) : Relay × Option String → Prop
  | disconnected {relay : Relay} {error : String} (h : Tracks allowed frames relay)
      (hroom : room.all (frames.length ≤ ·) = true) (hshort : error.length ≤ 16100) :
      Relayed allowed room ending frames (relay, some error)
  | finished {relay : Relay} (h : Tracks allowed frames relay)
      (hroom : room.all (frames.length ≤ ·) = true)
      (hall : allowed.rows.all (hasEnded frames) = true) :
      Relayed allowed room ending frames (relay, none)
  | cancelled {relay : Relay} (h : Tracks allowed frames relay)
      (hroom : room.all (frames.length ≤ ·) = true) (hending : ending = .cancelled) :
      Relayed allowed room ending frames (relay, none)
  | closed {relay : Relay} {limit : Nat} (hroom : room = some limit)
      (h : InSequence allowed relay.forwarded (frames.take limit)) :
      Relayed allowed room ending frames (relay, none)

theorem orderlyFrames_extends (allowed : Keys StreamId) (messages : List SocketMessage)
    (before : List DataFrame) : before <+: orderlyFrames allowed before messages := by
  induction messages generalizing before with
  | nil => exact List.prefix_rfl
  | cons message messages ih =>
    cases message with
    | other => exact ih before
    | binary encoded size =>
      unfold orderlyFrames
      split
      · exact List.prefix_rfl
      next frame _ =>
        split
        · split
          · exact List.prefix_append ..
          · exact (List.prefix_append ..).trans (ih (before ++ [frame]))
        · exact List.prefix_rfl

/-- **The loop** forwards the orderly frames, as far as the client takes them. -/
theorem relayFrames_spec (room : Option Nat) (ending : SessionEnd)
    (hbel : SequencesBelowMax messages) {before : List DataFrame}
    (h : Tracks attachment.allowedStreams before relay)
    (hroom : room.all (before.length ≤ ·) = true) :
    Relayed attachment.allowedStreams room ending
      (orderlyFrames attachment.allowedStreams before messages)
      (attachment.relayFrames room ending messages relay) := by
  induction messages generalizing relay before with
  | nil =>
    unfold AgentDataAttachment.relayFrames orderlyFrames
    cases ending with
    | closed => exact .disconnected h hroom (by decide)
    | failed error =>
      refine .disconnected h hroom ?_
      rw [String.length_append]
      have hsho := error.short
      have htext : "node data stream failed: ".length ≤ 100 := by decide
      omega
    | cancelled => exact .cancelled h hroom rfl
  | cons message messages ih =>
    have hbel' : SequencesBelowMax messages :=
      fun encoded size hmem => hbel encoded size (List.mem_cons_of_mem _ hmem)
    cases message with
    | other => exact ih hbel' h hroom
    | binary encoded size =>
      unfold AgentDataAttachment.relayFrames
      split
      next message hche =>
        -- the message is not the next frame of a stream
        have hstop : orderlyFrames attachment.allowedStreams before
            (.binary encoded size :: messages) = before := by
          unfold orderlyFrames
          split
          · rfl
          next frame hdec =>
            refine if_neg fun hnext => ?_
            rw [(checkFrame_ok h).mpr ⟨hdec, hnext⟩] at hche
            cases hche
        rw [hstop]
        exact .disconnected h hroom (checkFrame_error size hche)
      next frame hche =>
        obtain ⟨hdec, hnext⟩ := (checkFrame_ok h).mp hche
        have hfra : orderlyFrames attachment.allowedStreams before
            (.binary encoded size :: messages)
            = if attachment.allowedStreams.rows.all (hasEnded (before ++ [frame])) then
                before ++ [frame]
              else orderlyFrames attachment.allowedStreams (before ++ [frame]) messages := by
          rw [orderlyFrames, hdec]
          exact if_pos hnext
        have hfor := h.forward hdec hnext (hbel encoded size List.mem_cons_self frame hdec)
        have hleng : (relay.note frame).forwarded.length = before.length := by
          show relay.forwarded.length = _
          simpa using congrArg List.length h.decoded
        unfold Relay.send
        rw [hleng]
        by_cases hfull : room.any (· ≤ before.length) = true
        · -- the channel is closed
          rw [if_pos hfull]
          obtain ⟨limit, rfl, hle⟩ := (Option.any_eq_true _ _).mp hfull
          have hlim : limit = before.length :=
            Nat.le_antisymm (of_decide_eq_true hle) (of_decide_eq_true hroom)
          refine .closed rfl ?_
          have htake : (orderlyFrames attachment.allowedStreams before
              (.binary encoded size :: messages)).take limit = before := by
            rw [hlim]
            exact List.prefix_iff_eq_take.mp (orderlyFrames_extends _ _ _) |>.symm
          rw [htake]
          exact h.toInSequence
        · rw [if_neg hfull]
          have hroom' : room.all ((before ++ [frame]).length ≤ ·) = true := by
            cases room with
            | none => rfl
            | some limit =>
              have hlim : ¬ limit ≤ before.length := by simpa using hfull
              simp only [Option.all_some, List.length_append, List.length_singleton,
                decide_eq_true_eq]
              omega
          dsimp only
          by_cases hall : attachment.allowedStreams.rows.all (hasEnded (before ++ [frame])) = true
          · rw [if_pos (hfor.all_ended.mpr hall), hfra, if_pos hall]
            exact .finished hfor hroom' hall
          · rw [if_neg fun hlen => hall (hfor.all_ended.mp hlen), hfra, if_neg hall]
            exact ih hbel' hfor hroom'

/-! ## The end of a session -/

/-- A frame is sent, unless the client is gone. -/
theorem sendFrame_spec (room : Option Nat) (relay : Relay) (frame : DataFrame)
    (hfits : frame.payload.length ≤ maxDataPayloadBytes) :
    (room.isSome = true ∧ relay.sendFrame room frame = none) ∨
      ∃ encoded, DataFrame.decode encoded = .ok frame ∧
        relay.sendFrame room frame
          = some { relay with forwarded := relay.forwarded ++ [encoded] } := by
  have henc : frame.encode = .ok frame.bytes :=
    bind_ok_iff.mpr ⟨(), ensure_ok_iff.mpr (decide_eq_true hfits), rfl⟩
  unfold Relay.sendFrame Relay.send
  rw [henc]
  dsimp only
  by_cases hfull : room.any (· ≤ relay.forwarded.length) = true
  · rw [if_pos hfull]
    obtain ⟨limit, rfl, -⟩ := (Option.any_eq_true _ _).mp hfull
    exact .inl ⟨rfl, rfl⟩
  · rw [if_neg hfull]
    exact .inr ⟨frame.bytes, DataFrame.decode_encode henc, rfl⟩

/-- A stream that gets an error and an end: assigned, open, and with room for both. -/
structure Closable (allowed : Keys StreamId) (relay : Relay) (sent : List DataFrame)
    (stream : StreamId) : Prop where
  assigned : stream ∈ allowed
  isOpen : hasEnded sent stream = false
  next : (relay.nextSequence stream).val = framesOf sent stream
  below : framesOf sent stream + 1 < 18446744073709551616

theorem Closable.other {relay' : Relay} {sent : List DataFrame}
    (h : Closable allowed relay sent stream) (hoth : frame.streamId ≠ stream)
    (hseq : relay'.sequences = relay.sequences) :
    Closable allowed relay' (sent ++ [frame]) stream := by
  have hcou : framesOf (sent ++ [frame]) stream = framesOf sent stream := by
    rw [framesOf_append, if_neg hoth, Nat.add_zero]
  refine ⟨h.assigned, ?_, ?_, ?_⟩
  · rw [hasEnded_append, h.isOpen]
    simp [hasEnded, hoth]
  · rw [hcou, ← h.next]
    unfold Relay.nextSequence
    rw [hseq]
  · rw [hcou]
    exact h.below

/-- What is sent at the end of a session continues the streams; if nothing followed an end
before, nothing does now; and if the client stays, every stream ends. -/
theorem closeStreams_spec (room : Option Nat) {error : String} (hsho : error.length ≤ 16100)
    {streams : List StreamId} (hnod : streams.Nodup) {relay : Relay} {sent : List DataFrame}
    (h : InSequence allowed relay.forwarded sent)
    (hstre : ∀ stream ∈ streams, Closable allowed relay sent stream) :
    ∃ rest, InSequence allowed (closeStreams room error streams relay).forwarded (sent ++ rest) ∧
      (Quiet sent → Quiet (sent ++ rest)) ∧
      (room.isSome = false → ∀ stream ∈ streams, hasEnded (sent ++ rest) stream = true) := by
  induction streams generalizing relay sent with
  | nil =>
    refine ⟨[], ?_, ?_, fun _ _ hmem => absurd hmem List.not_mem_nil⟩
    · rw [List.append_nil]
      exact h
    · rw [List.append_nil]
      exact id
  | cons stream streams ih =>
    obtain ⟨hnot, hnod⟩ := List.nodup_cons.mp hnod
    have hoth : ∀ other ∈ streams, stream ≠ other := fun other hmem heq => hnot (heq ▸ hmem)
    have hstr := hstre stream List.mem_cons_self
    have hfits : (DataFrame.failure stream (relay.nextSequence stream) error).payload.length
        ≤ maxDataPayloadBytes := by
      have hbyt := Bytes.length_utf8_le error
      show (Bytes.utf8 error).length ≤ 65536
      omega
    have hsuc : (relay.nextSequence stream + 1).val = framesOf sent stream + 1 := by
      have hbel := hstr.below
      rw [Fin.val_add, hstr.next]
      exact Nat.mod_eq_of_lt hbel
    unfold closeStreams
    dsimp only
    rcases sendFrame_spec room relay _ hfits with ⟨hgone, hsend⟩ | ⟨failed, hfai, hsend⟩
    · -- the client is gone
      rw [hsend]
      refine ⟨[], ?_, ?_, fun hroom => ?_⟩
      · rw [List.append_nil]
        exact h
      · rw [List.append_nil]
        exact id
      · rw [hgone] at hroom
        cases hroom
    · rw [hsend]
      dsimp only
      have h' := h.append hfai hstr.assigned hstr.next
      have hopen : hasEnded (sent ++ [.failure stream (relay.nextSequence stream) error]) stream
          = false := by
        rw [hasEnded_append, hstr.isOpen]
        simp [hasEnded, DataFrame.failure]
      have hcou : framesOf (sent ++ [.failure stream (relay.nextSequence stream) error]) stream
          = framesOf sent stream + 1 := by
        rw [framesOf_append]
        exact if_pos rfl ▸ rfl
      have hrest : ∀ other ∈ streams, Closable allowed
          { relay with forwarded := relay.forwarded ++ [failed] }
          (sent ++ [.failure stream (relay.nextSequence stream) error]) other := fun other hmem =>
        (hstre other (List.mem_cons_of_mem _ hmem)).other (hoth other hmem) rfl
      rcases sendFrame_spec room { relay with forwarded := relay.forwarded ++ [failed] }
          (.ending stream (relay.nextSequence stream + 1)) (Nat.zero_le _)
        with ⟨hgone, hsend'⟩ | ⟨ended, hend, hsend'⟩
      · -- the client went between the two frames
        rw [hsend', Option.getD_none]
        obtain ⟨rest, hsent, hqui, -⟩ := ih hnod h' hrest
        refine ⟨.failure stream (relay.nextSequence stream) error :: rest, ?_, fun hq => ?_,
          fun hroom => ?_⟩
        · rw [List.append_cons sent]
          exact hsent
        · rw [List.append_cons sent]
          exact hqui (hq.append hstr.isOpen)
        · rw [hgone] at hroom
          cases hroom
      · rw [hsend', Option.getD_some]
        have h'' := h'.append hend hstr.assigned (hsuc.trans hcou.symm)
        have hrest' : ∀ other ∈ streams, Closable allowed
            { relay with forwarded := relay.forwarded ++ [failed] ++ [ended] }
            (sent ++ [.failure stream (relay.nextSequence stream) error]
              ++ [.ending stream (relay.nextSequence stream + 1)]) other :=
          fun other hmem => (hrest other hmem).other (hoth other hmem) rfl
        obtain ⟨rest, hsent, hqui, hclo⟩ := @ih hnod
          { relay with forwarded := relay.forwarded ++ [failed] ++ [ended] } _ h'' hrest'
        refine ⟨.failure stream (relay.nextSequence stream) error ::
          .ending stream (relay.nextSequence stream + 1) :: rest, ?_, fun hq => ?_,
          fun hroom other hmem => ?_⟩
        · rw [List.append_cons sent, List.append_cons (sent ++ _)]
          exact hsent
        · rw [List.append_cons sent, List.append_cons (sent ++ _)]
          exact hqui ((hq.append hstr.isOpen).append hopen)
        · rw [List.append_cons sent, List.append_cons (sent ++ _)]
          rcases List.mem_cons.mp hmem with rfl | hmem
          · rw [hasEnded_append, hasEnded_append]
            simp [hasEnded, DataFrame.ending]
          · exact hclo hroom other hmem

/-! ## The session -/

theorem within_of_fits {room : Option Nat} (h : room.all (frames.length ≤ ·) = true) :
    within room frames = frames := by
  cases room with
  | none => rfl
  | some limit => exact List.take_of_length_le (of_decide_eq_true h)

/-- Everything sent: the orderly frames the client takes, and what closes the streams. -/
theorem serve_spec (attachment : AgentDataAttachment) (room : Option Nat) (ending : SessionEnd)
    (hbel : SequencesBelowMax messages) :
    ∃ rest, InSequence attachment.allowedStreams (attachment.serve room messages ending)
        (within room (orderlyFrames attachment.allowedStreams [] messages) ++ rest) ∧
      (Quiet (within room (orderlyFrames attachment.allowedStreams [] messages)) →
        Quiet (within room (orderlyFrames attachment.allowedStreams [] messages) ++ rest)) ∧
      (¬ (ending = .cancelled ∨ room.isSome = true) → ∀ stream ∈ attachment.allowedStreams,
        hasEnded (within room (orderlyFrames attachment.allowedStreams [] messages) ++ rest) stream
          = true) := by
  have hroom : room.all (([] : List DataFrame).length ≤ ·) = true := by
    cases room <;> simp
  have hspec := relayFrames_spec room ending hbel (Tracks.start attachment.allowedStreams) hroom
  unfold AgentDataAttachment.serve
  generalize orderlyFrames attachment.allowedStreams [] messages = frames at hspec ⊢
  generalize attachment.relayFrames room ending messages {} = out at hspec
  cases hspec with
  | @disconnected relay error h hroom hsho =>
    rw [within_of_fits hroom]
    dsimp only
    have hstr : ∀ stream ∈ attachment.allowedStreams.rows.filter fun stream =>
        !relay.ended.contains stream, Closable attachment.allowedStreams relay frames stream := by
      intro stream hmem
      obtain ⟨hmem, hende⟩ := List.mem_filter.mp hmem
      refine ⟨hmem, ?_, h.next stream, h.below stream⟩
      rw [Bool.eq_false_iff]
      intro hhas
      rw [Keys.contains_iff_mem.mpr ((h.ended stream).mpr hhas)] at hende
      cases hende
    obtain ⟨rest, hsent, hqui, hclo⟩ := closeStreams_spec room hsho
      ((Table.rows_nodup _).filter _) h.toInSequence hstr
    refine ⟨rest, hsent, hqui, fun hcut stream hmem => ?_⟩
    by_cases hhas : hasEnded frames stream = true
    · rw [hasEnded_append, hhas, Bool.true_or]
    · refine hclo ?_ stream (List.mem_filter.mpr ⟨hmem, ?_⟩)
      · rw [Bool.eq_false_iff]
        exact fun hsome => hcut (.inr hsome)
      · rw [Bool.not_eq_true', Bool.eq_false_iff]
        exact fun hcon => hhas ((h.ended stream).mp (Keys.contains_iff_mem.mp hcon))
  | finished h hroom hall =>
    rw [within_of_fits hroom]
    refine ⟨[], ?_, ?_, fun _ stream hmem => ?_⟩
    · rw [List.append_nil]
      exact h.toInSequence
    · rw [List.append_nil]
      exact id
    · rw [List.append_nil]
      exact List.all_eq_true.mp hall stream hmem
  | cancelled h hroom hend =>
    rw [within_of_fits hroom]
    refine ⟨[], ?_, ?_, fun hcut => absurd (.inl hend) hcut⟩
    · rw [List.append_nil]
      exact h.toInSequence
    · rw [List.append_nil]
      exact id
  | closed hroom h =>
    subst hroom
    refine ⟨[], ?_, ?_, fun hcut => absurd (.inr rfl) hcut⟩
    · rw [List.append_nil]
      exact h
    · rw [List.append_nil]
      exact id

theorem WellFormed.quiet {room : Option Nat} {ending : SessionEnd}
    (hbel : SequencesBelowMax messages) {cut : Prop}
    (h : WellFormed attachment.allowedStreams (attachment.serve room messages ending) cut) :
    Quiet (within room (orderlyFrames attachment.allowedStreams [] messages)) := by
  obtain ⟨rest, hsent, -, -⟩ := serve_spec attachment room ending hbel
  obtain ⟨frames, hfra, hqui, -⟩ := h
  have hsame := List.map_injective_iff.mpr (fun _ _ heq => Except.ok.inj heq)
    (hfra.decoded.symm.trans hsent.decoded)
  rw [hsame] at hqui
  exact (List.pairwise_append.mp hqui).1

/-- **Data streams.** For every sequence of messages and every end of the session, the client
sees well-formed streams exactly if, among the orderly frames it takes, the agent sent none
after the end of its stream. -/
theorem streams_well_formed (attachment : AgentDataAttachment) (room : Option Nat)
    (messages : List SocketMessage) (ending : SessionEnd) (hbelow : SequencesBelowMax messages) :
    WellFormed attachment.allowedStreams (attachment.serve room messages ending)
        (ending = .cancelled ∨ room.isSome = true) ↔
      Quiet (within room (orderlyFrames attachment.allowedStreams [] messages)) := by
  refine ⟨WellFormed.quiet hbelow, fun hqui => ?_⟩
  obtain ⟨rest, hsent, hrest, hclo⟩ := serve_spec attachment room ending hbelow
  exact ⟨_, hsent, hrest hqui, fun hcut stream hmem =>
    (hrest hqui).one_end (hclo hcut stream hmem)⟩

/-- The messages of an agent that sends these frames. -/
def messagesOf (frames : List { frame : DataFrame // frame.payload.length ≤ 64 }) :
    List SocketMessage :=
  frames.map fun frame => .binary frame.val.bytes (by
    have hlength := frame.val.length_bytes
    have hshort := frame.property
    unfold dataFrameHeaderBytes at hlength
    omega)

theorem messagesOf_below {frames : List { frame : DataFrame // frame.payload.length ≤ 64 }}
    (h : ∀ frame ∈ frames, frame.val.sequence.val + 2 < 18446744073709551616) :
    SequencesBelowMax (messagesOf frames) := by
  intro encoded size hmem frame hdec
  obtain ⟨sent, hsent, heq⟩ := List.mem_map.mp hmem
  cases heq
  have henc : sent.val.encode = .ok sent.val.bytes := bind_ok_iff.mpr ⟨(), ensure_ok_iff.mpr
      (decide_eq_true (Nat.le_trans sent.property (by decide))), rfl⟩
  rw [DataFrame.decode_encode henc] at hdec
  cases hdec
  exact h sent hsent

def twoStreams : AgentDataAttachment := { allowedStreams := Keys.ofElems [1, 2] }

/-- An end of the first stream, a frame of the second. -/
def endThenOther : List SocketMessage :=
  messagesOf [⟨.ending 1 0, by decide⟩, ⟨.failure 2 0 "gone", by decide⟩]

theorem streams_well_formed_closed :
    SequencesBelowMax endThenOther ∧
      WellFormed twoStreams.allowedStreams (twoStreams.serve none endThenOther .closed)
        (SessionEnd.closed = .cancelled ∨ (none : Option Nat).isSome = true) := by
  have hbel : SequencesBelowMax endThenOther := messagesOf_below (by decide)
  exact ⟨hbel, (streams_well_formed twoStreams none endThenOther .closed hbel).mpr
    (by decide +kernel)⟩

/-- An end of the first stream, and one more frame of it. -/
def endThenSame : List SocketMessage :=
  messagesOf [⟨.ending 1 0, by decide⟩, ⟨.failure 1 1 "gone", by decide⟩]

/-- The second stream is open, so the frame after the end is forwarded. -/
theorem frame_after_end :
    SequencesBelowMax endThenSame ∧
      ¬ WellFormed twoStreams.allowedStreams (twoStreams.serve none endThenSame .closed)
        (SessionEnd.closed = .cancelled ∨ (none : Option Nat).isSome = true) := by
  have hbel : SequencesBelowMax endThenSame := messagesOf_below (by decide)
  refine ⟨hbel, fun hwell => ?_⟩
  exact absurd (WellFormed.quiet hbel hwell) (by decide +kernel)

end Swarmlite
