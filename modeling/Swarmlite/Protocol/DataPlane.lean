import Swarmlite.Lib.Bytes
import Swarmlite.Lib.Loop

/-!
# Data frames — `swarmlite-protocol/src/data_plane.rs`

The binary messages of a data session. A frame has a header of sixteen bytes — version, kind,
channel, flags, stream id and sequence number — and a payload of at most 64 KiB.

**`DataFrame.decode_encode`**: a frame that encodes reads back as itself.

Mirroring notes:
- Stream ids are `u32` and sequence numbers `u64`, that is numbers below a bound.
- `encoded[i]` is read after the length was checked.
-/

namespace Swarmlite

open Loop

def dataProtocolVersion : UInt8 := 1
def dataFrameHeaderBytes : Nat := 16
def maxDataPayloadBytes : Nat := 65536
def maxDataFrameBytes : Nat := dataFrameHeaderBytes + maxDataPayloadBytes

abbrev StreamId := Fin 4294967296

abbrev Sequence := Fin 18446744073709551616

/-- `saturating_add(1)` -/
def Sequence.saturatingNext (sequence : Sequence) : Sequence :=
  if h : sequence.val + 1 < 18446744073709551616 then ⟨sequence.val + 1, h⟩ else sequence

inductive DataFrameKind where
  | data
  | end
  | error
  | windowUpdate
  | resize
  | signal
deriving DecidableEq

namespace DataFrameKind

def byte : DataFrameKind → UInt8
  | .data => 1
  | .end => 2
  | .error => 3
  | .windowUpdate => 4
  | .resize => 5
  | .signal => 6

def ofByte (value : UInt8) : Except String DataFrameKind :=
  match value.toNat with
  | 1 => .ok .data
  | 2 => .ok .end
  | 3 => .ok .error
  | 4 => .ok .windowUpdate
  | 5 => .ok .resize
  | 6 => .ok .signal
  | value => .error ("unknown data frame type " ++ toString value)

theorem ofByte_byte (kind : DataFrameKind) : ofByte kind.byte = .ok kind := by
  cases kind <;> rfl

theorem byte_ofByte {value : UInt8} {kind : DataFrameKind}
    (h : ofByte value = .ok kind) : kind.byte = value := by
  unfold ofByte at h
  split at h
  case h_7 => cases h
  all_goals
    cases h
    exact UInt8.toNat.inj (Eq.symm ‹_›)

/-- `{:?}`. -/
def debug : DataFrameKind → String
  | .data => "Data"
  | .end => "End"
  | .error => "Error"
  | .windowUpdate => "WindowUpdate"
  | .resize => "Resize"
  | .signal => "Signal"

end DataFrameKind

inductive DataChannel where
  | stdout
  | stderr
  | stdin
  | console
  | system
deriving DecidableEq

namespace DataChannel

def byte : DataChannel → UInt8
  | .stdout => 1
  | .stderr => 2
  | .stdin => 3
  | .console => 4
  | .system => 5

def ofByte (value : UInt8) : Except String DataChannel :=
  match value.toNat with
  | 1 => .ok .stdout
  | 2 => .ok .stderr
  | 3 => .ok .stdin
  | 4 => .ok .console
  | 5 => .ok .system
  | value => .error ("unknown data frame channel " ++ toString value)

theorem ofByte_byte (channel : DataChannel) : ofByte channel.byte = .ok channel := by
  cases channel <;> rfl

theorem byte_ofByte {value : UInt8} {channel : DataChannel}
    (h : ofByte value = .ok channel) : channel.byte = value := by
  unfold ofByte at h
  split at h
  case h_6 => cases h
  all_goals
    cases h
    exact UInt8.toNat.inj (Eq.symm ‹_›)

end DataChannel

structure DataFrame where
  kind : DataFrameKind
  channel : DataChannel
  flags : UInt8
  streamId : StreamId
  sequence : Sequence
  payload : List UInt8
deriving DecidableEq

namespace DataFrame

/-- `DataFrame::end` -/
def ending (streamId : StreamId) (sequence : Sequence) : DataFrame :=
  { kind := .end, channel := .system, flags := 0, streamId, sequence, payload := [] }

/-- `DataFrame::error` -/
def failure (streamId : StreamId) (sequence : Sequence) (message : String) : DataFrame :=
  { kind := .error, channel := .system, flags := 0, streamId, sequence
    payload := Bytes.utf8 message }

/-- Header and payload, in wire order. -/
def bytes (frame : DataFrame) : List UInt8 :=
  [dataProtocolVersion, frame.kind.byte, frame.channel.byte, frame.flags]
    ++ (Bytes.toBe 4 frame.streamId ++ (Bytes.toBe 8 frame.sequence ++ frame.payload))

theorem length_bytes (frame : DataFrame) :
    frame.bytes.length = dataFrameHeaderBytes + frame.payload.length := by
  unfold bytes dataFrameHeaderBytes
  simp only [List.length_append, List.length_cons, List.length_nil, Bytes.length_toBe]
  omega

theorem bytes_stream (frame : DataFrame) :
    Bytes.ofBe ((frame.bytes.drop 4).take 4) = frame.streamId.val := by
  have hbyt : (frame.bytes.drop 4).take 4 = Bytes.toBe 4 frame.streamId :=
    List.take_left' (Bytes.length_toBe 4 _)
  rw [hbyt, Bytes.ofBe_toBe frame.streamId.isLt]

theorem bytes_sequence (frame : DataFrame) :
    Bytes.ofBe ((frame.bytes.drop 8).take 8) = frame.sequence.val := by
  have hdrop : frame.bytes.drop 8 = Bytes.toBe 8 frame.sequence ++ frame.payload := by
    show (Bytes.toBe 4 frame.streamId ++ _).drop 4 = _
    exact List.drop_left' (Bytes.length_toBe 4 _)
  rw [hdrop, List.take_left' (Bytes.length_toBe 8 _), Bytes.ofBe_toBe frame.sequence.isLt]

theorem bytes_payload (frame : DataFrame) :
    frame.bytes.drop dataFrameHeaderBytes = frame.payload := by
  show (Bytes.toBe 4 frame.streamId ++ (Bytes.toBe 8 frame.sequence ++ frame.payload)).drop 12 = _
  rw [← List.append_assoc]
  refine List.drop_left' ?_
  rw [List.length_append, Bytes.length_toBe, Bytes.length_toBe]

def encode (frame : DataFrame) : Except String (List UInt8) := do
  ensure (frame.payload.length ≤ maxDataPayloadBytes)
    ("data frame payload is " ++ toString frame.payload.length ++ " bytes; maximum is "
      ++ toString maxDataPayloadBytes)
  return frame.bytes

def decode (encoded : List UInt8) : Except String DataFrame := do
  ensure (dataFrameHeaderBytes ≤ encoded.length) "data frame is shorter than its 16-byte header"
  ensure (encoded.length ≤ maxDataFrameBytes)
    ("data frame is " ++ toString encoded.length ++ " bytes; maximum is "
      ++ toString maxDataFrameBytes)
  ensure (encoded.getD 0 0 = dataProtocolVersion)
    ("unsupported data protocol version " ++ toString (encoded.getD 0 0).toNat ++ "; expected "
      ++ toString dataProtocolVersion.toNat)
  let kind ← DataFrameKind.ofByte (encoded.getD 1 0)
  let channel ← DataChannel.ofByte (encoded.getD 2 0)
  return {
    kind, channel
    flags := encoded.getD 3 0
    streamId := ⟨Bytes.ofBe ((encoded.drop 4).take 4), Bytes.ofBe_take_lt 4 _⟩
    sequence := ⟨Bytes.ofBe ((encoded.drop 8).take 8), Bytes.ofBe_take_lt 8 _⟩
    payload := encoded.drop dataFrameHeaderBytes }

/-- **Round trip.** -/
theorem decode_encode {frame : DataFrame} {encoded : List UInt8}
    (h : frame.encode = .ok encoded) : decode encoded = .ok frame := by
  unfold encode at h
  obtain ⟨_, hfits, h⟩ := bind_ok h
  have hfits := of_decide_eq_true (ensure_ok hfits)
  cases h
  have hlen := frame.length_bytes
  refine bind_ok_iff.mpr ⟨(), ensure_ok_iff.mpr (decide_eq_true (by omega)), ?_⟩
  refine bind_ok_iff.mpr ⟨(), ensure_ok_iff.mpr (decide_eq_true ?_), ?_⟩
  · unfold maxDataFrameBytes
    omega
  refine bind_ok_iff.mpr ⟨(), ensure_ok_iff.mpr (decide_eq_true rfl), ?_⟩
  refine bind_ok_iff.mpr ⟨frame.kind, DataFrameKind.ofByte_byte frame.kind, ?_⟩
  refine bind_ok_iff.mpr ⟨frame.channel, DataChannel.ofByte_byte frame.channel, ?_⟩
  simp only [bytes_stream, bytes_sequence, bytes_payload]
  rfl

theorem length_byteText (byte : UInt8) : (toString byte.toNat).length ≤ 3 :=
  Bytes.length_toString_le (by decide) (Nat.lt_trans byte.toNat_lt (by decide))

theorem length_unknownByte {text : String} (h : text.length ≤ 80) (byte : UInt8) :
    (text ++ toString byte.toNat).length ≤ 100 := by
  have hdig := length_byteText byte
  rw [String.length_append]
  omega

theorem kind_error {value : UInt8} {message : String}
    (h : DataFrameKind.ofByte value = .error message) : message.length ≤ 100 := by
  unfold DataFrameKind.ofByte at h
  split at h
  case h_7 => exact Except.error.inj h ▸ length_unknownByte (by decide) value
  all_goals cases h

theorem channel_error {value : UInt8} {message : String}
    (h : DataChannel.ofByte value = .error message) : message.length ≤ 100 := by
  unfold DataChannel.ofByte at h
  split at h
  case h_6 => exact Except.error.inj h ▸ length_unknownByte (by decide) value
  all_goals cases h

/-- What is said about a message that is no frame is short. -/
theorem decode_error {encoded : List UInt8} (hsize : encoded.length < 10 ^ 20) {message : String}
    (h : decode encoded = .error message) : message.length ≤ 100 := by
  unfold decode at h
  rcases bind_error h with herr | ⟨_, -, h⟩
  · rw [← (ensure_error herr).2]
    decide
  rcases bind_error h with herr | ⟨_, -, h⟩
  · rw [← (ensure_error herr).2]
    have hdig : (toString encoded.length).length ≤ 20 := Bytes.length_toString_le (by decide) hsize
    simp only [String.length_append]
    have htext : "data frame is ".length + " bytes; maximum is ".length
      + (toString maxDataFrameBytes).length ≤ 80 := by decide
    omega
  rcases bind_error h with herr | ⟨_, -, h⟩
  · rw [← (ensure_error herr).2]
    have hdig := length_byteText (encoded.getD 0 0)
    simp only [String.length_append]
    have htext : "unsupported data protocol version ".length + "; expected ".length
      + (toString dataProtocolVersion.toNat).length ≤ 80 := by decide
    omega
  rcases bind_error h with herr | ⟨_, -, h⟩
  · exact kind_error herr
  rcases bind_error h with herr | ⟨_, -, h⟩
  · exact channel_error herr
  · cases h

end DataFrame

/-- **Frames and their encodings correspond.** What is accepted is the encoding of what it is
read as, so no two messages mean the same frame. -/
theorem frame_codec_exact (encoded : List UInt8) (frame : DataFrame) :
    DataFrame.decode encoded = .ok frame ↔ frame.encode = .ok encoded := by
  refine ⟨fun h => ?_, DataFrame.decode_encode⟩
  unfold DataFrame.decode at h
  obtain ⟨_, hmin, h⟩ := bind_ok h
  obtain ⟨_, hmax, h⟩ := bind_ok h
  obtain ⟨_, hver, h⟩ := bind_ok h
  obtain ⟨kind, hkind, h⟩ := bind_ok h
  obtain ⟨channel, hchan, h⟩ := bind_ok h
  cases h
  have hmin : 16 ≤ encoded.length := of_decide_eq_true (ensure_ok hmin)
  have hmax : encoded.length ≤ 16 + 65536 := of_decide_eq_true (ensure_ok hmax)
  have hver := of_decide_eq_true (ensure_ok hver)
  refine bind_ok_iff.mpr ⟨(), ensure_ok_iff.mpr (decide_eq_true ?_), congrArg Except.ok ?_⟩
  · show (encoded.drop 16).length ≤ 65536
    rw [List.length_drop]
    omega
  -- the header has its four single bytes, so the rest is what `drop 4` says
  match encoded, hmin with
  | version :: k :: c :: flags :: rest, hmin =>
    obtain rfl : version = dataProtocolVersion := hver
    simp only [List.length_cons] at hmin
    unfold DataFrame.bytes
    rw [DataFrameKind.byte_ofByte hkind, DataChannel.byte_ofByte hchan]
    show _ :: k :: c :: flags :: (Bytes.toBe 4 (Bytes.ofBe (rest.take 4))
      ++ (Bytes.toBe 8 (Bytes.ofBe ((rest.drop 4).take 8)) ++ rest.drop 12)) = _
    rw [Bytes.toBe_ofBe (by rw [List.length_take]; omega),
      Bytes.toBe_ofBe (by rw [List.length_take, List.length_drop]; omega),
      ← List.drop_drop (i := 8) (j := 4), List.take_append_drop, List.take_append_drop]

end Swarmlite
