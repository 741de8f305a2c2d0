import ToxTunnel.FriendGateHint
import ToxTunnel.FrameRoundTrip
import ToxTunnel.EchoingPeer

/-!
The bytes behind the friend gate: its own peek at a packet's header against the
frame decoder, and a fence on its way to the peer, through the peer's codec, and
back into the gate.
-/

namespace ToxTunnel.FenceWire
open CheckedBytes FrameCodec FrameRoundTrip FriendSendGate FriendGateHint

section Peeking

theorem ofBigEndian_pair (high low : UInt8) :
    ofBigEndian [high, low] = high.toNat <<< 8 ||| low.toNat := by
  simp [ofBigEndian]

theorem readU16BE_cons (front : Bytes) (high low : UInt8) (rest : Bytes) {start : Nat}
    (here : front.length = start) :
    readU16BE (front ++ high :: low :: rest) start =
      .ok (UInt16.ofNat (high.toNat <<< 8 ||| low.toNat)) := by
  have cut : sliceAt (front ++ ([high, low] ++ rest)) start 2 = .ok [high, low] :=
    sliceAt_append here rfl
  have cut : sliceAt (front ++ high :: low :: rest) start 2 = .ok [high, low] := cut
  simp only [readU16BE, readBigEndian, cut, bind, Except.bind, pure, Except.pure,
    ofBigEndian_pair]

theorem pair_toNat (high low : UInt8) :
    (UInt16.ofNat (high.toNat <<< 8 ||| low.toNat)).toNat = high.toNat <<< 8 ||| low.toNat := by
  rw [UInt16.toNat_ofNat', shift_byte]
  apply Nat.mod_eq_of_lt
  have := high.toNat_lt
  have := low.toNat_lt
  omega

theorem deserialize_cons (rawType idHigh idLow lengthHigh lengthLow : UInt8) (rest : Bytes) :
    deserialize (rawType :: idHigh :: idLow :: lengthHigh :: lengthLow :: rest) =
      .ok (if rest.length < lengthHigh.toNat <<< 8 ||| lengthLow.toNat then .error .messageSize
        else .ok (.received (.ofRaw rawType) (UInt16.ofNat (idHigh.toNat <<< 8 ||| idLow.toNat))
          (rest.take (lengthHigh.toNat <<< 8 ||| lengthLow.toNat)))) := by
  have header : ¬ (rawType :: idHigh :: idLow :: lengthHigh :: lengthLow :: rest).length <
      kFrameHeaderSize := by
    simp [kFrameHeaderSize]
  have tunnelId : readU16BE (rawType :: idHigh :: idLow :: lengthHigh :: lengthLow :: rest) 1 = _ :=
    readU16BE_cons [rawType] idHigh idLow (lengthHigh :: lengthLow :: rest) rfl
  have payloadLen :
      readU16BE (rawType :: idHigh :: idLow :: lengthHigh :: lengthLow :: rest) 3 = _ :=
    readU16BE_cons [rawType, idHigh, idLow] lengthHigh lengthLow rest rfl
  unfold deserialize
  rw [if_neg header]
  simp only [byteAt_head, tunnelId, payloadLen, pair_toNat, bind, Except.bind, pure, Except.pure]
  generalize lengthHigh.toNat <<< 8 ||| lengthLow.toNat = length
  have total : (rawType :: idHigh :: idLow :: lengthHigh :: lengthLow :: rest).length =
      kFrameHeaderSize + rest.length := by
    simp only [List.length_cons, kFrameHeaderSize]
    omega
  by_cases short : rest.length < length
  · rw [if_pos (by omega), if_pos short]
  · rw [if_neg (by omega), if_neg short]
    simp only [sliceAt, total]
    rw [if_pos (by omega)]
    rfl

theorem deserialize_short {data : Bytes} (short : data.length < kFrameHeaderSize) :
    deserialize data = .ok (.error .messageSize) := by
  rw [deserialize, if_pos short]

theorem decoded_type {data : Bytes} {frame : ProtocolFrame}
    (decoded : deserialize data = .ok (.ok frame)) :
    ∃ rawType, data[0]? = some rawType ∧ frame.frameType = .ofRaw rawType := by
  by_cases short : data.length < kFrameHeaderSize
  · rw [deserialize_short short] at decoded
    cases decoded
  rcases data with _ | ⟨rawType, _ | ⟨idHigh, _ | ⟨idLow, _ | ⟨lengthHigh, _ | ⟨lengthLow, rest⟩⟩⟩⟩⟩
  iterate 5 exact absurd (by simp [kFrameHeaderSize]) short
  rw [deserialize_cons] at decoded
  split at decoded
  · cases decoded
  · cases decoded
    exact ⟨rawType, rfl, (received_same _ _ _).1⟩

/-- The peek sees what the decoder sees, with the type byte as it is. -/
theorem peek_eq_some_iff (packet : Bytes) (peeked : Peek) :
    peek packet = some peeked ↔ ∃ rest frame, packet = kLosslessPacketByte :: rest ∧
      rest[0]? = some peeked.rawType ∧ deserialize rest = .ok (.ok frame) ∧
      frame.frameType = .ofRaw peeked.rawType ∧ frame.tunnelId = peeked.tunnelId ∧
      frame.payload = peeked.payload := by
  rcases packet with _ | ⟨lossless, data⟩
  · simp [peek]
  by_cases short : data.length < kFrameHeaderSize
  · have unseen : peek (lossless :: data) = none := by
      rcases data with _ | ⟨_, _ | ⟨_, _ | ⟨_, _ | ⟨_, _ | ⟨_, rest⟩⟩⟩⟩⟩
      all_goals first
        | rfl
        | simp only [List.length_cons, kFrameHeaderSize] at short
          omega
    rw [unseen]
    constructor
    · rintro ⟨⟩
    · rintro ⟨_, frame, ⟨⟩, _, decoded, _⟩
      rw [deserialize_short short] at decoded
      cases decoded
  rcases data with _ | ⟨rawType, _ | ⟨idHigh, _ | ⟨idLow, _ | ⟨lengthHigh, _ | ⟨lengthLow, rest⟩⟩⟩⟩⟩
  iterate 5 exact absurd (by simp [kFrameHeaderSize]) short
  simp only [peek, List.cons.injEq]
  by_cases refused : lossless ≠ kLosslessPacketByte ∨
      rest.length < lengthHigh.toNat <<< 8 ||| lengthLow.toNat
  · rw [if_pos refused]
    constructor
    · rintro ⟨⟩
    · rintro ⟨_, frame, ⟨same, rfl⟩, _, decoded, _⟩
      rw [deserialize_cons] at decoded
      rcases refused with other | short
      · exact absurd same other
      · rw [if_pos short] at decoded
        cases decoded
  · rw [if_neg refused]
    rw [not_or, not_not] at refused
    obtain ⟨rfl, long⟩ := refused
    have decoded := deserialize_cons rawType idHigh idLow lengthHigh lengthLow rest
    rw [if_neg long] at decoded
    have fields := received_same (.ofRaw rawType) (UInt16.ofNat (idHigh.toNat <<< 8 ||| idLow.toNat))
      (rest.take (lengthHigh.toNat <<< 8 ||| lengthLow.toNat))
    constructor
    · rintro ⟨⟩
      exact ⟨_, _, ⟨rfl, rfl⟩, rfl, decoded, fields⟩
    · rintro ⟨_, frame, ⟨_, rfl⟩, first, again, type_is, id_is, payload_is⟩
      rw [decoded] at again
      cases again
      rw [fields.2.1] at id_is
      rw [fields.2.2] at payload_is
      cases peeked
      simp_all

/-- The gate compares the type byte with types it knows; there the two agree. -/
theorem raw_iff {rawType : UInt8} {frameType : FrameType} (known : frameType ≠ .unknown) :
    rawType = frameType.raw ↔ FrameType.ofRaw rawType = frameType := by
  constructor
  · rintro rfl
    exact FrameType.ofRaw_raw frameType
  · rintro rfl
    unfold FrameType.ofRaw at known ⊢
    repeat' split at known
    all_goals simp_all [FrameType.raw]

end Peeking

section Fences

def kFencePingKind : UInt8 := 0x46
def kFencePayloadSize : Nat := 17

def makeFencePacket (epoch seq : UInt64) : Bytes :=
  [kLosslessPacketByte, FrameType.ping.raw, 0, 0, 0, UInt8.ofNat kFencePayloadSize,
    kFencePingKind] ++ (writeU64BE epoch ++ writeU64BE seq)

/-- What `on_received` takes a packet for; `none` is not a PONG of the control
plane. -/
def readPong (packet : Bytes) : Access (Option Pong) :=
  match peek packet with
  | none => .ok none
  | some peeked =>
      if peeked.rawType ≠ FrameType.pong.raw ∨ peeked.tunnelId ≠ 0 then .ok none
      else if peeked.payload = [] then .ok (some .empty)
      else if peeked.payload.length ≠ kFencePayloadSize ∨
          peeked.payload[0]? ≠ some kFencePingKind then .ok (some .unknown)
      else do
        let epoch ← readU64BE peeked.payload 1
        let seq ← readU64BE peeked.payload 9
        return some (.echo epoch.toBitVec seq.toNat)

/-- The peer's answer to a frame, as a packet. -/
def pongPacket (ping : ProtocolFrame) : Bytes := kLosslessPacketByte :: serialize (makePongFor ping)

/-- The PING the peer decodes from a fence. -/
def fencePing (epoch seq : UInt64) : ProtocolFrame where
  frameType := .ping
  tunnelId := 0
  ownedPayload := kFencePingKind :: (writeU64BE epoch ++ writeU64BE seq)

theorem fencePing_serialized (epoch seq : UInt64) :
    makeFencePacket epoch seq = kLosslessPacketByte :: serialize (fencePing epoch seq) := by
  have payload : (fencePing epoch seq).payload =
      kFencePingKind :: (writeU64BE epoch ++ writeU64BE seq) := rfl
  have length : (fencePing epoch seq).payload.length = kFencePayloadSize := by
    simp [payload, kFencePayloadSize]
  rw [serialize, length, payload]
  have whole : (kFencePingKind :: (writeU64BE epoch ++ writeU64BE seq)).take
      (min kFencePayloadSize kMaxPayloadSize) =
      kFencePingKind :: (writeU64BE epoch ++ writeU64BE seq) := by
    apply List.take_of_length_le
    simp [kFencePayloadSize, kMaxPayloadSize]
  have idBytes : writeU16BE (fencePing epoch seq).tunnelId = [0, 0] := by
    show writeU16BE 0 = [0, 0]
    decide
  have lengthBytes : writeU16BE (UInt16.ofNat (min kFencePayloadSize kMaxPayloadSize)) =
      [0, UInt8.ofNat kFencePayloadSize] := by decide
  rw [whole, idBytes, lengthBytes]
  rfl

theorem fence_decoded (epoch seq : UInt64) :
    deserialize (serialize (fencePing epoch seq)) =
      .ok (.ok (fencePing epoch seq)) := by
  have small : (fencePing epoch seq).payload.length ≤ kMaxPayloadSize := by
    simp [fencePing, ProtocolFrame.payload, kMaxPayloadSize]
  have decoded := deserialize_serialize (fencePing epoch seq) small []
  rw [List.append_nil] at decoded
  rw [decoded]
  rfl

theorem peek_serialized (frame : ProtocolFrame) (fits : frame.payload.length ≤ kMaxPayloadSize) :
    peek (kLosslessPacketByte :: serialize frame) =
      some ⟨frame.frameType.raw, frame.tunnelId, frame.payload⟩ := by
  have decoded := deserialize_serialize frame fits []
  rw [List.append_nil] at decoded
  have fields := received_same frame.frameType frame.tunnelId frame.payload
  rw [peek_eq_some_iff]
  exact ⟨_, _, rfl, rfl, decoded, by rw [fields.1, FrameType.ofRaw_raw], fields.2.1, fields.2.2⟩

theorem fence_payload_words (epoch seq : UInt64) :
    readU64BE (kFencePingKind :: (writeU64BE epoch ++ writeU64BE seq)) 1 = .ok epoch ∧
      readU64BE (kFencePingKind :: (writeU64BE epoch ++ writeU64BE seq)) 9 = .ok seq := by
  constructor
  · exact @readU64BE_append [kFencePingKind] (writeU64BE seq) 1 epoch rfl
  · have last := @readU64BE_append (kFencePingKind :: writeU64BE epoch) [] 9 seq (by simp)
    simpa using last

theorem fence_echoed (epoch seq : UInt64) :
    readPong (pongPacket (fencePing epoch seq)) =
      .ok (some (.echo epoch.toBitVec seq.toNat)) := by
  have echo : (makePongFor (fencePing epoch seq)).payload =
      kFencePingKind :: (writeU64BE epoch ++ writeU64BE seq) := by
    simp [makePongFor, fencePing, ProtocolFrame.payload, kMaxEcho]
  have small : (makePongFor (fencePing epoch seq)).payload.length ≤ kMaxPayloadSize := by
    rw [echo]
    simp [kMaxPayloadSize]
  have words := fence_payload_words epoch seq
  have seen := peek_serialized (makePongFor (fencePing epoch seq)) small
  rw [echo] at seen
  simp only [readPong, pongPacket, seen]
  rw [if_neg (by simp [makePongFor]), if_neg (by simp), if_neg (by simp [kFencePayloadSize])]
  simp only [words, bind, Except.bind, pure, Except.pure]

theorem keepalive_echoed : readPong (pongPacket makePing) = .ok (some .empty) := by
  decide

theorem fence_answered (epoch seq : UInt64) (mark : Nat) :
    ∃ pong ∈ EchoingPeer.answer (.fence ⟨epoch.toBitVec, seq.toNat, mark⟩),
      readPong (pongPacket (fencePing epoch seq)) = .ok (some pong) :=
  ⟨_, List.mem_singleton_self _, fence_echoed epoch seq⟩

/-- The gate's peek accepts a packet exactly when it begins with the lossless
byte and the decoder accepts the rest, with the same id and payload, and for
every type it knows the same type. A fence that was decoded by the peer and
answered is taken for that fence, and for no other. -/
theorem peek_agrees :
    (∀ packet, (peek packet).isSome = true ↔
      ∃ rest frame, packet = kLosslessPacketByte :: rest ∧ deserialize rest = .ok (.ok frame)) ∧
    (∀ rest peeked frame, peek (kLosslessPacketByte :: rest) = some peeked →
      deserialize rest = .ok (.ok frame) →
      peeked.tunnelId = frame.tunnelId ∧ peeked.payload = frame.payload ∧
        ∀ frameType, frameType ≠ .unknown →
          (peeked.rawType = frameType.raw ↔ frame.frameType = frameType)) ∧
    ∀ epoch seq, ∃ ping,
      makeFencePacket epoch seq = kLosslessPacketByte :: serialize (fencePing epoch seq) ∧
      deserialize (makeFencePacket epoch seq).tail = .ok (.ok ping) ∧
      ping.frameType = .ping ∧ ping.tunnelId = 0 ∧
      readPong (pongPacket ping) = .ok (some (.echo epoch.toBitVec seq.toNat)) ∧
      ∀ other number, readPong (pongPacket ping) = .ok (some (.echo other number)) →
        other = epoch.toBitVec ∧ number = seq.toNat := by
  refine ⟨?_, ?_, ?_⟩
  · intro packet
    rw [Option.isSome_iff_exists]
    constructor
    · rintro ⟨peeked, seen⟩
      obtain ⟨rest, frame, packet_is, _, decoded, _⟩ := (peek_eq_some_iff packet peeked).mp seen
      exact ⟨rest, frame, packet_is, decoded⟩
    · rintro ⟨rest, frame, rfl, decoded⟩
      obtain ⟨rawType, first, type_is⟩ := decoded_type decoded
      exact ⟨⟨rawType, frame.tunnelId, frame.payload⟩,
        (peek_eq_some_iff _ _).mpr ⟨rest, frame, rfl, first, decoded, type_is, rfl, rfl⟩⟩
  · intro rest peeked frame seen decoded
    obtain ⟨_, _, ⟨⟩, _, again, type_is, id_is, payload_is⟩ := (peek_eq_some_iff _ _).mp seen
    rw [decoded] at again
    cases again
    refine ⟨id_is.symm, payload_is.symm, ?_⟩
    intro frameType known
    rw [type_is]
    exact raw_iff known
  · intro epoch seq
    have echoed := fence_echoed epoch seq
    refine ⟨fencePing epoch seq, fencePing_serialized epoch seq, ?_, rfl, rfl, echoed, ?_⟩
    · rw [fencePing_serialized]
      exact fence_decoded epoch seq
    · intro other number read
      rw [echoed] at read
      cases read
      exact ⟨rfl, rfl⟩

end Fences

end ToxTunnel.FenceWire
