import ToxTunnel.FrameCodec

/-!
The frame codec there and back: a frame survives the wire whatever follows it,
each typed accessor recovers what its factory was given, the in-place encoder
agrees with the first one, and no decoder reads outside its input.
-/

namespace ToxTunnel.FrameRoundTrip
open CheckedBytes FrameCodec

section Integers
variable {front back : Bytes} {start : Nat}

@[simp] theorem writeU16BE_length (value : UInt16) : (writeU16BE value).length = 2 :=
  bigEndian_length 2 _

@[simp] theorem writeU32BE_length (value : UInt32) : (writeU32BE value).length = 4 :=
  bigEndian_length 4 _

@[simp] theorem writeU64BE_length (value : UInt64) : (writeU64BE value).length = 8 :=
  bigEndian_length 8 _

theorem readU16BE_append (value : UInt16) (here : front.length = start) :
    readU16BE (front ++ (writeU16BE value ++ back)) start = .ok value := by
  rw [readU16BE, writeU16BE, readBigEndian_append here (by simpa using value.toNat_lt)]
  exact congrArg Except.ok UInt16.ofNat_toNat

theorem readU32BE_append (value : UInt32) (here : front.length = start) :
    readU32BE (front ++ (writeU32BE value ++ back)) start = .ok value := by
  rw [readU32BE, writeU32BE, readBigEndian_append here (by simpa using value.toNat_lt)]
  exact congrArg Except.ok UInt32.ofNat_toNat

theorem readU64BE_append (value : UInt64) (here : front.length = start) :
    readU64BE (front ++ (writeU64BE value ++ back)) start = .ok value := by
  rw [readU64BE, writeU64BE, readBigEndian_append here (by simpa using value.toNat_lt)]
  exact congrArg Except.ok UInt64.ofNat_toNat

theorem readU16BE_last (value : UInt16) (here : front.length = start) :
    readU16BE (front ++ writeU16BE value) start = .ok value := by
  have read : readU16BE (front ++ (writeU16BE value ++ [])) start = .ok value :=
    readU16BE_append value here
  rwa [List.append_nil] at read

theorem toNat_ofNat_byte {length : Nat} (short : length ≤ maxHostLen) :
    (UInt8.ofNat length).toNat = length := by
  rw [UInt8.toNat_ofNat']
  apply Nat.mod_eq_of_lt
  simp only [maxHostLen] at short
  omega

end Integers

section Frames

theorem received_same (frameType : FrameType) (tunnelId : UInt16) (payload : Bytes) :
    (ProtocolFrame.received frameType tunnelId payload).frameType = frameType ∧
      (ProtocolFrame.received frameType tunnelId payload).tunnelId = tunnelId ∧
      (ProtocolFrame.received frameType tunnelId payload).payload = payload := by
  unfold ProtocolFrame.received
  split
  · next empty => simp [ProtocolFrame.payload, empty]
  · split <;> simp [ProtocolFrame.payload]

/-- Only DATA is kept in the shared slot. -/
theorem received_owned {frameType : FrameType} (other : frameType ≠ .tunnelData) (tunnelId : UInt16)
    (payload : Bytes) :
    (ProtocolFrame.received frameType tunnelId payload).ownedPayload = payload := by
  by_cases empty : payload = []
  · simp [ProtocolFrame.received, empty]
  · simp [ProtocolFrame.received, empty, other]

theorem deserialize_serialize (frame : ProtocolFrame)
    (fits : frame.payload.length ≤ kMaxPayloadSize) (trailing : Bytes) :
    deserialize (serialize frame ++ trailing) =
      .ok (.ok (.received frame.frameType frame.tunnelId frame.payload)) := by
  have length : (UInt16.ofNat frame.payload.length).toNat = frame.payload.length := by
    rw [UInt16.toNat_ofNat']
    apply Nat.mod_eq_of_lt
    simp only [kMaxPayloadSize] at fits
    omega
  -- The wire bytes, with every field a block of its own.
  have wire : serialize frame ++ trailing = [frame.frameType.raw] ++ (writeU16BE frame.tunnelId ++
      (writeU16BE (UInt16.ofNat frame.payload.length) ++ (frame.payload ++ trailing))) := by
    simp [serialize, Nat.min_eq_left fits]
  have rawType : byteAt (serialize frame ++ trailing) 0 = .ok frame.frameType.raw := by
    rw [wire]
    rfl
  have tunnelId : readU16BE (serialize frame ++ trailing) 1 = .ok frame.tunnelId := by
    rw [wire]
    exact readU16BE_append _ rfl
  have payloadLen : readU16BE (serialize frame ++ trailing) 3 =
      .ok (UInt16.ofNat frame.payload.length) := by
    rw [wire, ← List.append_assoc]
    exact readU16BE_append _ (by simp)
  have payload : sliceAt (serialize frame ++ trailing) kFrameHeaderSize frame.payload.length =
      .ok frame.payload := by
    rw [wire, ← List.append_assoc, ← List.append_assoc]
    exact sliceAt_append (by simp [kFrameHeaderSize]) rfl
  have size : (serialize frame ++ trailing).length =
      kFrameHeaderSize + frame.payload.length + trailing.length := by
    rw [wire]
    simp only [List.length_append, writeU16BE_length, List.length_singleton, kFrameHeaderSize]
    omega
  unfold deserialize
  rw [if_neg (by omega)]
  simp only [rawType, tunnelId, payloadLen, length, bind, Except.bind]
  rw [if_neg (by omega), payload, FrameType.ofRaw_raw]
  rfl

end Frames

section Accessors
variable {frame : ProtocolFrame}

theorem asTunnelOpen_make {tunnelId : UInt16} {host : Bytes} {port : UInt16}
    (short : host.length ≤ maxHostLen) (kind : frame.frameType = .tunnelOpen)
    (payload : frame.ownedPayload = (makeTunnelOpen tunnelId host port).ownedPayload) :
    asTunnelOpen frame = .ok (some { host, port }) := by
  have hostLen := toNat_ofNat_byte short
  have layout : frame.ownedPayload =
      [UInt8.ofNat host.length] ++ (host ++ writeU16BE port) := by
    simp [payload, makeTunnelOpen, Nat.min_eq_left short]
  have first : byteAt frame.ownedPayload 0 = .ok (UInt8.ofNat host.length) := by
    rw [layout]
    rfl
  have hostBytes : sliceAt frame.ownedPayload 1 host.length = .ok host := by
    rw [layout]
    exact sliceAt_append rfl rfl
  have portBytes : readU16BE frame.ownedPayload (1 + host.length) = .ok port := by
    rw [layout, ← List.append_assoc]
    exact readU16BE_last _ (by simp; omega)
  have size : frame.ownedPayload.length = 1 + host.length + 2 := by
    rw [layout]
    simp only [List.length_append, List.length_singleton, writeU16BE_length]
    omega
  have nonempty : frame.ownedPayload ≠ [] := by
    rw [layout]
    simp
  unfold asTunnelOpen
  rw [if_neg (by simp [kind, nonempty])]
  simp only [first, hostLen, bind, Except.bind]
  rw [if_neg (by omega), hostBytes]
  simp only [portBytes]
  rfl

theorem asTunnelAck_make {tunnelId : UInt16} {bytesAcked : UInt32}
    (kind : frame.frameType = .tunnelAck)
    (payload : frame.ownedPayload = (makeTunnelAck tunnelId bytesAcked).ownedPayload) :
    asTunnelAck frame = .ok (some { bytesAcked }) := by
  have count : readU32BE frame.ownedPayload 0 = .ok bytesAcked := by
    have layout : frame.ownedPayload = [] ++ (writeU32BE bytesAcked ++ []) := by
      simp [payload, makeTunnelAck]
    rw [layout]
    exact readU32BE_append _ rfl
  unfold asTunnelAck
  rw [if_neg (by simp [kind, payload, makeTunnelAck]), count]
  rfl

theorem asTunnelError_make {tunnelId : UInt16} {errorCode : UInt8} {description : Bytes}
    (kind : frame.frameType = .tunnelError)
    (payload : frame.ownedPayload = (makeTunnelError tunnelId errorCode description).ownedPayload) :
    asTunnelError frame = .ok (some { errorCode, description }) := by
  have layout : frame.ownedPayload = [errorCode] ++ (description ++ []) := by
    simp [payload, makeTunnelError]
  have first : byteAt frame.ownedPayload 0 = .ok errorCode := by
    rw [layout]
    rfl
  have rest : sliceAt frame.ownedPayload 1 description.length = .ok description := by
    rw [layout]
    exact sliceAt_append rfl rfl
  have size : frame.ownedPayload.length = 1 + description.length := by
    rw [layout]
    simp only [List.length_append, List.length_singleton, List.length_nil]
    omega
  have nonempty : frame.ownedPayload ≠ [] := by
    rw [layout]
    simp
  unfold asTunnelError
  rw [if_neg (by simp [kind, nonempty]), first, size, Nat.add_sub_cancel_left]
  simp only [bind, Except.bind]
  split
  · rw [rest]
    rfl
  · have empty : description = [] := List.eq_nil_of_length_eq_zero (by omega)
    rw [empty]
    rfl

theorem asTunnelResumeRequest_make {request : TunnelResumeRequestPayload}
    (short : request.host.length ≤ maxHostLen) (kind : frame.frameType = .tunnelResumeRequest)
    (payload : frame.ownedPayload = (makeTunnelResumeRequest request).ownedPayload) :
    asTunnelResumeRequest frame = .ok (some request) := by
  have hostLen := toNat_ofNat_byte short
  have layout : frame.ownedPayload = [0x01] ++ (writeU16BE request.priorTunnelId ++
      (writeU64BE request.lastLocalRecvOffset ++ (writeU64BE request.lastLocalSendOffset ++
        ([UInt8.ofNat request.host.length] ++ (request.host ++ writeU16BE request.targetPort))))) := by
    simp [payload, makeTunnelResumeRequest, Nat.min_eq_left short]
  have version : byteAt frame.ownedPayload 0 = .ok 0x01 := by
    rw [layout]
    rfl
  have prior : readU16BE frame.ownedPayload 1 = .ok request.priorTunnelId := by
    rw [layout]
    exact readU16BE_append _ rfl
  have received : readU64BE frame.ownedPayload 3 = .ok request.lastLocalRecvOffset := by
    rw [layout, ← List.append_assoc]
    exact readU64BE_append _ (by simp)
  have sent : readU64BE frame.ownedPayload 11 = .ok request.lastLocalSendOffset := by
    rw [layout, ← List.append_assoc, ← List.append_assoc]
    exact readU64BE_append _ (by simp)
  have lengthByte : byteAt frame.ownedPayload 19 = .ok (UInt8.ofNat request.host.length) := by
    rw [layout, ← List.append_assoc, ← List.append_assoc, ← List.append_assoc]
    exact byteAt_append _ (by simp)
  have hostBytes : sliceAt frame.ownedPayload 20 request.host.length = .ok request.host := by
    rw [layout, ← List.append_assoc, ← List.append_assoc, ← List.append_assoc,
      ← List.append_assoc]
    exact sliceAt_append (by simp) rfl
  have port : readU16BE frame.ownedPayload (20 + request.host.length) =
      .ok request.targetPort := by
    rw [layout, ← List.append_assoc, ← List.append_assoc, ← List.append_assoc,
      ← List.append_assoc, ← List.append_assoc]
    exact readU16BE_last _ (by simp; omega)
  have size : frame.ownedPayload.length = 20 + request.host.length + 2 := by
    rw [layout]
    simp only [List.length_append, List.length_singleton, writeU16BE_length, writeU64BE_length]
    omega
  unfold asTunnelResumeRequest
  rw [if_neg (by simp [kind, size])]
  simp only [version, prior, received, sent, lengthByte, hostLen, bind, Except.bind, ne_eq,
    not_true_eq_false, if_false]
  rw [if_neg (by omega), hostBytes]
  simp only [port]
  rfl

theorem asTunnelResumeAck_make {answer : TunnelResumeAckPayload}
    (kind : frame.frameType = .tunnelResumeAck)
    (payload : frame.ownedPayload = (makeTunnelResumeAck answer).ownedPayload) :
    asTunnelResumeAck frame = .ok (some answer) := by
  have layout : frame.ownedPayload = [0x01] ++ (writeU16BE answer.newTunnelId ++
      (writeU64BE answer.serverRecvOffset ++ (writeU64BE answer.serverSendOffset ++
        [answer.status.raw]))) := by
    simp [payload, makeTunnelResumeAck]
  have version : byteAt frame.ownedPayload 0 = .ok 0x01 := by
    rw [layout]
    rfl
  have fresh : readU16BE frame.ownedPayload 1 = .ok answer.newTunnelId := by
    rw [layout]
    exact readU16BE_append _ rfl
  have received : readU64BE frame.ownedPayload 3 = .ok answer.serverRecvOffset := by
    rw [layout, ← List.append_assoc]
    exact readU64BE_append _ (by simp)
  have sent : readU64BE frame.ownedPayload 11 = .ok answer.serverSendOffset := by
    rw [layout, ← List.append_assoc, ← List.append_assoc]
    exact readU64BE_append _ (by simp)
  have raw : byteAt frame.ownedPayload 19 = .ok answer.status.raw := by
    rw [layout, ← List.append_assoc, ← List.append_assoc, ← List.append_assoc]
    exact byteAt_append _ (by simp)
  have size : frame.ownedPayload.length = 20 := by
    rw [layout]
    simp
  unfold asTunnelResumeAck
  rw [if_neg (by simp [kind, size])]
  simp only [version, fresh, received, sent, raw, bind, Except.bind, ne_eq, not_true_eq_false,
    if_false, TunnelResumeStatus.ofRaw_raw]
  rfl

end Accessors

section Messages

/-- A frame together with what its factory was given. -/
inductive Message where
  | tunnelOpen (tunnelId : UInt16) (host : Bytes) (port : UInt16)
  | tunnelData (tunnelId : UInt16) (data : Bytes)
  | tunnelClose (tunnelId : UInt16)
  | tunnelAck (tunnelId : UInt16) (bytesAcked : UInt32)
  | tunnelError (tunnelId : UInt16) (errorCode : UInt8) (description : Bytes)
  | ping
  | pong
  | pongFor (asked : ProtocolFrame)
  | infoRequest
  | resumeRequest (request : TunnelResumeRequestPayload)
  | resumeAck (answer : TunnelResumeAckPayload)
  | infoReply (yamlPayload : Bytes)

def Message.make : Message → ProtocolFrame
  | .tunnelOpen tunnelId host port => makeTunnelOpen tunnelId host port
  | .tunnelData tunnelId data => makeTunnelData tunnelId data
  | .tunnelClose tunnelId => makeTunnelClose tunnelId
  | .tunnelAck tunnelId bytesAcked => makeTunnelAck tunnelId bytesAcked
  | .tunnelError tunnelId errorCode description => makeTunnelError tunnelId errorCode description
  | .ping => makePing
  | .pong => makePong
  | .pongFor asked => makePongFor asked
  | .infoRequest => makeInfoRequest
  | .resumeRequest request => makeTunnelResumeRequest request
  | .resumeAck answer => makeTunnelResumeAck answer
  | .infoReply yamlPayload => makeInfoReply yamlPayload

/-- Nothing of the message is cut off: a host fits its length byte and the payload
the frame's length field. -/
def Message.Fits : Message → Prop
  | .tunnelOpen _ host _ => host.length ≤ maxHostLen
  | .tunnelData _ data => data.length ≤ kMaxPayloadSize
  | .tunnelError _ _ description => description.length < kMaxPayloadSize
  | .resumeRequest request => request.host.length ≤ maxHostLen
  | .infoReply yamlPayload => yamlPayload.length ≤ kMaxPayloadSize
  | _ => True

/-- The frame is of the message's type and gives back its fields. -/
def Message.Recovered (frame : ProtocolFrame) : Message → Prop
  | .tunnelOpen tunnelId host port =>
      frame.tunnelId = tunnelId ∧ asTunnelOpen frame = .ok (some { host, port })
  | .tunnelData tunnelId data =>
      frame.frameType = .tunnelData ∧ frame.tunnelId = tunnelId ∧ asTunnelData frame = data
  | .tunnelClose tunnelId =>
      frame.frameType = .tunnelClose ∧ frame.tunnelId = tunnelId ∧ frame.payload = []
  | .tunnelAck tunnelId bytesAcked =>
      frame.tunnelId = tunnelId ∧ asTunnelAck frame = .ok (some { bytesAcked })
  | .tunnelError tunnelId errorCode description =>
      frame.tunnelId = tunnelId ∧ asTunnelError frame = .ok (some { errorCode, description })
  | .ping => frame.frameType = .ping ∧ frame.tunnelId = 0 ∧ frame.payload = []
  | .pong => frame.frameType = .pong ∧ frame.tunnelId = 0 ∧ frame.payload = []
  | .pongFor asked =>
      frame.frameType = .pong ∧ frame.tunnelId = 0 ∧
        (asked.payload.length ≤ kMaxEcho → frame.payload = asked.payload) ∧
        (kMaxEcho < asked.payload.length → frame.payload = [])
  | .infoRequest => frame.frameType = .infoRequest ∧ frame.tunnelId = 0 ∧ frame.payload = []
  | .resumeRequest request =>
      frame.tunnelId = request.priorTunnelId ∧ asTunnelResumeRequest frame = .ok (some request)
  | .resumeAck answer =>
      frame.tunnelId = answer.newTunnelId ∧ asTunnelResumeAck frame = .ok (some answer)
  | .infoReply yamlPayload =>
      frame.frameType = .infoReply ∧ frame.tunnelId = 0 ∧ asInfoReplyYaml frame = yamlPayload

theorem Message.Fits.payload {message : Message} (fits : message.Fits) :
    message.make.payload.length ≤ kMaxPayloadSize := by
  cases message with
  | tunnelOpen tunnelId host port =>
      simp only [Message.Fits, maxHostLen] at fits
      simp [Message.make, makeTunnelOpen, ProtocolFrame.payload, maxHostLen, kMaxPayloadSize]
      omega
  | tunnelError tunnelId errorCode description =>
      exact Nat.succ_le_of_lt fits
  | resumeRequest request =>
      simp only [Message.Fits, maxHostLen] at fits
      simp [Message.make, makeTunnelResumeRequest, ProtocolFrame.payload, maxHostLen,
        kMaxPayloadSize]
      omega
  | pongFor asked =>
      show (if _ then _ else _ : Bytes).length ≤ kMaxPayloadSize
      by_cases echoed : asked.payload ≠ [] ∧ asked.payload.length ≤ kMaxEcho
      · rw [if_pos echoed]
        exact echoed.2.trans (by decide)
      · rw [if_neg echoed]
        exact Nat.zero_le _
  | tunnelData | infoReply => exact fits
  | tunnelClose | ping | pong | infoRequest => exact Nat.zero_le _
  | tunnelAck | resumeAck =>
      simp [Message.make, makeTunnelAck, makeTunnelResumeAck, ProtocolFrame.payload,
        kMaxPayloadSize]

theorem Message.recovered {message : Message} {frame : ProtocolFrame} (fits : message.Fits)
    (kind : frame.frameType = message.make.frameType)
    (tunnelId : frame.tunnelId = message.make.tunnelId)
    (payload : frame.payload = message.make.payload)
    (owned : message.make.frameType ≠ .tunnelData → frame.ownedPayload = message.make.payload) :
    message.Recovered frame := by
  cases message with
  | tunnelOpen => exact ⟨tunnelId, asTunnelOpen_make fits kind (owned nofun)⟩
  | tunnelAck => exact ⟨tunnelId, asTunnelAck_make kind (owned nofun)⟩
  | tunnelError => exact ⟨tunnelId, asTunnelError_make kind (owned nofun)⟩
  | resumeRequest => exact ⟨tunnelId, asTunnelResumeRequest_make fits kind (owned nofun)⟩
  | resumeAck => exact ⟨tunnelId, asTunnelResumeAck_make kind (owned nofun)⟩
  | tunnelData => exact ⟨kind, tunnelId, (if_neg (not_not.mpr kind)).trans payload⟩
  | infoReply => exact ⟨kind, tunnelId, (if_neg (not_not.mpr kind)).trans (owned nofun)⟩
  | pongFor asked =>
      refine ⟨kind, tunnelId, ?_, ?_⟩
      · intro short
        rw [payload]
        by_cases empty : asked.payload = []
        · rw [empty]
          exact if_neg fun echoed => echoed.1 empty
        · exact if_pos ⟨empty, short⟩
      · intro long
        rw [payload]
        exact if_neg fun echoed => absurd echoed.2 (Nat.not_le.mpr long)
  | tunnelClose | ping | pong | infoRequest => exact ⟨kind, tunnelId, payload⟩

end Messages

section InPlace

theorem OwnedFrameBuffer.payload_length_le (buffer : OwnedFrameBuffer) :
    buffer.payload.length ≤ buffer.payloadUsed := by
  unfold OwnedFrameBuffer.payload
  split
  · exact Nat.zero_le _
  · exact List.length_take_le _ _

/-- A buffer's wire view after its header was written: the lossless byte, then
what the other encoder gives, then what exceeds the length field. -/
theorem wireView_inPlace {buffer : OwnedFrameBuffer} (allocated : buffer.storage.isSome = true)
    (tunnelId : UInt16) :
    (serializeTunnelDataInPlace buffer tunnelId).wireView =
      kLosslessPacketByte :: (serialize (makeTunnelData tunnelId buffer.payload) ++
        buffer.payload.drop kMaxPayloadSize) := by
  obtain ⟨storage, stored⟩ := Option.isSome_iff_exists.mp allocated
  have whole := buffer.sized storage stored
  have used := buffer.used_le
  have header := dataHeader_length tunnelId buffer.payloadUsed
  have payload : buffer.payload = (storage.drop kFrameHeaderReserved).take buffer.payloadUsed := by
    simp [OwnedFrameBuffer.payload, stored]
  have size : buffer.payload.length = buffer.payloadUsed := by
    rw [payload, List.length_take, List.length_drop]
    omega
  have view : (serializeTunnelDataInPlace buffer tunnelId).wireView =
      dataHeader tunnelId buffer.payloadUsed ++ buffer.payload := by
    simp only [OwnedFrameBuffer.wireView, serializeTunnelDataInPlace, stored, Option.map_some,
      overwrite, List.take_zero, List.nil_append, Nat.zero_add, header, payload]
    rw [← header, List.take_length_add_append]
  rw [view]
  simp only [dataHeader, serialize, makeTunnelData, ProtocolFrame.payload, Option.getD_none]
  have cut : buffer.payload.take (min buffer.payload.length kMaxPayloadSize) =
      buffer.payload.take kMaxPayloadSize := by
    rw [Nat.min_comm, ← List.take_take, List.take_length]
  rw [cut, size]
  simp only [List.cons_append, List.append_assoc, List.take_append_drop]

end InPlace

section Faults

theorem readU16BE_faultless {bytes : Bytes} {start : Nat} (inside : start + 2 ≤ bytes.length) :
    Faultless (readU16BE bytes start) :=
  (readBigEndian_faultless inside).bind fun _ _ => .ok _

theorem readU32BE_faultless {bytes : Bytes} {start : Nat} (inside : start + 4 ≤ bytes.length) :
    Faultless (readU32BE bytes start) :=
  (readBigEndian_faultless inside).bind fun _ _ => .ok _

theorem readU64BE_faultless {bytes : Bytes} {start : Nat} (inside : start + 8 ≤ bytes.length) :
    Faultless (readU64BE bytes start) :=
  (readBigEndian_faultless inside).bind fun _ _ => .ok _

theorem deserialize_faultless (data : Bytes) : Faultless (deserialize data) := by
  unfold deserialize
  split
  · exact .ok _
  · next headed =>
      simp only [kFrameHeaderSize, Nat.not_lt] at headed
      apply (byteAt_faultless (by omega)).bind
      intro rawType _
      apply (readU16BE_faultless (by omega)).bind
      intro tunnelId _
      apply (readU16BE_faultless (by omega)).bind
      intro payloadLen _
      split
      · exact .ok _
      · next whole => exact (sliceAt_faultless (Nat.not_lt.mp whole)).bind fun _ _ => .ok _

theorem asTunnelOpen_faultless (frame : ProtocolFrame) : Faultless (asTunnelOpen frame) := by
  unfold asTunnelOpen
  split
  · exact .ok _
  · next open_ =>
      rw [not_or] at open_
      apply (byteAt_faultless (List.length_pos_iff.mpr open_.2)).bind
      intro hostLen _
      split
      · exact .ok _
      · apply (sliceAt_faultless (by omega)).bind
        intro host _
        exact (readU16BE_faultless (by omega)).bind fun _ _ => .ok _

theorem asTunnelAck_faultless (frame : ProtocolFrame) : Faultless (asTunnelAck frame) := by
  unfold asTunnelAck
  split
  · exact .ok _
  · exact (readU32BE_faultless (by omega)).bind fun _ _ => .ok _

theorem asTunnelError_faultless (frame : ProtocolFrame) : Faultless (asTunnelError frame) := by
  unfold asTunnelError
  split
  · exact .ok _
  · next error =>
      rw [not_or] at error
      apply (byteAt_faultless (List.length_pos_iff.mpr error.2)).bind
      intro errorCode _
      split
      · exact (sliceAt_faultless (by omega)).bind fun _ _ => .ok _
      · exact .ok _

theorem asTunnelResumeRequest_faultless (frame : ProtocolFrame) :
    Faultless (asTunnelResumeRequest frame) := by
  unfold asTunnelResumeRequest
  split
  · exact .ok _
  · apply (byteAt_faultless (by omega)).bind
    intro version _
    split
    · exact .ok _
    · apply (readU16BE_faultless (by omega)).bind
      intro prior _
      apply (readU64BE_faultless (by omega)).bind
      intro received _
      apply (readU64BE_faultless (by omega)).bind
      intro sent _
      apply (byteAt_faultless (by omega)).bind
      intro hostLen _
      split
      · exact .ok _
      · apply (sliceAt_faultless (by omega)).bind
        intro host _
        exact (readU16BE_faultless (by omega)).bind fun _ _ => .ok _

theorem asTunnelResumeAck_faultless (frame : ProtocolFrame) :
    Faultless (asTunnelResumeAck frame) := by
  unfold asTunnelResumeAck
  split
  · exact .ok _
  · apply (byteAt_faultless (by omega)).bind
    intro version _
    split
    · exact .ok _
    · apply (readU16BE_faultless (by omega)).bind
      intro fresh _
      apply (readU64BE_faultless (by omega)).bind
      intro received _
      apply (readU64BE_faultless (by omega)).bind
      intro sent _
      exact (byteAt_faultless (by omega)).bind fun _ _ => .ok _

end Faults

section Results

theorem frame_recovered (message : Message) (trailing : Bytes) (fits : message.Fits) :
    ∃ decoded, deserialize (serialize message.make ++ trailing) = .ok (.ok decoded) ∧
      message.Recovered decoded := by
  obtain ⟨kind, tunnelId, payload⟩ := received_same message.make.frameType message.make.tunnelId
    message.make.payload
  refine ⟨_, deserialize_serialize message.make fits.payload trailing, ?_⟩
  exact Message.recovered fits kind tunnelId payload fun other => received_owned other _ _

/-- Every frame whose payload fits comes back from the wire, whatever follows it;
every message that fits is recovered field by field; the in-place encoder writes
what the first one writes; and no decoder reads a byte outside its input. -/
theorem frame_round_trip :
    (∀ (frame : ProtocolFrame) (trailing : Bytes), frame.payload.length ≤ kMaxPayloadSize →
      ∃ decoded, deserialize (serialize frame ++ trailing) = .ok (.ok decoded) ∧
        decoded.Same frame) ∧
    (∀ (message : Message) (trailing : Bytes), message.Fits →
      ∃ decoded, deserialize (serialize message.make ++ trailing) = .ok (.ok decoded) ∧
        message.Recovered decoded) ∧
    (∀ (buffer : OwnedFrameBuffer) (tunnelId : UInt16), buffer.storage.isSome = true →
      buffer.payloadUsed ≤ kMaxPayloadSize →
      (serializeTunnelDataInPlace buffer tunnelId).wireView =
        kLosslessPacketByte :: serialize (makeTunnelData tunnelId buffer.payload)) ∧
    (∀ data, Faultless (deserialize data)) ∧
    (∀ frame, Faultless (asTunnelOpen frame) ∧ Faultless (asTunnelAck frame) ∧
      Faultless (asTunnelError frame) ∧ Faultless (asTunnelResumeRequest frame) ∧
      Faultless (asTunnelResumeAck frame)) := by
  refine ⟨?_, frame_recovered, ?_, deserialize_faultless, ?_⟩
  · intro frame trailing fits
    exact ⟨_, deserialize_serialize frame fits trailing, received_same _ _ _⟩
  · intro buffer tunnelId allocated short
    have rest : buffer.payload.drop kMaxPayloadSize = [] := by
      apply List.drop_eq_nil_of_le
      exact (OwnedFrameBuffer.payload_length_le buffer).trans short
    rw [wireView_inPlace allocated, rest, List.append_nil]
  · intro frame
    exact ⟨asTunnelOpen_faultless frame, asTunnelAck_faultless frame, asTunnelError_faultless frame,
      asTunnelResumeRequest_faultless frame, asTunnelResumeAck_faultless frame⟩

/-- A PING with a mark is followed by other bytes, a host fills its length byte, and
a buffer holds three bytes. -/
theorem frame_round_trip_full :
    (∃ decoded, deserialize (serialize { frameType := .ping, tunnelId := 0, ownedPayload := [7] } ++
        [1, 2]) = .ok (.ok decoded) ∧
      decoded.Same { frameType := .ping, tunnelId := 0, ownedPayload := [7] }) ∧
    (∃ decoded, deserialize (serialize (makeTunnelOpen 3 (List.replicate 255 97) 22) ++ []) =
        .ok (.ok decoded) ∧
      (Message.tunnelOpen 3 (List.replicate 255 97) 22).Recovered decoded) ∧
    (serializeTunnelDataInPlace ((OwnedFrameBuffer.allocate 8).appendPayload [4, 5, 6]) 9).wireView =
      kLosslessPacketByte ::
        serialize (makeTunnelData 9 ((OwnedFrameBuffer.allocate 8).appendPayload [4, 5, 6]).payload) :=
  ⟨frame_round_trip.1 _ [1, 2] (by decide),
    frame_round_trip.2.1 (.tunnelOpen 3 (List.replicate 255 97) 22) []
      (by rw [Message.Fits, List.length_replicate, maxHostLen]),
    frame_round_trip.2.2.1 _ 9 rfl (by decide)⟩

/-- A host that is too long for its length byte comes back cut. -/
theorem resumeRequest_truncated (request : TunnelResumeRequestPayload) :
    ∃ decoded, deserialize (serialize (makeTunnelResumeRequest request)) = .ok (.ok decoded) ∧
      asTunnelResumeRequest decoded =
        .ok (some { request with host := request.host.take maxHostLen }) := by
  have same : makeTunnelResumeRequest request =
      makeTunnelResumeRequest { request with host := request.host.take maxHostLen } := by
    simp [makeTunnelResumeRequest, List.length_take, List.take_take, Nat.min_comm]
  have short : (request.host.take maxHostLen).length ≤ maxHostLen := List.length_take_le _ _
  obtain ⟨decoded, wire, recovered⟩ := frame_recovered
    (.resumeRequest { request with host := request.host.take maxHostLen }) [] short
  rw [List.append_nil] at wire
  exact ⟨decoded, same ▸ wire, recovered.2⟩

/-- A RESUME_REQUEST whose host has 256 bytes comes back with 255 of them. -/
theorem host_truncated :
    ∃ request : TunnelResumeRequestPayload, request.host = List.replicate 256 97 ∧
      ∃ decoded, deserialize (serialize (makeTunnelResumeRequest request)) = .ok (.ok decoded) ∧
        ¬ (Message.resumeRequest request).Recovered decoded := by
  refine ⟨{ priorTunnelId := 1, lastLocalRecvOffset := 0, lastLocalSendOffset := 0,
            host := List.replicate 256 97, targetPort := 22 }, rfl, ?_⟩
  obtain ⟨decoded, wire, read⟩ := resumeRequest_truncated
    { priorTunnelId := 1, lastLocalRecvOffset := 0, lastLocalSendOffset := 0,
      host := List.replicate 256 97, targetPort := 22 }
  refine ⟨decoded, wire, ?_⟩
  rintro ⟨-, recovered⟩
  rw [read] at recovered
  injection recovered with found
  injection found with found
  have lengths := congrArg (List.length ∘ TunnelResumeRequestPayload.host) found
  rw [Function.comp_apply, Function.comp_apply, List.length_take, List.length_replicate] at lengths
  exact absurd lengths (by decide)

end Results

end ToxTunnel.FrameRoundTrip
