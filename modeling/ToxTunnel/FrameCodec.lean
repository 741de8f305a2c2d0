import ToxTunnel.CheckedBytes

/-!
`ProtocolFrame`: the binary format of tunnel frames, its factories, its typed
accessors, and the second encoder that writes a DATA frame's header in front of
the payload in place. Every read of a decoder goes through a checked access.
-/

namespace ToxTunnel.FrameCodec
open CheckedBytes

def kFrameHeaderSize : Nat := 5
def kMaxPayloadSize : Nat := 65535
def kLosslessPacketByte : UInt8 := 0xA0
def kFrameHeaderReserved : Nat := 6

/-- The truncation bound of a length byte. -/
def maxHostLen : Nat := 255

section Integers

def writeU16BE (value : UInt16) : Bytes := bigEndian 2 value.toNat
def writeU32BE (value : UInt32) : Bytes := bigEndian 4 value.toNat
def writeU64BE (value : UInt64) : Bytes := bigEndian 8 value.toNat

def readU16BE (bytes : Bytes) (start : Nat) : Access UInt16 := do
  return UInt16.ofNat (← readBigEndian bytes start 2)

def readU32BE (bytes : Bytes) (start : Nat) : Access UInt32 := do
  return UInt32.ofNat (← readBigEndian bytes start 4)

def readU64BE (bytes : Bytes) (start : Nat) : Access UInt64 := do
  return UInt64.ofNat (← readBigEndian bytes start 8)

end Integers

section Types

inductive FrameType where
  | unknown | tunnelOpen | tunnelData | tunnelClose | tunnelAck | tunnelError
  | infoRequest | infoReply | tunnelResumeRequest | tunnelResumeAck | ping | pong
  deriving DecidableEq

/-- The enumerator's value. -/
def FrameType.raw : FrameType → UInt8
  | .unknown => 0x00
  | .tunnelOpen => 0x01
  | .tunnelData => 0x02
  | .tunnelClose => 0x03
  | .tunnelAck => 0x04
  | .tunnelError => 0x05
  | .infoRequest => 0x06
  | .infoReply => 0x07
  | .tunnelResumeRequest => 0x08
  | .tunnelResumeAck => 0x09
  | .ping => 0x10
  | .pong => 0x11

/-- A type byte that `is_valid_frame_type` does not know becomes `Unknown`. -/
def FrameType.ofRaw (raw : UInt8) : FrameType :=
  if raw = 0x01 then .tunnelOpen
  else if raw = 0x02 then .tunnelData
  else if raw = 0x03 then .tunnelClose
  else if raw = 0x04 then .tunnelAck
  else if raw = 0x05 then .tunnelError
  else if raw = 0x06 then .infoRequest
  else if raw = 0x07 then .infoReply
  else if raw = 0x08 then .tunnelResumeRequest
  else if raw = 0x09 then .tunnelResumeAck
  else if raw = 0x10 then .ping
  else if raw = 0x11 then .pong
  else .unknown

theorem FrameType.ofRaw_raw (frameType : FrameType) : FrameType.ofRaw frameType.raw = frameType := by
  cases frameType <;> rfl

inductive TunnelResumeStatus where
  | ok | targetUnreachable | rulesDenied | tooOld | unknown
  deriving DecidableEq

def TunnelResumeStatus.raw : TunnelResumeStatus → UInt8
  | .ok => 0
  | .targetUnreachable => 1
  | .rulesDenied => 2
  | .tooOld => 3
  | .unknown => 4

def TunnelResumeStatus.ofRaw (raw : UInt8) : TunnelResumeStatus :=
  if raw = 0 then .ok
  else if raw = 1 then .targetUnreachable
  else if raw = 2 then .rulesDenied
  else if raw = 3 then .tooOld
  else .unknown

theorem TunnelResumeStatus.ofRaw_raw (status : TunnelResumeStatus) :
    TunnelResumeStatus.ofRaw status.raw = status := by
  cases status <;> rfl

structure TunnelOpenPayload where
  host : Bytes
  port : UInt16
  deriving DecidableEq

structure TunnelAckPayload where
  bytesAcked : UInt32
  deriving DecidableEq

structure TunnelErrorPayload where
  errorCode : UInt8
  description : Bytes
  deriving DecidableEq

structure TunnelResumeRequestPayload where
  priorTunnelId : UInt16
  lastLocalRecvOffset : UInt64
  lastLocalSendOffset : UInt64
  host : Bytes
  targetPort : UInt16
  deriving DecidableEq

structure TunnelResumeAckPayload where
  newTunnelId : UInt16
  serverRecvOffset : UInt64
  serverSendOffset : UInt64
  status : TunnelResumeStatus
  deriving DecidableEq

/-- A frame. Only a received DATA frame keeps its payload in the shared slot. -/
structure ProtocolFrame where
  frameType : FrameType
  tunnelId : UInt16
  ownedPayload : Bytes := []
  payloadShared : Option Bytes := none
  one_slot : payloadShared.isSome = true → frameType = .tunnelData ∧ ownedPayload = [] := by simp
  deriving DecidableEq

/-- `payload()`: the bytes, whichever slot holds them. -/
def ProtocolFrame.payload (frame : ProtocolFrame) : Bytes :=
  frame.payloadShared.getD frame.ownedPayload

/-- Equal up to the slot that holds the payload. -/
def ProtocolFrame.Same (first second : ProtocolFrame) : Prop :=
  first.frameType = second.frameType ∧ first.tunnelId = second.tunnelId ∧
    first.payload = second.payload

end Types

section Factories

def makeTunnelOpen (tunnelId : UInt16) (host : Bytes) (port : UInt16) : ProtocolFrame where
  frameType := .tunnelOpen
  tunnelId := tunnelId
  ownedPayload :=
    let hostLen := min host.length maxHostLen
    UInt8.ofNat hostLen :: (host.take hostLen ++ writeU16BE port)

def makeTunnelData (tunnelId : UInt16) (data : Bytes) : ProtocolFrame where
  frameType := .tunnelData
  tunnelId := tunnelId
  ownedPayload := data

def makeTunnelClose (tunnelId : UInt16) : ProtocolFrame where
  frameType := .tunnelClose
  tunnelId := tunnelId

def makeTunnelAck (tunnelId : UInt16) (bytesAcked : UInt32) : ProtocolFrame where
  frameType := .tunnelAck
  tunnelId := tunnelId
  ownedPayload := writeU32BE bytesAcked

def makeTunnelError (tunnelId : UInt16) (errorCode : UInt8) (description : Bytes) :
    ProtocolFrame where
  frameType := .tunnelError
  tunnelId := tunnelId
  ownedPayload := errorCode :: description

def makePing : ProtocolFrame where
  frameType := .ping
  tunnelId := 0

def makePong : ProtocolFrame where
  frameType := .pong
  tunnelId := 0

def kMaxEcho : Nat := 32

/-- The PONG that answers a PING echoes a payload of 1 to 32 bytes. -/
def makePongFor (ping : ProtocolFrame) : ProtocolFrame where
  frameType := .pong
  tunnelId := 0
  ownedPayload := if ping.payload ≠ [] ∧ ping.payload.length ≤ kMaxEcho then ping.payload else []

def makeInfoRequest : ProtocolFrame where
  frameType := .infoRequest
  tunnelId := 0

/-- `[version:1=0x01][prior_id:2][recv:8][send:8][host_len:1][host:N][port:2]`. -/
def makeTunnelResumeRequest (payload : TunnelResumeRequestPayload) : ProtocolFrame where
  frameType := .tunnelResumeRequest
  tunnelId := payload.priorTunnelId
  ownedPayload :=
    let hostLen := min payload.host.length maxHostLen
    [0x01] ++ (writeU16BE payload.priorTunnelId ++ (writeU64BE payload.lastLocalRecvOffset ++
      (writeU64BE payload.lastLocalSendOffset ++ (UInt8.ofNat hostLen ::
        (payload.host.take hostLen ++ writeU16BE payload.targetPort)))))

/-- `[version:1=0x01][new_id:2][server_recv:8][server_send:8][status:1]`. -/
def makeTunnelResumeAck (payload : TunnelResumeAckPayload) : ProtocolFrame where
  frameType := .tunnelResumeAck
  tunnelId := payload.newTunnelId
  ownedPayload :=
    [0x01] ++ (writeU16BE payload.newTunnelId ++ (writeU64BE payload.serverRecvOffset ++
      (writeU64BE payload.serverSendOffset ++ [payload.status.raw])))

def makeInfoReply (yamlPayload : Bytes) : ProtocolFrame where
  frameType := .infoReply
  tunnelId := 0
  ownedPayload := yamlPayload

end Factories

section Accessors

def asTunnelOpen (frame : ProtocolFrame) : Access (Option TunnelOpenPayload) :=
  if frame.frameType ≠ .tunnelOpen ∨ frame.ownedPayload = [] then .ok none
  else do
    let hostLen ← byteAt frame.ownedPayload 0
    if frame.ownedPayload.length < 1 + hostLen.toNat + 2 then return none
    let host ← sliceAt frame.ownedPayload 1 hostLen.toNat
    let port ← readU16BE frame.ownedPayload (1 + hostLen.toNat)
    return some { host, port }

/-- `as_tunnel_data` and, as a view with its own lifetime, `as_tunnel_data_owned`. -/
def asTunnelData (frame : ProtocolFrame) : Bytes :=
  if frame.frameType ≠ .tunnelData then [] else frame.payload

def asTunnelAck (frame : ProtocolFrame) : Access (Option TunnelAckPayload) :=
  if frame.frameType ≠ .tunnelAck ∨ frame.ownedPayload.length < 4 then .ok none
  else do
    let bytesAcked ← readU32BE frame.ownedPayload 0
    return some { bytesAcked }

def asTunnelError (frame : ProtocolFrame) : Access (Option TunnelErrorPayload) :=
  if frame.frameType ≠ .tunnelError ∨ frame.ownedPayload = [] then .ok none
  else do
    let errorCode ← byteAt frame.ownedPayload 0
    if frame.ownedPayload.length > 1 then
      let description ← sliceAt frame.ownedPayload 1 (frame.ownedPayload.length - 1)
      return some { errorCode, description }
    else return some { errorCode, description := [] }

def asTunnelResumeRequest (frame : ProtocolFrame) : Access (Option TunnelResumeRequestPayload) :=
  if frame.frameType ≠ .tunnelResumeRequest ∨ frame.ownedPayload.length < 22 then .ok none
  else do
    let version ← byteAt frame.ownedPayload 0
    if version ≠ 0x01 then return none
    let priorTunnelId ← readU16BE frame.ownedPayload 1
    let lastLocalRecvOffset ← readU64BE frame.ownedPayload 3
    let lastLocalSendOffset ← readU64BE frame.ownedPayload 11
    let hostLen ← byteAt frame.ownedPayload 19
    if frame.ownedPayload.length < 20 + hostLen.toNat + 2 then return none
    let host ← sliceAt frame.ownedPayload 20 hostLen.toNat
    let targetPort ← readU16BE frame.ownedPayload (20 + hostLen.toNat)
    return some { priorTunnelId, lastLocalRecvOffset, lastLocalSendOffset, host, targetPort }

def asTunnelResumeAck (frame : ProtocolFrame) : Access (Option TunnelResumeAckPayload) :=
  if frame.frameType ≠ .tunnelResumeAck ∨ frame.ownedPayload.length < 20 then .ok none
  else do
    let version ← byteAt frame.ownedPayload 0
    if version ≠ 0x01 then return none
    let newTunnelId ← readU16BE frame.ownedPayload 1
    let serverRecvOffset ← readU64BE frame.ownedPayload 3
    let serverSendOffset ← readU64BE frame.ownedPayload 11
    let raw ← byteAt frame.ownedPayload 19
    return some { newTunnelId, serverRecvOffset, serverSendOffset, status := .ofRaw raw }

def asInfoReplyYaml (frame : ProtocolFrame) : Bytes :=
  if frame.frameType ≠ .infoReply then [] else frame.ownedPayload

end Accessors

section Serialization

/-- `std::errc::message_size`, the one error of the decoder. -/
inductive DecodeError where
  | messageSize
  deriving DecidableEq

/-- An oversized payload is cut to what the length field can express. -/
def serialize (frame : ProtocolFrame) : Bytes :=
  let payloadLen := min frame.payload.length kMaxPayloadSize
  frame.frameType.raw :: (writeU16BE frame.tunnelId ++ (writeU16BE (UInt16.ofNat payloadLen) ++
    frame.payload.take payloadLen))

/-- The payload goes into the shared slot for DATA and into the owned one else. -/
def ProtocolFrame.received (frameType : FrameType) (tunnelId : UInt16) (payload : Bytes) :
    ProtocolFrame :=
  if payload = [] then { frameType, tunnelId }
  else if data : frameType = .tunnelData then
    { frameType, tunnelId, payloadShared := some payload, one_slot := fun _ => ⟨data, rfl⟩ }
  else { frameType, tunnelId, ownedPayload := payload }

def deserialize (data : Bytes) : Access (Except DecodeError ProtocolFrame) :=
  if data.length < kFrameHeaderSize then .ok (.error .messageSize)
  else do
    let rawType ← byteAt data 0
    let tunnelId ← readU16BE data 1
    let payloadLen ← readU16BE data 3
    if data.length < kFrameHeaderSize + payloadLen.toNat then return .error .messageSize
    let payload ← sliceAt data kFrameHeaderSize payloadLen.toNat
    return .ok (.received (.ofRaw rawType) tunnelId payload)

end Serialization

section InPlace

/-- `OwnedFrameBuffer`: a reserved header in front of a payload region of which a
part is in use. -/
structure OwnedFrameBuffer where
  storage : Option Bytes := none
  payloadCapacity : Nat := 0
  payloadUsed : Nat := 0
  used_le : payloadUsed ≤ payloadCapacity := by omega
  sized : ∀ bytes ∈ storage, bytes.length = kFrameHeaderReserved + payloadCapacity := by simp

/-- Fresh storage is zero. -/
def OwnedFrameBuffer.allocate (payloadCapacity : Nat) : OwnedFrameBuffer where
  storage := some (List.replicate (kFrameHeaderReserved + payloadCapacity) 0)
  payloadCapacity := payloadCapacity

def OwnedFrameBuffer.payloadRemaining (buffer : OwnedFrameBuffer) : Nat :=
  buffer.payloadCapacity - buffer.payloadUsed

/-- `memcpy` over a part of the storage. -/
def overwrite (bytes : Bytes) (start : Nat) (data : Bytes) : Bytes :=
  bytes.take start ++ (data ++ bytes.drop (start + data.length))

theorem overwrite_length {bytes data : Bytes} {start : Nat} (inside : start + data.length ≤ bytes.length) :
    (overwrite bytes start data).length = bytes.length := by
  simp only [overwrite, List.length_append, List.length_take, List.length_drop]
  omega

/-- Appends what fits. -/
def OwnedFrameBuffer.appendPayload (buffer : OwnedFrameBuffer) (bytes : Bytes) :
    OwnedFrameBuffer where
  storage := buffer.storage.map fun storage => overwrite storage
    (kFrameHeaderReserved + buffer.payloadUsed) (bytes.take buffer.payloadRemaining)
  payloadCapacity := buffer.payloadCapacity
  payloadUsed := buffer.payloadUsed + min bytes.length buffer.payloadRemaining
  used_le := by
    have used := buffer.used_le
    simp only [OwnedFrameBuffer.payloadRemaining]
    omega
  sized := by
    intro storage stored
    obtain ⟨before, was, rfl⟩ := Option.map_eq_some_iff.mp stored
    have used := buffer.used_le
    have whole := buffer.sized before was
    rw [overwrite_length, whole]
    rw [List.length_take, whole, OwnedFrameBuffer.payloadRemaining]
    omega

def OwnedFrameBuffer.payload (buffer : OwnedFrameBuffer) : Bytes :=
  match buffer.storage with
  | none => []
  | some storage => (storage.drop kFrameHeaderReserved).take buffer.payloadUsed

def OwnedFrameBuffer.wireView (buffer : OwnedFrameBuffer) : Bytes :=
  match buffer.storage with
  | none => []
  | some storage => storage.take (kFrameHeaderReserved + buffer.payloadUsed)

/-- The six reserved bytes of a DATA frame. -/
def dataHeader (tunnelId : UInt16) (payloadUsed : Nat) : Bytes :=
  kLosslessPacketByte :: FrameType.tunnelData.raw :: (writeU16BE tunnelId ++
    writeU16BE (UInt16.ofNat (min payloadUsed kMaxPayloadSize)))

theorem dataHeader_length (tunnelId : UInt16) (payloadUsed : Nat) :
    (dataHeader tunnelId payloadUsed).length = kFrameHeaderReserved := by
  simp [dataHeader, writeU16BE, kFrameHeaderReserved]

def serializeTunnelDataInPlace (buffer : OwnedFrameBuffer) (tunnelId : UInt16) :
    OwnedFrameBuffer where
  storage := buffer.storage.map fun storage =>
    overwrite storage 0 (dataHeader tunnelId buffer.payloadUsed)
  payloadCapacity := buffer.payloadCapacity
  payloadUsed := buffer.payloadUsed
  used_le := buffer.used_le
  sized := by
    intro storage stored
    obtain ⟨before, was, rfl⟩ := Option.map_eq_some_iff.mp stored
    have whole := buffer.sized before was
    rw [overwrite_length, whole]
    rw [dataHeader_length, whole]
    omega

end InPlace

end ToxTunnel.FrameCodec
