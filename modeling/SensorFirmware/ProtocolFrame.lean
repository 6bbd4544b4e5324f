import SensorFirmware.DetectionEvent

/-!
# Frames of the BLE protocol

The message types and the frame layout of `ProtocolDefs.h`: a header of seven
bytes, the payload, and a checksum over both.  Sixteen-bit fields of the header
are big-endian, packed payload structures little-endian.
-/

namespace SensorFirmware

inductive MessageType where
  | hello
  | helloAck
  | ack
  | nack
  | heartbeat
  | ping
  | pong
  | sleep
  | detectionEvent
  | batteryStatus
  | deviceStatus
  | syncRequest
  | syncData
  | setConfig
  | getConfig
  | configData
  | calibrate
  | timeSync
  | setColors
  | setWifi
  | otaInfo
  | otaInfoResp
  | otaStart
  | otaData
  | otaDataAck
  | otaCommit
  | otaAbort
  | otaStatus
  | enterOtaMode
  | logRequest
  | logData
  | factoryReset
  | pairingMode
  | clearBonds
  deriving DecidableEq, Repr

def MessageType.code : MessageType → Byte
  | hello => 0x00#8
  | helloAck => 0x01#8
  | ack => 0x02#8
  | nack => 0x03#8
  | heartbeat => 0x04#8
  | ping => 0x05#8
  | pong => 0x06#8
  | sleep => 0x07#8
  | detectionEvent => 0x10#8
  | batteryStatus => 0x11#8
  | deviceStatus => 0x12#8
  | syncRequest => 0x13#8
  | syncData => 0x14#8
  | setConfig => 0x20#8
  | getConfig => 0x21#8
  | configData => 0x22#8
  | calibrate => 0x23#8
  | timeSync => 0x24#8
  | setColors => 0x25#8
  | setWifi => 0x26#8
  | otaInfo => 0x30#8
  | otaInfoResp => 0x31#8
  | otaStart => 0x32#8
  | otaData => 0x33#8
  | otaDataAck => 0x34#8
  | otaCommit => 0x35#8
  | otaAbort => 0x36#8
  | otaStatus => 0x37#8
  | enterOtaMode => 0x38#8
  | logRequest => 0x40#8
  | logData => 0x41#8
  | factoryReset => 0x42#8
  | pairingMode => 0x43#8
  | clearBonds => 0x44#8

namespace Protocol

def sof : Byte := 0xA5#8
def version : Byte := 0x01#8
def headerSize : ℕ := 7
def maxPayloadSize : ℕ := 500
def maxPendingMessages : ℕ := 64
def invalidAckThreshold : ℕ := 10
def securityResetWindowMs : ℕ := 60000
def maxDetectionsPerWindow : ℕ := 5
def detectionRateWindowMs : ℕ := 1000

end Protocol

/-- A 16-bit word, high byte first. -/
def be16Bytes (n : ℕ) : List Byte :=
  [BitVec.ofNat 8 (n / 256), BitVec.ofNat 8 n]

def be16 (high low : Byte) : ℕ := high.toNat * 256 + low.toNat

theorem be16_of_word {n : ℕ} (hn : n < 2 ^ 16) :
    be16 (BitVec.ofNat 8 (n / 256)) (BitVec.ofNat 8 n) = n := by
  simp only [be16, BitVec.toNat_ofNat]
  omega

/-- `buildFrame`; fails when the payload is too large. -/
def buildFrame (type : MessageType) (payload : List Byte) (seqNum : ℕ) :
    Option (List Byte) :=
  if Protocol.maxPayloadSize < payload.length then none
  else
    let content := [Protocol.sof, type.code, Protocol.version] ++
      be16Bytes seqNum ++ be16Bytes payload.length ++ payload
    let crc := calculateCRC16 content
    some (content ++ be16Bytes crc.toNat)

/-! ## Fields of a frame -/

def frameType (frame : List Byte) : Option Byte := frame[1]?

def frameSeqNum (frame : List Byte) : Option ℕ :=
  match frame with
  | _ :: _ :: _ :: high :: low :: _ => some (be16 high low)
  | _ => none

/-- The first word of the payload, where a detection event has its `id`. -/
def frameEventId (frame : List Byte) : ℕ :=
  leNat ((frame.drop Protocol.headerSize).take 4)

variable {type : MessageType} {payload frame : List Byte} {seqNum : ℕ}

theorem frameType_buildFrame
    (hbuild : buildFrame type payload seqNum = some frame) :
    frameType frame = some type.code := by
  unfold buildFrame at hbuild
  split at hbuild
  · cases hbuild
  · rw [← Option.some.inj hbuild]
    rfl

theorem frameSeqNum_buildFrame (hseq : seqNum < 2 ^ 16)
    (hbuild : buildFrame type payload seqNum = some frame) :
    frameSeqNum frame = some seqNum := by
  unfold buildFrame at hbuild
  split at hbuild
  · cases hbuild
  · rw [← Option.some.inj hbuild]
    simp only [be16Bytes, List.cons_append, List.nil_append, frameSeqNum,
      be16_of_word hseq]

/-- The frame of a detection event carries the identifier of the event. -/
theorem frameEventId_buildFrame {event : DetectionEvent}
    (hbuild : buildFrame type event.toBytes seqNum = some frame) :
    frameEventId frame = u32 event.id := by
  unfold buildFrame at hbuild
  split at hbuild
  · cases hbuild
  · rw [← Option.some.inj hbuild]
    have hlength := event.length_toBytes
    simp only [be16Bytes, List.cons_append, List.nil_append, frameEventId,
      Protocol.headerSize, List.drop_succ_cons, List.drop_zero]
    rw [List.take_append_of_le_length (by omega)]
    exact event.leNat_take_toBytes

end SensorFirmware
