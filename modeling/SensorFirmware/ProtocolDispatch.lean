import SensorFirmware.ConfigStore
import SensorFirmware.HistoryPersistence
import SensorFirmware.OtaManager
import SensorFirmware.ProtocolHandler

/-!
# Received messages

`processReceived` and the handlers that it dispatches to, over the services
that they touch.  A reaction collects the messages that a handler asks to send
and the calls that leave the modelled parts.
-/

namespace SensorFirmware

inductive ErrorCode where
  | none
  | crcMismatch
  | seqOutOfOrder
  | invalidLength
  | unknownMsg
  | invalidState
  | busy
  | flashWrite
  | lowBattery
  | notBonded
  | invalidPayload
  | timeout
  | otaFailed
  | calibration
  | sensor
  | internal
  deriving DecidableEq, Repr

def ErrorCode.code : ErrorCode → Byte
  | none => 0x00#8
  | crcMismatch => 0x01#8
  | seqOutOfOrder => 0x02#8
  | invalidLength => 0x03#8
  | unknownMsg => 0x04#8
  | invalidState => 0x05#8
  | busy => 0x06#8
  | flashWrite => 0x07#8
  | lowBattery => 0x08#8
  | notBonded => 0x09#8
  | invalidPayload => 0x0A#8
  | timeout => 0x0B#8
  | otaFailed => 0x0C#8
  | calibration => 0x0D#8
  | sensor => 0x0E#8
  | internal => 0xFF#8

namespace MessageType

/-- The messages that `dispatchMessage` has a case for. -/
def handled : List MessageType :=
  [hello, ack, nack, heartbeat, ping, syncRequest, timeSync, calibrate,
    setConfig, getConfig, sleep, otaInfo, otaStart, otaData, otaCommit,
    otaAbort, enterOtaMode, pairingMode, clearBonds, setWifi]

def ofCode (code : Byte) : Option MessageType :=
  handled.find? fun type => type.code == code

end MessageType

/-! ## Frames that come in -/

namespace Protocol

def crcSize : ℕ := 2
def minFrameSize : ℕ := headerSize + crcSize

end Protocol

structure ReceivedMessage where
  msgType : Byte
  seqNum : ℕ
  payload : List Byte
  deriving DecidableEq, Repr

/-- The frame is as long as it says when two bytes follow the payload. -/
def parseFrame (data : List Byte) : Option ReceivedMessage :=
  match data with
  | sof :: msgType :: version :: seqHigh :: seqLow :: lenHigh :: lenLow ::
      rest =>
      let length := be16 lenHigh lenLow
      if data.length < Protocol.minFrameSize then none
      else if sof ≠ Protocol.sof then none
      else if version ≠ Protocol.version ∨
          Protocol.maxPayloadSize < length then none
      else
        match rest.drop length with
        | [crcHigh, crcLow] =>
            let checked := data.take (data.length - Protocol.crcSize)
            if be16 crcHigh crcLow ≠ (calculateCRC16 checked).toNat then none
            else some ⟨msgType, be16 seqHigh seqLow, rest.take length⟩
        | _ => none
  | _ => none

def be32Bytes (n : ℕ) : List Byte :=
  be16Bytes (n / 65536) ++ be16Bytes n

def be32 : List Byte → Option ℕ
  | b₀ :: b₁ :: b₂ :: b₃ :: _ => some (be16 b₀ b₁ * 65536 + be16 b₂ b₃)
  | _ => none

theorem be32_be32Bytes {n : ℕ} (hn : n < 2 ^ 32) (rest : List Byte) :
    be32 (be32Bytes n ++ rest) = some n := by
  simp only [be32Bytes, be16Bytes, be32, be16, List.cons_append,
    List.nil_append, BitVec.toNat_ofNat]
  congr 1
  omega

/-! ## What a message meets and what it causes -/

/-- What one call of `sendMessage` meets. -/
structure SendEnv where
  connected : Bool
  link : BleLink
  locked : Bool
  now : ℕ

/-- What the handling of one message meets outside the device: the mutexes,
the clocks and the readings.  Sends and queries are numbered in their order. -/
structure MessageEnv where
  send : ℕ → SendEnv
  countLocked : Bool
  validateLocked : Bool
  lookupLocked : Bool
  confirmLocked : Bool
  clearLocked : Bool
  historyLocked : Bool
  eventsLocked : ℕ → Bool
  configLocked : Bool
  now : ℕ
  uptime : ℕ
  batteryPercent : ℕ
  isCharging : Bool
  bondCount : ℕ
  hardwareId : List Byte
  calibration : Option (ℕ × ℕ)
  partitionSize : Option ℕ
  flush : FlushEnv

/-- A subscribed peer, and every mutex free. -/
def SendEnv.good : SendEnv := ⟨true, ⟨true, true⟩, true, 1000⟩

def MessageEnv.good : MessageEnv where
  send := fun _ => .good
  countLocked := true
  validateLocked := true
  lookupLocked := true
  confirmLocked := true
  clearLocked := true
  historyLocked := true
  eventsLocked := fun _ => true
  configLocked := true
  now := 1000
  uptime := 1000
  batteryPercent := 80
  isCharging := false
  bondCount := 1
  hardwareId := []
  calibration := none
  partitionSize := none
  flush := .good

/-- Calls of parts that are not modelled here. -/
inductive DeviceCall where
  | activityDetected
  | setClock (clock : ClockMicros)
  | timeSyncReceived (epochSeconds : ℕ)
  | calibrateRequested
  | suppressDetections (durationMs : ℕ)
  | setUserSensitivity (sensitivity : ℕ)
  | sleepCommandReceived
  | enablePairingMode
  | deleteAllBonds
  | rebootIntoFlasher
  deriving DecidableEq

/-- A message that a handler has asked to send. -/
structure Reply where
  type : MessageType
  payload : List Byte
  frame : Option (List Byte)
  sent : Bool
  deriving DecidableEq

/-- `restarting` once a handler has called for a reboot. -/
structure ProtocolDevice (cfg : HistoryConfig) (σ : Type) where
  handler : ProtocolHandler
  history : HistoryService cfg
  nvs : HistoryNvs cfg
  config : ConfigService
  ota : Ota σ
  restarting : Bool

/-- A device after `setup` on its first boot. -/
def ProtocolDevice.setUp (cfg : HistoryConfig) {σ : Type} (updater : σ) :
    ProtocolDevice cfg σ where
  handler := .construct
  history := { HistoryService.construct (.resetState cfg) with
    initialized := true }
  nvs := .empty cfg
  config := { ConfigService.construct 0 with initialized := true }
  ota := .fresh true updater
  restarting := false

structure Reaction (cfg : HistoryConfig) (σ : Type) extends
    ProtocolDevice cfg σ where
  replies : List Reply
  calls : List DeviceCall

variable {cfg : HistoryConfig} {σ : Type}

def ProtocolDevice.react (device : ProtocolDevice cfg σ) : Reaction cfg σ where
  toProtocolDevice := device
  replies := []
  calls := []

/-- The payload of a 20-byte `HelloAckPayload` as it is declared, followed by
the members that `sendHelloAck` fills besides. -/
structure HelloAck where
  fwMajor : ℕ
  fwMinor : ℕ
  fwPatch : ℕ
  buildType : ℕ
  buildNumber : ℕ
  batteryPercent : ℕ
  isCharging : Bool
  lastEventId : ℕ
  currentMillis : ℕ
  bondedDevices : ℕ
  sensitivity : ℕ
  configCrc32 : BitVec 32
  configSignature : ℕ
  hardwareId : List Byte

def HelloAck.toBytes (hello : HelloAck) : List Byte :=
  leBytes 1 hello.fwMajor ++ leBytes 1 hello.fwMinor ++
    leBytes 1 hello.fwPatch ++ leBytes 1 hello.buildType ++
    leBytes 4 hello.buildNumber ++ leBytes 1 hello.batteryPercent ++
    leBytes 1 hello.isCharging.toNat ++ leBytes 4 hello.lastEventId ++
    leBytes 4 hello.currentMillis ++ leBytes 1 hello.bondedDevices ++
    leBytes 1 hello.sensitivity ++ leBytes 4 hello.configCrc32.toNat ++
    leBytes 4 hello.configSignature ++ hello.hardwareId.take 6 ++ leBytes 2 0

def firmwareInfo (cfg : OtaConfig) (partitionSize : Option ℕ) : List Byte :=
  leBytes 1 cfg.firmwareMajor ++ leBytes 1 cfg.firmwareMinor ++
    leBytes 1 cfg.firmwarePatch ++ leBytes 1 cfg.firmwareBuildType ++
    leBytes 4 0 ++ leBytes 4 (partitionSize.getD 0) ++ leBytes 1 100 ++
    leBytes 3 0

/-- `(int16_t)(seqNum - last) <= 0`. -/
def seqNotAfter (last seqNum : ℕ) : Bool :=
  sub16 seqNum last == 0 || decide (2 ^ 15 ≤ sub16 seqNum last)

def seqStale (last : Option ℕ) (seqNum : ℕ) : Bool :=
  last.any fun last => seqNotAfter last seqNum

namespace ConfigId

def sensitivity : Byte := 0x01#8
def ledBrightness : Byte := 0x02#8

end ConfigId

namespace ProtocolHandler

def countError (handler : ProtocolHandler) : ProtocolHandler :=
  { handler with errorCount := u32 (handler.errorCount + 1) }

def countReceived (handler : ProtocolHandler) (locked : Bool) :
    ProtocolHandler :=
  if locked then { handler with rxCount := u32 (handler.rxCount + 1) }
  else handler

/-- The number of the last SET_CONFIG, once there is one. -/
def configNumber (handler : ProtocolHandler) : Option ℕ :=
  if handler.configSeqInitialized then some handler.lastConfigSeqNum
  else none

def noteConfigSeq (handler : ProtocolHandler) (seqNum : ℕ) :
    ProtocolHandler :=
  { handler with
    lastConfigSeqNum := seqNum
    configSeqInitialized := true }

end ProtocolHandler

/-! ## Handlers -/

namespace Reaction

variable (env : MessageEnv)

def withHandler (r : Reaction cfg σ) (handler : ProtocolHandler) :
    Reaction cfg σ :=
  { r with handler := handler }

def call (r : Reaction cfg σ) (call : DeviceCall) : Reaction cfg σ :=
  { r with calls := r.calls ++ [call] }

def afterSend (r : Reaction cfg σ) (type : MessageType) (payload : List Byte)
    (outcome : SendOutcome) : Reaction cfg σ :=
  { r with
    handler := outcome.handler
    replies := r.replies ++ [⟨type, payload, outcome.frame, outcome.sent⟩] }

def sendMessage (r : Reaction cfg σ) (type : MessageType)
    (payload : List Byte) : Reaction cfg σ :=
  let here := env.send r.replies.length
  r.afterSend type payload (r.handler.sendMessage here.connected here.link
    here.locked here.now type payload false)

def sendAck (r : Reaction cfg σ) (seqNum : ℕ) : Reaction cfg σ :=
  r.sendMessage env .ack (be16Bytes seqNum)

def sendNack (r : Reaction cfg σ) (seqNum : ℕ) (error : ErrorCode) :
    Reaction cfg σ :=
  r.sendMessage env .nack (be16Bytes seqNum ++ [error.code])

def sendAll (r : Reaction cfg σ) (replies : List OtaReply) :
    Reaction cfg σ :=
  replies.foldl (fun r reply => r.sendMessage env reply.type reply.payload) r

def sendHelloAck (ota : OtaConfig) (r : Reaction cfg σ) : Reaction cfg σ :=
  r.sendMessage env .helloAck (HelloAck.toBytes {
    fwMajor := ota.firmwareMajor
    fwMinor := ota.firmwareMinor
    fwPatch := ota.firmwarePatch
    buildType := ota.firmwareBuildType
    buildNumber := 0
    batteryPercent := env.batteryPercent
    isCharging := env.isCharging
    lastEventId := r.history.state.globalEventId
    currentMillis := env.uptime
    bondedDevices := env.bondCount
    sensitivity := r.config.config.sensitivity
    configCrc32 := r.config.config.crc32
    configSignature := r.config.config.signature
    hardwareId := env.hardwareId })

def sendConfigData (r : Reaction cfg σ) : Reaction cfg σ :=
  r.sendMessage env .configData
    (leBytes 1 r.config.config.sensitivity ++
      leBytes 1 r.config.config.ledBrightness ++ leBytes 2 0)

/-- `fastForwardEventId` with the flush that it falls back to. -/
def fastForward (r : Reaction cfg σ) (newId : ℕ) : Reaction cfg σ :=
  let forwarded := r.history.fastForwardEventId env.historyLocked newId
  if forwarded.2 then
    let flushed := forwarded.1.flushToNvs r.nvs env.flush
    { r with history := flushed.1, nvs := flushed.2.1 }
  else { r with history := forwarded.1 }

/-- The identifier in the payload, if it is long enough to have one. -/
def helloEventId : List Byte → Option ℕ
  | _ :: rest => be32 rest
  | [] => none

def handleHello (ota : OtaConfig) (r : Reaction cfg σ) (seqNum : ℕ)
    (payload : List Byte) : Reaction cfg σ :=
  let r :=
    match helloEventId payload with
    | some appLastEventId =>
        if r.history.state.globalEventId < appLastEventId then
          r.fastForward env appLastEventId
        else r
    | none => r
  (r.sendHelloAck env ota).sendAck env seqNum

def handleAck (r : Reaction cfg σ) :
    List Byte → Option (Reaction cfg σ)
  | high :: low :: _ =>
      let ackedSeq := be16 high low
      let valid := r.handler.validateAckSecurity env.validateLocked env.now
        ackedSeq
      let r := r.withHandler valid.1
      if !valid.2 then some r
      else
        let found := r.handler.lookupAck env.lookupLocked ackedSeq
        let r := r.withHandler found.1
        match found.2 with
        | none => some r
        | some (i, eventId) =>
            (r.history.markAsSynced env.historyLocked eventId).map
              fun marked =>
                { r with
                  history := marked.1
                  handler := r.handler.confirmAck env.confirmLocked i
                    ackedSeq }
  | _ => some r

def handleNack (r : Reaction cfg σ) : List Byte → Reaction cfg σ
  | high :: low :: _ :: _ =>
      r.withHandler (r.handler.handleNack env.clearLocked (be16 high low))
  | _ => r

def handlePing (r : Reaction cfg σ) (seqNum : ℕ) : Reaction cfg σ :=
  (r.sendMessage env .pong []).sendAck env seqNum

/-- `others` is what other tasks do to the handler before a send; `left` counts
the turns that are left of the ten. -/
def syncEvents (others : ℕ → ProtocolHandler → ProtocolHandler) :
    ℕ → ℕ → Reaction cfg σ → Option (Reaction cfg σ)
  | 0, _, r => some r
  | left + 1, lastSyncedId, r =>
      (r.history.getEventsSince (env.eventsLocked left) lastSyncedId 1).bind
        fun result =>
          match result with
          | (true, event :: _) =>
              let here := env.send r.replies.length
              let outcome :=
                (others r.replies.length r.handler).sendDetectionEvent
                  here.connected here.link here.locked here.now event true
              let r := r.afterSend .detectionEvent event.toBytes outcome
              if outcome.sent then syncEvents others left event.id r
              else some r
          | _ => some r

def handleSyncRequest (others : ℕ → ProtocolHandler → ProtocolHandler)
    (r : Reaction cfg σ) (seqNum : ℕ) (payload : List Byte) :
    Option (Reaction cfg σ) :=
  match be32 payload with
  | none => some (r.sendNack env seqNum .invalidPayload)
  | some sinceId =>
      (r.syncEvents env others 10 sinceId).map fun r => r.sendAck env seqNum

/-- `sizeof(TimeSyncPayload)` is six. -/
def handleTimeSync (r : Reaction cfg σ) (seqNum : ℕ) (payload : List Byte) :
    Option (Reaction cfg σ) :=
  if payload.length < 6 then some (r.sendNack env seqNum .invalidPayload)
  else
    let epochSeconds := bytesAt payload 0 4
    (r.history.applyTimeSync env.historyLocked env.now epochSeconds).map
      fun synced =>
        let r := { r with
          history := synced.1
          config := r.config.updateLastKnownEpoch env.configLocked
            epochSeconds
          calls := r.calls ++ synced.2.toList.map DeviceCall.setClock }
        (r.call (.timeSyncReceived epochSeconds)).sendAck env seqNum

def handleCalibrate (r : Reaction cfg σ) (seqNum : ℕ) : Reaction cfg σ :=
  let r :=
    match env.calibration with
    | some (wakeThresh, hitThresh) =>
        (r.call .calibrateRequested).sendMessage env .configData
          (be16Bytes wakeThresh ++ be16Bytes hitThresh)
    | none => r
  r.sendAck env seqNum

/-- The end of `handleSetConfig` once a setter was called. -/
def configSet (r : Reaction cfg σ) (seqNum : ℕ) : Reaction cfg σ :=
  ((r.withHandler (r.handler.noteConfigSeq seqNum)).sendAck env
    seqNum).sendConfigData env

/-- The sensor is silenced before the value is looked at. -/
def applySetting (r : Reaction cfg σ) (seqNum : ℕ) (configId value : Byte) :
    Reaction cfg σ :=
  if configId = ConfigId.sensitivity then
    let r := r.call (.suppressDetections 500)
    if 100 < value.toNat then r.sendNack env seqNum .invalidPayload
    else
      let set := r.config.setSensitivity env.configLocked value.toNat
      { r with
        config := set.1
        calls := r.calls ++ set.2.toList.map
          DeviceCall.setUserSensitivity }.configSet env seqNum
  else if configId = ConfigId.ledBrightness then
    { r with
      config := r.config.setLedBrightness env.configLocked
        value.toNat }.configSet env seqNum
  else r.sendNack env seqNum .invalidPayload

/-- `sizeof(SetConfigPayload)` is four. -/
def handleSetConfig (r : Reaction cfg σ) (seqNum : ℕ)
    (payload : List Byte) : Reaction cfg σ :=
  if seqStale r.handler.configNumber seqNum then r.sendAck env seqNum
  else
    match payload with
    | configId :: value :: _ :: _ :: _ =>
        r.applySetting env seqNum configId value
    | _ => r.sendNack env seqNum .invalidPayload

def handleGetConfig (r : Reaction cfg σ) (seqNum : ℕ) : Reaction cfg σ :=
  (r.sendAck env seqNum).sendConfigData env

def handleSleepCommand (r : Reaction cfg σ) (seqNum : ℕ) : Reaction cfg σ :=
  (r.sendAck env seqNum).call .sleepCommandReceived

def handlePairingMode (r : Reaction cfg σ) (seqNum : ℕ) : Reaction cfg σ :=
  (r.call .enablePairingMode).sendAck env seqNum

def handleClearBonds (r : Reaction cfg σ) (seqNum : ℕ) : Reaction cfg σ :=
  ((r.call .deleteAllBonds).call .enablePairingMode).sendAck env seqNum

/-- Provisioning is disabled: the credentials are acknowledged and dropped. -/
def handleSetWifi (r : Reaction cfg σ) (seqNum : ℕ) : Reaction cfg σ :=
  r.sendAck env seqNum

def handleOtaInfo (ota : OtaConfig) (r : Reaction cfg σ) (seqNum : ℕ) :
    Reaction cfg σ :=
  (r.sendMessage env .otaInfoResp
    (firmwareInfo ota env.partitionSize)).sendAck env seqNum

/-- Take over what the update manager has done, and send what it asked for. -/
def afterOta (r : Reaction cfg σ) (result : OtaResult σ) : Reaction cfg σ :=
  { r with
    ota := result.ota
    restarting := r.restarting || result.ota.restarted }.sendAll env
      result.replies

/-- Nothing is answered after a restart. -/
def answerOta (r : Reaction cfg σ) (seqNum : ℕ) (ok : Bool) :
    Reaction cfg σ :=
  if r.restarting then r
  else if ok then r.sendAck env seqNum
  else r.sendNack env seqNum .otaFailed

def handleOtaStart (ota : OtaConfig) (lib : UpdateLibrary σ Byte)
    (r : Reaction cfg σ) (seqNum : ℕ) (payload : List Byte) :
    Reaction cfg σ :=
  let result := r.ota.handleStart ota lib payload env.partitionSize env.now
  (r.afterOta env result).answerOta env seqNum result.ok

/-- A chunk is answered by the update manager alone. -/
def handleOtaData (lib : UpdateLibrary σ Byte) (r : Reaction cfg σ)
    (seqNum : ℕ) : List Byte → Reaction cfg σ
  | high :: low :: firmwareData =>
      r.afterOta env
        (r.ota.handleData lib (be16 high low) firmwareData env.now)
  | _ => r.sendNack env seqNum .invalidState

def handleOtaCommit (lib : UpdateLibrary σ Byte) (r : Reaction cfg σ)
    (seqNum : ℕ) : Reaction cfg σ :=
  let result := r.ota.handleCommit lib
  (r.afterOta env result).answerOta env seqNum result.ok

def handleOtaAbort (lib : UpdateLibrary σ Byte) (r : Reaction cfg σ)
    (seqNum : ℕ) : Reaction cfg σ :=
  (r.afterOta env (r.ota.handleAbort lib)).sendAck env seqNum

def handleEnterOtaMode (r : Reaction cfg σ) (seqNum : ℕ) : Reaction cfg σ :=
  { (r.sendAck env seqNum).call .rebootIntoFlasher with restarting := true }

/-! ## Dispatch -/

def isActivityMessage (code : Byte) : Bool :=
  code != MessageType.heartbeat.code && code != MessageType.ack.code &&
    code != MessageType.nack.code

/-- No other task interferes with the handler here. -/
def dispatchMessage (ota : OtaConfig) (lib : UpdateLibrary σ Byte)
    (r : Reaction cfg σ) (message : ReceivedMessage) :
    Option (Reaction cfg σ) :=
  let seqNum := message.seqNum
  let payload := message.payload
  let r :=
    if isActivityMessage message.msgType then r.call .activityDetected else r
  match MessageType.ofCode message.msgType with
  | some .hello => some (r.handleHello env ota seqNum payload)
  | some .ack => r.handleAck env payload
  | some .nack => some (r.handleNack env payload)
  | some .heartbeat => some r
  | some .ping => some (r.handlePing env seqNum)
  | some .syncRequest =>
      r.handleSyncRequest env (fun _ handler => handler) seqNum payload
  | some .timeSync => r.handleTimeSync env seqNum payload
  | some .calibrate => some (r.handleCalibrate env seqNum)
  | some .setConfig => some (r.handleSetConfig env seqNum payload)
  | some .getConfig => some (r.handleGetConfig env seqNum)
  | some .sleep => some (r.handleSleepCommand env seqNum)
  | some .otaInfo => some (r.handleOtaInfo env ota seqNum)
  | some .otaStart => some (r.handleOtaStart env ota lib seqNum payload)
  | some .otaData => some (r.handleOtaData env lib seqNum payload)
  | some .otaCommit => some (r.handleOtaCommit env lib seqNum)
  | some .otaAbort => some (r.handleOtaAbort env lib seqNum)
  | some .enterOtaMode => some (r.handleEnterOtaMode env seqNum)
  | some .pairingMode => some (r.handlePairingMode env seqNum)
  | some .clearBonds => some (r.handleClearBonds env seqNum)
  | some .setWifi => some (r.handleSetWifi env seqNum)
  | _ => some (r.sendNack env seqNum .unknownMsg)

/-- A frame that does not parse is refused by the number at its place. -/
def processReceived (ota : OtaConfig) (lib : UpdateLibrary σ Byte)
    (r : Reaction cfg σ) (data : List Byte) : Option (Reaction cfg σ) :=
  if !r.handler.initialized then some r
  else
    match parseFrame data with
    | none =>
        let r := r.withHandler r.handler.countError
        match frameSeqNum data with
        | some seqNum => some (r.sendNack env seqNum .crcMismatch)
        | none => some r
    | some message =>
        (r.withHandler
          (r.handler.countReceived env.countLocked)).dispatchMessage env ota
            lib message

end Reaction

/-! ## Retries -/

/-- What one pass of `processRetries` meets. -/
structure RetryEnv where
  connected : Bool
  now : ℕ
  locked : SlotIndex → Bool
  link : SlotIndex → BleLink

namespace ProtocolHandler

/-- The second result has the frames that were handed to the link, in their
order. -/
def retryEach (timing : TimingConfig) (env : RetryEnv)
    (handler : ProtocolHandler) :
    List SlotIndex → ProtocolHandler × List (List Byte)
  | [] => (handler, [])
  | i :: rest =>
      let result := handler.retrySlot timing (env.locked i) env.now i
      let later := retryEach timing env result.1 rest
      let resent := if (env.link i).ready then result.2.toList else []
      (later.1, resent ++ later.2)

def processRetries (timing : TimingConfig) (env : RetryEnv)
    (handler : ProtocolHandler) : ProtocolHandler × List (List Byte) :=
  if handler.initialized && env.connected then
    handler.retryEach timing env (List.finRange _)
  else (handler, [])

end ProtocolHandler

end SensorFirmware
