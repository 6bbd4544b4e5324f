import SensorFirmware.GuardedRun
import SensorFirmware.HistoryOperations
import SensorFirmware.ProtocolHandler

/-!
# A device and one app

The device has three tasks here: the sensor task logs detections, the main
loop pumps and retries, and the BLE task runs the callbacks of the link.  Each
critical section is one step, and the program counters of the last two tasks
say where they stand between two sections, so that steps of different tasks
interleave freely.  The app receives frames and emits ACKs; frames and ACKs may
be lost, delayed and duplicated.
-/

namespace SensorFirmware

namespace DetectionDeliveryPumpConfig

def minPumpIntervalMs : ℕ := 150
def maxPendingBeforeBackoff : ℕ := 8

end DetectionDeliveryPumpConfig

namespace Delivery

/-- A frame and the place of its number: how often the numbering had been
restarted, and how many numbers had been taken since. -/
structure SentFrame where
  session : ℕ
  ordinal : ℕ
  bytes : List Byte
  deriving DecidableEq, Repr

/-- An ACK, with the frame it answers and all that the app had received when
it was emitted. -/
structure AckMessage where
  frame : SentFrame
  received : List SentFrame
  deriving DecidableEq

def AckMessage.seqNum (ack : AckMessage) : ℕ :=
  (frameSeqNum ack.frame.bytes).getD 0

/-- The app had received a detection with this identifier. -/
def AckMessage.Delivered (ack : AckMessage) (eventId : ℕ) : Prop :=
  ∃ frame ∈ ack.received,
    frameType frame.bytes = some MessageType.detectionEvent.code ∧
      frameEventId frame.bytes = eventId

/-- Where the BLE task stands: in `handleAck`, in `handleSyncRequest`, or in
the callbacks of a connect or a disconnect. -/
inductive BleTask where
  | idle
  | ackValidated (ack : AckMessage)
  | ackFound (ack : AckMessage) (i : SlotIndex) (eventId : ℕ)
  | ackMarked (ack : AckMessage) (i : SlotIndex)
  | syncing (seqNum lastSyncedId syncedCount : ℕ)
  | syncSending (seqNum syncedCount : ℕ) (event : DetectionEvent)
  | syncReplying (seqNum : ℕ)
  | connectClearing
  | connectRestarting
  | disconnectClearing
  | disconnectFinishing
  deriving DecidableEq

/-- Where the main loop stands: in `update` of the pump with an event it has
read, or in `processRetries` with a frame it has copied. -/
inductive LoopTask where
  | idle
  | pumping (event : DetectionEvent)
  | resending (frame : SentFrame)
  deriving DecidableEq

/-- The handler, and what has passed between it and the app: `numbered` are
all frames that were given a number, `sent` those that were handed to the link,
and `origins` the frame that each slot was last filled with. -/
structure Wire where
  handler : ProtocolHandler
  loopTask : LoopTask
  session : ℕ
  issued : ℕ
  origins : Vector SentFrame Protocol.maxPendingMessages
  numbered : List SentFrame
  sent : List SentFrame
  received : List SentFrame
  acks : List AckMessage

/-- `confirmed` are the marks that `handleAck` has made, with the ACK that
caused each. -/
structure World (cfg : HistoryConfig) extends Wire where
  service : HistoryService cfg
  link : BleLink
  lastPumpAttemptMs : ℕ
  bleTask : BleTask
  confirmed : List (ℕ × AckMessage)

inductive Step where
  | logDetection (locked : Bool) (clock : ClockMicros) (durationMs : ℕ)
  | pumpRead (locked : Bool) (now : ℕ)
  | pumpSend (connected locked : Bool) (now : ℕ)
  | retryRead (locked : Bool) (now : ℕ) (i : SlotIndex)
  | retrySend
  | sendOther (connected locked : Bool) (now : ℕ) (type : MessageType)
      (payload : List Byte)
  | ackArrives (index : ℕ) (locked : Bool) (now : ℕ)
  | ackLookup (locked : Bool)
  | ackMark (locked : Bool)
  | ackConfirm (locked : Bool)
  | nackArrives (locked : Bool) (nackedSeq : ℕ)
  | syncRequest (seqNum sinceId : ℕ)
  | syncRead (locked : Bool)
  | syncSend (connected locked : Bool) (now : ℕ)
  | syncReply (connected locked : Bool) (now : ℕ)
  | connect
  | subscribe (subscribed : Bool)
  | disconnect
  | clearPending (locked : Bool)
  | restartNumbering (now : ℕ)
  | finishDisconnect (now : ℕ)
  | appReceives (index : ℕ)
  | appAcks (index : ℕ)

namespace Wire

def origin (wire : Wire) (i : SlotIndex) : SentFrame :=
  getElem wire.origins i i.isLt

def afterSend (wire : Wire) (outcome : SendOutcome) : Wire :=
  match outcome.frame with
  | none => { wire with
      handler := outcome.handler
      issued := if outcome.issued then wire.issued + 1 else wire.issued }
  | some bytes =>
      let frame : SentFrame := ⟨wire.session, wire.issued, bytes⟩
      { wire with
        handler := outcome.handler
        issued := wire.issued + 1
        numbered := frame :: wire.numbered
        sent := if outcome.sent then frame :: wire.sent else wire.sent
        origins :=
          match outcome.tracked with
          | some i => wire.origins.set i frame i.isLt
          | none => wire.origins }

end Wire

namespace World

variable {cfg : HistoryConfig}

def start (cfg : HistoryConfig) : World cfg where
  handler := ProtocolHandler.construct
  service := { HistoryService.construct (RTCState.resetState cfg) with
    initialized := true }
  link := ⟨false, false⟩
  lastPumpAttemptMs := 0
  bleTask := .idle
  loopTask := .idle
  session := 0
  issued := 0
  origins := Vector.replicate _ ⟨0, 0, []⟩
  numbered := []
  sent := []
  received := []
  acks := []
  confirmed := []

/-! ## The sensor task and the main loop -/

def logDetection (world : World cfg) (locked : Bool) (clock : ClockMicros)
    (durationMs : ℕ) : Option (World cfg) :=
  (world.service.logDetection locked clock durationMs).map fun result =>
    { world with service := result.1 }

/-- `DetectionDeliveryPump::update` up to the event it reads. -/
def pumpRead (world : World cfg) (locked : Bool) (now : ℕ) :
    Option (World cfg) :=
  if sub32 now world.lastPumpAttemptMs <
      DetectionDeliveryPumpConfig.minPumpIntervalMs then some world
  else
    let attempted := { world with lastPumpAttemptMs := now }
    if !attempted.link.ready then some attempted
    else if DetectionDeliveryPumpConfig.maxPendingBeforeBackoff ≤
        attempted.handler.getPendingCount then some attempted
    else
      (attempted.service.getNextUnsynced locked).map fun event? =>
        match event? with
        | some event => { attempted with loopTask := .pumping event }
        | none => attempted

def pumpSend (world : World cfg) (event : DetectionEvent)
    (connected locked : Bool) (now : ℕ) : World cfg :=
  let outcome := world.handler.sendDetectionEvent connected world.link
    locked now event false
  { world with
    toWire := { world.toWire.afterSend outcome with loopTask := .idle } }

def retryRead (timing : TimingConfig) (world : World cfg) (locked : Bool)
    (now : ℕ) (i : SlotIndex) : World cfg :=
  let result := world.handler.retrySlot timing locked now i
  { world with
    handler := result.1
    loopTask :=
      match result.2 with
      | some bytes => .resending { world.origin i with bytes := bytes }
      | none => .idle }

def retrySend (world : World cfg) (frame : SentFrame) : World cfg :=
  { world with
    loopTask := .idle
    sent := if world.link.ready then frame :: world.sent else world.sent }

/-- Any message that asks for no ACK, from any task. -/
def sendOther (world : World cfg) (connected locked : Bool) (now : ℕ)
    (type : MessageType) (payload : List Byte) : World cfg :=
  if type = .detectionEvent then world
  else
    let outcome := world.handler.sendMessage connected world.link locked now
      type payload false
    { world with toWire := world.toWire.afterSend outcome }

/-! ## The BLE task -/

def ackArrives (world : World cfg) (ack : AckMessage) (locked : Bool)
    (now : ℕ) : World cfg :=
  let result := world.handler.validateAckSecurity locked now ack.seqNum
  { world with
    handler := result.1
    bleTask := if result.2 then .ackValidated ack else .idle }

def ackLookup (world : World cfg) (ack : AckMessage) (locked : Bool) :
    World cfg :=
  let result := world.handler.lookupAck locked ack.seqNum
  { world with
    handler := result.1
    bleTask :=
      match result.2 with
      | some (i, eventId) => .ackFound ack i eventId
      | none => .idle }

def ackMark (world : World cfg) (ack : AckMessage) (i : SlotIndex)
    (eventId : ℕ) (locked : Bool) : Option (World cfg) :=
  (world.service.markAsSynced locked eventId).map fun result =>
    { world with
      service := result.1
      bleTask := .ackMarked ack i
      confirmed :=
        if result.2 then (eventId, ack) :: world.confirmed
        else world.confirmed }

def ackConfirm (world : World cfg) (ack : AckMessage) (i : SlotIndex)
    (locked : Bool) : World cfg :=
  { world with
    handler := world.handler.confirmAck locked i ack.seqNum
    bleTask := .idle }

/-- One turn of the loop of `handleSyncRequest`, up to the event it reads. -/
def syncRead (world : World cfg)
    (seqNum lastSyncedId syncedCount : ℕ) (locked : Bool) :
    Option (World cfg) :=
  if syncedCount < 10 then
    (world.service.getEventsSince locked lastSyncedId 1).map fun result =>
      match result with
      | (true, event :: _) =>
          { world with bleTask := .syncSending seqNum syncedCount event }
      | _ => { world with bleTask := .syncReplying seqNum }
  else some { world with bleTask := .syncReplying seqNum }

def syncSend (world : World cfg) (seqNum syncedCount : ℕ)
    (event : DetectionEvent) (connected locked : Bool) (now : ℕ) :
    World cfg :=
  let outcome := world.handler.sendDetectionEvent connected world.link
    locked now event true
  { world with
    toWire := world.toWire.afterSend outcome
    bleTask :=
      if outcome.sent then .syncing seqNum event.id (u8 (syncedCount + 1))
      else .syncReplying seqNum }

def syncReply (world : World cfg) (seqNum : ℕ) (connected locked : Bool)
    (now : ℕ) : World cfg :=
  let outcome := world.handler.sendAck connected world.link locked now seqNum
  { world with
    toWire := world.toWire.afterSend outcome
    bleTask := .idle }

def connect (world : World cfg) : World cfg :=
  { world with
    link := { world.link with connected := true }
    bleTask := .connectClearing }

def disconnect (world : World cfg) : World cfg :=
  { world with
    link := ⟨false, false⟩
    bleTask := .disconnectClearing }

/-- The second part of `resetForNewConnection`, and the rest of
`onBLEConnect`. -/
def restartNumbering (world : World cfg) (now : ℕ) : World cfg :=
  { world with
    handler := world.handler.restartNumbering
    service := world.service.setBleConnected true now
    session := world.session + 1
    issued := 0
    bleTask := .idle }

/-! ## The step function -/

/-- A step that the task is not at leaves the world as it is. -/
def step (timing : TimingConfig) (world : World cfg) (input : Step) :
    Option (World cfg) :=
  match input, world.bleTask, world.loopTask with
  | .logDetection locked clock durationMs, _, _ =>
      world.logDetection locked clock durationMs
  | .sendOther connected locked now type payload, _, _ =>
      some (world.sendOther connected locked now type payload)
  | .pumpRead locked now, _, .idle => world.pumpRead locked now
  | .pumpSend connected locked now, _, .pumping event =>
      some (world.pumpSend event connected locked now)
  | .retryRead locked now i, _, .idle =>
      some (world.retryRead timing locked now i)
  | .retrySend, _, .resending frame => some (world.retrySend frame)
  | .ackArrives index locked now, .idle, _ =>
      match world.acks[index]? with
      | some ack => some (world.ackArrives ack locked now)
      | none => some world
  | .ackLookup locked, .ackValidated ack, _ =>
      some (world.ackLookup ack locked)
  | .ackMark locked, .ackFound ack i eventId, _ =>
      world.ackMark ack i eventId locked
  | .ackConfirm locked, .ackMarked ack i, _ =>
      some (world.ackConfirm ack i locked)
  | .nackArrives locked nackedSeq, .idle, _ =>
      some { world with
        handler := world.handler.handleNack locked nackedSeq }
  | .syncRequest seqNum sinceId, .idle, _ =>
      some { world with bleTask := .syncing seqNum sinceId 0 }
  | .syncRead locked, .syncing seqNum lastSyncedId syncedCount, _ =>
      world.syncRead seqNum lastSyncedId syncedCount locked
  | .syncSend connected locked now,
      .syncSending seqNum syncedCount event, _ =>
      some (world.syncSend seqNum syncedCount event connected locked now)
  | .syncReply connected locked now, .syncReplying seqNum, _ =>
      some (world.syncReply seqNum connected locked now)
  | .connect, .idle, _ => some world.connect
  | .subscribe subscribed, .idle, _ =>
      some { world with
        link := { world.link with subscribed := subscribed } }
  | .disconnect, .idle, _ => some world.disconnect
  | .clearPending locked, .connectClearing, _ =>
      some { world with
        handler := world.handler.clearAllPending locked
        bleTask := .connectRestarting }
  | .restartNumbering now, .connectRestarting, _ =>
      some (world.restartNumbering now)
  | .clearPending locked, .disconnectClearing, _ =>
      some { world with
        handler := world.handler.clearAllPending locked
        bleTask := .disconnectFinishing }
  | .finishDisconnect now, .disconnectFinishing, _ =>
      some { world with
        service := world.service.setBleConnected false now
        bleTask := .idle }
  | .appReceives index, _, _ =>
      match world.sent[index]? with
      | some frame =>
          some { world with received := frame :: world.received }
      | none => some world
  | .appAcks index, _, _ =>
      match world.received[index]? with
      | some frame =>
          some { world with acks := ⟨frame, world.received⟩ :: world.acks }
      | none => some world
  | _, _, _ => some world

def run (timing : TimingConfig) (world : World cfg) (inputs : List Step) :
    Option (World cfg) :=
  GuardedRun.attempt (step timing) world inputs

end World

end Delivery

end SensorFirmware
