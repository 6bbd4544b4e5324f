import SensorFirmware.HistoryOperations

/-!
# Flash backup of the ring and boot

The backup is five independent keys of the `devicedata` namespace.  Every put
is atomic and either succeeds or fails; power may be lost between two puts.
`restoreFromNvs` reads the five keys back, and `init` decides from its result
whether a backup exists.
-/

namespace SensorFirmware

variable {cfg : HistoryConfig}

/-- The keys `bootCnt`, `eventId`, `head`, `tail` and `events`.  A blob that
is not exactly one buffer long only fills the stack buffer in part, so it
counts as absent here and shows in the stack contents instead. -/
structure HistoryNvs (cfg : HistoryConfig) where
  namespaceExists : Bool
  bootCnt : Option ℕ
  eventId : Option ℕ
  head : Option ℕ
  tail : Option ℕ
  events : Option (Vector DetectionEvent cfg.bufferSize)
  deriving DecidableEq

/-- The local copies that `flushToNvs` takes under the mutex. -/
structure FlushSnapshot (cfg : HistoryConfig) where
  bootCount : ℕ
  eventId : ℕ
  head : ℕ
  tail : ℕ
  buffer : Vector DetectionEvent cfg.bufferSize
  deriving DecidableEq

namespace FlushSnapshot

/-- The live events that a restored snapshot gives. -/
def ringWindow (snapshot : FlushSnapshot cfg) : List DetectionEvent :=
  CyclicBuffer.window snapshot.buffer snapshot.tail snapshot.head

end FlushSnapshot

def RTCState.snapshot (state : RTCState cfg) : FlushSnapshot cfg where
  bootCount := state.bootCount
  eventId := state.globalEventId
  head := state.head
  tail := state.tail
  buffer := state.buffer

inductive NvsKey where
  | bootCnt
  | eventId
  | head
  | tail
  | events
  deriving DecidableEq, Repr

structure PutAttempt where
  key : NvsKey
  ok : Bool
  deriving DecidableEq, Repr

namespace HistoryNvs

def empty (cfg : HistoryConfig) : HistoryNvs cfg where
  namespaceExists := false
  bootCnt := none
  eventId := none
  head := none
  tail := none
  events := none

def put (nvs : HistoryNvs cfg) (snapshot : FlushSnapshot cfg) :
    NvsKey → HistoryNvs cfg
  | .bootCnt => { nvs with bootCnt := some snapshot.bootCount }
  | .eventId => { nvs with eventId := some snapshot.eventId }
  | .head => { nvs with head := some snapshot.head }
  | .tail => { nvs with tail := some snapshot.tail }
  | .events => { nvs with events := some snapshot.buffer }

def attempt (snapshot : FlushSnapshot cfg) (nvs : HistoryNvs cfg)
    (put : PutAttempt) : HistoryNvs cfg :=
  if put.ok then nvs.put snapshot put.key else nvs

def applyPuts (nvs : HistoryNvs cfg) (snapshot : FlushSnapshot cfg)
    (puts : List PutAttempt) : HistoryNvs cfg :=
  puts.foldl (attempt snapshot) nvs

def ofSnapshot (snapshot : FlushSnapshot cfg) : HistoryNvs cfg where
  namespaceExists := true
  bootCnt := some snapshot.bootCount
  eventId := some snapshot.eventId
  head := some snapshot.head
  tail := some snapshot.tail
  events := some snapshot.buffer

end HistoryNvs

/-- Outcomes of the puts: four scalars once each, the blob up to three
times. -/
structure PutOutcomes where
  bootCnt : Bool
  eventId : Bool
  head : Bool
  tail : Bool
  events : Fin 3 → Bool

def PutOutcomes.allOk : PutOutcomes := ⟨true, true, true, true, fun _ => true⟩

/-- The blob is tried again until it is written whole. -/
def eventPuts (ok : Fin 3 → Bool) : List PutAttempt :=
  if ok 0 then [⟨.events, true⟩]
  else if ok 1 then [⟨.events, false⟩, ⟨.events, true⟩]
  else [⟨.events, false⟩, ⟨.events, false⟩, ⟨.events, ok 2⟩]

def flushPuts (outcomes : PutOutcomes) : List PutAttempt :=
  [⟨.bootCnt, outcomes.bootCnt⟩, ⟨.eventId, outcomes.eventId⟩,
    ⟨.head, outcomes.head⟩, ⟨.tail, outcomes.tail⟩] ++
    eventPuts outcomes.events

def PutOutcomes.complete (outcomes : PutOutcomes) : Bool :=
  (outcomes.events 0 || outcomes.events 1 || outcomes.events 2) &&
    (outcomes.bootCnt && outcomes.eventId && outcomes.head && outcomes.tail)

/-- What `Preferences` reports: the number of bytes stored. -/
def putULong (ok : Bool) : ℕ := if ok then 4 else 0

def putUShort (ok : Bool) : ℕ := if ok then 2 else 0

/-- `success &= stored`, a bitwise operation on the two integers. -/
def andStored (success : Bool) (stored : ℕ) : Bool :=
  success.toNat &&& stored != 0

/-- The flag that `flushToNvs` returns after its puts. -/
def PutOutcomes.returned (outcomes : PutOutcomes) : Bool :=
  let success := andStored true (putULong outcomes.bootCnt)
  let success := andStored success (putULong outcomes.eventId)
  let success := andStored success (putUShort outcomes.head)
  let success := andStored success (putUShort outcomes.tail)
  (outcomes.events 0 || outcomes.events 1 || outcomes.events 2) && success

/-- What `flushToNvs` meets outside the service. -/
structure FlushEnv where
  batteryCritical : Bool
  charging : Bool
  pairingModeEnabled : Bool
  locked : Bool
  beginOk : Bool
  outcomes : PutOutcomes

def FlushEnv.good : FlushEnv where
  batteryCritical := false
  charging := false
  pairingModeEnabled := false
  locked := true
  beginOk := true
  outcomes := .allOk

namespace HistoryService

/-- The service, the flash contents and the returned flag.  The flush
bookkeeping is reset before the namespace is opened. -/
def flushToNvs (service : HistoryService cfg) (nvs : HistoryNvs cfg)
    (env : FlushEnv) : HistoryService cfg × HistoryNvs cfg × Bool :=
  if !service.initialized || (env.batteryCritical && !env.charging) ||
      env.pairingModeEnabled || !env.locked then
    (service, nvs, false)
  else
    let snapshot := service.state.snapshot
    let service := { service with
      lastNvsFlushId := service.state.globalEventId
      eventsSinceFlush := 0 }
    if env.beginOk then
      (service,
        { nvs with namespaceExists := true }.applyPuts snapshot
          (flushPuts env.outcomes),
        env.outcomes.returned)
    else (service, nvs, false)

/-- Flash contents when power is lost after `count` puts. -/
def flushInterrupted (service : HistoryService cfg) (nvs : HistoryNvs cfg)
    (outcomes : PutOutcomes) (count : ℕ) : HistoryNvs cfg :=
  { nvs with namespaceExists := true }.applyPuts service.state.snapshot
    ((flushPuts outcomes).take count)

/-- The five values that `restoreFromNvs` reads.  `stack` is the content of
its local buffer where `getBytes` does not write. -/
def nvsSnapshot (nvs : HistoryNvs cfg)
    (stack : Vector DetectionEvent cfg.bufferSize) : FlushSnapshot cfg where
  bootCount := nvs.bootCnt.getD 0
  eventId := nvs.eventId.getD 0
  head := nvs.head.getD 0
  tail := nvs.tail.getD 0
  buffer := nvs.events.getD stack

/-- The RTC state that a snapshot is restored to. -/
def restoredState (snapshot : FlushSnapshot cfg) : RTCState cfg :=
  RTCState.updateCRC {
    magicNumber := cfg.rtcMagicNumber
    crc32 := 0#32
    bootCount := snapshot.bootCount
    head := snapshot.head
    tail := snapshot.tail
    globalEventId := snapshot.eventId
    buffer := snapshot.buffer }

/-- Returns the restored event count, narrowed to eight bits. -/
def restoreFromNvs (service : HistoryService cfg) (nvs : HistoryNvs cfg)
    (stack : Vector DetectionEvent cfg.bufferSize) (locked : Bool) :
    HistoryService cfg × ℕ :=
  if nvs.namespaceExists && nvs.eventId.isSome && locked then
    let state := restoredState (nvsSnapshot nvs stack)
    ({ service with
        state := state
        lastNvsFlushId := state.globalEventId
        eventsSinceFlush := 0 }, u8 state.getEventCount)
  else (service, 0)

def startStorageWorker (service : HistoryService cfg) (taskOk : Bool) :
    HistoryService cfg :=
  if service.storageWorkerRunning then service
  else { service with storageWorkerRunning := taskOk }

end HistoryService

inductive ResetReason where
  | powerOn
  | brownout
  | software
  | panic
  | watchdog
  | deepSleep
  | other
  deriving DecidableEq, Repr

/-- What `init` meets outside the service. -/
structure BootEnv (cfg : HistoryConfig) where
  resetReason : ResetReason
  nvs : HistoryNvs cfg
  stack : Vector DetectionEvent cfg.bufferSize
  locked : Bool
  taskOk : Bool

def BootEnv.isColdBoot (env : BootEnv cfg) (state : RTCState cfg) : Bool :=
  env.resetReason == .powerOn || env.resetReason == .brownout ||
    state.magicNumber != cfg.rtcMagicNumber

namespace HistoryService

/-- Restore the backup into a new session, or start from nothing when the
returned count is zero. -/
def restoreOrReset (service : HistoryService cfg) (env : BootEnv cfg) :
    HistoryService cfg :=
  let restored := service.restoreFromNvs env.nvs env.stack env.locked
  if 0 < restored.2 then
    { restored.1 with
      state := { restored.1.state with
        bootCount := u32 (restored.1.state.bootCount + 1) } }
  else
    { restored.1 with
      state := { RTCState.resetState cfg with bootCount := 1 } }

def init (service : HistoryService cfg) (env : BootEnv cfg) :
    HistoryService cfg :=
  let service :=
    if env.isColdBoot service.state || !service.state.validateState then
      service.restoreOrReset env
    else service
  let service := { service with
    state := service.state.updateCRC
    lastNvsFlushId := service.state.globalEventId
    eventsSinceFlush := 0
    initialized := true }
  service.startStorageWorker env.taskOk

/-- A boot constructs the service anew over the RTC region. -/
def boot (state : RTCState cfg) (env : BootEnv cfg) : HistoryService cfg :=
  (construct state).init env

@[simp] theorem state_startStorageWorker (service : HistoryService cfg)
    (taskOk : Bool) :
    (service.startStorageWorker taskOk).state = service.state := by
  unfold startStorageWorker
  split <;> rfl

@[simp] theorem initialized_startStorageWorker
    (service : HistoryService cfg) (taskOk : Bool) :
    (service.startStorageWorker taskOk).initialized =
      service.initialized := by
  unfold startStorageWorker
  split <;> rfl

@[simp] theorem initialized_init (service : HistoryService cfg)
    (env : BootEnv cfg) : (service.init env).initialized = true := by
  simp [init]

/-- The RTC state after `init`, by the path that was taken. -/
theorem state_init (service : HistoryService cfg) (env : BootEnv cfg) :
    (service.init env).state =
      if env.isColdBoot service.state || !service.state.validateState then
        (service.restoreOrReset env).state.updateCRC
      else service.state.updateCRC := by
  unfold init
  rw [state_startStorageWorker]
  dsimp only
  split <;> rfl

/-- A warm boot keeps everything but the checksum, which is recomputed. -/
theorem state_init_of_warm {service : HistoryService cfg}
    {env : BootEnv cfg} (hwarm : env.isColdBoot service.state = false)
    (hvalid : service.state.validateState = true) :
    (service.init env).state = service.state.updateCRC := by
  simp [state_init, hwarm, hvalid]

@[simp] theorem state_flushToNvs (service : HistoryService cfg)
    (nvs : HistoryNvs cfg) (env : FlushEnv) :
    (service.flushToNvs nvs env).1.state = service.state := by
  unfold flushToNvs
  split
  · rfl
  · dsimp only
    split <;> rfl

@[simp] theorem initialized_flushToNvs (service : HistoryService cfg)
    (nvs : HistoryNvs cfg) (env : FlushEnv) :
    (service.flushToNvs nvs env).1.initialized = service.initialized := by
  unfold flushToNvs
  split
  · rfl
  · dsimp only
    split <;> rfl

/-! ## Which keys a flush has stored -/

def stored (puts : List PutAttempt) (key : NvsKey) : Bool :=
  puts.any fun put => put.ok && put.key == key

/-- Each key holds the new value when it was stored and the old one when it
was not. -/
theorem applyPuts_eq (nvs : HistoryNvs cfg) (snapshot : FlushSnapshot cfg)
    (puts : List PutAttempt) :
    nvs.applyPuts snapshot puts =
      { namespaceExists := nvs.namespaceExists
        bootCnt := if stored puts .bootCnt then some snapshot.bootCount
          else nvs.bootCnt
        eventId := if stored puts .eventId then some snapshot.eventId
          else nvs.eventId
        head := if stored puts .head then some snapshot.head else nvs.head
        tail := if stored puts .tail then some snapshot.tail else nvs.tail
        events := if stored puts .events then some snapshot.buffer
          else nvs.events } := by
  induction puts generalizing nvs with
  | nil => rfl
  | cons put puts ih =>
      have hcons : nvs.applyPuts snapshot (put :: puts) =
          (HistoryNvs.attempt snapshot nvs put).applyPuts snapshot puts :=
        rfl
      rw [hcons, ih]
      obtain ⟨key, ok⟩ := put
      cases ok
      · simp [HistoryNvs.attempt, stored]
      · cases key <;> simp [HistoryNvs.attempt, HistoryNvs.put, stored]

/-- A complete flush leaves exactly its own snapshot in flash. -/
theorem applyPuts_of_complete {outcomes : PutOutcomes}
    (hcomplete : outcomes.complete = true) (nvs : HistoryNvs cfg)
    (snapshot : FlushSnapshot cfg) :
    ({ nvs with namespaceExists := true }.applyPuts snapshot
        (flushPuts outcomes)) =
      HistoryNvs.ofSnapshot snapshot := by
  obtain ⟨hevents, ⟨⟨hboot, hid⟩, hhead⟩, htail⟩ :
      ((outcomes.events 0 = true ∨ outcomes.events 1 = true) ∨
          outcomes.events 2 = true) ∧
        (((outcomes.bootCnt = true ∧ outcomes.eventId = true) ∧
          outcomes.head = true) ∧ outcomes.tail = true) := by
    simpa [PutOutcomes.complete] using hcomplete
  have hblob : stored (flushPuts outcomes) .events = true := by
    cases h0 : outcomes.events 0 <;> cases h1 : outcomes.events 1 <;>
      simp_all [stored, flushPuts, eventPuts]
  have hscalars :
      stored (flushPuts outcomes) .bootCnt = true ∧
        stored (flushPuts outcomes) .eventId = true ∧
        stored (flushPuts outcomes) .head = true ∧
        stored (flushPuts outcomes) .tail = true := by
    simp [stored, flushPuts, hboot, hid, hhead, htail]
  rw [applyPuts_eq]
  simp [hblob, hscalars, HistoryNvs.ofSnapshot]

end HistoryService

end SensorFirmware
