import SensorFirmware.HistoryOperations

/-!
# The history as a log of detections

What the ring is for: a log of all detections since the last clear, of which
the most recent `bufferSize - 1` can still be read and marked.  Nothing here
mentions slots or indices.
-/

namespace SensorFirmware

open CyclicBuffer

/-- All detections since the last clear, oldest first. -/
structure HistoryLog where
  logged : List DetectionEvent
  globalEventId : ℕ
  bootCount : ℕ

inductive RingOp where
  | logDetection (locked : Bool) (clock : ClockMicros) (durationMs : ℕ)
  | markAsSynced (locked : Bool) (eventId : ℕ)
  | markMultipleAsSynced (locked : Bool) (batch : EventIdBatch)
  | applyTimeSync (locked : Bool) (millis currentEpoch : ℕ)
  | fastForwardEventId (locked : Bool) (newId : ℕ)
  | clear (locked : Bool)
  | getEventCount
  | getNextUnsynced (locked : Bool)
  | getUnsyncedEvents (locked : Bool) (maxCount : ℕ)
  | getEventsSince (locked : Bool) (sinceId maxCount : ℕ)
  | hasPendingData (locked : Bool)
  | getPendingCount (locked : Bool)

inductive RingOutput where
  | done
  | flag (value : Bool)
  | number (value : ℕ)
  | event (value : Option DetectionEvent)
  | events (ok : Bool) (value : List DetectionEvent)
  deriving DecidableEq

namespace HistoryLog

def start (bootCount : ℕ) : HistoryLog where
  logged := []
  globalEventId := 0
  bootCount := bootCount

def capacity (cfg : HistoryConfig) : ℕ := cfg.bufferSize - 1

def retained (cfg : HistoryConfig) (log : HistoryLog) :
    List DetectionEvent :=
  log.logged.rtake (capacity cfg)

def mapRetained (cfg : HistoryConfig)
    (f : DetectionEvent → DetectionEvent) (log : HistoryLog) : HistoryLog :=
  { log with logged := mapRecent (capacity cfg) f log.logged }

def nextId (log : HistoryLog) : ℕ := log.globalEventId + 1

/-- The record of a new detection; the overflow flag tells that it evicts an
older one. -/
def newEvent (cfg : HistoryConfig) (log : HistoryLog) (clock : ClockMicros)
    (durationMs : ℕ) : DetectionEvent where
  id := log.nextId
  timestampMs := getSystemUptime clock
  bootCount := log.bootCount
  durationMs := durationMs
  timestamp := if minValidEpoch ≤ clock.time then clock.time else 0
  flags := if capacity cfg ≤ log.logged.length then 0x02#8 else 0x00#8
  reserved := Vector.replicate 5 0#8

def record (cfg : HistoryConfig) (log : HistoryLog) (clock : ClockMicros)
    (durationMs : ℕ) : HistoryLog :=
  { log with
    logged := log.logged ++ [log.newEvent cfg clock durationMs]
    globalEventId := log.nextId }

def markSynced (cfg : HistoryConfig) (log : HistoryLog)
    (wanted : ℕ → Bool) : HistoryLog :=
  log.mapRetained cfg fun event =>
    if wanted event.id then event.setSynced else event

/-- Backfill the events of this boot that have no wall-clock time. -/
def timeSync (cfg : HistoryConfig) (log : HistoryLog)
    (currentEpoch millis : ℕ) : HistoryLog :=
  log.mapRetained cfg fun event =>
    if needsBackfill log.bootCount event then
      backfill currentEpoch
        (getSystemUptime (HistoryService.syncedClock currentEpoch millis))
        event
    else event

def unsynced (cfg : HistoryConfig) (log : HistoryLog) :
    List DetectionEvent :=
  (log.retained cfg).filter fun event => !event.isSynced

def apply (cfg : HistoryConfig) (log : HistoryLog) :
    RingOp → HistoryLog × RingOutput
  | .logDetection locked clock durationMs =>
      if locked then
        (log.record cfg clock durationMs, .number log.nextId)
      else (log, .number 0)
  | .markAsSynced locked eventId =>
      if locked then
        (log.markSynced cfg (· == eventId),
          .flag ((log.retained cfg).any fun event => event.id == eventId))
      else (log, .flag false)
  | .markMultipleAsSynced locked batch =>
      if locked then
        (log.markSynced cfg batch.eventIds.contains,
          .number ((log.unsynced cfg).countP fun event =>
            batch.eventIds.contains event.id))
      else (log, .number 0)
  | .applyTimeSync locked millis currentEpoch =>
      if locked then (log.timeSync cfg currentEpoch millis, .done)
      else (log, .done)
  | .fastForwardEventId locked newId =>
      if locked then
        ({ log with globalEventId := max log.globalEventId newId }, .done)
      else (log, .done)
  | .clear locked =>
      if locked then ({ log with logged := [], globalEventId := 0 }, .done)
      else (log, .done)
  | .getEventCount => (log, .number (log.retained cfg).length)
  | .getNextUnsynced locked =>
      (log, .event (if locked then (log.unsynced cfg).head? else none))
  | .getUnsyncedEvents locked maxCount =>
      (log, .events true
        (if locked then (log.unsynced cfg).take maxCount else []))
  | .getEventsSince locked sinceId maxCount =>
      (log, .events true
        (if locked then
          ((log.retained cfg).filter fun event => sinceId < event.id).take
            maxCount
        else []))
  | .hasPendingData locked =>
      (log, .flag (locked && !(log.unsynced cfg).isEmpty))
  | .getPendingCount locked =>
      (log, .number (if locked then (log.unsynced cfg).length else 0))

/-- The identifier counter does not wrap in this operation. -/
def NoIdWrap (log : HistoryLog) : RingOp → Prop
  | .logDetection true _ _ => log.nextId < 2 ^ 32
  | _ => True

/-- Identifiers increase along the log and stay at or below the counter. -/
structure Ordered (log : HistoryLog) : Prop where
  increasing : (log.logged.map DetectionEvent.id).Pairwise (· < ·)
  id_le : ∀ event ∈ log.logged, event.id ≤ log.globalEventId

theorem ordered_start (bootCount : ℕ) : (start bootCount).Ordered := by
  constructor <;> simp [start]

theorem Ordered.record {cfg : HistoryConfig} {log : HistoryLog}
    (hordered : log.Ordered) (clock : ClockMicros) (durationMs : ℕ) :
    (log.record cfg clock durationMs).Ordered := by
  constructor
  · simp only [HistoryLog.record, List.map_append, List.map_singleton]
    rw [List.pairwise_append]
    refine ⟨hordered.increasing, List.pairwise_singleton _ _, ?_⟩
    intro id hid last hlast
    obtain ⟨event, hevent, rfl⟩ := List.mem_map.mp hid
    have hle := hordered.id_le event hevent
    have hnew : last = log.nextId := by simpa [newEvent] using hlast
    rw [hnew, nextId]
    omega
  · intro event hevent
    have hcases :
        event ∈ log.logged ∨ event = log.newEvent cfg clock durationMs := by
      simpa [HistoryLog.record] using hevent
    rcases hcases with hold | rfl
    · have hle := hordered.id_le event hold
      simp only [HistoryLog.record, nextId]
      omega
    · exact le_rfl

theorem Ordered.mapRetained {cfg : HistoryConfig} {log : HistoryLog}
    (hordered : log.Ordered) {f : DetectionEvent → DetectionEvent}
    (hf : ∀ event, (f event).id = event.id) :
    (log.mapRetained cfg f).Ordered := by
  have hmap :
      ((log.mapRetained cfg f).logged.map DetectionEvent.id) =
        log.logged.map DetectionEvent.id :=
    map_mapRecent (capacity cfg) hf log.logged
  constructor
  · rw [hmap]
    exact hordered.increasing
  · intro event hevent
    have hid : event.id ∈ log.logged.map DetectionEvent.id := by
      rw [← hmap]
      exact List.mem_map_of_mem hevent
    obtain ⟨old, hold, heq⟩ := List.mem_map.mp hid
    rw [← heq]
    exact hordered.id_le old hold

theorem Ordered.raise {log : HistoryLog} (hordered : log.Ordered)
    {counter : ℕ} (hle : log.globalEventId ≤ counter) :
    ({ log with globalEventId := counter } : HistoryLog).Ordered :=
  ⟨hordered.increasing, fun event hevent =>
    (hordered.id_le event hevent).trans hle⟩

theorem Ordered.retained_increasing {cfg : HistoryConfig}
    {log : HistoryLog} (hordered : log.Ordered) :
    ((log.retained cfg).map DetectionEvent.id).Pairwise (· < ·) := by
  exact List.Pairwise.sublist ((List.drop_sublist _ _).map _)
    hordered.increasing

theorem mem_logged_of_mem_retained {cfg : HistoryConfig}
    {log : HistoryLog} {event : DetectionEvent}
    (hmem : event ∈ log.retained cfg) : event ∈ log.logged :=
  List.mem_of_mem_drop hmem

theorem retained_mapRetained (cfg : HistoryConfig)
    (f : DetectionEvent → DetectionEvent) (log : HistoryLog) :
    (log.mapRetained cfg f).retained cfg = (log.retained cfg).map f :=
  rtake_mapRecent (capacity cfg) f log.logged

theorem retained_record (cfg : HistoryConfig) (log : HistoryLog)
    (clock : ClockMicros) (durationMs : ℕ) :
    (log.record cfg clock durationMs).retained cfg =
      (if capacity cfg ≤ log.logged.length then (log.retained cfg).tail
        else log.retained cfg) ++ [log.newEvent cfg clock durationMs] := by
  have hsize := cfg.two_le_bufferSize
  apply rtake_concat
  unfold capacity
  omega

theorem length_retained (cfg : HistoryConfig) (log : HistoryLog) :
    (log.retained cfg).length = min (capacity cfg) log.logged.length :=
  length_rtake (capacity cfg) log.logged

end HistoryLog

end SensorFirmware
