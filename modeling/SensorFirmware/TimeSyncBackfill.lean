import SensorFirmware.HistoryOperations

/-!
# Accuracy of the time-sync backfill

`applyTimeSync` sets the clock and then reads the uptime from the clock it has
just set, while the events still carry uptimes of the old clock.  The
timestamp of an event is therefore right exactly when its true age is the
difference between these two unrelated readings.
-/

namespace SensorFirmware

open CyclicBuffer

variable {cfg : HistoryConfig}

/-- The uptime that a clock just set to this epoch shows. -/
def syncUptime (currentEpoch millis : ℕ) : ℕ :=
  (currentEpoch * 1000 + millis % 1000) % 2 ^ 32

theorem getSystemUptime_syncedClock (currentEpoch millis : ℕ) :
    getSystemUptime (HistoryService.syncedClock currentEpoch millis) =
      syncUptime currentEpoch millis := by
  rw [getSystemUptime_eq]
  unfold HistoryService.syncedClock ClockMicros.settimeofday syncUptime
  have hmillis : (currentEpoch * 1000000 + millis % 1000 * 1000) / 1000 =
      currentEpoch * 1000 + millis % 1000 := by
    omega
  rw [hmillis]

/-- The age in seconds that an uptime stamp amounts to after the sync; the
last term is not zero only when the 32-bit sum of the source wraps. -/
def assumedAge (currentEpoch millis timestampMs : ℕ) : ℤ :=
  (syncUptime currentEpoch millis / 1000 : ℕ) - (timestampMs / 1000 : ℕ) +
    2 ^ 32 * ((currentEpoch - syncUptime currentEpoch millis / 1000 +
      timestampMs / 1000) / 2 ^ 32 : ℕ)

theorem backfillTimestamp_eq {currentEpoch : ℕ}
    (hrange : minValidEpoch ≤ currentEpoch) (millis timestampMs : ℕ) :
    (backfillTimestamp currentEpoch (syncUptime currentEpoch millis)
        timestampMs : ℤ) =
      currentEpoch - assumedAge currentEpoch millis timestampMs := by
  have hsmall : syncUptime currentEpoch millis < 2 ^ 32 :=
    Nat.mod_lt _ (by norm_num)
  have hle : syncUptime currentEpoch millis / 1000 ≤ currentEpoch := by
    unfold minValidEpoch at hrange
    omega
  unfold backfillTimestamp assumedAge u32
  dsimp only
  rw [if_pos hle]
  generalize syncUptime currentEpoch millis / 1000 = uptimeSec at hle ⊢
  generalize timestampMs / 1000 = eventSec
  omega

/-- An event's timestamp lies within a second of the moment `ageMicros` before
the epoch of the sync. -/
def WithinSecond (currentEpoch ageMicros timestamp : ℕ) : Prop :=
  |(timestamp * 1000000 : ℤ) - (currentEpoch * 1000000 - ageMicros)| ≤
    1000000

/-- What a sync at `currentEpoch` ought to make of one event. -/
def BackfilledAs (bootCount currentEpoch : ℕ)
    (ageMicros : DetectionEvent → ℕ) (before after : DetectionEvent) :
    Prop :=
  if needsBackfill bootCount before then
    after = { before with timestamp := after.timestamp } ∧
      WithinSecond currentEpoch (ageMicros before) after.timestamp
  else after = before

instance (currentEpoch ageMicros timestamp : ℕ) :
    Decidable (WithinSecond currentEpoch ageMicros timestamp) :=
  inferInstanceAs (Decidable (_ ≤ _))

instance (bootCount currentEpoch : ℕ) (ageMicros : DetectionEvent → ℕ)
    (before after : DetectionEvent) :
    Decidable (BackfilledAs bootCount currentEpoch ageMicros before after) :=
  inferInstanceAs (Decidable (ite _ _ _))

/-- The true age is the assumed one to within a second.  Without the lock the
timestamp stays zero, which is right for an event as old as the epoch. -/
def AgeAssumed (locked : Bool) (currentEpoch millis : ℕ)
    (ageMicros : DetectionEvent → ℕ) (event : DetectionEvent) : Prop :=
  |(ageMicros event : ℤ) -
    (if locked then assumedAge currentEpoch millis event.timestampMs
      else currentEpoch) * 1000000| ≤ 1000000

instance (locked : Bool) (currentEpoch millis : ℕ)
    (ageMicros : DetectionEvent → ℕ) (event : DetectionEvent) :
    Decidable (AgeAssumed locked currentEpoch millis ageMicros event) :=
  inferInstanceAs (Decidable (_ ≤ _))

theorem withinSecond_iff {currentEpoch timestamp : ℕ} {age : ℤ}
    (hstamp : (timestamp : ℤ) = currentEpoch - age) (ageMicros : ℕ) :
    WithinSecond currentEpoch ageMicros timestamp ↔
      |(ageMicros : ℤ) - age * 1000000| ≤ 1000000 := by
  have hsame : (timestamp * 1000000 : ℤ) -
      (currentEpoch * 1000000 - ageMicros) = ageMicros - age * 1000000 := by
    rw [hstamp]
    ring
  unfold WithinSecond
  rw [hsame]

theorem backfilledAs_iff {currentEpoch : ℕ}
    (hrange : minValidEpoch ≤ currentEpoch) (locked : Bool)
    (bootCount millis : ℕ) (ageMicros : DetectionEvent → ℕ)
    (event : DetectionEvent) :
    BackfilledAs bootCount currentEpoch ageMicros event
        (if locked && needsBackfill bootCount event then
          backfill currentEpoch (syncUptime currentEpoch millis) event
        else event) ↔
      (needsBackfill bootCount event = true →
        AgeAssumed locked currentEpoch millis ageMicros event) := by
  unfold BackfilledAs AgeAssumed
  cases hneeds : needsBackfill bootCount event with
  | false => simp
  | true =>
      cases locked with
      | true =>
          have hstamp := backfillTimestamp_eq hrange millis
            event.timestampMs
          have hwithin := withinSecond_iff hstamp (ageMicros event)
          simpa [backfill] using hwithin
      | false =>
          have hzero : event.timestamp = 0 := by
            simp [needsBackfill] at hneeds
            exact hneeds.2
          have hstamp : (event.timestamp : ℤ) =
              currentEpoch - (currentEpoch : ℤ) := by
            simp [hzero]
          have hwithin := withinSecond_iff hstamp (ageMicros event)
          simpa using hwithin

namespace HistoryService

theorem ringWindow_withBuffer (service : HistoryService cfg)
    (buffer : Vector DetectionEvent cfg.bufferSize) (changed : Bool) :
    (service.withBuffer buffer changed).state.ringWindow =
      window buffer service.state.tail service.state.head := by
  cases changed <;> rfl

theorem ringWindow_afterBackfill (service : HistoryService cfg)
    (buffer : Vector DetectionEvent cfg.bufferSize) (updatedCount : ℕ) :
    (service.afterBackfill buffer updatedCount).state.ringWindow =
      window buffer service.state.tail service.state.head := by
  unfold afterBackfill
  dsimp only
  split
  · rw [state_queueFlush, ringWindow_withBuffer]
  · exact ringWindow_withBuffer service buffer _

theorem ringWindow_applyTimeSync {service : HistoryService cfg}
    (hinit : service.initialized = true)
    (hhead : service.state.head < cfg.bufferSize)
    (htail : service.state.tail < cfg.bufferSize) (locked : Bool)
    (millis currentEpoch : ℕ) :
    ∃ after clock,
      service.applyTimeSync locked millis currentEpoch =
          some (after, clock) ∧
        after.state.ringWindow = service.state.ringWindow.map fun event =>
          if locked && needsBackfill service.state.bootCount event then
            backfill currentEpoch (syncUptime currentEpoch millis) event
          else event := by
  cases locked with
  | false =>
      refine ⟨{ service with timeSyncReceivedThisBoot := true },
        some (syncedClock currentEpoch millis), ?_, ?_⟩
      · simp [applyTimeSync, hinit]
      · simp
  | true =>
      obtain ⟨buffer, hscan, hwindow⟩ :=
        RTCState.scanLive_eq hhead htail always
          (visitBackfill service.state.bootCount currentEpoch
            (getSystemUptime (syncedClock currentEpoch millis))) 0
      rw [getSystemUptime_syncedClock] at hscan hwindow
      unfold visitBackfill at hwindow
      rw [scanList_everyMatch] at hwindow
      generalize hcount :
        (scanList always _ service.state.ringWindow 0).2 = updatedCount
        at hscan
      refine ⟨{ service with
          timeSyncReceivedThisBoot := true }.afterBackfill buffer
            updatedCount,
        some (syncedClock currentEpoch millis), ?_, ?_⟩
      · simp [applyTimeSync, hinit, getSystemUptime_syncedClock, hscan]
      · rw [ringWindow_afterBackfill]
        exact hwindow

/-- The sync does what it ought to for every event. -/
def BackfillAccurate (service : HistoryService cfg) (locked : Bool)
    (millis currentEpoch : ℕ) (ageMicros : DetectionEvent → ℕ) : Prop :=
  ∃ after clock,
    service.applyTimeSync locked millis currentEpoch =
        some (after, clock) ∧
      List.Forall₂
        (BackfilledAs service.state.bootCount currentEpoch ageMicros)
        service.state.ringWindow after.state.ringWindow

/-- A sync backfills accurately if and only if each event to be backfilled has
the age that it assumes. -/
theorem backfillAccurate_iff {service : HistoryService cfg}
    (hinit : service.initialized = true)
    (hhead : service.state.head < cfg.bufferSize)
    (htail : service.state.tail < cfg.bufferSize) (locked : Bool)
    (millis : ℕ) {currentEpoch : ℕ}
    (hrange : minValidEpoch ≤ currentEpoch)
    (ageMicros : DetectionEvent → ℕ) :
    service.BackfillAccurate locked millis currentEpoch ageMicros ↔
      ∀ event ∈ service.state.ringWindow,
        needsBackfill service.state.bootCount event = true →
          AgeAssumed locked currentEpoch millis ageMicros event := by
  obtain ⟨after, clock, hsync, hwindow⟩ :=
    ringWindow_applyTimeSync hinit hhead htail locked millis currentEpoch
  have hevents :
      List.Forall₂
          (BackfilledAs service.state.bootCount currentEpoch ageMicros)
          service.state.ringWindow after.state.ringWindow ↔
        ∀ event ∈ service.state.ringWindow,
          needsBackfill service.state.bootCount event = true →
            AgeAssumed locked currentEpoch millis ageMicros event := by
    rw [hwindow, List.forall₂_map_right_iff, List.forall₂_same]
    simp only [backfilledAs_iff hrange]
  rw [← hevents]
  unfold BackfillAccurate
  rw [hsync]
  constructor
  · rintro ⟨after', clock', heq, hall⟩
    obtain ⟨rfl, rfl⟩ := Prod.mk.inj (Option.some.inj heq)
    exact hall
  · intro hall
    exact ⟨after, clock, rfl, hall⟩

/-- One event, logged ten seconds after power-on. -/
def loggedAfterPowerOn : HistoryService .fourSlots :=
  (({ construct (.resetState .fourSlots) with
      initialized := true }.logDetection true 10000000 120).map
    Prod.fst).getD (construct (.resetState .fourSlots))

/-- An epoch whose milliseconds happen to be small modulo 2^32. -/
theorem backfillAccurate_by_coincidence :
    loggedAfterPowerOn.BackfillAccurate true 0 1700807069
      fun _ => 10000000 :=
  (backfillAccurate_iff (by decide +kernel) (by decide +kernel)
    (by decide +kernel) true 0 (by decide) _).mpr (by decide +kernel)

/-- Synced ten seconds after it was logged, the event is dated weeks too
early. -/
theorem backfill_off_after_power_on :
    ¬loggedAfterPowerOn.BackfillAccurate true 20000 1700000000
      fun _ => 10000000 := by
  rintro ⟨after, clock, hsync, hall⟩
  have hwrong :
      (loggedAfterPowerOn.applyTimeSync true 20000 1700000000).map
        (fun result => decide (List.Forall₂
          (BackfilledAs loggedAfterPowerOn.state.bootCount 1700000000
            fun _ => 10000000)
          loggedAfterPowerOn.state.ringWindow
          result.1.state.ringWindow)) = some false := by
    decide +kernel
  rw [hsync] at hwrong
  simp [hall] at hwrong

end HistoryService

end SensorFirmware
