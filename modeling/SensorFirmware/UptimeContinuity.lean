import SensorFirmware.ConfigStore
import SensorFirmware.GuardedRun
import SensorFirmware.HistoryValidity

/-!
# Uptime stamps over deep sleep and time sync

The device is the clock with the two services that use it, over a ghost count
of real time.  Uptime stamps are readings of the settable clock, so they
measure elapsed time as long as nobody sets the clock to another value than
it shows; both a time sync and a wake with a stored epoch do set it.
-/

namespace SensorFirmware

open GuardedRun

variable {cfg : HistoryConfig}

/-- A logged event: when it really happened, and its stamp in the ring. -/
structure LoggedAt where
  realTime : ℕ
  timestampMs : ℕ
  deriving DecidableEq, Repr

/-- Times are in microseconds. -/
structure UptimeDevice (cfg : HistoryConfig) where
  realTime : ℕ
  clock : ClockMicros
  service : HistoryService cfg
  config : ConfigService
  configNvs : ConfigBlob
  logged : List LoggedAt

/-- What a wake from deep sleep meets. -/
structure WakeEnv (cfg : HistoryConfig) where
  nvs : HistoryNvs cfg
  stack : Vector DetectionEvent cfg.bufferSize
  locked : Bool
  taskOk : Bool
  config : ConfigBootEnv

inductive UptimeStep (cfg : HistoryConfig) where
  | elapse (micros : ℕ)
  | logDetection (locked configLocked : Bool) (durationMs : ℕ)
  | timeSync (locked configLocked : Bool) (millis epochSeconds : ℕ)
  | saveConfig (write : ConfigWrite)
  | sleepAndWake (write : ConfigWrite) (micros : ℕ) (env : WakeEnv cfg)

namespace UptimeDevice

def setClock (device : UptimeDevice cfg) (clock : Option ClockMicros) :
    UptimeDevice cfg :=
  { device with clock := clock.getD device.clock }

/-- The configuration is flushed before sleep, and the clock keeps running. -/
def sleep (device : UptimeDevice cfg) (write : ConfigWrite) (micros : ℕ) :
    UptimeDevice cfg :=
  let flushed := device.config.saveIfDirty device.configNvs write
  { device with
    realTime := device.realTime + micros
    clock := device.clock + micros
    config := flushed.1
    configNvs := flushed.2 }

/-- `ConfigService::init` of a wake, on freshly constructed RAM. -/
def wakeConfig (device : UptimeDevice cfg) (env : WakeEnv cfg) :
    ConfigService × ConfigBlob × Option ClockMicros × Bool :=
  (ConfigService.construct env.config.random).init device.configNvs
    env.config

/-- The history service first, then the configuration service. -/
def wake (device : UptimeDevice cfg) (env : WakeEnv cfg) :
    UptimeDevice cfg :=
  let woken := { device with
    service := HistoryService.boot device.service.state
      { resetReason := .deepSleep
        nvs := env.nvs
        stack := env.stack
        locked := env.locked
        taskOk := env.taskOk }
    config := (device.wakeConfig env).1
    configNvs := (device.wakeConfig env).2.1 }
  woken.setClock (device.wakeConfig env).2.2.1

def recordEpoch (device : UptimeDevice cfg) (configLocked : Bool)
    (epochSeconds : ℕ) : UptimeDevice cfg :=
  { device with
    config := device.config.updateLastKnownEpoch configLocked epochSeconds }

def afterLog (device : UptimeDevice cfg) (locked configLocked : Bool)
    (service : HistoryService cfg) (result : LogResult) :
    UptimeDevice cfg :=
  let newest :=
    if locked then service.state.ringWindow.getLast?.toList else []
  let after := { device with
    service := service
    logged := device.logged ++ newest.map fun event =>
      ⟨device.realTime, event.timestampMs⟩ }
  match result.lastKnownEpoch with
  | some epoch => after.recordEpoch configLocked epoch
  | none => after

def step (device : UptimeDevice cfg) :
    UptimeStep cfg → Option (UptimeDevice cfg)
  | .elapse micros =>
      some { device with
        realTime := device.realTime + micros
        clock := device.clock + micros }
  | .logDetection locked configLocked durationMs =>
      (device.service.logDetection locked device.clock durationMs).map
        fun (service, result) =>
          device.afterLog locked configLocked service result
  | .timeSync locked configLocked millis epochSeconds =>
      (device.service.applyTimeSync locked millis epochSeconds).map
        fun (service, clock) =>
          ({ device with service := service }.setClock clock).recordEpoch
            configLocked epochSeconds
  | .saveConfig write =>
      let saved := device.config.saveIfDirty device.configNvs write
      some { device with config := saved.1, configNvs := saved.2 }
  | .sleepAndWake write micros env =>
      some ((device.sleep write micros).wake env)

/-- Stamps of logged events differ by the real time between them, modulo 2^32
milliseconds and to within one millisecond. -/
def StampsMeasureTime (device : UptimeDevice cfg) : Prop :=
  ∀ first ∈ device.logged, ∀ second ∈ device.logged,
    first.realTime ≤ second.realTime →
      ∃ elapsedMs : ℕ,
        |(elapsedMs * 1000 : ℤ) - (second.realTime - first.realTime)| ≤
            1000 ∧
          sub32 second.timestampMs first.timestampMs = u32 elapsedMs

/-- One full turn of the 32-bit millisecond counter, in microseconds. -/
def uptimePeriod : ℕ := 2 ^ 32 * 1000

/-- The clock is set, if at all, to the value that it shows. -/
def KeepsClock (device : UptimeDevice cfg) : UptimeStep cfg → Prop
  | .timeSync _ _ millis epochSeconds =>
      HistoryService.syncedClock epochSeconds millis ≡ device.clock
        [MOD uptimePeriod]
  | .sleepAndWake write micros env =>
      ∀ clock ∈ ((device.sleep write micros).wakeConfig env).2.2.1,
        clock ≡ device.clock + micros [MOD uptimePeriod]
  | _ => True

/-- The clock runs a fixed `offset` ahead of real time. -/
structure Steady (offset : ℕ) (device : UptimeDevice cfg) : Prop where
  sound : device.service.Sound
  clock : device.clock ≡ device.realTime + offset [MOD uptimePeriod]
  stamps : ∀ entry ∈ device.logged,
    entry.timestampMs = (entry.realTime + offset) / 1000 % 2 ^ 32

/-! ## The arithmetic of stamps -/

theorem getSystemUptime_congr {left right : ClockMicros}
    (hsame : left ≡ right [MOD uptimePeriod]) :
    getSystemUptime left = right / 1000 % 2 ^ 32 := by
  rw [getSystemUptime_eq]
  unfold Nat.ModEq uptimePeriod at hsame
  omega

theorem Steady.stampsMeasureTime {offset : ℕ} {device : UptimeDevice cfg}
    (hsteady : device.Steady offset) : device.StampsMeasureTime := by
  intro first hfirst second hsecond hle
  have hmono : (first.realTime + offset) / 1000 ≤
      (second.realTime + offset) / 1000 :=
    Nat.div_le_div_right (by omega)
  refine ⟨(second.realTime + offset) / 1000 -
    (first.realTime + offset) / 1000, ?_, ?_⟩
  · rw [abs_le]
    constructor <;> omega
  · rw [hsteady.stamps first hfirst, hsteady.stamps second hsecond]
    exact sub32_u32 hmono

/-! ## Steps and runs -/

theorem Steady.setClock {offset : ℕ} {device : UptimeDevice cfg}
    (hsteady : device.Steady offset) {clock : Option ClockMicros}
    (hkept : ∀ value ∈ clock, value ≡ device.clock [MOD uptimePeriod]) :
    (device.setClock clock).Steady offset := by
  refine ⟨hsteady.sound, ?_, hsteady.stamps⟩
  cases clock with
  | none => exact hsteady.clock
  | some value => exact (hkept value rfl).trans hsteady.clock

theorem Steady.recordEpoch {offset : ℕ} {device : UptimeDevice cfg}
    (hsteady : device.Steady offset) (configLocked : Bool)
    (epochSeconds : ℕ) :
    (device.recordEpoch configLocked epochSeconds).Steady offset :=
  ⟨hsteady.sound, hsteady.clock, hsteady.stamps⟩

theorem Steady.afterLog {offset : ℕ} {device : UptimeDevice cfg}
    (hsteady : device.Steady offset) {service : HistoryService cfg}
    (hsound : service.Sound)
    (hnewest : service.state.ringWindow.getLast?.map
      DetectionEvent.timestampMs = some (getSystemUptime device.clock))
    (configLocked : Bool) (result : LogResult) :
    (device.afterLog true configLocked service result).Steady offset := by
  obtain ⟨newest, hlast, hstamp⟩ := Option.map_eq_some_iff.mp hnewest
  have hlogged : ({ device with
      service := service
      logged := device.logged ++
        [⟨device.realTime, newest.timestampMs⟩] } :
          UptimeDevice cfg).Steady offset := by
    refine ⟨hsound, hsteady.clock, ?_⟩
    intro entry hentry
    rcases List.mem_append.mp hentry with hold | hnew
    · exact hsteady.stamps entry hold
    · rw [List.mem_singleton.mp hnew, hstamp]
      exact getSystemUptime_congr hsteady.clock
  unfold UptimeDevice.afterLog
  simp only [if_true, hlast, Option.toList_some, List.map_singleton]
  split
  · exact hlogged.recordEpoch configLocked _
  · exact hlogged

theorem Steady.logDetection {offset : ℕ} {device : UptimeDevice cfg}
    (hsteady : device.Steady offset) (locked configLocked : Bool)
    (durationMs : ℕ) :
    ∃ after,
      device.step (.logDetection locked configLocked durationMs) =
          some after ∧
        after.Steady offset := by
  cases locked with
  | false =>
      refine ⟨device, ?_, hsteady⟩
      simp [step, HistoryService.logDetection, UptimeDevice.afterLog]
  | true =>
      obtain ⟨state, hlog, happend, hsound⟩ :=
        hsteady.sound.logDetection device.clock durationMs
      have hnewest : (device.service.afterAppend device.clock
          state).1.state.ringWindow.getLast?.map
            DetectionEvent.timestampMs =
              some (getSystemUptime device.clock) := by
        rw [HistoryService.state_afterAppend, happend.ringWindow]
        simp [freshEvent]
      refine ⟨_, ?_, hsteady.afterLog hsound hnewest configLocked
        (device.service.afterAppend device.clock state).2⟩
      simp [step, hlog]

theorem Steady.sleepAndWake {offset : ℕ} {device : UptimeDevice cfg}
    (hsteady : device.Steady offset) (write : ConfigWrite) (micros : ℕ)
    (env : WakeEnv cfg)
    (hkept : ∀ clock ∈ ((device.sleep write micros).wakeConfig env).2.2.1,
      clock ≡ device.clock + micros [MOD uptimePeriod]) :
    ((device.sleep write micros).wake env).Steady offset := by
  have hclock : device.clock + micros ≡
      device.realTime + micros + offset [MOD uptimePeriod] := by
    have hshift := hsteady.clock.add_right micros
    rwa [Nat.add_right_comm] at hshift
  apply Steady.setClock
  · exact ⟨(hsteady.sound.wake rfl).2, hclock, hsteady.stamps⟩
  · exact hkept

theorem Steady.step {offset : ℕ} {device : UptimeDevice cfg}
    (hsteady : device.Steady offset) (op : UptimeStep cfg)
    (hkept : device.KeepsClock op) :
    ∃ after, device.step op = some after ∧ after.Steady offset := by
  cases op with
  | elapse micros =>
      refine ⟨_, rfl, hsteady.sound, ?_, hsteady.stamps⟩
      have hshift := hsteady.clock.add_right micros
      rwa [Nat.add_right_comm] at hshift
  | logDetection locked configLocked durationMs =>
      exact hsteady.logDetection locked configLocked durationMs
  | timeSync locked configLocked millis epochSeconds =>
      obtain ⟨service, hsync, hsound⟩ :=
        hsteady.sound.applyTimeSync locked millis epochSeconds
      have hsynced : ({ device with service := service } :
          UptimeDevice cfg).Steady offset :=
        ⟨hsound, hsteady.clock, hsteady.stamps⟩
      have hvalue : ∀ value ∈ some
          (HistoryService.syncedClock epochSeconds millis),
            value ≡ device.clock [MOD uptimePeriod] := by
        intro value hmem
        rw [← Option.some.inj hmem]
        exact hkept
      refine ⟨_, ?_, (hsynced.setClock hvalue).recordEpoch configLocked
        epochSeconds⟩
      simp [UptimeDevice.step, hsync]
  | saveConfig write =>
      exact ⟨_, rfl, hsteady.sound, hsteady.clock, hsteady.stamps⟩
  | sleepAndWake write micros env =>
      exact ⟨_, rfl, hsteady.sleepAndWake write micros env hkept⟩

/-- In every run in which the clock is never set to another value than it
shows, uptime stamps measure elapsed real time. -/
theorem stamps_measure_time {device : UptimeDevice cfg}
    (hsound : device.service.Sound) (hlogged : device.logged = [])
    (steps : List (UptimeStep cfg))
    (hguard : GuardedAttempt step KeepsClock device steps) :
    ∃ final, attempt step device steps = some final ∧
      final.StampsMeasureTime := by
  -- any offset that the clock has at the start, made non-negative
  have hinit : device.Steady
      (device.clock + device.realTime * (uptimePeriod - 1)) := by
    refine ⟨hsound, ?_, by simp [hlogged]⟩
    have hturns : device.realTime + (device.clock +
        device.realTime * (uptimePeriod - 1)) =
          device.clock + uptimePeriod * device.realTime := by
      unfold uptimePeriod
      omega
    rw [hturns]
    exact (Nat.add_mul_mod_self_left _ _ _).symm
  obtain ⟨final, hrun, hfinal⟩ :=
    invariant_attempt (fun s op hs hop => hs.step op hop) hinit hguard
  exact ⟨final, hrun, hfinal.stampsMeasureTime⟩

instance (device : UptimeDevice cfg) (op : UptimeStep cfg) :
    Decidable (device.KeepsClock op) :=
  match op with
  | .timeSync _ _ _ _ => inferInstanceAs (Decidable (_ ≡ _ [MOD _]))
  | .sleepAndWake write micros env =>
      inferInstanceAs (Decidable
        (∀ clock ∈ ((device.sleep write micros).wakeConfig env).2.2.1, _))
  | .elapse _ => isTrue trivial
  | .logDetection _ _ _ => isTrue trivial
  | .saveConfig _ => isTrue trivial

/-- A device that was never synced. -/
def poweredOn : UptimeDevice .fourSlots where
  realTime := 0
  clock := 0
  service := { HistoryService.construct (.resetState .fourSlots) with
    initialized := true }
  config := .construct 7
  configNvs := none
  logged := []

theorem poweredOn_sound : poweredOn.service.Sound := by
  constructor <;> decide +kernel

def plainWake : WakeEnv .fourSlots where
  nvs := .empty .fourSlots
  stack := (RTCState.resetState .fourSlots).buffer
  locked := true
  taskOk := true
  config :=
    { timerOk := true
      taskOk := true
      readOk := true
      write := .written
      random := 7 }

theorem stamps_measure_time_unsynced :
    ∃ final,
      attempt step poweredOn
          [.elapse 5000000, .logDetection true true 100,
            .sleepAndWake .written 3600000000 plainWake,
            .logDetection true true 100] = some final ∧
        final.StampsMeasureTime :=
  stamps_measure_time poweredOn_sound rfl _ (by decide +kernel)

/-- An hour of sleep between two detections on a synced device. -/
def hourOfSleep : List (UptimeStep .fourSlots) :=
  [.timeSync true true 0 1700000000, .elapse 1000000,
    .logDetection true true 100,
    .sleepAndWake .written 3600000000 plainWake,
    .logDetection true true 100]

/-- The wake sets the clock back to one second after the last known epoch, so
the hour shrinks to a second. -/
theorem hour_of_sleep_lost :
    ∃ final, attempt step poweredOn hourOfSleep = some final ∧
      ¬final.StampsMeasureTime := by
  have hrun : (attempt step poweredOn hourOfSleep).map logged =
      some [⟨1000000, 3487919080⟩, ⟨3601000000, 3487920080⟩] := by
    decide +kernel
  obtain ⟨final, hfinal, hlogged⟩ := Option.map_eq_some_iff.mp hrun
  refine ⟨final, hfinal, ?_⟩
  intro hmeasure
  obtain ⟨elapsedMs, hclose, hstamps⟩ :=
    hmeasure ⟨1000000, 3487919080⟩ (by simp [hlogged])
      ⟨3601000000, 3487920080⟩ (by simp [hlogged]) (by decide)
  rw [abs_le] at hclose
  unfold sub32 u32 at hstamps
  dsimp only at hclose hstamps
  omega

end UptimeDevice

end SensorFirmware
