import SensorFirmware.ClockedHistory

/-!
# Which timestamps a time sync leaves

`applyTimeSync` takes any epoch and dates from it the events that have no time
yet.  Such an event is dated once, so a time that is not believable stays.
-/

namespace SensorFirmware

open CyclicBuffer GuardedRun

variable {cfg : HistoryConfig}

/-- No time, or one that the firmware itself would believe. -/
def PlausibleTime (timestamp : ℕ) : Prop :=
  timestamp = 0 ∨ minValidEpoch ≤ timestamp

/-- The condition on the epoch, the milliseconds at the sync and the uptime stamp
of the event.  The clock that was just set shows an uptime of `syncUptime`. -/
def DatesPlausibly (currentEpoch millis timestampMs : ℕ) : Prop :=
  let uptimeSec := syncUptime currentEpoch millis / 1000
  (currentEpoch = uptimeSec ∧ timestampMs < 1000) ∨
    (minValidEpoch + uptimeSec ≤ currentEpoch + timestampMs / 1000 ∧
      currentEpoch + timestampMs / 1000 ≤ 2 ^ 32 + uptimeSec)

instance (timestamp : ℕ) : Decidable (PlausibleTime timestamp) :=
  inferInstanceAs (Decidable (_ ∨ _))

instance (currentEpoch millis timestampMs : ℕ) :
    Decidable (DatesPlausibly currentEpoch millis timestampMs) :=
  inferInstanceAs (Decidable (_ ∨ _))

theorem syncUptime_le (currentEpoch millis : ℕ) :
    syncUptime currentEpoch millis / 1000 ≤ currentEpoch := by
  have hle : syncUptime currentEpoch millis ≤
      currentEpoch * 1000 + millis % 1000 :=
    Nat.mod_le _ _
  omega

theorem plausibleTime_backfill_iff {currentEpoch timestampMs : ℕ}
    (hepoch : currentEpoch < 2 ^ 32) (hstamp : timestampMs < 2 ^ 32)
    (millis : ℕ) :
    PlausibleTime (backfillTimestamp currentEpoch
        (syncUptime currentEpoch millis) timestampMs) ↔
      DatesPlausibly currentEpoch millis timestampMs := by
  have hle := syncUptime_le currentEpoch millis
  unfold PlausibleTime DatesPlausibly backfillTimestamp minValidEpoch u32
  dsimp only
  rw [if_pos hle]
  omega

namespace ClockedHistory

def TimesPlausible (device : ClockedHistory cfg) : Prop :=
  ∀ event ∈ device.service.state.ringWindow, PlausibleTime event.timestamp

/-- A time sync that gets the lock dates the events that wait for it
plausibly. -/
def SyncsPlausibly (device : ClockedHistory cfg) : ClockedStep → Prop
  | .timeSync locked millis epochSeconds => locked = true →
      ∀ event ∈ device.service.state.ringWindow,
        needsBackfill device.service.state.bootCount event = true →
          DatesPlausibly epochSeconds.toNat millis event.timestampMs
  | _ => True

instance (device : ClockedHistory cfg) : Decidable device.TimesPlausible :=
  inferInstanceAs (Decidable (∀ event ∈ _, PlausibleTime _))

instance (device : ClockedHistory cfg) (op : ClockedStep) :
    Decidable (device.SyncsPlausibly op) :=
  match op with
  | .timeSync _ _ _ => inferInstanceAs (Decidable (_ → ∀ event ∈ _, _ → _))
  | .elapse _ => isTrue trivial
  | .restoreClock _ => isTrue trivial
  | .logDetection _ _ => isTrue trivial
  | .markAsSynced _ _ => isTrue trivial
  | .markMultipleAsSynced _ _ => isTrue trivial

/-- The uptime stamps are 32-bit words. -/
structure Stamped (device : ClockedHistory cfg) : Prop extends
    Ready device where
  stamps : ∀ event ∈ device.service.state.ringWindow,
    event.timestampMs < 2 ^ 32

/-! ## One step -/

section Effects

variable {device after : ClockedHistory cfg} {op : ClockedStep}

theorem Stamped.stamps_of_effect (hstamped : device.Stamped)
    (heffect : Effect device after op) :
    ∀ event ∈ after.service.state.ringWindow,
      event.timestampMs < 2 ^ 32 := by
  cases heffect with
  | kept hquiet hview hsources =>
      have hlooks : ∀ event : DetectionEvent, event.timestampMs < 2 ^ 32 ↔
          (event.masked true false).timestampMs < 2 ^ 32 :=
        fun _ => Iff.rfl
      exact (hview.forall_mem_iff hlooks).mpr hstamped.stamps
  | appended durationMs happend hsources =>
      apply happend.forall_mem hstamped.stamps
      intro id bootCount overflow
      exact Nat.mod_lt _ (by norm_num)
  | backfilled millis epochSeconds hwindow hsources =>
      rw [hwindow, List.forall_mem_map]
      intro event hmem
      have hstamp := hstamped.stamps event hmem
      split
      · exact hstamp
      · exact hstamp

theorem Stamped.step (hstamped : device.Stamped) (op : ClockedStep) :
    ∃ after, device.step op = some after ∧ after.Stamped := by
  obtain ⟨after, hstep, hready, heffect⟩ := hstamped.toReady.step op
  exact ⟨after, hstep, hready, hstamped.stamps_of_effect heffect⟩

theorem syncsPlausibly_of_quiet (hquiet : Quiet op) :
    device.SyncsPlausibly op := by
  cases op with
  | timeSync locked millis epochSeconds =>
      intro hlocked
      rw [show locked = false from hquiet] at hlocked
      cases hlocked
  | elapse micros => trivial
  | restoreClock config => trivial
  | logDetection locked durationMs => trivial
  | markAsSynced locked eventId => trivial
  | markMultipleAsSynced locked batch => trivial

theorem plausibleTime_freshEvent (id bootCount : ℕ) (clock : ClockMicros)
    (durationMs : ℕ) (overflow : Bool) :
    PlausibleTime
      (freshEvent id bootCount clock durationMs overflow).timestamp := by
  unfold freshEvent PlausibleTime
  dsimp only
  split
  next hvalid => exact .inr hvalid
  next => exact .inl rfl

/-- From plausible times a step leaves plausible times exactly when it dates
plausibly what it dates. -/
theorem Stamped.plausible_iff (hstamped : device.Stamped)
    (htimes : device.TimesPlausible)
    (heffect : Effect device after op) :
    after.TimesPlausible ↔ device.SyncsPlausibly op := by
  cases heffect with
  | kept hquiet hview hsources =>
      have hlooks : ∀ event : DetectionEvent, PlausibleTime event.timestamp ↔
          PlausibleTime (event.masked true false).timestamp :=
        fun _ => Iff.rfl
      exact iff_of_true ((hview.forall_mem_iff hlooks).mpr htimes)
        (syncsPlausibly_of_quiet hquiet)
  | appended durationMs happend hsources =>
      refine iff_of_true ?_ trivial
      apply happend.forall_mem htimes
      intro id bootCount overflow
      exact plausibleTime_freshEvent id bootCount _ _ overflow
  | backfilled millis epochSeconds hwindow hsources =>
      have hevent : ∀ event ∈ device.service.state.ringWindow,
          (PlausibleTime (if needsBackfill device.service.state.bootCount
              event then backfill epochSeconds.toNat
                (syncUptime epochSeconds.toNat millis) event
            else event).timestamp ↔
          (needsBackfill device.service.state.bootCount event = true →
            DatesPlausibly epochSeconds.toNat millis
              event.timestampMs)) := by
        intro event hmem
        have hdates := plausibleTime_backfill_iff epochSeconds.isLt
          (hstamped.stamps event hmem) millis
        cases hneeds :
            needsBackfill device.service.state.bootCount event with
        | true => simpa [backfill] using hdates
        | false => simpa using htimes event hmem
      unfold TimesPlausible
      rw [hwindow, List.forall_mem_map, forall₂_congr hevent]
      simp [SyncsPlausibly]

end Effects

/-- All times are plausible in all states of a run exactly when they are at its
start and every time sync of the run dates plausibly. -/
theorem timestamps_plausible_iff {device : ClockedHistory cfg}
    (hstamped : device.Stamped) (steps : List ClockedStep) :
    (∀ k, ∃ reached, attempt step device (steps.take k) = some reached ∧
        reached.TimesPlausible) ↔
      device.TimesPlausible ∧
        GuardedAttempt step SyncsPlausibly device steps := by
  apply always_iff_guardedAttempt (fun device op hs => hs.step op) ?_ hstamped
  intro device op reached hs htimes hstep
  obtain ⟨after, hafter, -, heffect⟩ := hs.toReady.step op
  rw [hstep] at hafter
  cases Option.some.inj hafter
  exact hs.plausible_iff htimes heffect

theorem stamped_booted : (booted cfg).Stamped := by
  refine ⟨ready_booted, ?_⟩
  have hempty : (booted cfg).service.state.ringWindow = [] :=
    RTCState.ringWindow_resetState
  simp [hempty]

def datedRun : List ClockedStep :=
  [.elapse 10000000, .logDetection true 100, .timeSync true 0 1700000000#32,
    .elapse 5000000, .logDetection true 200, .timeSync true 0 1700000100#32]

theorem timestamps_plausible_when_dated :
    (attempt step (booted .fourSlots) datedRun).map (fun reached =>
        reached.service.state.ringWindow.map DetectionEvent.timestamp) =
        some [1696512092, 1700000005] ∧
      ∀ k, ∃ reached,
        attempt step (booted .fourSlots) (datedRun.take k) = some reached ∧
          reached.TimesPlausible := by
  refine ⟨by decide +kernel, ?_⟩
  exact (timestamps_plausible_iff stamped_booted datedRun).mpr
    ⟨by decide +kernel, by decide +kernel⟩

/-- A peer whose clock has not been set, and later one whose clock has. -/
def misdatedRun : List ClockedStep :=
  [.elapse 10000000, .logDetection true 100, .timeSync true 0 5000#32,
    .timeSync true 0 1700000000#32]

theorem misdated_event_stays :
    ∃ reached,
      attempt step (booted .fourSlots) misdatedRun = some reached ∧
        reached.service.state.ringWindow.map DetectionEvent.timestamp =
          [10] ∧
        ¬reached.TimesPlausible := by
  have hrun : (attempt step (booted .fourSlots) misdatedRun).map
      (fun reached =>
        (reached.service.state.ringWindow.map DetectionEvent.timestamp,
          decide reached.TimesPlausible)) = some ([10], false) := by
    decide +kernel
  obtain ⟨reached, hreached, hresult⟩ := Option.map_eq_some_iff.mp hrun
  obtain ⟨hten, hwrong⟩ := Prod.mk.inj hresult
  exact ⟨reached, hreached, hten, of_decide_eq_false hwrong⟩

end ClockedHistory

end SensorFirmware
