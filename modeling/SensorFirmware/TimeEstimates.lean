import SensorFirmware.ClockedHistory

/-!
# Which events are marked as estimated

A clock that was restored from the last known epoch gives estimates, and the
event is to say so.  `logDetection` sets the flag and then clears all flags, so
no event ever carries it.
-/

namespace SensorFirmware

open CyclicBuffer GuardedRun

variable {cfg : HistoryConfig}

namespace ClockedHistory

/-- The flag tells of a time that was taken from an unconfirmed clock. -/
def MarkedRightly (event : DetectionEvent) (source : TimeSource) : Prop :=
  event.isTimeEstimated = true ↔
    event.timestamp ≠ 0 ∧ source.stamped = true ∧ source.confirmed = false

def EstimatesMarked (device : ClockedHistory cfg) : Prop :=
  List.Forall₂ MarkedRightly device.service.state.ringWindow device.sources

instance (event : DetectionEvent) (source : TimeSource) :
    Decidable (MarkedRightly event source) :=
  inferInstanceAs (Decidable (_ ↔ _))

instance (device : ClockedHistory cfg) : Decidable device.EstimatesMarked :=
  inferInstanceAs (Decidable (List.Forall₂ _ _ _))

/-- A detection that takes its time from the clock does so after a time sync. -/
def TimeConfirmed (device : ClockedHistory cfg) : ClockedStep → Prop
  | .logDetection locked _ => locked = true →
      minValidEpoch ≤ device.clock.time → device.confirmed = true
  | _ => True

instance (device : ClockedHistory cfg) (op : ClockedStep) :
    Decidable (device.TimeConfirmed op) :=
  match op with
  | .logDetection _ _ => inferInstanceAs (Decidable (_ → _ → _))
  | .elapse _ => isTrue trivial
  | .restoreClock _ => isTrue trivial
  | .markAsSynced _ _ => isTrue trivial
  | .markMultipleAsSynced _ _ => isTrue trivial
  | .timeSync _ _ _ => isTrue trivial

/-- A time that an event got when it was logged stays. -/
def KeepsTime (event : DetectionEvent) (source : TimeSource) : Prop :=
  source.stamped = true → event.timestamp ≠ 0

/-- The sources are those of the live events. -/
structure Sourced (device : ClockedHistory cfg) : Prop extends
    Ready device where
  times : List.Forall₂ KeepsTime device.service.state.ringWindow
    device.sources

/-! ## What a step does to the sources -/

section Effects

variable {device after : ClockedHistory cfg} {op : ClockedStep}

theorem Sourced.times_of_effect (hsourced : device.Sourced)
    (heffect : Effect device after op) :
    List.Forall₂ KeepsTime after.service.state.ringWindow after.sources := by
  cases heffect with
  | kept hquiet hview hsources =>
      have hlooks : ∀ event source, KeepsTime event source ↔
          KeepsTime (event.masked true false) source :=
        fun _ _ => Iff.rfl
      rw [hsources, hview.forall₂_iff hlooks]
      exact hsourced.times
  | appended durationMs happend hsources =>
      obtain ⟨event, -, -, hnew⟩ := forall₂_sourcesAfter hsourced.toReady
        hsourced.times happend
      rw [hsources, hnew]
      intro hstamped
      simpa using hstamped
  | backfilled millis epochSeconds hwindow hsources =>
      rw [hsources, hwindow, List.forall₂_map_left_iff]
      refine hsourced.times.imp ?_
      intro event source hkeeps hstamped
      have htime := hkeeps hstamped
      have hskipped :
          needsBackfill device.service.state.bootCount event = false := by
        simp [needsBackfill, htime]
      rw [hskipped]
      exact htime

theorem Sourced.step (hsourced : device.Sourced) (op : ClockedStep) :
    ∃ after, device.step op = some after ∧ after.Sourced := by
  obtain ⟨after, hstep, hready, heffect⟩ := hsourced.toReady.step op
  exact ⟨after, hstep, hready, hsourced.times_of_effect heffect⟩

theorem isTimeEstimated_masked (event : DetectionEvent) :
    (event.masked true false).isTimeEstimated = event.isTimeEstimated := by
  have hbits : ∀ flags : Byte,
      (flags &&& 0xFE#8) &&& 0x04#8 = flags &&& 0x04#8 := by
    decide
  simp [DetectionEvent.isTimeEstimated, DetectionEvent.masked, hbits]

theorem markedRightly_masked (event : DetectionEvent)
    (source : TimeSource) :
    MarkedRightly event source ↔
      MarkedRightly (event.masked true false) source := by
  unfold MarkedRightly
  rw [isTimeEstimated_masked]
  exact Iff.rfl

theorem timeConfirmed_of_quiet (hquiet : Quiet op) :
    device.TimeConfirmed op := by
  cases op with
  | logDetection locked durationMs =>
      intro hlocked
      rw [show locked = false from hquiet] at hlocked
      cases hlocked
  | elapse micros => trivial
  | restoreClock config => trivial
  | markAsSynced locked eventId => trivial
  | markMultipleAsSynced locked batch => trivial
  | timeSync locked millis epochSeconds => trivial

/-- A backfill gives a time only to events that got none when they were logged,
and it does not touch the flags. -/
theorem Sourced.estimates_backfilled (hsourced : device.Sourced)
    (hmarked : device.EstimatesMarked) (currentEpoch uptime : ℕ) :
    List.Forall₂ MarkedRightly
      (device.service.state.ringWindow.map fun event =>
        if needsBackfill device.service.state.bootCount event then
          backfill currentEpoch uptime event
        else event) device.sources := by
  rw [List.forall₂_map_left_iff]
  refine List.Forall₂.mp ?_ hsourced.times hmarked
  intro event source hkeeps hright
  split
  next hneeds =>
    have hzero : event.timestamp = 0 := by
      simp [needsBackfill] at hneeds
      exact hneeds.2
    have hunstamped : source.stamped ≠ true :=
      fun hstamped => hkeeps hstamped hzero
    have hflag : ¬event.isTimeEstimated = true := by
      intro hestimated
      exact (hright.mp hestimated).1 hzero
    constructor
    · intro hestimated
      exact absurd hestimated hflag
    · rintro ⟨-, hstamped, -⟩
      exact absurd hstamped hunstamped
  next => exact hright

/-- From a ring that is marked as it should be, the step leaves one exactly when
it does not take a time from an unconfirmed clock. -/
theorem Sourced.estimates_iff (hsourced : device.Sourced)
    (hmarked : device.EstimatesMarked) (heffect : Effect device after op) :
    after.EstimatesMarked ↔ device.TimeConfirmed op := by
  cases heffect with
  | kept hquiet hview hsources =>
      refine iff_of_true ?_ (timeConfirmed_of_quiet hquiet)
      unfold EstimatesMarked
      rw [hsources, hview.forall₂_iff markedRightly_masked]
      exact hmarked
  | appended durationMs happend hsources =>
      obtain ⟨event, hflag, htime, hnew⟩ := forall₂_sourcesAfter
        hsourced.toReady hmarked happend
      have hpositive : 0 < minValidEpoch := by decide
      unfold EstimatesMarked
      rw [hsources, hnew]
      by_cases hvalid : minValidEpoch ≤ device.clock.time
      · rw [if_pos hvalid] at htime
        have hset : event.timestamp ≠ 0 := by omega
        simp [MarkedRightly, TimeConfirmed, hflag, hset, hvalid]
      · rw [if_neg hvalid] at htime
        simp [MarkedRightly, TimeConfirmed, hflag, htime, hvalid]
  | backfilled millis epochSeconds hwindow hsources =>
      refine iff_of_true ?_ trivial
      unfold EstimatesMarked
      rw [hsources, hwindow]
      exact hsourced.estimates_backfilled hmarked _ _

end Effects

/-- The flag never comes up. -/
theorem never_estimated {device : ClockedHistory cfg}
    (hready : device.Ready)
    (hnone : ∀ event ∈ device.service.state.ringWindow,
      event.isTimeEstimated = false) (steps : List ClockedStep) :
    ∃ final, attempt step device steps = some final ∧
      ∀ event ∈ final.service.state.ringWindow,
        event.isTimeEstimated = false := by
  have hstep : ∀ (device : ClockedHistory cfg) op,
      (device.Ready ∧ ∀ event ∈ device.service.state.ringWindow,
        event.isTimeEstimated = false) →
      ∃ after, device.step op = some after ∧ after.Ready ∧
        ∀ event ∈ after.service.state.ringWindow,
          event.isTimeEstimated = false := by
    rintro device op ⟨hready, hnone⟩
    obtain ⟨after, hafter, hkept, heffect⟩ := hready.step op
    refine ⟨after, hafter, hkept, ?_⟩
    cases heffect with
    | kept hquiet hview hsources =>
        have hlooks : ∀ event : DetectionEvent,
            event.isTimeEstimated = false ↔
              (event.masked true false).isTimeEstimated = false := by
          intro event
          rw [isTimeEstimated_masked]
        exact (hview.forall_mem_iff hlooks).mpr hnone
    | appended durationMs happend hsources =>
        apply happend.forall_mem hnone
        intro id bootCount overflow
        exact isTimeEstimated_freshEvent id bootCount _ _ overflow
    | backfilled millis epochSeconds hwindow hsources =>
        rw [hwindow, List.forall_mem_map]
        intro event hmem
        have hflag := hnone event hmem
        split
        · exact hflag
        · exact hflag
  obtain ⟨final, hrun, -, hfinal⟩ :=
    invariant_attempt' hstep steps ⟨hready, hnone⟩
  exact ⟨final, hrun, hfinal⟩

/-- The flag is right in all states of a run exactly when it is at its start
and no detection takes its time from a clock that no time sync has confirmed. -/
theorem estimates_marked_iff {device : ClockedHistory cfg}
    (hsourced : device.Sourced) (steps : List ClockedStep) :
    (∀ k, ∃ reached, attempt step device (steps.take k) = some reached ∧
        reached.EstimatesMarked) ↔
      device.EstimatesMarked ∧
        GuardedAttempt step TimeConfirmed device steps := by
  apply always_iff_guardedAttempt (fun device op hs => hs.step op) ?_ hsourced
  intro device op reached hs hmarked hstep
  obtain ⟨after, hafter, -, heffect⟩ := hs.toReady.step op
  rw [hstep] at hafter
  cases Option.some.inj hafter
  exact hs.estimates_iff hmarked heffect

theorem sourced_booted : (booted cfg).Sourced := by
  refine ⟨ready_booted, ?_⟩
  have hempty : (booted cfg).service.state.ringWindow = [] :=
    RTCState.ringWindow_resetState
  rw [hempty]
  exact .nil

/-- One detection before the clock is believable, one after a time sync. -/
def confirmedRun : List ClockedStep :=
  [.elapse 5000000, .logDetection true 100, .timeSync true 0 1700000000#32,
    .logDetection true 200, .markAsSynced true 2]

theorem estimates_marked_when_confirmed :
    (attempt step (booted .fourSlots) confirmedRun).map sources =
        some [⟨false, false⟩, ⟨true, true⟩] ∧
      ∀ k, ∃ reached,
        attempt step (booted .fourSlots) (confirmedRun.take k) =
            some reached ∧
          reached.EstimatesMarked := by
  refine ⟨by decide +kernel, ?_⟩
  exact (estimates_marked_iff sourced_booted confirmedRun).mpr
    ⟨by decide +kernel, by decide +kernel⟩

/-- A detection on a clock that was restored from the last known epoch. -/
def estimatedRun : List ClockedStep :=
  [.restoreClock
      { UserConfig.initDefaults 7 with lastKnownEpoch := 1700000000 },
    .logDetection true 100]

theorem estimate_not_marked :
    ∃ reached,
      attempt step (booted .fourSlots) estimatedRun = some reached ∧
        ¬reached.EstimatesMarked := by
  have hrun : (attempt step (booted .fourSlots) estimatedRun).map
      (fun reached => decide reached.EstimatesMarked) = some false := by
    decide +kernel
  obtain ⟨reached, hreached, hwrong⟩ := Option.map_eq_some_iff.mp hrun
  exact ⟨reached, hreached, of_decide_eq_false hwrong⟩

end ClockedHistory

end SensorFirmware
