import SensorFirmware.ConfigStore
import SensorFirmware.GuardedRun
import SensorFirmware.RingView
import SensorFirmware.TimeSyncBackfill

/-!
# Detections and the clock within one boot

The history service over the clock from which it stamps its events.  Before the
first time sync the clock may have been set from the last known epoch.  Beside
the ring goes, for each live event, where its time came from when it was logged.
-/

namespace SensorFirmware

open CyclicBuffer GuardedRun

variable {cfg : HistoryConfig}

/-- Whether the event got a time when it was logged, and whether a time sync had
confirmed the clock by then. -/
structure TimeSource where
  stamped : Bool
  confirmed : Bool
  deriving DecidableEq, Repr

/-- `confirmed` and `sources` are ghosts; the sources are in the order of the live
events. -/
structure ClockedHistory (cfg : HistoryConfig) where
  service : HistoryService cfg
  clock : ClockMicros
  confirmed : Bool
  sources : List TimeSource
  deriving DecidableEq

/-- The epoch is the 32-bit word of the message. -/
inductive ClockedStep where
  | elapse (micros : ℕ)
  | restoreClock (config : UserConfig)
  | logDetection (locked : Bool) (durationMs : ℕ)
  | markAsSynced (locked : Bool) (eventId : ℕ)
  | markMultipleAsSynced (locked : Bool) (batch : EventIdBatch)
  | timeSync (locked : Bool) (millis : ℕ) (epochSeconds : BitVec 32)

namespace ClockedHistory

/-- The sources after a detection was appended: the oldest one goes with its
event. -/
def sourcesAfter (device : ClockedHistory cfg) (state : RTCState cfg) :
    List TimeSource :=
  let kept :=
    if device.service.state.ringWindow.length < state.ringWindow.length
      then device.sources
    else device.sources.tail
  kept ++ (state.ringWindow.getLast?.map fun event =>
    ⟨event.timestamp != 0, device.confirmed⟩).toList

def afterLog (device : ClockedHistory cfg) (locked : Bool)
    (service : HistoryService cfg) : ClockedHistory cfg :=
  { device with
    service := service
    sources :=
      if device.service.initialized && locked then
        device.sourcesAfter service.state
      else device.sources }

def step (device : ClockedHistory cfg) :
    ClockedStep → Option (ClockedHistory cfg)
  | .elapse micros => some { device with clock := device.clock + micros }
  | .restoreClock config =>
      some { device with
        clock := (ConfigService.forwardChain config).getD device.clock }
  | .logDetection locked durationMs =>
      (device.service.logDetection locked device.clock durationMs).map
        fun (service, _) => device.afterLog locked service
  | .markAsSynced locked eventId =>
      (device.service.markAsSynced locked eventId).map
        fun (service, _) => { device with service := service }
  | .markMultipleAsSynced locked batch =>
      (device.service.markMultipleAsSynced locked batch).map
        fun (service, _) => { device with service := service }
  | .timeSync locked millis epochSeconds =>
      (device.service.applyTimeSync locked millis epochSeconds.toNat).map
        fun (service, clock) =>
          { device with
            service := service
            clock := clock.getD device.clock
            confirmed := true }

structure Ready (device : ClockedHistory cfg) : Prop where
  initialized : device.service.initialized = true
  head_lt : device.service.state.head < cfg.bufferSize
  tail_lt : device.service.state.tail < cfg.bufferSize

/-- Every step but a detection and a time sync that get the lock. -/
def Quiet : ClockedStep → Prop
  | .logDetection locked _ => locked = false
  | .timeSync locked _ _ => locked = false
  | _ => True

/-- What a step does to the ring and to the sources. -/
inductive Effect (device after : ClockedHistory cfg) : ClockedStep → Prop where
  | kept {op : ClockedStep} (hquiet : Quiet op)
      (hview : SameView (DetectionEvent.masked true false)
        device.service.state after.service.state)
      (hsources : after.sources = device.sources) : Effect device after op
  | appended (durationMs : ℕ)
      (happend : device.service.state.Appended after.service.state
        device.clock durationMs)
      (hsources : after.sources = device.sourcesAfter after.service.state) :
      Effect device after (.logDetection true durationMs)
  | backfilled (millis : ℕ) (epochSeconds : BitVec 32)
      (hwindow : after.service.state.ringWindow =
        device.service.state.ringWindow.map fun event =>
          if needsBackfill device.service.state.bootCount event then
            backfill epochSeconds.toNat
              (syncUptime epochSeconds.toNat millis) event
          else event)
      (hsources : after.sources = device.sources) :
      Effect device after (.timeSync true millis epochSeconds)

/-! ## One step -/

section Steps

variable {device : ClockedHistory cfg}

theorem Ready.of_sameIndices (hready : device.Ready)
    {after : ClockedHistory cfg}
    (hsame : HistoryService.SameIndices device.service after.service) :
    after.Ready := by
  constructor
  · exact hsame.initialized.trans hready.initialized
  · exact hsame.head ▸ hready.head_lt
  · exact hsame.tail ▸ hready.tail_lt

theorem Ready.logDetection (hready : device.Ready) (locked : Bool)
    (durationMs : ℕ) :
    ∃ after, device.step (.logDetection locked durationMs) = some after ∧
      after.Ready ∧
      Effect device after (.logDetection locked durationMs) := by
  cases locked with
  | false =>
      refine ⟨device, ?_, hready, .kept rfl (.refl _) rfl⟩
      simp [step, HistoryService.logDetection, afterLog]
  | true =>
      obtain ⟨state, happend, hspec⟩ := RTCState.appendEvent_spec
        hready.head_lt hready.tail_lt device.clock durationMs
        device.service.timeSyncReceivedThisBoot
      have hlog : device.service.logDetection true device.clock durationMs =
          some (device.service.afterAppend device.clock state) := by
        simp [HistoryService.logDetection, hready.initialized, happend]
      have hstate : (device.service.afterAppend device.clock state).1.state =
          state :=
        HistoryService.state_afterAppend _ _ _
      refine ⟨device.afterLog true
        (device.service.afterAppend device.clock state).1, ?_, ?_, ?_⟩
      · simp only [step, hlog, Option.map_some]
      · constructor
        · exact (device.service.initialized_afterAppend device.clock
            state).trans hready.initialized
        · exact hstate.symm ▸ hspec.head_lt
        · exact hstate.symm ▸ hspec.tail_lt
      · refine .appended durationMs (hstate.symm ▸ hspec) ?_
        simp [afterLog, hready.initialized]

theorem Ready.timeSync (hready : device.Ready) (locked : Bool)
    (millis : ℕ) (epochSeconds : BitVec 32) :
    ∃ after, device.step (.timeSync locked millis epochSeconds) =
        some after ∧
      after.Ready ∧
      Effect device after (.timeSync locked millis epochSeconds) := by
  obtain ⟨service, clock, hsync, hwindow⟩ :=
    HistoryService.ringWindow_applyTimeSync hready.initialized
      hready.head_lt hready.tail_lt locked millis epochSeconds.toNat
  obtain ⟨result, hresult, hframe⟩ := HistoryService.applyTimeSync_frame
    hready.head_lt hready.tail_lt locked millis epochSeconds.toNat
  rw [hsync] at hresult
  cases Option.some.inj hresult
  refine ⟨{ device with
      service := service
      clock := clock.getD device.clock
      confirmed := true }, ?_, hready.of_sameIndices hframe, ?_⟩
  · simp only [step, hsync, Option.map_some]
  · cases locked with
    | true =>
        simp only [Bool.true_and] at hwindow
        exact .backfilled millis epochSeconds hwindow rfl
    | false =>
        simp only [Bool.false_and, Bool.false_eq_true, if_false,
          List.map_id'] at hwindow
        refine .kept rfl ⟨hframe.head, hframe.tail, hframe.bootCount, ?_⟩ rfl
        dsimp only
        rw [hwindow]

theorem Ready.step (hready : device.Ready) (op : ClockedStep) :
    ∃ after, device.step op = some after ∧ after.Ready ∧
      Effect device after op := by
  have hmasked := DetectionEvent.masked_setSynced true
  cases op with
  | elapse micros =>
      exact ⟨_, rfl, hready.of_sameIndices (.refl _),
        .kept trivial (.refl _) rfl⟩
  | restoreClock config =>
      exact ⟨_, rfl, hready.of_sameIndices (.refl _),
        .kept trivial (.refl _) rfl⟩
  | logDetection locked durationMs =>
      exact hready.logDetection locked durationMs
  | markAsSynced locked eventId =>
      obtain ⟨marked, hmark, hframe⟩ := HistoryService.markAsSynced_frame
        hready.head_lt hready.tail_lt locked eventId
      refine ⟨{ device with service := marked.1 }, ?_,
        hready.of_sameIndices hframe,
        .kept trivial (.markAsSynced hmasked hmark) rfl⟩
      simp only [ClockedHistory.step, hmark, Option.map_some]
  | markMultipleAsSynced locked batch =>
      obtain ⟨marked, hmark, hframe⟩ :=
        HistoryService.markMultipleAsSynced_frame hready.head_lt
          hready.tail_lt locked batch
      refine ⟨{ device with service := marked.1 }, ?_,
        hready.of_sameIndices hframe,
        .kept trivial (.markMultipleAsSynced hmasked hmark) rfl⟩
      simp only [ClockedHistory.step, hmark, Option.map_some]
  | timeSync locked millis epochSeconds =>
      exact hready.timeSync locked millis epochSeconds

end Steps

/-! ## Events and their sources -/

theorem forall₂_concat_iff {α β : Type*} {R : α → β → Prop} {l : List α}
    {m : List β} {a : α} {b : β} :
    List.Forall₂ R (l ++ [a]) (m ++ [b]) ↔ List.Forall₂ R l m ∧ R a b := by
  rw [← List.forall₂_reverse_iff]
  simp [List.forall₂_reverse_iff, and_comm]

theorem isTimeEstimated_freshEvent (id bootCount : ℕ) (clock : ClockMicros)
    (durationMs : ℕ) (overflow : Bool) :
    (freshEvent id bootCount clock durationMs overflow).isTimeEstimated =
      false := by
  unfold DetectionEvent.isTimeEstimated freshEvent
  dsimp only
  split <;> decide

/-- The new event joins with its source, and the evicted one leaves with its
own. -/
theorem forall₂_sourcesAfter {device : ClockedHistory cfg}
    (hready : device.Ready) {R : DetectionEvent → TimeSource → Prop}
    (hbefore : List.Forall₂ R device.service.state.ringWindow
      device.sources) {after : RTCState cfg} {durationMs : ℕ}
    (happend : device.service.state.Appended after device.clock
      durationMs) :
    ∃ event : DetectionEvent,
      event.isTimeEstimated = false ∧
      event.timestamp = (if minValidEpoch ≤ device.clock.time then
        device.clock.time else 0) ∧
      (List.Forall₂ R after.ringWindow (device.sourcesAfter after) ↔
        R event ⟨event.timestamp != 0, device.confirmed⟩) := by
  have hlength := happend.length_eq hready.head_lt hready.tail_lt
  have hwindow := happend.ringWindow
  unfold sourcesAfter
  generalize hevent : freshEvent _ _ _ _ _ = event at hwindow
  refine ⟨event, ?_, ?_, ?_⟩
  · rw [← hevent]
    exact isTimeEstimated_freshEvent _ _ _ _ _
  · rw [← hevent]
    rfl
  have hlast : after.ringWindow.getLast? = some event := by
    simp [hwindow]
  dsimp only
  rw [hlast, Option.map_some, Option.toList_some]
  by_cases hfull : next cfg.bufferSize device.service.state.head =
      device.service.state.tail
  · rw [if_pos hfull] at hlength hwindow
    have hstays : ¬device.service.state.ringWindow.length <
        after.ringWindow.length := by
      omega
    have htails : List.Forall₂ R device.service.state.ringWindow.tail
        device.sources.tail := by
      rw [← List.drop_one, ← List.drop_one]
      exact List.forall₂_drop 1 hbefore
    rw [if_neg hstays, hwindow, forall₂_concat_iff]
    exact and_iff_right htails
  · rw [if_neg hfull] at hlength hwindow
    have hgrows : device.service.state.ringWindow.length <
        after.ringWindow.length := by
      omega
    rw [if_pos hgrows, hwindow, forall₂_concat_iff]
    exact and_iff_right hbefore

/-- Freshly booted over a ring that was reset. -/
def booted (cfg : HistoryConfig) : ClockedHistory cfg where
  service := { HistoryService.construct (.resetState cfg) with
    initialized := true }
  clock := 0
  confirmed := false
  sources := []

theorem ready_booted : (booted cfg).Ready :=
  ⟨rfl, cfg.bufferSize_pos, cfg.bufferSize_pos⟩

end ClockedHistory

end SensorFirmware
