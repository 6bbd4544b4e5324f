import SensorFirmware.FlushAccounting
import SensorFirmware.HistoryRefinement
import SensorFirmware.RingView

/-!
# What the ring remembers of evictions

An eviction leaves no trace but the overflow flag of the event that took the
slot, and that event is evicted in its turn.  A ghost count of the evictions
since the ring was last emptied goes beside the device; once it is not zero the
ring stays full, so each newest event carries the flag.
-/

namespace SensorFirmware

open CyclicBuffer GuardedRun

variable {cfg : HistoryConfig}

namespace HistoryDevice

/-- The step runs `clear`, or a boot that does not go on with the record. -/
def empties (device : HistoryDevice cfg) : HistoryAction cfg → Bool
  | .clear locked => locked
  | .reset reason env =>
      (env.bootEnv reason device.nvs).isColdBoot device.service.state ||
        !device.service.state.validateState
  | .powerUp _ _ _ => true
  | _ => false

/-- The number of events that a boot over this RTC region finds in flash. -/
def restoredCount (device : HistoryDevice cfg) (rtc : RTCState cfg)
    (env : ResetEnv cfg) : ℕ :=
  ((HistoryService.construct rtc).restoreFromNvs device.nvs env.stack
    env.locked).2

/-- The step replaces the ring by the backup in flash. -/
def copiesBackup (device : HistoryDevice cfg) : HistoryAction cfg → Bool
  | .storageCommand env => device.startsOver (.storageCommand env)
  | .reset reason env => device.empties (.reset reason env) &&
      decide (0 < device.restoredCount device.service.state env)
  | .powerUp _ rtc env => decide (0 < device.restoredCount rtc env)
  | _ => false

/-- What a step that copies no backup does to the ring. -/
inductive RingEffect (device : HistoryDevice cfg) (action : HistoryAction cfg)
    (after : HistoryDevice cfg) : Prop where
  | appended (hlogs : device.logs action = true)
      (hempties : device.empties action = false) (clock : ClockMicros)
      (durationMs : ℕ)
      (happend : device.service.state.Appended after.service.state clock
        durationMs)
  | emptied (hempties : device.empties action = true)
      (hhead : after.service.state.head = 0)
      (htail : after.service.state.tail = 0)
  | kept (hlogs : device.logs action = false)
      (hempties : device.empties action = false)
      (hview : SameView DetectionEvent.wasOverflow device.service.state
        after.service.state)

namespace RingEffect

theorem of_state {device after : HistoryDevice cfg}
    {action : HistoryAction cfg} (hlogs : device.logs action = false)
    (hempties : device.empties action = false)
    (hstate : after.service.state = device.service.state) :
    RingEffect device action after :=
  .kept hlogs hempties (.of_eq hstate)

theorem logDetection {device : HistoryDevice cfg}
    (hhead : device.service.state.head < cfg.bufferSize)
    (htail : device.service.state.tail < cfg.bufferSize) (locked : Bool)
    (clock : ClockMicros) (durationMs : ℕ) :
    ∃ after, device.step (.logDetection locked clock durationMs) =
        some after ∧
      RingEffect device (.logDetection locked clock durationMs) after := by
  cases hready : device.service.initialized && locked with
  | true =>
      obtain ⟨state, happend, hspec⟩ := RTCState.appendEvent_spec hhead
        htail clock durationMs device.service.timeSyncReceivedThisBoot
      have hlog : device.service.logDetection locked clock durationMs =
          some (device.service.afterAppend clock state) := by
        unfold HistoryService.logDetection
        rw [if_pos hready, happend, Option.map_some]
      refine ⟨{ device with
        service := (device.service.afterAppend clock state).1 }, ?_,
        .appended hready rfl clock durationMs ?_⟩
      · simp only [HistoryDevice.step, hlog, Option.map_some]
      · dsimp only
        rw [HistoryService.state_afterAppend]
        exact hspec
  | false =>
      have hlog : device.service.logDetection locked clock durationMs =
          some (device.service, ⟨0, none⟩) := by
        unfold HistoryService.logDetection
        rw [hready]
        rfl
      refine ⟨device, ?_, .of_state hready rfl rfl⟩
      simp only [HistoryDevice.step, hlog, Option.map_some]

theorem fastForwardEventId (device : HistoryDevice cfg) (locked : Bool)
    (newId : ℕ) (env : FlushEnv) :
    RingEffect device (.fastForwardEventId locked newId env)
      (device.fastForwardEventId locked newId env) := by
  have hraised : SameView DetectionEvent.wasOverflow device.service.state
      (device.service.fastForwardEventId locked newId).1.state :=
    .fastForwardEventId device.service locked newId
  refine .kept rfl rfl ?_
  unfold HistoryDevice.fastForwardEventId HistoryDevice.flushToNvs
  dsimp only
  split
  · rw [HistoryService.state_flushToNvs]
    exact hraised
  · exact hraised

theorem storageCommand {device : HistoryDevice cfg} {env : StorageEnv cfg}
    (hcopies : device.copiesBackup (.storageCommand env) = false) :
    RingEffect device (.storageCommand env) (device.storageCommand env) := by
  refine .of_state rfl rfl ?_
  unfold HistoryDevice.storageCommand
  split
  next => rfl
  next message rest hqueue =>
    obtain ⟨cmd, eventId⟩ := message
    cases cmd with
    | saveHit => exact HistoryService.state_flushToNvs _ _ _
    | forceFlush => exact HistoryService.state_flushToNvs _ _ _
    | restore =>
        simp only [copiesBackup, startsOver, hqueue, List.head?_cons,
          Option.map_some] at hcopies
        simp [HistoryService.processStorageCommand,
          HistoryService.restoreFromNvs, hcopies]
    | clearNvs => rfl

/-- A boot that does not go on with the record and finds nothing to restore. -/
theorem boot_reset {device : HistoryDevice cfg} {rtc : RTCState cfg}
    {env : ResetEnv cfg} {reason : ResetReason}
    (hnone : device.restoredCount rtc env = 0)
    (hfresh : ((env.bootEnv reason device.nvs).isColdBoot rtc ||
      !rtc.validateState) = true) :
    (HistoryService.boot rtc (env.bootEnv reason device.nvs)).state.head =
        0 ∧
      (HistoryService.boot rtc (env.bootEnv reason device.nvs)).state.tail =
        0 := by
  have hzero : ((HistoryService.construct rtc).restoreFromNvs
      (env.bootEnv reason device.nvs).nvs
      (env.bootEnv reason device.nvs).stack
      (env.bootEnv reason device.nvs).locked).2 = 0 :=
    hnone
  have hover : ((env.bootEnv reason device.nvs).isColdBoot
      (HistoryService.construct rtc).state ||
        !(HistoryService.construct rtc).state.validateState) = true :=
    hfresh
  unfold HistoryService.boot
  rw [HistoryService.state_init, if_pos hover]
  unfold HistoryService.restoreOrReset
  simp only [hzero, Nat.lt_irrefl, if_false]
  exact ⟨rfl, rfl⟩

theorem reset {device : HistoryDevice cfg} {reason : ResetReason}
    {env : ResetEnv cfg}
    (hcopies : device.copiesBackup (.reset reason env) = false) :
    RingEffect device (.reset reason env) (device.reset reason env) := by
  cases hempties : device.empties (.reset reason env) with
  | true =>
      have hnone : device.restoredCount device.service.state env = 0 := by
        simpa [copiesBackup, hempties] using hcopies
      obtain ⟨hhead, htail⟩ := boot_reset hnone hempties
      exact .emptied hempties hhead htail
  | false =>
      have hgoes : ¬((env.bootEnv reason device.nvs).isColdBoot
          (HistoryService.construct device.service.state).state ||
            !(HistoryService.construct
              device.service.state).state.validateState) = true :=
        Bool.not_eq_true _ ▸ hempties
      refine .kept rfl hempties ?_
      unfold HistoryDevice.reset HistoryService.boot
      dsimp only
      rw [HistoryService.state_init, if_neg hgoes]
      exact ⟨rfl, rfl, rfl, rfl⟩

theorem powerUp {device : HistoryDevice cfg} {brownout : Bool}
    {rtc : RTCState cfg} {env : ResetEnv cfg}
    (hcopies : device.copiesBackup (.powerUp brownout rtc env) = false) :
    RingEffect device (.powerUp brownout rtc env)
      (device.powerUp brownout rtc env) := by
  have hnone : device.restoredCount rtc env = 0 := by
    simpa [copiesBackup] using hcopies
  have hcold : ∀ reason : ResetReason, reason = .powerOn ∨
      reason = .brownout → ((env.bootEnv reason device.nvs).isColdBoot rtc ||
        !rtc.validateState) = true := by
    rintro reason (rfl | rfl) <;> rfl
  cases brownout with
  | true =>
      obtain ⟨hhead, htail⟩ := boot_reset hnone (hcold .brownout (.inr rfl))
      exact .emptied rfl hhead htail
  | false =>
      obtain ⟨hhead, htail⟩ := boot_reset hnone (hcold .powerOn (.inl rfl))
      exact .emptied rfl hhead htail

/-- No step faults, and each does one of the three things. -/
theorem step {device : HistoryDevice cfg}
    (hhead : device.service.state.head < cfg.bufferSize)
    (htail : device.service.state.tail < cfg.bufferSize)
    {action : HistoryAction cfg}
    (hcopies : device.copiesBackup action = false) :
    ∃ after, device.step action = some after ∧
      RingEffect device action after := by
  cases action with
  | logDetection locked clock durationMs =>
      exact logDetection hhead htail locked clock durationMs
  | markAsSynced locked eventId =>
      obtain ⟨marked, hmark, -⟩ := HistoryService.markAsSynced_frame hhead
        htail locked eventId
      have hview := SameView.markAsSynced
        DetectionEvent.wasOverflow_setSynced hmark
      refine ⟨{ device with service := marked.1 }, ?_,
        .kept rfl rfl hview⟩
      simp only [HistoryDevice.step, hmark, Option.map_some]
  | markMultipleAsSynced locked batch =>
      obtain ⟨marked, hmark, -⟩ :=
        HistoryService.markMultipleAsSynced_frame hhead htail locked batch
      have hview := SameView.markMultipleAsSynced
        DetectionEvent.wasOverflow_setSynced hmark
      refine ⟨{ device with service := marked.1 }, ?_,
        .kept rfl rfl hview⟩
      simp only [HistoryDevice.step, hmark, Option.map_some]
  | applyTimeSync locked millis currentEpoch =>
      obtain ⟨synced, hsync, -⟩ := HistoryService.applyTimeSync_frame hhead
        htail locked millis currentEpoch
      have hview : SameView DetectionEvent.wasOverflow device.service.state
          synced.1.state :=
        .applyTimeSync (fun _ _ _ => rfl) hsync
      refine ⟨{ device with service := synced.1 }, ?_,
        .kept rfl rfl hview⟩
      simp only [HistoryDevice.step, hsync, Option.map_some]
  | fastForwardEventId locked newId env =>
      exact ⟨_, rfl, fastForwardEventId device locked newId env⟩
  | clear locked =>
      cases locked with
      | true => exact ⟨_, rfl, .emptied rfl rfl rfl⟩
      | false => exact ⟨_, rfl, .of_state rfl rfl rfl⟩
  | setBleConnected connected millis =>
      exact ⟨_, rfl, .of_state rfl rfl
        (HistoryService.state_setBleConnected _ _ _)⟩
  | queueStorageCommand cmd eventId =>
      exact ⟨_, rfl, .of_state rfl rfl
        (HistoryService.state_queueStorageCommand _ _ _)⟩
  | storageCommand env => exact ⟨_, rfl, storageCommand hcopies⟩
  | startStorageWorker taskOk =>
      exact ⟨_, rfl, .of_state rfl rfl
        (HistoryService.state_startStorageWorker _ _)⟩
  | stopStorageWorker => exact ⟨_, rfl, .of_state rfl rfl rfl⟩
  | flushToNvs env =>
      exact ⟨_, rfl, .of_state rfl rfl
        (HistoryService.state_flushToNvs _ _ _)⟩
  | reset reason env => exact ⟨_, rfl, reset hcopies⟩
  | powerUp brownout rtc env => exact ⟨_, rfl, powerUp hcopies⟩

end RingEffect

end HistoryDevice

/-! ## Evictions since the ring was last emptied -/

structure WatchedRing (cfg : HistoryConfig) extends HistoryDevice cfg where
  evicted : ℕ

namespace WatchedRing

/-- Of the live events and the new one, those that are missing afterwards. -/
def evictedBy (before after : HistoryDevice cfg) : ℕ :=
  before.service.state.ringWindow.length + 1 -
    after.service.state.ringWindow.length

def evictedAfter (ring : WatchedRing cfg) (action : HistoryAction cfg)
    (after : HistoryDevice cfg) : ℕ :=
  if ring.empties action then 0
  else if ring.logs action then
    ring.evicted + evictedBy ring.toHistoryDevice after
  else ring.evicted

def step (ring : WatchedRing cfg) (action : HistoryAction cfg) :
    Option (WatchedRing cfg) :=
  (ring.toHistoryDevice.step action).map fun after =>
    { toHistoryDevice := after, evicted := ring.evictedAfter action after }

/-- The state right after `resetState`, or after a `clear` that got the lock. -/
inductive Emptied : HistoryService cfg → Prop where
  | resetState (service : HistoryService cfg) (bootCount : ℕ) :
      Emptied (service.startFromReset bootCount)
  | clear (service : HistoryService cfg) : Emptied (service.clear true)

def start (service : HistoryService cfg) (nvs : HistoryNvs cfg) :
    WatchedRing cfg where
  service := service
  nvs := nvs
  evicted := 0

/-- After an eviction the ring stays full, and some live event tells of it. -/
structure Telling (ring : WatchedRing cfg) : Prop where
  head_lt : ring.service.state.head < cfg.bufferSize
  tail_lt : ring.service.state.tail < cfg.bufferSize
  full : 0 < ring.evicted →
    ring.service.state.ringWindow.length + 1 = cfg.bufferSize
  flagged : ring.service.state.ringWindow.any DetectionEvent.wasOverflow =
    decide (0 < ring.evicted)

theorem telling_of_empty {ring : WatchedRing cfg}
    (hhead : ring.service.state.head = 0)
    (htail : ring.service.state.tail = 0) (hnone : ring.evicted = 0) :
    ring.Telling := by
  have hsize := cfg.bufferSize_pos
  constructor
  · rw [hhead]
    exact hsize
  · rw [htail]
    exact hsize
  · intro hsome
    omega
  · simp [RTCState.ringWindow, hhead, htail, hnone, window]

theorem telling_start {service : HistoryService cfg}
    (hempty : Emptied service) (nvs : HistoryNvs cfg) :
    (start service nvs).Telling := by
  cases hempty with
  | resetState service bootCount => exact telling_of_empty rfl rfl rfl
  | clear service => exact telling_of_empty rfl rfl rfl

theorem wasOverflow_freshEvent (id bootCount : ℕ) (clock : ClockMicros)
    (durationMs : ℕ) (overflow : Bool) :
    (freshEvent id bootCount clock durationMs overflow).wasOverflow =
      overflow := by
  cases overflow <;> simp [DetectionEvent.wasOverflow, freshEvent]

/-- The new event carries the flag exactly when it evicts another. -/
theorem Telling.appended {ring : WatchedRing cfg} (htelling : ring.Telling)
    {after : HistoryDevice cfg} {clock : ClockMicros} {durationMs : ℕ}
    (happend : ring.service.state.Appended after.service.state clock
      durationMs) :
    Telling { toHistoryDevice := after
              evicted := ring.evicted +
                evictedBy ring.toHistoryDevice after } := by
  have hlength := happend.length_eq htelling.head_lt htelling.tail_lt
  have hlive : ring.service.state.ringWindow.length =
      used cfg.bufferSize ring.service.state.tail ring.service.state.head :=
    length_window ring.service.state.buffer htelling.tail_lt
  have hfull := next_eq_iff_used htelling.tail_lt htelling.head_lt
  rw [← hlive] at hfull
  have hflagged := htelling.flagged
  have hfresh := wasOverflow_freshEvent
    (u32 (ring.service.state.globalEventId + 1))
    ring.service.state.bootCount clock durationMs
  by_cases hmeet :
      next cfg.bufferSize ring.service.state.head = ring.service.state.tail
  · -- one event is evicted, and the new one tells of it
    have hkeptLength := hfull.mp hmeet
    rw [if_pos hmeet] at hlength
    constructor
    · exact happend.head_lt
    · exact happend.tail_lt
    · intro _
      dsimp only
      rw [hlength]
      exact hkeptLength
    · have hone : evictedBy ring.toHistoryDevice after = 1 := by
        unfold evictedBy
        omega
      simp [happend.ringWindow, hmeet, hone, hfresh]
  · -- there is room, so nothing was evicted before either
    have hnone : ring.evicted = 0 := by
      by_contra hsome
      exact hmeet (hfull.mpr (htelling.full (Nat.pos_of_ne_zero hsome)))
    have hzero : evictedBy ring.toHistoryDevice after = 0 := by
      rw [if_neg hmeet] at hlength
      unfold evictedBy
      omega
    rw [hnone] at hflagged
    constructor
    · exact happend.head_lt
    · exact happend.tail_lt
    · intro hsome
      dsimp only at hsome
      omega
    · dsimp only
      rw [happend.ringWindow, if_neg hmeet, List.any_append, hflagged,
        hnone, hzero]
      simp [hmeet, hfresh]

theorem Telling.kept {ring : WatchedRing cfg} (htelling : ring.Telling)
    {after : HistoryDevice cfg}
    (hview : SameView DetectionEvent.wasOverflow ring.service.state
      after.service.state) :
    Telling { toHistoryDevice := after, evicted := ring.evicted } := by
  constructor
  · exact hview.head ▸ htelling.head_lt
  · exact hview.tail ▸ htelling.tail_lt
  · intro hsome
    dsimp only
    rw [hview.length_eq]
    exact htelling.full hsome
  · have hflags := congrArg (List.any · id) hview.events
    simp only [List.any_map, Function.id_comp] at hflags
    exact hflags.trans htelling.flagged

theorem Telling.step {ring : WatchedRing cfg} (htelling : ring.Telling)
    {action : HistoryAction cfg}
    (hcopies : ring.copiesBackup action = false) :
    ∃ after, ring.step action = some after ∧ after.Telling := by
  obtain ⟨after, hstep, heffect⟩ := HistoryDevice.RingEffect.step
    htelling.head_lt htelling.tail_lt hcopies
  refine ⟨{ toHistoryDevice := after
            evicted := ring.evictedAfter action after }, ?_, ?_⟩
  · simp only [WatchedRing.step, hstep, Option.map_some]
  · unfold evictedAfter
    cases heffect with
    | appended hlogs hempties clock durationMs happend =>
        simp only [hlogs, hempties, Bool.false_eq_true, if_false, if_true]
        exact htelling.appended happend
    | emptied hempties hhead htail =>
        simp only [hempties, if_true]
        exact telling_of_empty hhead htail rfl
    | kept hlogs hempties hview =>
        simp only [hlogs, hempties, Bool.false_eq_true, if_false]
        exact htelling.kept hview

theorem Telling.hasOverflowed {ring : WatchedRing cfg}
    (htelling : ring.Telling) :
    ring.service.hasOverflowed true = some (decide (0 < ring.evicted)) := by
  obtain ⟨buffer, hscan, -⟩ := RTCState.scanLive_eq htelling.head_lt
    htelling.tail_lt always (visitAny DetectionEvent.wasOverflow) false
  unfold HistoryService.hasOverflowed
  rw [if_pos rfl, hscan, Option.map_some, visitAny,
    scanList_firstMatch_found, htelling.flagged]

/-- Whatever happens after the ring was emptied, short of a restore from flash:
`hasOverflowed` tells whether an event was evicted since it was last empty. -/
theorem hasOverflowed_iff_evicted {service : HistoryService cfg}
    (hempty : Emptied service) (nvs : HistoryNvs cfg)
    (actions : List (HistoryAction cfg))
    (hring : GuardedAttempt step
      (fun ring action => ring.copiesBackup action = false)
      (start service nvs) actions) :
    ∃ final, attempt step (start service nvs) actions = some final ∧
      final.service.hasOverflowed true =
        some (decide (0 < final.evicted)) := by
  obtain ⟨final, hrun, hfinal⟩ := invariant_attempt
    (fun ring action (htelling : ring.Telling) hcopies =>
      htelling.step hcopies) (telling_start hempty nvs) hring
  exact ⟨final, hrun, hfinal.hasOverflowed⟩

/-- Two evictions, with marks of the flagged event and a sleep in between. -/
def evictingRun : List (HistoryAction .fourSlots) :=
  [.logDetection true 1000000 10, .logDetection true 2000000 20,
    .logDetection true 3000000 30, .logDetection true 4000000 40,
    .markAsSynced true 4, .applyTimeSync true 0 1700000000, .flushToNvs .good,
    .reset .deepSleep ⟨(RTCState.resetState .fourSlots).buffer, true, true⟩,
    .logDetection true 5000000 50]

theorem hasOverflowed_after_two_evictions :
    ∃ final,
      attempt step (start ((HistoryService.construct
          (.resetState .fourSlots)).startFromReset 1) (.empty .fourSlots))
        evictingRun = some final ∧
      final.service.hasOverflowed true = some (decide (0 < final.evicted)) ∧
      final.evicted = 2 := by
  obtain ⟨final, hrun, hoverflowed⟩ := hasOverflowed_iff_evicted
    (.resetState (HistoryService.construct (.resetState .fourSlots)) 1)
    (.empty .fourSlots) evictingRun (by decide +kernel)
  have hcount : (attempt step (start ((HistoryService.construct
        (.resetState .fourSlots)).startFromReset 1) (.empty .fourSlots))
      evictingRun).map evicted = some 2 := by
    decide +kernel
  rw [hrun] at hcount
  exact ⟨final, hrun, hoverflowed, Option.some.inj hcount⟩

end WatchedRing

end SensorFirmware
