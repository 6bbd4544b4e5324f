import SensorFirmware.HistoryPersistence

/-!
# What `init` accepts from a previous boot

`validateState` checks a magic number and a checksum over the event buffer
only, and `restoreFromNvs` takes the stored indices as they are.  A boot is
therefore safe exactly when the record that it accepts was safe already.
-/

namespace SensorFirmware

open CyclicBuffer

variable {cfg : HistoryConfig}

/-- Later operations access slots in range only, and all their scans end. -/
structure RTCState.Usable (state : RTCState cfg) : Prop where
  safe : state.Safe
  scan_ends : ∀ (σ : Type) (more : σ → Bool)
    (visit : σ → DetectionEvent → Visit σ DetectionEvent) (acc : σ),
      (state.scanLive more visit acc).isSome
  append_in_range : ∀ (clock : ClockMicros) (durationMs : ℕ)
    (timeSynced : Bool),
      (state.appendEvent clock durationMs timeSynced).isSome

theorem RTCState.usable_iff (state : RTCState cfg) :
    state.Usable ↔ state.Safe := by
  constructor
  · exact RTCState.Usable.safe
  · intro hsafe
    constructor
    · exact hsafe
    · intro σ more visit acc
      obtain ⟨buffer, hscan, _⟩ :=
        RTCState.scanLive_eq hsafe.head_lt hsafe.tail_lt more visit acc
      rw [hscan]
      rfl
    · intro clock durationMs timeSynced
      unfold RTCState.appendEvent
      dsimp only
      rw [dif_pos hsafe.head_lt]
      rfl

theorem RTCState.safe_congr {left right : RTCState cfg}
    (hhead : left.head = right.head) (htail : left.tail = right.tail)
    (hcounter : left.globalEventId = right.globalEventId)
    (hbuffer : left.buffer = right.buffer) :
    left.Safe ↔ right.Safe := by
  have hwindow : left.ringWindow = right.ringWindow := by
    unfold RTCState.ringWindow
    rw [hhead, htail, hbuffer]
  constructor
  · rintro ⟨hh, ht, hid⟩
    exact ⟨hhead ▸ hh, htail ▸ ht, hwindow ▸ hcounter ▸ hid⟩
  · rintro ⟨hh, ht, hid⟩
    exact ⟨hhead ▸ hh, htail ▸ ht, hwindow ▸ hcounter ▸ hid⟩

structure FlushSnapshot.Safe (snapshot : FlushSnapshot cfg) : Prop where
  head_lt : snapshot.head < cfg.bufferSize
  tail_lt : snapshot.tail < cfg.bufferSize
  id_le : ∀ event ∈ snapshot.ringWindow, event.id ≤ snapshot.eventId

/-- A warm boot over an RTC record with the right magic number and buffer
checksum. -/
def BootEnv.trustsRtc (env : BootEnv cfg) (state : RTCState cfg) : Bool :=
  !env.isColdBoot state && state.validateState

/-- The keys can be read and give a count that is not zero in eight bits. -/
def BootEnv.trustsNvs (env : BootEnv cfg) : Bool :=
  env.nvs.namespaceExists && env.nvs.eventId.isSome && env.locked &&
    u8 (HistoryService.restoredState
      (HistoryService.nvsSnapshot env.nvs env.stack)).getEventCount != 0

/-- The record that the boot goes on with was safe when it was found. -/
def BootEnv.FindsSafeRecord (env : BootEnv cfg) (state : RTCState cfg) :
    Prop :=
  if env.trustsRtc state then state.Safe
  else env.trustsNvs = true →
    (HistoryService.nvsSnapshot env.nvs env.stack).Safe

namespace HistoryService

theorem safe_restoredState_iff (snapshot : FlushSnapshot cfg) :
    (restoredState snapshot).Safe ↔ snapshot.Safe := by
  constructor
  · rintro ⟨hhead, htail, hid⟩
    exact ⟨hhead, htail, hid⟩
  · rintro ⟨hhead, htail, hid⟩
    exact ⟨hhead, htail, hid⟩

theorem safe_restoreOrReset_iff (service : HistoryService cfg)
    (env : BootEnv cfg) :
    (service.restoreOrReset env).state.Safe ↔
      (env.trustsNvs = true → (nvsSnapshot env.nvs env.stack).Safe) := by
  have hbase : (RTCState.resetState cfg).Safe := RTCState.safe_resetState
  have hreset : ({ RTCState.resetState cfg with bootCount := 1 } :
      RTCState cfg).Safe :=
    ⟨hbase.head_lt, hbase.tail_lt, hbase.id_le⟩
  unfold restoreOrReset restoreFromNvs BootEnv.trustsNvs
  cases hread : env.nvs.namespaceExists && env.nvs.eventId.isSome &&
      env.locked with
  | false => simpa using hreset
  | true =>
      simp only [if_true, Bool.true_and, bne_iff_ne, ne_eq]
      by_cases hcount : u8 (restoredState
          (nvsSnapshot env.nvs env.stack)).getEventCount = 0
      · simpa [hcount] using hreset
      · have hpositive : 0 < u8 (restoredState
            (nvsSnapshot env.nvs env.stack)).getEventCount := by
          omega
        simp only [hpositive, if_true, hcount, not_false_eq_true,
          forall_const]
        rw [← safe_restoredState_iff]
        exact RTCState.safe_congr rfl rfl rfl rfl

/-- The persisted content is safe to work with after `init` if and only if
the record that `init` accepted was. -/
theorem init_usable_iff (service : HistoryService cfg)
    (env : BootEnv cfg) :
    (service.init env).state.Usable ↔
      env.FindsSafeRecord service.state := by
  rw [RTCState.usable_iff, state_init]
  unfold BootEnv.FindsSafeRecord BootEnv.trustsRtc
  cases env.isColdBoot service.state <;>
    cases service.state.validateState <;>
    simp [RTCState.safe_updateCRC_iff, safe_restoreOrReset_iff]

/-- A wake from deep sleep; nothing was ever backed up. -/
def wakeWithoutBackup : BootEnv .fourSlots where
  resetReason := .deepSleep
  nvs := .empty .fourSlots
  stack := (RTCState.resetState .fourSlots).buffer
  locked := true
  taskOk := true

/-- An RTC record whose head index was damaged. -/
def damagedHead : RTCState .fourSlots :=
  { RTCState.resetState .fourSlots with head := 7 }

/-- The damaged index passes validation and the next scan never ends. -/
theorem init_accepts_damaged_head :
    damagedHead.validateState = true ∧
      ¬(boot damagedHead wakeWithoutBackup).state.Usable ∧
      (boot damagedHead wakeWithoutBackup).getPendingCount true = none := by
  refine ⟨by decide +kernel, ?_, by decide +kernel⟩
  intro husable
  have hhead : (boot damagedHead wakeWithoutBackup).state.head = 7 := by
    decide +kernel
  have hlt := husable.safe.head_lt
  rw [hhead] at hlt
  exact absurd hlt (by decide)

end HistoryService

end SensorFirmware
