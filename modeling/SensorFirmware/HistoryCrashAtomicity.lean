import SensorFirmware.HistoryPersistence

/-!
# What a cut flush leaves behind

A flush that is cut short replaces some of the five keys of an older backup.
What a cold boot then reads is a mixture of the old and the new snapshot, and
the mixture is one of the two exactly when the keys on one side of the cut do
not tell the snapshots apart.
-/

namespace SensorFirmware

variable {cfg : HistoryConfig}

structure FlushSnapshot.RestoredIn (snapshot : FlushSnapshot cfg)
    (state : RTCState cfg) : Prop where
  ringWindow : state.ringWindow = snapshot.ringWindow
  head : state.head = snapshot.head
  tail : state.tail = snapshot.tail
  eventId : state.globalEventId = snapshot.eventId
  bootCount : state.bootCount = snapshot.bootCount

/-- One key of `other` fits into `snapshot`.  Of the event blob only the live
window of `snapshot` counts. -/
def FlushSnapshot.AgreesAt (snapshot other : FlushSnapshot cfg) :
    NvsKey → Prop
  | .bootCnt => other.bootCount = snapshot.bootCount
  | .eventId => other.eventId = snapshot.eventId
  | .head => other.head = snapshot.head
  | .tail => other.tail = snapshot.tail
  | .events =>
      CyclicBuffer.window other.buffer snapshot.tail snapshot.head =
        snapshot.ringWindow

/-- The keys that `isNew` names come from the newer snapshot. -/
def FlushSnapshot.mix (isNew : NvsKey → Bool)
    (older newer : FlushSnapshot cfg) : FlushSnapshot cfg where
  bootCount := if isNew .bootCnt then newer.bootCount else older.bootCount
  eventId := if isNew .eventId then newer.eventId else older.eventId
  head := if isNew .head then newer.head else older.head
  tail := if isNew .tail then newer.tail else older.tail
  buffer := if isNew .events then newer.buffer else older.buffer

namespace HistoryService

/-- The state after a cold boot's restore when power was lost after `count`
puts of a flush over the older backup. -/
def restoredAfterCut (service cold : HistoryService cfg)
    (older : FlushSnapshot cfg) (outcomes : PutOutcomes) (count : ℕ)
    (stack : Vector DetectionEvent cfg.bufferSize) : RTCState cfg :=
  (cold.restoreFromNvs
    (service.flushInterrupted (.ofSnapshot older) outcomes count) stack
    true).1.state

def storedBeforeCut (outcomes : PutOutcomes) (count : ℕ) : NvsKey → Bool :=
  stored ((flushPuts outcomes).take count)

theorem restoredAfterCut_eq (service cold : HistoryService cfg)
    (older : FlushSnapshot cfg) (outcomes : PutOutcomes) (count : ℕ)
    (stack : Vector DetectionEvent cfg.bufferSize) :
    service.restoredAfterCut cold older outcomes count stack =
      restoredState (.mix (storedBeforeCut outcomes count) older
        service.state.snapshot) := by
  have hnvs := applyPuts_eq (.ofSnapshot older) service.state.snapshot
    ((flushPuts outcomes).take count)
  have hsame : { HistoryNvs.ofSnapshot older with namespaceExists := true } =
      HistoryNvs.ofSnapshot older := rfl
  unfold restoredAfterCut flushInterrupted
  rw [hsame, hnvs]
  have hkey : ∀ (c : Bool) (a b : ℕ),
      (if c then some a else some b).isSome = true := by
    intro c a b
    cases c <;> rfl
  simp only [restoreFromNvs, HistoryNvs.ofSnapshot, hkey, Bool.and_self,
    if_true]
  congr 1
  unfold nvsSnapshot FlushSnapshot.mix storedBeforeCut
  congr 1 <;> dsimp only <;> split <;> rfl

/-- The mixture is its older part when every newer key fits into it. -/
theorem older_restored_iff (isNew : NvsKey → Bool)
    (older newer : FlushSnapshot cfg) :
    older.RestoredIn (restoredState (.mix isNew older newer)) ↔
      ∀ key, isNew key = true → older.AgreesAt newer key := by
  constructor
  · intro hrestored key hkey
    have hhead := hrestored.head
    have htail := hrestored.tail
    cases key with
    | bootCnt =>
        simpa [restoredState, FlushSnapshot.mix, FlushSnapshot.AgreesAt,
          hkey] using hrestored.bootCount
    | eventId =>
        simpa [restoredState, FlushSnapshot.mix, FlushSnapshot.AgreesAt,
          hkey] using hrestored.eventId
    | head =>
        simpa [restoredState, FlushSnapshot.mix, FlushSnapshot.AgreesAt,
          hkey] using hhead
    | tail =>
        simpa [restoredState, FlushSnapshot.mix, FlushSnapshot.AgreesAt,
          hkey] using htail
    | events =>
        have hwindow := hrestored.ringWindow
        unfold RTCState.ringWindow at hwindow
        rw [hhead, htail] at hwindow
        simpa [restoredState, FlushSnapshot.mix, FlushSnapshot.AgreesAt,
          hkey] using hwindow
  · intro hagree
    have hhead : (FlushSnapshot.mix isNew older newer).head =
        older.head := by
      cases hkey : isNew .head with
      | false => simp [FlushSnapshot.mix, hkey]
      | true =>
          simpa [FlushSnapshot.mix, FlushSnapshot.AgreesAt, hkey]
            using hagree .head hkey
    have htail : (FlushSnapshot.mix isNew older newer).tail =
        older.tail := by
      cases hkey : isNew .tail with
      | false => simp [FlushSnapshot.mix, hkey]
      | true =>
          simpa [FlushSnapshot.mix, FlushSnapshot.AgreesAt, hkey]
            using hagree .tail hkey
    constructor
    · have hwindow : CyclicBuffer.window
          (FlushSnapshot.mix isNew older newer).buffer older.tail
            older.head = older.ringWindow := by
        cases hkey : isNew .events with
        | false => simp [FlushSnapshot.mix, hkey, FlushSnapshot.ringWindow]
        | true =>
            simpa [FlushSnapshot.mix, FlushSnapshot.AgreesAt, hkey]
              using hagree .events hkey
      rw [← hhead, ← htail] at hwindow
      exact hwindow
    · exact hhead
    · exact htail
    · cases hkey : isNew .eventId with
      | false => simp [restoredState, FlushSnapshot.mix, hkey]
      | true =>
          simpa [restoredState, FlushSnapshot.mix, FlushSnapshot.AgreesAt,
            hkey] using hagree .eventId hkey
    · cases hkey : isNew .bootCnt with
      | false => simp [restoredState, FlushSnapshot.mix, hkey]
      | true =>
          simpa [restoredState, FlushSnapshot.mix, FlushSnapshot.AgreesAt,
            hkey] using hagree .bootCnt hkey

theorem mix_comm (isNew : NvsKey → Bool) (older newer : FlushSnapshot cfg) :
    FlushSnapshot.mix isNew older newer =
      .mix (fun key => !isNew key) newer older := by
  unfold FlushSnapshot.mix
  congr 1 <;> split <;> simp_all

/-- A cold boot after a cut flush finds the old or the new backup if and only
if all keys stored before the cut, or all the others, fit into it. -/
theorem flush_cut_restores_one_iff (service cold : HistoryService cfg)
    (older : FlushSnapshot cfg) (outcomes : PutOutcomes) (count : ℕ)
    (stack : Vector DetectionEvent cfg.bufferSize) :
    (older.RestoredIn
        (service.restoredAfterCut cold older outcomes count stack) ∨
      service.state.snapshot.RestoredIn
        (service.restoredAfterCut cold older outcomes count stack)) ↔
      (∀ key, storedBeforeCut outcomes count key = true →
        older.AgreesAt service.state.snapshot key) ∨
      (∀ key, storedBeforeCut outcomes count key = false →
        service.state.snapshot.AgreesAt older key) := by
  rw [restoredAfterCut_eq]
  apply or_congr
  · exact older_restored_iff _ older service.state.snapshot
  · rw [mix_comm, older_restored_iff]
    simp

/-- The backup of an empty ring, and a ring with one event since. -/
def emptyBackup : FlushSnapshot .fourSlots :=
  (RTCState.resetState .fourSlots).snapshot

def oneEventLogged : HistoryService .fourSlots :=
  construct { RTCState.resetState .fourSlots with
    head := 1
    globalEventId := 1
    buffer := (RTCState.resetState .fourSlots).buffer.set 0
      { DetectionEvent.zero with id := 1, bootCount := 1 } }

/-- Power is lost between the event counter and the head index: the restored
ring is still empty but its counter is the new one. -/
theorem flush_cut_mixes_backups :
    ¬(emptyBackup.RestoredIn
        (oneEventLogged.restoredAfterCut (construct (.resetState .fourSlots))
          emptyBackup .allOk 2 emptyBackup.buffer) ∨
      oneEventLogged.state.snapshot.RestoredIn
        (oneEventLogged.restoredAfterCut (construct (.resetState .fourSlots))
          emptyBackup .allOk 2 emptyBackup.buffer)) := by
  rintro (hold | hnew)
  · exact absurd hold.eventId (by decide)
  · exact absurd hnew.head (by decide)

end HistoryService

end SensorFirmware
