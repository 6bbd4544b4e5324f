import SensorFirmware.EventTrace
import SensorFirmware.OtaManager

/-!
# What a commit of the update manager writes

The counters and the running checksum of the manager are tied to the chunks it
has accepted since the last `Update.begin`, and these to the flash.  So
`Update.end(true)` is only called for an image that is whole and has the
announced checksum.
-/

namespace SensorFirmware

open EventTrace GuardedRun

/-- The chunks accepted since the last successful `Update.begin`. -/
def acceptedChunks : List OtaEvent → List (ℕ × List Byte)
  | [] => []
  | .begin _ _ true :: _ => []
  | .accept chunkIndex payload :: past =>
      acceptedChunks past ++ [(chunkIndex, payload)]
  | _ :: past => acceptedChunks past

def acceptedBytes (trace : List OtaEvent) : List Byte :=
  (acceptedChunks trace).flatMap Prod.snd

/-- Size and checksum that the last successful `Update.begin` was for. -/
def lastBegun : List OtaEvent → Option (ℕ × BitVec 32)
  | [] => none
  | .begin totalSize expectedCrc true :: _ => some (totalSize, expectedCrc)
  | _ :: past => lastBegun past

/-- The flash holds the accepted chunks, numbered modulo `2 ^ 16`, and these
are the announced image. -/
structure ImageIntact (past : List OtaEvent) (flash : List Byte) : Prop where
  announced : ∃ totalSize expectedCrc,
    lastBegun past = some (totalSize, expectedCrc) ∧
      flash.length = totalSize ∧ calculateCRC32 flash = expectedCrc
  written : acceptedBytes past = flash
  numbered : (acceptedChunks past).map Prod.fst =
    (List.range (acceptedChunks past).length).map u16

/-- What `Update.end(true)` may be called for. -/
def CommitIntact (past : List OtaEvent) (event : OtaEvent) : Prop :=
  ∀ flash, event = .finish flash → ImageIntact past flash

theorem bytesAt_lt (payload : List Byte) (offset count : ℕ) :
    bytesAt payload offset count < 256 ^ count :=
  leNat_take_lt _ count

theorem acceptedBytes_accept (chunkIndex : ℕ) (payload : List Byte)
    (past : List OtaEvent) :
    acceptedBytes (.accept chunkIndex payload :: past) =
      acceptedBytes past ++ payload := by
  simp [acceptedBytes, acceptedChunks]

namespace Ota

variable {σ : Type*} {lib : UpdateLibrary σ Byte} {cfg : OtaConfig}

/-- What ties a manager that receives to its past and to the library. -/
structure InSession (lib : UpdateLibrary σ Byte) (ota : Ota σ) :
    Prop where
  begun : lastBegun ota.trace =
    some (ota.manager.expectedSize, ota.manager.expectedCrc)
  fits : ota.manager.expectedSize < 2 ^ 32
  size : lib.size ota.updater = ota.manager.expectedSize
  holds : lib.Holds ota.updater (acceptedBytes ota.trace)
  received : ota.manager.receivedSize = (acceptedBytes ota.trace).length
  chunks : ota.manager.receivedChunks =
    u16 (acceptedChunks ota.trace).length
  numbered : (acceptedChunks ota.trace).map Prod.fst =
    (List.range (acceptedChunks ota.trace).length).map u16
  crc : ota.manager.runningCrc =
    updateCRC32 0xFFFFFFFF#32 (acceptedBytes ota.trace)

structure Tied (lib : UpdateLibrary σ Byte) (ota : Ota σ) : Prop where
  session : ota.manager.state = .receiving → ota.InSession lib
  commits : Always CommitIntact ota.trace

theorem commitIntact_of_ne {event : OtaEvent}
    (hother : ∀ flash, event ≠ .finish flash) (past : List OtaEvent) :
    CommitIntact past event :=
  fun flash hevent => absurd hevent (hother flash)

theorem Tied.of_state {ota : Ota σ}
    (hstate : ota.manager.state ≠ .receiving)
    (hcommits : Always CommitIntact ota.trace) : ota.Tied lib :=
  ⟨fun hreceiving => absurd hreceiving hstate, hcommits⟩

theorem Tied.refuse {ota : Ota σ} (hota : ota.Tied lib)
    (error : OtaError) : (ota.refuse error).ota.Tied lib := by
  refine ⟨fun hstate => ?_, hota.commits⟩
  obtain ⟨begun, fits, size, holds, received, chunks, numbered, crc⟩ :=
    hota.session hstate
  exact ⟨begun, fits, size, holds, received, chunks, numbered, crc⟩

theorem Tied.beginSession (hlib : lib.Lawful) {ota : Ota σ}
    (hota : ota.Tied lib) {start : OtaStart}
    (hsize : start.totalSize < 2 ^ 32) (ms : ℕ)
    (hok : (lib.start ota.updater start.totalSize).2 = true) :
    ({ ota with
      manager := (ota.manager.announce start).beginSession ms
      updater := (lib.start ota.updater start.totalSize).1
      trace := .begin start.totalSize start.expectedCrc true ::
        ota.trace } : Ota σ).Tied lib := by
  refine ⟨fun _ => ?_, commitIntact_of_ne (by simp) _, hota.commits⟩
  exact {
    begun := rfl
    fits := hsize
    size := hlib.size_start _ _ hok
    holds := UpdateLibrary.holds_start hlib hok
    received := rfl
    chunks := rfl
    numbered := rfl
    crc := rfl }

theorem Tied.handleStart (hlib : lib.Lawful) {ota : Ota σ}
    (hota : ota.Tied lib) (payload : List Byte) (partitionSize : Option ℕ)
    (ms : ℕ) :
    (ota.handleStart cfg lib payload partitionSize ms).ota.Tied lib := by
  unfold Ota.handleStart
  by_cases hidle : ota.manager.state = .idle
  · have hannounced : ({ ota with manager :=
        (ota.manager.announce (OtaStart.ofBytes payload)) } : Ota σ).Tied
          lib := by
      refine Tied.of_state ?_ hota.commits
      simp [OtaManager.announce, hidle]
    rw [if_neg (not_not.mpr hidle)]
    cases partitionSize with
    | none =>
        dsimp only
        split_ifs
        · exact hota.refuse _
        · exact hannounced.refuse _
        · exact hannounced.refuse _
        · exact hannounced.refuse _
    | some size =>
        dsimp only
        split_ifs with hshort hbattery hversion hlarge hfailed
        · exact hota.refuse _
        · exact hannounced.refuse _
        · exact hannounced.refuse _
        · exact hannounced.refuse _
        · apply Tied.refuse
          apply Tied.of_state
          · simp [OtaManager.announce, hidle]
          · exact ⟨commitIntact_of_ne (by simp) _, hota.commits⟩
        · have hok : (lib.start ota.updater
              (OtaStart.ofBytes payload).totalSize).2 = true := by
            simpa using hfailed
          have hsize : (OtaStart.ofBytes payload).totalSize < 2 ^ 32 :=
            bytesAt_lt payload 0 4
          simp only [note, hok]
          exact hota.beginSession hlib hsize ms hok
  · rw [if_pos hidle]
    exact hota.refuse _

theorem InSession.accept (hlib : lib.Lawful) {ota : Ota σ}
    (hsession : ota.InSession lib) {chunkIndex : ℕ} {payload : List Byte}
    (hindex : chunkIndex = ota.manager.receivedChunks) (ms : ℕ)
    (hfull : (lib.write ota.updater payload).2 = payload.length) :
    ({ ota with
      manager := (ota.manager.accept payload ms)
      updater := (lib.write ota.updater payload).1
      trace := .accept chunkIndex payload :: ota.trace } :
        Ota σ).InSession lib := by
  obtain ⟨begun, fits, size, holds, received, chunks, numbered, crc⟩ :=
    hsession
  have hholds := holds.write hlib hfull
  have hbytes := acceptedBytes_accept chunkIndex payload ota.trace
  have hroom : (acceptedBytes ota.trace ++ payload).length < 2 ^ 32 := by
    have hle := hholds.1
    rw [hlib.size_write, size] at hle
    omega
  constructor
  · exact begun
  · exact fits
  · exact (hlib.size_write _ _).trans size
  · rw [hbytes]
    exact hholds
  · rw [hbytes]
    simp only [OtaManager.accept, received]
    rw [← List.length_append, u32_of_lt hroom]
  · simp [OtaManager.accept, acceptedChunks, chunks, u16]
  · simp [acceptedChunks, List.range_succ, numbered, hindex, chunks]
  · rw [hbytes, updateCRC32_append]
    simp only [OtaManager.accept, crc]

theorem Tied.handleData (hlib : lib.Lawful) {ota : Ota σ}
    (hota : ota.Tied lib) (chunkIndex : ℕ) (payload : List Byte)
    (ms : ℕ) : (ota.handleData lib chunkIndex payload ms).ota.Tied lib := by
  unfold Ota.handleData
  by_cases hstate : ota.manager.state = .receiving
  · have hsession := hota.session hstate
    rw [if_neg (not_not.mpr hstate)]
    dsimp only
    split_ifs with hindex hshort
    · obtain ⟨begun, fits, size, holds, received, chunks, numbered, crc⟩ :=
        hsession
      exact ⟨fun _ => ⟨begun, fits, size, holds, received, chunks,
        numbered, crc⟩, hota.commits⟩
    · obtain ⟨begun, fits, size, holds, received, chunks, numbered, crc⟩ :=
        hsession
      exact ⟨fun _ => ⟨begun, fits, (hlib.size_write _ _).trans size,
        holds.shortWrite hlib hshort, received, chunks, numbered, crc⟩,
        hota.commits⟩
    · refine ⟨fun _ => hsession.accept hlib (not_not.mp hindex) ms
        (not_not.mp hshort), commitIntact_of_ne (by simp) _, hota.commits⟩
  · rw [if_pos hstate]
    exact hota

theorem InSession.intact {ota : Ota σ} (hsession : ota.InSession lib)
    (hsize : ota.manager.receivedSize = ota.manager.expectedSize)
    (hcrc : ~~~ota.manager.runningCrc = ota.manager.expectedCrc) :
    ImageIntact ota.trace (lib.flash ota.updater) := by
  have hwhole : (acceptedBytes ota.trace).length = lib.size ota.updater := by
    rw [← hsession.received, hsize, hsession.size]
  have hflash := hsession.holds.whole hwhole
  rw [hflash]
  refine ⟨⟨_, _, hsession.begun, ?_, ?_⟩, rfl, hsession.numbered⟩
  · rw [hwhole, hsession.size]
  · rw [← hcrc, hsession.crc]
    rfl

theorem Tied.handleCommit {ota : Ota σ} (hota : ota.Tied lib) :
    (ota.handleCommit lib).ota.Tied lib := by
  unfold Ota.handleCommit
  by_cases hstate : ota.manager.state = .receiving
  · have hsession := hota.session hstate
    have habort : Always CommitIntact (.abort :: ota.trace) :=
      ⟨commitIntact_of_ne (by simp) _, hota.commits⟩
    rw [if_neg (not_not.mpr hstate)]
    dsimp only
    split_ifs with hsize hcrc hfailed
    · exact .of_state (by simp [failCommit, OtaManager.fail]) habort
    · exact .of_state (by simp [failCommit, OtaManager.fail]) habort
    all_goals
      have hintact := hsession.intact (not_not.mp hsize) (not_not.mp hcrc)
      have hcommit : Always CommitIntact
          (.finish (lib.flash ota.updater) :: ota.trace) := by
        refine ⟨?_, hota.commits⟩
        rintro flash ⟨⟩
        exact hintact
    · exact .of_state (by simp [failCommit, OtaManager.fail]) hcommit
    · exact .of_state (by simp) hcommit
  · rw [if_pos hstate]
    exact hota.refuse _

theorem Tied.handleAbort {ota : Ota σ} (hota : ota.Tied lib) :
    (ota.handleAbort lib).ota.Tied lib := by
  unfold Ota.handleAbort
  split_ifs
  · exact hota
  · exact .of_state (by simp)
      ⟨commitIntact_of_ne (by simp) _, hota.commits⟩

theorem Tied.update {ota : Ota σ} (hota : ota.Tied lib) (ms : ℕ) :
    (ota.update cfg lib ms).ota.Tied lib := by
  unfold Ota.update
  dsimp only
  split_ifs
  · exact hota
  · exact (hota.handleAbort).refuse .timeout
  · exact hota

theorem Tied.step (hlib : lib.Lawful) {ota : Ota σ} (hota : ota.Tied lib)
    (call : Call) : (ota.step cfg lib call).Tied lib := by
  unfold Ota.step
  split_ifs
  · exact hota
  · cases call with
    | start payload partitionSize ms =>
        exact hota.handleStart hlib payload partitionSize ms
    | data chunkIndex payload ms =>
        exact hota.handleData hlib chunkIndex payload ms
    | commit => exact hota.handleCommit
    | abort => exact hota.handleAbort
    | update ms => exact hota.update ms

structure CommitsIntact (ota : Ota σ) : Prop where
  commits : Always CommitIntact ota.trace

/-- Whatever is called, in whatever order, `Update.end(true)` is only called
when the accepted chunks are what the flash holds, in order and complete, with
the announced size and checksum. -/
theorem commits_intact_images (cfg : OtaConfig) (lib : UpdateLibrary σ Byte)
    (hlib : lib.Lawful) (initialized : Bool) (updater : σ)
    (calls : List Call) :
    (run (step cfg lib) (fresh initialized updater) calls).CommitsIntact := by
  have hfresh : (fresh initialized updater).Tied lib := by
    refine ⟨fun hstate => ?_, trivial⟩
    cases hstate
  have hstep : ∀ (ota : Ota σ) call, ota.Tied lib →
      (ota.step cfg lib call).Tied lib :=
    fun _ call hota => hota.step hlib call
  have hrun := invariant_run' hstep calls hfresh
  exact ⟨hrun.commits⟩

def benchOta : OtaConfig where
  firmwareMajor := 2
  firmwareMinor := 7
  firmwarePatch := 0
  firmwareBuildType := 0
  minBatteryPercent := 30
  chunkTimeoutMs := 30000

/-- An update to version 2.7.1 with an image of three bytes in two chunks. -/
def threeByteUpdate : List Call :=
  [.start (leBytes 4 3 ++ leBytes 4 0x55BC801D ++ leBytes 3 0x010702 ++
      leBytes 2 2 ++ [0]) (some 1310720) 1000,
    .data 1 [3] 1100, .data 0 [1, 2] 1200, .data 1 [3] 1300, .commit]

theorem commits_three_bytes :
    let ota := run (step benchOta (UpdateLibrary.wornFlash Byte))
      (fresh true ⟨0, [], 100, false⟩) threeByteUpdate
    .finish [1, 2, 3] ∈ ota.trace ∧ ota.CommitsIntact :=
  ⟨by decide +kernel, commits_intact_images benchOta
    (UpdateLibrary.wornFlash Byte) UpdateLibrary.lawful_wornFlash true
    ⟨0, [], 100, false⟩ threeByteUpdate⟩

end Ota

end SensorFirmware
