import SensorFirmware.ConfigRecord
import SensorFirmware.GuardedRun

/-!
# A clean configuration is stored

The dirty flag says that RAM and flash differ.  Setters raise it and a write
that succeeds clears it, but `init` clears it whatever became of its write,
`factoryReset` never raises it, and a migrated record may have a sensitivity
that the next read refuses.
-/

namespace SensorFirmware

open GuardedRun

/-- What `init` meets. -/
structure ConfigBoot where
  timerOk : Bool
  taskOk : Bool
  readOk : Bool
  write : ConfigWrite
  random : UInt32
  deriving DecidableEq

def ConfigBoot.env (boot : ConfigBoot) : ConfigBootEnv where
  timerOk := boot.timerOk
  taskOk := boot.taskOk
  readOk := boot.readOk
  write := boot.write
  random := boot.random.toNat

inductive ConfigCall where
  | reset (random : UInt32)
  | init (boot : ConfigBoot)
  | setSensitivity (locked : Bool) (sensitivity : UInt8)
  | setLedBrightness (locked : Bool) (brightness : UInt8)
  | updateLastKnownEpoch (locked : Bool) (epochSeconds : UInt32)
  | save (write : ConfigWrite)
  | forceFlush (write : ConfigWrite)
  | factoryReset (locked : Bool) (random : UInt32) (write : ConfigWrite)
  deriving DecidableEq

structure ConfigDevice where
  service : ConfigService
  blob : ConfigBlob
  deriving DecidableEq

/-- A read that reaches this blob loads `config`. -/
def ReadsBackAs (blob : ConfigBlob) (config : UserConfig) : Prop :=
  ∀ (fresh : ConfigService) (env : ConfigBootEnv), env.readOk = true →
    (fresh.readFromNvs blob env).2.2 = true ∧
      (fresh.readFromNvs blob env).1.config = config

namespace ConfigDevice

def start (random : UInt32) (blob : ConfigBlob) : ConfigDevice :=
  ⟨.construct random.toNat, blob⟩

def step (device : ConfigDevice) : ConfigCall → ConfigDevice
  | .reset random => start random device.blob
  | .init boot =>
      ⟨(device.service.init device.blob boot.env).1,
        (device.service.init device.blob boot.env).2.1⟩
  | .setSensitivity locked sensitivity =>
      { device with service :=
        (device.service.setSensitivity locked sensitivity.toNat).1 }
  | .setLedBrightness locked brightness =>
      { device with service :=
        device.service.setLedBrightness locked brightness.toNat }
  | .updateLastKnownEpoch locked epochSeconds =>
      { device with service :=
        device.service.updateLastKnownEpoch locked epochSeconds.toNat }
  | .save write =>
      ⟨(device.service.saveIfDirty device.blob write).1,
        (device.service.saveIfDirty device.blob write).2⟩
  | .forceFlush write =>
      ⟨(device.service.forceFlush device.blob write).1,
        (device.service.forceFlush device.blob write).2.1⟩
  | .factoryReset locked random write =>
      ⟨(device.service.factoryReset device.blob locked random.toNat write).1,
        (device.service.factoryReset device.blob locked random.toNat
          write).2.1⟩

/-- An initialised service that is not dirty has its configuration in flash. -/
def CleanIsStored (device : ConfigDevice) : Prop :=
  device.service.initialized = true → device.service.dirty = false →
    ReadsBackAs device.blob device.service.config

end ConfigDevice

/-! ## When a step keeps it -/

/-- What `init` writes reaches the flash and is accepted there, or the flash
holds the same already. -/
def ConfigBoot.Keeps (boot : ConfigBoot) (blob : ConfigBlob) : Prop :=
  match boot.env.found blob with
  | none =>
      boot.write.reaches = true ∨ boot.readOk = false ∧
        ReadsBackAs blob (UserConfig.initDefaults boot.random.toNat).sealed
  | some record =>
      if record.isOld then
        if boot.write.reaches then record.sensitivity ≤ 100
        else record.version = 2
      else
        boot.write.reaches = true ∨
          record.version = UserConfig.currentVersion ∧
            record.sensitivity ≤ 100

namespace ConfigDevice

def Keeps (device : ConfigDevice) : ConfigCall → Prop
  | .init boot =>
      device.service.initialized = false → boot.timerOk = true →
        boot.taskOk = true → boot.Keeps device.blob
  | .save write | .forceFlush write =>
      device.service.initialized = true → device.service.dirty = true →
        write = .written → device.service.config.sensitivity ≤ 100
  | .factoryReset locked random write =>
      device.service.initialized = true → device.service.dirty = false →
        locked = true → write.reaches = true ∨
          device.service.config =
            (UserConfig.initDefaults random.toNat).sealed
  | .reset _ | .setSensitivity _ _ | .setLedBrightness _ _ |
      .updateLastKnownEpoch _ _ => True

end ConfigDevice

/-! ## Reading back -/

/-- A read that reaches the flash and draws `random`. -/
def freshRead (blob : ConfigBlob) (random : ℕ) :
    ConfigService × ConfigBlob × Bool :=
  (ConfigService.construct 0).readFromNvs blob
    ⟨true, true, true, .written, random⟩

theorem ReadsBackAs.freshRead {blob : ConfigBlob} {config : UserConfig}
    (hreads : ReadsBackAs blob config) (random : ℕ) :
    (freshRead blob random).2.2 = true ∧
      (freshRead blob random).1.config = config :=
  hreads _ _ rfl

theorem ReadsBackAs.unique {blob : ConfigBlob} {left right : UserConfig}
    (hleft : ReadsBackAs blob left) (hright : ReadsBackAs blob right) :
    left = right :=
  (hleft.freshRead 0).2.symm.trans (hright.freshRead 0).2

variable {blob : ConfigBlob} {record : UserConfig}

theorem not_readsBackAs_none (hstored : storedRecord blob = none)
    (config : UserConfig) : ¬ReadsBackAs blob config := by
  intro hreads
  have hread := (hreads.freshRead 0).1
  simp [freshRead, ConfigService.readFromNvs_eq, ConfigBootEnv.found,
    hstored] at hread

theorem readsBackAs_current (hstored : storedRecord blob = some record)
    (hversion : record.version = UserConfig.currentVersion)
    (config : UserConfig) :
    ReadsBackAs blob config ↔
      record.sensitivity ≤ 100 ∧ record = config := by
  constructor
  · intro hreads
    have hread := hreads.freshRead 0
    by_cases hover : 100 < record.sensitivity
    · simp [freshRead, ConfigService.readFromNvs_eq, ConfigBootEnv.found,
        hstored, hversion, hover] at hread
    · simp [freshRead, ConfigService.readFromNvs_eq, ConfigBootEnv.found,
        hstored, hversion, hover] at hread
      exact ⟨not_lt.mp hover, hread⟩
  · rintro ⟨hbound, rfl⟩ fresh env hok
    simp [ConfigService.readFromNvs_eq, ConfigBootEnv.found, hok, hstored,
      hversion, not_lt.mpr hbound]

/-- An old record is migrated again by every read, from version 1 with a new
signature. -/
theorem readsBackAs_old (hstored : storedRecord blob = some record)
    (hold : record.isOld = true) (config : UserConfig) :
    ReadsBackAs blob config ↔
      ∀ random, (record.migrate random).sealed = config := by
  have hcurrent := record.not_current_of_isOld hold
  have hread : ∀ (fresh : ConfigService) (env : ConfigBootEnv),
      env.readOk = true → (fresh.readFromNvs blob env).2.2 = true ∧
        (fresh.readFromNvs blob env).1.config =
          (record.migrate env.random).sealed := by
    intro fresh env hok
    rw [ConfigService.readFromNvs_eq]
    simp only [ConfigBootEnv.found, hok, hstored, hcurrent, hold, if_true,
      if_false, true_and]
    exact ConfigService.writeToNvs_config rfl blob env.write
  constructor
  · intro hreads random
    have hfresh := hread (.construct 0) ⟨true, true, true, .written, random⟩
      rfl
    exact hfresh.2.symm.trans (hreads.freshRead random).2
  · intro hall fresh env hok
    obtain ⟨hloaded, hconfig⟩ := hread fresh env hok
    exact ⟨hloaded, hconfig.trans (hall env.random)⟩

theorem readsBackAs_migrated (hstored : storedRecord blob = some record)
    (hold : record.isOld = true) (random : ℕ) :
    ReadsBackAs blob (record.migrate random).sealed ↔ record.version = 2 := by
  rw [readsBackAs_old hstored hold]
  constructor
  · intro hall
    by_contra htwo
    have hone : record.version = 1 := by
      simpa [UserConfig.isOld, htwo] using hold
    have hsame := congrArg UserConfig.signature (hall (random + 1))
    change (record.migrate (random + 1)).signature =
      (record.migrate random).signature at hsame
    rw [UserConfig.migrate_signature hone,
      UserConfig.migrate_signature hone] at hsame
    omega
  · intro htwo other
    rw [UserConfig.migrate_of_two htwo other random]

theorem not_readsBackAs_unknown (hstored : storedRecord blob = some record)
    (hold : record.isOld = false)
    (hversion : record.version ≠ UserConfig.currentVersion)
    (config : UserConfig) : ¬ReadsBackAs blob config := by
  intro hreads
  have hread := (hreads.freshRead 0).1
  simp [freshRead, ConfigService.readFromNvs_eq, ConfigBootEnv.found,
    hstored, hversion, hold] at hread

/-- A written record is accepted again if its sensitivity is. -/
theorem readsBackAs_sealed {config : UserConfig} (hfits : config.Fits)
    (hversion : config.version = UserConfig.currentVersion) :
    ReadsBackAs (some config.sealed.toBytes) config.sealed ↔
      config.sensitivity ≤ 100 := by
  rw [readsBackAs_current (storedRecord_toBytes hfits) hversion]
  exact and_iff_left rfl

/-! ## The record in RAM -/

theorem current_bootRecord (boot : ConfigBoot) (blob : ConfigBlob) :
    (boot.env.bootRecord blob).1.Current := by
  obtain ⟨record, hstored, hversion, -, hrecord⟩ |
    ⟨record, hstored, hold, hrecord⟩ | hrecord :=
      boot.env.bootRecord_cases blob
  · rw [hrecord]
    exact ⟨fits_storedRecord hstored, hversion⟩
  · rw [hrecord]
    exact ((fits_storedRecord hstored).current_migrate hold
      boot.random).sealed
  · rw [hrecord]
    exact (UserConfig.current_initDefaults boot.random).sealed

theorem ConfigService.current_writeToNvs {service : ConfigService}
    (hcurrent : service.config.Current) (blob : ConfigBlob)
    (write : ConfigWrite) :
    (service.writeToNvs blob write).1.config.Current := by
  cases write with
  | lockTimeout => exact hcurrent
  | commitFailed stored => cases stored <;> exact hcurrent.sealed
  | openFailed | setFailed | written => exact hcurrent.sealed

namespace ConfigDevice

/-- The boot that `init` goes through with. -/
def Boots (device : ConfigDevice) (boot : ConfigBoot) : Prop :=
  device.service.initialized = false ∧ boot.timerOk = true ∧
    boot.taskOk = true

theorem step_init_booted {device : ConfigDevice} {boot : ConfigBoot}
    (hboots : device.Boots boot) :
    ConfigService.Booted boot.env device.blob
      (device.step (.init boot)).service (device.step (.init boot)).blob :=
  ConfigService.init_booted hboots.1 hboots.2.1 hboots.2.2

/-- Otherwise the service stays as initialised as it was, and nothing that
matters here changes. -/
theorem step_init_unbooted {device : ConfigDevice} {boot : ConfigBoot}
    (hboots : ¬device.Boots boot) :
    (device.step (.init boot)).blob = device.blob ∧
      (device.step (.init boot)).service.config = device.service.config ∧
      (device.step (.init boot)).service.dirty = device.service.dirty ∧
      (device.step (.init boot)).service.initialized =
        device.service.initialized := by
  by_cases hnew : device.service.initialized = true
  · simp [step, ConfigService.init, hnew]
  · by_cases htimer : boot.timerOk = true
    · have htask : boot.taskOk = false := by
        simpa [Boots, hnew, htimer] using hboots
      simp [step, ConfigService.init, ConfigBoot.env, hnew, htimer, htask]
    · simp [step, ConfigService.init, ConfigBoot.env, hnew, htimer]

theorem current_init {device : ConfigDevice}
    (hcurrent : device.service.config.Current) (boot : ConfigBoot) :
    (device.step (.init boot)).service.config.Current := by
  by_cases hboots : device.Boots boot
  · rw [(step_init_booted hboots).config]
    exact current_bootRecord boot device.blob
  · rw [(step_init_unbooted hboots).2.1]
    exact hcurrent

theorem validateSensitivity_le (sensitivity : ℕ) :
    ConfigService.validateSensitivity sensitivity ≤ 100 := by
  unfold ConfigService.validateSensitivity
  split <;> omega

theorem current_step {device : ConfigDevice}
    (hcurrent : device.service.config.Current) (event : ConfigCall) :
    (device.step event).service.config.Current := by
  obtain ⟨hfits, hversion⟩ := hcurrent
  cases event with
  | reset random => exact UserConfig.current_initDefaults random
  | init boot => exact current_init ⟨hfits, hversion⟩ boot
  | setSensitivity locked sensitivity =>
      have hbyte :
          ConfigService.validateSensitivity sensitivity.toNat < 2 ^ 8 :=
        (validateSensitivity_le sensitivity.toNat).trans_lt (by norm_num)
      simp only [step, ConfigService.setSensitivity]
      split
      · exact ⟨hfits, hversion⟩
      · split
        · exact ⟨hfits, hversion⟩
        · exact ⟨{ hfits with sensitivity := hbyte }, hversion⟩
  | setLedBrightness locked brightness =>
      simp only [step, ConfigService.setLedBrightness]
      split
      · exact ⟨hfits, hversion⟩
      · split
        · exact ⟨hfits, hversion⟩
        · exact ⟨{ hfits with ledBrightness := brightness.toNat_lt },
            hversion⟩
  | updateLastKnownEpoch locked epochSeconds =>
      simp only [step, ConfigService.updateLastKnownEpoch]
      split
      · exact ⟨hfits, hversion⟩
      · split
        · exact ⟨hfits, hversion⟩
        · exact ⟨{ hfits with lastKnownEpoch := epochSeconds.toNat_lt },
            hversion⟩
  | save write =>
      simp only [step, ConfigService.saveIfDirty]
      split
      · exact ConfigService.current_writeToNvs ⟨hfits, hversion⟩ _ write
      · exact ⟨hfits, hversion⟩
  | forceFlush write =>
      have hstopped : ({ device.service with
          commitTimerActive := false } : ConfigService).config.Current :=
        ⟨hfits, hversion⟩
      simp only [step, ConfigService.forceFlush]
      split
      · exact ConfigService.current_writeToNvs hstopped _ write
      · exact ⟨hfits, hversion⟩
  | factoryReset locked random write =>
      simp only [step, ConfigService.factoryReset]
      split
      · exact ⟨hfits, hversion⟩
      · exact ConfigService.current_writeToNvs
          (UserConfig.current_initDefaults random).sealed _ write

/-! ## Each event -/

variable {device : ConfigDevice}

/-- An initialised service is clean. -/
theorem cleanIsStored_iff (hinit : device.service.initialized = true)
    (hclean : device.service.dirty = false) :
    device.CleanIsStored ↔
      ReadsBackAs device.blob device.service.config :=
  ⟨fun hstored => hstored hinit hclean, fun hreads _ _ => hreads⟩

theorem CleanIsStored.of_dirty (hdirty : device.service.dirty = true) :
    device.CleanIsStored := by
  intro _ hclean
  rw [hdirty] at hclean
  cases hclean

theorem CleanIsStored.of_uninitialized
    (hnew : device.service.initialized = false) : device.CleanIsStored := by
  intro hinit
  rw [hnew] at hinit
  cases hinit

/-- A boot that writes its record anew. -/
theorem written_boot_iff {boot : ConfigBoot} (hboots : device.Boots boot)
    {config : UserConfig} (hcurrent : config.Current)
    (hrecord : boot.env.bootRecord device.blob = (config.sealed, true)) :
    (device.step (.init boot)).CleanIsStored ↔
      if boot.write.reaches then config.sensitivity ≤ 100
      else ReadsBackAs device.blob config.sealed := by
  have hbooted := step_init_booted hboots
  rw [cleanIsStored_iff hbooted.initialized hbooted.dirty, hbooted.config,
    hbooted.blob, hrecord]
  cases hreach : boot.write.reaches with
  | true =>
      have hwrite : boot.env.write.reaches = true := hreach
      simp only [hwrite, Bool.and_true, if_true]
      exact readsBackAs_sealed hcurrent.fits hcurrent.version
  | false =>
      have hwrite : boot.env.write.reaches = false := hreach
      simp [hwrite]

theorem defaults_boot_iff {boot : ConfigBoot} (hboots : device.Boots boot)
    (hrecord : boot.env.bootRecord device.blob =
      ((UserConfig.initDefaults boot.random.toNat).sealed, true)) :
    (device.step (.init boot)).CleanIsStored ↔
      boot.write.reaches = true ∨ ReadsBackAs device.blob
        (UserConfig.initDefaults boot.random.toNat).sealed := by
  have hbound :
      (UserConfig.initDefaults boot.random.toNat).sensitivity ≤ 100 := by
    change 50 ≤ 100
    norm_num
  have hcurrent := UserConfig.current_initDefaults boot.random
  rw [written_boot_iff hboots hcurrent hrecord]
  cases boot.write.reaches <;> simp [hbound]

theorem init_keeps_iff {boot : ConfigBoot} (hboots : device.Boots boot) :
    (device.step (.init boot)).CleanIsStored ↔ boot.Keeps device.blob := by
  unfold ConfigBoot.Keeps
  cases hfound : boot.env.found device.blob with
  | none =>
      rw [defaults_boot_iff hboots (ConfigBootEnv.bootRecord_none hfound)]
      cases hread : boot.readOk with
      | false => simp
      | true =>
          have hstored : storedRecord device.blob = none := by
            simpa [ConfigBootEnv.found, ConfigBoot.env, hread] using hfound
          simp [not_readsBackAs_none hstored]
  | some record =>
      have hstored : storedRecord device.blob = some record :=
        ConfigBootEnv.storedRecord_of_found hfound
      have hfits := fits_storedRecord hstored
      dsimp only
      cases hold : record.isOld with
      | true =>
          have hmigrated := hfits.current_migrate hold boot.random
          rw [written_boot_iff hboots hmigrated
            (ConfigBootEnv.bootRecord_old hfound hold),
            readsBackAs_migrated hstored hold, UserConfig.migrate_sensitivity]
          simp
      | false =>
          by_cases hcurrent : record.version = UserConfig.currentVersion
          · by_cases hover : 100 < record.sensitivity
            · rw [defaults_boot_iff hboots
                (ConfigBootEnv.bootRecord_over hfound hcurrent hover),
                readsBackAs_current hstored hcurrent]
              simp [not_le.mpr hover]
            · have hbooted := step_init_booted hboots
              have hrecord := ConfigBootEnv.bootRecord_current hfound hcurrent
                (not_lt.mp hover)
              rw [cleanIsStored_iff hbooted.initialized hbooted.dirty,
                hbooted.config, hbooted.blob, hrecord]
              simp [readsBackAs_current hstored hcurrent, hcurrent,
                not_lt.mp hover]
          · rw [defaults_boot_iff hboots
              (ConfigBootEnv.bootRecord_unknown hfound hcurrent hold)]
            simp [not_readsBackAs_unknown hstored hold hcurrent, hcurrent]

/-- A write of a dirty service; unless it succeeds, the service stays dirty. -/
theorem dirty_write_iff {service : ConfigService}
    (hcurrent : service.config.Current) (hdirty : service.dirty = true)
    (blob : ConfigBlob) (write : ConfigWrite) :
    CleanIsStored ⟨(service.writeToNvs blob write).1,
        (service.writeToNvs blob write).2.1⟩ ↔
      (service.initialized = true → write = .written →
        service.config.sensitivity ≤ 100) := by
  by_cases hwritten : write = .written
  · subst hwritten
    have hreads := readsBackAs_sealed hcurrent.fits hcurrent.version
    rw [← hreads]
    exact ⟨fun hclean hinit _ => hclean hinit rfl,
      fun hsealed hinit _ => hsealed hinit rfl⟩
  · have hstill : (service.writeToNvs blob write).1.dirty = true := by
      simp [ConfigService.writeToNvs_dirty, hdirty, hwritten]
    exact iff_of_true (CleanIsStored.of_dirty hstill)
      fun _ hdone => absurd hdone hwritten

/-- A factory reset of a clean service does not make it dirty. -/
theorem clean_reset_iff (hstored : device.CleanIsStored)
    (hclean : device.service.dirty = false) (random : UInt32)
    (write : ConfigWrite) :
    (device.step (.factoryReset true random write)).CleanIsStored ↔
      (device.service.initialized = true → write.reaches = true ∨
        device.service.config =
          (UserConfig.initDefaults random.toNat).sealed) := by
  have hcurrent := UserConfig.current_initDefaults random
  have hconfig : (device.step (.factoryReset true random
      write)).service.config =
        (UserConfig.initDefaults random.toNat).sealed :=
    ConfigService.writeToNvs_config rfl _ write
  have hblob : (device.step (.factoryReset true random write)).blob =
      if write.reaches then
        some (UserConfig.initDefaults random.toNat).sealed.toBytes
      else device.blob :=
    ConfigService.writeToNvs_blob _ _ write
  have hinit : (device.step (.factoryReset true random
      write)).service.initialized = device.service.initialized :=
    ConfigService.writeToNvs_initialized _ _ write
  have hstill : (device.step (.factoryReset true random
      write)).service.dirty = false := by
    refine (ConfigService.writeToNvs_dirty _ _ write).trans ?_
    simp [hclean]
  cases hnew : device.service.initialized with
  | false =>
      exact iff_of_true (CleanIsStored.of_uninitialized (hinit.trans hnew))
        (by simp)
  | true =>
      have hnow := hstored hnew hclean
      rw [cleanIsStored_iff (hinit.trans hnew) hstill, hconfig, hblob]
      cases write.reaches with
      | true =>
          have hreads :=
            (readsBackAs_sealed hcurrent.fits hcurrent.version).mpr
              (by change 50 ≤ 100; norm_num)
          simpa using hreads
      | false =>
          simp only [Bool.false_eq_true, if_false, false_or, forall_const]
          exact ⟨hnow.unique, fun hsame => hsame ▸ hnow⟩

theorem reset_keeps_iff (hstored : device.CleanIsStored) (locked : Bool)
    (random : UInt32) (write : ConfigWrite) :
    (device.step (.factoryReset locked random write)).CleanIsStored ↔
      device.Keeps (.factoryReset locked random write) := by
  cases locked with
  | false => exact iff_of_true hstored (by simp [Keeps])
  | true =>
      cases hdirty : device.service.dirty with
      | false => simp [clean_reset_iff hstored hdirty, Keeps, hdirty]
      | true =>
          have hreset : ({ device.service with
              commitTimerActive := false
              config := (UserConfig.initDefaults
                random.toNat).sealed } : ConfigService).dirty = true := hdirty
          have hwrite : (device.step (.factoryReset true random
              write)).CleanIsStored ↔
                (device.service.initialized = true → write = .written →
                  (UserConfig.initDefaults random.toNat).sensitivity ≤ 100) :=
            dirty_write_iff (UserConfig.current_initDefaults random).sealed
              hreset device.blob write
          have hbound :
              (UserConfig.initDefaults random.toNat).sensitivity ≤ 100 := by
            change 50 ≤ 100
            norm_num
          exact iff_of_true (hwrite.mpr fun _ _ => hbound)
            (by simp [Keeps, hdirty])

theorem save_keeps_iff (hcurrent : device.service.config.Current)
    (hstored : device.CleanIsStored) (write : ConfigWrite) :
    (device.step (.save write)).CleanIsStored ↔
      device.Keeps (.save write) := by
  simp only [step, ConfigService.saveIfDirty, Keeps]
  cases hdirty : device.service.dirty with
  | false => exact iff_of_true hstored (by simp)
  | true =>
      simp only [if_true, forall_const]
      exact dirty_write_iff hcurrent hdirty device.blob write

theorem flush_keeps_iff (hcurrent : device.service.config.Current)
    (hstored : device.CleanIsStored) (write : ConfigWrite) :
    (device.step (.forceFlush write)).CleanIsStored ↔
      device.Keeps (.forceFlush write) := by
  let stopped := { device.service with commitTimerActive := false }
  simp only [step, Keeps]
  cases hdirty : device.service.dirty with
  | false =>
      have hflush : device.service.forceFlush device.blob write =
          (stopped, device.blob, true) := if_neg (by simp [hdirty])
      rw [hflush]
      exact iff_of_true hstored (by simp)
  | true =>
      have hflush : device.service.forceFlush device.blob write =
          stopped.writeToNvs device.blob write := if_pos hdirty
      have hnow : stopped.config.Current := hcurrent
      have hstill : stopped.dirty = true := hdirty
      rw [hflush]
      simp only [forall_const]
      exact dirty_write_iff hnow hstill device.blob write

theorem init_event_iff (hstored : device.CleanIsStored)
    (boot : ConfigBoot) :
    (device.step (.init boot)).CleanIsStored ↔
      device.Keeps (.init boot) := by
  by_cases hboots : device.Boots boot
  · rw [init_keeps_iff hboots]
    obtain ⟨hnew, htimer, htask⟩ := hboots
    exact ⟨fun hkeeps _ _ _ => hkeeps, fun hkeeps => hkeeps hnew htimer htask⟩
  · obtain ⟨hblob, hconfig, hdirty, hinit⟩ := step_init_unbooted hboots
    have hsame : (device.step (.init boot)).CleanIsStored := by
      unfold CleanIsStored
      rw [hblob, hconfig, hdirty, hinit]
      exact hstored
    exact iff_of_true hsame fun hnew htimer htask =>
      absurd ⟨hnew, htimer, htask⟩ hboots

theorem step_keeps_iff (hcurrent : device.service.config.Current)
    (hstored : device.CleanIsStored) (event : ConfigCall) :
    (device.step event).CleanIsStored ↔ device.Keeps event := by
  cases event with
  | reset random =>
      exact iff_of_true (CleanIsStored.of_uninitialized rfl) trivial
  | init boot => exact init_event_iff hstored boot
  | setSensitivity locked sensitivity =>
      refine iff_of_true ?_ trivial
      simp only [step, ConfigService.setSensitivity]
      split
      · exact hstored
      · split
        · exact hstored
        · exact CleanIsStored.of_dirty rfl
  | setLedBrightness locked brightness =>
      refine iff_of_true ?_ trivial
      simp only [step, ConfigService.setLedBrightness]
      split
      · exact hstored
      · split
        · exact hstored
        · exact CleanIsStored.of_dirty rfl
  | updateLastKnownEpoch locked epochSeconds =>
      refine iff_of_true ?_ trivial
      simp only [step, ConfigService.updateLastKnownEpoch]
      split
      · exact hstored
      · split
        · exact hstored
        · exact CleanIsStored.of_dirty rfl
  | save write => exact save_keeps_iff hcurrent hstored write
  | forceFlush write => exact flush_keeps_iff hcurrent hstored write
  | factoryReset locked random write =>
      exact reset_keeps_iff hstored locked random write

/-- Over every run, from any content of the flash: every clean state reached
has its configuration in flash exactly if every step keeps it. -/
theorem clean_is_stored_iff (random : UInt32) (blob : ConfigBlob)
    (calls : List ConfigCall) :
    (∀ k, (run step (start random blob) (calls.take k)).CleanIsStored) ↔
      Guarded step Keeps (start random blob) calls := by
  have hstep : ∀ (device : ConfigDevice) (call : ConfigCall),
      device.service.config.Current →
        (device.step call).service.config.Current :=
    fun _ call hcurrent => current_step hcurrent call
  have hgood : ∀ (device : ConfigDevice) (call : ConfigCall),
      device.service.config.Current → device.CleanIsStored →
        ((device.step call).CleanIsStored ↔ device.Keeps call) :=
    fun _ call hcurrent hstored => step_keeps_iff hcurrent hstored call
  exact always_iff_guarded hstep hgood
    (UserConfig.current_initDefaults random)
    (CleanIsStored.of_uninitialized rfl) calls

/-! ## Clean and not stored -/

def calmBoot (write : ConfigWrite) : ConfigBoot where
  timerOk := true
  taskOk := true
  readOk := true
  write := write
  random := 0x5EED

/-- A record of version 1 with sensitivity 200. -/
def oldRecord : UserConfig where
  version := 1
  sensitivity := 200
  ledBrightness := 128
  reserved := 0
  signature := 0
  lastKnownEpoch := 0
  crc32 := 0

theorem not_cleanIsStored {device : ConfigDevice}
    (hinit : device.service.initialized = true)
    (hclean : device.service.dirty = false)
    (hread : (freshRead device.blob 0).2.2 = false ∨
      (freshRead device.blob 0).1.config ≠ device.service.config) :
    ¬device.CleanIsStored := by
  intro hstored
  obtain ⟨hloaded, hconfig⟩ := (hstored hinit hclean).freshRead 0
  rcases hread with hrefused | hother
  · rw [hrefused] at hloaded
    cases hloaded
  · exact hother hconfig

/-- A first boot whose write fails, a factory reset whose write fails, and a
record that is migrated with its sensitivity. -/
theorem clean_but_not_stored :
    ¬(run step (start 1 none) [.init (calmBoot .openFailed)]).CleanIsStored ∧
      ¬(run step (start 1 none) [.init (calmBoot .written),
        .factoryReset true 2 .setFailed]).CleanIsStored ∧
      ¬(run step (start 1 (some oldRecord.sealed.toBytes))
        [.init (calmBoot .written)]).CleanIsStored :=
  ⟨not_cleanIsStored (by decide +kernel) (by decide +kernel)
      (by decide +kernel),
    not_cleanIsStored (by decide +kernel) (by decide +kernel)
      (by decide +kernel),
    not_cleanIsStored (by decide +kernel) (by decide +kernel)
      (by decide +kernel)⟩

end ConfigDevice

end SensorFirmware
