import SensorFirmware.ConfigStore

/-!
# The configuration record in flash

The record and its 16 bytes, what a read of the blob finds, and what a boot
makes of it.
-/

namespace SensorFirmware

namespace UserConfig

/-- Every field fits the bytes that it is stored in. -/
structure Fits (config : UserConfig) : Prop where
  version : config.version < 2 ^ 8
  sensitivity : config.sensitivity < 2 ^ 8
  ledBrightness : config.ledBrightness < 2 ^ 8
  reserved : config.reserved < 2 ^ 8
  signature : config.signature < 2 ^ 32
  lastKnownEpoch : config.lastKnownEpoch < 2 ^ 32

/-- The record with its checksum recomputed. -/
def sealed (config : UserConfig) : UserConfig :=
  { config with crc32 := config.calculateConfigCrc }

@[simp] theorem sealed_sealed (config : UserConfig) :
    config.sealed.sealed = config.sealed := rfl

theorem Fits.sealed {config : UserConfig} (hfits : config.Fits) :
    config.sealed.Fits :=
  ⟨hfits.version, hfits.sensitivity, hfits.ledBrightness, hfits.reserved,
    hfits.signature, hfits.lastKnownEpoch⟩

@[simp] theorem length_toBytes (config : UserConfig) :
    config.toBytes.length = 16 := by
  simp [toBytes, crcData]

theorem ofBytes_toBytes {config : UserConfig} (hfits : config.Fits) :
    ofBytes config.toBytes = config := by
  have hversion : config.version % 256 = config.version :=
    Nat.mod_eq_of_lt hfits.version
  have hsensitivity : config.sensitivity % 256 = config.sensitivity :=
    Nat.mod_eq_of_lt hfits.sensitivity
  have hbrightness : config.ledBrightness % 256 = config.ledBrightness :=
    Nat.mod_eq_of_lt hfits.ledBrightness
  have hreserved : config.reserved % 256 = config.reserved :=
    Nat.mod_eq_of_lt hfits.reserved
  have hsignature : config.signature % 4294967296 = config.signature :=
    Nat.mod_eq_of_lt hfits.signature
  have hepoch :
      config.lastKnownEpoch % 4294967296 = config.lastKnownEpoch :=
    Nat.mod_eq_of_lt hfits.lastKnownEpoch
  have hcrc : config.crc32.toNat % 4294967296 = config.crc32.toNat :=
    Nat.mod_eq_of_lt config.crc32.isLt
  simp [ofBytes, toBytes, crcData, List.drop_append,
    List.drop_eq_nil_of_le, List.take_of_length_le, leNat_leBytes, hversion,
    hsensitivity, hbrightness, hreserved, hsignature, hepoch, hcrc]

theorem fits_ofBytes (bytes : List Byte) : (ofBytes bytes).Fits where
  version := leNat_take_lt _ 1
  sensitivity := leNat_take_lt _ 1
  ledBrightness := leNat_take_lt _ 1
  reserved := leNat_take_lt _ 1
  signature := leNat_take_lt _ 4
  lastKnownEpoch := leNat_take_lt _ 4

theorem fits_initDefaults (random : UInt32) :
    (initDefaults random.toNat).Fits where
  version := by simp [initDefaults, currentVersion]
  sensitivity := by simp [initDefaults]
  ledBrightness := by simp [initDefaults]
  reserved := by simp [initDefaults]
  signature := random.toNat_lt
  lastKnownEpoch := by simp [initDefaults]

/-- Versions 1 and 2, which are migrated. -/
def isOld (config : UserConfig) : Bool :=
  config.version == 1 || config.version == 2

theorem not_current_of_isOld (config : UserConfig)
    (hold : config.isOld = true) : config.version ≠ currentVersion := by
  intro hversion
  simp [isOld, hversion, currentVersion] at hold

theorem migrate_version_iff {config : UserConfig}
    (hother : config.version ≠ currentVersion) (random : ℕ) :
    (config.migrate random).version = currentVersion ↔
      config.isOld = true := by
  unfold migrate isOld currentVersion at *
  by_cases hone : config.version = 1
  · simp [hone]
  · by_cases htwo : config.version = 2 <;> simp [hone, htwo, hother]

@[simp] theorem migrate_sensitivity (config : UserConfig) (random : ℕ) :
    (config.migrate random).sensitivity = config.sensitivity := by
  unfold migrate
  by_cases hone : config.version = 1
  · simp [hone]
  · by_cases htwo : config.version = 2 <;> simp [hone, htwo]

theorem migrate_of_two {config : UserConfig} (htwo : config.version = 2)
    (first second : ℕ) : config.migrate first = config.migrate second := by
  simp [migrate, htwo]

theorem migrate_signature {config : UserConfig} (hone : config.version = 1)
    (random : ℕ) : (config.migrate random).signature = random := by
  simp [migrate, hone]

theorem Fits.migrate {config : UserConfig} (hfits : config.Fits)
    (random : UInt32) : (config.migrate random.toNat).Fits := by
  obtain ⟨hversion, hsensitivity, hbrightness, hreserved, hsignature,
    hepoch⟩ := hfits
  have hrandom := random.toNat_lt
  unfold UserConfig.migrate currentVersion
  by_cases hone : config.version = 1
  · constructor <;> simp [hone] <;> omega
  · by_cases htwo : config.version = 2
    · constructor <;> simp [htwo] <;> omega
    · constructor <;> simp [hone, htwo] <;> omega

/-- A record of the current version. -/
structure Current (config : UserConfig) : Prop where
  fits : config.Fits
  version : config.version = currentVersion

theorem Current.sealed {config : UserConfig} (hcurrent : config.Current) :
    config.sealed.Current :=
  ⟨hcurrent.fits.sealed, hcurrent.version⟩

theorem current_initDefaults (random : UInt32) :
    (initDefaults random.toNat).Current :=
  ⟨fits_initDefaults random, rfl⟩

theorem Fits.current_migrate {config : UserConfig} (hfits : config.Fits)
    (hold : config.isOld = true) (random : UInt32) :
    (config.migrate random.toNat).Current := by
  have hother := config.not_current_of_isOld hold
  exact ⟨hfits.migrate random,
    (migrate_version_iff hother random.toNat).mpr hold⟩

end UserConfig

/-! ## Reading and writing the blob -/

/-- The record in the blob, if its length and checksum are right. -/
def storedRecord (blob : ConfigBlob) : Option UserConfig :=
  blob.bind fun bytes =>
    if bytes.length = 16 ∧ (UserConfig.ofBytes bytes).calculateConfigCrc =
        (UserConfig.ofBytes bytes).crc32 then
      some (UserConfig.ofBytes bytes)
    else none

theorem storedRecord_toBytes {config : UserConfig} (hfits : config.Fits) :
    storedRecord (some config.sealed.toBytes) = some config.sealed := by
  have hbytes := UserConfig.ofBytes_toBytes hfits.sealed
  have hcrc : config.sealed.calculateConfigCrc = config.sealed.crc32 := rfl
  simp [storedRecord, hbytes, hcrc]

theorem fits_storedRecord {blob : ConfigBlob} {record : UserConfig}
    (hstored : storedRecord blob = some record) : record.Fits := by
  obtain ⟨bytes, -, hread⟩ := Option.bind_eq_some_iff.mp hstored
  obtain ⟨-, hrecord⟩ := Option.ite_none_right_eq_some.mp hread
  rw [← Option.some.inj hrecord]
  exact UserConfig.fits_ofBytes bytes

/-- The blob is in flash afterwards. -/
def ConfigWrite.reaches : ConfigWrite → Bool
  | .written => true
  | .commitFailed stored => stored
  | .lockTimeout | .openFailed | .setFailed => false

/-- What a read of the flash finds. -/
def ConfigBootEnv.found (env : ConfigBootEnv) (blob : ConfigBlob) :
    Option UserConfig :=
  if env.readOk then storedRecord blob else none

theorem ConfigBootEnv.storedRecord_of_found {env : ConfigBootEnv}
    {blob : ConfigBlob} {record : UserConfig}
    (hfound : env.found blob = some record) :
    storedRecord blob = some record := by
  unfold ConfigBootEnv.found at hfound
  split at hfound
  · exact hfound
  · cases hfound

namespace ConfigService

theorem writeToNvs_blob (service : ConfigService) (blob : ConfigBlob)
    (write : ConfigWrite) :
    (service.writeToNvs blob write).2.1 =
      if write.reaches then some service.config.sealed.toBytes else blob := by
  cases write with
  | commitFailed stored => cases stored <;> rfl
  | lockTimeout | openFailed | setFailed | written => rfl

@[simp] theorem writeToNvs_initialized (service : ConfigService)
    (blob : ConfigBlob) (write : ConfigWrite) :
    (service.writeToNvs blob write).1.initialized = service.initialized := by
  cases write with
  | commitFailed stored => cases stored <;> rfl
  | lockTimeout | openFailed | setFailed | written => rfl

theorem writeToNvs_dirty (service : ConfigService) (blob : ConfigBlob)
    (write : ConfigWrite) :
    (service.writeToNvs blob write).1.dirty =
      (service.dirty && decide (write ≠ .written)) := by
  cases write with
  | commitFailed stored => cases stored <;> simp [writeToNvs]
  | lockTimeout | openFailed | setFailed | written => simp [writeToNvs]

theorem writeToNvs_config {service : ConfigService}
    (hsealed : service.config.sealed = service.config) (blob : ConfigBlob)
    (write : ConfigWrite) :
    (service.writeToNvs blob write).1.config = service.config := by
  cases write with
  | commitFailed stored => cases stored <;> exact hsealed
  | lockTimeout => rfl
  | openFailed | setFailed | written => exact hsealed

/-- The three ways a read ends: nothing usable, a current record, or an old
one that is migrated and written back. -/
theorem readFromNvs_eq (service : ConfigService) (blob : ConfigBlob)
    (env : ConfigBootEnv) :
    service.readFromNvs blob env =
      match env.found blob with
      | none => (service, blob, false)
      | some record =>
          if record.version = UserConfig.currentVersion then
            if 100 < record.sensitivity then (service, blob, false)
            else ({ service with config := record }, blob, true)
          else if record.isOld then
            let loaded := { service with
              config := (record.migrate env.random).sealed }
            ((loaded.writeToNvs blob env.write).1,
              (loaded.writeToNvs blob env.write).2.1, true)
          else (service, blob, false) := by
  unfold readFromNvs
  cases blob with
  | none => simp [ConfigBootEnv.found, storedRecord]
  | some bytes =>
      dsimp only
      by_cases hread : env.readOk = true ∧ bytes.length = 16
      · by_cases hcrc : (UserConfig.ofBytes bytes).calculateConfigCrc =
            (UserConfig.ofBytes bytes).crc32
        · have hfound :
              env.found (some bytes) = some (UserConfig.ofBytes bytes) := by
            simp [ConfigBootEnv.found, storedRecord, hread, hcrc]
          rw [hfound]
          by_cases hversion : (UserConfig.ofBytes bytes).version =
              UserConfig.currentVersion
          · simp [hread, hcrc, hversion]
          · have hmigrated :=
              UserConfig.migrate_version_iff hversion env.random
            simp [hread, hcrc, hversion, hmigrated, UserConfig.sealed]
        · simp [ConfigBootEnv.found, storedRecord, hread, hcrc]
      · have hfound : env.found (some bytes) = none := by
          simp [ConfigBootEnv.found, storedRecord]
          tauto
        have hrefused : (!env.readOk || bytes.length != 16) = true := by
          rw [not_and_or] at hread
          simpa using hread
        rw [hfound, if_pos hrefused]

end ConfigService

/-! ## A boot -/

/-- The record that a boot ends with, and whether it is written anew. -/
def ConfigBootEnv.bootRecord (env : ConfigBootEnv) (blob : ConfigBlob) :
    UserConfig × Bool :=
  match env.found blob with
  | none => ((UserConfig.initDefaults env.random).sealed, true)
  | some record =>
      if record.version = UserConfig.currentVersion then
        if 100 < record.sensitivity then
          ((UserConfig.initDefaults env.random).sealed, true)
        else (record, false)
      else if record.isOld then ((record.migrate env.random).sealed, true)
      else ((UserConfig.initDefaults env.random).sealed, true)

namespace ConfigBootEnv

variable {env : ConfigBootEnv} {blob : ConfigBlob} {record : UserConfig}

theorem bootRecord_none (hfound : env.found blob = none) :
    env.bootRecord blob =
      ((UserConfig.initDefaults env.random).sealed, true) := by
  simp [bootRecord, hfound]

theorem bootRecord_current (hfound : env.found blob = some record)
    (hcurrent : record.version = UserConfig.currentVersion)
    (hbound : record.sensitivity ≤ 100) :
    env.bootRecord blob = (record, false) := by
  simp [bootRecord, hfound, hcurrent, not_lt.mpr hbound]

theorem bootRecord_over (hfound : env.found blob = some record)
    (hcurrent : record.version = UserConfig.currentVersion)
    (hover : 100 < record.sensitivity) :
    env.bootRecord blob =
      ((UserConfig.initDefaults env.random).sealed, true) := by
  simp [bootRecord, hfound, hcurrent, hover]

theorem bootRecord_old (hfound : env.found blob = some record)
    (hold : record.isOld = true) :
    env.bootRecord blob = ((record.migrate env.random).sealed, true) := by
  simp [bootRecord, hfound, record.not_current_of_isOld hold, hold]

theorem bootRecord_unknown (hfound : env.found blob = some record)
    (hcurrent : record.version ≠ UserConfig.currentVersion)
    (hold : record.isOld = false) :
    env.bootRecord blob =
      ((UserConfig.initDefaults env.random).sealed, true) := by
  simp [bootRecord, hfound, hcurrent, hold]

/-- A boot keeps the stored record, migrates it or draws the defaults. -/
theorem bootRecord_cases (env : ConfigBootEnv) (blob : ConfigBlob) :
    (∃ record, storedRecord blob = some record ∧
        record.version = UserConfig.currentVersion ∧
        record.sensitivity ≤ 100 ∧ env.bootRecord blob = (record, false)) ∨
      (∃ record, storedRecord blob = some record ∧ record.isOld = true ∧
        env.bootRecord blob = ((record.migrate env.random).sealed, true)) ∨
      env.bootRecord blob =
        ((UserConfig.initDefaults env.random).sealed, true) := by
  cases hfound : env.found blob with
  | none => exact .inr (.inr (bootRecord_none hfound))
  | some record =>
      have hstored := storedRecord_of_found hfound
      cases hold : record.isOld with
      | true =>
          exact .inr (.inl
            ⟨record, hstored, hold, bootRecord_old hfound hold⟩)
      | false =>
          by_cases hcurrent : record.version = UserConfig.currentVersion
          · by_cases hover : 100 < record.sensitivity
            · exact .inr (.inr (bootRecord_over hfound hcurrent hover))
            · have hbound := not_lt.mp hover
              exact .inl ⟨record, hstored, hcurrent, hbound,
                bootRecord_current hfound hcurrent hbound⟩
          · exact .inr (.inr (bootRecord_unknown hfound hcurrent hold))

end ConfigBootEnv

/-- What a boot leaves. -/
structure ConfigService.Booted (env : ConfigBootEnv) (blob : ConfigBlob)
    (service : ConfigService) (stored : ConfigBlob) : Prop where
  initialized : service.initialized = true
  dirty : service.dirty = false
  config : service.config = (env.bootRecord blob).1
  blob : stored =
    if (env.bootRecord blob).2 && env.write.reaches then
      some (env.bootRecord blob).1.toBytes
    else blob

namespace ConfigService

variable {service : ConfigService} {env : ConfigBootEnv} {blob : ConfigBlob}

/-- A migrated record or the defaults, once written. -/
theorem booted_written {config : UserConfig}
    (hrecord : env.bootRecord blob = (config.sealed, true))
    (hconfig : service.config = config.sealed) :
    Booted env blob
      { (service.writeToNvs blob env.write).1 with
        initialized := true
        dirty := false }
      (service.writeToNvs blob env.write).2.1 where
  initialized := rfl
  dirty := rfl
  config := by
    have hsealed : service.config.sealed = service.config := by
      rw [hconfig, UserConfig.sealed_sealed]
    rw [hrecord]
    exact (writeToNvs_config hsealed blob env.write).trans hconfig
  blob := by
    rw [writeToNvs_blob, hrecord, hconfig]
    simp

theorem init_of_read (hnew : service.initialized = false)
    (htimer : env.timerOk = true) (htask : env.taskOk = true)
    {read : ConfigService × ConfigBlob × Bool}
    (hread : { service with configWorkerRunning := true }.readFromNvs blob
      env = read) :
    service.init blob env =
      if read.2.2 then
        ({ read.1 with initialized := true, dirty := false }, read.2.1,
          forwardChain read.1.config, true)
      else
        let written := { read.1 with
          config := (UserConfig.initDefaults env.random).sealed }.writeToNvs
            read.2.1 env.write
        ({ written.1 with initialized := true, dirty := false },
          written.2.1, none, true) := by
  subst hread
  unfold init
  rw [if_neg (by simp [hnew]), if_neg (by simp [htimer]),
    if_neg (by simp [htask])]
  rfl

theorem init_booted (hnew : service.initialized = false)
    (htimer : env.timerOk = true) (htask : env.taskOk = true) :
    Booted env blob (service.init blob env).1 (service.init blob env).2.1 := by
  have hread := readFromNvs_eq
    { service with configWorkerRunning := true } blob env
  rw [init_of_read hnew htimer htask hread]
  cases hfound : env.found blob with
  | none =>
      exact booted_written (ConfigBootEnv.bootRecord_none hfound) rfl
  | some record =>
      by_cases hcurrent : record.version = UserConfig.currentVersion
      · by_cases hover : 100 < record.sensitivity
        · simp only [hcurrent, hover, if_true]
          exact booted_written
            (ConfigBootEnv.bootRecord_over hfound hcurrent hover) rfl
        · have hrecord := ConfigBootEnv.bootRecord_current hfound hcurrent
            (not_lt.mp hover)
          simp only [hcurrent, hover, if_true, if_false]
          constructor <;> simp [hrecord]
      · cases hold : record.isOld with
        | true =>
            simp only [hcurrent, hold, if_true, if_false]
            exact booted_written
              (ConfigBootEnv.bootRecord_old hfound hold) rfl
        | false =>
            simp only [hcurrent, hold, if_false]
            exact booted_written
              (ConfigBootEnv.bootRecord_unknown hfound hcurrent hold) rfl

end ConfigService

end SensorFirmware
