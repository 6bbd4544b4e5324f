import SensorFirmware.ConfigPersistence

/-!
# Two boots in a row

A boot ends with a record that the next boot loads as it is, if its write
succeeds.  The exception is an old record whose sensitivity no setter would
accept: migration takes it over, and the next boot refuses it.
-/

namespace SensorFirmware

/-- An intact record of version 1 or 2 whose sensitivity is out of range. -/
def HoldsUnchecked (blob : ConfigBlob) : Prop :=
  ∃ record, storedRecord blob = some record ∧ record.isOld = true ∧
    100 < record.sensitivity

namespace ConfigDevice

/-- The device as the boot leaves it. -/
def booted (random : UInt32) (blob : ConfigBlob) (boot : ConfigBoot) :
    ConfigDevice :=
  (start random blob).step (.init boot)

/-- The boot ends in range, and if its writes succeed, the next one loads the
same record. -/
def BootsStably (blob : ConfigBlob) : Prop :=
  ∀ (random : UInt32) (boot : ConfigBoot), boot.timerOk = true →
    boot.taskOk = true →
      (booted random blob boot).service.config.sensitivity ≤ 100 ∧
        (boot.write = .written → ∀ (random' : UInt32) (again : ConfigBoot),
          again.timerOk = true → again.taskOk = true → again.readOk = true →
            ((ConfigService.construct random'.toNat).readFromNvs
                (booted random blob boot).blob again.env).2.2 = true ∧
              (booted random' (booted random blob boot).blob
                again).service.config =
                  (booted random blob boot).service.config)

theorem boots_start (random : UInt32) (blob : ConfigBlob)
    {boot : ConfigBoot} (htimer : boot.timerOk = true)
    (htask : boot.taskOk = true) : (start random blob).Boots boot :=
  ⟨rfl, htimer, htask⟩

theorem config_booted (random : UInt32) (blob : ConfigBlob)
    {boot : ConfigBoot} (htimer : boot.timerOk = true)
    (htask : boot.taskOk = true) :
    (booted random blob boot).service.config =
      (boot.env.bootRecord blob).1 :=
  (step_init_booted (boots_start random blob htimer htask)).config

/-- Only an unchecked migration ends out of range. -/
theorem sensitivity_bootRecord {blob : ConfigBlob}
    (hchecked : ¬HoldsUnchecked blob) (boot : ConfigBoot) :
    (boot.env.bootRecord blob).1.sensitivity ≤ 100 := by
  obtain ⟨record, -, -, hbound, hrecord⟩ |
    ⟨record, hstored, hold, hrecord⟩ | hrecord :=
      boot.env.bootRecord_cases blob
  · rw [hrecord]
    exact hbound
  · rw [hrecord]
    change (record.migrate boot.env.random).sensitivity ≤ 100
    rw [UserConfig.migrate_sensitivity]
    by_contra hover
    exact hchecked ⟨record, hstored, hold, not_le.mp hover⟩
  · rw [hrecord]
    change 50 ≤ 100
    norm_num

/-- After a boot that did not fail to write, the flash holds its record. -/
theorem storedRecord_bootRecord (boot : ConfigBoot) (blob : ConfigBlob) :
    storedRecord (if (boot.env.bootRecord blob).2 then
        some (boot.env.bootRecord blob).1.toBytes
      else blob) = some (boot.env.bootRecord blob).1 := by
  obtain ⟨record, hstored, -, -, hrecord⟩ |
    ⟨record, hstored, hold, hrecord⟩ | hrecord :=
      boot.env.bootRecord_cases blob
  · rw [hrecord]
    exact hstored
  · rw [hrecord]
    exact storedRecord_toBytes
      ((fits_storedRecord hstored).current_migrate hold boot.random).fits
  · rw [hrecord]
    exact storedRecord_toBytes (UserConfig.fits_initDefaults boot.random)

/-- After a boot whose writes succeed the flash holds its record. -/
theorem storedRecord_booted (random : UInt32) (blob : ConfigBlob)
    {boot : ConfigBoot} (htimer : boot.timerOk = true)
    (htask : boot.taskOk = true) (hwritten : boot.write = .written) :
    storedRecord (booted random blob boot).blob =
      some (boot.env.bootRecord blob).1 := by
  have hbooted := step_init_booted (boots_start random blob htimer htask)
  have hreach : boot.env.write.reaches = true := by
    rw [ConfigBoot.env, hwritten]
    rfl
  have hblob : (booted random blob boot).blob =
      if (boot.env.bootRecord blob).2 && boot.env.write.reaches then
        some (boot.env.bootRecord blob).1.toBytes
      else blob := hbooted.blob
  rw [hblob, hreach, Bool.and_true]
  exact storedRecord_bootRecord boot blob

/-- A boot over a record in range loads it. -/
theorem found_again {blob : ConfigBlob} {record : UserConfig}
    (hstored : storedRecord blob = some record) {again : ConfigBoot}
    (hread : again.readOk = true) : again.env.found blob = some record := by
  simp [ConfigBootEnv.found, ConfigBoot.env, hread, hstored]

/-- For every content of the flash, boots are stable exactly if it is not an
old record that is out of range. -/
theorem boots_stably_iff (blob : ConfigBlob) :
    BootsStably blob ↔ ¬HoldsUnchecked blob := by
  constructor
  · rintro hstable ⟨record, hstored, hold, hover⟩
    have hbound := (hstable 0 (calmBoot .written) rfl rfl).1
    have hread : (calmBoot .written).readOk = true := rfl
    have hfound := found_again hstored hread
    rw [config_booted 0 blob rfl rfl,
      ConfigBootEnv.bootRecord_old hfound hold] at hbound
    change (record.migrate _).sensitivity ≤ 100 at hbound
    rw [UserConfig.migrate_sensitivity] at hbound
    omega
  · intro hchecked random boot htimer htask
    have hbound := sensitivity_bootRecord hchecked boot
    rw [config_booted random blob htimer htask]
    refine ⟨hbound, fun hwritten random' again htimer' htask' hread => ?_⟩
    have hstored := storedRecord_booted random blob htimer htask hwritten
    have hfound := found_again hstored hread
    have hversion := (current_bootRecord boot blob).version
    rw [config_booted random' _ htimer' htask',
      ConfigBootEnv.bootRecord_current hfound hversion hbound,
      ConfigService.readFromNvs_eq, hfound]
    simp [hversion, not_lt.mpr hbound]

/-! ## An unchecked record -/

def secondBoot (blob : ConfigBlob) : ConfigDevice :=
  booted 2 (booted 1 blob (calmBoot .written)).blob
    { calmBoot .written with random := 0xFACE }

/-- The first boot takes over sensitivity 200, the second one falls back to
the defaults, with a new signature. -/
theorem unstable_migration :
    let blob := some oldRecord.sealed.toBytes
    ¬BootsStably blob ∧
      (booted 1 blob (calmBoot .written)).service.config.sensitivity = 200 ∧
      (secondBoot blob).service.config.sensitivity = 50 ∧
      (secondBoot blob).service.config.signature = 0xFACE := by
  have hfirst : (booted 1 (some oldRecord.sealed.toBytes)
      (calmBoot .written)).service.config.sensitivity = 200 := by
    decide +kernel
  refine ⟨fun hstable => ?_, hfirst, by decide +kernel, by decide +kernel⟩
  have hbound := (hstable 1 (calmBoot .written) rfl rfl).1
  rw [hfirst] at hbound
  omega

end ConfigDevice

end SensorFirmware
