import SensorFirmware.ConfigPersistence

/-!
# The last known epoch between tasks

`updateLastKnownEpoch` compares without the mutex and writes with it, and a
flush looks at the dirty flag before it takes the mutex.  Between the two steps
of one task any other task may run.
-/

namespace SensorFirmware

open GuardedRun

namespace ConfigService

/-- `updateLastKnownEpoch` from the mutex on. -/
def writeLastKnownEpoch (service : ConfigService) (locked : Bool)
    (epochSeconds : ℕ) : ConfigService :=
  if !locked then service
  else
    { service with
      config := { service.config with lastKnownEpoch := epochSeconds }
      dirty := true
      commitTimerActive := true }

theorem updateLastKnownEpoch_eq (service : ConfigService) (locked : Bool)
    (epochSeconds : ℕ) :
    service.updateLastKnownEpoch locked epochSeconds =
      if epochSeconds ≤ service.config.lastKnownEpoch then service
      else service.writeLastKnownEpoch locked epochSeconds := rfl

@[simp] theorem writeToNvs_lastKnownEpoch (service : ConfigService)
    (blob : ConfigBlob) (write : ConfigWrite) :
    (service.writeToNvs blob write).1.config.lastKnownEpoch =
      service.config.lastKnownEpoch := by
  cases write with
  | commitFailed stored => cases stored <;> rfl
  | lockTimeout | openFailed | setFailed | written => rfl

end ConfigService

/-- What is left of a call once the mutex is there. -/
inductive LockedPart where
  | writeLastKnownEpoch (epochSeconds : UInt32)
  | writeToNvs
  deriving DecidableEq

structure ConfigTasks (τ : Type*) where
  device : ConfigDevice
  waiting : τ → Option LockedPart

/-- A step of one task.  Calls that do their comparison under the mutex are one
step; the others are two. -/
inductive TaskCall (τ : Type*) where
  | updateLastKnownEpoch (task : τ) (epochSeconds : UInt32)
  | saveIfDirty (task : τ)
  | forceFlush (task : τ)
  | lockEpoch (task : τ) (locked : Bool)
  | lockNvs (task : τ) (write : ConfigWrite)
  | setSensitivity (locked : Bool) (sensitivity : UInt8)
  | setLedBrightness (locked : Bool) (brightness : UInt8)
  | reboot (random : UInt32) (boot : ConfigBoot)

namespace ConfigTasks

variable {τ : Type*} [DecidableEq τ]

def epoch (tasks : ConfigTasks τ) : ℕ :=
  tasks.device.service.config.lastKnownEpoch

/-- Before power is on. -/
def off (blob : ConfigBlob) : ConfigTasks τ where
  device := .start 0 blob
  waiting := fun _ => none

def wait (tasks : ConfigTasks τ) (task : τ) (part : LockedPart) :
    ConfigTasks τ :=
  { tasks with waiting := Function.update tasks.waiting task (some part) }

def resume (tasks : ConfigTasks τ) (task : τ) (device : ConfigDevice) :
    ConfigTasks τ where
  device := device
  waiting := Function.update tasks.waiting task none

/-- A task that waits for the mutex makes no other call. -/
def step (tasks : ConfigTasks τ) : TaskCall τ → ConfigTasks τ
  | .updateLastKnownEpoch task epochSeconds =>
      if (tasks.waiting task).isSome then tasks
      else if epochSeconds.toNat ≤ tasks.epoch then tasks
      else tasks.wait task (.writeLastKnownEpoch epochSeconds)
  | .saveIfDirty task =>
      if (tasks.waiting task).isSome then tasks
      else if tasks.device.service.dirty then tasks.wait task .writeToNvs
      else tasks
  | .forceFlush task =>
      if (tasks.waiting task).isSome then tasks
      else
        let stopped := { tasks with device := { tasks.device with
          service := { tasks.device.service with
            commitTimerActive := false } } }
        if tasks.device.service.dirty then stopped.wait task .writeToNvs
        else stopped
  | .lockEpoch task locked =>
      match tasks.waiting task with
      | some (.writeLastKnownEpoch epochSeconds) =>
          tasks.resume task
            ⟨tasks.device.service.writeLastKnownEpoch locked
                epochSeconds.toNat, tasks.device.blob⟩
      | _ => tasks
  | .lockNvs task write =>
      match tasks.waiting task with
      | some .writeToNvs =>
          tasks.resume task
            ⟨(tasks.device.service.writeToNvs tasks.device.blob write).1,
              (tasks.device.service.writeToNvs tasks.device.blob write).2.1⟩
      | _ => tasks
  | .setSensitivity locked sensitivity =>
      { tasks with device :=
        tasks.device.step (.setSensitivity locked sensitivity) }
  | .setLedBrightness locked brightness =>
      { tasks with device :=
        tasks.device.step (.setLedBrightness locked brightness) }
  | .reboot random boot =>
      { device :=
          (ConfigDevice.start random tasks.device.blob).step (.init boot)
        waiting := fun _ => none }

/-- A call that no other task interrupts is the whole function. -/
theorem uninterrupted_update {tasks : ConfigTasks τ} {task : τ}
    (hidle : tasks.waiting task = none) (locked : Bool)
    (epochSeconds : UInt32) :
    ((tasks.step (.updateLastKnownEpoch task epochSeconds)).step
        (.lockEpoch task locked)).device =
      tasks.device.step (.updateLastKnownEpoch locked epochSeconds) := by
  simp only [ConfigDevice.step, ConfigService.updateLastKnownEpoch_eq]
  by_cases hle : epochSeconds.toNat ≤ tasks.epoch
  · have hle' : epochSeconds.toNat ≤
        tasks.device.service.config.lastKnownEpoch := hle
    simp [step, hidle, hle, hle']
  · have hle' : ¬epochSeconds.toNat ≤
        tasks.device.service.config.lastKnownEpoch := hle
    simp [step, hidle, hle, hle', wait, resume]

theorem uninterrupted_flush {tasks : ConfigTasks τ} {task : τ}
    (hidle : tasks.waiting task = none) (write : ConfigWrite) :
    ((tasks.step (.forceFlush task)).step (.lockNvs task write)).device =
      tasks.device.step (.forceFlush write) := by
  by_cases hdirty : tasks.device.service.dirty = true
  · simp [step, ConfigDevice.step, ConfigService.forceFlush, hidle, hdirty,
      wait, resume]
  · simp [step, ConfigDevice.step, ConfigService.forceFlush, hidle, hdirty]

end ConfigTasks

/-! ## What flash and clock are owed -/

/-- The epoch of the current record in flash. -/
def storedEpoch (blob : ConfigBlob) : WithBot ℕ :=
  match storedRecord blob with
  | none => ⊥
  | some record =>
      if record.version = UserConfig.currentVersion then
        (record.lastKnownEpoch : WithBot ℕ)
      else ⊥

/-- The clock that a boot restores from this flash, if it does. -/
def restoredClock (blob : ConfigBlob) (random : UInt32)
    (boot : ConfigBoot) : Option ClockMicros :=
  ((ConfigService.construct random.toNat).init blob boot.env).2.2.1

/-- A record of the current version is read and accepted, and the second after
its epoch fits the 32 bits. -/
def ConfigBoot.Resumes (boot : ConfigBoot) (blob : ConfigBlob) : Prop :=
  ∀ record, storedRecord blob = some record →
    record.version = UserConfig.currentVersion →
      boot.timerOk = true ∧ boot.taskOk = true ∧ boot.readOk = true ∧
        record.sensitivity ≤ 100 ∧ record.lastKnownEpoch + 1 < 2 ^ 32

/-- The write that is due follows the epoch in RAM. -/
def LockedPart.Follows (epoch : ℕ) : Option LockedPart → Prop
  | some (.writeLastKnownEpoch epochSeconds) =>
      epoch ≤ epochSeconds.toNat
  | some .writeToNvs | none => True

instance (epoch : ℕ) :
    (part : Option LockedPart) → Decidable (LockedPart.Follows epoch part)
  | some (.writeLastKnownEpoch epochSeconds) =>
      inferInstanceAs (Decidable (epoch ≤ epochSeconds.toNat))
  | some .writeToNvs | none => isTrue trivial

namespace ConfigTasks

variable {τ : Type*} [DecidableEq τ]

/-- The epoch in RAM does not decrease, unless RAM is lost. -/
def NotBack (tasks : ConfigTasks τ) : TaskCall τ → Prop
  | .reboot _ _ => True
  | call => tasks.epoch ≤ (tasks.step call).epoch

/-- No other task has put a later epoch in RAM since the comparison. -/
def InOrder (tasks : ConfigTasks τ) : TaskCall τ → Prop
  | .lockEpoch task true =>
      LockedPart.Follows tasks.epoch (tasks.waiting task)
  | _ => True

/-- Besides, the last epoch of all is not written and every boot resumes. -/
def Orderly (tasks : ConfigTasks τ) (call : TaskCall τ) : Prop :=
  tasks.InOrder call ∧
    match call with
    | .lockEpoch task true =>
        tasks.waiting task ≠ some (.writeLastKnownEpoch 0xFFFFFFFF)
    | .reboot _ boot => boot.Resumes tasks.device.blob
    | _ => True

end ConfigTasks

/-! ## Boots -/

@[simp] theorem storedEpoch_sealed {config : UserConfig}
    (hcurrent : config.Current) :
    storedEpoch (some config.sealed.toBytes) =
      (config.lastKnownEpoch : WithBot ℕ) := by
  have hversion : config.sealed.version = UserConfig.currentVersion :=
    hcurrent.version
  unfold storedEpoch
  rw [storedRecord_toBytes hcurrent.fits]
  exact if_pos hversion

theorem storedEpoch_current {blob : ConfigBlob} {record : UserConfig}
    (hstored : storedRecord blob = some record)
    (hversion : record.version = UserConfig.currentVersion) :
    storedEpoch blob = (record.lastKnownEpoch : WithBot ℕ) := by
  unfold storedEpoch
  rw [hstored]
  exact if_pos hversion

theorem storedEpoch_other {blob : ConfigBlob}
    (hother : ∀ record, storedRecord blob = some record →
      record.version ≠ UserConfig.currentVersion) : storedEpoch blob = ⊥ := by
  unfold storedEpoch
  cases hstored : storedRecord blob with
  | none => rfl
  | some record => exact if_neg (hother record hstored)

theorem UserConfig.migrate_lastKnownEpoch {config : UserConfig}
    (hold : config.isOld = true) (random : ℕ) :
    (config.migrate random).lastKnownEpoch = 0 := by
  unfold UserConfig.isOld at hold
  unfold UserConfig.migrate
  by_cases hone : config.version = 1
  · simp [hone]
  · have htwo : config.version = 2 := by simpa [hone] using hold
    simp [htwo]

/-- Only the epoch of the current record in flash restores the clock. -/
theorem restoredClock_eq {blob : ConfigBlob} {random : UInt32}
    {boot : ConfigBoot} {clock : ClockMicros}
    (hclock : restoredClock blob random boot = some clock) :
    ∃ epoch : ℕ, storedEpoch blob = epoch ∧
      clock = ClockMicros.settimeofday (u32 (epoch + 1)) 0 := by
  unfold restoredClock at hclock
  by_cases htimer : boot.env.timerOk = true
  · by_cases htask : boot.env.taskOk = true
    · have hread := ConfigService.readFromNvs_eq
        { ConfigService.construct random.toNat with
          configWorkerRunning := true } blob boot.env
      rw [ConfigService.init_of_read rfl htimer htask hread] at hclock
      cases hfound : boot.env.found blob with
      | none => simp [hfound] at hclock
      | some record =>
          have hstored := ConfigBootEnv.storedRecord_of_found hfound
          by_cases hversion : record.version = UserConfig.currentVersion
          · refine ⟨record.lastKnownEpoch,
              storedEpoch_current hstored hversion, ?_⟩
            by_cases hover : 100 < record.sensitivity
            · simp [hfound, hversion, hover] at hclock
            · simp only [hfound, hversion, hover, if_true, if_false,
                ConfigService.forwardChain] at hclock
              by_cases hpos : 0 < record.lastKnownEpoch
              · rw [if_pos hpos] at hclock
                exact (Option.some.inj hclock).symm
              · rw [if_neg hpos] at hclock
                cases hclock
          · cases hold : record.isOld with
            | true =>
                have hzero :
                    (record.migrate boot.env.random).sealed.lastKnownEpoch =
                      0 := UserConfig.migrate_lastKnownEpoch hold _
                simp [hfound, hversion, hold, ConfigService.forwardChain,
                  hzero] at hclock
            | false => simp [hfound, hversion, hold] at hclock
    · simp [ConfigService.init, htimer, htask,
        ConfigService.construct] at hclock
  · simp [ConfigService.init, htimer, ConfigService.construct] at hclock

namespace ConfigTasks

variable {τ : Type*}

/-- The record in flash is at most as late as the one in RAM, and a second can
be added to both. -/
structure Settled (tasks : ConfigTasks τ) : Prop where
  current : tasks.device.service.config.Current
  stored : storedEpoch tasks.device.blob ≤ (tasks.epoch : WithBot ℕ)
  next : tasks.epoch + 1 < 2 ^ 32

/-- A step that leaves the flash alone. -/
theorem Settled.keep {tasks later : ConfigTasks τ} (hsettled : tasks.Settled)
    (hcurrent : later.device.service.config.Current)
    (hblob : later.device.blob = tasks.device.blob)
    (hepoch : tasks.epoch ≤ later.epoch) (hnext : later.epoch + 1 < 2 ^ 32) :
    later.Settled ∧
      storedEpoch tasks.device.blob ≤ storedEpoch later.device.blob := by
  have hram : (tasks.epoch : WithBot ℕ) ≤ (later.epoch : WithBot ℕ) :=
    WithBot.coe_le_coe.mpr hepoch
  refine ⟨⟨hcurrent, ?_, hnext⟩, (congrArg storedEpoch hblob).ge⟩
  rw [hblob]
  exact hsettled.stored.trans hram

/-- A step that keeps the epoch and the flash. -/
theorem Settled.idle {tasks later : ConfigTasks τ} (hsettled : tasks.Settled)
    (hcurrent : later.device.service.config.Current)
    (hblob : later.device.blob = tasks.device.blob)
    (hepoch : later.epoch = tasks.epoch) :
    later.Settled ∧
      storedEpoch tasks.device.blob ≤ storedEpoch later.device.blob := by
  refine hsettled.keep hcurrent hblob hepoch.ge ?_
  rw [hepoch]
  exact hsettled.next

/-- A boot that loads the current record leaves it in flash. -/
theorem settled_of_loaded {device : ConfigDevice} {boot : ConfigBoot}
    {record : UserConfig} (hnew : device.service.initialized = false)
    (hresumes : boot.Resumes device.blob)
    (hstored : storedRecord device.blob = some record)
    (hversion : record.version = UserConfig.currentVersion)
    (waiting : τ → Option LockedPart) :
    Settled ⟨device.step (.init boot), waiting⟩ ∧
      (device.step (.init boot)).blob = device.blob := by
  obtain ⟨htimer, htask, hread, hbound, hnext⟩ :=
    hresumes record hstored hversion
  have hfound : boot.env.found device.blob = some record := by
    unfold ConfigBootEnv.found
    exact (if_pos hread).trans hstored
  have hrecord := ConfigBootEnv.bootRecord_current hfound hversion hbound
  have hbooted := ConfigDevice.step_init_booted ⟨hnew, htimer, htask⟩
  have hconfig : (device.step (.init boot)).service.config = record := by
    rw [hbooted.config, hrecord]
  have hblob : (device.step (.init boot)).blob = device.blob := by
    rw [hbooted.blob, hrecord]
    rfl
  have hepoch : epoch ⟨device.step (.init boot), waiting⟩ =
      record.lastKnownEpoch := congrArg UserConfig.lastKnownEpoch hconfig
  refine ⟨⟨?_, ?_, ?_⟩, hblob⟩
  · rw [hconfig]
    exact ⟨fits_storedRecord hstored, hversion⟩
  · rw [hblob, storedEpoch_current hstored hversion, hepoch]
  · rw [hepoch]
    exact hnext

/-- Without a current record in flash the epoch starts at zero. -/
theorem settled_of_fresh {device : ConfigDevice}
    (hcurrent : device.service.config.Current)
    (hzero : device.service.config.lastKnownEpoch = 0)
    (hother : ∀ record, storedRecord device.blob = some record →
      record.version ≠ UserConfig.currentVersion)
    (boot : ConfigBoot) (waiting : τ → Option LockedPart) :
    Settled ⟨device.step (.init boot), waiting⟩ := by
  have hlater := ConfigDevice.current_init hcurrent boot
  have hnone := storedEpoch_other hother
  by_cases hboots : device.Boots boot
  · have hbooted := ConfigDevice.step_init_booted hboots
    have hsealed : ∃ config : UserConfig, config.Current ∧
        config.lastKnownEpoch = 0 ∧
        boot.env.bootRecord device.blob = (config.sealed, true) := by
      obtain ⟨record, hstored, hversion, -⟩ |
        ⟨record, hstored, hold, hrecord⟩ | hrecord :=
          boot.env.bootRecord_cases device.blob
      · exact absurd hversion (hother record hstored)
      · exact ⟨_, (fits_storedRecord hstored).current_migrate hold
          boot.random, UserConfig.migrate_lastKnownEpoch hold _, hrecord⟩
      · exact ⟨_, UserConfig.current_initDefaults boot.random, rfl, hrecord⟩
    obtain ⟨config, hconfig, hepoch, hrecord⟩ := hsealed
    have hram : (device.step (.init boot)).service.config =
        config.sealed := by
      rw [hbooted.config, hrecord]
    have hstart : epoch ⟨device.step (.init boot), waiting⟩ = 0 :=
      (congrArg UserConfig.lastKnownEpoch hram).trans hepoch
    refine ⟨hlater, ?_, ?_⟩
    · rw [hbooted.blob, hrecord, hstart]
      split
      · rw [storedEpoch_sealed hconfig, hepoch]
      · rw [hnone]
        exact bot_le
    · rw [hstart]
      norm_num
  · obtain ⟨hblob, hconfig, -⟩ := ConfigDevice.step_init_unbooted hboots
    have hstart : epoch ⟨device.step (.init boot), waiting⟩ = 0 :=
      (congrArg UserConfig.lastKnownEpoch hconfig).trans hzero
    refine ⟨hlater, ?_, ?_⟩
    · rw [hblob, hnone]
      exact bot_le
    · rw [hstart]
      norm_num

variable [DecidableEq τ]

theorem settled_reboot {tasks : ConfigTasks τ} {boot : ConfigBoot}
    (hresumes : boot.Resumes tasks.device.blob) (random : UInt32) :
    (tasks.step (.reboot random boot)).Settled ∧
      storedEpoch tasks.device.blob ≤
        storedEpoch (tasks.step (.reboot random boot)).device.blob := by
  by_cases hloads : ∃ record, storedRecord tasks.device.blob = some record ∧
      record.version = UserConfig.currentVersion
  · obtain ⟨record, hstored, hversion⟩ := hloads
    have hnew : (ConfigDevice.start random
        tasks.device.blob).service.initialized = false := rfl
    have hloaded := settled_of_loaded hnew hresumes hstored hversion
      (fun _ : τ => none)
    exact ⟨hloaded.1, (congrArg storedEpoch hloaded.2).ge⟩
  · have hother : ∀ record, storedRecord tasks.device.blob = some record →
        record.version ≠ UserConfig.currentVersion :=
      fun record hstored hversion => hloads ⟨record, hstored, hversion⟩
    have hstart : (ConfigDevice.start random
        tasks.device.blob).service.config.Current :=
      UserConfig.current_initDefaults random
    refine ⟨settled_of_fresh hstart rfl hother boot fun _ => none, ?_⟩
    rw [storedEpoch_other hother]
    exact bot_le

/-! ## Steps -/

/-- Only a locked write and a boot change the epoch in RAM. -/
theorem epoch_step (tasks : ConfigTasks τ) {call : TaskCall τ}
    (hwrite : ∀ task locked, call ≠ .lockEpoch task locked)
    (hboot : ∀ random boot, call ≠ .reboot random boot) :
    (tasks.step call).epoch = tasks.epoch := by
  cases call with
  | updateLastKnownEpoch | saveIfDirty | forceFlush =>
      simp only [step]
      repeat' split
      all_goals rfl
  | lockEpoch task locked => exact absurd rfl (hwrite task locked)
  | lockNvs task write =>
      simp only [step]
      split
      · exact ConfigService.writeToNvs_lastKnownEpoch _ _ write
      · rfl
  | setSensitivity | setLedBrightness =>
      simp only [step, epoch, ConfigDevice.step,
        ConfigService.setSensitivity, ConfigService.setLedBrightness]
      repeat' split
      all_goals rfl
  | reboot random boot => exact absurd rfl (hboot random boot)

theorem notBack_iff (tasks : ConfigTasks τ) (call : TaskCall τ) :
    tasks.NotBack call ↔ tasks.InOrder call := by
  cases call with
  | lockEpoch task locked =>
      cases hwaiting : tasks.waiting task with
      | none => cases locked <;>
          simp [NotBack, InOrder, step, hwaiting, LockedPart.Follows]
      | some part =>
          cases part with
          | writeToNvs => cases locked <;>
              simp [NotBack, InOrder, step, hwaiting, LockedPart.Follows]
          | writeLastKnownEpoch epochSeconds =>
              -- Without the mutex nothing is written.
              cases locked with
              | false =>
                  have hsame :
                      (tasks.step (.lockEpoch task false)).epoch =
                        tasks.epoch := by
                    simp [step, hwaiting, resume, epoch,
                      ConfigService.writeLastKnownEpoch]
                  exact iff_of_true hsame.ge trivial
              | true =>
                  have hwritten :
                      (tasks.step (.lockEpoch task true)).epoch =
                        epochSeconds.toNat := by
                    simp [step, hwaiting, resume, epoch,
                      ConfigService.writeLastKnownEpoch]
                  simp only [NotBack, InOrder, hwaiting, hwritten,
                    LockedPart.Follows]
  | reboot random boot => exact Iff.rfl
  | updateLastKnownEpoch | saveIfDirty | forceFlush | lockNvs |
      setSensitivity | setLedBrightness =>
      refine iff_of_true (epoch_step tasks ?_ ?_).ge trivial
      · intro task locked heq
        cases heq
      · intro random boot heq
        cases heq

theorem settled_lockEpoch {tasks : ConfigTasks τ} {task : τ} {locked : Bool}
    (hsettled : tasks.Settled)
    (horderly : tasks.Orderly (.lockEpoch task locked)) :
    (tasks.step (.lockEpoch task locked)).Settled ∧
      storedEpoch tasks.device.blob ≤
        storedEpoch (tasks.step (.lockEpoch task locked)).device.blob := by
  obtain ⟨hfollows, hlast⟩ := horderly
  simp only [step]
  split
  next epochSeconds hwaiting =>
    cases locked with
    | false => exact hsettled.idle hsettled.current rfl rfl
    | true =>
        have hle : tasks.epoch ≤ epochSeconds.toNat := by
          simp only [InOrder, hwaiting] at hfollows
          exact hfollows
        have hne : epochSeconds ≠ 0xFFFFFFFF := by
          intro heq
          exact hlast (by rw [hwaiting, heq])
        have hnext : epochSeconds.toNat + 1 < 2 ^ 32 := by
          have hlt := epochSeconds.toNat_lt
          have hvalue : epochSeconds.toNat ≠ 0xFFFFFFFF :=
            fun heq => hne (UInt32.toNat_inj.mp heq)
          omega
        have hfits := hsettled.current.fits
        exact hsettled.keep
          ⟨{ hfits with lastKnownEpoch := epochSeconds.toNat_lt },
            hsettled.current.version⟩ rfl hle hnext
  next => exact ⟨hsettled, le_rfl⟩

theorem settled_lockNvs {tasks : ConfigTasks τ} (hsettled : tasks.Settled)
    (task : τ) (write : ConfigWrite) :
    (tasks.step (.lockNvs task write)).Settled ∧
      storedEpoch tasks.device.blob ≤
        storedEpoch (tasks.step (.lockNvs task write)).device.blob := by
  have hcurrent := ConfigService.current_writeToNvs hsettled.current
    tasks.device.blob write
  have hblob := ConfigService.writeToNvs_blob tasks.device.service
    tasks.device.blob write
  have hepoch := ConfigService.writeToNvs_lastKnownEpoch tasks.device.service
    tasks.device.blob write
  have hsealed := storedEpoch_sealed hsettled.current
  simp only [step]
  split
  next hwaiting =>
    cases hreaches : write.reaches with
    | false =>
        rw [hreaches] at hblob
        exact hsettled.idle hcurrent hblob hepoch
    | true =>
        rw [hreaches, if_pos rfl] at hblob
        have hstored : storedEpoch (tasks.device.service.writeToNvs
            tasks.device.blob write).2.1 = (tasks.epoch : WithBot ℕ) := by
          rw [hblob]
          exact hsealed
        refine ⟨⟨hcurrent, ?_, ?_⟩, ?_⟩
        · exact (hstored.trans (congrArg _ hepoch.symm)).le
        · exact (congrArg (· + 1) hepoch).trans_lt hsettled.next
        · exact hsettled.stored.trans hstored.ge
  next => exact ⟨hsettled, le_rfl⟩

theorem settled_step {tasks : ConfigTasks τ} {call : TaskCall τ}
    (hsettled : tasks.Settled) (horderly : tasks.Orderly call) :
    (tasks.step call).Settled ∧
      storedEpoch tasks.device.blob ≤
        storedEpoch (tasks.step call).device.blob := by
  have hcurrent := hsettled.current
  cases call with
  | updateLastKnownEpoch | saveIfDirty | forceFlush =>
      refine hsettled.idle ?_ ?_ (epoch_step tasks (by simp) (by simp))
      · simp only [step]
        repeat' split
        all_goals exact hcurrent
      · simp only [step]
        repeat' split
        all_goals rfl
  | lockEpoch task locked => exact settled_lockEpoch hsettled horderly
  | lockNvs task write => exact settled_lockNvs hsettled task write
  | setSensitivity locked sensitivity =>
      exact hsettled.idle (ConfigDevice.current_step hcurrent _) rfl
        (epoch_step tasks (by simp) (by simp))
  | setLedBrightness locked brightness =>
      exact hsettled.idle (ConfigDevice.current_step hcurrent _) rfl
        (epoch_step tasks (by simp) (by simp))
  | reboot random boot => exact settled_reboot horderly.2 random

/-! ## Runs -/

theorem settled_run {tasks : ConfigTasks τ} {calls : List (TaskCall τ)}
    (hsettled : tasks.Settled) (horderly : Guarded step Orderly tasks calls) :
    (run step tasks calls).Settled ∧
      storedEpoch tasks.device.blob ≤
        storedEpoch (run step tasks calls).device.blob := by
  have hstep : ∀ (reached : ConfigTasks τ) (call : TaskCall τ),
      (reached.Settled ∧ storedEpoch tasks.device.blob ≤
        storedEpoch reached.device.blob) → reached.Orderly call →
      ((reached.step call).Settled ∧ storedEpoch tasks.device.blob ≤
        storedEpoch (reached.step call).device.blob) := by
    intro reached call hreached hcall
    have hnext := settled_step hreached.1 hcall
    exact ⟨hnext.1, hreached.2.trans hnext.2⟩
  exact invariant_run hstep ⟨hsettled, le_rfl⟩ horderly

theorem stored_mono {tasks : ConfigTasks τ} {calls : List (TaskCall τ)}
    (hsettled : tasks.Settled) (horderly : Guarded step Orderly tasks calls)
    {first last : ℕ} (hle : first ≤ last) :
    storedEpoch (run step tasks (calls.take first)).device.blob ≤
      storedEpoch (run step tasks (calls.take last)).device.blob := by
  have hsplit := List.take_append_drop first (calls.take last)
  rw [List.take_take, min_eq_left hle] at hsplit
  have hguard := guarded_take horderly last
  rw [← hsplit, guarded_append] at hguard
  have hreached := settled_run hsettled hguard.1
  rw [← hsplit, run_append]
  exact (settled_run hreached.1 hguard.2).2

/-- A clock that is restored is past the epoch in flash. -/
theorem stored_le_restoredClock {blob : ConfigBlob} {bound : ℕ}
    (hbound : storedEpoch blob ≤ bound) (hnext : bound + 1 < 2 ^ 32)
    {random : UInt32} {boot : ConfigBoot} {clock : ClockMicros}
    (hclock : restoredClock blob random boot = some clock) :
    storedEpoch blob ≤ (clock.tvSec : WithBot ℕ) := by
  obtain ⟨epoch, hstored, rfl⟩ := restoredClock_eq hclock
  rw [hstored] at hbound
  have hle : epoch ≤ bound := WithBot.coe_le_coe.mp hbound
  have hsecond : (ClockMicros.settimeofday (u32 (epoch + 1)) 0).tvSec =
      epoch + 1 := by
    simp only [ClockMicros.settimeofday, ClockMicros.tvSec, u32]
    omega
  rw [hstored, hsecond]
  exact WithBot.coe_le_coe.mpr (Nat.le_succ epoch)

/-- From any content of the flash, with boots at any time: the epoch in RAM
never decreases exactly if every locked write is in order.  If besides every
boot resumes and the last epoch is never written, then no boot, at any point,
restores a clock before an epoch that was in flash. -/
theorem epoch_goes_forward (blob : ConfigBlob) (random : UInt32)
    (boot : ConfigBoot) (calls : List (TaskCall τ)) :
    (Guarded step NotBack (off blob) (.reboot random boot :: calls) ↔
        Guarded step InOrder (off blob) (.reboot random boot :: calls)) ∧
      (Guarded step Orderly (off blob) (.reboot random boot :: calls) →
        Guarded step NotBack (off blob) (.reboot random boot :: calls) ∧
        ∀ first last, first ≤ last → ∀ random' boot' clock,
          restoredClock (run step (off blob)
            ((.reboot random boot :: calls).take last)).device.blob
              random' boot' = some clock →
          storedEpoch (run step (off blob)
            ((.reboot random boot :: calls).take first)).device.blob ≤
              (clock.tvSec : WithBot ℕ)) := by
  refine ⟨guarded_congr notBack_iff _ _, fun hguard => ?_⟩
  have hstep : ∀ (tasks : ConfigTasks τ) (call : TaskCall τ), True →
      tasks.Orderly call → True := fun _ _ _ _ => trivial
  have hgood : ∀ (tasks : ConfigTasks τ) (call : TaskCall τ), True →
      tasks.Orderly call → tasks.NotBack call :=
    fun tasks call _ hcall => (notBack_iff tasks call).mpr hcall.1
  refine ⟨guarded_of_invariant hstep hgood trivial hguard, ?_⟩
  obtain ⟨hboot, horderly⟩ := hguard
  intro first last hle random' boot' clock hclock
  obtain ⟨hsettled, hstored⟩ := settled_reboot hboot.2 random
  cases last with
  | zero =>
      have hfirst : first = 0 := Nat.le_zero.mp hle
      subst hfirst
      exact stored_le_restoredClock (hstored.trans hsettled.stored)
        hsettled.next hclock
  | succ last =>
      have hlater := settled_run hsettled (guarded_take horderly last)
      have hrestored := stored_le_restoredClock hlater.1.stored
        hlater.1.next hclock
      refine le_trans ?_ hrestored
      cases first with
      | zero => exact hstored.trans hlater.2
      | succ first => exact stored_mono hsettled horderly (by omega)

/-- Two tasks whose writes come in the order of their comparisons. -/
def orderedCalls : List (TaskCall ℕ) :=
  [.reboot 1 (ConfigDevice.calmBoot .written),
    .updateLastKnownEpoch 0 1700000200, .lockEpoch 0 true,
    .updateLastKnownEpoch 1 1700000300, .lockEpoch 1 true,
    .forceFlush 2, .lockNvs 2 .written]

theorem epoch_goes_forward_ordered :
    Guarded step Orderly (off none) orderedCalls ∧
      Guarded step NotBack (off none) orderedCalls ∧
      storedEpoch (run step (off none) orderedCalls).device.blob ≤
        ((ClockMicros.settimeofday 1700000301 0).tvSec : WithBot ℕ) := by
  have horderly : Guarded step Orderly (off none) orderedCalls := by
    refine ⟨⟨trivial, ?_⟩, ⟨trivial, trivial⟩, ⟨?_, ?_⟩, ⟨trivial, trivial⟩,
      ⟨?_, ?_⟩, ⟨trivial, trivial⟩, ⟨trivial, trivial⟩, trivial⟩
    · intro record hstored
      cases hstored
    · simp only [InOrder]
      decide +kernel
    · change ConfigTasks.waiting _ _ ≠ _
      decide +kernel
    · simp only [InOrder]
      decide +kernel
    · change ConfigTasks.waiting _ _ ≠ _
      decide +kernel
  refine ⟨horderly, ?_⟩
  have hclock : restoredClock
      (run step (off none) (orderedCalls.take 7)).device.blob 1
        (ConfigDevice.calmBoot .written) =
      some (ClockMicros.settimeofday 1700000301 0) := by decide +kernel
  obtain ⟨hnotBack, hrestored⟩ :=
    (epoch_goes_forward none 1 (ConfigDevice.calmBoot .written) _).2 horderly
  exact ⟨hnotBack, hrestored 7 7 le_rfl 1 (ConfigDevice.calmBoot .written) _
    hclock⟩

/-- The task that compared first writes last. -/
def racingCalls : List (TaskCall ℕ) :=
  [.reboot 1 (ConfigDevice.calmBoot .written),
    .updateLastKnownEpoch 0 1700000200, .updateLastKnownEpoch 1 1700000300,
    .lockEpoch 1 true, .forceFlush 2, .lockNvs 2 .written,
    .lockEpoch 0 true, .forceFlush 2, .lockNvs 2 .written]

def lastEpochCalls : List (TaskCall ℕ) :=
  [.reboot 1 (ConfigDevice.calmBoot .written),
    .updateLastKnownEpoch 0 0xFFFFFFFF, .lockEpoch 0 true,
    .forceFlush 2, .lockNvs 2 .written]

/-- The epoch in RAM goes back, the older one is written over the later one
in flash, and the clock starts from it; after the last epoch of all the clock
starts at zero. -/
theorem epoch_goes_back :
    (run step (off none) (racingCalls.take 7)).epoch <
        (run step (off none) (racingCalls.take 6)).epoch ∧
      storedEpoch (run step (off none)
        (racingCalls.take 6)).device.blob = (1700000300 : ℕ) ∧
      restoredClock (run step (off none) racingCalls).device.blob 1
          (ConfigDevice.calmBoot .written) =
        some (ClockMicros.settimeofday 1700000201 0) ∧
      storedEpoch (run step (off none)
        lastEpochCalls).device.blob = (0xFFFFFFFF : ℕ) ∧
      restoredClock (run step (off none) lastEpochCalls).device.blob 1
        (ConfigDevice.calmBoot .written) = some 0 := by
  refine ⟨?_, ?_, ?_, ?_, ?_⟩
  · decide +kernel
  · decide +kernel
  · decide +kernel
  · decide +kernel
  · decide +kernel

end ConfigTasks

end SensorFirmware
