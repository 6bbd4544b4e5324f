import SensorFirmware.FirmwareSlots
import SensorFirmware.GuardedRun

/-!
# The validation of booted firmware

Runs of resets and updates.  At each reset the boot loader picks a slot and
`setup` runs until the firmware is validated, unless it is cut off before; an
update writes the slot that does not run.
-/

namespace SensorFirmware

open GuardedRun

variable {Image : Type}

/-! ## The device -/

inductive HaltCause where
  | partitions (error : PartitionError)
  | nvsInit
  | sensorIdMismatch (sensorId : UInt16)
  | rollbackFailed
  deriving DecidableEq, Repr

inductive FirmwareMode where
  | off
  | flasher
  | application
  | halted (cause : HaltCause)
  deriving DecidableEq, Repr

/-- What one boot meets.  `sensor` is the identifier where the sensor's `init`
succeeds; the state of the running slot is read by the crash recovery check
and by the validation; `interrupted` is a boot that ends before its
validation. -/
structure FirmwareSetup where
  reset : BootReset
  crashCheckReads : Bool
  interrupted : Bool
  partitions : PartitionTable
  nvs : NvsFlash
  sensor : Option UInt16
  validationReads : Bool
  selfTest : SelfTestEnv
  markOk : Bool
  rollbackOk : Bool
  deriving DecidableEq, Repr

structure FirmwareDevice (Image : Type) where
  flash : OtaFlash Image
  boot : BootDevice
  running : Option Slot
  mode : FirmwareMode
  deriving DecidableEq, Repr

namespace FirmwareDevice

/-- `validateBootedFirmware`.  Where the rollback reboots, the device is off
until its reset. -/
def validateBootedFirmware (cfg : SelfTestConfig) (storage : StorageHAL)
    (env : FirmwareSetup) (slot : Slot) (device : FirmwareDevice Image) :
    FirmwareDevice Image :=
  if !env.validationReads then device
  else if (device.flash.get slot).state = .pendingVerify then
    if (performSelfTest cfg storage env.selfTest).firmwareOk then
      if env.markOk then
        { device with flash := device.flash.setState slot .valid }
      else device
    else if env.rollbackOk then
      { device with
        flash := device.flash.setState slot .invalid
        mode := .off }
    else { device with mode := .halted .rollbackFailed }
  else device

/-- `setup` from the validation of the storage on. -/
def startServices (cfg : SelfTestConfig) (env : FirmwareSetup) (slot : Slot)
    (device : FirmwareDevice Image) : FirmwareDevice Image :=
  let validated := StorageHAL.construct.validatePartitions env.partitions
  if !validated.2 then
    { device with mode := .halted (.partitions validated.1.lastError) }
  else
    let opened := validated.1.initNvs env.nvs
    if !opened.2 then { device with mode := .halted .nvsInit }
    else
      match env.sensor with
      | none => device.validateBootedFirmware cfg opened.1 env slot
      | some sensorId =>
          if sensorId &&& 0x00FF ≠ 0x80 then
            { device with mode := .halted (.sensorIdMismatch sensorId) }
          else device.validateBootedFirmware cfg opened.1 env slot

/-- `setup` up to the choice between the flasher and the application. -/
def earlySetup (boots : BootConfig) (env : FirmwareSetup) (state : OtaImgState)
    (boot : BootDevice) : BootDevice :=
  (boot.setup boots { env.reset with
    otaState := if env.crashCheckReads then some state else none }).device

/-- A reset, and `setup` up to the end of the validation. -/
def reset (boots : BootConfig) (cfg : SelfTestConfig)
    (loader : BootLoader Image) (env : FirmwareSetup)
    (device : FirmwareDevice Image) : FirmwareDevice Image :=
  let selected := loader.select device.flash
  match selected.2 with
  | none => { device with flash := selected.1, running := none, mode := .off }
  | some slot =>
      let booted :=
        earlySetup boots env (selected.1.get slot).state device.boot
      match booted.phase with
      | .stopped => ⟨selected.1, booted, some slot, .off⟩
      | .flasher => ⟨selected.1, booted, some slot, .flasher⟩
      | .application =>
          if env.interrupted then ⟨selected.1, booted, some slot, .off⟩
          else
            startServices cfg env slot
              ⟨selected.1, booted, some slot, .application⟩

/-- The slot of the firmware that can write an update, in the flasher or in the
application. -/
def updater (device : FirmwareDevice Image) : Option Slot :=
  match device.mode with
  | .flasher | .application => device.running
  | .off | .halted _ => none

end FirmwareDevice

inductive FirmwareEvent (Image : Type) where
  | reset (env : FirmwareSetup)
  | beginUpdate
  | commitUpdate (image : Image)
  deriving DecidableEq, Repr

namespace FirmwareDevice

/-- An update that begins takes away what was in the other slot; one that is
committed makes its image the next to be started. -/
def step (boots : BootConfig) (cfg : SelfTestConfig)
    (loader : BootLoader Image) (device : FirmwareDevice Image) :
    FirmwareEvent Image → FirmwareDevice Image
  | .reset env => device.reset boots cfg loader env
  | .beginUpdate =>
      match device.updater with
      | none => device
      | some slot => { device with flash := device.flash.erase slot.next }
  | .commitUpdate image =>
      match device.updater with
      | none => device
      | some slot =>
          { device with flash := device.flash.install slot.next image }

end FirmwareDevice

/-! ## The self-test -/

namespace SelfTest

theorem firmwareOk_foldl (test : SelfTest) (verdicts : List Verdict) :
    (verdicts.foldl tally test).firmwareOk = true ↔
      test.firmwareOk = true ∧ .fail ∉ verdicts := by
  induction verdicts generalizing test with
  | nil => simp
  | cons verdict verdicts ih =>
      rw [List.foldl_cons, ih]
      cases verdict <;> simp [tally]

end SelfTest

/-- What the tests insist on.  A missing sensor or LED does not count. -/
structure SelfTestEnv.Sound (env : SelfTestEnv) : Prop where
  sensorSingleton : env.sensorSingleton = true
  heap : 50000 ≤ env.freeHeap ∧ 20000 ≤ env.largestBlock
  partitions : ∃ running next, env.runningSize = some running ∧
    env.nextSize = some next ∧ minAppSize ≤ running ∧ minAppSize ≤ next
  nvs : env.nvsBegin = true ∧
    (env.nvsPut = true ∨ env.nvsOld = env.nvsTestValue)

theorem performSelfTest_firmwareOk (cfg : SelfTestConfig)
    (storage : StorageHAL) (env : SelfTestEnv) :
    (performSelfTest cfg storage env).firmwareOk = true ↔
      env.Sound ∧ storage.isReady = true := by
  have hsensor : env.sensorCheck cfg = .fail ↔
      env.sensorSingleton = false := by
    unfold SelfTestEnv.sensorCheck
    split_ifs <;> simp_all
  have hheap : env.heapCheck = .fail ↔
      ¬(50000 ≤ env.freeHeap ∧ 20000 ≤ env.largestBlock) := by
    unfold SelfTestEnv.heapCheck
    split_ifs <;> simp_all
  have hpartitions : env.partitionCheck = .fail ↔
      ¬∃ running next, env.runningSize = some running ∧
        env.nextSize = some next ∧ minAppSize ≤ running ∧
          minAppSize ≤ next := by
    unfold SelfTestEnv.partitionCheck
    split
    · split_ifs <;> simp_all
    · rename_i hnone
      simp only [true_iff]
      rintro ⟨running, other, hrunning, hother, -⟩
      exact hnone running other hrunning hother
  have hnvs : env.nvsCheck = .fail ↔
      ¬(env.nvsBegin = true ∧
        (env.nvsPut = true ∨ env.nvsOld = env.nvsTestValue)) := by
    unfold SelfTestEnv.nvsCheck
    cases env.nvsBegin <;> cases env.nvsPut <;> simp
  have hled : env.ledCheck ≠ .fail := by
    unfold SelfTestEnv.ledCheck
    split_ifs <;> decide
  have hstorage : SelfTestEnv.storageCheck storage = .fail ↔
      storage.isReady = false := by
    unfold SelfTestEnv.storageCheck
    split_ifs <;> simp_all
  have htiming : env.timingCheck cfg ≠ .fail := by
    unfold SelfTestEnv.timingCheck
    split_ifs <;> decide
  unfold performSelfTest
  rw [SelfTest.firmwareOk_foldl]
  simp only [List.mem_cons, List.not_mem_nil, or_false, not_or,
    eq_comm (a := Verdict.fail), hsensor, hheap, hpartitions, hnvs, hled,
    hstorage, htiming, not_false_eq_true, not_not, Bool.not_eq_false,
    true_and]
  constructor
  · rintro ⟨hsensor, hheap, hpartitions, hnvs, hstorage⟩
    exact ⟨⟨hsensor, hheap, hpartitions, hnvs⟩, hstorage⟩
  · rintro ⟨⟨hsensor, hheap, hpartitions, hnvs⟩, hstorage⟩
    exact ⟨hsensor, hheap, hpartitions, hnvs, hstorage⟩

/-! ## One reset -/

namespace FirmwareSetup

def storage (env : FirmwareSetup) : StorageHAL :=
  ((StorageHAL.construct.validatePartitions env.partitions).1.initNvs
    env.nvs).1

def StorageSound (env : FirmwareSetup) : Prop :=
  (StorageHAL.construct.validatePartitions env.partitions).2 = true ∧
    ((StorageHAL.construct.validatePartitions env.partitions).1.initNvs
      env.nvs).2 = true

/-- The sensor is not found, or it is the right one. -/
def SensorSound (env : FirmwareSetup) : Prop :=
  ∀ sensorId ∈ env.sensor, sensorId &&& 0x00FF = 0x80

instance (env : FirmwareSetup) : Decidable env.StorageSound :=
  inferInstanceAs (Decidable (_ ∧ _))

instance (env : FirmwareSetup) : Decidable env.SensorSound :=
  match hsensor : env.sensor with
  | none => .isTrue fun sensorId hid => by simp [hsensor] at hid
  | some sensorId =>
      decidable_of_iff (sensorId &&& 0x00FF = 0x80)
        (by simp [SensorSound, hsensor])

end FirmwareSetup

theorem StorageHAL.isReady_initNvs (storage : StorageHAL) (nvs : NvsFlash) :
    (storage.initNvs nvs).1.isReady = storage.isReady := by
  unfold initNvs
  split <;> (try split_ifs) <;> rfl

theorem StorageHAL.isReady_of_validatePartitions {storage : StorageHAL}
    {table : PartitionTable}
    (hvalid : (storage.validatePartitions table).2 = true) :
    (storage.validatePartitions table).1.isReady = true := by
  unfold validatePartitions at hvalid ⊢
  split at hvalid
  · cases hvalid
  · dsimp only at hvalid ⊢
    split_ifs at hvalid ⊢
    split at hvalid <;> (try cases hvalid)
    split_ifs at hvalid ⊢
    rfl

namespace FirmwareDevice

variable {boots : BootConfig} {cfg : SelfTestConfig}
  {loader : BootLoader Image}

/-- The boot of a slot in the given state ends with its confirmation. -/
structure Confirms (boots : BootConfig) (env : FirmwareSetup) (state : OtaImgState)
    (boot : BootDevice) : Prop where
  application : (earlySetup boots env state boot).phase = .application
  uninterrupted : env.interrupted = false
  storage : env.StorageSound
  sensor : env.SensorSound
  reads : env.validationReads = true
  selfTest : env.selfTest.Sound
  marked : env.markOk = true

theorem startServices_cases (cfg : SelfTestConfig) (env : FirmwareSetup) (slot : Slot)
    (device : FirmwareDevice Image) :
    (env.StorageSound ∧ env.SensorSound ∧ device.startServices cfg env slot =
      device.validateBootedFirmware cfg env.storage env slot) ∨
    (¬(env.StorageSound ∧ env.SensorSound) ∧ ∃ cause,
      device.startServices cfg env slot =
        { device with mode := .halted cause }) := by
  unfold startServices
  dsimp only
  by_cases hpartitions :
      (StorageHAL.construct.validatePartitions env.partitions).2 = true
  · by_cases hnvs :
        ((StorageHAL.construct.validatePartitions env.partitions).1.initNvs
          env.nvs).2 = true
    · simp only [hpartitions, hnvs, Bool.not_true, Bool.false_eq_true,
        if_false]
      have hstorage : env.StorageSound := ⟨hpartitions, hnvs⟩
      cases hsensor : env.sensor with
      | none =>
          refine .inl ⟨hstorage, fun sensorId hid => ?_, rfl⟩
          rw [hsensor] at hid
          cases hid
      | some sensorId =>
          have hsound : env.SensorSound ↔ sensorId &&& 0x00FF = 0x80 := by
            simp [FirmwareSetup.SensorSound, hsensor]
          by_cases hid : sensorId &&& 0x00FF = 0x80
          · refine .inl ⟨hstorage, hsound.mpr hid, ?_⟩
            simp only [ne_eq, hid, not_true_eq_false, if_false]
            rfl
          · refine .inr ⟨fun hboth => hid (hsound.mp hboth.2),
              .sensorIdMismatch sensorId, ?_⟩
            simp only [ne_eq, hid, not_false_eq_true, if_true]
    · refine .inr ⟨fun hboth => hnvs hboth.1.2, .nvsInit, ?_⟩
      simp [hpartitions, hnvs]
  · refine .inr ⟨fun hboth => hpartitions hboth.1.1, .partitions
      (StorageHAL.construct.validatePartitions env.partitions).1.lastError, ?_⟩
    simp only [hpartitions, Bool.not_false, if_true]

/-- What the validation can do to the flash, and when. -/
theorem validateBootedFirmware_cases (cfg : SelfTestConfig)
    (storage : StorageHAL) (env : FirmwareSetup) (slot : Slot)
    (device : FirmwareDevice Image) :
    let after := device.validateBootedFirmware cfg storage env slot
    after.running = device.running ∧
    ((env.validationReads = true ∧
        (device.flash.get slot).state = .pendingVerify ∧
        (performSelfTest cfg storage env.selfTest).firmwareOk = true ∧
        env.markOk = true ∧
        after.flash = device.flash.setState slot .valid) ∨
      (¬(env.validationReads = true ∧
        (performSelfTest cfg storage env.selfTest).firmwareOk = true ∧
        env.markOk = true) ∧
        (device.flash.get slot).state = .pendingVerify ∧
        after.flash = device.flash.setState slot .invalid) ∨
      (¬(env.validationReads = true ∧
        (device.flash.get slot).state = .pendingVerify ∧
        (performSelfTest cfg storage env.selfTest).firmwareOk = true ∧
        env.markOk = true) ∧
        after.flash = device.flash)) := by
  dsimp only
  unfold validateBootedFirmware
  split_ifs with hreads hpending htest hmark hroll
  all_goals simp_all

theorem selfTest_iff (cfg : SelfTestConfig) {env : FirmwareSetup}
    (hstorage : env.StorageSound) :
    (performSelfTest cfg env.storage env.selfTest).firmwareOk = true ↔
      env.selfTest.Sound := by
  have hready : env.storage.isReady = true := by
    rw [FirmwareSetup.storage, StorageHAL.isReady_initNvs]
    exact StorageHAL.isReady_of_validatePartitions hstorage.1
  rw [performSelfTest_firmwareOk, hready]
  exact and_iff_left rfl

/-- What a boot of `slot` leaves, from the flash and the state of the slot that
the boot loader hands over. -/
def Booted (boots : BootConfig) (env : FirmwareSetup) (selected : OtaFlash Image)
    (slot : Slot) (boot : BootDevice) (after : FirmwareDevice Image) : Prop :=
  let state := (selected.get slot).state
  after.running = some slot ∧
    ((Confirms boots env state boot ∧ state = .pendingVerify ∧
        after.flash = selected.setState slot .valid) ∨
      (¬Confirms boots env state boot ∧ state = .pendingVerify ∧
        after.flash = selected.setState slot .invalid) ∨
      (¬(Confirms boots env state boot ∧ state = .pendingVerify) ∧
        after.flash = selected))

theorem booted_startServices {env : FirmwareSetup} {selected : OtaFlash Image}
    {slot : Slot} {boot : BootDevice}
    (hphase : (earlySetup boots env (selected.get slot).state boot).phase =
      .application) (huncut : env.interrupted = false) :
    Booted boots env selected slot boot (startServices cfg env slot
      ⟨selected, earlySetup boots env (selected.get slot).state boot,
        some slot, .application⟩) := by
  rcases startServices_cases cfg env slot (FirmwareDevice.mk selected
      (earlySetup boots env (selected.get slot).state boot) (some slot)
        .application) with
    ⟨hstorage, hsensor, hstarted⟩ | ⟨hunsound, cause, hhalted⟩
  · have htest := selfTest_iff cfg hstorage
    obtain ⟨hrunning, hcases⟩ := validateBootedFirmware_cases cfg
      env.storage env slot (FirmwareDevice.mk selected
        (earlySetup boots env (selected.get slot).state boot) (some slot)
          .application)
    have hconfirms : Confirms boots env (selected.get slot).state boot ↔
        env.validationReads = true ∧ env.selfTest.Sound ∧
          env.markOk = true :=
      ⟨fun hc => ⟨hc.reads, hc.selfTest, hc.marked⟩, fun hc =>
        ⟨hphase, huncut, hstorage, hsensor, hc.1, hc.2.1, hc.2.2⟩⟩
    rw [hstarted]
    refine ⟨hrunning, ?_⟩
    simp only [htest] at hcases
    rw [hconfirms]
    rcases hcases with ⟨hreads, hpending, hsound, hmark, hflash⟩ |
      ⟨hnot, hpending, hflash⟩ | ⟨hnot, hflash⟩
    · exact .inl ⟨⟨hreads, hsound, hmark⟩, hpending, hflash⟩
    · exact .inr (.inl ⟨hnot, hpending, hflash⟩)
    · refine .inr (.inr ⟨?_, hflash⟩)
      rintro ⟨⟨hreads, hsound, hmark⟩, hpending⟩
      exact hnot ⟨hreads, hpending, hsound, hmark⟩
  · rw [hhalted]
    refine ⟨rfl, .inr (.inr ⟨?_, rfl⟩)⟩
    rintro ⟨hconfirms, -⟩
    exact hunsound ⟨hconfirms.storage, hconfirms.sensor⟩

/-- What a reset does once the boot loader has picked its slot. -/
theorem booted_reset (boots : BootConfig) (cfg : SelfTestConfig)
    (env : FirmwareSetup) {device : FirmwareDevice Image} {slot : Slot}
    (hselect : (loader.select device.flash).2 = some slot) :
    Booted boots env (loader.select device.flash).1 slot device.boot
      (device.reset boots cfg loader env) := by
  generalize hselected : (loader.select device.flash).1 = selected
  have hearly : ∀ mode,
      ¬Confirms boots env (selected.get slot).state device.boot →
        Booted boots env selected slot device.boot ⟨selected,
          earlySetup boots env (selected.get slot).state device.boot,
            some slot, mode⟩ :=
    fun mode hnot => ⟨rfl, .inr (.inr ⟨fun hboth => hnot hboth.1, rfl⟩)⟩
  unfold reset
  simp only [hselect, hselected]
  split
  · rename_i hphase
    refine hearly _ fun hconfirms => ?_
    rw [hconfirms.application] at hphase
    cases hphase
  · rename_i hphase
    refine hearly _ fun hconfirms => ?_
    rw [hconfirms.application] at hphase
    cases hphase
  · rename_i hphase
    cases hcut : env.interrupted with
    | true =>
        refine hearly _ fun hconfirms => ?_
        rw [hconfirms.uninterrupted] at hcut
        cases hcut
    | false => exact booted_startServices hphase hcut

end FirmwareDevice

/-! ## What the boot loader leaves -/

namespace BootLoader.Lawful

variable {loader : BootLoader Image}

theorem valid_iff (hloader : loader.Lawful) (flash : OtaFlash Image)
    (slot : Slot) :
    ((loader.select flash).1.get slot).state = .valid ↔
      (flash.get slot).state = .valid := by
  by_cases hnew : (flash.get slot).state = .new
  · by_cases hselect : (loader.select flash).2 = some slot
    · simp [hloader.started flash slot hselect hnew, hnew]
    · have hwaiting := hloader.waiting flash slot hselect hnew
      have hnot : ((loader.select flash).1.get slot).state ≠ .valid :=
        fun hvalid => hwaiting (.inl hvalid)
      simp [hnot, hnew]
  · by_cases hpending : (flash.get slot).state = .pendingVerify
    · simp [hloader.aborted flash slot hpending, hpending]
    · rw [hloader.kept flash slot hnew hpending]

/-- Of the slots that run, only a new one waits for its verification. -/
theorem pendingVerify_iff (hloader : loader.Lawful) {flash : OtaFlash Image}
    {slot : Slot} (hselect : (loader.select flash).2 = some slot) :
    ((loader.select flash).1.get slot).state = .pendingVerify ↔
      (flash.get slot).state = .new := by
  constructor
  · intro hpending
    rcases (hloader.bootable flash slot hselect).2 with hnew | hvalid | hraw
    · exact hnew
    · rw [hloader.kept flash slot (by simp [hvalid]) (by simp [hvalid]),
        hvalid] at hpending
      cases hpending
    · rw [hloader.kept flash slot (by simp [hraw]) (by simp [hraw]),
        hraw] at hpending
      cases hpending
  · exact hloader.started flash slot hselect

theorem accepted (hloader : loader.Lawful) {flash : OtaFlash Image}
    {slot : Slot} (haccepted : (flash.get slot).state.Accepted) :
    ((loader.select flash).1.get slot).state = (flash.get slot).state := by
  rcases haccepted with hvalid | hraw
  · exact hloader.kept flash slot (by simp [hvalid]) (by simp [hvalid])
  · exact hloader.kept flash slot (by simp [hraw]) (by simp [hraw])

end BootLoader.Lawful

namespace FirmwareDevice

variable {boots : BootConfig} {cfg : SelfTestConfig}
  {loader : BootLoader Image}

theorem flash_reset_none (boots : BootConfig) (cfg : SelfTestConfig)
    (env : FirmwareSetup) {device : FirmwareDevice Image}
    (hselect : (loader.select device.flash).2 = none) :
    (device.reset boots cfg loader env).flash =
        (loader.select device.flash).1 ∧
      (device.reset boots cfg loader env).running = none := by
  unfold reset
  simp only [hselect]
  exact ⟨trivial, trivial⟩

theorem get_booted_of_ne {env : FirmwareSetup} {selected : OtaFlash Image}
    {slot other : Slot} {boot : BootDevice} {after : FirmwareDevice Image}
    (hbooted : Booted boots env selected slot boot after)
    (hne : other ≠ slot) : after.flash.get other = selected.get other := by
  rcases hbooted.2 with ⟨-, -, hflash⟩ | ⟨-, -, hflash⟩ | ⟨-, hflash⟩
  · rw [hflash]
    exact OtaFlash.get_set_of_ne selected hne _
  · rw [hflash]
    exact OtaFlash.get_set_of_ne selected hne _
  · rw [hflash]

theorem image_booted {env : FirmwareSetup} {selected : OtaFlash Image}
    {slot : Slot} {boot : BootDevice} {after : FirmwareDevice Image}
    (hbooted : Booted boots env selected slot boot after) (other : Slot) :
    (after.flash.get other).image = (selected.get other).image := by
  by_cases hne : other = slot
  · subst hne
    rcases hbooted.2 with ⟨-, -, hflash⟩ | ⟨-, -, hflash⟩ | ⟨-, hflash⟩
    · rw [hflash, OtaFlash.setState, OtaFlash.get_set_self]
    · rw [hflash, OtaFlash.setState, OtaFlash.get_set_self]
    · rw [hflash]
  · rw [get_booted_of_ne hbooted hne]

theorem image_reset (boots : BootConfig) (cfg : SelfTestConfig)
    (hloader : loader.Lawful) (env : FirmwareSetup)
    (device : FirmwareDevice Image) (slot : Slot) :
    ((device.reset boots cfg loader env).flash.get slot).image =
      (device.flash.get slot).image := by
  cases hselect : (loader.select device.flash).2 with
  | none =>
      rw [(flash_reset_none boots cfg env hselect).1]
      exact hloader.image device.flash slot
  | some running =>
      rw [image_booted (booted_reset boots cfg env hselect) slot]
      exact hloader.image device.flash slot

/-- After a reset a slot is valid if it was so before or if it held a new image
whose first boot confirmed it. -/
theorem valid_reset_iff (hloader : loader.Lawful) (env : FirmwareSetup)
    (device : FirmwareDevice Image) (slot : Slot) :
    ((device.reset boots cfg loader env).flash.get slot).state = .valid ↔
      (device.flash.get slot).state = .valid ∨
      ((loader.select device.flash).2 = some slot ∧
        (device.flash.get slot).state = .new ∧
        Confirms boots env .pendingVerify device.boot) := by
  have hkept := hloader.valid_iff device.flash slot
  cases hselect : (loader.select device.flash).2 with
  | none =>
      rw [(flash_reset_none boots cfg env hselect).1, hkept]
      simp
  | some running =>
      have hbooted := booted_reset boots cfg env hselect
      by_cases hne : slot = running
      · subst hne
        have hpending := hloader.pendingVerify_iff hselect
        rcases hbooted.2 with ⟨hconfirms, hstate, hflash⟩ |
          ⟨hnot, hstate, hflash⟩ | ⟨hnot, hflash⟩
        · rw [hflash, OtaFlash.setState, OtaFlash.get_set_self]
          rw [hstate] at hconfirms
          simp [hpending.mp hstate, hconfirms]
        · rw [hflash, OtaFlash.setState, OtaFlash.get_set_self]
          rw [hstate] at hnot
          simp [hpending.mp hstate, hnot]
        · rw [hflash, hkept]
          constructor
          · exact Or.inl
          · rintro (hvalid | ⟨-, hnew, hconfirms⟩)
            · exact hvalid
            · have hstate := hpending.mpr hnew
              rw [hstate] at hnot
              exact absurd ⟨hconfirms, rfl⟩ hnot
      · rw [get_booted_of_ne hbooted hne, hkept]
        constructor
        · exact Or.inl
        · rintro (hvalid | ⟨hsame, -⟩)
          · exact hvalid
          · exact absurd (Option.some.inj hsame).symm hne

end FirmwareDevice

end SensorFirmware
