import SensorFirmware.BootSequence

/-!
# Firmware slots and the self-test

The flash has two application slots, and `otadata` holds a state for each.  A
new image is tried once; `setup` checks the storage, and
`OTAManager::validateBootedFirmware` confirms the image or gives it up.  The
boot loader is not in the repository: it is a parameter with the behaviour that
its documentation gives.
-/

namespace SensorFirmware

/-! ## The flash -/

inductive Slot where
  | app0
  | app1
  deriving DecidableEq, Repr

/-- `esp_ota_get_next_update_partition`, from the slot that runs. -/
def Slot.next : Slot → Slot
  | app0 => app1
  | app1 => app0

theorem Slot.next_ne (slot : Slot) : slot.next ≠ slot := by
  cases slot <;> decide

theorem Slot.eq_next_of_ne {slot other : Slot} (hne : other ≠ slot) :
    other = slot.next := by
  cases slot <;> cases other <;> first | rfl | exact absurd rfl hne

/-- There is no image where the slot was never written or not to its end. -/
structure AppSlot (Image : Type) where
  image : Option Image
  state : OtaImgState
  deriving DecidableEq, Repr

structure OtaFlash (Image : Type) where
  app0 : AppSlot Image
  app1 : AppSlot Image
  bootSlot : Slot
  deriving DecidableEq, Repr

namespace OtaFlash

variable {Image : Type}

def get (flash : OtaFlash Image) : Slot → AppSlot Image
  | .app0 => flash.app0
  | .app1 => flash.app1

def set (flash : OtaFlash Image) (slot : Slot) (content : AppSlot Image) :
    OtaFlash Image :=
  match slot with
  | .app0 => { flash with app0 := content }
  | .app1 => { flash with app1 := content }

def setState (flash : OtaFlash Image) (slot : Slot) (state : OtaImgState) :
    OtaFlash Image :=
  flash.set slot { flash.get slot with state := state }

/-- Writing begins over what the slot holds. -/
def erase (flash : OtaFlash Image) (slot : Slot) : OtaFlash Image :=
  flash.set slot { flash.get slot with image := none }

/-- The image is written to its end, and `esp_ota_set_boot_partition` called. -/
def install (flash : OtaFlash Image) (slot : Slot) (image : Image) :
    OtaFlash Image :=
  { flash.set slot ⟨some image, .new⟩ with bootSlot := slot }

@[simp]
theorem get_set_self (flash : OtaFlash Image) (slot : Slot)
    (content : AppSlot Image) : (flash.set slot content).get slot = content := by
  cases slot <;> rfl

theorem get_set_of_ne (flash : OtaFlash Image) {slot other : Slot}
    (hne : other ≠ slot) (content : AppSlot Image) :
    (flash.set slot content).get other = flash.get other := by
  cases slot <;> cases other <;> first | rfl | exact absurd rfl hne

theorem get_erase_of_ne (flash : OtaFlash Image) {slot other : Slot}
    (hne : other ≠ slot) : (flash.erase slot).get other = flash.get other :=
  get_set_of_ne flash hne _

theorem get_install_self (flash : OtaFlash Image) (slot : Slot)
    (image : Image) :
    (flash.install slot image).get slot = ⟨some image, .new⟩ := by
  cases slot <;> rfl

theorem get_install_of_ne (flash : OtaFlash Image) {slot other : Slot}
    (hne : other ≠ slot) (image : Image) :
    (flash.install slot image).get other = flash.get other := by
  cases slot <;> cases other <;> first | rfl | exact absurd rfl hne

end OtaFlash

/-- What runs after a reset, and the flash with the new states. -/
structure BootLoader (Image : Type) where
  select : OtaFlash Image → OtaFlash Image × Option Slot

/-- An image whose state still says that it is to be tried or that it was
accepted; `undefined` is one that no update has written. -/
def OtaImgState.Bootable (state : OtaImgState) : Prop :=
  state = .new ∨ state = .valid ∨ state = .undefined

def OtaImgState.Accepted (state : OtaImgState) : Prop :=
  state = .valid ∨ state = .undefined

instance (state : OtaImgState) : Decidable state.Bootable :=
  inferInstanceAs (Decidable (_ ∨ _ ∨ _))

instance (state : OtaImgState) : Decidable state.Accepted :=
  inferInstanceAs (Decidable (_ ∨ _))

/-- The documented behaviour with rollback enabled: a new image that is
started waits for its verification, one that still waits at the next reset is
aborted, and an accepted image is run before none is. -/
structure BootLoader.Lawful {Image : Type} (loader : BootLoader Image) : Prop
    where
  image : ∀ flash slot,
    ((loader.select flash).1.get slot).image = (flash.get slot).image
  bootable : ∀ flash slot, (loader.select flash).2 = some slot →
    (flash.get slot).image.isSome ∧ (flash.get slot).state.Bootable
  started : ∀ flash slot, (loader.select flash).2 = some slot →
    (flash.get slot).state = .new →
      ((loader.select flash).1.get slot).state = .pendingVerify
  waiting : ∀ flash slot, (loader.select flash).2 ≠ some slot →
    (flash.get slot).state = .new →
      ¬((loader.select flash).1.get slot).state.Accepted
  aborted : ∀ flash slot, (flash.get slot).state = .pendingVerify →
    ((loader.select flash).1.get slot).state = .aborted
  kept : ∀ flash slot, (flash.get slot).state ≠ .new →
    (flash.get slot).state ≠ .pendingVerify →
      ((loader.select flash).1.get slot).state = (flash.get slot).state
  fallback : ∀ flash slot, (flash.get slot).image.isSome →
    (flash.get slot).state.Accepted → (loader.select flash).2.isSome

/-! ## A boot loader -/

variable {Image : Type}

namespace AppSlot

def expire (content : AppSlot Image) : AppSlot Image :=
  if content.state = .pendingVerify then { content with state := .aborted }
  else content

def startable (content : AppSlot Image) : Bool :=
  content.image.isSome && decide content.state.Bootable

def start (content : AppSlot Image) : AppSlot Image :=
  if content.state = .new then { content with state := .pendingVerify }
  else content

theorem image_start_expire (content : AppSlot Image) :
    content.expire.start.image = content.image ∧
      content.expire.image = content.image := by
  unfold start expire
  split_ifs <;> exact ⟨rfl, rfl⟩

theorem state_expire_of_ne {content : AppSlot Image}
    (hstate : content.state ≠ .pendingVerify) : content.expire = content :=
  if_neg hstate

theorem state_expire_of_pending {content : AppSlot Image}
    (hstate : content.state = .pendingVerify) :
    content.expire.state = .aborted := by
  rw [expire, if_pos hstate]

end AppSlot

namespace RollbackLoader

def expired (flash : OtaFlash Image) : OtaFlash Image :=
  { flash with app0 := flash.app0.expire, app1 := flash.app1.expire }

/-- The slot that was activated last goes first. -/
def chosen (flash : OtaFlash Image) : Option Slot :=
  if (flash.get flash.bootSlot).expire.startable then some flash.bootSlot
  else if (flash.get flash.bootSlot.next).expire.startable then
    some flash.bootSlot.next
  else none

def bootLoader : BootLoader Image where
  select flash :=
    match chosen flash with
    | none => (expired flash, none)
    | some slot =>
        ((expired flash).set slot ((expired flash).get slot).start, some slot)

theorem get_expired (flash : OtaFlash Image) (slot : Slot) :
    (expired flash).get slot = (flash.get slot).expire := by
  cases slot <;> rfl

theorem select_eq (flash : OtaFlash Image) :
    (bootLoader.select flash).2 = chosen flash := by
  unfold bootLoader
  dsimp only
  split <;> rename_i hchosen <;> exact hchosen.symm

theorem get_select (flash : OtaFlash Image) (slot : Slot) :
    (bootLoader.select flash).1.get slot =
      if chosen flash = some slot then (flash.get slot).expire.start
      else (flash.get slot).expire := by
  unfold bootLoader
  dsimp only
  split
  · rename_i hchosen
    rw [hchosen, if_neg (by simp), get_expired]
  · rename_i running hchosen
    rw [hchosen]
    by_cases hsame : running = slot
    · subst hsame
      rw [if_pos rfl, OtaFlash.get_set_self, get_expired]
    · rw [if_neg fun heq => hsame (Option.some.inj heq),
        OtaFlash.get_set_of_ne _ (Ne.symm hsame), get_expired]

theorem startable_of_chosen {flash : OtaFlash Image} {slot : Slot}
    (hchosen : chosen flash = some slot) :
    (flash.get slot).expire.startable = true := by
  unfold chosen at hchosen
  split_ifs at hchosen with hboot hother
  · obtain rfl := Option.some.inj hchosen
    exact hboot
  · obtain rfl := Option.some.inj hchosen
    exact hother

theorem lawful : (bootLoader : BootLoader Image).Lawful := by
  refine ⟨?_, ?_, ?_, ?_, ?_, ?_, ?_⟩
  · intro flash slot
    rw [get_select]
    split
    · exact (flash.get slot).image_start_expire.1
    · exact (flash.get slot).image_start_expire.2
  · intro flash slot hselect
    rw [select_eq] at hselect
    have hstartable := startable_of_chosen hselect
    rw [AppSlot.startable, Bool.and_eq_true, decide_eq_true_eq,
      (flash.get slot).image_start_expire.2] at hstartable
    by_cases hpending : (flash.get slot).state = .pendingVerify
    · rw [AppSlot.state_expire_of_pending hpending] at hstartable
      exact absurd hstartable.2 (by decide)
    · rwa [AppSlot.state_expire_of_ne hpending] at hstartable
  · intro flash slot hselect hnew
    rw [select_eq] at hselect
    rw [get_select, if_pos hselect,
      AppSlot.state_expire_of_ne (by simp [hnew]), AppSlot.start, if_pos hnew]
  · intro flash slot hselect hnew
    rw [select_eq] at hselect
    rw [get_select, if_neg hselect,
      AppSlot.state_expire_of_ne (by simp [hnew]), hnew]
    decide
  · intro flash slot hpending
    have hnot : chosen flash ≠ some slot := by
      intro hchosen
      have hstartable := startable_of_chosen hchosen
      rw [AppSlot.startable, AppSlot.state_expire_of_pending hpending,
        Bool.and_eq_true] at hstartable
      exact absurd hstartable.2 (by decide)
    rw [get_select, if_neg hnot, AppSlot.state_expire_of_pending hpending]
  · intro flash slot hnew hpending
    have hexpired := AppSlot.state_expire_of_ne hpending
    rw [get_select, hexpired, AppSlot.start, if_neg hnew, ite_self]
  · intro flash slot himage haccepted
    have hpending : (flash.get slot).state ≠ .pendingVerify := by
      rcases haccepted with hvalid | hraw
      · simp [hvalid]
      · simp [hraw]
    have hstartable : (flash.get slot).expire.startable = true := by
      rw [AppSlot.state_expire_of_ne hpending, AppSlot.startable, himage,
        Bool.true_and, decide_eq_true_eq]
      exact .inr haccepted
    rw [select_eq, chosen]
    by_cases hboot : slot = flash.bootSlot
    · rw [← hboot, if_pos hstartable]
      rfl
    · rw [← Slot.eq_next_of_ne hboot, if_pos hstartable]
      split_ifs
      · rfl
      · rfl

end RollbackLoader

/-! ## The storage -/

inductive PartitionError where
  | ok
  | nvsMissing
  | nvsTooSmall
  | otadataMissing
  | app0Missing
  | app1Missing
  | appSizeMismatch
  | nvsInitFailed
  | nvsCorrupted
  deriving DecidableEq, Repr

/-- The sizes of the partitions that are found. -/
structure PartitionTable where
  nvs : Option UInt32
  otadata : Option UInt32
  app0 : Option UInt32
  app1 : Option UInt32
  deriving DecidableEq, Repr

def minNvsSize : UInt32 := 0x5000

def minAppSize : UInt32 := 0x100000

inductive NvsFlashInit where
  | ok
  | noFreePages
  | newVersionFound
  | failed
  deriving DecidableEq, Repr

/-- The results of `nvs_flash_init`, of the erasure and of the second
`nvs_flash_init`. -/
structure NvsFlash where
  init : NvsFlashInit
  eraseOk : Bool
  reinitOk : Bool
  deriving DecidableEq, Repr

structure StorageHAL where
  initialized : Bool
  lastError : PartitionError
  nvsRecovered : Bool
  nvsSize : UInt32
  appSlotSize : UInt32
  deriving DecidableEq, Repr

namespace StorageHAL

def construct : StorageHAL := ⟨false, .ok, false, 0, 0⟩

def isReady (storage : StorageHAL) : Bool := storage.initialized

def validatePartitions (storage : StorageHAL) (table : PartitionTable) :
    StorageHAL × Bool :=
  match table.nvs with
  | none => ({ storage with lastError := .nvsMissing }, false)
  | some nvsSize =>
      let storage := { storage with nvsSize := nvsSize }
      if nvsSize < minNvsSize then
        ({ storage with lastError := .nvsTooSmall }, false)
      else
        match table.otadata, table.app0, table.app1 with
        | none, _, _ => ({ storage with lastError := .otadataMissing }, false)
        | some _, none, _ =>
            ({ storage with lastError := .app0Missing }, false)
        | some _, some _, none =>
            ({ storage with lastError := .app1Missing }, false)
        | some _, some app0, some app1 =>
            if app0 ≠ app1 then
              ({ storage with lastError := .appSizeMismatch }, false)
            else
              ({ storage with
                appSlotSize := app0
                lastError := .ok
                initialized := true }, true)

def initNvs (storage : StorageHAL) (nvs : NvsFlash) : StorageHAL × Bool :=
  match nvs.init with
  | .ok => (storage, true)
  | .failed => ({ storage with lastError := .nvsInitFailed }, false)
  | .noFreePages | .newVersionFound =>
      if !nvs.eraseOk then
        ({ storage with lastError := .nvsInitFailed }, false)
      else if !nvs.reinitOk then
        ({ storage with lastError := .nvsInitFailed }, false)
      else
        ({ storage with
          nvsRecovered := true
          lastError := .nvsCorrupted }, true)

end StorageHAL

/-! ## The self-test -/

structure SelfTestConfig where
  sensorCheckRetries : ℕ
  selfTestTimeoutMs : ℕ
  deriving DecidableEq, Repr

/-- One attempt at the sensor: whether it answers, and its identifier. -/
structure SensorProbe where
  isPresent : Bool
  sensorId : UInt16
  deriving DecidableEq, Repr

/-- What the tests meet.  `nvsPut` says whether the test value is stored, and
`nvsOld` is what is read otherwise. -/
structure SelfTestEnv where
  sensorSingleton : Bool
  probes : List SensorProbe
  freeHeap : ℕ
  largestBlock : ℕ
  runningSize : Option UInt32
  nextSize : Option UInt32
  nvsBegin : Bool
  nvsTestValue : UInt32
  nvsPut : Bool
  nvsOld : UInt32
  led : Bool
  duration : ℕ
  deriving DecidableEq, Repr

inductive Verdict where
  | pass
  | warn
  | fail
  deriving DecidableEq, Repr

namespace SelfTestEnv

def sensorCheck (cfg : SelfTestConfig) (env : SelfTestEnv) : Verdict :=
  if !env.sensorSingleton then .fail
  else if (env.probes.take cfg.sensorCheckRetries).any fun probe =>
      probe.isPresent && probe.sensorId != 0 then .pass
  else .warn

def heapCheck (env : SelfTestEnv) : Verdict :=
  if 50000 ≤ env.freeHeap ∧ 20000 ≤ env.largestBlock then .pass else .fail

def partitionCheck (env : SelfTestEnv) : Verdict :=
  match env.runningSize, env.nextSize with
  | some running, some next =>
      if minAppSize ≤ running ∧ minAppSize ≤ next then .pass else .fail
  | _, _ => .fail

def nvsCheck (env : SelfTestEnv) : Verdict :=
  if !env.nvsBegin then .fail
  else
    let readValue := if env.nvsPut then env.nvsTestValue else env.nvsOld
    if readValue = env.nvsTestValue then .pass else .fail

def ledCheck (env : SelfTestEnv) : Verdict :=
  if env.led then .pass else .warn

def storageCheck (storage : StorageHAL) : Verdict :=
  if storage.isReady then .pass else .fail

/-- A test that took too long is counted as passed. -/
def timingCheck (cfg : SelfTestConfig) (env : SelfTestEnv) : Verdict :=
  if env.duration < cfg.selfTestTimeoutMs then .pass else .pass

end SelfTestEnv

structure SelfTest where
  firmwareOk : Bool
  passCount : ℕ
  warnCount : ℕ
  failCount : ℕ
  deriving DecidableEq, Repr

namespace SelfTest

def tally (test : SelfTest) : Verdict → SelfTest
  | .pass => { test with passCount := test.passCount + 1 }
  | .warn => { test with warnCount := test.warnCount + 1 }
  | .fail =>
      { test with firmwareOk := false, failCount := test.failCount + 1 }

end SelfTest

def performSelfTest (cfg : SelfTestConfig) (storage : StorageHAL)
    (env : SelfTestEnv) : SelfTest :=
  [env.sensorCheck cfg, env.heapCheck, env.partitionCheck, env.nvsCheck,
    env.ledCheck, SelfTestEnv.storageCheck storage, env.timingCheck cfg].foldl
    SelfTest.tally ⟨true, 0, 0, 0⟩

end SensorFirmware
