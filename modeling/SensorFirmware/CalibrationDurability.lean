import SensorFirmware.Personalization
import SensorFirmware.GuardedRun

/-!
# A calibration survives a reset

What the flash would give to a boot is a function of the blob.  While the
service is not dirty, that is what its readers see, whatever saves have failed
before; and as long as no save fails, every change has one still to come.
-/

namespace SensorFirmware

open GuardedRun

variable {cfg : PersonalizationConfig} {Sum : Type}

/-! ## The record in flash -/

namespace MLCalibrationData

/-- The record with its checksum recomputed. -/
def sealed (d : MLCalibrationData cfg) : MLCalibrationData cfg :=
  { d with crc32 := d.calculateCrc }

/-- The checksum is over the fields before it. -/
theorem calculateCrc_eq (d : MLCalibrationData cfg) :
    d.calculateCrc = UInt32.ofBitVec
      (calculateCRC32 ((CalibrationFields.codec cfg).encode d.fields)) := by
  have hsize : (codec cfg).size - 4 = (CalibrationFields.codec cfg).size :=
    Nat.add_sub_cancel _ 4
  have hbytes : (codec cfg).encode d =
      (CalibrationFields.codec cfg).encode d.fields ++
        RecordCodec.uint32.encode d.crc32 := rfl
  have hfields := (CalibrationFields.codec cfg).length_encode d.fields
  unfold calculateCrc
  rw [hsize, hbytes, List.take_left' hfields]

theorem calculateCrc_sealed (d : MLCalibrationData cfg) :
    d.sealed.calculateCrc = d.sealed.crc32 := by
  have hsame : d.sealed.calculateCrc = d.calculateCrc := by
    rw [calculateCrc_eq, calculateCrc_eq]
    rfl
  exact hsame

end MLCalibrationData

/-- The calibration of a boot that can read the flash. -/
def bootFields (cfg : PersonalizationConfig) (blob : CalibrationBlob) :
    CalibrationFields cfg :=
  match PersonalizationService.readFromNvs cfg blob true with
  | some data => data.fields
  | none => .defaults cfg

/-- A record of this version is read as it was written. -/
theorem readFromNvs_sealed (d : MLCalibrationData cfg)
    (hversion : d.fields.version = cfg.calibrationVersion) :
    PersonalizationService.readFromNvs cfg
      (some ((MLCalibrationData.codec cfg).encode d.sealed)) true =
        some d.sealed := by
  have hlength := (MLCalibrationData.codec cfg).length_encode d.sealed
  have hback := (MLCalibrationData.codec cfg).decode_encode_self d.sealed
  have hsealed : d.sealed.fields.version = cfg.calibrationVersion := hversion
  have hcrc := d.calculateCrc_sealed
  simp [PersonalizationService.readFromNvs, hlength, hback, hsealed, hcrc]

theorem bootFields_sealed (d : MLCalibrationData cfg)
    (hversion : d.fields.version = cfg.calibrationVersion) :
    bootFields cfg (some ((MLCalibrationData.codec cfg).encode d.sealed)) =
      d.fields := by
  unfold bootFields
  rw [readFromNvs_sealed d hversion]
  rfl

theorem version_of_read {blob : CalibrationBlob} {readOk : Bool}
    {d : MLCalibrationData cfg}
    (hread : PersonalizationService.readFromNvs cfg blob readOk = some d) :
    d.fields.version = cfg.calibrationVersion := by
  unfold PersonalizationService.readFromNvs at hread
  split at hread
  · cases hread
  · dsimp only at hread
    split_ifs at hread with hok hlength hversion hcrc
    cases Option.some.inj hread
    exact not_not.mp hversion

theorem bootFields_of_read {blob : CalibrationBlob}
    {d : MLCalibrationData cfg}
    (hread : PersonalizationService.readFromNvs cfg blob true = some d) :
    bootFields cfg blob = d.fields := by
  simp [bootFields, hread]

/-! ## Runs -/

/-- The calls of the loop, the timer and the worker, and a reset with the
`init` that follows it. -/
inductive CalibrationCall (cfg : PersonalizationConfig) where
  | boot (env : CalibrationBoot)
  | startCalibration
  | captureWindow (features : Option (FeatureVector cfg))
      (label : GestureLabel)
  | commitCalibration (locked queued : Bool)
  | resetCalibration (locked flushLocked : Bool) (put : NvsPut)
  | updateSensorBaseline (locked queued : Bool)
      (mean sigma dynamicRange : FloatBits)
  | forceFlush (locked : Bool) (put : NvsPut)
  | shutdown (locked : Bool) (put : NvsPut)
  | commitTimer
  | workerSave (locked : Bool) (put : NvsPut)
  | workerExit
  deriving DecidableEq

structure CalibrationDevice (cfg : PersonalizationConfig) (Sum : Type) where
  service : PersonalizationService cfg Sum
  blob : CalibrationBlob
  deriving DecidableEq

namespace CalibrationDevice

def start (ops : FloatArithmetic Sum) (blob : CalibrationBlob) :
    CalibrationDevice cfg Sum :=
  ⟨.construct ops, blob⟩

def step (ops : FloatArithmetic Sum) (device : CalibrationDevice cfg Sum) :
    CalibrationCall cfg → CalibrationDevice cfg Sum
  | .boot env =>
      ⟨((PersonalizationService.construct ops).init device.blob env).1,
        device.blob⟩
  | .startCalibration =>
      ⟨(device.service.startCalibration ops).1, device.blob⟩
  | .captureWindow features label =>
      ⟨(device.service.captureWindow ops features label).1, device.blob⟩
  | .commitCalibration locked queued =>
      ⟨(device.service.commitCalibration ops locked queued).1, device.blob⟩
  | .resetCalibration locked flushLocked put =>
      let reset :=
        device.service.resetCalibration device.blob locked flushLocked put
      ⟨reset.1, reset.2.1⟩
  | .updateSensorBaseline locked queued mean sigma dynamicRange =>
      ⟨device.service.updateSensorBaseline locked queued mean sigma
        dynamicRange, device.blob⟩
  | .forceFlush locked put =>
      let flushed := device.service.forceFlush device.blob locked put
      ⟨flushed.1, flushed.2.1⟩
  | .shutdown locked put =>
      let closed := device.service.shutdown device.blob locked put
      ⟨closed.1, closed.2⟩
  | .commitTimer => ⟨device.service.commitTimerCallback, device.blob⟩
  | .workerSave locked put =>
      let saved := device.service.workerSave device.blob locked put
      ⟨saved.1, saved.2⟩
  | .workerExit => ⟨device.service.workerExit, device.blob⟩

/-- A boot that finds a record can read it. -/
def ReadsFlash (device : CalibrationDevice cfg Sum) :
    CalibrationCall cfg → Prop
  | .boot env =>
      env.readOk = true ∨ bootFields cfg device.blob = .defaults cfg
  | _ => True

instance (device : CalibrationDevice cfg Sum) :
    (call : CalibrationCall cfg) → Decidable (device.ReadsFlash call)
  | .boot _ => inferInstanceAs (Decidable (_ ∨ _))
  | .startCalibration | .captureWindow _ _ | .commitCalibration _ _ |
      .resetCalibration _ _ _ | .updateSensorBaseline _ _ _ _ _ |
      .forceFlush _ _ | .shutdown _ _ | .commitTimer | .workerSave _ _ |
      .workerExit => isTrue trivial

/-- No lock times out, no write fails and the timer takes every reset. -/
def SavesSucceed (_ : CalibrationDevice cfg Sum) : CalibrationCall cfg → Prop
  | .commitCalibration locked queued =>
      locked = true → queued = true
  | .updateSensorBaseline locked queued _ _ _ =>
      locked = true → queued = true
  | .resetCalibration _ flushLocked put =>
      flushLocked = true ∧ put = .written
  | .forceFlush locked put | .shutdown locked put | .workerSave locked put =>
      locked = true ∧ put = .written
  | _ => True

instance (device : CalibrationDevice cfg Sum) :
    (call : CalibrationCall cfg) → Decidable (device.SavesSucceed call)
  | .commitCalibration _ _ | .updateSensorBaseline _ _ _ _ _ =>
      inferInstanceAs (Decidable (_ → _))
  | .resetCalibration _ _ _ | .forceFlush _ _ | .shutdown _ _ |
      .workerSave _ _ => inferInstanceAs (Decidable (_ ∧ _))
  | .boot _ | .startCalibration | .captureWindow _ _ | .commitTimer |
      .workerExit => isTrue trivial

/-! ## What is in flash -/

/-- The readers see what RAM holds; where the flash has been readable, so does
the next boot if the service is not dirty. -/
structure Sound (readable : Prop) (device : CalibrationDevice cfg Sum) :
    Prop where
  version : device.service.data.fields.version = cfg.calibrationVersion
  snapshot : device.service.snapshot.fields = device.service.data.fields
  clean : readable → device.service.initialized = true →
    device.service.dirty = false →
      bootFields cfg device.blob = device.service.data.fields

variable {ops : FloatArithmetic Sum} {service : PersonalizationService cfg Sum}
  {blob : CalibrationBlob} {readable : Prop}
  {calls : List (CalibrationCall cfg)}

/-- A write stores the record of RAM or leaves the flash alone. -/
theorem sound_write (hsound : (mk service blob).Sound readable) (put : NvsPut) :
    (mk (service.writeToNvs blob put).1
      (service.writeToNvs blob put).2.1).Sound readable := by
  have hstored : bootFields cfg
      (some ((MLCalibrationData.codec cfg).encode service.data.sealed)) =
        service.data.fields := bootFields_sealed service.data hsound.version
  cases put with
  | openFailed => exact ⟨hsound.version, hsound.snapshot, hsound.clean⟩
  | failed stored =>
      cases stored with
      | false => exact ⟨hsound.version, hsound.snapshot, hsound.clean⟩
      | true => exact ⟨hsound.version, hsound.snapshot, fun _ _ _ => hstored⟩
  | written => exact ⟨hsound.version, hsound.snapshot, fun _ _ _ => hstored⟩

theorem sound_forceFlush (hsound : (mk service blob).Sound readable)
    (locked : Bool) (put : NvsPut) :
    (mk (service.forceFlush blob locked put).1
      (service.forceFlush blob locked put).2.1).Sound readable := by
  have hstopped : (mk { service with timerActive := false } blob).Sound
      readable := ⟨hsound.version, hsound.snapshot, hsound.clean⟩
  unfold PersonalizationService.forceFlush
  split
  · exact hsound
  · cases locked with
    | false => exact hstopped
    | true => exact sound_write hstopped put

theorem readFromNvs_false (blob : CalibrationBlob) :
    PersonalizationService.readFromNvs cfg blob false = none := by
  unfold PersonalizationService.readFromNvs
  cases blob <;> rfl

theorem sound_boot {device : CalibrationDevice cfg Sum}
    {env : CalibrationBoot}
    (hreads : readable → device.ReadsFlash (.boot env)) :
    (device.step ops (.boot env)).Sound readable := by
  have hfresh : ∀ running : Bool, (mk
      { (.construct ops : PersonalizationService cfg Sum) with
        workerRunning := running } device.blob).Sound readable :=
    fun _ => ⟨rfl, rfl, fun _ habsurd => by cases habsurd⟩
  simp only [step, PersonalizationService.init,
    PersonalizationService.construct, Bool.false_eq_true, if_false]
  split_ifs with hmutex htimer htask
  · exact hfresh false
  · exact hfresh false
  · cases hread : PersonalizationService.readFromNvs cfg device.blob
        env.readOk with
    | none => exact hfresh false
    | some d =>
        exact ⟨version_of_read hread, rfl, fun _ habsurd => by cases habsurd⟩
  · cases hread : PersonalizationService.readFromNvs cfg device.blob
        env.readOk with
    | none =>
        refine ⟨rfl, rfl, fun hreadable _ _ => ?_⟩
        rcases hreads hreadable with hok | hdefaults
        · rw [hok] at hread
          simp [bootFields, hread, MLCalibrationData.defaults]
        · exact hdefaults
    | some d =>
        refine ⟨version_of_read hread, rfl, fun _ _ _ => ?_⟩
        cases hok : env.readOk with
        | false =>
            rw [hok, readFromNvs_false] at hread
            cases hread
        | true =>
            rw [hok] at hread
            exact bootFields_of_read hread

theorem sound_commit {device : CalibrationDevice cfg Sum}
    (hsound : device.Sound readable) (locked queued : Bool) :
    (device.step ops (.commitCalibration locked queued)).Sound readable := by
  simp only [step, PersonalizationService.commitCalibration]
  split_ifs
  · exact hsound
  · exact hsound
  · exact hsound
  · exact hsound
  · exact ⟨hsound.version, rfl, fun _ _ hclean => by cases hclean⟩

theorem sound_step (device : CalibrationDevice cfg Sum)
    (call : CalibrationCall cfg) (hsound : device.Sound readable)
    (hreads : readable → device.ReadsFlash call) :
    (device.step ops call).Sound readable := by
  obtain ⟨service, blob⟩ := device
  cases call with
  | boot env => exact sound_boot hreads
  | startCalibration =>
      simp only [step, PersonalizationService.startCalibration]
      split
      · exact hsound
      · exact ⟨hsound.version, hsound.snapshot, hsound.clean⟩
  | captureWindow features label =>
      simp only [step, PersonalizationService.captureWindow]
      cases features with
      | none => exact hsound
      | some features =>
          dsimp only
          split_ifs
          all_goals exact ⟨hsound.version, hsound.snapshot, hsound.clean⟩
  | commitCalibration locked queued => exact sound_commit hsound locked queued
  | resetCalibration locked flushLocked put =>
      simp only [step, PersonalizationService.resetCalibration]
      split_ifs
      · exact hsound
      · exact hsound
      · have hreset : (mk { service with
            data := .defaults cfg
            dirty := true
            calibrating := false }.publishSnapshot blob).Sound readable :=
          ⟨rfl, rfl, fun _ _ hclean => by cases hclean⟩
        exact sound_forceFlush hreset flushLocked put
  | updateSensorBaseline locked queued mean sigma dynamicRange =>
      simp only [step, PersonalizationService.updateSensorBaseline]
      split_ifs
      · exact hsound
      · exact hsound
      · exact ⟨hsound.version, rfl, fun _ _ hclean => by cases hclean⟩
  | forceFlush locked put => exact sound_forceFlush hsound locked put
  | shutdown locked put =>
      have hclosed : ∀ {service : PersonalizationService cfg Sum} {blob},
          (mk service blob).Sound readable →
          (mk { service with
            workerRunning := false
            workerTask := false
            initialized := false } blob).Sound readable :=
        fun hsound => ⟨hsound.version, hsound.snapshot,
          fun _ habsurd => by cases habsurd⟩
      simp only [step, PersonalizationService.shutdown]
      split_ifs
      · exact hsound
      · exact hclosed (sound_forceFlush hsound locked put)
      · exact hclosed hsound
  | commitTimer =>
      simp only [step, PersonalizationService.commitTimerCallback]
      split
      · exact ⟨hsound.version, hsound.snapshot, hsound.clean⟩
      · exact hsound
  | workerSave locked put =>
      have htaken : (mk { service with saveNotified := false } blob).Sound
          readable := ⟨hsound.version, hsound.snapshot, hsound.clean⟩
      simp only [step, PersonalizationService.workerSave]
      split_ifs
      · exact sound_write htaken put
      · exact htaken
      · exact hsound
  | workerExit =>
      simp only [step, PersonalizationService.workerExit]
      split
      · exact hsound
      · exact ⟨hsound.version, hsound.snapshot, hsound.clean⟩

theorem sound_start (ops : FloatArithmetic Sum) (blob : CalibrationBlob) :
    (start ops blob : CalibrationDevice cfg Sum).Sound readable :=
  ⟨rfl, rfl, fun _ habsurd => by cases habsurd⟩

theorem sound_run (hreads : Guarded (step ops) ReadsFlash
      (start ops blob : CalibrationDevice cfg Sum) calls) :
    (run (step ops) (start ops blob) calls).Sound True :=
  invariant_run (fun device call hsound hread =>
    sound_step device call hsound fun _ => hread) (sound_start ops blob) hreads

/-- Over any run whose boots can read the flash, with any locks lost and any
saves failed: whenever the service is up and not dirty, a reset and a boot give
the readers back what they see. -/
theorem clean_calibration_survives_reset (ops : FloatArithmetic Sum)
    (blob : CalibrationBlob) (calls : List (CalibrationCall cfg))
    (hreads : Guarded (step ops) ReadsFlash (start ops blob) calls)
    (hup : (run (step ops) (start ops blob) calls).service.initialized = true)
    (hclean : (run (step ops) (start ops blob) calls).service.dirty = false) :
    (run (step ops) (start ops blob)
        (calls ++ [.boot ⟨true, true, true, true⟩])).service.snapshot.fields =
      (run (step ops) (start ops blob) calls).service.snapshot.fields := by
  have hsound := sound_run hreads
  rw [run_append]
  generalize run (step ops) (start ops blob) calls = device at *
  have hboot : (device.step ops (.boot ⟨true, true, true, true⟩)).Sound
      True := sound_boot fun _ => .inl rfl
  have hloaded : (device.step ops
      (.boot ⟨true, true, true, true⟩)).service.data.fields =
        bootFields cfg device.blob := by
    simp only [step, PersonalizationService.init, bootFields,
      PersonalizationService.construct]
    cases PersonalizationService.readFromNvs cfg device.blob true <;> rfl
  calc
    (device.step ops (.boot ⟨true, true, true, true⟩)).service.snapshot.fields
        = bootFields cfg device.blob := hboot.snapshot.trans hloaded
    _ = device.service.data.fields := hsound.clean trivial hup hclean
    _ = device.service.snapshot.fields := hsound.snapshot.symm

/-! ## What is still to be saved -/

/-- The worker is up, and a change that is not in flash has its save ahead. -/
structure Scheduled (device : CalibrationDevice cfg Sum) : Prop where
  running : device.service.initialized = true →
    device.service.workerRunning = true
  task : device.service.initialized = true → device.service.workerTask = true
  alive : device.service.initialized = true →
    device.service.workerAlive = true
  pending : device.service.initialized = true → device.service.dirty = true →
    device.service.timerActive = true ∨ device.service.saveNotified = true

theorem scheduled_flushed (hscheduled : (mk service blob).Scheduled) :
    (mk (service.forceFlush blob true .written).1
      (service.forceFlush blob true .written).2.1).Scheduled := by
  unfold PersonalizationService.forceFlush
  split
  · exact hscheduled
  · exact ⟨hscheduled.running, hscheduled.task, hscheduled.alive,
      fun _ hdirty => by cases hdirty⟩

theorem scheduled_boot (device : CalibrationDevice cfg Sum)
    (env : CalibrationBoot) : (device.step ops (.boot env)).Scheduled := by
  have hdown : ∀ {service : PersonalizationService cfg Sum},
      service.initialized = false → (mk service device.blob).Scheduled := by
    intro service hdown
    constructor <;> intro hup <;> rw [hdown] at hup <;> cases hup
  simp only [step, PersonalizationService.init,
    PersonalizationService.construct, Bool.false_eq_true, if_false]
  split_ifs
  · exact hdown rfl
  · exact hdown rfl
  · exact hdown (by split <;> rfl)
  · refine ⟨fun _ => rfl, fun _ => rfl, fun _ => rfl, fun _ hdirty => ?_⟩
    split at hdirty <;> cases hdirty

theorem scheduled_step (device : CalibrationDevice cfg Sum)
    (call : CalibrationCall cfg) (hscheduled : device.Scheduled)
    (hsaves : device.SavesSucceed call) :
    (device.step ops call).Scheduled := by
  obtain ⟨service, blob⟩ := device
  obtain ⟨hrunning, htask, halive, hpending⟩ := hscheduled
  cases call with
  | boot env => exact scheduled_boot _ env
  | startCalibration =>
      simp only [step, PersonalizationService.startCalibration]
      split
      · exact ⟨hrunning, htask, halive, hpending⟩
      · exact ⟨hrunning, htask, halive, hpending⟩
  | captureWindow features label =>
      simp only [step, PersonalizationService.captureWindow]
      cases features with
      | none => exact ⟨hrunning, htask, halive, hpending⟩
      | some features =>
          dsimp only
          split_ifs
          all_goals exact ⟨hrunning, htask, halive, hpending⟩
  | commitCalibration locked queued =>
      simp only [step, PersonalizationService.commitCalibration]
      split_ifs with _ _ _ hlocked
      · exact ⟨hrunning, htask, halive, hpending⟩
      · exact ⟨hrunning, htask, halive, hpending⟩
      · exact ⟨hrunning, htask, halive, hpending⟩
      · exact ⟨hrunning, htask, halive, hpending⟩
      · have hqueued : queued = true := hsaves (by simpa using hlocked)
        exact ⟨hrunning, htask, halive, fun _ _ => .inl (by simp [hqueued])⟩
  | resetCalibration locked flushLocked put =>
      obtain ⟨rfl, rfl⟩ := hsaves
      simp only [step, PersonalizationService.resetCalibration]
      split_ifs with hdown
      · exact ⟨hrunning, htask, halive, hpending⟩
      · exact ⟨hrunning, htask, halive, hpending⟩
      · have hup : service.initialized = true := by simpa using hdown
        simp only [PersonalizationService.forceFlush,
          PersonalizationService.publishSnapshot, hup, Bool.not_true,
          Bool.or_self, Bool.false_eq_true, if_false, if_true]
        exact ⟨fun _ => hrunning hup, fun _ => htask hup,
          fun _ => halive hup, fun _ hdirty => by cases hdirty⟩
  | updateSensorBaseline locked queued mean sigma dynamicRange =>
      simp only [step, PersonalizationService.updateSensorBaseline]
      split_ifs with _ hlocked
      · exact ⟨hrunning, htask, halive, hpending⟩
      · exact ⟨hrunning, htask, halive, hpending⟩
      · have hqueued : queued = true := hsaves (by simpa using hlocked)
        exact ⟨hrunning, htask, halive, fun _ _ => .inl (by simp [hqueued])⟩
  | forceFlush locked put =>
      obtain ⟨rfl, rfl⟩ := hsaves
      exact scheduled_flushed ⟨hrunning, htask, halive, hpending⟩
  | shutdown locked put =>
      simp only [step, PersonalizationService.shutdown]
      split
      · exact ⟨hrunning, htask, halive, hpending⟩
      · constructor <;> intro habsurd <;> cases habsurd
  | commitTimer =>
      simp only [step, PersonalizationService.commitTimerCallback]
      split
      · refine ⟨hrunning, htask, halive, fun hup _ => .inr ?_⟩
        have hnotified : service.workerTask = true := htask hup
        simp [hnotified]
      · exact ⟨hrunning, htask, halive, hpending⟩
  | workerSave locked put =>
      obtain ⟨rfl, rfl⟩ := hsaves
      simp only [step, PersonalizationService.workerSave]
      split
      · exact ⟨hrunning, htask, halive, fun _ hdirty => by cases hdirty⟩
      · exact ⟨hrunning, htask, halive, hpending⟩
  | workerExit =>
      simp only [step, PersonalizationService.workerExit]
      split
      · exact ⟨hrunning, htask, halive, hpending⟩
      · next hstopped =>
          have hdown : ¬service.initialized = true :=
            fun hup => hstopped (hrunning hup)
          exact ⟨fun hup => absurd hup hdown, fun hup => absurd hup hdown,
            fun hup => absurd hup hdown, fun hup => absurd hup hdown⟩

/-- The timer fires, and the worker takes its notification. -/
theorem saved_after_timer {device : CalibrationDevice cfg Sum}
    (hsound : device.Sound True) (hscheduled : device.Scheduled)
    (hup : device.service.initialized = true) :
    bootFields cfg (run (step ops) device
        [.commitTimer, .workerSave true .written]).blob =
      device.service.snapshot.fields := by
  obtain ⟨service, blob⟩ := device
  have hstored : bootFields cfg
      (some ((MLCalibrationData.codec cfg).encode service.data.sealed)) =
        service.data.fields := bootFields_sealed service.data hsound.version
  have halive : service.workerAlive = true := hscheduled.alive hup
  have htask : service.workerTask = true := hscheduled.task hup
  rw [hsound.snapshot]
  simp only [run_cons, run_nil, step,
    PersonalizationService.commitTimerCallback,
    PersonalizationService.workerSave]
  split
  · simp only [halive, htask, Bool.or_true, Bool.and_self, if_true]
    exact hstored
  · next hidle =>
      simp only [halive, Bool.true_and, if_true]
      split
      · exact hstored
      · next hquiet =>
          have hclean : service.dirty = false := by
            by_contra hdirty
            rcases hscheduled.pending hup (by simpa using hdirty) with
              hactive | hnotified
            · exact hidle hactive
            · exact hquiet hnotified
          exact hsound.clean trivial hup hclean

/-- Windows of one feature, summed and divided as numbers. -/
def wholeNumbers : FloatArithmetic ℕ where
  zero := 0
  add sum value := sum + value.toNat
  divide sum count := UInt32.ofNat (sum / count)

/-- One class is calibrated, and its save is left to the worker. -/
def oneClass : List (CalibrationCall ⟨1, 1, 1, 1, 5⟩) :=
  [.boot ⟨true, true, true, true⟩, .startCalibration,
    .captureWindow (some #v[4]) .idle, .captureWindow (some #v[8]) .idle,
    .commitCalibration true true]

theorem clean_calibration_survives_reset_oneClass :
    let calls := oneClass ++ [.commitTimer, .workerSave true .written]
    (run (step wholeNumbers) (start wholeNumbers none)
        (calls ++ [.boot ⟨true, true, true, true⟩])).service.snapshot.fields =
      (run (step wholeNumbers) (start wholeNumbers none)
        calls).service.snapshot.fields :=
  clean_calibration_survives_reset _ _ _ (by decide) (by decide) (by decide)

end CalibrationDevice

end SensorFirmware
