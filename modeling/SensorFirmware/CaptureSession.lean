import SensorFirmware.CalibrationDurability

/-!
# Prototypes

What a capture session leaves behind is read off the windows captured in it: a
commit makes the prototype of the last label from the windows captured in a row
for that label, whatever the timer, the worker and the sensor task do in
between.  Over all runs, the count of calibrated classes is that of the classes
that have a prototype.
-/

namespace SensorFirmware

open GuardedRun

variable {cfg : PersonalizationConfig} {Sum : Type}

/-! ## What has been captured -/

/-- A label that has a prototype. -/
def IsClass (cfg : PersonalizationConfig) (label : GestureLabel) : Prop :=
  label ≠ .invalid ∧ label ≠ .unlabeled ∧ label.toByte < cfg.numClasses

instance (cfg : PersonalizationConfig) (label : GestureLabel) :
    Decidable (IsClass cfg label) :=
  inferInstanceAs (Decidable (_ ∧ _))

/-- The window that a call hands in. -/
def CalibrationCall.captured : CalibrationCall cfg →
    Option (GestureLabel × FeatureVector cfg)
  | .captureWindow (some features) label =>
      if IsClass cfg label then some (label, features) else none
  | _ => none

def lastLabel (captures : List (GestureLabel × FeatureVector cfg)) :
    GestureLabel :=
  (captures.getLast?.map Prod.fst).getD .invalid

/-- The windows captured last, all for one label. -/
def lastRun (captures : List (GestureLabel × FeatureVector cfg)) :
    List (FeatureVector cfg) :=
  (captures.reverse.takeWhile
    (·.1 = lastLabel captures)).reverse.map Prod.snd

/-- Those of a run that are accepted. -/
def accepted (cfg : PersonalizationConfig)
    (windows : List (FeatureVector cfg)) : List (FeatureVector cfg) :=
  windows.take cfg.maxCalibrationWindows.toNat

@[simp] theorem lastLabel_concat
    (captures : List (GestureLabel × FeatureVector cfg))
    (capture : GestureLabel × FeatureVector cfg) :
    lastLabel (captures ++ [capture]) = capture.1 := by
  simp [lastLabel]

theorem lastRun_concat
    (captures : List (GestureLabel × FeatureVector cfg))
    (label : GestureLabel) (window : FeatureVector cfg) :
    lastRun (captures ++ [(label, window)]) =
      if lastLabel captures = label then lastRun captures ++ [window]
      else [window] := by
  unfold lastRun
  rw [lastLabel_concat, List.reverse_append, List.reverse_singleton,
    List.singleton_append, List.takeWhile_cons_of_pos (by simp)]
  split
  next hsame => simp [hsame]
  next hother =>
    have hnone : captures.reverse.takeWhile (·.1 = label) = [] := by
      cases captures using List.reverseRecOn with
      | nil => rfl
      | append_singleton captures capture =>
          rw [lastLabel_concat] at hother
          simp [hother]
    simp [hnone]

/-- The mean of windows, feature by feature, in the arithmetic of the sums. -/
def meanWindow (ops : FloatArithmetic Sum)
    (windows : List (FeatureVector cfg)) : FeatureVector cfg :=
  (windows.foldl (Vector.zipWith ops.add)
    (Vector.replicate _ ops.zero)).map fun sum =>
      ops.divide sum windows.length

/-! ## The accumulator -/

namespace CaptureAccum

/-- The accumulator holds the accepted windows of a run for this label. -/
structure Holds (ops : FloatArithmetic Sum) (accum : CaptureAccum cfg Sum)
    (label : GestureLabel) (windows : List (FeatureVector cfg)) : Prop where
  label : accum.label = label
  count : accum.count.toNat = (accepted cfg windows).length
  featureSum : accum.featureSum = (accepted cfg windows).foldl
    (Vector.zipWith ops.add) (Vector.replicate _ ops.zero)

variable {ops : FloatArithmetic Sum} {accum : CaptureAccum cfg Sum}
  {label : GestureLabel} {windows : List (FeatureVector cfg)}

theorem holds_nil (ops : FloatArithmetic Sum) (label : GestureLabel) :
    (⟨Vector.replicate _ ops.zero, 0, label⟩ :
      CaptureAccum cfg Sum).Holds ops label [] where
  label := rfl
  count := by simp [accepted]
  featureSum := by simp [accepted]

theorem Holds.count_lt_iff (hholds : accum.Holds ops label windows) :
    accum.count < cfg.maxCalibrationWindows ↔
      windows.length < cfg.maxCalibrationWindows.toNat := by
  rw [UInt16.lt_iff_toNat_lt, hholds.count, accepted, List.length_take]
  omega

/-- One more window is added, unless the accumulator is full. -/
def add (ops : FloatArithmetic Sum) (accum : CaptureAccum cfg Sum)
    (window : FeatureVector cfg) : CaptureAccum cfg Sum :=
  if cfg.maxCalibrationWindows ≤ accum.count then accum
  else
    { accum with
      featureSum := accum.featureSum.zipWith ops.add window
      count := accum.count + 1 }

theorem Holds.add (hholds : accum.Holds ops label windows)
    (window : FeatureVector cfg) :
    (accum.add ops window).Holds ops label (windows ++ [window]) := by
  unfold CaptureAccum.add
  split
  next hfull =>
    have hlong : cfg.maxCalibrationWindows.toNat ≤ windows.length := by
      rw [← not_lt, ← hholds.count_lt_iff]
      exact UInt16.not_lt.mpr hfull
    have hsame : accepted cfg (windows ++ [window]) = accepted cfg windows :=
      List.take_append_of_le_length hlong
    refine ⟨hholds.label, ?_, ?_⟩
    · rw [hsame, hholds.count]
    · rw [hsame, hholds.featureSum]
  next hroom =>
    have hshort : windows.length < cfg.maxCalibrationWindows.toNat :=
      hholds.count_lt_iff.mp (UInt16.not_le.mp hroom)
    have hold : accepted cfg windows = windows :=
      List.take_of_length_le hshort.le
    have hnew : accepted cfg (windows ++ [window]) = windows ++ [window] := by
      apply List.take_of_length_le
      rw [List.length_append, List.length_singleton]
      omega
    refine ⟨hholds.label, ?_, ?_⟩
    · have hcount := hholds.count
      have hmax := cfg.maxCalibrationWindows.toNat_lt
      rw [hold] at hcount
      rw [hnew, List.length_append, List.length_singleton, UInt16.toNat_add,
        hcount]
      exact Nat.mod_eq_of_lt (by simp only [UInt16.toNat_one]; omega)
    · rw [hnew, List.foldl_append, hholds.featureSum, hold]
      rfl

end CaptureAccum

namespace PersonalizationService

variable {ops : FloatArithmetic Sum} {service : PersonalizationService cfg Sum}
  {captures : List (GestureLabel × FeatureVector cfg)} {label : GestureLabel}

theorem captureWindow_eq (hcalibrating : service.calibrating = true)
    (hclass : IsClass cfg label) (window : FeatureVector cfg) :
    (service.captureWindow ops (some window) label).1 =
      { service with captureAccum :=
          (if service.captureAccum.label ≠ label then
            ⟨Vector.replicate _ ops.zero, 0, label⟩
          else service.captureAccum).add ops window } := by
  obtain ⟨hinvalid, hunlabeled, hlt⟩ := hclass
  simp only [captureWindow, hcalibrating, hinvalid, hunlabeled,
    UInt8.not_le.mpr hlt, Bool.not_true, Bool.false_eq_true, or_self,
    if_false]
  generalize (if service.captureAccum.label ≠ label then
    (⟨Vector.replicate _ ops.zero, 0, label⟩ : CaptureAccum cfg Sum)
    else service.captureAccum) = accum
  unfold CaptureAccum.add
  split <;> rw [← hcalibrating]

/-- Nothing is added for a label without a class. -/
theorem captureWindow_refused (hclass : ¬IsClass cfg label)
    (window : FeatureVector cfg) :
    (service.captureWindow ops (some window) label).1 = service := by
  unfold captureWindow
  by_cases hidle : service.calibrating = true
  · by_cases hlabel : label = .invalid ∨ label = .unlabeled
    · simp [hidle, hlabel]
    · have hbound : cfg.numClasses ≤ label.toByte := by
        rw [not_or] at hlabel
        by_contra hlt
        exact hclass ⟨hlabel.1, hlabel.2, UInt8.not_le.mp hlt⟩
      simp [hidle, hlabel, hbound]
  · simp [hidle]

theorem holds_captureWindow (hcalibrating : service.calibrating = true)
    (hholds : service.captureAccum.Holds ops (lastLabel captures)
      (lastRun captures))
    (hclass : IsClass cfg label) (window : FeatureVector cfg) :
    (service.captureWindow ops (some window) label).1.captureAccum.Holds ops
      label (lastRun (captures ++ [(label, window)])) := by
  rw [captureWindow_eq hcalibrating hclass, lastRun_concat, hholds.label]
  by_cases hsame : lastLabel captures = label
  · rw [if_pos hsame, if_neg (not_not.mpr hsame)]
    rw [hsame] at hholds
    exact hholds.add window
  · rw [if_neg hsame, if_pos hsame]
    exact (CaptureAccum.holds_nil ops label).add window

end PersonalizationService

/-! ## A session -/

/-- What may happen between the start of a capture and its commit. -/
def CalibrationCall.Quiet : CalibrationCall cfg → Prop
  | .captureWindow _ _ | .updateSensorBaseline _ _ _ _ _ | .forceFlush _ _ |
      .commitTimer | .workerSave _ _ | .workerExit => True
  | _ => False

namespace CalibrationDevice

variable {ops : FloatArithmetic Sum} {device : CalibrationDevice cfg Sum}
  {calls : List (CalibrationCall cfg)} {classIdx : UInt8}

/-- A session is open, and the prototypes are those of `before`. -/
structure Capturing (ops : FloatArithmetic Sum)
    (before : CalibrationFields cfg)
    (captures : List (GestureLabel × FeatureVector cfg))
    (device : CalibrationDevice cfg Sum) : Prop where
  up : device.service.initialized = true
  calibrating : device.service.calibrating = true
  prototypes : device.service.data.fields.prototypes = before.prototypes
  counts : device.service.data.fields.sampleCounts = before.sampleCounts
  holds : device.service.captureAccum.Holds ops (lastLabel captures)
    (lastRun captures)

theorem capturing_captureWindow {before : CalibrationFields cfg}
    {captures : List (GestureLabel × FeatureVector cfg)}
    (hopen : Capturing ops before captures device)
    (features : Option (FeatureVector cfg)) (label : GestureLabel) :
    Capturing ops before
      (captures ++ (CalibrationCall.captureWindow features label).captured.toList)
      (device.step ops (.captureWindow features label)) := by
  cases features with
  | none =>
      simp only [CalibrationCall.captured, Option.toList_none,
        List.append_nil]
      exact hopen
  | some window =>
      by_cases hclass : IsClass cfg label
      · have hholds := PersonalizationService.holds_captureWindow
          hopen.calibrating hopen.holds hclass window
        simp only [CalibrationCall.captured, hclass, if_true,
          Option.toList_some, step]
        refine ⟨?_, ?_, ?_, ?_, ?_⟩
        · rw [PersonalizationService.captureWindow_eq hopen.calibrating hclass]
          exact hopen.up
        · rw [PersonalizationService.captureWindow_eq hopen.calibrating hclass]
          exact hopen.calibrating
        · rw [PersonalizationService.captureWindow_eq hopen.calibrating hclass]
          exact hopen.prototypes
        · rw [PersonalizationService.captureWindow_eq hopen.calibrating hclass]
          exact hopen.counts
        · rw [lastLabel_concat]
          exact hholds
      · simp only [CalibrationCall.captured, hclass, if_false,
          Option.toList_none, List.append_nil, step,
          PersonalizationService.captureWindow_refused hclass]
        exact hopen

theorem capturing_step {before : CalibrationFields cfg}
    {captures : List (GestureLabel × FeatureVector cfg)}
    (hopen : Capturing ops before captures device)
    {call : CalibrationCall cfg} (hquiet : call.Quiet) :
    Capturing ops before (captures ++ call.captured.toList)
      (device.step ops call) := by
  obtain ⟨hup, hcalibrating, hprototypes, hcounts, hholds⟩ := hopen
  cases call with
  | captureWindow features label =>
      exact capturing_captureWindow
        ⟨hup, hcalibrating, hprototypes, hcounts, hholds⟩ features label
  | updateSensorBaseline locked queued mean sigma dynamicRange =>
      simp only [CalibrationCall.captured, Option.toList_none,
        List.append_nil, step, PersonalizationService.updateSensorBaseline]
      split_ifs
      all_goals exact ⟨hup, hcalibrating, hprototypes, hcounts, hholds⟩
  | forceFlush locked put =>
      simp only [CalibrationCall.captured, Option.toList_none,
        List.append_nil, step, PersonalizationService.forceFlush]
      split_ifs
      · exact ⟨hup, hcalibrating, hprototypes, hcounts, hholds⟩
      · cases put <;> exact ⟨hup, hcalibrating, hprototypes, hcounts, hholds⟩
      · exact ⟨hup, hcalibrating, hprototypes, hcounts, hholds⟩
  | commitTimer =>
      simp only [CalibrationCall.captured, Option.toList_none,
        List.append_nil, step, PersonalizationService.commitTimerCallback]
      split
      all_goals exact ⟨hup, hcalibrating, hprototypes, hcounts, hholds⟩
  | workerSave locked put =>
      simp only [CalibrationCall.captured, Option.toList_none,
        List.append_nil, step, PersonalizationService.workerSave]
      split_ifs
      · cases put <;> exact ⟨hup, hcalibrating, hprototypes, hcounts, hholds⟩
      · exact ⟨hup, hcalibrating, hprototypes, hcounts, hholds⟩
      · exact ⟨hup, hcalibrating, hprototypes, hcounts, hholds⟩
  | workerExit =>
      simp only [CalibrationCall.captured, Option.toList_none,
        List.append_nil, step, PersonalizationService.workerExit]
      split
      all_goals exact ⟨hup, hcalibrating, hprototypes, hcounts, hholds⟩
  | boot | startCalibration | commitCalibration | resetCalibration |
      shutdown => exact absurd hquiet id

theorem capturing_run {before : CalibrationFields cfg}
    {captures : List (GestureLabel × FeatureVector cfg)}
    (hopen : Capturing ops before captures device)
    (hquiet : ∀ call ∈ calls, call.Quiet) :
    Capturing ops before
      (captures ++ calls.filterMap CalibrationCall.captured)
      (run (step ops) device calls) := by
  induction calls generalizing device captures with
  | nil => simpa using hopen
  | cons call calls ih =>
      have hnext := capturing_step hopen (hquiet call List.mem_cons_self)
      have hrest := ih hnext fun other hother =>
        hquiet other (List.mem_cons_of_mem _ hother)
      have hcaptured : (call :: calls).filterMap CalibrationCall.captured =
          call.captured.toList ++
            calls.filterMap CalibrationCall.captured := by
        cases hcall : call.captured <;> simp [hcall]
      rw [hcaptured, ← List.append_assoc]
      exact hrest

/-- A session begins with nothing captured. -/
theorem capturing_start (hup : device.service.initialized = true) :
    Capturing ops device.service.data.fields []
      (device.step ops .startCalibration) := by
  simp only [step, PersonalizationService.startCalibration, hup,
    Bool.not_true, Bool.false_eq_true, if_false]
  exact ⟨rfl, rfl, rfl, rfl, CaptureAccum.holds_nil ops .invalid⟩

theorem isClass_captured {calls : List (CalibrationCall cfg)}
    {capture : GestureLabel × FeatureVector cfg}
    (hmem : capture ∈ calls.filterMap CalibrationCall.captured) :
    IsClass cfg capture.1 := by
  obtain ⟨call, -, hcaptured⟩ := List.mem_filterMap.mp hmem
  unfold CalibrationCall.captured at hcaptured
  split at hcaptured
  next features label =>
    obtain ⟨hclass, hcapture⟩ := Option.ite_none_right_eq_some.mp hcaptured
    cases hcapture
    exact hclass
  next => cases hcaptured

/-- Where something has been captured, the last label is that of a class. -/
theorem isClass_lastLabel {calls : List (CalibrationCall cfg)}
    (hsome : lastRun (calls.filterMap CalibrationCall.captured) ≠ []) :
    IsClass cfg (lastLabel (calls.filterMap CalibrationCall.captured)) := by
  have hall : ∀ capture ∈ calls.filterMap CalibrationCall.captured,
      IsClass cfg capture.1 := fun _ => isClass_captured
  generalize calls.filterMap CalibrationCall.captured = captures at *
  cases captures using List.reverseRecOn with
  | nil => exact absurd rfl hsome
  | append_singleton captures capture =>
      rw [lastLabel_concat]
      exact hall capture (by simp)

end CalibrationDevice

/-! ## The commit -/

namespace CalibrationFields

/-- What the readers get for a class. -/
def prototype (fields : CalibrationFields cfg) (classIdx : UInt8) :
    Option (FeatureVector cfg) :=
  if cfg.numClasses ≤ classIdx then none
  else if fields.sampleCounts.toList.getD classIdx.toNat 0 = 0 then none
  else fields.prototypes.toList[classIdx.toNat]?

end CalibrationFields

namespace PersonalizationService

variable {ops : FloatArithmetic Sum}

theorem getPrototype_eq (service : PersonalizationService cfg Sum)
    (classIdx : UInt8) :
    service.getPrototype classIdx =
      service.snapshot.fields.prototype classIdx := rfl

/-- The count that is stored for windows is not zero. -/
theorem storedCount_ne_zero {count : UInt16} (hpos : 0 < count) :
    (if 255 < count then 255 else count.toUInt8 : UInt8) ≠ 0 := by
  split
  next => decide
  next hsmall =>
    intro hzero
    have hlow := congrArg UInt8.toNat hzero
    rw [UInt16.toNat_toUInt8] at hlow
    have hbound := UInt16.le_iff_toNat_le.mp (UInt16.not_lt.mp hsmall)
    have hnone := UInt16.lt_iff_toNat_lt.mp hpos
    change count.toNat ≤ 255 at hbound
    change 0 < count.toNat at hnone
    change count.toNat % 256 = 0 at hlow
    omega

theorem prototype_storePrototype {accum : CaptureAccum cfg Sum}
    (fields : CalibrationFields cfg) (hpos : 0 < accum.count)
    (hclass : accum.label.toByte < cfg.numClasses) (classIdx : UInt8) :
    (storePrototype ops accum fields).prototype classIdx =
      if classIdx = accum.label.toByte then
        some (accum.featureSum.map fun sum =>
          ops.divide sum accum.count.toNat)
      else fields.prototype classIdx := by
  have hlt : accum.label.toByte.toNat < cfg.classes :=
    UInt8.lt_iff_toNat_lt.mp hclass
  by_cases hsame : classIdx = accum.label.toByte
  · subst hsame
    have hcount := storedCount_ne_zero hpos
    simp [CalibrationFields.prototype, storePrototype,
      UInt8.not_le.mpr hclass, hlt, hcount]
  · have hother : accum.label.toByte.toNat ≠ classIdx.toNat := by
      intro hidx
      exact hsame (UInt8.toNat_inj.mp hidx).symm
    simp [CalibrationFields.prototype, storePrototype, hsame, hother]

end PersonalizationService

namespace CalibrationDevice

variable {ops : FloatArithmetic Sum}

theorem published_run (blob : CalibrationBlob)
    (calls : List (CalibrationCall cfg)) :
    (run (step ops) (start ops blob) calls).Sound False :=
  invariant_run' (fun device call hsound =>
    sound_step device call hsound fun habsurd => habsurd.elim) calls
    (sound_start ops blob)

/-- From any state of any run with the service up: a session succeeds exactly
if the lock is obtained and the run of windows captured last, for one label, was
long enough, and then the prototype of that label is the mean of the accepted
ones while those of the others stay. -/
theorem commit_of_session (hmin : 0 < cfg.minCalibrationWindows)
    (blob : CalibrationBlob) (earlier calls : List (CalibrationCall cfg))
    (hup : (run (step ops) (start ops blob)
      earlier).service.initialized = true)
    (hquiet : ∀ call ∈ calls, call.Quiet) (locked queued : Bool) :
    let before := run (step ops) (start ops blob) earlier
    let session := run (step ops) before (.startCalibration :: calls)
    let captures := calls.filterMap CalibrationCall.captured
    let windows := accepted cfg (lastRun captures)
    let committed := session.service.commitCalibration ops locked queued
    (committed.2 = true ↔
        locked = true ∧
          cfg.minCalibrationWindows.toNat ≤ windows.length) ∧
      (committed.2 = true → ∀ classIdx,
        committed.1.getPrototype classIdx =
          if classIdx = (lastLabel captures).toByte then
            some (meanWindow ops windows)
          else before.service.getPrototype classIdx) := by
  intro before session captures windows committed
  have hopen : Capturing ops before.service.data.fields captures session :=
    capturing_run (capturing_start hup) hquiet
  have hbefore : before.service.snapshot.fields = before.service.data.fields :=
    (published_run blob earlier).snapshot
  have hholds := hopen.holds
  have hfew : session.service.captureAccum.count <
      cfg.minCalibrationWindows ↔
        windows.length < cfg.minCalibrationWindows.toNat := by
    rw [UInt16.lt_iff_toNat_lt, hholds.count]
  have hminNat : 0 < cfg.minCalibrationWindows.toNat :=
    UInt16.lt_iff_toNat_lt.mp hmin
  by_cases hlong : cfg.minCalibrationWindows.toNat ≤ windows.length
  · have hsome : lastRun captures ≠ [] := by
      intro hnone
      simp only [windows, hnone, accepted, List.take_nil,
        List.length_nil] at hlong
      omega
    have hclass : (lastLabel captures).toByte < cfg.numClasses :=
      (isClass_lastLabel hsome).2.2
    have henough : ¬session.service.captureAccum.count <
        cfg.minCalibrationWindows := mt hfew.mp (not_lt.mpr hlong)
    have hpos : 0 < session.service.captureAccum.count := by
      rw [UInt16.lt_iff_toNat_lt, hholds.count]
      exact hminNat.trans_le hlong
    rw [← hholds.label] at hclass
    have hlocked : committed.2 = locked ∧ (locked = true →
        committed.1.snapshot.fields = PersonalizationService.storePrototype
          ops session.service.captureAccum session.service.data.fields) := by
      simp only [committed, PersonalizationService.commitCalibration,
        hopen.up, hopen.calibrating, henough, UInt8.not_le.mpr hclass,
        Bool.not_true, Bool.or_self, Bool.false_eq_true, if_false]
      cases locked <;> exact ⟨rfl, by simp [PersonalizationService.publishSnapshot]⟩
    rw [hlocked.1]
    refine ⟨(and_iff_left hlong).symm, fun htaken classIdx => ?_⟩
    rw [PersonalizationService.getPrototype_eq, hlocked.2 htaken,
      PersonalizationService.prototype_storePrototype _ hpos hclass,
      hholds.label, hholds.featureSum, hholds.count,
      PersonalizationService.getPrototype_eq, hbefore]
    simp only [CalibrationFields.prototype, hopen.prototypes, hopen.counts]
    rfl
  · have hrefused : committed.2 = false := by
      have hshort := hfew.mpr (not_le.mp hlong)
      simp only [committed, PersonalizationService.commitCalibration,
        hopen.up, hopen.calibrating, hshort, Bool.not_true, Bool.or_self,
        Bool.false_eq_true, if_false, if_true]
    refine ⟨?_, fun htrue => ?_⟩
    · rw [hrefused]
      exact iff_of_false (by simp) fun hboth => hlong hboth.2
    · rw [hrefused] at htrue
      cases htrue

/-- Two windows for one class, with one for another label before them. -/
theorem commit_of_session_oneClass :
    let before := run (step wholeNumbers)
      (start wholeNumbers none : CalibrationDevice ⟨1, 2, 1, 2, 5⟩ ℕ)
      [.boot ⟨true, true, true, true⟩]
    let session := run (step wholeNumbers) before
      [.startCalibration, .captureWindow (some #v[9]) .idle,
        .captureWindow (some #v[4]) .approach, .commitTimer,
        .captureWindow (some #v[8]) .approach]
    (session.service.commitCalibration wholeNumbers true true).1.getPrototype
      1 = some #v[6] :=
  ((@commit_of_session ⟨1, 2, 1, 2, 5⟩ ℕ wholeNumbers (by decide) none
    [.boot ⟨true, true, true, true⟩]
    [.captureWindow (some #v[9]) .idle, .captureWindow (some #v[4]) .approach,
      .commitTimer, .captureWindow (some #v[8]) .approach]
    (by decide) (by simp [CalibrationCall.Quiet]) true true).2 (by decide)
      1).trans (by decide +kernel)

end CalibrationDevice

/-! ## The number of calibrated classes -/

namespace CalibrationFields

/-- The class count is that of the sample counts. -/
def Counted (fields : CalibrationFields cfg) : Prop :=
  fields.numCalibratedClasses =
    PersonalizationService.calibratedCount fields.sampleCounts

theorem counted_defaults (cfg : PersonalizationConfig) :
    (defaults cfg).Counted := by
  simp [Counted, defaults, PersonalizationService.calibratedCount,
    List.countP_replicate]

theorem counted_storePrototype (ops : FloatArithmetic Sum)
    (accum : CaptureAccum cfg Sum) (fields : CalibrationFields cfg) :
    (PersonalizationService.storePrototype ops accum fields).Counted := rfl

/-- A count that is not zero belongs to a class that the readers get. -/
theorem Counted.pos_iff {fields : CalibrationFields cfg}
    (hcounted : fields.Counted) :
    0 < fields.numCalibratedClasses ↔
      ∃ classIdx, (fields.prototype classIdx).isSome = true := by
  have hbound : fields.sampleCounts.toList.countP (fun count => 0 < count) <
      256 := by
    have hle : fields.sampleCounts.toList.countP (fun count => 0 < count) ≤
        fields.sampleCounts.toList.length := List.countP_le_length
    have hclasses := cfg.numClasses.toNat_lt
    rw [Vector.length_toList] at hle
    exact hle.trans_lt hclasses
  have hpos : 0 < fields.numCalibratedClasses ↔
      0 < fields.sampleCounts.toList.countP (fun count => 0 < count) := by
    have hcount : (PersonalizationService.calibratedCount
        fields.sampleCounts).toNat =
          fields.sampleCounts.toList.countP fun count => 0 < count :=
      UInt8.toNat_ofNat_of_lt hbound
    rw [hcounted, UInt8.lt_iff_toNat_lt, hcount]
    exact Iff.rfl
  rw [hpos, List.countP_pos_iff]
  constructor
  · rintro ⟨count, hmem, hcount⟩
    obtain ⟨i, hi, hget⟩ := List.getElem_of_mem hmem
    rw [Vector.length_toList] at hi
    have hsmall : i < 256 := hi.trans cfg.numClasses.toNat_lt
    have hidx : (UInt8.ofNat i).toNat = i := UInt8.toNat_ofNat_of_lt hsmall
    have hclass : ¬cfg.numClasses ≤ UInt8.ofNat i := by
      rw [UInt8.not_le, UInt8.lt_iff_toNat_lt, hidx]
      exact hi
    refine ⟨UInt8.ofNat i, ?_⟩
    have hne : count ≠ 0 := by
      rintro rfl
      simp at hcount
    have hstored : fields.sampleCounts.toList.getD i 0 = count := by
      rw [List.getD_eq_getElem?_getD,
        List.getElem?_eq_getElem (by rwa [Vector.length_toList]), hget]
      rfl
    simp only [prototype, hclass, hidx, hstored, hne, if_false]
    rw [List.getElem?_eq_getElem (by rwa [Vector.length_toList])]
    rfl
  · rintro ⟨classIdx, hsome⟩
    unfold prototype at hsome
    split_ifs at hsome with hclass hzero
    · cases hsome
    · cases hsome
    · have hlt : classIdx.toNat < fields.sampleCounts.toList.length := by
        rw [Vector.length_toList]
        exact UInt8.lt_iff_toNat_lt.mp (UInt8.not_le.mp hclass)
      rw [List.getD_eq_getElem?_getD, List.getElem?_eq_getElem hlt,
        Option.getD_some] at hzero
      refine ⟨fields.sampleCounts.toList[classIdx.toNat],
        List.getElem_mem hlt, ?_⟩
      simpa using UInt8.pos_iff_ne_zero.mpr hzero

end CalibrationFields

namespace CalibrationDevice

variable {ops : FloatArithmetic Sum}

/-- The counts agree in RAM and in what the flash gives to a boot. -/
structure CountsAgree (device : CalibrationDevice cfg Sum) : Prop where
  ram : device.service.data.fields.Counted
  flash : (bootFields cfg device.blob).Counted

variable {service : PersonalizationService cfg Sum} {blob : CalibrationBlob}

theorem countsAgree_write (service : PersonalizationService cfg Sum)
    (hversion : service.data.fields.version = cfg.calibrationVersion)
    (hagree : (mk service blob).CountsAgree) (put : NvsPut) :
    (mk (service.writeToNvs blob put).1
      (service.writeToNvs blob put).2.1).CountsAgree := by
  have hstored : (bootFields cfg (some
      ((MLCalibrationData.codec cfg).encode service.data.sealed))).Counted := by
    rw [bootFields_sealed service.data hversion]
    exact hagree.ram
  cases put with
  | openFailed => exact ⟨hagree.ram, hagree.flash⟩
  | failed stored =>
      cases stored with
      | false => exact ⟨hagree.ram, hagree.flash⟩
      | true => exact ⟨hagree.ram, hstored⟩
  | written => exact ⟨hagree.ram, hstored⟩

theorem countsAgree_forceFlush (hversion :
      service.data.fields.version = cfg.calibrationVersion)
    (hagree : (mk service blob).CountsAgree) (locked : Bool) (put : NvsPut) :
    (mk (service.forceFlush blob locked put).1
      (service.forceFlush blob locked put).2.1).CountsAgree := by
  have hstopped : (mk { service with timerActive := false }
      blob).CountsAgree := ⟨hagree.ram, hagree.flash⟩
  unfold PersonalizationService.forceFlush
  split
  · exact hagree
  · cases locked with
    | false => exact hstopped
    | true =>
        exact countsAgree_write { service with timerActive := false }
          hversion hstopped put

theorem countsAgree_boot {device : CalibrationDevice cfg Sum}
    (hflash : (bootFields cfg device.blob).Counted) (env : CalibrationBoot) :
    (device.step ops (.boot env)).CountsAgree := by
  have hread : ∀ d, PersonalizationService.readFromNvs cfg device.blob
      env.readOk = some d → d.fields.Counted := by
    intro d hd
    cases hok : env.readOk with
    | false =>
        rw [hok, readFromNvs_false] at hd
        cases hd
    | true =>
        rw [hok] at hd
        rw [← bootFields_of_read hd]
        exact hflash
  have hdefaults := CalibrationFields.counted_defaults cfg
  simp only [step, PersonalizationService.init,
    PersonalizationService.construct, Bool.false_eq_true, if_false]
  split_ifs
  · exact ⟨hdefaults, hflash⟩
  · exact ⟨hdefaults, hflash⟩
  all_goals
    cases hloaded : PersonalizationService.readFromNvs cfg device.blob
        env.readOk with
    | none => exact ⟨hdefaults, hflash⟩
    | some d => exact ⟨hread d hloaded, hflash⟩

theorem countsAgree_step (device : CalibrationDevice cfg Sum)
    (call : CalibrationCall cfg)
    (hboth : device.Sound False ∧ device.CountsAgree) :
    (device.step ops call).Sound False ∧
      (device.step ops call).CountsAgree := by
  refine ⟨sound_step device call hboth.1 fun habsurd => habsurd.elim, ?_⟩
  obtain ⟨service, blob⟩ := device
  obtain ⟨⟨hversion, -, -⟩, ⟨hram, hflash⟩⟩ := hboth
  cases call with
  | boot env => exact countsAgree_boot hflash env
  | startCalibration =>
      simp only [step, PersonalizationService.startCalibration]
      split
      all_goals exact ⟨hram, hflash⟩
  | captureWindow features label =>
      simp only [step, PersonalizationService.captureWindow]
      cases features with
      | none => exact ⟨hram, hflash⟩
      | some features =>
          dsimp only
          split_ifs
          all_goals exact ⟨hram, hflash⟩
  | commitCalibration locked queued =>
      simp only [step, PersonalizationService.commitCalibration]
      split_ifs
      · exact ⟨hram, hflash⟩
      · exact ⟨hram, hflash⟩
      · exact ⟨hram, hflash⟩
      · exact ⟨hram, hflash⟩
      · exact ⟨CalibrationFields.counted_storePrototype _ _ _, hflash⟩
  | resetCalibration locked flushLocked put =>
      simp only [step, PersonalizationService.resetCalibration]
      split_ifs
      · exact ⟨hram, hflash⟩
      · exact ⟨hram, hflash⟩
      · have hreset : (mk { service with
            data := .defaults cfg
            dirty := true
            calibrating := false }.publishSnapshot blob).CountsAgree :=
          ⟨CalibrationFields.counted_defaults cfg, hflash⟩
        exact countsAgree_forceFlush rfl hreset flushLocked put
  | updateSensorBaseline locked queued mean sigma dynamicRange =>
      simp only [step, PersonalizationService.updateSensorBaseline]
      split_ifs
      all_goals exact ⟨hram, hflash⟩
  | forceFlush locked put =>
      exact countsAgree_forceFlush hversion ⟨hram, hflash⟩ locked put
  | shutdown locked put =>
      simp only [step, PersonalizationService.shutdown]
      split_ifs
      · exact ⟨hram, hflash⟩
      · have hflushed :=
          countsAgree_forceFlush hversion ⟨hram, hflash⟩ locked put
        exact ⟨hflushed.ram, hflushed.flash⟩
      · exact ⟨hram, hflash⟩
  | commitTimer =>
      simp only [step, PersonalizationService.commitTimerCallback]
      split
      all_goals exact ⟨hram, hflash⟩
  | workerSave locked put =>
      have htaken : (mk { service with saveNotified := false }
          blob).CountsAgree := ⟨hram, hflash⟩
      simp only [step, PersonalizationService.workerSave]
      split_ifs
      · exact countsAgree_write { service with saveNotified := false }
          hversion htaken put
      · exact htaken
      · exact ⟨hram, hflash⟩
  | workerExit =>
      simp only [step, PersonalizationService.workerExit]
      split
      all_goals exact ⟨hram, hflash⟩

/-- Over any run, with any saves failed and any boots that cannot read the flash:
the service says that it is calibrated exactly if some class has a prototype for
its readers. -/
theorem isCalibrated_iff (ops : FloatArithmetic Sum) (blob : CalibrationBlob)
    (hblob : (bootFields cfg blob).Counted)
    (calls : List (CalibrationCall cfg)) :
    (run (step ops) (start ops blob) calls).service.isCalibrated = true ↔
      ∃ classIdx, ((run (step ops) (start ops blob)
        calls).service.getPrototype classIdx).isSome = true := by
  have hstart : (start ops blob : CalibrationDevice cfg Sum).CountsAgree :=
    ⟨CalibrationFields.counted_defaults cfg, hblob⟩
  have hboth : (run (step ops) (start ops blob) calls).Sound False ∧
      (run (step ops) (start ops blob) calls).CountsAgree :=
    invariant_run' countsAgree_step calls ⟨sound_start ops blob, hstart⟩
  obtain ⟨hsound, hagree⟩ := hboth
  have hcounted := hagree.ram
  rw [← hsound.snapshot] at hcounted
  rw [PersonalizationService.isCalibrated, decide_eq_true_iff]
  exact hcounted.pos_iff

/-- From an empty flash, with one class committed and not saved. -/
theorem isCalibrated_iff_oneClass :
    ∃ classIdx, ((run (step wholeNumbers) (start wholeNumbers none)
      oneClass).service.getPrototype classIdx).isSome = true :=
  (isCalibrated_iff wholeNumbers none (CalibrationFields.counted_defaults _)
    oneClass).mp (by decide)

end CalibrationDevice

end SensorFirmware
