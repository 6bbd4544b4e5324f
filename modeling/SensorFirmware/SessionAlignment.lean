import SensorFirmware.LoggerShape

/-!
# Alignment of session files

A write that is cut short leaves the front of a window in the session file, and
the logger task appends the windows behind it where that ends.  The extraction
finds all windows that were written in full, whatever they hold, exactly if each
of them starts at a multiple of the record size.
-/

namespace SensorFirmware

open ExtractWindows FixedRecords GuardedRun

/-! ## Windows at full scale -/

section FullScale

variable {cfg : MLConfig}

/-- The samples stored since the buffer was last emptied are at full scale. -/
def BufferFull (logger : DataLoggerService cfg) : Prop :=
  ∀ i < cfg.windowSize, i < logger.sampleIndex →
    logger.sampleBuf[i]? = some fullScale

theorem bufferFull_storeSample {logger : DataLoggerService cfg}
    (hfull : BufferFull logger) (env : SampleEnv) :
    BufferFull (logger.storeSample fullScale env) := by
  intro i hi hindex
  have hle : u8 (logger.sampleIndex + 1) ≤ logger.sampleIndex + 1 :=
    Nat.mod_le _ _
  have hlt : i < u8 (logger.sampleIndex + 1) := hindex
  change (logger.sampleBuf.setIfInBounds logger.sampleIndex fullScale)[i]? = _
  by_cases hlast : logger.sampleIndex = i
  · subst hlast
    exact Vector.getElem?_setIfInBounds_self_of_lt hi
  · rw [Vector.getElem?_setIfInBounds_ne hlast]
    exact hfull i hi (by omega)

theorem sampleBuf_filled (logger : DataLoggerService cfg)
    (sample : SampleRecord) (env : SampleEnv) :
    (logger.filled sample env).sampleBuf =
      (logger.storeSample sample env).sampleBuf := by
  rw [DataLoggerService.filled_eq]

theorem bufferFull_slideWindow {logger : DataLoggerService cfg}
    (hall : ∀ i < cfg.windowSize, logger.sampleBuf[i]? = some fullScale) :
    BufferFull logger.slideWindow := by
  intro i hi _
  unfold DataLoggerService.slideWindow
  split
  · have hold : logger.sampleBuf.get ⟨i, hi⟩ = fullScale := by
      have hsome := hall i hi
      rw [Vector.getElem?_eq_getElem hi] at hsome
      exact Option.some.inj hsome
    rw [Vector.getElem?_ofFn, dif_pos hi, hold]
    by_cases hnew : i + cfg.windowStride < cfg.windowSize
    · simp [hall _ hnew]
    · rw [Vector.getElem?_eq_none (not_lt.mp hnew)]
      rfl
  · exact hall i hi

/-- In a full buffer, all samples are at full scale. -/
theorem getElem?_filled {logger : DataLoggerService cfg}
    (hfull : BufferFull logger)
    (hindex : cfg.windowSize ≤ u8 (logger.sampleIndex + 1)) (env : SampleEnv)
    {i : ℕ} (hi : i < cfg.windowSize) :
    (logger.filled fullScale env).sampleBuf[i]? = some fullScale := by
  rw [sampleBuf_filled]
  exact bufferFull_storeSample hfull env i hi (hi.trans_le hindex)

theorem bufferFull_startSession {logger : DataLoggerService cfg}
    (hfull : BufferFull logger) (label : GestureLabel) :
    BufferFull (logger.startSession label).1 := by
  unfold DataLoggerService.startSession
  split_ifs
  · exact hfull
  · exact hfull
  · exact hfull
  · exact fun i _ hindex => absurd hindex (Nat.not_lt_zero i)

theorem bufferFull_step {logger : DataLoggerService cfg}
    (hfull : BufferFull logger) (event : LoggerEvent) :
    BufferFull (logger.step event.bare) := by
  cases event with
  | appendSample sample env =>
      unfold LoggerEvent.bare DataLoggerService.step
      dsimp only
      by_cases hindex : cfg.windowSize ≤ u8 (logger.sampleIndex + 1)
      · rw [DataLoggerService.appendSample_of_le hindex]
        apply bufferFull_slideWindow
        intro i hi
        rw [DataLoggerService.queueWindow_eq]
        exact getElem?_filled hfull hindex _ hi
      · rw [DataLoggerService.appendSample_of_lt (not_le.mp hindex)]
        exact bufferFull_storeSample hfull _
  | startSession label => exact bufferFull_startSession hfull _
  | stopSession =>
      unfold LoggerEvent.bare DataLoggerService.step
      rw [DataLoggerService.stopSession_eq]
      exact hfull
  | setRuntimeFlags flags => exact hfull
  | write outcome =>
      unfold LoggerEvent.bare DataLoggerService.step
        DataLoggerService.loggerTask
      dsimp only
      split
      · exact hfull
      · rw [DataLoggerService.processWrite_eq]
        exact hfull

/-- A finalised window of a logger whose samples and thresholds are at full
scale, without the time. -/
structure AtFullScale (window : SampleWindow cfg.windowSize) : Prop where
  finalised : window.Finalised
  startEpoch : window.header.startEpoch = 0
  wakeThreshold : window.header.wakeThreshold = 0xFFFF
  samples : window.samples.toList = List.replicate cfg.windowSize fullScale

theorem atFullScale_writeWindow {logger : DataLoggerService cfg}
    (hfull : BufferFull logger)
    (hindex : cfg.windowSize ≤ u8 (logger.sampleIndex + 1))
    (env : SampleEnv) :
    AtFullScale ((logger.filled fullScale env).writeWindow bareEnv) where
  finalised := DataLoggerService.finalised_writeWindow _ _
  startEpoch := rfl
  wakeThreshold := rfl
  samples := by
    apply List.ext_getElem?
    intro i
    have hbuf := fun hi => @getElem?_filled _ _ hfull hindex env i hi
    change (logger.filled fullScale env).sampleBuf.toList[i]? = _
    rw [Vector.getElem?_toList, List.getElem?_replicate]
    split
    next hi => exact hbuf hi
    next hi => exact Vector.getElem?_eq_none (not_lt.mp hi)

end FullScale

/-! ## Shifted windows -/

/-- The value of a window at full scale. -/
def markedValue (value : ExtractWindows.Header × List (ℕ × ℕ)) : Bool :=
  decide (value.1.sampleCount = windowSize ∧
    value.1.wakeThreshold = 0xFFFF ∧
      value.2 = List.replicate windowSize (0xFFFF, 0xFFFF))

def markedBlock (raw : List Byte) : Bool :=
  ((windowValue raw).map markedValue).getD false

/-- The bytes that tell a marked block from a shifted window. -/
structure MarkedBytes (raw : List Byte) : Prop where
  magic : raw[1]? = some 0x4D#8
  version : raw[2]? = some 0x01#8
  sampleCount : raw[3]? = some 0x28#8
  wakeThreshold : raw[18]? = some 0xFF#8
  samples : ∀ k, windowHeaderSize ≤ k → k < sampleWindowSize →
    raw[k]? = some 0xFF#8

theorem getElem?_samples {data : List Byte} (hdata : 160 ≤ data.length)
    (hsamples : parseSamples data windowSize =
      List.replicate windowSize (0xFFFF, 0xFFFF)) {k : ℕ} (hk : k < 160) :
    data[k]? = some 0xFF#8 := by
  have hindex : k / 4 < windowSize := by
    unfold windowSize
    omega
  have hsample := getElem?_parseSamples hdata hindex
  rw [hsamples, List.getElem?_replicate, if_pos hindex] at hsample
  obtain ⟨hproximity, hdt⟩ := Prod.ext_iff.mp (Option.some.inj hsample)
  have hbytes : ∀ j < 2, (leBytes 2 0xFFFF)[j]? = some 0xFF#8 := by decide
  by_cases hfirst : k % 4 < 2
  · have hbyte := PackedFields.getElem?_of_field hproximity.symm (by omega)
      hfirst
    rw [hbytes _ hfirst, Nat.div_add_mod] at hbyte
    exact hbyte
  · have hsecond : k % 4 - 2 < 2 := by omega
    have hbyte := PackedFields.getElem?_of_field hdt.symm (by omega)
      hsecond
    have hplace : 4 * (k / 4) + 2 + (k % 4 - 2) = k := by omega
    rw [hbytes _ hsecond, hplace] at hbyte
    exact hbyte

theorem markedBytes_of_marked {raw : List Byte}
    (hlength : raw.length = sampleWindowSize)
    (hmarked : markedBlock raw = true) : MarkedBytes raw := by
  unfold markedBlock windowValue at hmarked
  cases hkept : validateWindow raw with
  | none =>
      rw [hkept] at hmarked
      cases hmarked
  | some window =>
      rw [hkept] at hmarked
      obtain ⟨hcount, hwake, hsamples⟩ := of_decide_eq_true hmarked
      have haccepted := accepted_of_validateWindow hkept
      have hdata : 160 ≤
          ((raw.take sampleWindowSize).drop windowHeaderSize).length := by
        rw [List.length_drop, List.length_take, hlength, min_self]
        decide
      have hparsed := haccepted.samples
      rw [hcount] at hparsed
      have hfull := fun k => @getElem?_samples _ hdata
        (hparsed.symm.trans hsamples) k
      exact
        { magic := haccepted.getElem?_field 0 1 (by decide) (by decide) rfl
            (by decide) rfl haccepted.magic
          version := haccepted.getElem?_field 1 0 (by decide) (by decide) rfl
            (by decide) rfl haccepted.version
          sampleCount := haccepted.getElem?_field 2 0 (by decide) (by decide)
            rfl (by decide) rfl hcount
          wakeThreshold := haccepted.getElem?_field 9 0 (by decide)
            (by decide) rfl (by decide) rfl hwake
          samples := by
            intro k hlow hhigh
            have hrange : k - windowHeaderSize < 160 :=
              (Nat.sub_lt_iff_lt_add' hlow).mpr hhigh
            have hbyte := hfull (k - windowHeaderSize) hrange
            rw [List.getElem?_drop, Nat.add_sub_cancel' hlow,
              List.getElem?_take_of_lt hhigh] at hbyte
            exact hbyte }

section Tool

variable {stride depth period : ℕ}
  {window : SampleWindow (toolConfig stride depth period).windowSize}

theorem getElem?_toBytes {size : ℕ} (window : SampleWindow size) {k : ℕ}
    (hk : k < 28) :
    window.toBytes[k]? =
      (PackedFields.pack window.header.checkedFields)[k]? := by
  have hchecked := window.header.length_pack_checkedFields
  have hheader := window.header.length_toBytes
  rw [SampleWindow.toBytes, List.getElem?_append_left (by omega),
    window.header.toBytes_eq, List.getElem?_append_left (by omega)]

/-- Every window starts with the magic, and a marked one has two zero bytes
where a marked block that it overlaps has none. -/
theorem AtFullScale.bytes (hmarked : AtFullScale window) :
    window.toBytes[0]? = some 0x4C#8 ∧ window.toBytes[14]? = some 0x00#8 ∧
      window.toBytes[27]? = some 0x00#8 := by
  rw [getElem?_toBytes window (by omega), getElem?_toBytes window (by omega),
    getElem?_toBytes window (by omega)]
  unfold WindowHeader.checkedFields
  rw [hmarked.finalised.magic, hmarked.finalised.reserved1,
    hmarked.startEpoch]
  simp [leBytes, List.range_succ, toolConfig]

/-- What a write leaves of a marked window. -/
def FullScalePiece (cfg : MLConfig) (piece : List Byte) : Prop :=
  ∃ (window : SampleWindow cfg.windowSize) (written : ℕ),
    AtFullScale window ∧ piece = window.toBytes.take written

theorem distinctive_of_marked {raw : List Byte}
    (hlength : raw.length = sampleWindowSize)
    (hmarked : markedBlock raw = true) :
    Distinctive sampleWindowSize
      (FullScalePiece (toolConfig stride depth period)) raw := by
  rintro piece ⟨window, written, hwindow, rfl⟩ shift hpos hshift
  obtain ⟨hmagic, hepoch, hreserved⟩ := hwindow.bytes
  have hraw := markedBytes_of_marked hlength hmarked
  -- two bytes that differ at one place settle the shift
  have hdiffer (position : ℕ) {a b : Byte}
      (hwithin : shift + position < sampleWindowSize)
      (hpiece : window.toBytes[position]? = some a)
      (hblock : raw[shift + position]? = some b) (hne : a ≠ b) :
      ∃ position, shift + position < sampleWindowSize ∧
        ∀ c, (window.toBytes.take written)[position]? = some c →
          raw[shift + position]? ≠ some c := by
    refine ⟨position, hwithin, ?_⟩
    intro c hc hsame
    rw [List.getElem?_take] at hc
    split at hc
    · rw [hpiece] at hc
      rw [hblock] at hsame
      exact hne ((Option.some.inj hc).trans (Option.some.inj hsame).symm)
    · cases hc
  have hsize : sampleWindowSize = 192 := rfl
  have hheader : windowHeaderSize = 32 := rfl
  obtain rfl | rfl | rfl | rfl | hshort | hlong :
      shift = 1 ∨ shift = 2 ∨ shift = 3 ∨ shift = 4 ∨
        (5 ≤ shift ∧ shift < 32) ∨ 32 ≤ shift := by omega
  · exact hdiffer 0 hshift hmagic hraw.magic (by decide)
  · exact hdiffer 0 hshift hmagic hraw.version (by decide)
  · exact hdiffer 0 hshift hmagic hraw.sampleCount (by decide)
  · exact hdiffer 14 (by decide) hepoch hraw.wakeThreshold (by decide)
  · exact hdiffer 27 (by omega) hreserved
      (hraw.samples _ (by omega) (by omega)) (by decide)
  · exact hdiffer 0 hshift hmagic (hraw.samples _ hlong hshift) (by decide)

/-! ## Extraction and alignment -/

section Bare

variable {cfg : MLConfig} {path : String}

/-- A run of bare calls only makes windows at full scale. -/
theorem LoggerRun.recorded_bare {first : LoggerRun cfg}
    (hfirst : first.Recorded AtFullScale path)
    (hfull : BufferFull first.logger) (events : List LoggerEvent) :
    (run LoggerRun.step first (events.map LoggerEvent.bare)).Recorded
      AtFullScale path := by
  have hruns := @invariant_run' _ _
    (fun (run : LoggerRun cfg) event => run.step event.bare)
    (fun run => run.Recorded AtFullScale path ∧ BufferFull run.logger)
    (by
      rintro run event ⟨hrun, hfull⟩
      refine ⟨hrun.step ?_, bufferFull_step hfull event⟩
      intro sample env hevent hindex
      cases event with
      | appendSample =>
          cases hevent
          exact atFullScale_writeWindow hfull hindex _
      | startSession | stopSession | setRuntimeFlags | write => cases hevent)
    first events ⟨hfirst, hfull⟩
  unfold run
  rw [List.foldl_map]
  exact hruns.1

end Bare

theorem markedValue_extracted
    {window : SampleWindow (toolConfig stride depth period).windowSize}
    (hwindow : AtFullScale window) :
    markedValue (window.extracted.header, window.extracted.samples) =
      true := by
  have hcount : window.header.sampleCount.toNat = windowSize :=
    congrArg UInt8.toNat hwindow.finalised.sampleCount
  have hwake : window.header.wakeThreshold.toNat = 0xFFFF :=
    congrArg UInt16.toNat hwindow.wakeThreshold
  have hsamples : window.samples.toList.map SampleRecord.extracted =
      List.replicate windowSize (0xFFFF, 0xFFFF) := by
    rw [hwindow.samples, List.map_replicate]
    rfl
  exact decide_eq_true ⟨hcount, hwake, hsamples⟩

namespace LoggerRun

variable {run : LoggerRun (toolConfig stride depth period)} {path : String}

/-- Windows at full scale that are found have marked blocks. -/
theorem Recorded.length_saved_le (hrun : run.Recorded AtFullScale path)
    (hreturned : run.Returned path) :
    (run.saved path).length ≤
      (blocks sampleWindowSize
        (piecesOf path run.attempts).flatten).countP markedBlock := by
  have hmarked : ∀ value ∈ (run.saved path).map fun window =>
      (window.extracted.header, window.extracted.samples),
      markedValue value = true := by
    intro value hvalue
    obtain ⟨window, hwindow, rfl⟩ := List.mem_map.mp hvalue
    obtain ⟨tried, htried, rfl⟩ := List.mem_map.mp hwindow
    exact markedValue_extracted
      (hrun.tried tried (List.mem_of_mem_filter htried)).1
  have hfound := hreturned path
  rw [map_extractFile, hrun.file] at hfound
  calc
    (run.saved path).length
        = ((run.saved path).map fun window => (window.extracted.header,
            window.extracted.samples)).length := by rw [List.length_map]
    _ = ((run.saved path).map fun window => (window.extracted.header,
            window.extracted.samples)).countP markedValue :=
          (List.countP_eq_length.mpr hmarked).symm
    _ ≤ ((blocks sampleWindowSize
            (piecesOf path run.attempts).flatten).filterMap
          windowValue).countP markedValue := hfound.countP_le
    _ = _ := List.countP_filterMap

/-- If all windows at full scale are found, they start at multiples of the
record size. -/
theorem Recorded.aligned_of_returned (hrun : run.Recorded AtFullScale path)
    (hreturned : run.Returned path) :
    Aligned sampleWindowSize (piecesOf path run.attempts) := by
  have hpieces : ∀ piece ∈ piecesOf path run.attempts,
      FullScalePiece (toolConfig stride depth period) piece ∧
        piece.length ≤ sampleWindowSize := by
    intro piece hpiece
    refine ⟨?_, hrun.length_le hpiece⟩
    obtain ⟨tried, htried, rfl⟩ := List.mem_map.mp hpiece
    exact ⟨tried.1, tried.2,
      (hrun.tried tried (List.mem_of_mem_filter htried)).1, rfl⟩
  have hwhole : whole sampleWindowSize (piecesOf path run.attempts) =
      (run.saved path).map SampleWindow.toBytes := hrun.whole_piecesOf
  have hcount : (whole sampleWindowSize
      (piecesOf path run.attempts)).length ≤
        (blocks sampleWindowSize
          (piecesOf path run.attempts).flatten).countP markedBlock := by
    rw [hwhole, List.length_map]
    exact hrun.length_saved_le hreturned
  exact (aligned_of_length_le (by decide)
    (fun _ hlength hblock => distinctive_of_marked hlength hblock)
    hpieces).2 hcount

end LoggerRun

end Tool

namespace LoggerRun

/-- In a new file, the extraction finds the windows written in full, whatever the
samples are, exactly if each of them starts at a multiple of the record
size. -/
theorem session_file_round_trips_iff (stride depth period : ℕ)
    (mounted : Bool) (nextSessionId : UInt16) (bootCount : UInt8)
    {files : Spiffs} {path : String} (hnew : files.contents path = [])
    (events : List LoggerEvent) :
    (∀ others : List LoggerEvent,
      others.map LoggerEvent.bare = events.map LoggerEvent.bare →
        (run step (booted (toolConfig stride depth period) mounted
          nextSessionId bootCount files) others).Returned path) ↔
      Guarded step (StartsWhole path)
        (booted (toolConfig stride depth period) mounted nextSessionId
          bootCount files) events := by
  generalize hfirst : booted (toolConfig stride depth period) mounted
    nextSessionId bootCount files = first
  have hnone : first.attempts = [] := by
    rw [← hfirst]
    rfl
  have hstart (Good : SampleWindow _ → Prop) : first.Recorded Good path := by
    rw [← hfirst]
    exact recorded_start hnew rfl
  have hfull : BufferFull first.logger := by
    rw [← hfirst]
    exact fun i _ hindex => absurd hindex (Nat.not_lt_zero i)
  have hfinal := hstart SampleWindow.Finalised
  -- calls with other data meet the guard together
  have hbare (others : List LoggerEvent) :
      Guarded step (StartsWhole path) first others ↔
        Guarded step (StartsWhole path) first
          (others.map LoggerEvent.bare) :=
    @guarded_map_iff _ _ step (StartsWhole path) LoggerEvent.bare
      (fun run other => SameShape run.logger other.logger)
      (fun _ _ event hsame => hsame.step_bare event)
      (fun _ _ event hsame => hsame.startsWhole_bare event) _ _
      (SameShape.refl first.logger) others
  constructor
  · intro hreturned
    have hrun := recorded_bare (hstart AtFullScale) hfull events
    have haligned := hrun.aligned_of_returned
      (hreturned (events.map LoggerEvent.bare) (by simp))
    exact (hbare events).mpr
      ((hfinal.aligned_run_iff hnone (events.map LoggerEvent.bare)).mp
        haligned)
  · intro hguard others hothers
    have hsame : Guarded step (StartsWhole path) first others := by
      rw [hbare, hothers, ← hbare]
      exact hguard
    have hrun : (run step first others).Recorded SampleWindow.Finalised path :=
      invariant_run' (fun _ event hrun => hrun.finalised_step event) others
        hfinal
    exact hrun.returned ((hfinal.aligned_run_iff hnone others).mpr hsame)

end LoggerRun

/-! ## A write cut short -/

/-- A session of two windows, with the room that each write finds. -/
def twoWindows (first second : ℕ) : List LoggerEvent :=
  .startSession .idle ::
    List.replicate 50
        (.appendSample fullScale ⟨0, false, bareEnv, bareEnv⟩) ++
      [.write (.opened first), .write (.opened second)]

theorem two_whole_windows_return :
    Guarded LoggerRun.step (LoggerRun.StartsWhole "/ml_s0001.bin")
        (.booted (toolConfig 10 4 50) true 1 0 []) (twoWindows 192 192) ∧
      ∀ others : List LoggerEvent,
        others.map LoggerEvent.bare =
            (twoWindows 192 192).map LoggerEvent.bare →
          (run LoggerRun.step
            (.booted (toolConfig 10 4 50) true 1 0 []) others).Returned
              "/ml_s0001.bin" := by
  have hguard : Guarded LoggerRun.step (LoggerRun.StartsWhole "/ml_s0001.bin")
      (.booted (toolConfig 10 4 50) true 1 0 []) (twoWindows 192 192) := by
    decide +kernel
  have hiff := @LoggerRun.session_file_round_trips_iff 10 4 50 true 1 0 []
    "/ml_s0001.bin" rfl (twoWindows 192 192)
  exact ⟨hguard, hiff.mpr hguard⟩

theorem whole_window_lost :
    ¬∀ events : List LoggerEvent,
      (run LoggerRun.step
        (.booted (toolConfig 10 4 50) true 1 0 []) events).Returned
          "/ml_s0001.bin" := by
  intro hall
  have hfound := (hall (twoWindows 1 192) "ml_s0001.bin").length_le
  revert hfound
  rw [List.length_map, List.length_map]
  decide +kernel

end SensorFirmware
