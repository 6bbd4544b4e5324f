import SensorFirmware.DataLogger
import SensorFirmware.FixedRecords

/-!
# Extracting windows

The reader of `extract_windows.py`: it cuts a session file at multiples of the
record size and keeps the records that pass its checks.  A finalised window
passes them, and gives its own fields and samples.
-/

namespace SensorFirmware

open PackedFields

namespace ExtractWindows

def windowMagic : ℕ := 0x4D4C
def windowVersion : ℕ := 1
def windowSize : ℕ := 40
def sampleRecordSize : ℕ := 4
def windowHeaderSize : ℕ := 32
def sampleWindowSize : ℕ := windowHeaderSize + sampleRecordSize * windowSize

def labelNames : List (ℕ × String) :=
  [(0, "idle"), (1, "approach"), (2, "hover"), (3, "quick_pass"),
    (4, "cover_hold"), (5, "confirmed_event"), (6, "surface_reflection"),
    (7, "noise"), (8, "unknown"), (254, "unlabeled"), (255, "invalid")]

/-- The widths of `"<HBBHHBBIIHHHBBBBI"`. -/
def headerFmt : List ℕ := [2, 1, 1, 2, 2, 1, 1, 4, 4, 2, 2, 2, 1, 1, 1, 1, 4]

structure Header where
  magic : ℕ
  version : ℕ
  sampleCount : ℕ
  sessionId : ℕ
  windowId : ℕ
  label : ℕ
  reserved0 : ℕ
  startUptimeMs : ℕ
  startEpoch : ℕ
  wakeThreshold : ℕ
  hitThreshold : ℕ
  criticalHitThreshold : ℕ
  sensitivity : ℕ
  flags : ℕ
  bootCount : ℕ
  reserved1 : ℕ
  crc32 : ℕ
  deriving DecidableEq, Repr

structure Window where
  header : Header
  samples : List (ℕ × ℕ)
  labelName : String
  deriving DecidableEq, Repr

structure ExtractedWindow extends Window where
  sourceFile : String
  windowIndex : ℕ
  deriving DecidableEq, Repr

def crc32 (data : List Byte) : ℕ := (calculateCRC32 data).toNat

def parseHeader (data : List Byte) : Option Header :=
  if data.length < windowHeaderSize then none
  else
    let fields := unpack headerFmt (data.take windowHeaderSize)
    some
      { magic := fields.getD 0 0
        version := fields.getD 1 0
        sampleCount := fields.getD 2 0
        sessionId := fields.getD 3 0
        windowId := fields.getD 4 0
        label := fields.getD 5 0
        reserved0 := fields.getD 6 0
        startUptimeMs := fields.getD 7 0
        startEpoch := fields.getD 8 0
        wakeThreshold := fields.getD 9 0
        hitThreshold := fields.getD 10 0
        criticalHitThreshold := fields.getD 11 0
        sensitivity := fields.getD 12 0
        flags := fields.getD 13 0
        bootCount := fields.getD 14 0
        reserved1 := fields.getD 15 0
        crc32 := fields.getD 16 0 }

/-- The loop stops early where a record is cut off. -/
def parseSamples : List Byte → ℕ → List (ℕ × ℕ)
  | _, 0 => []
  | data, count + 1 =>
      if data.length < sampleRecordSize then []
      else
        (leNat (data.take 2), leNat ((data.drop 2).take 2)) ::
          parseSamples (data.drop sampleRecordSize) count

def labelName (label : ℕ) : String :=
  (labelNames.lookup label).getD s!"unknown_{label}"

def validateWindow (raw : List Byte) : Option Window :=
  if raw.length < sampleWindowSize then none
  else
    match parseHeader (raw.take windowHeaderSize) with
    | none => none
    | some header =>
        let sampleData :=
          (raw.take sampleWindowSize).drop windowHeaderSize
        let crcData := raw.take (windowHeaderSize - 4) ++ sampleData
        if header.magic ≠ windowMagic then none
        else if header.version ≠ windowVersion then none
        else if windowSize < header.sampleCount then none
        else if header.crc32 ≠ crc32 crcData then none
        else
          some
            { header
              samples := parseSamples sampleData header.sampleCount
              labelName := labelName header.label }

def extractFile (name : String) (data : List Byte) : List ExtractedWindow :=
  (List.range (data.length / sampleWindowSize)).filterMap fun i =>
    let raw := (data.drop (i * sampleWindowSize)).take sampleWindowSize
    (validateWindow raw).map fun window =>
      { window with sourceFile := name, windowIndex := i }

end ExtractWindows

/-! ## Round trip -/

/-- The header fields and the samples of a record that is kept. -/
def windowValue (raw : List Byte) :
    Option (ExtractWindows.Header × List (ℕ × ℕ)) :=
  (ExtractWindows.validateWindow raw).map fun window =>
    (window.header, window.samples)

theorem map_extractFile (name : String) (data : List Byte) :
    (ExtractWindows.extractFile name data).map
        (fun window => (window.header, window.samples)) =
      (FixedRecords.blocks ExtractWindows.sampleWindowSize data).filterMap
        windowValue := by
  rw [ExtractWindows.extractFile, FixedRecords.blocks, List.map_filterMap,
    List.filterMap_map]
  apply List.filterMap_congr
  intro i _
  exact Option.map_map _ _ _

open ExtractWindows

def WindowHeader.extracted (header : WindowHeader) : Header where
  magic := header.magic.toNat
  version := header.version.toNat
  sampleCount := header.sampleCount.toNat
  sessionId := header.sessionId.toNat
  windowId := header.windowId.toNat
  label := header.label.toNat
  reserved0 := header.reserved0.toNat
  startUptimeMs := header.startUptimeMs.toNat
  startEpoch := header.startEpoch.toNat
  wakeThreshold := header.wakeThreshold.toNat
  hitThreshold := header.detectionThreshold.toNat
  criticalHitThreshold := header.criticalDetectionThreshold.toNat
  sensitivity := header.sensitivity.toNat
  flags := header.flags.toNat
  bootCount := header.bootCount.toNat
  reserved1 := header.reserved1.toNat
  crc32 := header.crc32.toNat

def SampleRecord.extracted (sample : SampleRecord) : ℕ × ℕ :=
  (sample.proximity.toNat, sample.dtMs.toNat)

theorem parseHeader_toBytes (header : WindowHeader) :
    parseHeader header.toBytes = some header.extracted := by
  have hlength := header.length_toBytes
  have hall : header.toBytes.take windowHeaderSize = header.toBytes :=
    List.take_of_length_le hlength.le
  have hfields : unpack headerFmt (header.toBytes.take windowHeaderSize) =
      header.fields.map Prod.snd := by
    have hback := unpack_pack header.fits []
    rw [List.append_nil] at hback
    rw [hall]
    exact hback
  have hlong : ¬header.toBytes.length < windowHeaderSize := by
    rw [hlength]
    exact lt_irrefl 32
  unfold parseHeader
  rw [if_neg hlong, hfields]
  rfl

theorem parseSamples_flatMap (samples : List SampleRecord) (count : ℕ) :
    parseSamples (samples.flatMap SampleRecord.toBytes) count =
      (samples.take count).map SampleRecord.extracted := by
  induction samples generalizing count with
  | nil => cases count <;> rfl
  | cons sample samples ih =>
      cases count with
      | zero => rfl
      | succ count =>
          have hlength := sample.length_toBytes
          have hlong : ¬(sample.toBytes ++
              samples.flatMap SampleRecord.toBytes).length <
                sampleRecordSize := by
            rw [List.length_append, hlength]
            exact not_lt.mpr (Nat.le_add_right 4 _)
          have hdrop : (sample.toBytes ++
              samples.flatMap SampleRecord.toBytes).drop sampleRecordSize =
                samples.flatMap SampleRecord.toBytes := List.drop_left' hlength
          have hvalues := unpack_pack sample.fits
            (samples.flatMap SampleRecord.toBytes)
          obtain ⟨hproximity, hrest⟩ := List.cons.inj hvalues
          obtain ⟨hdt, -⟩ := List.cons.inj hrest
          rw [List.flatMap_cons, parseSamples, if_neg hlong, hdrop, ih,
            List.take_succ_cons, List.map_cons]
          congr 1
          exact Prod.ext hproximity hdt

/-- What the tool makes of a record. -/
def SampleWindow.extracted {size : ℕ} (window : SampleWindow size) : Window where
  header := window.header.extracted
  samples := window.samples.toList.map SampleRecord.extracted
  labelName := labelName window.header.label.toNat

/-- The firmware's constants where the tool has its own, with any others. -/
def toolConfig (stride depth period : ℕ) : MLConfig where
  windowSize := 40
  windowStride := stride
  windowMagic := 0x4D4C
  windowVersion := 1
  loggerQueueDepth := depth
  samplingPeriodMs := period

variable {stride depth period : ℕ}

/-- What the tool makes of a record by itself is the part that its sample count
covers. -/
def SampleWindow.decoded {size : ℕ} (window : SampleWindow size) : Window :=
  { window.extracted with
    samples := (window.samples.toList.take window.header.sampleCount.toNat).map
      SampleRecord.extracted }

/-- The tool makes the checks of the device, on the bytes of the record. -/
theorem validateWindow_toBytes_eq
    (window : SampleWindow (toolConfig stride depth period).windowSize) :
    validateWindow window.toBytes =
      if window.isValid (toolConfig stride depth period) then
        some window.decoded
      else none := by
  have hlength : window.toBytes.length = sampleWindowSize :=
    window.length_toBytes
  have hlong : ¬window.toBytes.length < sampleWindowSize := by
    rw [hlength]
    exact lt_irrefl 192
  have hheader : window.toBytes.take windowHeaderSize =
      window.header.toBytes := List.take_left' window.header.length_toBytes
  have hsamples : (window.toBytes.take sampleWindowSize).drop
      windowHeaderSize = window.sampleBytes := by
    rw [List.take_of_length_le hlength.le]
    exact List.drop_left' window.header.length_toBytes
  have hchecked : window.toBytes.take (windowHeaderSize - 4) =
      pack window.header.checkedFields := by
    rw [SampleWindow.toBytes,
      List.take_append_of_le_length (by simp [windowHeaderSize])]
    exact window.header.take_toBytes
  have hmagic : window.header.extracted.magic ≠ windowMagic ↔
      window.header.magic ≠ (toolConfig stride depth period).windowMagic :=
    not_congr (@UInt16.toNat_inj window.header.magic 0x4D4C)
  have hversion : window.header.extracted.version ≠ windowVersion ↔
      window.header.version ≠ (toolConfig stride depth period).windowVersion :=
    not_congr (@UInt8.toNat_inj window.header.version 1)
  have hcrc : window.header.extracted.crc32 ≠
      crc32 (pack window.header.checkedFields ++ window.sampleBytes) ↔
        window.header.crc32 ≠ window.calculateCRC := by
    rw [window.calculateCRC_eq]
    exact not_congr UInt32.toNat_inj
  unfold validateWindow SampleWindow.isValid
  rw [if_neg hlong, hheader, parseHeader_toBytes]
  dsimp only
  rw [hsamples, hchecked, if_congr hmagic rfl rfl,
    if_congr hversion rfl rfl, if_congr hcrc rfl rfl,
    SampleWindow.sampleBytes, parseSamples_flatMap]
  change (if _ then none else if _ then none else
    if 40 < window.header.sampleCount.toNat then none else _) = _
  split_ifs <;> first | rfl | contradiction

theorem SampleWindow.Finalised.isValid
    {window : SampleWindow (toolConfig stride depth period).windowSize}
    (hfinal : window.Finalised) :
    window.isValid (toolConfig stride depth period) = true := by
  have hcount : ¬(toolConfig stride depth period).windowSize <
      window.header.sampleCount.toNat := by
    rw [hfinal.sampleCount]
    exact lt_irrefl 40
  unfold SampleWindow.isValid
  rw [if_neg (not_not_intro hfinal.magic),
    if_neg (not_not_intro hfinal.version), if_neg hcount,
    if_neg (not_not_intro hfinal.crc)]

theorem SampleWindow.Finalised.decoded
    {window : SampleWindow (toolConfig stride depth period).windowSize}
    (hfinal : window.Finalised) : window.decoded = window.extracted := by
  have hall : window.samples.toList.take window.header.sampleCount.toNat =
      window.samples.toList := by
    rw [hfinal.sampleCount]
    exact List.take_of_length_le (Vector.length_toList).le
  rw [SampleWindow.decoded, hall]
  rfl

theorem validateWindow_toBytes
    {window : SampleWindow (toolConfig stride depth period).windowSize}
    (hfinal : window.Finalised) :
    validateWindow window.toBytes = some window.extracted := by
  rw [validateWindow_toBytes_eq, if_pos hfinal.isValid, hfinal.decoded]

/-! ## Records that are kept -/

namespace ExtractWindows

/-- What the checks of a record establish. -/
structure Accepted (raw : List Byte) (window : Window) : Prop where
  long : sampleWindowSize ≤ raw.length
  header : parseHeader (raw.take windowHeaderSize) = some window.header
  magic : window.header.magic = windowMagic
  version : window.header.version = windowVersion
  sampleCount : window.header.sampleCount ≤ windowSize
  crc : window.header.crc32 = crc32 (raw.take (windowHeaderSize - 4) ++
    (raw.take sampleWindowSize).drop windowHeaderSize)
  samples : window.samples =
    parseSamples ((raw.take sampleWindowSize).drop windowHeaderSize)
      window.header.sampleCount

theorem accepted_of_validateWindow {raw : List Byte} {window : Window}
    (hkept : validateWindow raw = some window) : Accepted raw window := by
  unfold validateWindow at hkept
  by_cases hlong : raw.length < sampleWindowSize
  · rw [if_pos hlong] at hkept
    cases hkept
  · rw [if_neg hlong] at hkept
    cases hheader : parseHeader (raw.take windowHeaderSize) with
    | none =>
        rw [hheader] at hkept
        cases hkept
    | some header =>
        rw [hheader] at hkept
        dsimp only at hkept
        split_ifs at hkept with hmagic hversion hcount hcrc
        cases hkept
        exact
          { long := not_lt.mp hlong
            header := hheader
            magic := not_not.mp hmagic
            version := not_not.mp hversion
            sampleCount := not_lt.mp hcount
            crc := not_not.mp hcrc
            samples := rfl }

/-- The fields in the order of the format. -/
def Header.values (header : Header) : List ℕ :=
  [header.magic, header.version, header.sampleCount, header.sessionId,
    header.windowId, header.label, header.reserved0, header.startUptimeMs,
    header.startEpoch, header.wakeThreshold, header.hitThreshold,
    header.criticalHitThreshold, header.sensitivity, header.flags,
    header.bootCount, header.reserved1, header.crc32]

theorem values_of_parseHeader {data : List Byte} {header : Header}
    (hparse : parseHeader data = some header) :
    windowHeaderSize ≤ data.length ∧
      header.values = unpack headerFmt (data.take windowHeaderSize) := by
  unfold parseHeader at hparse
  by_cases hshort : data.length < windowHeaderSize
  · rw [if_pos hshort] at hparse
    cases hparse
  · rw [if_neg hshort] at hparse
    cases hparse
    refine ⟨not_lt.mp hshort, ?_⟩
    simp [Header.values, headerFmt, unpack]

/-- The bytes of each field are those of its value. -/
theorem getElem?_of_parseHeader {data : List Byte} {header : Header}
    (hparse : parseHeader data = some header) {i : ℕ}
    (hi : i < headerFmt.length) {j : ℕ} (hj : j < headerFmt.getD i 0) :
    data[(headerFmt.take i).sum + j]? =
      (leBytes (headerFmt.getD i 0) (header.values.getD i 0))[j]? := by
  obtain ⟨hlong, hvalues⟩ := values_of_parseHeader hparse
  have hends : ∀ i < headerFmt.length,
      (headerFmt.take i).sum + headerFmt.getD i 0 ≤ windowHeaderSize := by
    decide
  have hend := hends i hi
  have hread := getD_unpack headerFmt (data.take windowHeaderSize) hi
  have hlength : (data.take windowHeaderSize).length = windowHeaderSize :=
    List.length_take_of_le hlong
  have hbyte := getElem?_of_field hread.symm (hlength.symm ▸ hend) hj
  rw [List.getElem?_take_of_lt (by omega)] at hbyte
  rw [hbyte, hvalues]

/-- A field of a kept record, by its place in the record. -/
theorem Accepted.getElem?_field {raw : List Byte} {window : Window}
    (haccepted : Accepted raw window) (i j : ℕ) {place width n : ℕ}
    (hi : i < headerFmt.length) (hj : j < headerFmt.getD i 0)
    (hplace : (headerFmt.take i).sum + j = place)
    (hwithin : place < windowHeaderSize) (hwidth : headerFmt.getD i 0 = width)
    (hvalue : window.header.values.getD i 0 = n) :
    raw[place]? = (leBytes width n)[j]? := by
  have hbyte := getElem?_of_parseHeader haccepted.header hi hj
  rwa [hplace, hwidth, hvalue, List.getElem?_take_of_lt hwithin] at hbyte

theorem getElem?_parseSamples {data : List Byte} {count i : ℕ}
    (hdata : 4 * count ≤ data.length) (hi : i < count) :
    (parseSamples data count)[i]? =
      some (leNat ((data.drop (4 * i)).take 2),
        leNat ((data.drop (4 * i + 2)).take 2)) := by
  induction count generalizing data i with
  | zero => exact absurd hi (Nat.not_lt_zero i)
  | succ count ih =>
      have hlong : ¬data.length < sampleRecordSize := by
        unfold sampleRecordSize
        omega
      rw [parseSamples, if_neg hlong]
      cases i with
      | zero => rfl
      | succ i =>
          have hrest : 4 * count ≤ (data.drop 4).length := by
            rw [List.length_drop]
            omega
          have hsample := ih hrest (Nat.lt_of_succ_lt_succ hi)
          rw [List.drop_drop, List.drop_drop] at hsample
          have hnext : 4 * (i + 1) = 4 + 4 * i := by omega
          rw [hnext, Nat.add_assoc]
          exact hsample

end ExtractWindows

end SensorFirmware
