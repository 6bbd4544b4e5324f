import SensorFirmware.CalibrationDurability
import SensorFirmware.DataLogger
import SensorFirmware.LineBuffer
import SensorFirmware.TextNumbers

/-!
# Commands on the serial line

The main loop collects the bytes of the serial port into lines of at most 64
characters and takes those that begin with `ML_` for commands.
`serial_control.py` sends its commands one a line.  Characters are those of the
bytes; strings end at the first zero byte where the source compares them as C
strings.
-/

namespace SensorFirmware

/-! ## Strings -/

/-- The C string in a buffer. -/
def cString (s : List Char) : List Char := s.takeWhile (· != Char.ofNat 0)

/-- `String::trim`. -/
def trim (s : List Char) : List Char :=
  ((s.dropWhile isSpace).reverse.dropWhile isSpace).reverse

/-- `strcasecmp` finds no difference. -/
def strcasecmpEq (s : List Char) (name : String) : Bool :=
  (cString s).map Char.toLower == name.toList.map Char.toLower

/-- `String::equals` with a string constant. -/
def equalsCString (s : List Char) (name : String) : Bool :=
  cString s == name.toList

def startsWith (s : List Char) (name : String) : Bool :=
  name.toList.isPrefixOf s

/-! ## Labels -/

def gestureLabelToString : GestureLabel → String
  | .idle => "idle"
  | .approach => "approach"
  | .hover => "hover"
  | .quickPass => "quick_pass"
  | .coverHold => "cover_hold"
  | .confirmedEvent => "confirmed_event"
  | .surfaceReflection => "surface_reflection"
  | .noise => "noise"
  | .unknown => "unknown"
  | .unlabeled => "unlabeled"
  | .invalid => "invalid"

def stringToGestureLabel (str : List Char) : GestureLabel :=
  if strcasecmpEq str "idle" then .idle
  else if strcasecmpEq str "approach" then .approach
  else if strcasecmpEq str "hover" then .hover
  else if strcasecmpEq str "quick_pass" then .quickPass
  else if strcasecmpEq str "cover_hold" then .coverHold
  else if strcasecmpEq str "confirmed_event" then .confirmedEvent
  else if strcasecmpEq str "surface_reflection" then .surfaceReflection
  else if strcasecmpEq str "noise" then .noise
  else if strcasecmpEq str "unknown" then .unknown
  else if strcasecmpEq str "unlabeled" then .unlabeled
  else .invalid

/-! ## Commands -/

/-- A label that does not exist is `invalid`. -/
inductive SerialCommand where
  | start (label : GestureLabel)
  | stop
  | status
  | delete
  | personalizeStart
  | personalizeCapture (label : GestureLabel)
  | personalizeCommit
  | personalizeReset
  | personalizeStatus
  | unknown
  deriving DecidableEq, Repr

/-- How `processSerialMLCommand` reads a line. -/
def parseCommand (line : List Char) : SerialCommand :=
  if startsWith line "ML_START " then
    .start (stringToGestureLabel (trim (line.drop 9)))
  else if equalsCString line "ML_STOP" then .stop
  else if equalsCString line "ML_STATUS" then .status
  else if equalsCString line "ML_DELETE" then .delete
  else if equalsCString line "ML_PERSONALIZE_START" then .personalizeStart
  else if startsWith line "ML_PERSONALIZE_CAPTURE " then
    .personalizeCapture (stringToGestureLabel (trim (line.drop 22)))
  else if equalsCString line "ML_PERSONALIZE_COMMIT" then .personalizeCommit
  else if equalsCString line "ML_PERSONALIZE_RESET" then .personalizeReset
  else if equalsCString line "ML_PERSONALIZE_STATUS" then .personalizeStatus
  else .unknown

variable {cfg : MLConfig} {pcfg : PersonalizationConfig} {Sum : Type}

/-- The floating-point parts of a capture: the sums, the extraction of features
with and without a dynamic range, and whether a float is above zero. -/
structure CaptureArithmetic (cfg : MLConfig) (pcfg : PersonalizationConfig)
    (Sum : Type) where
  sums : FloatArithmetic Sum
  positive : FloatBits → Bool
  extractFeatures : SampleWindow cfg.windowSize → FeatureVector pcfg
  extractFeaturesNormalized :
    SampleWindow cfg.windowSize → FloatBits → FeatureVector pcfg

/-- What a command meets outside the two services. -/
structure CommandEnv where
  rootOpens : Bool
  failing : List String
  inferenceLock : Bool
  calibrationLock : Bool
  timerQueued : Bool
  flushLock : Bool
  put : NvsPut
  deriving DecidableEq, Repr

structure SerialServices (cfg : MLConfig) (pcfg : PersonalizationConfig)
    (Sum : Type) where
  logger : DataLoggerService cfg
  calibration : CalibrationDevice pcfg Sum
  deriving DecidableEq

def DataLoggerService.getCurrentWindow (logger : DataLoggerService cfg)
    (inferenceLock : Bool) : Option (SampleWindow cfg.windowSize) :=
  if inferenceLock then some logger.inferenceWindow else none

def captureFeatures (ops : CaptureArithmetic cfg pcfg Sum)
    (service : PersonalizationService pcfg Sum)
    (window : SampleWindow cfg.windowSize) : FeatureVector pcfg :=
  let dynRange := service.getBaselineParams.2.2
  if ops.positive dynRange then
    ops.extractFeaturesNormalized window dynRange
  else ops.extractFeatures window

namespace SerialServices

/-- The services after a command, and whether its answer is `OK`, where it has
one. -/
def execute (ops : CaptureArithmetic cfg pcfg Sum) (env : CommandEnv)
    (services : SerialServices cfg pcfg Sum) :
    SerialCommand → SerialServices cfg pcfg Sum × Option Bool
  | .start label =>
      if label = .invalid then (services, some false)
      else
        let started := services.logger.startSession label
        ({ services with logger := started.1 }, some started.2)
  | .stop => ({ services with logger := services.logger.stopSession }, some true)
  | .status => (services, none)
  | .delete =>
      let deleted := services.logger.deleteAll env.rootOpens env.failing
      ({ services with logger := deleted.1 }, some deleted.2)
  | .personalizeStart =>
      let started := services.calibration.service.startCalibration ops.sums
      ({ services with calibration := ⟨started.1, services.calibration.blob⟩ },
        some started.2)
  | .personalizeCapture label =>
      if label = .invalid then (services, some false)
      else
        match services.logger.getCurrentWindow env.inferenceLock with
        | none => (services, some false)
        | some window =>
            let service := services.calibration.service
            let captured := service.captureWindow ops.sums
              (some (captureFeatures ops service window)) label
            ({ services with
                calibration := ⟨captured.1, services.calibration.blob⟩ },
              some captured.2)
  | .personalizeCommit =>
      let committed := services.calibration.service.commitCalibration ops.sums
        env.calibrationLock env.timerQueued
      ({ services with
          calibration := ⟨committed.1, services.calibration.blob⟩ },
        some committed.2)
  | .personalizeReset =>
      let reset := services.calibration.service.resetCalibration
        services.calibration.blob env.calibrationLock env.flushLock env.put
      ({ services with calibration := ⟨reset.1, reset.2.1⟩ },
        some reset.2.2)
  | .personalizeStatus => (services, none)
  | .unknown => (services, some false)

def processSerialMLCommand (ops : CaptureArithmetic cfg pcfg Sum)
    (env : CommandEnv) (services : SerialServices cfg pcfg Sum)
    (line : List Char) : SerialServices cfg pcfg Sum :=
  (services.execute ops env (parseCommand line)).1

end SerialServices

/-! ## The port -/

def isLineEnd (c : Char) : Bool := c == '\n' || c == '\r'

structure SerialDevice (cfg : MLConfig) (pcfg : PersonalizationConfig)
    (Sum : Type) where
  serialMLBuffer : List Char
  services : SerialServices cfg pcfg Sum
  deriving DecidableEq

namespace SerialDevice

/-- The serial part of one turn of `loop`: what each of its commands meets, and
the bytes that are available. -/
structure SerialTurn where
  env : ℕ → CommandEnv
  chunk : List Char

def readSerial (ops : CaptureArithmetic cfg pcfg Sum)
    (device : SerialDevice cfg pcfg Sum) (turn : SerialTurn) :
    SerialDevice cfg pcfg Sum :=
  let fed := LineBuffer.feed isLineEnd 64 device.serialMLBuffer turn.chunk
  { serialMLBuffer := fed.1
    services := (fed.2.filter (startsWith · "ML_")).zipIdx.foldl
      (fun services line =>
        services.processSerialMLCommand ops (turn.env line.2) line.1)
      device.services }

/-- What the turns after `device` execute: the lines that begin with `ML_`, in
their order, each in an environment of a turn. -/
theorem readSerial_run (ops : CaptureArithmetic cfg pcfg Sum)
    (device : SerialDevice cfg pcfg Sum) (turns : List SerialTurn) :
    (turns.foldl (readSerial ops) device).serialMLBuffer =
        (LineBuffer.feedAll isLineEnd 64 device.serialMLBuffer
          (turns.map SerialTurn.chunk)).1 ∧
      ∃ executed : List (CommandEnv × List Char),
        executed.map Prod.snd =
          (LineBuffer.feedAll isLineEnd 64 device.serialMLBuffer
            (turns.map SerialTurn.chunk)).2.filter (startsWith · "ML_") ∧
        (∀ command ∈ executed, ∃ turn ∈ turns, ∃ i, command.1 = turn.env i) ∧
        (turns.foldl (readSerial ops) device).services =
          executed.foldl (fun services command =>
            services.processSerialMLCommand ops command.1 command.2)
            device.services := by
  induction turns generalizing device with
  | nil => exact ⟨rfl, [], rfl, by simp, rfl⟩
  | cons turn turns ih =>
      obtain ⟨hbuffer, executed, hlines, henvs, hservices⟩ :=
        ih (readSerial ops device turn)
      refine ⟨hbuffer, ((LineBuffer.feed isLineEnd 64 device.serialMLBuffer
        turn.chunk).2.filter (startsWith · "ML_")).zipIdx.map
          (fun line => (turn.env line.2, line.1)) ++ executed, ?_, ?_, ?_⟩
      · rw [List.map_append, hlines, List.map_map]
        simp [LineBuffer.feedAll, readSerial, Function.comp_def]
      · intro command hcommand
        rcases List.mem_append.mp hcommand with hfirst | hlater
        · obtain ⟨line, -, rfl⟩ := List.mem_map.mp hfirst
          exact ⟨turn, List.mem_cons_self, line.2, rfl⟩
        · obtain ⟨other, hother, i, henv⟩ := henvs command hlater
          exact ⟨other, List.mem_cons_of_mem _ hother, i, henv⟩
      · rw [List.foldl_cons, hservices, List.foldl_append, List.foldl_map]
        rfl

/-- From an empty buffer, only the stream matters and not how it is cut into
turns: every nonempty piece between two line ends, cut to 64 characters, is
executed if it begins with `ML_`. -/
theorem commands_of_stream (ops : CaptureArithmetic cfg pcfg Sum)
    (services : SerialServices cfg pcfg Sum) (turns : List SerialTurn) :
    ∃ executed : List (CommandEnv × List Char),
      executed.map Prod.snd =
        (LineBuffer.lines isLineEnd 64
          (turns.map SerialTurn.chunk).flatten).filter
            (startsWith · "ML_") ∧
      (∀ command ∈ executed, ∃ turn ∈ turns, ∃ i, command.1 = turn.env i) ∧
      (turns.foldl (readSerial ops) ⟨[], services⟩).services =
        executed.foldl (fun services command =>
          (services.execute ops command.1 (parseCommand command.2)).1)
          services := by
  obtain ⟨-, executed, hlines, henvs, hservices⟩ :=
    readSerial_run ops ⟨[], services⟩ turns
  refine ⟨executed, ?_, henvs, hservices⟩
  rw [hlines, LineBuffer.feedAll_lines (by decide)]

end SerialDevice

/-! ## The host -/

def VALID_LABELS : List String :=
  ["idle", "approach", "hover", "quick_pass", "cover_hold",
    "confirmed_event", "surface_reflection", "noise", "unknown"]

/-- The calls of `serial_control.py`; a deletion may be confirmed or not. -/
inductive HostRequest where
  | start (label : String)
  | stop
  | status
  | delete (confirmed : Bool)
  deriving DecidableEq, Repr

namespace HostRequest

/-- The line that `send_command` is given, if any. -/
def line : HostRequest → Option String
  | start label =>
      if label ∈ VALID_LABELS then some ("ML_START " ++ label) else none
  | stop => some "ML_STOP"
  | status => some "ML_STATUS"
  | delete confirmed => if confirmed then some "ML_DELETE" else none

/-- What `send_command` writes. -/
def sent (request : HostRequest) : List Char :=
  match request.line with
  | none => []
  | some line => line.toList ++ ['\n']

/-- The command is the one that the request asks for. -/
def Asks : HostRequest → SerialCommand → Prop
  | start label, .start read =>
      read ≠ .invalid ∧ gestureLabelToString read = label
  | stop, .stop => True
  | status, .status => True
  | delete _, .delete => True
  | _, _ => False

theorem asks_of_line {request : HostRequest} {line : String}
    (hline : request.line = some line) :
    request.Asks (parseCommand line.toList) := by
  cases request with
  | start label =>
      rw [HostRequest.line] at hline
      split at hline
      · next hvalid =>
        have hname : "ML_START " ++ label = line := Option.some.inj hline
        subst hname
        simp only [VALID_LABELS, List.mem_cons, List.not_mem_nil,
          or_false] at hvalid
        rcases hvalid with rfl | rfl | rfl | rfl | rfl | rfl | rfl | rfl | rfl
        all_goals exact ⟨by decide, by decide⟩
      · cases hline
  | stop =>
      cases hline
      exact trivial
  | status =>
      cases hline
      exact trivial
  | delete confirmed =>
      cases confirmed with
      | false => cases hline
      | true =>
          cases hline
          exact trivial

theorem not_lineEnd {chars : List Char}
    (hall : chars.all (fun c => !isLineEnd c) = true) :
    ∀ c ∈ chars, isLineEnd c = false := by
  simpa using hall

/-- A line of the host reaches the parser whole. -/
theorem fits_of_line {request : HostRequest} {line : String}
    (hline : request.line = some line) :
    startsWith line.toList "ML_" = true ∧ 0 < line.toList.length ∧
      line.toList.length ≤ 64 ∧ ∀ c ∈ line.toList, isLineEnd c = false := by
  cases request with
  | start label =>
      rw [HostRequest.line] at hline
      split at hline
      · next hvalid =>
        have hname : "ML_START " ++ label = line := Option.some.inj hline
        subst hname
        simp only [VALID_LABELS, List.mem_cons, List.not_mem_nil,
          or_false] at hvalid
        rcases hvalid with rfl | rfl | rfl | rfl | rfl | rfl | rfl | rfl | rfl
        all_goals exact ⟨by decide, by decide, by decide, not_lineEnd (by decide)⟩
      · cases hline
  | stop =>
      cases hline
      exact ⟨by decide, by decide, by decide, not_lineEnd (by decide)⟩
  | status =>
      cases hline
      exact ⟨by decide, by decide, by decide, not_lineEnd (by decide)⟩
  | delete confirmed =>
      cases confirmed with
      | false => cases hline
      | true =>
          cases hline
          exact ⟨by decide, by decide, by decide, not_lineEnd (by decide)⟩

theorem flatMap_sent (requests : List HostRequest) :
    requests.flatMap sent =
      ((requests.filterMap line).map String.toList).flatMap (· ++ ['\n']) := by
  induction requests with
  | nil => rfl
  | cons request requests ih =>
      rw [List.flatMap_cons, ih, sent]
      cases hline : request.line with
      | none => rw [List.filterMap_cons_none hline, List.nil_append]
      | some line =>
          rw [List.filterMap_cons_some hline, List.map_cons,
            List.flatMap_cons]

theorem asks_filterMap (requests : List HostRequest) :
    List.Forall₂ Asks (requests.filter (·.line.isSome))
      ((requests.filterMap line).map fun line => parseCommand line.toList) := by
  induction requests with
  | nil => exact .nil
  | cons request requests ih =>
      cases hline : request.line with
      | none =>
          rw [List.filterMap_cons_none hline,
            List.filter_cons_of_neg (by simp [hline])]
          exact ih
      | some line =>
          rw [List.filterMap_cons_some hline, List.map_cons,
            List.filter_cons_of_pos (by simp [hline])]
          exact .cons (asks_of_line hline) ih

end HostRequest

/-- Whatever the host asks for, and however its bytes arrive, the services take
exactly the commands that were asked for, in order, and no other. -/
theorem SerialDevice.host_requests_executed
    (ops : CaptureArithmetic cfg pcfg Sum)
    (services : SerialServices cfg pcfg Sum) (requests : List HostRequest)
    (turns : List SerialTurn)
    (harrive : (turns.map SerialTurn.chunk).flatten =
      requests.flatMap HostRequest.sent) :
    ∃ executed : List (CommandEnv × SerialCommand),
      List.Forall₂ HostRequest.Asks (requests.filter (·.line.isSome))
        (executed.map Prod.snd) ∧
      (∀ command ∈ executed, ∃ turn ∈ turns, ∃ i, command.1 = turn.env i) ∧
      (turns.foldl (readSerial ops) ⟨[], services⟩).services =
        executed.foldl (fun services command =>
          (services.execute ops command.1 command.2).1) services ∧
      (turns.foldl (readSerial ops) ⟨[], services⟩).serialMLBuffer = [] := by
  let pieces := (requests.filterMap HostRequest.line).map String.toList
  have hfits : ∀ piece ∈ pieces, startsWith piece "ML_" = true ∧
      0 < piece.length ∧ piece.length ≤ 64 ∧
        ∀ c ∈ piece, isLineEnd c = false := by
    intro piece hpiece
    obtain ⟨line, hline, rfl⟩ := List.mem_map.mp hpiece
    obtain ⟨request, -, hrequest⟩ := List.mem_filterMap.mp hline
    exact HostRequest.fits_of_line hrequest
  have hends : ∀ piece ∈ pieces, ∀ c ∈ piece, isLineEnd c = false :=
    fun piece hpiece => (hfits piece hpiece).2.2.2
  have hstream : (turns.map SerialTurn.chunk).flatten =
      pieces.flatMap (· ++ ['\n']) :=
    harrive.trans (HostRequest.flatMap_sent requests)
  obtain ⟨executed, hlines, henvs, hservices⟩ :=
    commands_of_stream ops services turns
  have hpieces : executed.map Prod.snd = pieces := by
    rw [hlines, hstream, LineBuffer.lines_flatMap (by decide) hends
      fun piece hpiece =>
        ⟨(hfits piece hpiece).2.1, (hfits piece hpiece).2.2.1⟩]
    exact List.filter_eq_self.mpr fun piece hpiece => (hfits piece hpiece).1
  refine ⟨executed.map fun command => (command.1, parseCommand command.2),
    ?_, ?_, ?_, ?_⟩
  · have hparsed : (executed.map fun command =>
        (command.1, parseCommand command.2)).map Prod.snd =
          (requests.filterMap HostRequest.line).map fun line =>
            parseCommand line.toList := by
      calc
        _ = (executed.map Prod.snd).map parseCommand := by
            rw [List.map_map, List.map_map]
            rfl
        _ = _ := by
            rw [hpieces, List.map_map]
            rfl
    rw [hparsed]
    exact HostRequest.asks_filterMap requests
  · intro command hcommand
    obtain ⟨line, hline, rfl⟩ := List.mem_map.mp hcommand
    exact henvs line hline
  · rw [hservices, List.foldl_map]
  · rw [(readSerial_run ops ⟨[], services⟩ turns).1]
    exact LineBuffer.feedAll_flatMap (by decide) (by decide) hends hstream

def wholeCaptures :
    CaptureArithmetic ⟨3, 2, 0x4D4C, 1, 2, 50⟩ ⟨1, 1, 1, 1, 5⟩ ℕ where
  sums := CalibrationDevice.wholeNumbers
  positive := (0 < ·)
  extractFeatures _ := #v[1]
  extractFeaturesNormalized _ range := #v[range]

def freshServices :
    SerialServices ⟨3, 2, 0x4D4C, 1, 2, 50⟩ ⟨1, 1, 1, 1, 5⟩ ℕ :=
  ⟨.boot _ true 1 1 [], .start CalibrationDevice.wholeNumbers none⟩

/-- A session for `hover`, a label that the host refuses, and a deletion that
arrives in the second turn. -/
theorem SerialDevice.host_requests_executed_hover :
    let env : CommandEnv := ⟨true, [], true, true, true, true, .written⟩
    let requests := [.start "hover", .start "wave", .delete true]
    let turns : List SerialTurn := [⟨fun _ => env, "ML_START hover\nML_DE".toList⟩,
      ⟨fun _ => env, "LETE\n".toList⟩]
    ∃ executed : List (CommandEnv × SerialCommand),
      List.Forall₂ HostRequest.Asks (requests.filter (·.line.isSome))
        (executed.map Prod.snd) ∧
      (∀ command ∈ executed, ∃ turn ∈ turns, ∃ i, command.1 = turn.env i) ∧
      (turns.foldl (readSerial wholeCaptures) ⟨[], freshServices⟩).services =
        executed.foldl (fun services command =>
          (services.execute wholeCaptures command.1 command.2).1)
          freshServices ∧
      (turns.foldl (readSerial wholeCaptures)
        ⟨[], freshServices⟩).serialMLBuffer = [] :=
  host_requests_executed wholeCaptures freshServices _ _ (by decide)

end SensorFirmware
