import SensorFirmware.SessionFile

/-!
# The session store

Runs of the logger with deletions and reboots.  A session takes its number from a
16-bit counter, which goes up with each start, is set back by a deletion, and is
rebuilt from the file names at boot.  Along the run stands which session each
queued window and each piece of a file is of.
-/

namespace SensorFirmware

open GuardedRun

/-! ## File names -/

theorem toList_buildSessionPath (id : UInt16) :
    (buildSessionPath id).toList = "/ml_s".toList ++
      ((Nat.toDigits 10 id.toNat).leftpad 4 '0' ++ ".bin".toList) := by
  simp [buildSessionPath]

theorem fileSessionId_buildSessionPath (id : UInt16) :
    fileSessionId (buildSessionPath id) = some id := by
  have hprefix : "/ml_s".toList.isPrefixOf (buildSessionPath id).toList := by
    rw [toList_buildSessionPath, List.isPrefixOf_iff_prefix]
    exact List.prefix_append _ _
  have hdrop : (buildSessionPath id).toList.drop 5 =
      (Nat.toDigits 10 id.toNat).leftpad 4 '0' ++ ".bin".toList := by
    rw [toList_buildSessionPath]
    exact List.drop_left' rfl
  have hdigits : ∀ c ∈ (Nat.toDigits 10 id.toNat).leftpad 4 '0',
      c.isDigit = true := by
    intro c hc
    rw [List.leftpad, List.mem_append] at hc
    rcases hc with hzero | hdigit
    · rw [List.eq_of_mem_replicate hzero]
      rfl
    · exact Nat.isDigit_of_mem_toDigits (by decide) (by decide) hdigit
  have hnonempty : (Nat.toDigits 10 id.toNat).leftpad 4 '0' ≠ [] := by
    rw [List.leftpad]
    exact List.append_ne_nil_of_right_ne_nil _ Nat.toDigits_ne_nil
  have hrest : ∀ c ∈ ".bin".toList.head?, c.isDigit = false := by
    intro c hc
    have hdot : '.' = c := Option.some.inj hc
    rw [← hdot]
    rfl
  have hvalue : Nat.ofDigitChars 10
      ((Nat.toDigits 10 id.toNat).leftpad 4 '0') 0 = id.toNat := by
    rw [List.leftpad, Nat.ofDigitChars_append,
      Nat.ofDigitChars_replicate_zero, Nat.mul_zero,
      Nat.ofDigitChars_ten_toDigits]
  have hid := id.toNat_lt
  have hread : strtol ((buildSessionPath id).toList.drop 5) = id.toNat := by
    rw [hdrop, strtol_append hnonempty hdigits hrest, hvalue]
    omega
  have hunsigned : toUnsigned (id.toNat : ℤ) = id.toNat := by
    unfold toUnsigned
    omega
  rw [fileSessionId, if_pos hprefix, hread, hunsigned, UInt16.ofNat_toNat]

theorem buildSessionPath_injective : Function.Injective buildSessionPath := by
  intro first second hpath
  have hread := congrArg fileSessionId hpath
  rw [fileSessionId_buildSessionPath, fileSessionId_buildSessionPath] at hread
  exact Option.some.inj hread

theorem deletes_buildSessionPath (failing : List String) (id : UInt16) :
    DataLoggerService.deletes failing (buildSessionPath id) =
      !failing.contains (buildSessionPath id) := by
  have hprefix : "/ml_".toList.isPrefixOf (buildSessionPath id).toList := by
    rw [toList_buildSessionPath, List.isPrefixOf_iff_prefix]
    exact (by decide : "/ml_".toList <+: "/ml_s".toList).trans
      (List.prefix_append _ _)
  rw [DataLoggerService.deletes, hprefix, Bool.true_and]

/-! ## The highest number in the directory -/

theorem le_higherId (maxId : UInt16) (name : String) :
    maxId ≤ higherId maxId name := by
  unfold higherId
  cases fileSessionId name with
  | none => exact UInt16.le_refl maxId
  | some id =>
      dsimp only
      split
      · next hlt => exact UInt16.le_of_lt hlt
      · exact UInt16.le_refl maxId

theorem le_higherId_of_eq {name : String} {id : UInt16}
    (hid : fileSessionId name = some id) (maxId : UInt16) :
    id ≤ higherId maxId name := by
  unfold higherId
  rw [hid]
  dsimp only
  split
  · exact UInt16.le_refl id
  · next hle => exact UInt16.not_lt.mp hle

theorem le_foldl_higherId (files : Spiffs) (maxId : UInt16) :
    maxId ≤ files.foldl (fun maxId file => higherId maxId file.1) maxId := by
  induction files generalizing maxId with
  | nil => exact UInt16.le_refl maxId
  | cons file files ih => exact UInt16.le_trans (le_higherId _ file.1) (ih _)

theorem le_maxSessionId {files : Spiffs} {file : String × List Byte}
    (hfile : file ∈ files) {id : UInt16} (hid : fileSessionId file.1 = some id) :
    id ≤ maxSessionId files := by
  unfold maxSessionId
  generalize (0 : UInt16) = maxId
  induction files generalizing maxId with
  | nil => cases hfile
  | cons other files ih =>
      cases hfile with
      | tail _ hlater => exact ih hlater _
      | head _ =>
          exact UInt16.le_trans (le_higherId_of_eq hid maxId)
            (le_foldl_higherId files _)

/-! ## Runs -/

inductive StoreEvent where
  | logger (event : LoggerEvent)
  | deleteAll (rootOpens : Bool) (failing : List String)
  | reboot (mounted rootOpens : Bool) (bootCount : UInt8)
  deriving DecidableEq, Repr

variable {cfg : MLConfig} {size : ℕ}

namespace DataLoggerService

def storeStep (logger : DataLoggerService cfg) :
    StoreEvent → DataLoggerService cfg
  | .logger event => logger.step event
  | .deleteAll rootOpens failing => (logger.deleteAll rootOpens failing).1
  | .reboot mounted rootOpens bootCount =>
      .boot cfg mounted (rebuildNextSessionId mounted rootOpens logger.spiffs)
        bootCount logger.spiffs

/-- The call of `startSession` starts a new session. -/
def Begins (logger : DataLoggerService cfg) (label : GestureLabel) : Prop :=
  logger.state ≠ .recording ∧ logger.state ≠ .armed ∧
    logger.spiffsMounted = true ∧ label ≠ .invalid

instance (logger : DataLoggerService cfg) (label : GestureLabel) :
    Decidable (logger.Begins label) :=
  inferInstanceAs (Decidable (_ ∧ _))

end DataLoggerService

structure LoggerSession where
  id : UInt16
  label : GestureLabel
  deriving DecidableEq, Repr

/-- A window, with the place of its session among all that were started. -/
structure OwnedWindow (size : ℕ) where
  session : ℕ
  window : SampleWindow size
  deriving DecidableEq, Repr

/-- The logger, with the sessions that were started, oldest first, the windows in
the queue, and the pieces of windows that the files were made of. -/
structure StoreRun (cfg : MLConfig) where
  logger : DataLoggerService cfg
  sessions : List LoggerSession
  queued : List (OwnedWindow cfg.windowSize)
  pieces : List (OwnedWindow cfg.windowSize × ℕ)
  deriving DecidableEq, Repr

/-- The session of the window is known, and no later one took its file. -/
structure OwnedWindow.Current (sessions : List LoggerSession)
    (owned : OwnedWindow size) : Prop where
  known : ∃ session, sessions[owned.session]? = some session ∧
    owned.window.header.sessionId = session.id ∧
      owned.window.header.label = session.label.toByte
  last : ∀ i session, owned.session < i → sessions[i]? = some session →
    buildSessionPath session.id ≠ owned.window.path

namespace StoreRun

def step (run : StoreRun cfg) (event : StoreEvent) : StoreRun cfg :=
  let logger := run.logger.storeStep event
  match event with
  | .logger (.startSession label) =>
      { run with
        logger
        sessions :=
          if run.logger.Begins label then
            run.sessions ++ [⟨run.logger.nextSessionId, label⟩]
          else run.sessions }
  | .logger (.appendSample _ _) =>
      { run with
        logger
        queued := run.queued ++
          (logger.loggerQueue.drop run.logger.loggerQueue.length).map
            fun window => ⟨run.sessions.length - 1, window⟩ }
  | .logger (.write outcome) =>
      { run with
        logger
        queued := run.queued.tail
        pieces := run.pieces ++
          (run.queued.head?.toList.map fun owned =>
            (owned, run.logger.bytesWritten outcome)).filter
              fun piece => 0 < piece.2 }
  | .logger _ => { run with logger }
  | .deleteAll rootOpens failing =>
      { run with
        logger
        pieces :=
          if run.logger.spiffsMounted ∧ rootOpens then
            run.pieces.filter fun piece =>
              !DataLoggerService.deletes failing piece.1.window.path
          else run.pieces }
  | .reboot _ _ _ => { run with logger, queued := [] }

/-- Before the first boot, with whatever files there are. -/
def off (cfg : MLConfig) (files : Spiffs) : StoreRun cfg where
  logger := .boot cfg false 1 0 files
  sessions := []
  queued := []
  pieces := []

/-- The pieces that the file is made of. -/
def piecesAt (run : StoreRun cfg) (path : String) :
    List (OwnedWindow cfg.windowSize × ℕ) :=
  run.pieces.filter fun piece => piece.1.window.path = path

/-- All bytes of the file are of windows of the run. -/
def Clean (run : StoreRun cfg) (path : String) : Prop :=
  run.logger.spiffs.contents path =
    (run.piecesAt path).flatMap fun piece => piece.1.window.toBytes.take piece.2

/-- A started session finds no bytes in its file, and a window that is written
goes to the file of its own session. -/
def Faithful (run : StoreRun cfg) : StoreEvent → Prop
  | .logger (.startSession label) => run.logger.Begins label →
      run.logger.spiffs.contents
        (buildSessionPath run.logger.nextSessionId) = []
  | .logger (.write outcome) => ∀ owned ∈ run.queued.head?,
      0 < run.logger.bytesWritten outcome → owned.Current run.sessions
  | _ => True

/-- Each file's windows are of one session, and have its number and label. -/
structure OneSession (run : StoreRun cfg) : Prop where
  session : ∀ first ∈ run.pieces, ∀ second ∈ run.pieces,
    first.1.window.path = second.1.window.path →
      first.1.session = second.1.session
  known : ∀ piece ∈ run.pieces, ∃ session,
    run.sessions[piece.1.session]? = some session ∧
      piece.1.window.header.sessionId = session.id ∧
        piece.1.window.header.label = session.label.toByte
  clean : ∀ piece ∈ run.pieces, run.Clean piece.1.window.path

/-- The file of the number has bytes. -/
def Taken (run : StoreRun cfg) (id : UInt16) : Prop :=
  run.logger.spiffs.contents (buildSessionPath id) ≠ []

/-- The counter has not gone round when a session starts, all windows are written
and all session files go when it is set back, and the directory opens when it
is rebuilt. -/
def Safe (run : StoreRun cfg) : StoreEvent → Prop
  | .logger (.startSession label) =>
      run.logger.Begins label → run.logger.nextSessionId ≠ 0
  | .logger _ => True
  | .deleteAll rootOpens failing =>
      run.logger.spiffsMounted = true → rootOpens = true →
        run.logger.loggerQueue = [] ∧
          ∀ id, run.Taken id → buildSessionPath id ∉ failing
  | .reboot mounted rootOpens _ =>
      mounted = true → rootOpens = true ∨ ∀ id, ¬run.Taken id

end StoreRun

/-! ## The counter -/

/-- All numbers below it are used up; after the last one that is all of them. -/
def idBound (next : UInt16) : ℕ := if next = 0 then 65536 else next.toNat

theorem idBound_of_ne_zero {next : UInt16} (hnext : next ≠ 0) :
    idBound next = next.toNat :=
  if_neg hnext

theorem idBound_add_one (id : UInt16) : idBound (id + 1) = id.toNat + 1 := by
  have hid := id.toNat_lt
  have hsum : (id + 1).toNat = (id.toNat + 1) % 65536 := UInt16.toNat_add id 1
  unfold idBound
  by_cases hlast : id.toNat = 65535
  · have hzero : id + 1 = 0 := UInt16.toNat_inj.mp (by rw [hsum, hlast]; rfl)
    rw [if_pos hzero, hlast]
  · have hsmall : (id + 1).toNat = id.toNat + 1 := by omega
    have hne : id + 1 ≠ 0 := by
      intro heq
      rw [heq] at hsmall
      exact absurd hsmall (Nat.succ_ne_zero _).symm
    rw [if_neg hne, hsmall]

/-! ## The invariant -/

namespace StoreRun

/-- The numbers in use are below the counter. -/
structure Below (run : StoreRun cfg) : Prop where
  queued : ∀ owned ∈ run.queued,
    owned.window.header.sessionId.toNat < idBound run.logger.nextSessionId
  recording : run.logger.state = .recording →
    run.logger.currentSessionId.toNat < idBound run.logger.nextSessionId
  taken : ∀ id, run.Taken id → id.toNat < idBound run.logger.nextSessionId

structure Inv (run : StoreRun cfg) : Prop where
  queue : run.queued.map OwnedWindow.window = run.logger.loggerQueue
  queued : ∀ owned ∈ run.queued,
    owned.Current run.sessions ∧ run.Clean owned.window.path
  pieces : ∀ piece ∈ run.pieces, piece.1.Current run.sessions ∧
    run.Clean piece.1.window.path ∧ 0 < piece.2
  recording : run.logger.state = .recording →
    run.sessions.getLast? =
        some ⟨run.logger.currentSessionId, run.logger.currentLabel⟩ ∧
      run.Clean (buildSessionPath run.logger.currentSessionId)
  below : run.logger.spiffsMounted = true → run.Below

variable {run : StoreRun cfg}

theorem contents_ne_of_piece (hrun : run.Inv)
    {piece : OwnedWindow cfg.windowSize × ℕ} (hpiece : piece ∈ run.pieces) :
    run.logger.spiffs.contents piece.1.window.path ≠ [] := by
  obtain ⟨-, hclean, hcount⟩ := hrun.pieces piece hpiece
  have hat : piece ∈ run.piecesAt piece.1.window.path :=
    List.mem_filter.mpr ⟨hpiece, decide_eq_true rfl⟩
  have hbytes : piece.1.window.toBytes.take piece.2 ≠ [] := by
    apply List.ne_nil_of_length_pos
    rw [List.length_take, SampleWindow.length_toBytes]
    unfold SampleWindow.serializedSize
    omega
  rw [hclean]
  intro hempty
  exact hbytes (List.flatMap_eq_nil_iff.mp hempty piece hat)

/-- The window that is queued now is of the session that was started last. -/
theorem current_of_recording (hrun : run.Inv)
    (hrecording : run.logger.state = .recording)
    {window : SampleWindow cfg.windowSize}
    (hid : window.header.sessionId = run.logger.currentSessionId)
    (hlabel : window.header.label = run.logger.currentLabel.toByte) :
    OwnedWindow.Current run.sessions ⟨run.sessions.length - 1, window⟩ := by
  obtain ⟨hlast, -⟩ := hrun.recording hrecording
  rw [List.getLast?_eq_getElem?] at hlast
  refine ⟨⟨_, hlast, hid, hlabel⟩, ?_⟩
  intro i session hi hsession
  have hlt := (List.getElem?_eq_some_iff.mp hsession).1
  dsimp only at hi
  omega

theorem clean_congr {next : StoreRun cfg}
    (hspiffs : next.logger.spiffs = run.logger.spiffs)
    (hpieces : next.pieces = run.pieces) (path : String) :
    next.Clean path ↔ run.Clean path := by
  rw [Clean, Clean, piecesAt, piecesAt, hspiffs, hpieces]

/-- The step leaves the files and the sessions alone, and a window that it queues
is of the session that records. -/
structure Kept (run next : StoreRun cfg) : Prop where
  spiffs : next.logger.spiffs = run.logger.spiffs
  pieces : next.pieces = run.pieces
  sessions : next.sessions = run.sessions
  mounted : next.logger.spiffsMounted = run.logger.spiffsMounted
  nextSessionId : next.logger.nextSessionId = run.logger.nextSessionId
  currentSessionId :
    next.logger.currentSessionId = run.logger.currentSessionId
  currentLabel : next.logger.currentLabel = run.logger.currentLabel
  state : next.logger.state = .recording → run.logger.state = .recording
  queue : next.queued.map OwnedWindow.window = next.logger.loggerQueue
  queued : ∀ owned ∈ next.queued, owned ∈ run.queued ∨
    run.logger.state = .recording ∧ owned.Current run.sessions ∧
      owned.window.header.sessionId = run.logger.currentSessionId

theorem inv_of_kept (hrun : run.Inv) {next : StoreRun cfg}
    (hkept : run.Kept next) : next.Inv := by
  have hclean := clean_congr hkept.spiffs hkept.pieces
  constructor
  · exact hkept.queue
  · intro owned howned
    rw [hclean, hkept.sessions]
    rcases hkept.queued owned howned with hold | ⟨hrecording, hcurrent, hid⟩
    · exact hrun.queued owned hold
    · have hfile := (hrun.recording hrecording).2
      rw [← hid] at hfile
      exact ⟨hcurrent, hfile⟩
  · intro piece hpiece
    rw [hclean, hkept.sessions]
    rw [hkept.pieces] at hpiece
    exact hrun.pieces piece hpiece
  · intro hrecording
    rw [hclean, hkept.sessions, hkept.currentSessionId, hkept.currentLabel]
    exact hrun.recording (hkept.state hrecording)
  · intro hmounted
    rw [hkept.mounted] at hmounted
    have hbelow := hrun.below hmounted
    constructor
    · intro owned howned
      rw [hkept.nextSessionId]
      rcases hkept.queued owned howned with hold | ⟨hrecording, -, hid⟩
      · exact hbelow.queued owned hold
      · rw [hid]
        exact hbelow.recording hrecording
    · intro hrecording
      rw [hkept.currentSessionId, hkept.nextSessionId]
      exact hbelow.recording (hkept.state hrecording)
    · intro id htaken
      rw [Taken, hkept.spiffs] at htaken
      rw [hkept.nextSessionId]
      exact hbelow.taken id htaken

/-! ## The sensor task -/

theorem kept_appendSample (hrun : run.Inv) (sample : SampleRecord)
    (env : SampleEnv) :
    run.Kept (run.step (.logger (.appendSample sample env))) := by
  obtain ⟨hstate, hid, hnext, hmounted, hspiffs⟩ :=
    run.logger.appendSample_kept sample env
  have hlabel : (run.logger.appendSample sample env).currentLabel =
      run.logger.currentLabel := by
    obtain ⟨_, _, _, _, _, _, _, hframe⟩ :=
      run.logger.appendSample_frame sample env
    rw [hframe]
  have hqueue := run.logger.loggerQueue_appendSample sample env
  have hfilled := run.logger.filled_eq sample env
  refine ⟨hspiffs, rfl, rfl, hmounted, hnext, hid, hlabel, ?_, ?_, ?_⟩
  · intro hrecording
    rw [← hstate]
    exact hrecording
  · change (run.queued ++ List.map _ (List.drop _
      (run.logger.appendSample sample env).loggerQueue)).map _ =
        (run.logger.appendSample sample env).loggerQueue
    rw [hqueue, List.drop_left, List.map_append, hrun.queue, List.map_map]
    congr 1
    exact List.map_id _
  · intro owned howned
    change owned ∈ run.queued ++ List.map _ (List.drop _
      (run.logger.appendSample sample env).loggerQueue) at howned
    rw [hqueue, List.drop_left] at howned
    rcases List.mem_append.mp howned with hold | hnew
    · exact .inl hold
    · obtain ⟨window, hwindow, rfl⟩ := List.mem_map.mp hnew
      split at hwindow
      · next hfull =>
          have hwindow := List.mem_singleton.mp hwindow
          have hwindowId :
              window.header.sessionId = run.logger.currentSessionId := by
            rw [hwindow, hfilled]
            rfl
          have hwindowLabel :
              window.header.label = run.logger.currentLabel.toByte := by
            rw [hwindow, hfilled]
            rfl
          exact .inr ⟨hfull.2.1,
            current_of_recording hrun hfull.2.1 hwindowId hwindowLabel,
            hwindowId⟩
      · cases hwindow

theorem kept_state (hrun : run.Inv) {state : LoggerState}
    (hstate : state = .recording → run.logger.state = .recording)
    (flags : UInt8) :
    run.Kept { run with
      logger := { run.logger with state := state, cachedFlags := flags } } where
  spiffs := rfl
  pieces := rfl
  sessions := rfl
  mounted := rfl
  nextSessionId := rfl
  currentSessionId := rfl
  currentLabel := rfl
  state := hstate
  queue := hrun.queue
  queued := fun _ howned => .inl howned

theorem inv_stopSession (hrun : run.Inv) :
    (run.step (.logger .stopSession)).Inv := by
  have hstate : run.logger.stopSession.state = .recording →
      run.logger.state = .recording := by
    unfold DataLoggerService.stopSession
    split
    · exact id
    · nofun
  have hnext : run.step (.logger .stopSession) =
      { run with
        logger := { run.logger with
          state := run.logger.stopSession.state
          cachedFlags := run.logger.cachedFlags } } := by
    have hstop := run.logger.stopSession_eq
    exact congrArg (fun logger => { run with logger }) hstop
  rw [hnext]
  exact inv_of_kept hrun (kept_state hrun hstate _)

theorem inv_setRuntimeFlags (hrun : run.Inv) (flags : UInt8) :
    (run.step (.logger (.setRuntimeFlags flags))).Inv :=
  inv_of_kept hrun (kept_state hrun id flags)

/-! ## Starting a session -/

theorem startSession_of_begins {logger : DataLoggerService cfg}
    {label : GestureLabel} (hbegins : logger.Begins label) :
    logger.startSession label =
      ({ logger with
        currentSessionId := logger.nextSessionId
        nextSessionId := logger.nextSessionId + 1
        currentWindowId := 0
        windowsWritten := 0
        currentLabel := label
        sampleIndex := 0
        state := .recording }, true) := by
  obtain ⟨hrecording, harmed, hmounted, hlabel⟩ := hbegins
  have hidle : ¬(logger.state = .recording ∨ logger.state = .armed) :=
    not_or.mpr ⟨hrecording, harmed⟩
  rw [DataLoggerService.startSession, if_neg hidle,
    if_neg (by simp [hmounted]), if_neg hlabel]

theorem startSession_of_not_begins {logger : DataLoggerService cfg}
    {label : GestureLabel} (hbegins : ¬logger.Begins label) :
    ∃ state, (state = .recording → logger.state = .recording) ∧
      (logger.startSession label).1 = { logger with state } := by
  unfold DataLoggerService.startSession
  split_ifs with hbusy hmounted hlabel
  · exact ⟨logger.state, id, rfl⟩
  · exact ⟨.error, nofun, rfl⟩
  · exact ⟨logger.state, id, rfl⟩
  · obtain ⟨hrecording, harmed⟩ := not_or.mp hbusy
    exact absurd ⟨hrecording, harmed, by simpa using hmounted, hlabel⟩ hbegins

/-- A session with a new number takes no file of an earlier one. -/
theorem current_append {owned : OwnedWindow cfg.windowSize}
    (howned : owned.Current run.sessions) {session : LoggerSession}
    (hpath : buildSessionPath session.id ≠ owned.window.path) :
    owned.Current (run.sessions ++ [session]) := by
  obtain ⟨old, hold, hvalues⟩ := howned.known
  have hlt := (List.getElem?_eq_some_iff.mp hold).1
  constructor
  · exact ⟨old, (List.getElem?_append_left hlt).trans hold, hvalues⟩
  · intro i later hi hlater
    by_cases hbefore : i < run.sessions.length
    · rw [List.getElem?_append_left hbefore] at hlater
      exact howned.last i later hi hlater
    · rw [List.getElem?_append_right (not_lt.mp hbefore)] at hlater
      have hlast := List.mem_singleton.mp (List.mem_of_getElem? hlater)
      rw [hlast]
      exact hpath

/-- The file of the next number is fresh. -/
theorem fresh_of_safe (hrun : run.Inv) {label : GestureLabel}
    (hbegins : run.logger.Begins label)
    (hsafe : run.Safe (.logger (.startSession label))) :
    run.logger.spiffs.contents
      (buildSessionPath run.logger.nextSessionId) = [] := by
  have hbelow := hrun.below hbegins.2.2.1
  by_contra htaken
  have hlt := hbelow.taken _ htaken
  rw [idBound_of_ne_zero (hsafe hbegins)] at hlt
  exact lt_irrefl _ hlt

/-- No piece belongs to the file of a session that has just begun. -/
theorem path_ne_of_fresh (hrun : run.Inv) {path : String}
    (hfresh : run.logger.spiffs.contents path = [])
    {piece : OwnedWindow cfg.windowSize × ℕ} (hpiece : piece ∈ run.pieces) :
    piece.1.window.path ≠ path := by
  intro hpath
  have hcontents := contents_ne_of_piece hrun hpiece
  rw [hpath] at hcontents
  exact hcontents hfresh

theorem step_startSession_of_begins {label : GestureLabel}
    (hbegins : run.logger.Begins label) :
    run.step (.logger (.startSession label)) =
      { run with
        logger := { run.logger with
          currentSessionId := run.logger.nextSessionId
          nextSessionId := run.logger.nextSessionId + 1
          currentWindowId := 0
          windowsWritten := 0
          currentLabel := label
          sampleIndex := 0
          state := .recording }
        sessions := run.sessions ++ [⟨run.logger.nextSessionId, label⟩] } := by
  simp only [step, DataLoggerService.storeStep, DataLoggerService.step,
    startSession_of_begins hbegins, if_pos hbegins]

theorem inv_startSession (hrun : run.Inv) {label : GestureLabel}
    (hsafe : run.Safe (.logger (.startSession label))) :
    (run.step (.logger (.startSession label))).Inv := by
  by_cases hbegins : run.logger.Begins label
  · have hfresh := fresh_of_safe hrun hbegins hsafe
    have hbelow := hrun.below hbegins.2.2.1
    have hbound := idBound_of_ne_zero (hsafe hbegins)
    have hgrown (id : UInt16)
        (hid : id.toNat < idBound run.logger.nextSessionId) :
        id.toNat < idBound (run.logger.nextSessionId + 1) := by
      rw [hbound] at hid
      rw [idBound_add_one]
      exact hid.trans (Nat.lt_succ_self _)
    have hnopiece : run.piecesAt
        (buildSessionPath run.logger.nextSessionId) = [] := by
      apply List.filter_eq_nil_iff.mpr
      intro piece hpiece hpath
      exact path_ne_of_fresh hrun hfresh hpiece (of_decide_eq_true hpath)
    rw [step_startSession_of_begins hbegins]
    constructor
    · exact hrun.queue
    · intro owned howned
      obtain ⟨hcurrent, hclean⟩ := hrun.queued owned howned
      have hid := hbelow.queued owned howned
      rw [hbound] at hid
      refine ⟨current_append hcurrent ?_, hclean⟩
      intro hpath
      rw [← buildSessionPath_injective hpath] at hid
      exact lt_irrefl _ hid
    · intro piece hpiece
      obtain ⟨hcurrent, hclean, hcount⟩ := hrun.pieces piece hpiece
      have hother := path_ne_of_fresh hrun hfresh hpiece
      exact ⟨current_append hcurrent hother.symm, hclean, hcount⟩
    · intro _
      refine ⟨List.getLast?_concat, ?_⟩
      unfold Clean
      dsimp only
      rw [hfresh]
      change [] = List.flatMap _ (run.piecesAt _)
      rw [hnopiece]
      rfl
    · intro _
      constructor
      · exact fun owned howned => hgrown _ (hbelow.queued owned howned)
      · intro _
        rw [idBound_add_one]
        exact Nat.lt_succ_self _
      · exact fun id htaken => hgrown id (hbelow.taken id htaken)
  · obtain ⟨state, hstate, hlogger⟩ := startSession_of_not_begins hbegins
    have hnext : run.step (.logger (.startSession label)) =
        { run with
          logger := { run.logger with
            state := state
            cachedFlags := run.logger.cachedFlags } } := by
      simp only [step, DataLoggerService.storeStep, DataLoggerService.step,
        hlogger, if_neg hbegins]
    rw [hnext]
    exact inv_of_kept hrun (kept_state hrun hstate _)

/-! ## The logger task -/

theorem step_write_of_nil (hrun : run.Inv)
    (hempty : run.logger.loggerQueue = []) (outcome : WriteOutcome) :
    run.step (.logger (.write outcome)) = run := by
  have hnone : run.queued = [] := by
    have hqueue := hrun.queue
    rw [hempty] at hqueue
    exact List.map_eq_nil_iff.mp hqueue
  have hlogger : run.logger.loggerTask outcome = run.logger := by
    rw [DataLoggerService.loggerTask, hempty]
  have htail : run.queued.tail = run.queued := by rw [hnone]; rfl
  have hhead : run.queued.head? = none := by rw [hnone]; rfl
  simp [step, DataLoggerService.storeStep, DataLoggerService.step, hlogger,
    htail, hhead]

/-- The bytes of each file stay those of its pieces. -/
theorem clean_append {path : String} (hclean : run.Clean path)
    {next : StoreRun cfg} {owned : OwnedWindow cfg.windowSize} {count : ℕ}
    (hpieces : next.pieces = run.pieces ++
      [(owned, count)].filter fun piece => 0 < piece.2)
    (hcontents : next.logger.spiffs.contents path =
      run.logger.spiffs.contents path ++
        if owned.window.path = path then owned.window.toBytes.take count
        else []) :
    next.Clean path := by
  unfold Clean piecesAt at hclean ⊢
  rw [hcontents, hpieces, List.filter_append, List.flatMap_append, hclean]
  congr 1
  by_cases hpath : owned.window.path = path
  · by_cases hcount : 0 < count
    · simp [hpath, hcount]
    · simp [Nat.eq_zero_of_not_pos hcount]
  · by_cases hcount : 0 < count <;> simp [hpath, hcount]

theorem inv_write (hrun : run.Inv) (outcome : WriteOutcome) :
    (run.step (.logger (.write outcome))).Inv := by
  cases hqueue : run.logger.loggerQueue with
  | nil =>
      rw [step_write_of_nil hrun hqueue]
      exact hrun
  | cons window queue =>
      have hmap := hrun.queue
      rw [hqueue] at hmap
      obtain ⟨owned, rest, hqueued, rfl, hrest⟩ := List.map_eq_cons_iff.mp hmap
      obtain ⟨hcurrent, -⟩ := hrun.queued owned (hqueued ▸ .head rest)
      have hpieces : (run.step (.logger (.write outcome))).pieces =
          run.pieces ++ [(owned, run.logger.bytesWritten outcome)].filter
            fun piece => 0 < piece.2 := by
        simp [step, hqueued]
      have htail : (run.step (.logger (.write outcome))).queued = rest := by
        simp [step, hqueued]
      have hlogger : (run.step (.logger (.write outcome))).logger =
          ({ run.logger with loggerQueue := queue }).processWrite
            owned.window outcome := by
        simp only [step, DataLoggerService.storeStep, DataLoggerService.step,
          DataLoggerService.loggerTask, hqueue]
      have hframe := ({ run.logger with loggerQueue := queue } :
        DataLoggerService cfg).processWrite_eq owned.window outcome
      rw [← hlogger] at hframe
      have hcontents (path : String) := ({ run.logger with
        loggerQueue := queue } : DataLoggerService cfg).contents_processWrite
          owned.window outcome path
      rw [← hlogger] at hcontents
      have hclean (path : String) (hold : run.Clean path) :
          (run.step (.logger (.write outcome))).Clean path :=
        clean_append hold hpieces (hcontents path)
      have hstate : (run.step (.logger (.write outcome))).logger.state =
          .recording → run.logger.state = .recording := by
        rw [hlogger, DataLoggerService.state_processWrite]
        split
        · exact id
        · intro herror
          cases herror
      constructor
      · rw [htail, hframe]
        exact hrest
      · intro other hother
        rw [htail] at hother
        have hold := hrun.queued other (hqueued ▸ .tail owned hother)
        exact ⟨hold.1, hclean _ hold.2⟩
      · intro piece hpiece
        rw [hpieces] at hpiece
        rcases List.mem_append.mp hpiece with hold | hnew
        · obtain ⟨hpieceCurrent, hpieceClean, hcount⟩ := hrun.pieces piece hold
          exact ⟨hpieceCurrent, hclean _ hpieceClean, hcount⟩
        · obtain ⟨hmem, hcount⟩ := List.mem_filter.mp hnew
          have hpiece := List.mem_singleton.mp hmem
          rw [hpiece] at hcount ⊢
          obtain ⟨-, hownedClean⟩ := hrun.queued owned (hqueued ▸ .head rest)
          exact ⟨hcurrent, hclean _ hownedClean, of_decide_eq_true hcount⟩
      · intro hrecording
        obtain ⟨hlast, hfile⟩ := hrun.recording (hstate hrecording)
        rw [hframe]
        exact ⟨hlast, hclean _ hfile⟩
      · intro hmounted
        rw [hframe] at hmounted
        have hbelow := hrun.below hmounted
        constructor
        · intro other hother
          rw [htail] at hother
          rw [hframe]
          exact hbelow.queued other (hqueued ▸ .tail owned hother)
        · intro hrecording
          have hold := hbelow.recording (hstate hrecording)
          rw [hframe]
          exact hold
        · intro id htaken
          rw [Taken, hcontents] at htaken
          rw [hframe]
          by_cases hpath : owned.window.path = buildSessionPath id
          · rw [← buildSessionPath_injective hpath]
            exact hbelow.queued owned (hqueued ▸ .head rest)
          · rw [if_neg hpath, List.append_nil] at htaken
            exact hbelow.taken id htaken

/-! ## Deletions and reboots -/

/-- The pieces of a deleted file go with it, and the others stay. -/
theorem clean_deleted {after : StoreRun cfg} {failing : List String}
    (hspiffs : after.logger.spiffs =
      run.logger.spiffs.remove (DataLoggerService.deletes failing))
    (hpieces : after.pieces = run.pieces.filter fun piece =>
      !DataLoggerService.deletes failing piece.1.window.path)
    {path : String} (hold : run.Clean path) : after.Clean path := by
  unfold Clean piecesAt at hold ⊢
  rw [hspiffs, hpieces, Spiffs.contents_remove, List.filter_filter]
  by_cases hpath : DataLoggerService.deletes failing path
  · rw [if_pos hpath]
    symm
    apply List.flatMap_eq_nil_iff.mpr
    intro piece hpiece
    have hboth := (List.mem_filter.mp hpiece).2
    rw [Bool.and_eq_true, decide_eq_true_eq] at hboth
    rw [hboth.1, hpath] at hboth
    exact absurd hboth.2 (by decide)
  · rw [if_neg hpath, hold]
    congr 1
    apply List.filter_congr
    intro piece _
    by_cases hhere : piece.1.window.path = path
    · rw [hhere]
      simp [hpath]
    · simp [hhere]

theorem inv_deleteAll (hrun : run.Inv) {rootOpens : Bool}
    {failing : List String} (hsafe : run.Safe (.deleteAll rootOpens failing)) :
    (run.step (.deleteAll rootOpens failing)).Inv := by
  obtain ⟨state, hstate, hlogger⟩ :=
    run.logger.deleteAll_eq rootOpens failing
  by_cases hopen : run.logger.spiffsMounted ∧ rootOpens
  · rw [if_pos hopen] at hlogger
    obtain ⟨hempty, htaken⟩ := hsafe hopen.1 hopen.2
    have hnone : run.queued = [] := by
      have hqueue := hrun.queue
      rw [hempty] at hqueue
      exact List.map_eq_nil_iff.mp hqueue
    have hnext : run.step (.deleteAll rootOpens failing) =
        { run with
          logger := { run.logger with
            state := state
            spiffs :=
              run.logger.spiffs.remove (DataLoggerService.deletes failing)
            nextSessionId := 1
            totalWindowsWritten := 0
            dropCount := 0 }
          pieces := run.pieces.filter fun piece =>
            !DataLoggerService.deletes failing piece.1.window.path } := by
      simp only [step, DataLoggerService.storeStep, hlogger, if_pos hopen]
    have hclean (path : String) (hold : run.Clean path) :
        (run.step (.deleteAll rootOpens failing)).Clean path := by
      rw [hnext]
      exact clean_deleted rfl rfl hold
    constructor
    · rw [hnext]
      exact hrun.queue
    · intro owned howned
      rw [hnext] at howned
      dsimp only at howned
      rw [hnone] at howned
      cases howned
    · intro piece hpiece
      rw [hnext] at hpiece
      obtain ⟨hcurrent, hold, hcount⟩ :=
        hrun.pieces piece (List.mem_filter.mp hpiece).1
      refine ⟨?_, hclean _ hold, hcount⟩
      rw [hnext]
      exact hcurrent
    · intro hrecording
      rw [hnext] at hrecording
      exact absurd hrecording hstate
    · intro _
      rw [hnext]
      constructor
      · intro owned howned
        dsimp only at howned
        rw [hnone] at howned
        cases howned
      · exact fun hrecording => absurd hrecording hstate
      · intro id hid
        rw [Taken] at hid
        dsimp only at hid
        rw [Spiffs.contents_remove, deletes_buildSessionPath] at hid
        by_cases hfailing : failing.contains (buildSessionPath id)
        · rw [hfailing] at hid
          exact absurd (List.contains_iff_mem.mp hfailing) (htaken id hid)
        · rw [Bool.not_eq_true] at hfailing
          rw [hfailing] at hid
          exact absurd rfl hid
  · rw [if_neg hopen] at hlogger
    have hnext : run.step (.deleteAll rootOpens failing) =
        { run with
          logger := { run.logger with
            state := state
            cachedFlags := run.logger.cachedFlags } } := by
      simp only [step, DataLoggerService.storeStep, hlogger, if_neg hopen]
    rw [hnext]
    exact inv_of_kept hrun
      (kept_state hrun (fun hrecording => absurd hrecording hstate) _)

theorem inv_reboot (hrun : run.Inv) {mounted rootOpens : Bool}
    {bootCount : UInt8} (hsafe : run.Safe (.reboot mounted rootOpens bootCount)) :
    (run.step (.reboot mounted rootOpens bootCount)).Inv := by
  constructor
  · rfl
  · nofun
  · exact hrun.pieces
  · nofun
  · intro hmounted
    constructor
    · nofun
    · nofun
    · intro id htaken
      have hnext :
          (run.step (.reboot mounted rootOpens bootCount)).logger.nextSessionId =
            rebuildNextSessionId mounted rootOpens run.logger.spiffs := rfl
      have hon : mounted = true := hmounted
      rcases hsafe hon with hopens | hnone
      · obtain ⟨file, hfile, hname⟩ := Spiffs.mem_of_contents_ne htaken
        have hid : fileSessionId file.1 = some id := by
          rw [hname, fileSessionId_buildSessionPath]
        have hle : id.toNat ≤ (maxSessionId run.logger.spiffs).toNat :=
          le_maxSessionId hfile hid
        rw [hnext, rebuildNextSessionId, hon, hopens]
        simp only [Bool.not_true, Bool.false_eq_true, if_false]
        rw [idBound_add_one]
        exact Nat.lt_succ_of_le hle
      · exact absurd htaken (hnone id)

/-! ## Runs -/

theorem inv_step (hrun : run.Inv) {event : StoreEvent}
    (hsafe : run.Safe event) : (run.step event).Inv := by
  cases event with
  | logger event =>
      cases event with
      | appendSample sample env =>
          exact inv_of_kept hrun (kept_appendSample hrun sample env)
      | startSession label => exact inv_startSession hrun hsafe
      | stopSession => exact inv_stopSession hrun
      | setRuntimeFlags flags => exact inv_setRuntimeFlags hrun flags
      | write outcome => exact inv_write hrun outcome
  | deleteAll rootOpens failing => exact inv_deleteAll hrun hsafe
  | reboot mounted rootOpens bootCount => exact inv_reboot hrun hsafe

theorem faithful_of_inv (hrun : run.Inv) {event : StoreEvent}
    (hsafe : run.Safe event) : run.Faithful event := by
  cases event with
  | logger event =>
      cases event with
      | startSession label =>
          exact fun hbegins => fresh_of_safe hrun hbegins hsafe
      | write outcome =>
          intro owned howned _
          exact (hrun.queued owned (List.mem_of_mem_head? howned)).1
      | appendSample sample env => trivial
      | stopSession => trivial
      | setRuntimeFlags flags => trivial
  | deleteAll rootOpens failing => trivial
  | reboot mounted rootOpens bootCount => trivial

/-- Neither of two sessions with one file came after the other. -/
theorem session_eq_of_path {sessions : List LoggerSession}
    {first second : OwnedWindow size} (hfirst : first.Current sessions)
    (hsecond : second.Current sessions)
    (hpath : first.window.path = second.window.path) :
    first.session = second.session := by
  have hnot {early late : OwnedWindow size} (hearly : early.Current sessions)
      (hlate : late.Current sessions)
      (hsame : early.window.path = late.window.path) :
      ¬early.session < late.session := by
    intro hlt
    obtain ⟨session, hknown, hid, -⟩ := hlate.known
    have hother := hearly.last _ session hlt hknown
    rw [hsame, SampleWindow.path, hid] at hother
    exact hother rfl
  have hle := hnot hfirst hsecond hpath
  have hge := hnot hsecond hfirst hpath.symm
  omega

theorem oneSession_of_inv (hrun : run.Inv) : run.OneSession where
  session first hfirst second hsecond hpath :=
    session_eq_of_path (hrun.pieces first hfirst).1
      (hrun.pieces second hsecond).1 hpath
  known piece hpiece := (hrun.pieces piece hpiece).1.known
  clean piece hpiece := (hrun.pieces piece hpiece).2.1

theorem inv_off (cfg : MLConfig) (files : Spiffs) : (off cfg files).Inv where
  queue := rfl
  queued := nofun
  pieces := nofun
  recording := nofun
  below := nofun

end StoreRun

/-- All windows of a session file are of one session, and a session that starts
finds no bytes in its file, in every run that keeps the counter safe. -/
theorem session_files_hold_one_session (cfg : MLConfig) (files : Spiffs)
    {events : List StoreEvent}
    (hsafe : Guarded StoreRun.step StoreRun.Safe (.off cfg files) events) :
    Guarded StoreRun.step StoreRun.Faithful (.off cfg files) events ∧
      ∀ k, (run StoreRun.step (.off cfg files) (events.take k)).OneSession := by
  have hoff := StoreRun.inv_off cfg files
  have hinv (run : StoreRun cfg) (event : StoreEvent) (hrun : run.Inv)
      (hevent : run.Safe event) : (run.step event).Inv :=
    StoreRun.inv_step hrun hevent
  have hfaithful (run : StoreRun cfg) (event : StoreEvent) (hrun : run.Inv)
      (hevent : run.Safe event) : run.Faithful event :=
    StoreRun.faithful_of_inv hrun hevent
  constructor
  · exact guarded_of_invariant hinv hfaithful hoff hsafe
  · intro k
    have hrun := invariant_run hinv hoff (guarded_take hsafe k)
    exact StoreRun.oneSession_of_inv hrun

/-- A session of one window, which is written. -/
def recordedSession (label : GestureLabel) : List StoreEvent :=
  .logger (.startSession label) ::
    (List.replicate 40 (.logger (.appendSample ⟨7, 50⟩
        ⟨0, false, ⟨0, 0, none, none⟩, ⟨0, 0, none, none⟩⟩)) ++
      [.logger (.write (.opened 192)), .logger .stopSession])

def twoSessions (first second : GestureLabel) : List StoreEvent :=
  .reboot true true 0 :: (recordedSession first ++ recordedSession second)

/-- Two sessions, and a third one after a deletion. -/
def storeRun : List StoreEvent :=
  twoSessions .approach .hover ++
    (.deleteAll true [] :: recordedSession .approach)

theorem safe_recordedSession {run : StoreRun cfg} (label : GestureLabel)
    (hnext : run.logger.nextSessionId ≠ 0) :
    Guarded StoreRun.step StoreRun.Safe run (recordedSession label) := by
  have hrest (count : ℕ) (sample : SampleRecord) (env : SampleEnv)
      (outcome : WriteOutcome) (run : StoreRun cfg) :
      Guarded StoreRun.step StoreRun.Safe run
        (List.replicate count (.logger (.appendSample sample env)) ++
          [.logger (.write outcome), .logger .stopSession]) := by
    induction count generalizing run with
    | zero => exact ⟨trivial, trivial, trivial⟩
    | succ count ih => exact ⟨trivial, ih _⟩
  exact ⟨fun _ => hnext, hrest _ _ _ _ _⟩

/-- The pieces are given with the place of their session and their length. -/
theorem storeRun_holds_one_session :
    let start := StoreRun.off (toolConfig 20 4 25) []
    let owners := fun events => (run StoreRun.step start events).pieces.map
      fun piece => (piece.1.session, piece.2)
    owners (twoSessions .approach .hover) = [(0, 192), (1, 192)] ∧
      owners storeRun = [(2, 192)] ∧
      Guarded StoreRun.step StoreRun.Faithful start storeRun ∧
      ∀ k, (run StoreRun.step start (storeRun.take k)).OneSession := by
  refine ⟨by decide +kernel, by decide +kernel,
    session_files_hold_one_session _ [] ?_⟩
  apply (guarded_append _ _ _).mpr
  constructor
  · refine ⟨fun _ => .inl rfl, (guarded_append _ _ _).mpr ⟨?_, ?_⟩⟩
    · exact safe_recordedSession .approach (by decide +kernel)
    · exact safe_recordedSession .hover (by decide +kernel)
  · refine ⟨fun _ _ => ⟨by decide +kernel, fun _ _ => List.not_mem_nil⟩, ?_⟩
    exact safe_recordedSession .approach (by decide +kernel)

/-- A session file that the file system does not remove is taken again by the
first session after the deletion. -/
theorem failed_removal_reuses_file :
    ¬Guarded StoreRun.step StoreRun.Faithful
      (.off (toolConfig 20 4 25) [(buildSessionPath 1, [0x4C])])
      [.reboot true true 0, .deleteAll true [buildSessionPath 1],
        .logger (.startSession .approach)] := by
  intro hfaithful
  have hstart := hfaithful.2.2.1 (by decide +kernel)
  revert hstart
  decide +kernel

end SensorFirmware
