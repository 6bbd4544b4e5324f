import SensorFirmware.HistoryRefinement
import SensorFirmware.OtaCommitIntegrity
import SensorFirmware.ProtocolDispatch

/-!
# Fresh identifiers after HELLO

Each HELLO may raise the counter of the identifiers to the last identifier
that the app knows.  Every event logged later is to get a higher one.  This
holds as long as the mutex is obtained when the counter has to be raised, and
the counter does not come to its end.
-/

namespace SensorFirmware

open GuardedRun

variable {cfg : HistoryConfig} {σ : Type}

/-! ## Histories in order -/

/-- The ring can be read, and its identifiers increase up to the counter. -/
structure OrderedHistory (service : HistoryService cfg) : Prop where
  initialized : service.initialized = true
  head_lt : service.state.head < cfg.bufferSize
  tail_lt : service.state.tail < cfg.bufferSize
  increasing :
    (service.state.ringWindow.map DetectionEvent.id).Pairwise (· < ·)
  id_le : ∀ event ∈ service.state.ringWindow,
    event.id ≤ service.state.globalEventId

/-- The log of what is in the ring. -/
def HistoryService.ringLog (service : HistoryService cfg) : HistoryLog where
  logged := service.state.ringWindow
  globalEventId := service.state.globalEventId
  bootCount := service.state.bootCount

theorem OrderedHistory.represents {service : HistoryService cfg}
    (hordered : OrderedHistory service) :
    Represents service service.ringLog := by
  have hlength : service.state.ringWindow.length ≤
      HistoryLog.capacity cfg := by
    have hused := CyclicBuffer.used_lt hordered.tail_lt hordered.head_lt
    unfold RTCState.ringWindow HistoryLog.capacity
    rw [CyclicBuffer.length_window _ hordered.tail_lt]
    omega
  refine ⟨hordered.initialized, hordered.head_lt, hordered.tail_lt, ?_, rfl,
    rfl, ⟨hordered.increasing, hordered.id_le⟩⟩
  unfold HistoryLog.retained HistoryService.ringLog List.rtake
  rw [Nat.sub_eq_zero_of_le hlength]
  rfl

/-! ## Handshakes between detections -/

/-- A logged event, with what had been received and what was in the ring when
it was logged. -/
structure LoggedId where
  id : ℕ
  received : List ℕ
  ring : List DetectionEvent
  deriving DecidableEq

/-- `logged` has the oldest event first. -/
structure HelloSession (cfg : HistoryConfig) (σ : Type) where
  reaction : Reaction cfg σ
  received : List ℕ
  logged : List LoggedId

inductive HelloStep where
  | hello (env : MessageEnv) (ota : OtaConfig) (seqNum : ℕ)
      (payload : List Byte)
  | log (locked : Bool) (clock : ClockMicros) (durationMs : ℕ)

namespace HelloSession

def start (device : ProtocolDevice cfg σ) : HelloSession cfg σ where
  reaction := device.react
  received := []
  logged := []

def history (session : HelloSession cfg σ) : HistoryService cfg :=
  session.reaction.history

def step (session : HelloSession cfg σ) :
    HelloStep → Option (HelloSession cfg σ)
  | .hello env ota seqNum payload => some { session with
      reaction := session.reaction.handleHello env ota seqNum payload
      received :=
        (Reaction.helloEventId payload).toList ++ session.received }
  | .log locked clock durationMs =>
      (session.history.logDetection locked clock durationMs).map
        fun result =>
          { session with
            reaction := { session.reaction with history := result.1 }
            logged :=
              if session.history.initialized && locked then
                session.logged ++ [⟨result.2.eventId, session.received,
                  session.history.state.ringWindow⟩]
              else session.logged }

def run (session : HelloSession cfg σ) (inputs : List HelloStep) :
    Option (HelloSession cfg σ) :=
  attempt step session inputs

/-- Each event has an identifier above all that the app had sent, above those
in the ring and above those logged earlier. -/
structure Fresh (session : HelloSession cfg σ) : Prop where
  received : ∀ entry ∈ session.logged, ∀ id ∈ entry.received, id < entry.id
  ring : ∀ entry ∈ session.logged, ∀ old ∈ entry.ring, old.id < entry.id
  increasing : (session.logged.map LoggedId.id).Pairwise (· < ·)

/-- The mutex is obtained when the counter has to be raised, and no event is
logged at the end of the counter. -/
def Heeds (session : HelloSession cfg σ) : HelloStep → Prop
  | .hello env _ _ payload =>
      ∀ id ∈ Reaction.helloEventId payload,
        session.history.state.globalEventId < id → env.historyLocked = true
  | .log locked _ _ =>
      locked = true → session.history.state.globalEventId + 1 < 2 ^ 32

/-- The ring shows the end of a log that begins with the first ring, and the
counter has reached all that the app has sent. -/
structure Follows (first : List DetectionEvent) (session : HelloSession cfg σ)
    (log : HistoryLog) (news : List DetectionEvent) : Prop where
  represents : Represents session.history log
  logged : log.logged = first ++ news
  ids : news.map DetectionEvent.id = session.logged.map LoggedId.id
  received : ∀ id ∈ session.received, id ≤ log.globalEventId
  fresh : session.Fresh

variable {first news : List DetectionEvent} {session : HelloSession cfg σ}
  {log : HistoryLog}

/-! ## HELLO -/

theorem history_handleHello (env : MessageEnv) (ota : OtaConfig)
    (r : Reaction cfg σ) (seqNum : ℕ) (payload : List Byte) :
    (r.handleHello env ota seqNum payload).history =
      match Reaction.helloEventId payload with
      | some id =>
          if r.history.state.globalEventId < id then
            (r.fastForward env id).history
          else r.history
      | none => r.history := by
  unfold Reaction.handleHello
  cases Reaction.helloEventId payload with
  | none => rfl
  | some id =>
      dsimp only
      split <;> rfl

theorem represents_fastForward {env : MessageEnv} {r : Reaction cfg σ}
    (hrep : Represents r.history log) (hlocked : env.historyLocked = true)
    (id : ℕ) :
    Represents (r.fastForward env id).history
      { log with globalEventId := max log.globalEventId id } := by
  have hraised := hrep.fastForwardEventId id
  rw [← hlocked] at hraised
  unfold Reaction.fastForward
  dsimp only
  split
  · exact hraised.of_state_eq (by simp) (by simp)
  · exact hraised

/-- A HELLO that is heeded leaves the counter at or above its identifier. -/
theorem represents_handleHello {env : MessageEnv} {r : Reaction cfg σ}
    (hrep : Represents r.history log) (ota : OtaConfig) (seqNum : ℕ)
    {payload : List Byte}
    (hheeds : ∀ id ∈ Reaction.helloEventId payload,
      r.history.state.globalEventId < id → env.historyLocked = true) :
    ∃ counter, log.globalEventId ≤ counter ∧
      (∀ id ∈ Reaction.helloEventId payload, id ≤ counter) ∧
      Represents (r.handleHello env ota seqNum payload).history
        { log with globalEventId := counter } := by
  rw [history_handleHello]
  cases hid : Reaction.helloEventId payload with
  | none => exact ⟨log.globalEventId, le_rfl, by simp, hrep⟩
  | some id =>
      dsimp only
      by_cases hbehind : r.history.state.globalEventId < id
      · rw [if_pos hbehind]
        have hlocked := hheeds id hid hbehind
        exact ⟨max log.globalEventId id, le_max_left _ _, by simp,
          represents_fastForward hrep hlocked id⟩
      · rw [if_neg hbehind]
        rw [hrep.counter] at hbehind
        exact ⟨log.globalEventId, le_rfl, by simpa using hbehind, hrep⟩

theorem Follows.hello (hfollows : Follows first session log news)
    {env : MessageEnv} {ota : OtaConfig} {seqNum : ℕ} {payload : List Byte}
    (hheeds : session.Heeds (.hello env ota seqNum payload)) :
    ∃ after log', session.step (.hello env ota seqNum payload) =
        some after ∧ Follows first after log' news := by
  obtain ⟨counter, hraised, hreached, hrep⟩ :=
    represents_handleHello hfollows.represents ota seqNum hheeds
  have hfresh := hfollows.fresh
  refine ⟨_, { log with globalEventId := counter }, rfl, hrep,
    hfollows.logged, hfollows.ids, ?_,
    ⟨hfresh.received, hfresh.ring, hfresh.increasing⟩⟩
  intro id hid
  rcases List.mem_append.mp hid with hnew | hold
  · exact hreached id (by simpa using hnew)
  · exact (hfollows.received id hold).trans hraised

/-! ## Logging -/

theorem Follows.newest (hfollows : Follows first session log news) :
    (∀ id ∈ session.received, id < log.nextId) ∧
      (∀ old ∈ session.history.state.ringWindow, old.id < log.nextId) ∧
      ∀ entry ∈ session.logged, entry.id < log.nextId := by
  have hids := hfollows.represents.ordered.id_le
  refine ⟨?_, ?_, ?_⟩
  · exact fun id hid => Nat.lt_succ_of_le (hfollows.received id hid)
  · intro old hold
    rw [hfollows.represents.window] at hold
    exact Nat.lt_succ_of_le
      (hids old (HistoryLog.mem_logged_of_mem_retained hold))
  · intro entry hentry
    have hmem : entry.id ∈ news.map DetectionEvent.id := by
      rw [hfollows.ids]
      exact List.mem_map_of_mem hentry
    obtain ⟨event, hevent, heq⟩ := List.mem_map.mp hmem
    have hlogged : event ∈ log.logged := by
      rw [hfollows.logged]
      exact List.mem_append_right first hevent
    rw [← heq]
    exact Nat.lt_succ_of_le (hids event hlogged)

/-- An event with an identifier above all others is added. -/
theorem Fresh.append {after : HelloSession cfg σ} (hfresh : session.Fresh)
    {entry : LoggedId} (hlogged : after.logged = session.logged ++ [entry])
    (hreceived : ∀ id ∈ entry.received, id < entry.id)
    (hring : ∀ old ∈ entry.ring, old.id < entry.id)
    (hearlier : ∀ other ∈ session.logged, other.id < entry.id) :
    after.Fresh := by
  have hmem : ∀ other ∈ after.logged,
      other ∈ session.logged ∨ other = entry := by
    intro other hother
    simpa [hlogged] using hother
  constructor
  · intro other hother
    rcases hmem other hother with hold | rfl
    · exact hfresh.received other hold
    · exact hreceived
  · intro other hother
    rcases hmem other hother with hold | rfl
    · exact hfresh.ring other hold
    · exact hring
  · rw [hlogged, List.map_append, List.pairwise_append]
    refine ⟨hfresh.increasing, by simp, ?_⟩
    intro id hid last hlast
    obtain ⟨other, hother, rfl⟩ := List.mem_map.mp hid
    have hnewest : last = entry.id := by simpa using hlast
    rw [hnewest]
    exact hearlier other hother

theorem Follows.logDetection (hfollows : Follows first session log news)
    {locked : Bool} {clock : ClockMicros} {durationMs : ℕ}
    (hheeds : session.Heeds (.log locked clock durationMs)) :
    ∃ after log' news', session.step (.log locked clock durationMs) =
        some after ∧ Follows first after log' news' := by
  have hinit := hfollows.represents.initialized
  cases locked with
  | false =>
      refine ⟨session, log, news, ?_, hfollows⟩
      simp only [step, HistoryService.logDetection, Bool.and_false,
        Bool.false_eq_true, if_false, Option.map_some]
      rfl
  | true =>
      have hroom : log.nextId < 2 ^ 32 := by
        have hcounter := hheeds rfl
        rw [hfollows.represents.counter] at hcounter
        exact hcounter
      obtain ⟨after, result, hlog, hid, hrep⟩ :=
        hfollows.represents.logDetection hroom clock durationMs
      obtain ⟨hreceived, hring, hearlier⟩ := hfollows.newest
      let next : HelloSession cfg σ := { session with
        reaction := { session.reaction with history := after }
        logged := session.logged ++ [⟨log.nextId, session.received,
          session.history.state.ringWindow⟩] }
      have hnext : session.step (.log true clock durationMs) = some next := by
        simp only [step, hlog, hinit, hid, Bool.and_self, if_true,
          Option.map_some]
        rfl
      refine ⟨next, log.record cfg clock durationMs,
        news ++ [log.newEvent cfg clock durationMs], hnext, ?_⟩
      constructor
      · exact hrep
      · simp only [HistoryLog.record, hfollows.logged, List.append_assoc]
      · simp only [next, List.map_append, hfollows.ids, List.map_singleton]
        rfl
      · intro id hmem
        exact (hreceived id hmem).le
      · exact hfollows.fresh.append rfl hreceived hring hearlier

/-! ## Runs -/

theorem follows_start {device : ProtocolDevice cfg σ}
    (hordered : OrderedHistory device.history) :
    Follows device.history.state.ringWindow (start device)
      device.history.ringLog [] := by
  refine ⟨hordered.represents, ?_, rfl, by simp [start], ?_⟩
  · rw [List.append_nil]
    rfl
  · constructor <;> simp [start]

/-- Whatever identifiers the app sends and whenever it does, later events get
higher ones, and the events in the ring stay as they are. -/
theorem hello_keeps_ids_fresh {device : ProtocolDevice cfg σ}
    (hordered : OrderedHistory device.history) (inputs : List HelloStep)
    (hheeds : GuardedAttempt step Heeds (start device) inputs) :
    ∃ final, (start device).run inputs = some final ∧ final.Fresh ∧
      ∃ news, news.map DetectionEvent.id = final.logged.map LoggedId.id ∧
        final.history.state.ringWindow =
          (device.history.state.ringWindow ++ news).rtake
            (HistoryLog.capacity cfg) := by
  have hstep : ∀ (session : HelloSession cfg σ) input,
      (∃ log news, Follows device.history.state.ringWindow session log
        news) → session.Heeds input →
        ∃ after, session.step input = some after ∧
          ∃ log news, Follows device.history.state.ringWindow after log
            news := by
    rintro session input ⟨log, news, hfollows⟩ hguard
    cases input with
    | hello env ota seqNum payload =>
        obtain ⟨after, log', hafter, hnext⟩ := hfollows.hello hguard
        exact ⟨after, hafter, log', news, hnext⟩
    | log locked clock durationMs =>
        obtain ⟨after, log', news', hafter, hnext⟩ :=
          hfollows.logDetection hguard
        exact ⟨after, hafter, log', news', hnext⟩
  obtain ⟨final, hrun, log, news, hfollows⟩ := invariant_attempt hstep
    ⟨_, _, follows_start hordered⟩ hheeds
  refine ⟨final, hrun, hfollows.fresh, news, hfollows.ids, ?_⟩
  rw [hfollows.represents.window, HistoryLog.retained, hfollows.logged]

/-! ### Concrete runs -/

instance (session : HelloSession cfg σ) (input : HelloStep) :
    Decidable (session.Heeds input) := by
  unfold Heeds
  split <;> infer_instance

def helloFrom (lastEventId : ℕ) (locked : Bool) : HelloStep :=
  .hello { MessageEnv.good with historyLocked := locked } Ota.benchOta 0
    (0x01#8 :: be32Bytes lastEventId)

def newDevice : ProtocolDevice .fourSlots Unit := .setUp .fourSlots ()

theorem newDevice_ordered : OrderedHistory newDevice.history := by
  have hring : newDevice.history.state.ringWindow = [] :=
    RTCState.ringWindow_resetState
  constructor
  · rfl
  · decide
  · decide
  · simp [hring]
  · simp [hring]

theorem hello_keeps_ids_fresh_after_reset :
    ∃ final, (start newDevice).run
        [.log true 0 0, helloFrom 100 true, .log true 0 0,
          helloFrom 40 false, .log true 0 0] = some final ∧ final.Fresh ∧
      ∃ news, news.map DetectionEvent.id = final.logged.map LoggedId.id ∧
        final.history.state.ringWindow =
          (newDevice.history.state.ringWindow ++ news).rtake
            (HistoryLog.capacity .fourSlots) :=
  hello_keeps_ids_fresh newDevice_ordered _ (by decide +kernel)

/-- The counter goes round, or the mutex is not obtained. -/
theorem hello_ids_not_fresh :
    (∃ final ∈ (start newDevice).run
        [helloFrom (2 ^ 32 - 1) true, .log true 0 0],
      ∃ entry ∈ final.logged, ∃ id ∈ entry.received, entry.id < id) ∧
      ∃ final ∈ (start newDevice).run [helloFrom 100 false, .log true 0 0],
        ∃ entry ∈ final.logged, ∃ id ∈ entry.received, entry.id < id := by
  decide +kernel

end HelloSession

end SensorFirmware
