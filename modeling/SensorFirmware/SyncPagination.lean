import SensorFirmware.HistoryRefinement
import SensorFirmware.ProtocolDispatch
import Mathlib.Data.List.Sort

/-!
# Fetching missed detections page by page

An app repeats SYNC_REQUEST with the largest identifier it has.  Between two
requests anything may happen to the handler, and events may be marked; only
nothing is logged, so that the identifiers in the ring stay the same.
-/

namespace SensorFirmware

open GuardedRun CyclicBuffer

variable {cfg : HistoryConfig} {σ : Type}

/-- The identifier that a reply has brought to the app. -/
def Reply.deliveredId (reply : Reply) : Option ℕ :=
  match reply.frame with
  | some frame =>
      if reply.sent && frameType frame ==
          some MessageType.detectionEvent.code then
        some (frameEventId frame)
      else none
  | none => none

/-- A request with the number it carried, and the replies to it. -/
structure SyncPage where
  since : ℕ
  replies : List Reply
  deriving DecidableEq

def SyncPage.delivered (page : SyncPage) : List ℕ :=
  page.replies.filterMap Reply.deliveredId

/-- What a request meets when it arrives. -/
structure SyncArrival (cfg : HistoryConfig) (σ : Type) where
  device : ProtocolDevice cfg σ
  env : MessageEnv
  others : ℕ → ProtocolHandler → ProtocolHandler
  seqNum : ℕ

structure SyncExchange where
  lastId : ℕ
  pages : List SyncPage
  deriving DecidableEq

namespace SyncExchange

def start (sinceId : ℕ) : SyncExchange := ⟨sinceId, []⟩

def request (exchange : SyncExchange) (arrival : SyncArrival cfg σ) :
    Option SyncExchange :=
  (arrival.device.react.handleSyncRequest arrival.env arrival.others
    arrival.seqNum (be32Bytes exchange.lastId)).map fun r =>
      let page : SyncPage := ⟨exchange.lastId, r.replies⟩
      { lastId := page.delivered.foldl max exchange.lastId
        pages := exchange.pages ++ [page] }

def delivered (exchange : SyncExchange) : List ℕ :=
  exchange.pages.flatMap SyncPage.delivered

end SyncExchange

/-- The ring is readable and has these identifiers. -/
structure ReadsIds (history : HistoryService cfg) (ids : List ℕ) : Prop where
  initialized : history.initialized = true
  head_lt : history.state.head < cfg.bufferSize
  tail_lt : history.state.tail < cfg.bufferSize
  ids : history.state.ringWindow.map DetectionEvent.id = ids

structure SyncArrival.Reads (ids : List ℕ) (arrival : SyncArrival cfg σ) :
    Prop where
  history : ReadsIds arrival.device.history ids
  locked : ∀ turn, arrival.env.eventsLocked turn = true

/-- Where there was something to send it was tried, and what could be sent has
arrived. -/
def SyncPage.Progress (ids : List ℕ) (page : SyncPage) : Prop :=
  (∃ id ∈ ids, page.since < id) →
    ∃ first rest, page.replies = first :: rest ∧
      first.type = .detectionEvent ∧
      (first.sent = true → page.delivered ≠ [])

/-- The app has everything up to its last identifier, and each request has
brought at most ten events and at least one that could be sent. -/
structure SyncExchange.Complete (ids : List ℕ) (sinceId : ℕ)
    (exchange : SyncExchange) : Prop where
  lastId : exchange.lastId = exchange.delivered.foldl max sinceId
  delivered : exchange.delivered =
    ids.filter fun id => sinceId < id && id ≤ exchange.lastId
  increasing : exchange.delivered.Pairwise (· < ·)
  short : ∀ page ∈ exchange.pages, page.delivered.length ≤ 10
  progress : ∀ page ∈ exchange.pages, page.Progress ids

/-! ## One turn -/

theorem ProtocolHandler.sent_frame (handler : ProtocolHandler)
    (connected : Bool) (link : BleLink) (locked : Bool) (now : ℕ)
    (type : MessageType) (payload : List Byte) (requireAck : Bool)
    (hsent : (handler.sendMessage connected link locked now type payload
      requireAck).sent = true) :
    ∃ frame, (handler.sendMessage connected link locked now type payload
        requireAck).frame = some frame ∧
      buildFrame type payload handler.txSeqNum = some frame := by
  unfold sendMessage at hsent ⊢
  dsimp only at hsent ⊢
  split at hsent
  next hready =>
    rw [if_pos hready]
    cases hbuild : buildFrame type payload handler.txSeqNum with
    | none => simp [hbuild, SendOutcome.dropped] at hsent
    | some frame =>
        rw [hbuild] at hsent
        refine ⟨frame, ?_, rfl⟩
        dsimp only at hsent ⊢
        split at hsent
        next hack =>
          rw [if_pos hack]
          split at hsent
          · cases hsent
          next htrack =>
            exact frame_notify _ _ _ _ _
        next hack =>
          rw [if_neg hack]
          exact frame_notify _ _ _ _ _
  · cases hsent

theorem getEventsSince_reads {history : HistoryService cfg}
    {ids : List ℕ} (hreads : ReadsIds history ids) (since : ℕ) :
    history.getEventsSince true since 1 = some (true,
      (history.state.ringWindow.filter
        fun event => since < event.id).take 1) :=
  HistoryService.collectEvents_eq hreads.initialized hreads.head_lt
    hreads.tail_lt _ 1

/-- What follows the next identifier is what lies above it. -/
theorem filter_above_tail {ids : List ℕ} (hids : ids.Pairwise (· < ·))
    {since id : ℕ} {rest : List ℕ}
    (hnext : ids.filter (fun other => since < other) = id :: rest) :
    ids.filter (fun other => id < other) = rest := by
  have hincreasing := hids.filter fun other => decide (since < other)
  rw [hnext] at hincreasing
  obtain ⟨hfirst, -⟩ := List.pairwise_cons.mp hincreasing
  have habove : since < id := by
    have hmem : id ∈ ids.filter fun other => decide (since < other) := by
      rw [hnext]
      exact .head rest
    simpa using (List.mem_filter.mp hmem).2
  have hsame : ids.filter (fun other => decide (id < other)) =
      (ids.filter fun other => decide (since < other)).filter
        fun other => decide (id < other) := by
    rw [List.filter_filter]
    apply List.filter_congr
    intro other _
    by_cases hother : id < other
    · simp [hother, habove.trans hother]
    · simp [hother]
  rw [hsame, hnext, List.filter_cons_of_neg (by simp),
    List.filter_eq_self]
  simpa using hfirst

theorem ReadsIds.filter_ids {history : HistoryService cfg} {ids : List ℕ}
    (hreads : ReadsIds history ids) (since : ℕ) :
    (history.state.ringWindow.filter fun event => since < event.id).map
        DetectionEvent.id = ids.filter fun id => since < id := by
  rw [← hreads.ids, List.filter_map]
  rfl

theorem deliveredId_detection {event : DetectionEvent}
    (hword : event.id < 2 ^ 32) {outcome : SendOutcome}
    (hbuilt : outcome.sent = true → ∃ seqNum frame,
      outcome.frame = some frame ∧
        buildFrame .detectionEvent event.toBytes seqNum = some frame) :
    Reply.deliveredId
        ⟨.detectionEvent, event.toBytes, outcome.frame, outcome.sent⟩ =
      if outcome.sent then some event.id else none := by
  unfold Reply.deliveredId
  cases hsent : outcome.sent with
  | false => cases outcome.frame <;> simp
  | true =>
      obtain ⟨seqNum, frame, hframe, hbuild⟩ := hbuilt hsent
      simp [hframe, frameType_buildFrame hbuild,
        frameEventId_buildFrame hbuild, u32_of_lt hword]

/-- What the loop has done when it ends. -/
structure SyncedBatch (ids : List ℕ) (left since : ℕ)
    (before after : Reaction cfg σ) (attempts : List Reply) (count : ℕ) :
    Prop where
  replies : after.replies = before.replies ++ attempts
  count_le : count ≤ left
  delivered : attempts.filterMap Reply.deliveredId =
    (ids.filter fun id => since < id).take count
  progress : 0 < left → (∃ id ∈ ids, since < id) →
    ∃ first rest, attempts = first :: rest ∧
      first.type = .detectionEvent ∧ (first.sent = true → 0 < count)

theorem syncEvents_spec (env : MessageEnv)
    (others : ℕ → ProtocolHandler → ProtocolHandler) {ids : List ℕ}
    (hids : ids.Pairwise (· < ·)) (hwords : ∀ id ∈ ids, id < 2 ^ 32)
    (hlocked : ∀ turn, env.eventsLocked turn = true) (left since : ℕ)
    (r : Reaction cfg σ) (hreads : ReadsIds r.history ids) :
    ∃ after attempts count,
      r.syncEvents env others left since = some after ∧
        SyncedBatch ids left since r after attempts count := by
  induction left generalizing since r with
  | zero =>
      refine ⟨r, [], 0, rfl, ⟨by simp, le_rfl, by simp, ?_⟩⟩
      intro hleft
      exact absurd hleft (lt_irrefl 0)
  | succ left ih =>
      have hevents := getEventsSince_reads hreads since
      have hfilter := hreads.filter_ids since
      unfold Reaction.syncEvents
      rw [hlocked left, hevents, Option.bind_some]
      cases hnext : r.history.state.ringWindow.filter fun event => since < event.id with
      | nil =>
          rw [hnext] at hfilter
          refine ⟨r, [], 0, rfl, ⟨by simp, Nat.zero_le _, by simp, ?_⟩⟩
          rintro - ⟨id, hid, habove⟩
          have hmem : id ∈ ids.filter fun id => since < id :=
            List.mem_filter.mpr ⟨hid, by simpa using habove⟩
          rw [← hfilter] at hmem
          cases hmem
      | cons event rest =>
          rw [hnext, List.map_cons] at hfilter
          have hmem : event.id ∈ ids := by
            have hfirst : event.id ∈ ids.filter fun id => since < id := by
              rw [← hfilter]
              exact .head _
            exact (List.mem_filter.mp hfirst).1
          have hrest := filter_above_tail hids hfilter.symm
          simp only [List.take_succ_cons, List.take_zero]
          obtain ⟨outcome, houtcome⟩ : ∃ outcome, outcome =
              (others r.replies.length r.handler).sendDetectionEvent
                (env.send r.replies.length).connected
                (env.send r.replies.length).link
                (env.send r.replies.length).locked
                (env.send r.replies.length).now event true := ⟨_, rfl⟩
          rw [← houtcome]
          have hbuilt : outcome.sent = true → ∃ seqNum frame,
              outcome.frame = some frame ∧
                buildFrame .detectionEvent event.toBytes seqNum =
                  some frame := by
            intro hsent
            rw [houtcome] at hsent ⊢
            obtain ⟨frame, hframe, hbuild⟩ :=
              ProtocolHandler.sent_frame _ _ _ _ _ _ _ _ hsent
            exact ⟨_, frame, hframe, hbuild⟩
          have hid := deliveredId_detection (hwords event.id hmem) hbuilt
          let reply : Reply :=
            ⟨.detectionEvent, event.toBytes, outcome.frame, outcome.sent⟩
          cases hsent : outcome.sent with
          | false =>
              rw [hsent] at hid
              refine ⟨_, [reply], 0, rfl, ⟨rfl, Nat.zero_le _, ?_, ?_⟩⟩
              · simp [reply, hsent, hid]
              · intro _ _
                exact ⟨reply, [], rfl, rfl, by simp [reply, hsent]⟩
          | true =>
              rw [hsent] at hid
              obtain ⟨after, attempts, count, hloop, hbatch⟩ := ih event.id
                (r.afterSend .detectionEvent event.toBytes outcome) hreads
              refine ⟨after, reply :: attempts, count + 1, hloop,
                ⟨?_, ?_, ?_, ?_⟩⟩
              · rw [hbatch.replies]
                exact List.append_assoc _ _ _
              · exact Nat.succ_le_succ hbatch.count_le
              · rw [← hfilter, List.take_succ_cons, ← hrest,
                  ← hbatch.delivered]
                simp [reply, hsent, hid]
              · intro _ _
                exact ⟨reply, attempts, rfl, rfl, fun _ => Nat.succ_pos count⟩

/-! ## One request -/

theorem deliveredId_ack (handler : ProtocolHandler) (here : SendEnv)
    (payload : List Byte) :
    Reply.deliveredId
        ⟨.ack, payload,
          (handler.sendMessage here.connected here.link here.locked here.now
            .ack payload false).frame,
          (handler.sendMessage here.connected here.link here.locked here.now
            .ack payload false).sent⟩ = none := by
  unfold Reply.deliveredId
  cases hframe : (handler.sendMessage here.connected here.link here.locked
    here.now .ack payload false).frame with
  | none => rfl
  | some frame =>
      cases hsent : (handler.sendMessage here.connected here.link here.locked
        here.now .ack payload false).sent with
      | false => rfl
      | true =>
          obtain ⟨built, hbuilt, hbuild⟩ :=
            ProtocolHandler.sent_frame _ _ _ _ _ _ _ _ hsent
          have hsame : frame = built := by
            rw [hframe] at hbuilt
            exact Option.some.inj hbuilt
          simp [hsame, frameType_buildFrame hbuild, MessageType.code]

theorem foldl_max_lt {values : List ℕ} {start bound : ℕ}
    (hstart : start < bound) (hvalues : ∀ value ∈ values, value < bound) :
    values.foldl max start < bound := by
  induction values generalizing start with
  | nil => exact hstart
  | cons value rest ih =>
      have hvalue := hvalues value (.head rest)
      exact ih (max_lt hstart hvalue) fun other hother =>
        hvalues other (.tail _ hother)

theorem le_foldl_max (values : List ℕ) (start : ℕ) :
    start ≤ values.foldl max start ∧
      ∀ value ∈ values, value ≤ values.foldl max start := by
  induction values generalizing start with
  | nil => exact ⟨le_rfl, nofun⟩
  | cons value rest ih =>
      obtain ⟨hstart, hrest⟩ := ih (max start value)
      refine ⟨(le_max_left start value).trans hstart, ?_⟩
      intro other hother
      rcases List.mem_cons.mp hother with rfl | htail
      · exact (le_max_right start other).trans hstart
      · exact hrest other htail

/-- A further page continues what was delivered without a gap. -/
theorem filter_extend {ids : List ℕ} (hids : ids.Pairwise (· < ·))
    {since last : ℕ} (hle : since ≤ last) (count : ℕ) :
    (ids.filter fun id => since < id && id ≤ last) ++
        (ids.filter fun id => last < id).take count =
      ids.filter fun id => since < id && id ≤
        ((ids.filter fun id => last < id).take count).foldl max last := by
  have habove := hids.filter fun id => decide (last < id)
  have hsplit := habove
  rw [← List.take_append_drop count
    (ids.filter fun id => decide (last < id))] at hsplit
  obtain ⟨hpage, -, hlater⟩ := List.pairwise_append.mp hsplit
  obtain ⟨hlast, hmax⟩ := le_foldl_max
    ((ids.filter fun id => decide (last < id)).take count) last
  apply List.Pairwise.eq_of_mem_iff (r := (· < ·))
  · refine List.pairwise_append.mpr ⟨hids.filter _, hpage, ?_⟩
    intro low hlow high hhigh
    have hhigh := (List.mem_filter.mp (List.mem_of_mem_take hhigh)).2
    have hlow := (List.mem_filter.mp hlow).2
    simp only [Bool.and_eq_true, decide_eq_true_eq] at hlow hhigh
    omega
  · exact hids.filter _
  intro id
  simp only [List.mem_append, List.mem_filter, Bool.and_eq_true,
    decide_eq_true_eq]
  constructor
  · rintro (⟨hid, hsince, hle'⟩ | hid)
    · exact ⟨hid, hsince, hle'.trans hlast⟩
    · have hmem := List.mem_filter.mp (List.mem_of_mem_take hid)
      have habove : last < id := by simpa using hmem.2
      exact ⟨hmem.1, lt_of_le_of_lt hle habove, hmax id hid⟩
  · rintro ⟨hid, hsince, hle'⟩
    by_cases hold : id ≤ last
    · exact .inl ⟨hid, hsince, hold⟩
    · right
      have hmem : id ∈ ids.filter fun id => decide (last < id) :=
        List.mem_filter.mpr ⟨hid, by simpa using hold⟩
      rw [← List.take_append_drop count
        (ids.filter fun id => decide (last < id))] at hmem
      rcases List.mem_append.mp hmem with htaken | hleft
      · exact htaken
      · have hlt := foldl_max_lt (not_le.mp hold)
          fun value hvalue => hlater value hvalue id hleft
        omega

namespace SyncExchange

theorem request_spec {ids : List ℕ} (hids : ids.Pairwise (· < ·))
    (hwords : ∀ id ∈ ids, id < 2 ^ 32) {exchange : SyncExchange}
    (hlast : exchange.lastId < 2 ^ 32) {arrival : SyncArrival cfg σ}
    (hreads : arrival.Reads ids) :
    ∃ page : SyncPage, ∃ count,
      exchange.request arrival = some
          { lastId := page.delivered.foldl max exchange.lastId
            pages := exchange.pages ++ [page] } ∧
        page.delivered =
          (ids.filter fun id => exchange.lastId < id).take count ∧
        count ≤ 10 ∧ page.Progress ids := by
  obtain ⟨after, attempts, count, hloop, hbatch⟩ :=
    syncEvents_spec arrival.env arrival.others hids hwords hreads.locked 10
      exchange.lastId arrival.device.react hreads.history
  have hreplies : after.replies = attempts := hbatch.replies
  have hsince := be32_be32Bytes hlast []
  rw [List.append_nil] at hsince
  let page : SyncPage :=
    ⟨exchange.lastId, (after.sendAck arrival.env arrival.seqNum).replies⟩
  have hdelivered : page.delivered =
      (ids.filter fun id => exchange.lastId < id).take count := by
    rw [← hbatch.delivered, ← hreplies]
    simp only [page, SyncPage.delivered, Reaction.sendAck,
      Reaction.sendMessage, Reaction.afterSend, List.filterMap_append,
      List.filterMap_cons, deliveredId_ack, List.filterMap_nil,
      List.append_nil]
  refine ⟨page, count, ?_, hdelivered, hbatch.count_le, ?_⟩
  · simp only [request, Reaction.handleSyncRequest, hsince, hloop,
      Option.map_some]
    rfl
  · intro hmore
    obtain ⟨first, rest, hattempts, htype, hsent⟩ :=
      hbatch.progress (by decide) hmore
    obtain ⟨id, hid, habove⟩ := hmore
    have hpage : page.replies = first :: (rest ++
        [(after.sendAck arrival.env arrival.seqNum).replies.getLast
          (by simp [Reaction.sendAck, Reaction.sendMessage,
            Reaction.afterSend])]) := by
      simp [page, Reaction.sendAck, Reaction.sendMessage, Reaction.afterSend,
        hreplies, hattempts]
    refine ⟨first, _, hpage, htype, fun hfirst hnone => ?_⟩
    have hcount := hsent hfirst
    have hmem : id ∈ ids.filter fun id => exchange.lastId < id :=
      List.mem_filter.mpr ⟨hid, by simpa using habove⟩
    rw [hdelivered, List.take_eq_nil_iff] at hnone
    rcases hnone with hzero | hempty
    · omega
    · rw [hempty] at hmem
      cases hmem

theorem Complete.request {ids : List ℕ} (hids : ids.Pairwise (· < ·))
    (hwords : ∀ id ∈ ids, id < 2 ^ 32) {sinceId : ℕ}
    {exchange : SyncExchange} (hcomplete : exchange.Complete ids sinceId)
    (hlast : exchange.lastId < 2 ^ 32) {arrival : SyncArrival cfg σ}
    (hreads : arrival.Reads ids) :
    ∃ next, exchange.request arrival = some next ∧
      next.Complete ids sinceId ∧ next.lastId < 2 ^ 32 := by
  obtain ⟨page, count, hrequest, hpage, hcount, hprogress⟩ :=
    request_spec hids hwords hlast hreads
  have hle : sinceId ≤ exchange.lastId := by
    rw [hcomplete.lastId]
    exact (le_foldl_max _ _).1
  let next : SyncExchange :=
    { lastId := page.delivered.foldl max exchange.lastId
      pages := exchange.pages ++ [page] }
  have hnext : next.delivered = exchange.delivered ++ page.delivered := by
    simp [next, SyncExchange.delivered]
  have hall : next.delivered =
      ids.filter fun id => sinceId < id && id ≤ next.lastId := by
    rw [hnext, hcomplete.delivered, hpage,
      filter_extend hids hle count, ← hpage]
  refine ⟨next, hrequest, ⟨?_, hall, ?_, ?_, ?_⟩, ?_⟩
  · rw [hnext, List.foldl_append, ← hcomplete.lastId]
  · rw [hall]
    exact hids.filter _
  · intro other hother
    rcases List.mem_append.mp hother with hold | hnew
    · exact hcomplete.short other hold
    · rw [List.mem_singleton.mp hnew, hpage]
      exact (List.length_take_le _ _).trans hcount
  · intro other hother
    rcases List.mem_append.mp hother with hold | hnew
    · exact hcomplete.progress other hold
    · rw [List.mem_singleton.mp hnew]
      exact hprogress
  · apply foldl_max_lt hlast
    intro id hid
    rw [hpage] at hid
    exact hwords id (List.mem_filter.mp (List.mem_of_mem_take hid)).1

end SyncExchange

/-- Under any pattern of failed sends the app ends up with exactly the events
of the ring up to its last identifier. -/
theorem sync_exchange_complete {ids : List ℕ} (hids : ids.Pairwise (· < ·))
    (hwords : ∀ id ∈ ids, id < 2 ^ 32) {sinceId : ℕ}
    (hsince : sinceId < 2 ^ 32) {arrivals : List (SyncArrival cfg σ)}
    (harrivals : ∀ arrival ∈ arrivals, arrival.Reads ids) :
    ∃ final, attempt SyncExchange.request (.start sinceId) arrivals =
        some final ∧ final.Complete ids sinceId := by
  have hstep : ∀ (exchange : SyncExchange) (arrival : SyncArrival cfg σ),
      exchange.Complete ids sinceId ∧ exchange.lastId < 2 ^ 32 →
        arrival.Reads ids →
          ∃ next, exchange.request arrival = some next ∧
            next.Complete ids sinceId ∧ next.lastId < 2 ^ 32 :=
    fun exchange arrival hinv hreads =>
      SyncExchange.Complete.request hids hwords hinv.1 hinv.2 hreads
  have hstart : (SyncExchange.start sinceId).Complete ids sinceId := by
    refine ⟨rfl, ?_, .nil, nofun, nofun⟩
    symm
    apply List.filter_eq_nil_iff.mpr
    intro id _
    have hlast : (SyncExchange.start sinceId).lastId = sinceId := rfl
    simp only [hlast, Bool.and_eq_true, decide_eq_true_eq]
    omega
  obtain ⟨final, hrun, hfinal, -⟩ := invariant_attempt hstep
    ⟨hstart, hsince⟩ (guardedAttempt_of_forall_mem harrivals _)
  exact ⟨final, hrun, hfinal⟩

/-- A device with the detections 1 and 2 in its ring. -/
def twoDetections : ProtocolDevice .fourSlots Unit :=
  let setUp := ProtocolDevice.setUp .fourSlots ()
  { setUp with history := { setUp.history with
    state := { setUp.history.state with
      head := 2
      globalEventId := 2
      buffer := (setUp.history.state.buffer.set 0
        (freshEvent 1 1 0 40 false) HistoryConfig.fourSlots.bufferSize_pos).set 1
          (freshEvent 2 1 0 40 false)
          HistoryConfig.fourSlots.two_le_bufferSize } } }

/-- The second send of the first request fails. -/
def interruptedRequests : List (SyncArrival .fourSlots Unit) :=
  [{ device := twoDetections
     env := { MessageEnv.good with send := fun n =>
       if n = 1 then { SendEnv.good with locked := false } else .good }
     others := fun _ handler => handler
     seqNum := 1 },
   { device := twoDetections
     env := .good
     others := fun _ handler => handler
     seqNum := 2 }]

theorem interrupted_requests_complete :
    ∃ final, attempt SyncExchange.request (.start 0) interruptedRequests =
        some final ∧ final.Complete [1, 2] 0 := by
  have hreads : ∀ arrival ∈ interruptedRequests, arrival.Reads [1, 2] := by
    intro arrival harrival
    rcases List.mem_cons.mp harrival with rfl | hrest
    · exact ⟨⟨rfl, by decide, by decide, by decide⟩, fun _ => rfl⟩
    · rw [List.mem_singleton.mp hrest]
      exact ⟨⟨rfl, by decide, by decide, by decide⟩, fun _ => rfl⟩
  exact sync_exchange_complete (by decide) (by decide) (by decide) hreads

end SensorFirmware
