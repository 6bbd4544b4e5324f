import SensorFirmware.FlasherPast
import SensorFirmware.FlasherRejectedChunk
import SensorFirmware.FlasherWrites

/-!
# What an abort leaves behind

The reset sets every field that a session uses and leaves the bytes in the
chunk buffer, whose size in use it sets to zero.  Only the time of the last
battery poll, a static variable of the run loop, stays.  So from the reset on
the device behaves like one that has just become ready and polls its battery
at the same times.
-/

namespace SensorFirmware

open GuardedRun

/-- What a client and the `Update` library see of an iteration. -/
structure FlasherObservation where
  response : Option FlasherResponse
  events : List FlasherEvent
  restarted : Bool
  deriving DecidableEq, Repr

/-- The reset sets all fields but the voltages measured at boot and the time
of the last battery poll. -/
theorem Flasher.abort_resets (cfg : FlasherConfig) {f : Flasher}
    (hlive : f.restarted = false) (abortMs : ℕ) (env : LoopEnv) :
    ∃ past, f.serveAndAct cfg ⟨some (abortMs, .abort), env⟩ =
      resume past
        { ready f.state.vIdle f.state.vLoad env.actionMs with
          lastBattCheck := f.lastBattCheck } := by
  cases hrunning : env.update.isRunning with
  | false =>
      refine ⟨.execute .abortReset :: .schedule .abortReset :: f.trace, ?_⟩
      simp [serveAndAct, serve, handleRequest, handleAbort, executeAction,
        resetFlasherState, ready, resume, hrunning, hlive]
  | true =>
      refine ⟨.abort :: .execute .abortReset :: .schedule .abortReset ::
        f.trace, ?_⟩
      simp [serveAndAct, serve, handleRequest, handleAbort, executeAction,
        resetFlasherState, ready, resume, hrunning, hlive]

namespace BufferedFlasher

/-- The events are those that the iteration has added. -/
def observeOne (cfg : FlasherConfig) (s : BufferedFlasher)
    (iteration : Iteration) : FlasherObservation :=
  let next := s.iterate cfg iteration
  { response :=
      if s.flasher.restarted then none
      else (s.serve cfg iteration.request).2
    events := next.flasher.trace.take
      (next.flasher.trace.length - s.flasher.trace.length)
    restarted := next.flasher.restarted }

def observe (cfg : FlasherConfig) :
    BufferedFlasher → List Iteration → List FlasherObservation
  | _, [] => []
  | s, iteration :: later =>
      s.observeOne cfg iteration ::
        observe cfg (s.iterate cfg iteration) later

/-- The device in the iteration that serves `/abort`, when the reset has been
executed. -/
def afterReset (cfg : FlasherConfig) (s : BufferedFlasher) (abortMs : ℕ)
    (env : LoopEnv) : BufferedFlasher :=
  s.serveAndAct cfg ⟨some (abortMs, .abort), env⟩

/-- The same device, just ready. -/
def freshReady (cfg : FlasherConfig) (s : BufferedFlasher) (ms : ℕ) :
    BufferedFlasher :=
  ready cfg s.flasher.state.vIdle s.flasher.state.vLoad ms

def withBatteryTimer (s : BufferedFlasher) (lastBattCheck : ℕ) :
    BufferedFlasher :=
  { s with flasher := { s.flasher with lastBattCheck := lastBattCheck } }

/-! ## Two devices that differ in the past -/

variable {cfg : FlasherConfig} {uploadBuflen : ℕ}

theorem Refines.trace {s : BufferedFlasher} {f : Flasher}
    (hs : Refines cfg s f) : s.flasher.trace = f.trace := by
  rw [← hs.view]
  rfl

theorem observeOne_resume
    (hfits : cfg.maxChunkSize + uploadBuflen < 2 ^ 32)
    {s : BufferedFlasher} {f : Flasher} {past : List FlasherEvent}
    (hs : Refines cfg s (f.resume past)) {iteration : Iteration}
    (hfragments : iteration.FragmentsFit uploadBuflen) :
    s.observeOne cfg iteration =
      { response :=
          if f.restarted then none else (f.serve cfg iteration.request).2
        events := (f.iterate cfg iteration).trace.take
          ((f.iterate cfg iteration).trace.length - f.trace.length)
        restarted := (f.iterate cfg iteration).restarted } := by
  have hnext := hs.iterate hfits hfragments
  have hserved := (hs.serve hfits hfragments).2
  rw [Flasher.serve_resume] at hserved
  rw [Flasher.iterate_resume] at hnext
  unfold observeOne
  dsimp only
  rw [hs.restarted, hs.trace, hnext.trace, hnext.restarted, hserved]
  simp only [Flasher.resume, List.length_append, Nat.add_sub_add_right,
    FlasherObservation.mk.injEq, and_true]
  exact ⟨rfl, List.take_append_of_le_length (Nat.sub_le _ _)⟩

/-- The devices are the same but for their traces and unused memory. -/
def Alike (cfg : FlasherConfig) (s t : BufferedFlasher) : Prop :=
  ∃ f past past', Refines cfg s (Flasher.resume past f) ∧
    Refines cfg t (Flasher.resume past' f)

theorem Alike.iterate (hfits : cfg.maxChunkSize + uploadBuflen < 2 ^ 32)
    {s t : BufferedFlasher} (halike : Alike cfg s t)
    {iteration : Iteration}
    (hfragments : iteration.FragmentsFit uploadBuflen) :
    Alike cfg (s.iterate cfg iteration) (t.iterate cfg iteration) := by
  obtain ⟨f, past, past', hs, ht⟩ := halike
  have hsnext := hs.iterate hfits hfragments
  have htnext := ht.iterate hfits hfragments
  rw [Flasher.iterate_resume] at hsnext htnext
  exact ⟨_, past, past', hsnext, htnext⟩

theorem Alike.finish {s t : BufferedFlasher} (halike : Alike cfg s t)
    (env : LoopEnv) : Alike cfg (s.finish cfg env) (t.finish cfg env) := by
  obtain ⟨f, past, past', hs, ht⟩ := halike
  have hsnext := hs.finish env
  have htnext := ht.finish env
  rw [Flasher.finish_resume] at hsnext htnext
  exact ⟨_, past, past', hsnext, htnext⟩

theorem Alike.observe (hfits : cfg.maxChunkSize + uploadBuflen < 2 ^ 32)
    {s t : BufferedFlasher} (halike : Alike cfg s t)
    {later : List Iteration}
    (hfragments : ∀ iteration ∈ later,
      iteration.FragmentsFit uploadBuflen) :
    s.observe cfg later = t.observe cfg later := by
  induction later generalizing s t with
  | nil => rfl
  | cons iteration later ih =>
      have hhere := hfragments iteration (.head later)
      have hrest := ih (halike.iterate hfits hhere)
        fun other hother => hfragments other (.tail _ hother)
      obtain ⟨f, past, past', hs, ht⟩ := halike
      have hone : s.observeOne cfg iteration = t.observeOne cfg iteration :=
        (observeOne_resume hfits hs hhere).trans
          (observeOne_resume hfits ht hhere).symm
      exact congrArg₂ List.cons hone hrest

/-! ## The reset -/

theorem refines_withBatteryTimer {s : BufferedFlasher} {f : Flasher}
    (hs : Refines cfg s f) (lastBattCheck : ℕ) :
    Refines cfg (s.withBatteryTimer lastBattCheck)
      { f with lastBattCheck := lastBattCheck } := by
  obtain ⟨hsound, rfl⟩ := hs
  exact ⟨⟨hsound.array, hsound.sizes, hsound.log⟩, rfl⟩

/-- Only the times at which the battery is polled tell the two apart. -/
theorem Refines.alike_afterReset
    (hfits : cfg.maxChunkSize + uploadBuflen < 2 ^ 32)
    {s : BufferedFlasher} {f : Flasher} (hs : Refines cfg s f)
    (hlive : f.restarted = false) (abortMs : ℕ) (env : LoopEnv) :
    Alike cfg (s.afterReset cfg abortMs env)
      ((s.freshReady cfg env.actionMs).withBatteryTimer
        s.flasher.lastBattCheck) := by
  have hfragments :
      (⟨some (abortMs, .abort), env⟩ : Iteration).FragmentsFit
        uploadBuflen := by
    simp [Iteration.FragmentsFit, Iteration.fragments]
  obtain ⟨hsound, rfl⟩ := hs
  have haborted := Refines.serveAndAct hfits ⟨hsound, rfl⟩ hfragments
  obtain ⟨past, hreset⟩ := Flasher.abort_resets cfg hlive abortMs env
  rw [hreset] at haborted
  have hfresh := refines_withBatteryTimer
    (refines_ready cfg s.flasher.state.vIdle s.flasher.state.vLoad
      env.actionMs) s.flasher.lastBattCheck
  have hnone (g : Flasher) : g = g.resume [] :=
    congrArg (fun trace => ({ g with trace := trace } : Flasher))
      (List.append_nil g.trace).symm
  rw [hnone { Flasher.ready _ _ _ with lastBattCheck := _ }] at hfresh
  exact ⟨_, past, [], haborted, hfresh⟩

/-! ## What is written afterwards -/

theorem Refines.observeOne_writes
    (hfits : cfg.maxChunkSize + uploadBuflen < 2 ^ 32)
    {s : BufferedFlasher} {f : Flasher} (hs : Refines cfg s f)
    (hcoherent : f.Coherent) {iteration : Iteration}
    (hfragments : iteration.FragmentsFit uploadBuflen)
    {data : List Byte} {sent : Option SentChunk}
    (hwrite : .write data sent ∈ (s.observeOne cfg iteration).events) :
    data ∈ iteration.bodies := by
  -- the events are what the same device does without a past
  have hclean : Refines cfg s
      (Flasher.resume f.trace { f with trace := [] }) := hs
  have hevents := congrArg FlasherObservation.events
    (observeOne_resume hfits hclean hfragments)
  have hgrown := congrArg Flasher.trace
    (Flasher.iterate_resume f.trace { f with trace := [] } cfg iteration)
  generalize ({ f with trace := [] } : Flasher).iterate cfg iteration = next
    at hevents hgrown
  have hnext : (f.iterate cfg iteration).trace = next.trace ++ f.trace :=
    hgrown
  obtain ⟨newer, hnewer, hsources⟩ :=
    hcoherent.iterate_writesOnly cfg iteration
  rw [hnext, updateWrites, List.filterMap_append] at hnewer
  rw [hevents] at hwrite
  apply hsources
  rw [← List.append_cancel_right hnewer]
  exact List.mem_filterMap.mpr ⟨_, List.mem_of_mem_take hwrite, rfl⟩

theorem Refines.observe_writes
    (hfits : cfg.maxChunkSize + uploadBuflen < 2 ^ 32)
    {s : BufferedFlasher} {f : Flasher} (hs : Refines cfg s f)
    (hcoherent : f.Coherent) {later : List Iteration}
    (hfragments : ∀ iteration ∈ later,
      iteration.FragmentsFit uploadBuflen) :
    ∀ observation ∈ s.observe cfg later, ∀ data sent,
      .write data sent ∈ observation.events →
        data ∈ later.flatMap Iteration.bodies := by
  induction later generalizing s f with
  | nil => simp [observe]
  | cons iteration later ih =>
      have hhere := hfragments iteration (.head later)
      have hrest := ih (hs.iterate hfits hhere)
        (hcoherent.iterate cfg iteration)
        fun other hother => hfragments other (.tail _ hother)
      intro observation hmem data sent hwrite
      rw [List.flatMap_cons, List.mem_append]
      rcases List.mem_cons.mp hmem with rfl | hlater
      · exact .inl (hs.observeOne_writes hfits hcoherent hhere hwrite)
      · exact .inr (hrest observation hlater data sent hwrite)

end BufferedFlasher

/-! ## The next session -/

namespace Flasher

/-- Without a queued chunk only the watchdogs act in the second half, and they
can only abort. -/
theorem state_finish_of_receiving {cfg : FlasherConfig} {f : Flasher}
    (hqueued : f.chunk.state ≠ .queued) {env : LoopEnv}
    (hreceiving : (f.finish cfg env).state.phase = .receiving) :
    (f.finish cfg env).state = f.state := by
  have hsame : f.processPendingChunk env = f := if_pos hqueued
  have hwatch := watchStep_watchdogs cfg f env
  unfold finish at hreceiving ⊢
  rw [hsame] at hreceiving ⊢
  rcases hwatch.outcome with ⟨hstate, -⟩ | ⟨-, herror, -⟩
  · exact hstate
  · rw [herror] at hreceiving
    cases hreceiving

/-- An iteration that takes the device from `READY` to `RECEIVING` has begun
the session that its `/start` asked for. -/
theorem Settable.session_begun (cfg : FlasherConfig) {f : Flasher}
    (hf : f.Settable) (hlive : f.restarted = false)
    (hready : f.state.phase = .ready) {ms : ℕ} {headers : FlasherHeaders}
    {partitionSize : Option ℕ} {env : LoopEnv} {next : Flasher}
    (hnext : f.iterate cfg
      ⟨some (ms, .start headers partitionSize), env⟩ = next)
    (hgoes : next.restarted = false)
    (hreceiving : next.state.phase = .receiving) :
    next.state.sessionId = strtoul headers.sessionId ∧
      next.state.lastChunkIndex = -1 := by
  obtain ⟨-, hqueued⟩ := hf.coherent.slot hlive
  rcases iterate_cases cfg hlive
    ⟨some (ms, .start headers partitionSize), env⟩ with
    ⟨hacted, hiterate⟩ | ⟨-, hiterate⟩
  · rw [← hnext, hiterate, hacted] at hgoes
    cases hgoes
  · rw [hiterate] at hnext
    change (((f.handleStart ms headers partitionSize).1.executeAction
      env).finish cfg env) = next at hnext
    rcases handleStart_cases f ms headers partitionSize with
      hrefused | ⟨-, hstarted⟩
    · have haction : (f.touch ms).action = .none := by
        rcases hf.coherent.live hlive with hresting | hsucceeded
        · exact hresting.action
        · have hcomplete := hsucceeded.phase
          rw [hready] at hcomplete
          cases hcomplete
      rw [hrefused, executeAction_none haction] at hnext
      have hphase : (f.touch ms).state.phase = .ready := hready
      rw [← hnext] at hreceiving
      have hstate := state_finish_of_receiving
        (show (f.touch ms).chunk.state ≠ .queued from hqueued) hreceiving
      rw [hstate, hphase] at hreceiving
      cases hreceiving
    · rw [hstarted] at hnext
      obtain ⟨-, -, hchunk, hcases⟩ := executeAction_start rfl
        (show (({ f.touch ms with
          pendingSessionId := strtoul headers.sessionId
          pendingTotalSize := strtoul headers.totalSize }.note
            (.announce (strtoul headers.sessionId)
              (strtoul headers.totalSize))).schedule
                .startSession).state.phase = .ready from hready) env
      generalize executeAction _ env = acted at hnext hchunk hcases
      have hempty : acted.chunk.state ≠ .queued := by
        simp [hchunk, PendingChunk.idle]
      rw [← hnext] at hreceiving ⊢
      have hstate := state_finish_of_receiving hempty hreceiving
      rw [hstate] at hreceiving ⊢
      rcases hcases with hbegun | ⟨hfailed, -⟩
      · exact ⟨hbegun.sessionId, hbegun.lastChunkIndex⟩
      · rw [hfailed] at hreceiving
        cases hreceiving

/-- The first chunk of the session, whole and of a size that fits. -/
structure FirstChunk (cfg : FlasherConfig) (start chunk : FlasherHeaders)
    (part : UploadPart) : Prop where
  present : missingHeaders chunk = false
  session : strtoul chunk.sessionId = strtoul start.sessionId
  index : strtol chunk.chunkIndex = 0
  size : ValidSize cfg chunk
  whole : part.payload.length = chunkExpectedSize chunk

/-- An iteration that serves an admitted chunk ends its first half with the
chunk queued. -/
theorem serveAndAct_accepted {cfg : FlasherConfig} {f : Flasher}
    (hf : f.Settable) (hlive : f.restarted = false)
    (hphase : f.state.phase = .receiving) {headers : FlasherHeaders}
    {part : UploadPart} (hadmits : f.Admits cfg headers)
    (hwhole : part.payload.length = chunkExpectedSize headers) (ms : ℕ)
    (hasError : Bool) (env : LoopEnv) :
    (f.serve cfg (some (ms, .updateChunk headers
        (wholeUpload part hasError)))).2 =
          some (.text 202 "Chunk queued") ∧
      ∀ acted, f.serveAndAct cfg ⟨some (ms, .updateChunk headers
          (wholeUpload part hasError)), env⟩ = acted →
        acted.restarted = false ∧ BufferedFlasher.Hands acted ∧
          acted.slotChunk = announcedChunk headers part := by
  obtain ⟨sent, -, haccepted⟩ := handleUpdateChunk_accepted
    (hf.slotEmpty hlive hphase) hphase hadmits hwhole ms hasError
  refine ⟨congrArg Prod.snd haccepted, ?_⟩
  rintro _ rfl
  have haction := hf.action hlive hphase
  have hserve : (f.serve cfg (some (ms, .updateChunk headers
      (wholeUpload part hasError)))).1 = _ := congrArg Prod.fst haccepted
  unfold serveAndAct
  rw [hserve, executeAction_none (by exact haction)]
  exact ⟨hlive, ⟨rfl, hphase⟩, rfl⟩

end Flasher

namespace BufferedFlasher

variable {cfg : FlasherConfig} {uploadBuflen : ℕ}

/-- If `/start` takes the device to `RECEIVING`, then chunk 0 of that session
is answered with 202 and handed to `Update.write`. -/
def AcceptsFirstChunk (cfg : FlasherConfig) (uploadBuflen : ℕ)
    (s : BufferedFlasher) : Prop :=
  ∀ startMs start partitionSize startEnv begun,
    s.flasher.state.phase = .ready →
    s.iterate cfg ⟨some (startMs, .start start partitionSize), startEnv⟩ =
      begun →
    begun.flasher.restarted = false →
    begun.flasher.state.phase = .receiving →
    ∀ ms headers part hasError env,
      Flasher.FirstChunk cfg start headers part →
      (∀ buffer ∈ part.buffers, buffer.buf.length ≤ uploadBuflen) →
      (begun.serve cfg (some (ms, .updateChunk headers
          (Flasher.wholeUpload part hasError)))).2 =
            some (.text 202 "Chunk queued") ∧
        (begun.iterate cfg ⟨some (ms, .updateChunk headers
            (Flasher.wholeUpload part hasError)), env⟩).handed =
          announcedChunk headers part :: begun.handed

theorem Refines.state {s : BufferedFlasher} {f : Flasher}
    (hs : Refines cfg s f) : s.flasher.state = f.state := by
  rw [← hs.view]
  rfl

theorem Refines.acceptsFirstChunk
    (hfits : cfg.maxChunkSize + uploadBuflen < 2 ^ 32)
    {s : BufferedFlasher} {f : Flasher} (hs : Refines cfg s f)
    (hf : f.Settable) : AcceptsFirstChunk cfg uploadBuflen s := by
  rintro startMs start partitionSize startEnv begun hready hbegun hgoes
    hreceiving ms headers part hasError env hfirst hbuffers
  have hstart : (⟨some (startMs, .start start partitionSize),
      startEnv⟩ : Iteration).FragmentsFit uploadBuflen := by
    simp [Iteration.FragmentsFit, Iteration.fragments]
  have hnext := hs.iterate hfits hstart
  have hsettable := hf.iterate cfg
    ⟨some (startMs, .start start partitionSize), startEnv⟩
  rw [hbegun] at hnext
  rw [hs.state] at hready
  rw [hnext.restarted] at hgoes
  rw [hnext.state] at hreceiving
  have hlive : f.restarted = false := by
    by_contra hrestarted
    rw [Flasher.iterate_eq, if_pos (by simpa using hrestarted)] at hgoes
    exact hrestarted hgoes
  obtain ⟨hsession, hlast⟩ := hf.session_begun cfg hlive hready rfl hgoes
    hreceiving
  generalize f.iterate cfg _ = next
    at hnext hsettable hgoes hreceiving hsession hlast
  have hadmits : next.Admits cfg headers := by
    refine ⟨hfirst.present, hfirst.session.trans hsession.symm, ?_,
      hfirst.size⟩
    rw [hlast, hfirst.index]
    decide
  have hchunk : (⟨some (ms, .updateChunk headers
      (Flasher.wholeUpload part hasError)), env⟩ : Iteration).FragmentsFit
        uploadBuflen := by
    simpa [Iteration.FragmentsFit, Iteration.fragments, Upload.allParts,
      Flasher.wholeUpload] using hbuffers
  obtain ⟨hresponse, hacted⟩ := Flasher.serveAndAct_accepted hsettable hgoes
    hreceiving hadmits hfirst.whole ms hasError env
  obtain ⟨hrestarted, hhands, hslot⟩ := hacted _ rfl
  refine ⟨(hnext.serve hfits hchunk).2.trans hresponse, ?_⟩
  rw [hnext.handed_live hfits hgoes hchunk, if_pos ⟨hrestarted, hhands⟩,
    hslot]

/-- After the reset the device behaves like `fresh`, it writes what later
requests bring and nothing else, and whatever happens in between, the next
session can start. -/
structure CleanSlate (cfg : FlasherConfig) (uploadBuflen : ℕ)
    (s fresh : BufferedFlasher) (later : List Iteration) : Prop where
  same : s.observe cfg later = fresh.observe cfg later
  ownBytes : ∀ observation ∈ s.observe cfg later, ∀ data sent,
    .write data sent ∈ observation.events →
      data ∈ later.flatMap Iteration.bodies
  accepts : AcceptsFirstChunk cfg uploadBuflen (run (iterate cfg) s later)

/-- Whatever has happened before an abort, the rest of that iteration and all
later ones are those of the same device just ready, with its battery polled at
the same times. -/
theorem abort_leaves_clean_slate (cfg : FlasherConfig) (uploadBuflen : ℕ)
    (hfits : cfg.maxChunkSize + uploadBuflen < 2 ^ 32)
    (vIdle vLoad ms : ℕ) (before later : List Iteration) (abortMs : ℕ)
    (env : LoopEnv) {s : BufferedFlasher}
    (hfragments : ∀ iteration ∈ before ++ later,
      iteration.FragmentsFit uploadBuflen)
    (hs : run (iterate cfg) (ready cfg vIdle vLoad ms) before = s)
    (hlive : s.flasher.restarted = false) :
    CleanSlate cfg uploadBuflen
      ((s.afterReset cfg abortMs env).finish cfg env)
      (((s.freshReady cfg env.actionMs).withBatteryTimer
        s.flasher.lastBattCheck).finish cfg env) later := by
  have hbefore : ∀ iteration ∈ before,
      iteration.FragmentsFit uploadBuflen :=
    fun iteration hmem => hfragments iteration (List.mem_append_left _ hmem)
  have hlater : ∀ iteration ∈ later, iteration.FragmentsFit uploadBuflen :=
    fun iteration hmem => hfragments iteration (List.mem_append_right _ hmem)
  have habort : (⟨some (abortMs, .abort), env⟩ : Iteration).FragmentsFit
      uploadBuflen := by
    simp [Iteration.FragmentsFit, Iteration.fragments]
  obtain ⟨hrun, -⟩ := handed_run hfits (refines_ready cfg vIdle vLoad ms)
    (Flasher.coherent_ready vIdle vLoad ms) before hbefore
  have hsettable := Flasher.settable_run cfg vIdle vLoad ms before
  rw [hs] at hrun
  generalize run (Flasher.iterate cfg) (Flasher.ready vIdle vLoad ms) before
    = f at hrun hsettable
  rw [hrun.restarted] at hlive
  have halike := hrun.alike_afterReset hfits hlive abortMs env
  have haborted : Refines cfg ((s.afterReset cfg abortMs env).finish cfg env)
      (f.iterate cfg ⟨some (abortMs, .abort), env⟩) := by
    obtain ⟨past, hreset⟩ := Flasher.abort_resets cfg hlive abortMs env
    have hgoes : (f.serveAndAct cfg
        ⟨some (abortMs, .abort), env⟩).restarted = false := by
      rw [hreset]
      rfl
    rw [Flasher.iterate_eq, if_neg (by simp [hlive]),
      if_neg (by simp [hgoes])]
    exact (hrun.serveAndAct hfits habort).finish env
  have hclean := hsettable.iterate cfg ⟨some (abortMs, .abort), env⟩
  refine ⟨(halike.finish env).observe hfits hlater, ?_, ?_⟩
  · exact haborted.observe_writes hfits hclean.coherent hlater
  · have hafter := handed_run hfits haborted hclean.coherent later hlater
    have hlast : (run (Flasher.iterate cfg) (f.iterate cfg
        ⟨some (abortMs, .abort), env⟩) later).Settable :=
      invariant_run' (fun _ iteration hf => hf.iterate cfg iteration) later
        hclean
    exact hafter.1.acceptsFirstChunk hfits hlast

/-! ## A battery that drops in the next session -/

def batteryPass (ms currentBatt : ℕ) : Iteration where
  request := none
  env := { Flasher.benchEnv ms 0 with currentBatt := currentBatt }

/-- The battery is polled after 12 s, and a chunk of a session is written. -/
def midSession : BufferedFlasher :=
  run (iterate Flasher.benchConfig)
    (ready Flasher.benchConfig 4100 4000 500)
    [batteryPass 12000 4000,
      Flasher.postStart 13000 ['7'] ['1', '0', '2', '4'],
      Flasher.postChunk 13500 ['7'] ['0'] ['2'] [0xE9]]

/-- After the abort another session, and its first chunk just after the battery
has dropped. -/
def nextSession : List Iteration :=
  [Flasher.postStart 15000 ['8'] ['1', '0', '2', '4'],
    batteryPass 22500 3000,
    Flasher.postChunk 22600 ['8'] ['0'] ['2'] [0x07]]

def abortedMidSession : BufferedFlasher :=
  (midSession.afterReset Flasher.benchConfig 14000
    (Flasher.benchEnv 14000 0)).finish Flasher.benchConfig
      (Flasher.benchEnv 14000 0)

theorem abort_mid_session_clean :
    CleanSlate Flasher.benchConfig 1436 abortedMidSession
        (((midSession.freshReady Flasher.benchConfig 14000).withBatteryTimer
          midSession.flasher.lastBattCheck).finish Flasher.benchConfig
            (Flasher.benchEnv 14000 0)) nextSession ∧
      midSession.flasher.state.phase = .receiving :=
  ⟨abort_leaves_clean_slate Flasher.benchConfig 1436 (by decide) 4100 4000
      500 _ nextSession 14000 (Flasher.benchEnv 14000 0) (by decide) rfl
      (by decide +kernel), by decide +kernel⟩

/-- The poll of 12 s is not forgotten: the battery is polled at 22.5 s and ends
the session, which just after boot would have gone on, with or without the rest
of the iteration that serves the abort. -/
theorem abort_keeps_battery_timer :
    ¬CleanSlate Flasher.benchConfig 1436 abortedMidSession
        ((midSession.freshReady Flasher.benchConfig 14000).finish
          Flasher.benchConfig (Flasher.benchEnv 14000 0)) nextSession ∧
      ¬CleanSlate Flasher.benchConfig 1436 abortedMidSession
        (midSession.freshReady Flasher.benchConfig 14000) nextSession :=
  ⟨fun hclean => absurd hclean.same (by decide +kernel),
    fun hclean => absurd hclean.same (by decide +kernel)⟩

end BufferedFlasher

end SensorFirmware
