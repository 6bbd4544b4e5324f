import SensorFirmware.EventTrace
import SensorFirmware.FlasherLoop

/-!
# What a legacy upload can do

A part that is posted to `/update` streams into the `Update` library at once.
It takes over whatever session there was, and it ends in `VERIFYING` with a
finished image or in `ERROR`.
-/

namespace SensorFirmware

open EventTrace

/-- The events of the upload callbacks of the legacy protocol. -/
def FlasherEvent.IsLegacy : FlasherEvent → Prop
  | .begin path _ _ => path = .legacy
  | .write _ sent => sent = none
  | .finish path _ => path = .legacy
  | .abort => True
  | .phase next => next = .receiving ∨ next = .verifying ∨ next = .error
  | _ => False

theorem updateBegun_of_extends {older newer : List FlasherEvent}
    {allowed : FlasherEvent → Prop} (hext : Extends allowed older newer)
    (hbegun : updateBegun older = true) : updateBegun newer = true := by
  obtain ⟨event, hmem, hbegin⟩ := List.any_eq_true.mp hbegun
  exact List.any_eq_true.mpr ⟨event, hext.mem_of_mem hmem, hbegin⟩

namespace Flasher

structure LegacyStep (f next : Flasher) : Prop where
  action : next.action = f.action
  restarted : next.restarted = f.restarted
  chunk : next.chunk = f.chunk
  sent : next.sent = f.sent
  trace : Extends FlasherEvent.IsLegacy f.trace next.trace

theorem LegacyStep.refl (f : Flasher) : LegacyStep f f :=
  ⟨rfl, rfl, rfl, rfl, .refl _⟩

theorem LegacyStep.trans {first second third : Flasher}
    (hfirst : LegacyStep first second)
    (hsecond : LegacyStep second third) : LegacyStep first third where
  action := hsecond.action.trans hfirst.action
  restarted := hsecond.restarted.trans hfirst.restarted
  chunk := hsecond.chunk.trans hfirst.chunk
  sent := hsecond.sent.trans hfirst.sent
  trace := hfirst.trace.trans hsecond.trace

/-- Between the callbacks of a part. -/
def Streaming (f : Flasher) : Prop :=
  f.state.phase = .error ∨
    f.state.phase = .receiving ∧ updateBegun f.trace = true

def Settled (f : Flasher) : Prop :=
  f.state.phase = .error ∨
    f.state.phase = .verifying ∧ imageFinished f.trace = true

/-- The phase was set to `RECEIVING` on the way. -/
def TakenOver (f next : Flasher) : Prop :=
  ∃ before, Extends FlasherEvent.IsLegacy f.trace before ∧
    Extends FlasherEvent.IsLegacy (.phase .receiving :: before) next.trace

theorem TakenOver.trans {first second third : Flasher}
    (htaken : TakenOver first second) (hstep : LegacyStep second third) :
    TakenOver first third := by
  obtain ⟨before, hbefore, hafter⟩ := htaken
  exact ⟨before, hbefore, hafter.trans hstep.trace⟩

theorem legacyStep_legacyFail (f : Flasher) (error : FlasherError)
    (message : String) (httpCode : ℕ) :
    LegacyStep f (f.legacyFail error message httpCode) :=
  ⟨rfl, rfl, rfl, rfl, (Extends.refl f.trace).cons (.inr (.inr rfl))⟩

theorem legacyStep_legacyTakeOver (f : Flasher) (isRunning : Bool) :
    LegacyStep f (f.legacyTakeOver isRunning) := by
  unfold legacyTakeOver
  by_cases hphase : f.state.phase = .ready
  · rw [if_neg (not_not.mpr hphase)]
    exact LegacyStep.refl f
  · rw [if_pos hphase]
    cases isRunning with
    | false => exact ⟨rfl, rfl, rfl, rfl, .refl _⟩
    | true =>
        have habort : FlasherEvent.abort.IsLegacy := trivial
        exact ⟨rfl, rfl, rfl, rfl, (Extends.refl f.trace).cons habort⟩

structure LegacyBegun (f next : Flasher) : Prop where
  step : LegacyStep f next
  takenOver : TakenOver f next
  streaming : next.Streaming

theorem legacyStart_spec (f : Flasher) (ms : ℕ) (headers : FlasherHeaders)
    (partitionSize : Option ℕ) (update : UpdateResults) :
    LegacyBegun f (f.legacyStart ms headers partitionSize update) := by
  have htake := legacyStep_legacyTakeOver (f.touch ms) update.isRunning
  unfold legacyStart
  generalize (f.touch ms).legacyTakeOver update.isRunning = g at htake ⊢
  have hbefore : Extends FlasherEvent.IsLegacy f.trace g.trace :=
    htake.trace
  have henter : LegacyStep f (g.setPhase .receiving) :=
    ⟨htake.action, htake.restarted, htake.chunk, htake.sent,
      hbefore.cons (.inl rfl)⟩
  have hfail (h : Flasher) (hstep : LegacyStep (g.setPhase .receiving) h)
      (error : FlasherError) (message : String) (code : ℕ) :
      LegacyBegun f (h.legacyFail error message code) := by
    have hfailed := hstep.trans (legacyStep_legacyFail h error message code)
    exact ⟨henter.trans hfailed, ⟨g.trace, hbefore, hfailed.trace⟩,
      .inl rfl⟩
  have hbegin (size : ℕ) (ok : Bool) :
      Extends FlasherEvent.IsLegacy (g.setPhase .receiving).trace
        (.begin .legacy size ok :: (g.setPhase .receiving).trace) :=
    (Extends.refl _).cons rfl
  dsimp only
  split
  · exact hfail _ (LegacyStep.refl _) _ _ _
  · split
    · apply hfail
      exact ⟨rfl, rfl, rfl, rfl, .refl _⟩
    · split
      · apply hfail
        exact ⟨rfl, rfl, rfl, rfl, hbegin _ _⟩
      · exact ⟨henter.trans ⟨rfl, rfl, rfl, rfl, hbegin _ _⟩,
          ⟨g.trace, hbefore, hbegin _ _⟩, .inr ⟨rfl, rfl⟩⟩

theorem legacyWrite_spec (ms : ℕ) (update : UpdateResults) {f : Flasher}
    (hstreaming : f.Streaming) (buffer : UploadBuffer) :
    LegacyStep f (legacyWrite ms update f buffer) ∧
      (legacyWrite ms update f buffer).Streaming := by
  have hwrite : Extends FlasherEvent.IsLegacy f.trace
      (.write buffer.buf none :: f.trace) :=
    (Extends.refl _).cons rfl
  unfold legacyWrite
  dsimp only
  split_ifs with herror hempty hshort
  · exact ⟨⟨rfl, rfl, rfl, rfl, .refl _⟩, .inl herror⟩
  · exact ⟨⟨rfl, rfl, rfl, rfl, .refl _⟩, hstreaming⟩
  · have hfailed := hwrite.cons
      (show (FlasherEvent.phase .error).IsLegacy from .inr (.inr rfl))
    exact ⟨⟨rfl, rfl, rfl, rfl, hfailed.cons trivial⟩, .inl rfl⟩
  · refine ⟨⟨rfl, rfl, rfl, rfl, hwrite⟩, ?_⟩
    rcases hstreaming with hphase | ⟨hphase, hbegun⟩
    · exact absurd hphase herror
    · exact .inr ⟨hphase, updateBegun_of_extends hwrite hbegun⟩

theorem legacyEnd_spec {f : Flasher} (hstreaming : f.Streaming) (ms : ℕ)
    (update : UpdateResults) :
    LegacyStep f (f.legacyEnd ms update) ∧
      (f.legacyEnd ms update).Settled := by
  have hverify : Extends FlasherEvent.IsLegacy f.trace
      (.phase .verifying :: f.trace) :=
    (Extends.refl _).cons (.inr (.inl rfl))
  have hfail {trace : List FlasherEvent}
      (hext : Extends FlasherEvent.IsLegacy f.trace trace) :
      Extends FlasherEvent.IsLegacy f.trace (.phase .error :: trace) :=
    hext.cons (.inr (.inr rfl))
  unfold legacyEnd
  dsimp only
  split_ifs with herror hlength hend
  · exact ⟨⟨rfl, rfl, rfl, rfl, .refl _⟩, .inl herror⟩
  · exact ⟨⟨rfl, rfl, rfl, rfl, (hfail hverify).cons trivial⟩, .inl rfl⟩
  · exact ⟨⟨rfl, rfl, rfl, rfl, hfail (hverify.cons rfl)⟩, .inl rfl⟩
  · refine ⟨⟨rfl, rfl, rfl, rfl, hverify.cons rfl⟩, .inr ⟨rfl, ?_⟩⟩
    rcases hstreaming with hphase | ⟨-, hbegun⟩
    · exact absurd hphase herror
    · have hok : update.endOk = true := by simpa using hend
      simpa [imageFinished, hok, updateBegun, FlasherEvent.isBegin]
        using hbegun

theorem legacyAborted_spec (f : Flasher) (ms : ℕ) :
    LegacyStep f (f.legacyAborted ms) ∧ (f.legacyAborted ms).Settled := by
  have herror : Extends FlasherEvent.IsLegacy f.trace
      (.phase .error :: f.trace) :=
    (Extends.refl _).cons (.inr (.inr rfl))
  exact ⟨⟨rfl, rfl, rfl, rfl, herror.cons trivial⟩, .inl rfl⟩

theorem legacyBuffers_spec {f : Flasher} (hstreaming : f.Streaming)
    (ms : ℕ) (part : UploadPart) :
    LegacyStep f (f.legacyBuffers ms part) ∧
      (f.legacyBuffers ms part).Streaming := by
  unfold legacyBuffers
  generalize part.update = update
  induction part.buffers generalizing f with
  | nil => exact ⟨LegacyStep.refl f, hstreaming⟩
  | cons buffer buffers ih =>
      obtain ⟨hstep, hnext⟩ := legacyWrite_spec ms update hstreaming buffer
      obtain ⟨hrest, hlast⟩ := ih hnext
      exact ⟨hstep.trans hrest, hlast⟩

/-- A part leaves no trace of what it found. -/
structure LegacyUpload (f next : Flasher) : Prop where
  step : LegacyStep f next
  takenOver : TakenOver f next
  settled : next.Settled

theorem legacyPart_spec (ms : ℕ) (headers : FlasherHeaders)
    (partitionSize : Option ℕ) (f : Flasher) (part : UploadPart) :
    LegacyUpload f (legacyPart ms headers partitionSize f part) := by
  obtain ⟨hstart, htaken, hstreaming⟩ :=
    legacyStart_spec f ms headers partitionSize part.update
  obtain ⟨hbuffers, hstill⟩ := legacyBuffers_spec hstreaming ms part
  obtain ⟨hend, hsettled⟩ := legacyEnd_spec hstill ms part.update
  exact ⟨(hstart.trans hbuffers).trans hend,
    (htaken.trans hbuffers).trans hend, hsettled⟩

theorem legacyLost_spec (ms : ℕ) (headers : FlasherHeaders)
    (partitionSize : Option ℕ) (f : Flasher) (part : UploadPart) :
    LegacyUpload f (legacyLost ms headers partitionSize f part) := by
  obtain ⟨hstart, htaken, hstreaming⟩ :=
    legacyStart_spec f ms headers partitionSize part.update
  obtain ⟨hbuffers, -⟩ := legacyBuffers_spec hstreaming ms part
  obtain ⟨hend, hsettled⟩ := legacyAborted_spec
    ((f.legacyStart ms headers partitionSize part.update).legacyBuffers ms
      part) ms
  exact ⟨(hstart.trans hbuffers).trans hend,
    (htaken.trans hbuffers).trans hend, hsettled⟩

theorem LegacyUpload.trans {first second third : Flasher}
    (hfirst : LegacyUpload first second)
    (hsecond : LegacyUpload second third) : LegacyUpload first third :=
  ⟨hfirst.step.trans hsecond.step, hfirst.takenOver.trans hsecond.step,
    hsecond.settled⟩

theorem legacyParts_spec (ms : ℕ) (headers : FlasherHeaders)
    (partitionSize : Option ℕ) (f : Flasher) (part : UploadPart)
    (parts : List UploadPart) :
    LegacyUpload f
      ((part :: parts).foldl (legacyPart ms headers partitionSize) f) := by
  induction parts generalizing f part with
  | nil => exact legacyPart_spec ms headers partitionSize f part
  | cons second parts ih =>
      have hfirst := legacyPart_spec ms headers partitionSize f part
      exact hfirst.trans (ih _ second)

/-- The state in which the request handler of `/update` finds the device. -/
def legacyUploaded (f : Flasher) (ms : ℕ) (headers : FlasherHeaders)
    (partitionSize : Option ℕ) (upload : Upload) : Flasher :=
  let f := upload.parts.foldl (legacyPart ms headers partitionSize) f
  upload.lost.elim f (legacyLost ms headers partitionSize f)

theorem legacyUploaded_of_not_hasPart (f : Flasher) (ms : ℕ)
    (headers : FlasherHeaders) (partitionSize : Option ℕ)
    {upload : Upload} (hpart : upload.hasPart = false) :
    f.legacyUploaded ms headers partitionSize upload = f := by
  obtain ⟨hparts, hlost⟩ :
      upload.parts = [] ∧ upload.lost = none := by
    simpa [Upload.hasPart] using hpart
  simp [legacyUploaded, hparts, hlost]

theorem legacyUploaded_of_hasPart (f : Flasher) (ms : ℕ)
    (headers : FlasherHeaders) (partitionSize : Option ℕ)
    {upload : Upload} (hpart : upload.hasPart = true) :
    LegacyUpload f (f.legacyUploaded ms headers partitionSize upload) := by
  unfold legacyUploaded
  cases hparts : upload.parts with
  | nil =>
      cases hlost : upload.lost with
      | none => simp [Upload.hasPart, hparts, hlost] at hpart
      | some part =>
          exact legacyLost_spec ms headers partitionSize f part
  | cons part parts =>
      have hwhole := legacyParts_spec ms headers partitionSize f part parts
      cases upload.lost with
      | none => exact hwhole
      | some lost =>
          exact hwhole.trans
            (legacyLost_spec ms headers partitionSize _ lost)

end Flasher

end SensorFirmware
