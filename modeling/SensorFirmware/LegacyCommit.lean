import SensorFirmware.FlasherLegacyUpload

/-!
# What a legacy upload commits

The legacy path takes the length of the image from `Content-Length`, which is
the length of the whole multipart body.  A part that is lost never comes to
`Update.end(true)`.
-/

namespace SensorFirmware

open EventTrace

/-- All bytes that were handed to `Update.write`, in order. -/
def writtenBytes : List FlasherEvent → List Byte
  | [] => []
  | .write data _ :: past => writtenBytes past ++ data
  | _ :: past => writtenBytes past

/-- Anything but `Update.end(true)`. -/
def FlasherEvent.Unfinished : FlasherEvent → Prop
  | .finish _ _ => False
  | _ => True

theorem toUnsigned_strtol_toString (n : ℕ) :
    toUnsigned (strtol (toString n).toList) = min (2 ^ 31 - 1) n := by
  have hread : strtol (toString n).toList = min (2 ^ 31 - 1) (n : ℤ) := by
    have hdecimal := strtol_append (@Nat.toDigits_ne_nil n 10)
      (fun c hc => Nat.isDigit_of_mem_toDigits (by decide) (by decide) hc)
      (show ∀ c ∈ ([] : List Char).head?, c.isDigit = false from nofun)
    rw [List.append_nil, Nat.ofDigitChars_ten_toDigits] at hdecimal
    rw [Nat.toString_eq_repr, Nat.toList_repr]
    exact hdecimal
  rw [hread]
  unfold toUnsigned
  omega

namespace Flasher

/-! ## Streaming the part -/

/-- The data went to the library, and its length to the count. -/
structure Streamed (f next : Flasher) (data : List Byte) : Prop where
  phase : next.state.phase = f.state.phase
  total : next.state.total = f.state.total
  written : next.state.written = u32 (f.state.written + data.length)
  data : writtenBytes next.trace = writtenBytes f.trace ++ data
  begun : updateBegun next.trace = updateBegun f.trace

theorem streamed_legacyWrite {f : Flasher} (hphase : f.state.phase ≠ .error)
    (hcount : f.state.written < 2 ^ 32) (ms : ℕ) (update : UpdateResults)
    {buffer : UploadBuffer} (hwritten : buffer.written = buffer.buf.length) :
    Streamed f (legacyWrite ms update f buffer) buffer.buf := by
  have hlive : (f.touch ms).state.phase ≠ .error := hphase
  unfold legacyWrite
  dsimp only
  rw [if_neg hlive]
  by_cases hempty : buffer.buf.length = 0
  · have hnil := List.length_eq_zero_iff.mp hempty
    rw [if_pos hempty, hnil]
    exact ⟨rfl, rfl, (u32_of_lt hcount).symm, (List.append_nil _).symm, rfl⟩
  · rw [if_neg hempty, if_neg (not_not_intro hwritten), hwritten]
    exact ⟨rfl, rfl, rfl, rfl, rfl⟩

theorem streamed_legacyBuffers {f : Flasher} (hphase : f.state.phase ≠ .error)
    (hcount : f.state.written < 2 ^ 32) (ms : ℕ) {part : UploadPart}
    (hwritten : ∀ buffer ∈ part.buffers, buffer.written = buffer.buf.length) :
    Streamed f (f.legacyBuffers ms part) part.payload := by
  unfold legacyBuffers UploadPart.payload
  generalize part.update = update
  revert hwritten
  induction part.buffers generalizing f with
  | nil =>
      intro _
      exact ⟨rfl, rfl, (u32_of_lt hcount).symm, (List.append_nil _).symm, rfl⟩
  | cons buffer buffers ih =>
      intro hwritten
      have hhere := streamed_legacyWrite hphase hcount ms update
        (hwritten buffer (.head buffers))
      have hnext : (legacyWrite ms update f buffer).state.phase ≠ .error := by
        rw [hhere.phase]
        exact hphase
      have hless : (legacyWrite ms update f buffer).state.written < 2 ^ 32 := by
        rw [hhere.written]
        exact Nat.mod_lt _ (by norm_num)
      have hrest := ih hnext hless
        fun other hother => hwritten other (.tail buffer hother)
      rw [List.foldl_cons, List.flatMap_cons]
      constructor
      · exact hrest.phase.trans hhere.phase
      · exact hrest.total.trans hhere.total
      · rw [hrest.written, hhere.written, List.length_append]
        unfold u32
        omega
      · rw [hrest.data, hhere.data, List.append_assoc]
      · exact hrest.begun.trans hhere.begun

theorem error_legacyBuffers {f : Flasher} (herror : f.state.phase = .error)
    (ms : ℕ) (part : UploadPart) :
    (f.legacyBuffers ms part).state.phase = .error := by
  unfold legacyBuffers
  induction part.buffers generalizing f with
  | nil => exact herror
  | cons buffer buffers ih =>
      have hstill : (legacyWrite ms part.update f buffer).state.phase =
          .error := by
        have hhere : (f.touch ms).state.phase = .error := herror
        unfold legacyWrite
        dsimp only
        rw [if_pos hhere]
        exact herror
      exact ih hstill

/-! ## Committing the image -/

/-- The phase is `COMPLETE`, `Update.end(true)` was called for this image, and
the library was given its bytes and no others. -/
structure LegacyCommitted (f next : Flasher) (image : List Byte) : Prop where
  phase : next.state.phase = .complete
  finished : imageFinished next.trace = true
  written : writtenBytes next.trace = writtenBytes f.trace ++ image

/-- A request with the part and nothing else, which arrives whole. -/
def singlePart (part : UploadPart) : Upload where
  parts := [part]
  lost := none
  parsed := true
  hasError := false

theorem handleUpdate_singlePart (f : Flasher) (ms : ℕ)
    (headers : FlasherHeaders) (partitionSize : Option ℕ) (part : UploadPart) :
    (f.handleUpdate ms headers partitionSize (singlePart part)).1 =
      ((legacyPart ms headers partitionSize f part).answerUpdate false).1 :=
  rfl

theorem phase_answerUpdate_of_error {f : Flasher}
    (herror : f.state.phase = .error) :
    (f.answerUpdate false).1.state.phase = .error := by
  have hfailed : (false || decide (f.state.phase = .error)) = true := by
    rw [herror]
    rfl
  rw [answerUpdate, if_pos hfailed]
  exact herror

/-- The image is streamed into an update of the size that the header gives. -/
theorem legacyStart_of_ready {f : Flasher} (hready : f.state.phase = .ready)
    (ms : ℕ) {headers : FlasherHeaders} (size : ℕ) {total : ℕ}
    {update : UpdateResults} (hbegin : update.beginOk = true)
    (hnonempty : headers.contentLength ≠ [])
    (htotal : toUnsigned (strtol headers.contentLength) = total) :
    if size < total then
      (f.legacyStart ms headers (some size) update).state.phase = .error
    else
      let next := f.legacyStart ms headers (some size) update
      next.state.phase = .receiving ∧ next.state.written = 0 ∧
        next.state.total = total ∧ updateBegun next.trace = true ∧
        writtenBytes next.trace = writtenBytes f.trace := by
  have hpresent : headers.contentLength.isEmpty = false := by
    simpa using hnonempty
  have htake : (f.touch ms).legacyTakeOver update.isRunning = f.touch ms :=
    if_neg (not_not_intro hready)
  unfold legacyStart
  rw [htake, hpresent, htotal, hbegin]
  by_cases hlarge : size < total
  · rw [if_pos hlarge]
    simp [hlarge]
  · rw [if_neg hlarge]
    simp [hlarge, updateBegun, FlasherEvent.isBegin, writtenBytes]

/-- With the length that was announced the update is finished. -/
theorem committed_legacyEnd {f g : Flasher} (hphase : g.state.phase ≠ .error)
    (hbegun : updateBegun g.trace = true) (ms : ℕ) {update : UpdateResults}
    (hend : update.endOk = true) {image : List Byte}
    (hdata : writtenBytes g.trace = writtenBytes f.trace ++ image) :
    LegacyCommitted f ((g.legacyEnd ms update).answerUpdate false).1 image ↔
      g.state.written = g.state.total := by
  have hlive : (g.touch ms).state.phase ≠ .error := hphase
  unfold legacyEnd
  dsimp only
  rw [if_neg hlive]
  by_cases hcomplete : g.state.written = g.state.total
  · have hcount : ¬((g.touch ms).setPhase .verifying).state.written ≠
        ((g.touch ms).setPhase .verifying).state.total :=
      not_not_intro hcomplete
    refine iff_of_true ?_ hcomplete
    rw [if_neg hcount, hend]
    constructor
    · rfl
    · simp [answerUpdate, imageFinished, updateBegun, FlasherEvent.isBegin]
      exact List.any_eq_true.mp hbegun
    · exact hdata
  · have hcount : ((g.touch ms).setPhase .verifying).state.written ≠
        ((g.touch ms).setPhase .verifying).state.total := hcomplete
    refine iff_of_false ?_ hcomplete
    intro hcommitted
    rw [if_pos hcount] at hcommitted
    have hphase := hcommitted.phase
    rw [phase_answerUpdate_of_error rfl] at hphase
    cases hphase

theorem not_committed_of_error {f g : Flasher} (herror : g.state.phase = .error)
    (ms : ℕ) (update : UpdateResults) (image : List Byte) :
    ¬LegacyCommitted f ((g.legacyEnd ms update).answerUpdate false).1 image := by
  intro hcommitted
  have hfailed : (g.legacyEnd ms update).state.phase = .error := by
    have hhere : (g.touch ms).state.phase = .error := herror
    unfold legacyEnd
    dsimp only
    rw [if_pos hhere]
    exact herror
  have hphase := hcommitted.phase
  rw [phase_answerUpdate_of_error hfailed] at hphase
  cases hphase

/-! ## Parts that are lost -/

theorem unfinished_legacyTakeOver (f : Flasher) (isRunning : Bool) :
    Extends FlasherEvent.Unfinished f.trace
      (f.legacyTakeOver isRunning).trace := by
  have hsame : Extends FlasherEvent.Unfinished f.trace f.trace := .refl _
  have habort : Extends FlasherEvent.Unfinished f.trace (.abort :: f.trace) :=
    hsame.cons trivial
  unfold legacyTakeOver
  cases isRunning <;> split <;> first | exact hsame | exact habort

theorem unfinished_legacyStart (f : Flasher) (ms : ℕ)
    (headers : FlasherHeaders) (partitionSize : Option ℕ)
    (update : UpdateResults) :
    Extends FlasherEvent.Unfinished f.trace
      (f.legacyStart ms headers partitionSize update).trace := by
  have htake := unfinished_legacyTakeOver (f.touch ms) update.isRunning
  unfold legacyStart
  generalize (f.touch ms).legacyTakeOver update.isRunning = g at htake ⊢
  have henter : Extends FlasherEvent.Unfinished f.trace
      (.phase .receiving :: g.trace) := htake.cons trivial
  have hbegin (ok : Bool) (size : ℕ) : Extends FlasherEvent.Unfinished f.trace
      (.begin .legacy size ok :: .phase .receiving :: g.trace) :=
    henter.cons trivial
  dsimp only
  split_ifs
  · exact henter.cons trivial
  · exact henter.cons trivial
  · exact (hbegin _ _).cons trivial
  · exact hbegin _ _

theorem unfinished_legacyBuffers (f : Flasher) (ms : ℕ) (part : UploadPart) :
    Extends FlasherEvent.Unfinished f.trace
      (f.legacyBuffers ms part).trace := by
  unfold legacyBuffers
  induction part.buffers generalizing f with
  | nil => exact .refl _
  | cons buffer buffers ih =>
      have hhere : Extends FlasherEvent.Unfinished f.trace
          (legacyWrite ms part.update f buffer).trace := by
        have hwrite : Extends FlasherEvent.Unfinished f.trace
            (.write buffer.buf none :: f.trace) :=
          (Extends.refl _).cons trivial
        have herror : Extends FlasherEvent.Unfinished f.trace
            (.phase .error :: .write buffer.buf none :: f.trace) :=
          hwrite.cons trivial
        have hfailed : Extends FlasherEvent.Unfinished f.trace
            (.abort :: .phase .error :: .write buffer.buf none :: f.trace) :=
          herror.cons trivial
        unfold legacyWrite
        dsimp only
        split_ifs
        · exact .refl _
        · exact .refl _
        · exact hfailed
        · exact hwrite
      exact hhere.trans (ih _)

theorem unfinished_legacyLost (f : Flasher) (ms : ℕ)
    (headers : FlasherHeaders) (partitionSize : Option ℕ) (part : UploadPart) :
    Extends FlasherEvent.Unfinished f.trace
      (legacyLost ms headers partitionSize f part).trace := by
  have hstart :=
    unfinished_legacyStart f ms headers partitionSize part.update
  have hbuffers := unfinished_legacyBuffers
    (f.legacyStart ms headers partitionSize part.update) ms part
  have hfailed := (hstart.trans hbuffers).cons
    (show (FlasherEvent.phase .error).Unfinished from trivial)
  exact hfailed.cons (show FlasherEvent.abort.Unfinished from trivial)

/-- The connection ends before the part does. -/
def lostPart (part : UploadPart) : Upload where
  parts := []
  lost := some part
  parsed := false
  hasError := false

/-- The image is committed only where the count saturates at its own length. -/
theorem legacy_upload_commits_iff {f : Flasher}
    (hready : f.state.phase = .ready) (ms : ℕ) {headers : FlasherHeaders}
    {size : ℕ} (hsize : size < 2 ^ 32) {part : UploadPart}
    (hbegin : part.update.beginOk = true) (hend : part.update.endOk = true)
    (hwritten : ∀ buffer ∈ part.buffers, buffer.written = buffer.buf.length)
    (himage : part.payload.length ≤ size) {framing : ℕ} (hframing : 0 < framing)
    (hlength : headers.contentLength =
      (toString (part.payload.length + framing)).toList) :
    (LegacyCommitted f
        (f.handleUpdate ms headers (some size) (singlePart part)).1
        part.payload ↔
      part.payload.length = 2 ^ 31 - 1) ∧
      ∀ (f : Flasher) (ms : ℕ) (headers : FlasherHeaders)
        (partitionSize : Option ℕ) (part : UploadPart),
        Extends FlasherEvent.Unfinished f.trace
          (f.handleUpdate ms headers partitionSize (lostPart part)).1.trace := by
  constructor
  · have hnonempty : headers.contentLength ≠ [] := by
      rw [hlength, Nat.toString_eq_repr, Nat.toList_repr]
      exact Nat.toDigits_ne_nil
    have htotal : toUnsigned (strtol headers.contentLength) =
        min (2 ^ 31 - 1) (part.payload.length + framing) := by
      rw [hlength, toUnsigned_strtol_toString]
    have hstart :=
      legacyStart_of_ready hready ms size hbegin hnonempty htotal
    rw [handleUpdate_singlePart, legacyPart]
    by_cases hlarge : size < min (2 ^ 31 - 1) (part.payload.length + framing)
    · rw [if_pos hlarge] at hstart
      have herror := error_legacyBuffers hstart ms part
      refine iff_of_false (not_committed_of_error herror ms _ _) ?_
      omega
    · rw [if_neg hlarge] at hstart
      obtain ⟨hphase, hcount, hannounced, hbegun, hbefore⟩ := hstart
      have hlive : (f.legacyStart ms headers (some size)
          part.update).state.phase ≠ .error := by
        rw [hphase]
        nofun
      have hstreamed := streamed_legacyBuffers hlive
        (by rw [hcount]; norm_num) ms hwritten
      have hall : ((f.legacyStart ms headers (some size)
          part.update).legacyBuffers ms part).state.written =
            part.payload.length := by
        rw [hstreamed.written, hcount, Nat.zero_add]
        exact u32_of_lt (himage.trans_lt hsize)
      rw [committed_legacyEnd
          (by rw [hstreamed.phase]; exact hlive)
          (hstreamed.begun.trans hbegun) ms hend
          (by rw [hstreamed.data, hbefore]),
        hall, hstreamed.total, hannounced]
      omega
  · intro f ms headers partitionSize part
    exact unfinished_legacyLost f ms headers partitionSize part

/-- An image of three bytes in two buffers. -/
def smallPart : UploadPart where
  buffers := [⟨[0xE9, 0x01], 2⟩, ⟨[0x02], 1⟩]
  update := ⟨false, true, true, 0⟩

/-- The headers of a request with the part and 186 bytes around it. -/
def smallHeaders : FlasherHeaders :=
  { noHeaders with contentLength := (toString (3 + 186)).toList }

theorem small_upload_commits_iff :
    (LegacyCommitted (ready 4100 4000 0)
        ((ready 4100 4000 0).handleUpdate 5000 smallHeaders (some 1310720)
          (singlePart smallPart)).1 smallPart.payload ↔
      smallPart.payload.length = 2 ^ 31 - 1) ∧
      ∀ (f : Flasher) (ms : ℕ) (headers : FlasherHeaders)
        (partitionSize : Option ℕ) (part : UploadPart),
        Extends FlasherEvent.Unfinished f.trace
          (f.handleUpdate ms headers partitionSize (lostPart part)).1.trace :=
  legacy_upload_commits_iff rfl 5000 (by decide) rfl rfl (by decide)
    (by decide) (by decide : 0 < 186) rfl

/-- The three bytes are compared with the 189 of the request. -/
theorem small_upload_incomplete :
    ¬LegacyCommitted (ready 4100 4000 0)
      ((ready 4100 4000 0).handleUpdate 5000 smallHeaders (some 1310720)
        (singlePart smallPart)).1 smallPart.payload := by
  intro hcommitted
  have hphase := hcommitted.phase
  revert hphase
  decide +kernel

end Flasher

end SensorFirmware
