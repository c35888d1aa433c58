import HandsetAudio.Proofs.Device.StreamsInCall
import HandsetAudio.Proofs.Pcm.Directions

/-!
# The two halves of a device

A device plays back and captures. `outputHalf` is the device as if it had only ever played back:
its card has playback substreams only, under numbers of their own, and there is no capture stream;
`inputHalf` is the other way round. Main statements:

> `writeOutput_half`, `standbyOutput_half`: what is done to a playback stream is done in the output
> half, with the same answer.
> `readInput_half`, `standbyInput_half`: what is done to a capture stream is done in the input half.

A substream's number in a half is not its number in the device, which no answer shows; it has one
there because it was opened in the direction of its stream (`Owns.lies_output`).
-/

namespace HandsetAudio

/-- The stream with its substream under another number. -/
def OutputStream.renumber (f : SubstreamId → SubstreamId) (s : OutputStream) : OutputStream :=
  { s with substream := s.substream.map f }

/-- What runs of a capture stream, with the substream under another number. -/
def Capture.renumber (f : SubstreamId → SubstreamId) (c : Capture) : Capture :=
  { c with substream := f c.substream }

/-- The stream with its substream under another number. -/
def InputStream.renumber (f : SubstreamId → SubstreamId) (s : InputStream) : InputStream :=
  { s with substream := s.substream.map f }

/-- What captures, under the other number. -/
theorem InputStream.running_renumber (f : SubstreamId → SubstreamId) (s : InputStream) :
    (s.renumber f).running = s.running.map (Capture.renumber f) := by
  simp only [running, renumber, Option.map_map]
  rfl

/-- A stream is given what captures, under the other number. -/
theorem InputStream.renumber_put (f : SubstreamId → SubstreamId) (s : InputStream)
    (c : Option Capture) :
    (s.put c).renumber f = (s.renumber f).put (c.map (Capture.renumber f)) := by
  cases c <;> rfl

namespace Device

open SoftCard (Extends Lies)

variable {μ : Type}

/-- The device as if it had only played back. -/
def outputHalf (d : Device SoftCard μ) : Device SoftCard μ :=
  { d with
    card := d.card.only .playback
    outputs := d.outputs.map (OutputStream.renumber (d.card.place .playback))
    inputs := [] }

/-- The device as if it had only captured. -/
def inputHalf (d : Device SoftCard μ) : Device SoftCard μ :=
  { d with
    card := d.card.only .capture
    inputs := d.inputs.map (InputStream.renumber (d.card.place .capture))
    outputs := [] }

section

variable {d : Device SoftCard μ}

/-- Playback streams own substreams for playback. -/
theorem Owns.lies_output (h : d.Owns) {i : StreamId} {id : SubstreamId}
    (hid : d.outputSubstream? i = some id) : d.card.Lies .playback id :=
  .of_isOpen (h.isOpen_outputSubstream hid)

/-- Capture streams own substreams for capture. -/
theorem Owns.lies_input (h : d.Owns) {i : StreamId} {c : Capture} (hc : d.capture? i = some c) :
    d.card.Lies .capture c.substream := .of_isOpen (h.isOpen_capture hc)

/-! ## The output half at work -/

theorem outputHalf_setOutput (d : Device SoftCard μ) (i : StreamId)
    (substream : Option SubstreamId) : (d.setOutput i substream).outputHalf =
      d.outputHalf.setOutput i (substream.map (d.card.place .playback)) := by
  have hstreams := map_modify d.outputs i (OutputStream.renumber (d.card.place .playback))
    (f := fun s => { s with substream })
    (g := fun s => { s with substream := substream.map (d.card.place .playback) }) fun _ => rfl
  simp only [setOutput, outputHalf, hstreams]

theorem heldOutput?_outputHalf (d : Device SoftCard μ) (i : StreamId) :
    d.outputHalf.heldOutput? i =
      (d.heldOutput? i).map (OutputStream.renumber (d.card.place .playback)) := by
  unfold heldOutput? outputHalf
  rw [List.getElem?_map, Option.filter_map]
  rfl

theorem outputSubstream?_outputHalf (d : Device SoftCard μ) (i : StreamId) :
    d.outputHalf.outputSubstream? i = (d.outputSubstream? i).map (d.card.place .playback) := by
  unfold outputSubstream? outputHalf
  rw [List.getElem?_map]
  cases d.outputs[i]? <;> rfl

/-- A change of the card that moves no substream. -/
theorem outputHalf_withCard (h : d.Owns) {card : SoftCard} (hext : d.card.Extends card) :
    outputHalf { d with card } = { d.outputHalf with card := card.only .playback } := by
  have hstreams : d.outputs.map (OutputStream.renumber (card.place .playback)) =
      d.outputs.map (OutputStream.renumber (d.card.place .playback)) := by
    refine List.map_congr_left fun s hs => ?_
    cases hid : s.substream with
    | none => simp only [OutputStream.renumber, hid, Option.map_none]
    | some id =>
      have hlies : d.card.Lies .playback id := .of_isOpen (h.isOpen_output hs hid)
      simp only [OutputStream.renumber, hid, Option.map_some, hlies.place hext]
  simp only [outputHalf, hstreams]

/-- Standby does the same in the half. -/
theorem standbyOutput_half (h : d.Owns) (i : StreamId) :
    d.outputHalf.standbyOutput i = (d.standbyOutput i).outputHalf := by
  unfold standbyOutput
  rw [outputSubstream?_outputHalf]
  cases hsub : d.outputSubstream? i with
  | none => rfl
  | some id =>
    have hclosed := outputHalf_withCard h (SoftCard.extends_close id d.card)
    rw [← SoftCard.close_only (h.lies_output hsub)] at hclosed
    have hset := outputHalf_setOutput { d with card := PcmDriver.close id d.card } i none
    rw [hclosed] at hset
    exact congrArg (·.converge .output false) hset.symm

/-- So does a start, with the number that the half gives out. -/
theorem startOutput_half (h : d.Owns) (i : StreamId) :
    d.outputHalf.startOutput i =
      ((d.startOutput i).1.map ((d.startOutput i).2.card.place .playback),
        (d.startOutput i).2.outputHalf) := by
  have howns : (d.converge .output true).Owns :=
    ((d.samePcm_converge .output true).deals (P := fun _ => True)).owns h
  have hhalf : d.outputHalf.converge .output true = (d.converge .output true).outputHalf := rfl
  unfold startOutput
  rw [hhalf]
  -- all that follows is about the device whose path is powered up
  generalize d.converge .output true = e at howns ⊢
  have hlane : Lane.hifiPlayback.faces .playback = true := rfl
  have hext := SoftCard.extends_acquire e.config.card .hifiPlayback playbackFlags .hifi e.card
  have hacquire : PcmDriver.acquire e.outputHalf.config.card .hifiPlayback playbackFlags .hifi
      e.outputHalf.card = _ :=
    SoftCard.acquire_only e.config.card hlane playbackFlags .hifi e.card
  simp only
  rw [hacquire]
  rcases hresult : PcmDriver.acquire e.config.card .hifiPlayback playbackFlags .hifi e.card
    with ⟨reason | id, card⟩
  · rw [hresult] at hext
    have hfailed := outputHalf_withCard howns hext
    exact congrArg (fun e : Device SoftCard μ => (Except.error reason,
      (e.converge .output false).note ("playback pcm open failed: " ++ reason.message)))
        hfailed.symm
  · rw [hresult] at hext
    have hopened := outputHalf_withCard howns hext
    have hset := outputHalf_setOutput { e with card } i (some id)
    rw [hopened] at hset
    exact congrArg (Except.ok (card.place .playback id), ·) hset.symm

theorem ensureOutput_half (h : d.Owns) (i : StreamId) :
    d.outputHalf.ensureOutput i =
      ((d.ensureOutput i).1.map ((d.ensureOutput i).2.card.place .playback),
        (d.ensureOutput i).2.outputHalf) := by
  unfold ensureOutput
  rw [outputSubstream?_outputHalf]
  cases d.outputSubstream? i with
  | some id => rfl
  | none => exact startOutput_half h i

/-- **A write** is the same in the output half. -/
theorem writeOutput_half (h : d.Owns) (i : StreamId) (bytes : List UInt8) :
    d.outputHalf.writeOutput i bytes =
      ((d.writeOutput i bytes).1, (d.writeOutput i bytes).2.outputHalf) := by
  unfold writeOutput
  rw [heldOutput?_outputHalf]
  cases hheld : d.heldOutput? i with
  | none => rfl
  | some s =>
    simp only [Option.map_some]
    rw [ensureOutput_half h]
    rcases hresult : d.ensureOutput i with ⟨e | id, d'⟩
    · rfl
    · obtain ⟨howns, hopen⟩ := h.ensureOutput (heldOutput?_eq_some hheld) hresult
      have hlies : d'.card.Lies .playback id := .of_isOpen hopen
      have hext := SoftCard.extends_write id bytes d'.card
      have hcalm := LawfulLedger.write id bytes d'.card
      have hwrite := SoftCard.write_only hlies bytes
      have hcard : d'.outputHalf.card = d'.card.only .playback := rfl
      simp only [Except.map, pace_softCard, hcard, hwrite]
      rcases hwritten : PcmDriver.write id bytes d'.card with ⟨e | u, card⟩
      · rw [hwritten] at hext hcalm
        simp only
        rw [← outputHalf_withCard howns hext, standbyOutput_half (howns.withCard hcalm)]
      · rw [hwritten] at hext
        simp only
        rw [← outputHalf_withCard howns hext]

/-! ## The input half at work -/

theorem inputHalf_setInput (d : Device SoftCard μ) (i : StreamId) (running : Option Capture) :
    (d.setInput i running).inputHalf =
      d.inputHalf.setInput i (running.map (Capture.renumber (d.card.place .capture))) := by
  have hstreams := map_modify d.inputs i (InputStream.renumber (d.card.place .capture))
    (f := (·.put running))
    (g := (·.put (running.map (Capture.renumber (d.card.place .capture)))))
    fun s => s.renumber_put _ running
  simp only [setInput, inputHalf, hstreams]

theorem heldInput?_inputHalf (d : Device SoftCard μ) (i : StreamId) :
    d.inputHalf.heldInput? i =
      (d.heldInput? i).map (InputStream.renumber (d.card.place .capture)) := by
  unfold heldInput? inputHalf
  rw [List.getElem?_map, Option.filter_map]
  rfl

theorem capture?_inputHalf (d : Device SoftCard μ) (i : StreamId) :
    d.inputHalf.capture? i = (d.capture? i).map (Capture.renumber (d.card.place .capture)) := by
  unfold capture? inputHalf
  rw [List.getElem?_map]
  cases d.inputs[i]? with
  | none => rfl
  | some s => exact s.running_renumber _

/-- A change of the card that moves no substream. -/
theorem inputHalf_withCard (h : d.Owns) {card : SoftCard} (hext : d.card.Extends card) :
    inputHalf { d with card } = { d.inputHalf with card := card.only .capture } := by
  have hstreams : d.inputs.map (InputStream.renumber (card.place .capture)) =
      d.inputs.map (InputStream.renumber (d.card.place .capture)) := by
    refine List.map_congr_left fun s hs => ?_
    unfold InputStream.renumber
    rw [← s.map_running]
    cases hc : s.running with
    | none => rfl
    | some c =>
      have hlies : d.card.Lies .capture c.substream := .of_isOpen (h.isOpen_input hs hc)
      simp only [Option.map_some, hlies.place hext]
  simp only [inputHalf, hstreams]

/-- Standby of a capture stream does the same in the half. -/
theorem standbyInput_half (h : d.Owns) (i : StreamId) :
    d.inputHalf.standbyInput i = (d.standbyInput i).inputHalf := by
  unfold standbyInput
  rw [capture?_inputHalf]
  cases hsub : d.capture? i with
  | none => rfl
  | some c =>
    have hclosed := inputHalf_withCard h (SoftCard.extends_close c.substream d.card)
    rw [← SoftCard.close_only (h.lies_input hsub)] at hclosed
    have hset := inputHalf_setInput { d with card := PcmDriver.close c.substream d.card } i none
    rw [hclosed] at hset
    exact congrArg (·.converge .input false) hset.symm

/-- So does a start for capture. -/
theorem startInput_half (h : d.Owns) (i : StreamId) (s : InputStream)
    (f : SubstreamId → SubstreamId) :
    d.inputHalf.startInput i (s.renumber f) =
      ((d.startInput i s).1.map (Capture.renumber ((d.startInput i s).2.card.place .capture)),
        (d.startInput i s).2.inputHalf) := by
  have howns : (d.converge .input true).Owns :=
    ((d.samePcm_converge .input true).deals (P := fun _ => True)).owns h
  have hhalf : d.inputHalf.converge .input true = (d.converge .input true).inputHalf := rfl
  unfold startInput
  rw [hhalf]
  generalize d.converge .input true = e at howns ⊢
  have hlane : Lane.hifiCapture.faces .capture = true := rfl
  have hext := SoftCard.extends_acquire e.config.card .hifiCapture .none s.config e.card
  have hacquire : PcmDriver.acquire e.inputHalf.config.card .hifiCapture .none
      (s.renumber f).config e.inputHalf.card = _ :=
    SoftCard.acquire_only e.config.card hlane .none s.config e.card
  simp only
  rw [hacquire]
  rcases hresult : PcmDriver.acquire e.config.card .hifiCapture .none s.config e.card
    with ⟨reason | id, card⟩
  · rw [hresult] at hext
    have hfailed := inputHalf_withCard howns hext
    exact congrArg (fun e : Device SoftCard μ => (Except.error reason,
      (e.converge .input false).note ("capture pcm open failed: " ++ reason.message))) hfailed.symm
  · rw [hresult] at hext
    have hopened := inputHalf_withCard howns hext
    let c : Capture := { substream := id, resampler := resamplerFor s.format, pending := [] }
    have hset := inputHalf_setInput { e with card } i (some c)
    rw [hopened] at hset
    exact congrArg (Except.ok (c.renumber (card.place .capture)), ·) hset.symm

theorem ensureInput_half (h : d.Owns) (i : StreamId) (s : InputStream)
    (f : SubstreamId → SubstreamId) :
    d.inputHalf.ensureInput i (s.renumber f) =
      ((d.ensureInput i s).1.map (Capture.renumber ((d.ensureInput i s).2.card.place .capture)),
        (d.ensureInput i s).2.inputHalf) := by
  unfold ensureInput
  rw [capture?_inputHalf]
  cases d.capture? i with
  | some c => rfl
  | none => exact startInput_half h i s f

/-- Filling up takes from its own substream only. -/
theorem fillPending_only {card : SoftCard} {id : SubstreamId} (h : card.Lies .capture id)
    (period wanted fuel : Nat) (r : Resampler) (pending : List Sample) :
    fillPending (card.place .capture id) period wanted fuel r pending (card.only .capture) =
      ((fillPending id period wanted fuel r pending card).1,
        (fillPending id period wanted fuel r pending card).2.1,
        (fillPending id period wanted fuel r pending card).2.2.1,
        (fillPending id period wanted fuel r pending card).2.2.2.only .capture) := by
  induction fuel generalizing r pending card with
  | zero => rfl
  | succ fuel ih =>
    have hext := SoftCard.extends_read id period card
    unfold fillPending
    rw [SoftCard.read_only h]
    split
    next => rfl
    next =>
      rcases hresult : PcmDriver.read id period card with ⟨e | bytes, card'⟩
      · rfl
      · rw [hresult] at hext
        simp only
        -- the place is the same before and after the period
        rw [← h.place hext, ih (h.extends hext)]

theorem extends_readCapture (config : PcmConfig) (c : Capture) (length : Nat) (card : SoftCard) :
    card.Extends (readCapture config c length card).2.2 :=
  readCapture_keeps (P := card.Extends)
    (fun length card' hext => hext.trans (SoftCard.extends_read _ length card')) config length
    (.refl card)

/-- Taking bytes from a running capture, if there is only its direction. -/
theorem readCapture_only (config : PcmConfig) {c : Capture} (length : Nat) {card : SoftCard}
    (h : card.Lies .capture c.substream) :
    readCapture config (c.renumber (card.place .capture)) length (card.only .capture) =
      ((readCapture config c length card).1,
        (readCapture config c length card).2.1.renumber (card.place .capture),
        (readCapture config c length card).2.2.only .capture) := by
  have hsubstream : (c.renumber (card.place .capture)).substream =
      card.place .capture c.substream := rfl
  have hrest : (c.renumber (card.place .capture)).resampler = c.resampler ∧
      (c.renumber (card.place .capture)).pending = c.pending := ⟨rfl, rfl⟩
  unfold readCapture
  rw [hsubstream, hrest.1, hrest.2, SoftCard.read_only h]
  split
  next => rfl
  next =>
    cases c.resampler with
    | none => rfl
    | some r =>
      simp only
      rw [fillPending_only h]
      rcases fillPending c.substream (config.periodSize * config.frameBytes) (length / 2)
        (length / 2) r c.pending card with ⟨e | u, r', pending, card'⟩ <;> rfl

/-- A read is not seen in the other direction. -/
theorem only_readCapture_of_not {dir : Direction} (hdir : dir ≠ .capture) {card : SoftCard}
    {c : Capture} (h : card.Lies .capture c.substream) (config : PcmConfig) (length : Nat) :
    (readCapture config c length card).2.2.only dir = card.only dir := by
  have hkept := readCapture_keeps
    (P := fun card' : SoftCard =>
      card'.Lies .capture c.substream ∧ card'.only dir = card.only dir)
    (fun length card' ⟨hlies, honly⟩ => ⟨hlies.extends (SoftCard.extends_read _ length card'),
      (SoftCard.only_read_of_not hlies hdir length).trans honly⟩) config length ⟨h, rfl⟩
  exact hkept.2

/-- **A read** is the same in the input half. -/
theorem readInput_half (h : d.Owns) (i : StreamId) (length : Nat) :
    d.inputHalf.readInput i length =
      ((d.readInput i length).1, (d.readInput i length).2.inputHalf) := by
  unfold readInput
  rw [heldInput?_inputHalf]
  cases hheld : d.heldInput? i with
  | none => rfl
  | some s =>
    simp only [Option.map_some]
    rw [ensureInput_half h]
    rcases hresult : d.ensureInput i s with ⟨e | c, d'⟩
    · rfl
    · obtain ⟨howns, hopen⟩ := h.ensureInput (heldInput?_eq_some hheld) hresult
      have hlies : d'.card.Lies .capture c.substream := .of_isOpen hopen
      have hext := extends_readCapture s.config c length d'.card
      have hcalm := calm_readCapture s.config c length d'.card
      have hread : readCapture (s.renumber (d.card.place .capture)).config _ length
          d'.inputHalf.card = _ := readCapture_only s.config length hlies
      simp only [Except.map]
      rw [hread]
      rcases htaken : readCapture s.config c length d'.card with ⟨answer, c', card⟩
      rw [htaken] at hext hcalm
      have hplace : c'.renumber (card.place .capture) = c'.renumber (d'.card.place .capture) := by
        unfold Capture.renumber
        rw [substream_readCapture htaken, hlies.place hext]
      have hset := inputHalf_setInput { d' with card } i (some c')
      rw [inputHalf_withCard howns hext, Option.map_some, hplace] at hset
      simp only
      cases answer with
      | error e =>
        have hrunning := d.capture?_ensureInput (heldInput?_eq_some hheld) hresult
        have htook : Owns ({ d' with card }.setInput i (some c')) :=
          .take hrunning htaken (howns.withCard hcalm)
        simp only
        rw [← standbyInput_half htook, hset]
      | ok bytes =>
        exact congrArg
          (Except.ok (if d'.routing.micMute then List.replicate length 0 else bytes), ·)
          hset.symm

end

end Device

end HandsetAudio
