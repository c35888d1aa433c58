import HandsetAudio.Device.Basic
import HandsetAudio.Params

/-!
# Streams of a device

A stream leaves standby on its first transfer: its path is powered up, then its
substream is opened. Standby closes the substream and powers the path down again. A
transfer that fails, at whatever point, ends in standby.
-/

namespace HandsetAudio

namespace Device

variable {σ μ : Type}

/-! ## Playback -/

/-- Replaces the substream of a playback stream. -/
def setOutput (d : Device σ μ) (i : StreamId) (substream : Option SubstreamId) : Device σ μ :=
  { d with outputs := d.outputs.modify i fun s => { s with substream } }

/-- The substream of a playback stream. -/
def outputSubstream? (d : Device σ μ) (i : StreamId) : Option SubstreamId :=
  (d.outputs[i]?).bind (·.substream)

/-- Puts a playback stream in standby. -/
def standbyOutput [PcmDriver σ] (d : Device σ μ) (i : StreamId) : Device σ μ :=
  match d.outputSubstream? i with
  | none => d
  | some id =>
    ({ d with card := PcmDriver.close id d.card }.setOutput i none).converge .output false

/-- The flags of playback. -/
def playbackFlags : PcmFlags := .mapped ∪ .selfPaced

/-- Takes a playback stream out of standby. -/
def startOutput [PcmDriver σ] (d : Device σ μ) (i : StreamId) :
    Except PcmError SubstreamId × Device σ μ :=
  let d := d.converge .output true
  match PcmDriver.acquire d.config.card .hifiPlayback playbackFlags .hifi d.card with
  | (.ok id, card) => (.ok id, { d with card }.setOutput i (some id))
  | (.error e, card) =>
    (.error e, ({ d with card }.converge .output false).note
      ("playback pcm open failed: " ++ e.message))

/-- The substream of a playback stream, which leaves standby if it has none. -/
def ensureOutput [PcmDriver σ] (d : Device σ μ) (i : StreamId) :
    Except PcmError SubstreamId × Device σ μ :=
  match d.outputSubstream? i with
  | some id => (.ok id, d)
  | none => d.startOutput i

/-- Frames of playback that may be queued before a writer has to wait. -/
def writeThreshold : Nat := PcmConfig.hifi.bufferFrames

/-- Asks for the free frames of a substream until no more than `writeThreshold` frames
are queued, at most `fuel` times. -/
def pace [PcmDriver σ] (id : SubstreamId) : (fuel : Nat) → σ → σ
  | 0, card => card
  | fuel + 1, card =>
    match PcmDriver.avail id card with
    | (none, card) => card
    | (some free, card) =>
      if PcmDriver.bufferSize id card - free ≤ writeThreshold then card else pace id fuel card

/-- A playback stream that a client has. -/
def heldOutput? (d : Device σ μ) (i : StreamId) : Option OutputStream :=
  (d.outputs[i]?).filter (·.held)

/-- Writes bytes to a playback stream; tells how many were taken. -/
def writeOutput [PcmDriver σ] (d : Device σ μ) (i : StreamId) (bytes : List UInt8) :
    Except AudioError Nat × Device σ μ :=
  match d.heldOutput? i with
  | none => (.error (.invalidArgument .noStream), d)
  | some _ =>
    match d.ensureOutput i with
    | (.error e, d) => (.error (.pcm e), d)
    | (.ok id, d) =>
      match PcmDriver.write id bytes (pace id (PcmDriver.patience id d.card + 1) d.card) with
      | (.ok _, card) => (.ok bytes.length, { d with card })
      | (.error e, card) => (.error (.pcm e), { d with card }.standbyOutput i)

/-! ## Capture -/

/-- Replaces the running part of a capture stream; with none it is in standby. -/
def setInput (d : Device σ μ) (i : StreamId) (running : Option Capture) : Device σ μ :=
  { d with inputs := d.inputs.modify i (·.put running) }

/-- The running part of a capture stream. -/
def capture? (d : Device σ μ) (i : StreamId) : Option Capture := (d.inputs[i]?).bind (·.running)

/-- Puts a capture stream in standby. -/
def standbyInput [PcmDriver σ] (d : Device σ μ) (i : StreamId) : Device σ μ :=
  match d.capture? i with
  | none => d
  | some c =>
    ({ d with card := PcmDriver.close c.substream d.card }.setInput i none).converge .input false

/-- The converter for a client that asked for `format`. -/
def resamplerFor (format : StreamFormat) : Option Resampler :=
  let rate := PcmConfig.hifiUplink.rate
  if format.rate = rate then none else some (Resampler.new rate format.rate format.channels)

/-- Takes a capture stream out of standby. It gets a new converter, and samples that are
still pending from before are dropped. -/
def startInput [PcmDriver σ] (d : Device σ μ) (i : StreamId) (s : InputStream) :
    Except PcmError Capture × Device σ μ :=
  let d := d.converge .input true
  match PcmDriver.acquire d.config.card .hifiCapture .none s.config d.card with
  | (.ok id, card) =>
    let c : Capture := { substream := id, resampler := resamplerFor s.format, pending := [] }
    (.ok c, { d with card }.setInput i (some c))
  | (.error e, card) =>
    (.error e, ({ d with card }.converge .input false).note
      ("capture pcm open failed: " ++ e.message))

/-- The running part of a capture stream, which leaves standby if it has none. -/
def ensureInput [PcmDriver σ] (d : Device σ μ) (i : StreamId) (s : InputStream) :
    Except PcmError Capture × Device σ μ :=
  match d.capture? i with
  | some c => (.ok c, d)
  | none => d.startInput i s

/-- Reads and converts whole periods until `wanted` samples are pending. Every period
yields a frame, so `wanted` periods are enough. What was converted before a read fails
stays pending. -/
def fillPending [PcmDriver σ] (id : SubstreamId) (period wanted : Nat) :
    (fuel : Nat) → Resampler → List Sample → σ →
      Except PcmError Unit × Resampler × List Sample × σ
  | 0, r, pending, card => (.ok (), r, pending, card)
  | fuel + 1, r, pending, card =>
    if wanted ≤ pending.length then (.ok (), r, pending, card)
    else
      match PcmDriver.read id period card with
      | (.error e, card) => (.error e, r, pending, card)
      | (.ok bytes, card) =>
        let (_, pending, r) := r.process (Sample.ofBytes bytes) pending
        fillPending id period wanted fuel r pending card

/-- Takes `length` bytes from a running capture: directly at the codec's rate, else from
the converted samples. -/
def readCapture [PcmDriver σ] (config : PcmConfig) (c : Capture) (length : Nat) (card : σ) :
    Except PcmError (List UInt8) × Capture × σ :=
  if length % config.frameBytes ≠ 0 then
    (.error (.misaligned length config.frameBytes), c, card)
  else
    match c.resampler with
    | none =>
      let (answer, card) := PcmDriver.read c.substream length card
      (answer, c, card)
    | some r =>
      let wanted := length / 2
      match fillPending c.substream (config.periodSize * config.frameBytes) wanted wanted r
          c.pending card with
      | (.error e, r, pending, card) => (.error e, { c with resampler := some r, pending }, card)
      | (.ok _, r, pending, card) =>
        (.ok (Sample.toBytes (pending.take wanted)),
          { c with resampler := some r, pending := pending.drop wanted }, card)

/-- A capture stream that a client has. -/
def heldInput? (d : Device σ μ) (i : StreamId) : Option InputStream :=
  (d.inputs[i]?).filter (·.held)

/-- Reads bytes from a capture stream; they are zero while the microphone is muted. -/
def readInput [PcmDriver σ] (d : Device σ μ) (i : StreamId) (length : Nat) :
    Except AudioError (List UInt8) × Device σ μ :=
  match d.heldInput? i with
  | none => (.error (.invalidArgument .noStream), d)
  | some s =>
    match d.ensureInput i s with
    | (.error e, d) => (.error (.pcm e), d)
    | (.ok c, d) =>
      match readCapture s.config c length d.card with
      | (.error e, c, card) =>
        (.error (.pcm e), ({ d with card }.setInput i (some c)).standbyInput i)
      | (.ok bytes, c, card) =>
        (.ok (if d.routing.micMute then List.replicate length 0 else bytes),
          { d with card }.setInput i (some c))

/-! ## Opening and closing -/

/-- Opens the playback stream; its format is the device's choice. -/
def openOutput (d : Device σ μ) : Except AudioError StreamId × Device σ μ :=
  if d.activeOutput?.isSome then (.error (.busy "output"), d)
  else
    (.ok d.outputs.length,
      { d with outputs := d.outputs ++ [{}], lastOutput := some d.outputs.length })

/-- Opens a capture stream. -/
def openInput (d : Device σ μ) (format : StreamFormat) : Except AudioError StreamId × Device σ μ :=
  match format.checkCapture with
  | .error e => (.error e, d)
  | .ok _ =>
    if d.activeInput?.isSome then (.error (.busy "input"), d)
    else
      (.ok d.inputs.length,
        { d with inputs := d.inputs ++ [{ format }], lastInput := some d.inputs.length })

/-- Frees the place of the active playback stream if `i` has it. -/
def forgetOutput (d : Device σ μ) (i : StreamId) : Device σ μ :=
  if d.lastOutput = some i then { d with lastOutput := none } else d

/-- Frees the place of the active capture stream if `i` has it. -/
def forgetInput (d : Device σ μ) (i : StreamId) : Device σ μ :=
  if d.lastInput = some i then { d with lastInput := none } else d

/-- Closes a playback stream: standby, and its place is free. -/
def closeOutput [PcmDriver σ] (d : Device σ μ) (i : StreamId) : Device σ μ :=
  (d.standbyOutput i).forgetOutput i

/-- Closes a capture stream: standby, and its place is free. -/
def closeInput [PcmDriver σ] (d : Device σ μ) (i : StreamId) : Device σ μ :=
  (d.standbyInput i).forgetInput i

/-- The client drops a playback stream: its substream is closed, its path stays as it
is. -/
def dropOutput [PcmDriver σ] (d : Device σ μ) (i : StreamId) : Device σ μ :=
  let card :=
    match d.outputSubstream? i with
    | none => d.card
    | some id => PcmDriver.close id d.card
  { d with
    card
    outputs := d.outputs.modify i fun _ => { held := false, substream := none } }

/-- The client drops a capture stream: its substream is closed, its path stays as it
is. -/
def dropInput [PcmDriver σ] (d : Device σ μ) (i : StreamId) : Device σ μ :=
  let card :=
    match d.capture? i with
    | none => d.card
    | some c => PcmDriver.close c.substream d.card
  { d with
    card
    inputs := d.inputs.modify i fun s => { s.put none with held := false } }

end Device

end HandsetAudio
