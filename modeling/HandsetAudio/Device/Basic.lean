import HandsetAudio.Config
import HandsetAudio.Error
import HandsetAudio.Mixer.Reconciler
import HandsetAudio.Modem.Client
import HandsetAudio.Resampler
import HandsetAudio.Stream.Format
import HandsetAudio.VoiceLoop

/-!
# The device

A `Device` is everything behind one open audio device: the routing facts, the mixer
with a reconciler for each path, the sound card, the modem client, the voice loop, and
every stream that was opened on it. The card and the modem link are parameters.

A stream is in standby exactly when it holds no substream. It is *held* until its
client drops it, and it is *active* while it was the last one opened in its direction,
is held, and was not closed; at most one stream of a direction is active, but others
may still be held and used.

Operations map a device to an answer and the next device. What they have to report
gathers in `notices`, for whoever keeps the log.
-/

namespace HandsetAudio

/-- A playback stream. -/
structure OutputStream where
  /-- Whether a client still has it. -/
  held : Bool := true
  substream : Option SubstreamId := none
  deriving DecidableEq, Repr

/-- A capture stream. What it converted with, and what nobody read of it, it keeps in
standby; only a start takes them away. -/
structure InputStream where
  held : Bool := true
  /-- The format that the client asked for. -/
  format : StreamFormat
  substream : Option SubstreamId := none
  /-- The converter from the codec's rate, if the client asked for another one. -/
  resampler : Option Resampler := none
  /-- Samples that were converted but not read yet. -/
  pending : List Sample := []
  deriving DecidableEq, Repr

/-- What the reads of a capture stream work on while it has a substream. -/
structure Capture where
  substream : SubstreamId
  resampler : Option Resampler
  pending : List Sample
  deriving DecidableEq, Repr

def OutputStream.standby (s : OutputStream) : Bool := s.substream.isNone

namespace InputStream

def standby (s : InputStream) : Bool := s.substream.isNone

/-- What runs of the stream, unless it is in standby. -/
def running (s : InputStream) : Option Capture :=
  s.substream.map fun substream => { substream, resampler := s.resampler, pending := s.pending }

/-- The stream with this running, or in standby. -/
def put (s : InputStream) : Option Capture → InputStream
  | none => { s with substream := none }
  | some c =>
    { s with substream := some c.substream, resampler := c.resampler, pending := c.pending }

@[simp] theorem running_put (s : InputStream) (c : Option Capture) : (s.put c).running = c := by
  cases c <;> rfl

@[simp] theorem held_put (s : InputStream) (c : Option Capture) : (s.put c).held = s.held := by
  cases c <;> rfl

@[simp] theorem substream_put (s : InputStream) (c : Option Capture) :
    (s.put c).substream = c.map (·.substream) := by
  cases c <;> rfl

theorem map_running (s : InputStream) : s.running.map (·.substream) = s.substream := by
  rw [running, Option.map_map]
  exact Option.map_id' ..

theorem put_running (s : InputStream) : s.put s.running = s := by
  obtain ⟨held, format, substream, resampler, pending⟩ := s
  cases substream <;> rfl

@[simp] theorem put_put_some (s : InputStream) (c : Option Capture) (c' : Capture) :
    (s.put c).put (some c') = s.put (some c') := by
  cases c <;> rfl

theorem running_eq_none {s : InputStream} : s.running = none ↔ s.substream = none :=
  Option.map_eq_none_iff

theorem standby_eq (s : InputStream) : s.standby = s.running.isNone := by
  rw [standby, running, Option.isNone_map]

/-- The configuration of the stream's substreams. -/
def config (s : InputStream) : PcmConfig :=
  { PcmConfig.hifiUplink with channels := s.format.channels }

end InputStream

/-- The number of a stream, in the order in which a device opened those of a direction. -/
abbrev StreamId := Nat

/-- An open audio device on a card `σ` and a modem link `μ`. -/
structure Device (σ μ : Type) where
  config : Config
  routing : Routing
  mixer : Mixer
  outputPath : Reconciler
  inputPath : Reconciler
  card : σ
  modem : ModemClient μ
  /-- The substreams of the current call. -/
  loop : VoiceLoop := {}
  /-- Every playback stream, by number. -/
  outputs : List OutputStream := []
  /-- Every capture stream, by number. -/
  inputs : List InputStream := []
  /-- The playback stream that was opened last and not closed. -/
  lastOutput : Option StreamId := none
  /-- The capture stream that was opened last and not closed. -/
  lastInput : Option StreamId := none
  /-- Lines to report, oldest first. -/
  notices : List String := []

namespace Device

variable {σ μ : Type}

/-- Adds a line to report. -/
def note (d : Device σ μ) (line : String) : Device σ μ := { d with notices := d.notices ++ [line] }

/-- The lines to report, and the device without them. -/
def takeNotices (d : Device σ μ) : List String × Device σ μ := (d.notices, { d with notices := [] })

/-- The active playback stream. -/
def activeOutput? (d : Device σ μ) : Option StreamId :=
  d.lastOutput.filter fun i => (d.outputs[i]?).any (·.held)

/-- The active capture stream. -/
def activeInput? (d : Device σ μ) : Option StreamId :=
  d.lastInput.filter fun i => (d.inputs[i]?).any (·.held)

/-- The standby flag of the active playback stream. -/
def outputStandby? (d : Device σ μ) : Option Bool :=
  (d.activeOutput?.bind (d.outputs[·]?)).map (·.standby)

/-- The standby flag of the active capture stream. -/
def inputStandby? (d : Device σ μ) : Option Bool :=
  (d.activeInput?.bind (d.inputs[·]?)).map (·.standby)

/-- Whether the active playback stream is out of standby. -/
def outputOn (d : Device σ μ) : Bool := d.outputStandby? == some false

/-- Whether the active capture stream is out of standby. -/
def inputOn (d : Device σ μ) : Bool := d.inputStandby? == some false

/-- The facts for a path that is in use or not. -/
def facts (d : Device σ μ) (on : Bool) : Facts := ⟨d.routing.mode, d.routing.devices, on⟩

/-- Takes over the result of a pass. -/
def absorb (d : Device σ μ) (p : Pass) : Device σ μ :=
  { d with mixer := p.mixer, notices := d.notices ++ p.skips.map Skip.message }

/-- Brings a path in line with the routing facts; `on` tells whether it is in use. -/
def converge (d : Device σ μ) (path : Path) (on : Bool) : Device σ μ :=
  match path with
  | .output =>
    let (p, outputPath) := d.outputPath.converge (d.facts on) d.mixer
    { d.absorb p with outputPath }
  | .input =>
    let (p, inputPath) := d.inputPath.converge (d.facts on) d.mixer
    { d.absorb p with inputPath }

/-- Sends a request to the modem. -/
def send [ModemLink μ] (d : Device σ μ) (r : ModemRequest) : Device σ μ :=
  let (lines, modem) := d.modem.send r
  { d with modem, notices := d.notices ++ lines }

/-- Tells the modem the path for the current devices. -/
def pushCallPath [ModemLink μ] (d : Device σ μ) : Device σ μ := d.send (.path d.routing.callPath)

/-- Tells the modem the call volume on the curve for the current devices. -/
def pushVoiceVolume [ModemLink μ] (d : Device σ μ) : Device σ μ :=
  d.send (d.modem.volumeRequest d.routing.soundCurve d.routing.voiceVolume)

/-- Opens a device. Both paths are reset, capture first, so that the codec starts from
a known state; a modem that cannot be opened fails the open. The mixer and the modem
link are left as the attempt left them. -/
def acquire [ModemLink μ] (config : Config) (mixer : Mixer) (card : σ) (link : μ) :
    Except (AudioError × List String × Mixer × σ × μ) (Device σ μ) :=
  let (pIn, inputPath) := (Reconciler.ofPath .input).reset mixer
  let (pOut, outputPath) := (Reconciler.ofPath .output).reset pIn.mixer
  let notices := (pIn.skips ++ pOut.skips).map Skip.message
  match ModemClient.acquire link config.volumeSteps with
  | (.error e, link) => .error (.modem e, notices, pOut.mixer, card, link)
  | (.ok modem, _) =>
    .ok
      { config, routing := {}, mixer := pOut.mixer, outputPath, inputPath, card, modem
        notices := notices ++ ["device opened on card " ++ toString config.card] }

end Device

end HandsetAudio
