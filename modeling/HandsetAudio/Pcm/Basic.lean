import HandsetAudio.Arithmetic.Word

/-!
# Substreams of a sound card

A substream moves interleaved 16-bit samples between the host and one interface of a
card, in one direction: a `Lane`. `PcmConfig` fixes its format and its buffer.
`PcmDriver` is what the device asks of a card: every operation maps a state of the
card to its answer and the next state, so that a card can be real, simulated or a
script.
-/

namespace HandsetAudio

/-- Interface of the card on which a substream is opened: that of the application
processor, or the voice of the modem. -/
inductive Interface where
  | hifi
  | modem
  deriving DecidableEq, Repr

/-- Direction of a substream, as the host sees it. -/
inductive Direction where
  | playback
  | capture
  deriving DecidableEq, Repr

/-- An interface in one direction. -/
structure Lane where
  interface : Interface
  direction : Direction
  deriving DecidableEq, Repr

/-! Names stand in event lines, labels in error texts. -/

namespace Interface

def name : Interface → String
  | .hifi => "hifi"
  | .modem => "modem"

def label : Interface → String
  | .hifi => "Hifi"
  | .modem => "Modem"

end Interface

namespace Direction

def name : Direction → String
  | .playback => "playback"
  | .capture => "capture"

def label : Direction → String
  | .playback => "Playback"
  | .capture => "Capture"

end Direction

namespace Lane

def hifiPlayback : Lane := ⟨.hifi, .playback⟩

def hifiCapture : Lane := ⟨.hifi, .capture⟩

/-- Towards the modem's downlink mixers. -/
def downlink : Lane := ⟨.modem, .playback⟩

/-- From the modem's uplink mixers. -/
def uplink : Lane := ⟨.modem, .capture⟩

def name (l : Lane) : String := l.interface.name ++ " " ++ l.direction.name

def label (l : Lane) : String := l.interface.label ++ " " ++ l.direction.label

end Lane

/-- Options of an open substream, one a bit. -/
structure PcmFlags where
  bits : BitVec 32
  deriving DecidableEq, Repr

namespace PcmFlags

def none : PcmFlags := ⟨0⟩

/-- Transfers go through a mapped buffer. -/
def mapped : PcmFlags := ⟨1⟩

/-- No period interrupts, the writer paces itself. -/
def selfPaced : PcmFlags := ⟨2⟩

instance : Union PcmFlags := ⟨fun a b => ⟨a.bits ||| b.bits⟩⟩

/-- Whether every option of `b` is set in `a`. -/
def contains (a b : PcmFlags) : Bool := a.bits &&& b.bits == b.bits

end PcmFlags

/-- Bytes of one sample. -/
def sampleBytes : Nat := 2

/-- Format and buffer of a substream. The buffer has `periodCount` periods of
`periodSize` frames. Playback starts with `startThreshold` queued frames, and a blocked
writer wakes with `availMin` free ones; 0 leaves either to the driver. -/
structure PcmConfig where
  channels : Nat
  rate : Nat
  periodSize : Nat
  periodCount : Nat
  startThreshold : Nat := 0
  availMin : Nat := 0
  deriving DecidableEq, Repr

namespace PcmConfig

/-- Media playback. -/
def hifi : PcmConfig :=
  { channels := 2, rate := 44100, periodSize := 2048, periodCount := 4
    startThreshold := 4096, availMin := 2048 }

/-- Media capture; the channels follow the stream. -/
def hifiUplink : PcmConfig :=
  { channels := 2, rate := 44100, periodSize := 1024, periodCount := 4 }

/-- The narrowband loop of a voice call. -/
def voice : PcmConfig :=
  { channels := 2, rate := 8000, periodSize := 160, periodCount := 2 }

/-- Bytes of one frame. -/
def frameBytes (c : PcmConfig) : Nat := c.channels * sampleBytes

/-- Frames of the whole buffer, in a word. -/
def bufferFrames (c : PcmConfig) : Nat := word (c.periodSize * c.periodCount)

end PcmConfig

/-- Why a substream operation failed: it could not be opened, a transfer was no whole
number of frames, a transfer failed in the driver, or memory could not be mapped. -/
inductive PcmError where
  | openFailed (card : Nat) (lane : Lane) (reason : String)
  | misaligned (length frameBytes : Nat)
  | transfer (reason : String)
  | mapping
  deriving DecidableEq, Repr

def PcmError.message : PcmError → String
  | .openFailed card lane reason =>
    "cannot open pcm " ++ toString card ++ ":" ++ lane.label ++ ": " ++ reason
  | .misaligned length frameBytes =>
    "transfer of " ++ toString length ++ " bytes is not a multiple of the " ++
      toString frameBytes ++ "-byte frame"
  | .transfer reason => "pcm i/o failed: " ++ reason
  | .mapping => "pcm buffer mapping failed"

/-- The number of a substream, in the order in which a card opened them. -/
abbrev SubstreamId := Nat

/-- What the device asks of a sound card whose state is a `σ`. -/
class PcmDriver (σ : Type) where
  acquire : (card : Nat) → Lane → PcmFlags → PcmConfig → σ → Except PcmError SubstreamId × σ
  start : SubstreamId → σ → Except PcmError Unit × σ
  stop : SubstreamId → σ → Except PcmError Unit × σ
  /-- Queues interleaved frames for playback. -/
  write : SubstreamId → List UInt8 → σ → Except PcmError Unit × σ
  /-- Takes as many captured bytes as asked for. -/
  read : SubstreamId → (length : Nat) → σ → Except PcmError (List UInt8) × σ
  /-- Frames that can be transferred without blocking, if known. -/
  avail : SubstreamId → σ → Option Nat × σ
  /-- Frames of the whole buffer. -/
  bufferSize : SubstreamId → σ → Nat
  /-- After so many answers of `avail` the queue of a substream is no longer too long. -/
  patience : SubstreamId → σ → Nat
  close : SubstreamId → σ → σ

end HandsetAudio
