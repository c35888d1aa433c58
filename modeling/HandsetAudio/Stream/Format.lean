import HandsetAudio.Error

/-!
# Stream formats

What a client may ask a stream for, and how large its buffers are. Playback has one
format; capture converts from the codec's rate to one of eight.
-/

namespace HandsetAudio

/-- Client-facing format of a stream; samples always have 16 bits. -/
structure StreamFormat where
  /-- Frames each second. -/
  rate : Nat
  /-- Interleaved channels. -/
  channels : Nat
  deriving DecidableEq, Repr

namespace StreamFormat

/-- The format of playback. -/
def playback : StreamFormat := { rate := PcmConfig.hifi.rate, channels := PcmConfig.hifi.channels }

/-- Rates that captured audio can be converted to. -/
def captureRates : List Nat := [8000, 11025, 16000, 22050, 24000, 32000, 44100, 48000]

/-- Whether capture can deliver the format; the channels are looked at first. -/
def checkCapture (f : StreamFormat) : Except AudioError Unit :=
  if ¬(1 ≤ f.channels ∧ f.channels ≤ 2) then
    .error (.invalidArgument (.channelCount f.channels))
  else if f.rate ∉ captureRates then .error (.invalidArgument (.sampleRate f.rate))
  else .ok ()

/-- Whether capture can deliver the format. -/
def isCapture (f : StreamFormat) : Bool :=
  match f.checkCapture with
  | .ok _ => true
  | .error _ => false

/-- `frames` rounded up to a multiple of 16. -/
def roundTo16 (frames : Nat) : Nat := (frames + 15) / 16 * 16

/-- Preferred size of a capture buffer in bytes: one period of the codec at the rate of
the format, rounded up to a multiple of 16 frames; 0 for a format that capture cannot
deliver. -/
def captureBuffer (f : StreamFormat) : Nat :=
  if f.isCapture then
    roundTo16 (PcmConfig.hifiUplink.periodSize * f.rate / PcmConfig.hifiUplink.rate) *
      f.channels * sampleBytes
  else 0

/-- Preferred size of a playback buffer in bytes: one period of the codec. -/
def playbackBuffer : Nat := roundTo16 PcmConfig.hifi.periodSize * PcmConfig.hifi.frameBytes

/-- Milliseconds of audio in the playback buffer of the codec. -/
def playbackLatency : Nat := PcmConfig.hifi.bufferFrames * 1000 / PcmConfig.hifi.rate

end StreamFormat

end HandsetAudio
