import HandsetAudio.Arithmetic.Binary32
import HandsetAudio.Mixer.Basic
import HandsetAudio.Modem.Basic
import HandsetAudio.Pcm.Basic

/-!
# Errors of the device

Every failure that a caller sees is an `AudioError`: a cause, with its text in
`message` and the number that callers of the handle interface get in `errno`.
-/

namespace HandsetAudio

/-- Why an argument was rejected. Capture knows one or two channels, the rates that it can
convert to and one sample format; nobody counts rendered frames; and callers of the handle
interface may leave out a result place, a text or a stream. -/
inductive Rejection where
  | voiceVolume (volume : Float32)
  | channelCount (channels : Nat)
  | sampleRate (rate : Nat)
  | sampleFormat (format : Nat)
  | renderPosition
  | noResultPlace
  | noParameters
  | malformedParameters
  | noStream
  | other (reason : String)

def Rejection.message : Rejection → String
  | .voiceVolume volume =>
    "voice volume " ++ (Arithmetic.Binary32.ofFloat volume).shortest ++ " out of range"
  | .channelCount channels => "unsupported channel count " ++ toString channels
  | .sampleRate rate => "unsupported sample rate " ++ toString rate
  | .sampleFormat format =>
    "unsupported format 0x" ++ String.ofList (Nat.toDigits 16 format)
  | .renderPosition => "render position is not tracked"
  | .noResultPlace => "null output pointer"
  | .noParameters => "null parameter string"
  | .malformedParameters => "parameter string is not valid text"
  | .noStream => "null stream pointer"
  | .other reason => reason

/-- Why an operation of the device failed: what the caller asked for, or the part of the
hardware that failed. -/
inductive AudioError where
  | invalidArgument (why : Rejection)
  | invalidMode (code : Int)
  /-- A stream of the direction is open already. -/
  | busy (stream : String)
  | notSupported
  | noDevice
  | mixer (e : MixerError)
  | pcm (e : PcmError)
  | modem (e : ModemError)

namespace AudioError

def message : AudioError → String
  | .invalidArgument why => "invalid argument: " ++ why.message
  | .invalidMode code => "unknown audio mode " ++ toString code
  | .busy stream => stream ++ " stream already open"
  | .notSupported => "operation not supported"
  | .noDevice => "null device pointer"
  | .mixer e => e.message
  | .pcm e => e.message
  | .modem e => e.message

/-- The number of the error, negative as callers of the handle interface expect it. -/
def errno : AudioError → Int
  | .invalidArgument _ | .invalidMode _ => -22
  | .busy _ => -16
  | .notSupported => -38
  | .noDevice | .mixer _ | .modem _ => -19
  | .pcm (.openFailed ..) => -12
  | .pcm _ => -5

end AudioError

end HandsetAudio
