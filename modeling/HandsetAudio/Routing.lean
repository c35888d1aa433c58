import HandsetAudio.DeviceSet
import HandsetAudio.Mode

/-!
# Routing facts and the call policy

`Routing` is what the device knows about where audio goes. From the output half
of its devices follow the audio path that the modem is asked for
(`callPath`) and the volume curve that it applies (`soundCurve`); only a single
output has a path of its own, every combination falls back to the handset.
`callEntry` is the policy for the start of a call: a call never starts on the
loudspeaker.
-/

namespace HandsetAudio

/-- Audio path of the modem during a voice call. A Bluetooth headset that does not reduce
noise itself, and a headphone without a microphone, have paths of their own. -/
inductive CallPath where
  | handset
  | headset
  | speaker
  | bluetooth
  | bluetoothNoNr
  | headphone
  deriving DecidableEq, Repr, Inhabited

namespace CallPath

/-- The number of the path on the wire. -/
def code : CallPath → Nat
  | .handset => 0
  | .headset => 1
  | .speaker => 2
  | .bluetooth => 3
  | .bluetoothNoNr => 4
  | .headphone => 5

/-- The name under which a path is reported. -/
def name : CallPath → String
  | .handset => "handset"
  | .headset => "headset"
  | .speaker => "speaker"
  | .bluetooth => "bluetooth"
  | .bluetoothNoNr => "bluetooth-no-nr"
  | .headphone => "headphone"

def ofCode? : Nat → Option CallPath
  | 0 => some .handset
  | 1 => some .headset
  | 2 => some .speaker
  | 3 => some .bluetooth
  | 4 => some .bluetoothNoNr
  | 5 => some .headphone
  | _ => none

end CallPath

/-- Volume curve that the modem applies to the call volume. -/
inductive SoundCurve where
  | voice
  | speaker
  | headset
  | bluetoothVoice
  deriving DecidableEq, Repr, Inhabited

namespace SoundCurve

/-- The number of the curve on the wire. -/
def code : SoundCurve → Nat
  | .voice => 0
  | .speaker => 1
  | .headset => 2
  | .bluetoothVoice => 3

def ofCode? : Nat → Option SoundCurve
  | 0 => some .voice
  | 1 => some .speaker
  | 2 => some .headset
  | 3 => some .bluetoothVoice
  | _ => none

end SoundCurve

namespace DeviceSet

/-- Whether `s` is exactly one of the Bluetooth SCO outputs. -/
def isSco (s : DeviceSet) : Bool :=
  s == bluetoothSco || s == bluetoothScoHeadset || s == bluetoothScoCarkit

/-- Modem path for the output half of `s`; `nrec` tells that the Bluetooth
headset reduces noise itself. -/
def callPath (s : DeviceSet) (nrec : Bool) : CallPath :=
  let out := s.outputs
  if out = earpiece then .handset
  else if out = speaker ∨ out = auxDigital then .speaker
  else if out = wiredHeadset then .headset
  else if out = wiredHeadphone then .headphone
  else if out.isSco then (if nrec then .bluetooth else .bluetoothNoNr)
  else .handset

/-- Volume curve for the output half of `s`. -/
def soundCurve (s : DeviceSet) : SoundCurve :=
  let out := s.outputs
  if out = speaker ∨ out = auxDigital then .speaker
  else if out = wiredHeadset ∨ out = wiredHeadphone then .headset
  else if out.isSco then .bluetoothVoice
  else .voice

/-- Devices for a call that starts from `s`: the loudspeaker alone becomes the
earpiece and the main microphone, anything else only loses the loudspeaker. -/
def callEntry (s : DeviceSet) : DeviceSet :=
  if s.outputs = speaker then earpiece ∪ builtinMic else s \ speaker

end DeviceSet

/-- Mode and device selection shared by both signal paths. -/
structure Routing where
  mode : Mode := .normal
  devices : DeviceSet := DeviceSet.speaker ∪ DeviceSet.builtinMic
  /-- Captured audio is zeroed while set. -/
  micMute : Bool := false
  /-- The Bluetooth headset does its own noise reduction. -/
  nrec : Bool := true
  inCall : Bool := false
  /-- Call volume between 0 and 1. -/
  voiceVolume : Float32 := 1.0

namespace Routing

def callPath (r : Routing) : CallPath := r.devices.callPath r.nrec

def soundCurve (r : Routing) : SoundCurve := r.devices.soundCurve

end Routing

end HandsetAudio
