import HandsetAudio.Handles.Session

/-!
# Controlling the shared device

Tools act on the device that a session shares. Without one every change fails and
nothing happens.
-/

namespace HandsetAudio.Console

/-- Does something to the shared device that cannot fail. -/
def onShared (s : Session) (f : SoftDevice → SoftDevice) : Except AudioError Unit × Session :=
  s.onDevice s.shared fun d => (.ok (), f d)

/-- Changes the telephony mode. -/
def setMode (s : Session) (mode : Mode) : Except AudioError Unit × Session :=
  onShared s fun d => d.setMode mode

/-- Routes playback. -/
def routeOutput (s : Session) (devices : DeviceSet) : Except AudioError Unit × Session :=
  onShared s fun d => d.routeOutput devices

/-- Tells whether the Bluetooth headset reduces noise itself. -/
def setNrec (s : Session) (on : Bool) : Except AudioError Unit × Session :=
  let value := if on then Params.onValue else Params.offValue
  onShared s fun d => d.setParameters (Params.nrecKey ++ "=" ++ value)

/-- Sets the call volume. -/
def setVoiceVolume (s : Session) (volume : Float32) : Except AudioError Unit × Session :=
  s.onDevice s.shared fun d => d.setVoiceVolume volume

/-- Takes every line of the log. -/
def drainLog (s : Session) : List String × Session :=
  let (lines, log) := s.log.drain
  (lines, { s with log })

end HandsetAudio.Console
