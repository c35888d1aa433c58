import HandsetAudio.Device.Operation
import HandsetAudio.Log
import HandsetAudio.Modem.Recorder
import HandsetAudio.Pcm.SoftCard

/-!
# Sessions

A `Session` is what one process knows: every device that it opened on the software
card, mixer and modem, the log that they share, and the *current* device, which is the
one that was opened last, as long as its handle is open. The current device is kept
twice: its handle, for callers who close it, and the device itself, for tools that have
no handle of their own.

A handle names a device or a stream; a device that lost its handle stays usable for
whoever else holds it.
-/

namespace HandsetAudio

/-- A device on the software card, mixer and modem. -/
abbrev SoftDevice := Device SoftCard ModemRecorder

/-- The number of a device, in the order in which a session opened them. -/
abbrev DeviceHandle := Nat

/-- A stream of a device. -/
structure StreamHandle where
  device : DeviceHandle
  stream : StreamId
  deriving DecidableEq, Repr

/-- The devices of a process and its log. -/
structure Session where
  /-- Every device opened so far, by number. -/
  devices : List SoftDevice := []
  /-- The handle that was opened last, while it is open. -/
  current : Option DeviceHandle := none
  /-- The device behind `current`, shared with tools. -/
  shared : Option DeviceHandle := none
  /-- The shared log. -/
  log : Log := {}

namespace Session

/-- Opens a device on fresh software parts. -/
def freshDevice (config : Config) :
    Except (AudioError × List String × Mixer × SoftCard × ModemRecorder) SoftDevice :=
  Device.acquire config Mixer.ofTables {} {}

/-- Replaces a device, whose notices go to the log. -/
def put (s : Session) (i : DeviceHandle) (d : SoftDevice) : Session :=
  let (lines, d) := d.takeNotices
  { s with devices := s.devices.set i d, log := s.log.append lines }

/-- Does something to a device. -/
def onDevice {α : Type} (s : Session) (i : Option DeviceHandle)
    (f : SoftDevice → Except AudioError α × SoftDevice) : Except AudioError α × Session :=
  match i.bind fun i => (s.devices[i]?).map (i, ·) with
  | none => (.error .noDevice, s)
  | some (i, d) =>
    let (r, d) := f d
    (r, s.put i d)

/-- Changes a device without an answer. -/
def modifyDevice (s : Session) (i : DeviceHandle) (f : SoftDevice → SoftDevice) : Session :=
  (s.onDevice (some i) fun d => (.ok (), f d)).2

/-- Does an operation on a device. -/
def perform (s : Session) (i : Option DeviceHandle) (op : Operation) :
    Except AudioError Reply × Session :=
  s.onDevice i fun d => d.step op

/-- Opens a device, which becomes the current one. A failed open is logged. -/
def openDevice (s : Session) (config : Config) : Except AudioError DeviceHandle × Session :=
  match freshDevice config with
  | .error (e, lines, _) =>
    (.error e, { s with log := (s.log.append lines).push ("device open failed: " ++ e.message) })
  | .ok d =>
    let i := s.devices.length
    (.ok i, { s with devices := s.devices ++ [d], shared := some i, current := some i }.put i d)

/-- Closes the handle of a device, which is shared no more if it was the current one. -/
def closeDevice (s : Session) (i : DeviceHandle) : Session :=
  if s.current = some i then { s with current := none, shared := none } else s

/-- What a client sees of a device. -/
def statusOf (s : Session) (i : Option DeviceHandle) : Option Device.Status :=
  (i.bind (s.devices[·]?)).map Device.status

/-- What tools see of the shared device. -/
def status (s : Session) : Option Device.Status := s.statusOf s.shared

end Session

end HandsetAudio
