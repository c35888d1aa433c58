import HandsetAudio.Device.Call

/-!
# Operations of a device

`Operation` lists what clients can do to a device and its streams; `Device.step` does
one, `Device.run` several in a row. An operation on a stream that no client has is
rejected.
-/

namespace HandsetAudio

/-- What a client can do. -/
inductive Operation where
  /-- Ask whether the device is usable. -/
  | check
  /-- Change the telephony mode, by number. -/
  | setMode (code : Int)
  | setVoiceVolume (volume : Float32)
  /-- Set the volume of everything. -/
  | setMasterVolume (volume : Float32)
  | setMicMute (on : Bool)
  | micMute
  | setParameters (text : String)
  | parameters (keys : String)
  /-- Ask for the size of a capture buffer. -/
  | captureBuffer (format : StreamFormat)
  | routeOutput (devices : DeviceSet)
  | openOutput (devices : DeviceSet)
  | openInput (devices : DeviceSet) (format : StreamFormat)
  | closeOutput (i : StreamId)
  | closeInput (i : StreamId)
  | dropOutput (i : StreamId)
  | dropInput (i : StreamId)
  | write (i : StreamId) (bytes : List UInt8)
  | read (i : StreamId) (length : Nat)
  | standbyOutput (i : StreamId)
  | standbyInput (i : StreamId)
  | isStandbyOutput (i : StreamId)
  | isStandbyInput (i : StreamId)
  | setOutputParameters (i : StreamId) (text : String)
  | setInputParameters (i : StreamId) (text : String)
  | outputParameters (i : StreamId) (keys : String)
  | inputParameters (i : StreamId) (keys : String)
  /-- Set the volume of a playback stream, left and right. -/
  | setOutputVolume (i : StreamId) (left right : Float32)
  /-- Ask how many frames a playback stream has rendered. -/
  | renderPosition (i : StreamId)
  /-- Ask how many milliseconds a playback stream lags behind. -/
  | latency (i : StreamId)
  | setInputGain (i : StreamId) (gain : Float32)
  /-- Ask how many frames a capture stream has lost. -/
  | lostFrames (i : StreamId)

/-- What an operation that succeeded answers. -/
inductive Reply where
  /-- Nothing more. -/
  | done
  | flag (on : Bool)
  | count (n : Nat)
  | parameters (p : Params)
  /-- The number of a stream, and its format. -/
  | opened (i : StreamId) (format : StreamFormat)
  /-- How many bytes were taken. -/
  | taken (bytes : Nat)
  | captured (bytes : List UInt8)
  deriving DecidableEq, Repr

namespace Device

variable {σ μ : Type} [PcmDriver σ] [ModemLink μ]

/-- `f` for a playback stream that a client has. -/
def onOutput (d : Device σ μ) (i : StreamId)
    (f : OutputStream → Except AudioError Reply × Device σ μ) :
    Except AudioError Reply × Device σ μ :=
  match d.heldOutput? i with
  | none => (.error (.invalidArgument .noStream), d)
  | some s => f s

/-- `f` for a capture stream that a client has. -/
def onInput (d : Device σ μ) (i : StreamId)
    (f : InputStream → Except AudioError Reply × Device σ μ) :
    Except AudioError Reply × Device σ μ :=
  match d.heldInput? i with
  | none => (.error (.invalidArgument .noStream), d)
  | some s => f s

/-- Does one operation. No parameter can be asked for, the volume of media cannot be set,
and the gain of a capture stream has no effect. -/
def step (d : Device σ μ) : Operation → Except AudioError Reply × Device σ μ
  | .check => (.ok .done, d)
  | .setMode code =>
    match Mode.ofCode? code with
    | none => (.error (.invalidMode code), d)
    | some mode => (.ok .done, d.setMode mode)
  | .setVoiceVolume volume =>
    match d.setVoiceVolume volume with
    | (.ok _, d) => (.ok .done, d)
    | (.error e, d) => (.error e, d)
  | .setMasterVolume _ => (.error .notSupported, d)
  | .setMicMute on => (.ok .done, d.setMicMute on)
  | .micMute => (.ok (.flag d.routing.micMute), d)
  | .setParameters text => (.ok .done, d.setParameters text)
  | .parameters _ => (.ok (.parameters ⟨[]⟩), d)
  | .captureBuffer format => (.ok (.count format.captureBuffer), d)
  | .routeOutput devices => (.ok .done, d.routeOutput devices)
  | .openOutput _ =>
    match d.openOutput with
    | (.ok i, d) => (.ok (.opened i .playback), d)
    | (.error e, d) => (.error e, d)
  | .openInput _ format =>
    match d.openInput format with
    | (.ok i, d) => (.ok (.opened i format), d)
    | (.error e, d) => (.error e, d)
  | .closeOutput i => d.onOutput i fun _ => (.ok .done, d.closeOutput i)
  | .closeInput i => d.onInput i fun _ => (.ok .done, d.closeInput i)
  | .dropOutput i => d.onOutput i fun _ => (.ok .done, d.dropOutput i)
  | .dropInput i => d.onInput i fun _ => (.ok .done, d.dropInput i)
  | .write i bytes =>
    match d.writeOutput i bytes with
    | (.ok n, d) => (.ok (.taken n), d)
    | (.error e, d) => (.error e, d)
  | .read i length =>
    match d.readInput i length with
    | (.ok bytes, d) => (.ok (.captured bytes), d)
    | (.error e, d) => (.error e, d)
  | .standbyOutput i => d.onOutput i fun _ => (.ok .done, d.standbyOutput i)
  | .standbyInput i => d.onInput i fun _ => (.ok .done, d.standbyInput i)
  | .isStandbyOutput i => d.onOutput i fun s => (.ok (.flag s.standby), d)
  | .isStandbyInput i => d.onInput i fun s => (.ok (.flag s.standby), d)
  | .setOutputParameters i text => d.onOutput i fun _ => (.ok .done, d.setOutputParameters i text)
  | .setInputParameters i text => d.onInput i fun _ => (.ok .done, d.setInputParameters i text)
  | .outputParameters i _ => d.onOutput i fun _ => (.ok (.parameters ⟨[]⟩), d)
  | .inputParameters i _ => d.onInput i fun _ => (.ok (.parameters ⟨[]⟩), d)
  | .setOutputVolume i _ _ => d.onOutput i fun _ => (.error .notSupported, d)
  | .renderPosition i => d.onOutput i fun _ => (.error (.invalidArgument .renderPosition), d)
  | .latency i => d.onOutput i fun _ => (.ok (.count StreamFormat.playbackLatency), d)
  | .setInputGain i _ => d.onInput i fun _ => (.ok .done, d)
  | .lostFrames i => d.onInput i fun _ => (.ok (.count 0), d)

/-- Does several operations in a row. -/
def run (d : Device σ μ) (ops : List Operation) : Device σ μ :=
  ops.foldl (fun d op => (d.step op).2) d

end Device

end HandsetAudio
