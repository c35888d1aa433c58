import HandsetAudio.Device.Stream

/-!
# Routing and calls

Rerouting replaces one half of the devices and converges the path of that half; during
a call a new output also means a new path for the modem. Entering a call puts every
active stream in standby, leaves the loudspeaker, converges both paths, tells the
modem, and starts the voice loop; leaving it takes the same steps back. That the voice
loop cannot be started is reported, the call goes on without it.
-/

namespace HandsetAudio

namespace Device

variable {σ μ : Type}

/-- Replaces the output half of the devices; an empty or unchanged one is ignored. -/
def rerouteOutput [ModemLink μ] (d : Device σ μ) (devices : DeviceSet) (on : Bool) : Device σ μ :=
  let outputs := devices.outputs
  if outputs.isEmpty || outputs == d.routing.devices.outputs then d
  else
    let routing := { d.routing with devices := d.routing.devices.withOutputs outputs }
    let d := { d with routing }.converge .output on
    if d.routing.inCall then d.pushCallPath else d

/-- Replaces the input half of the devices; an empty or unchanged one is ignored. -/
def rerouteInput (d : Device σ μ) (devices : DeviceSet) (on : Bool) : Device σ μ :=
  let inputs := devices.inputs
  if inputs.isEmpty || inputs == d.routing.devices.inputs then d
  else
    let routing := { d.routing with devices := d.routing.devices.withInputs inputs }
    { d with routing }.converge .input on

/-- Routes playback without going through a stream. -/
def routeOutput [ModemLink μ] (d : Device σ μ) (devices : DeviceSet) : Device σ μ :=
  d.rerouteOutput devices d.outputOn

/-- The devices that a parameter string routes to. -/
def routedDevices? (text : String) : Option DeviceSet :=
  ((Params.parse text).getInt? Params.routingKey).map DeviceSet.ofInt

/-- Applies a parameter string to a playback stream. -/
def setOutputParameters [ModemLink μ] (d : Device σ μ) (i : StreamId) (text : String) :
    Device σ μ :=
  match routedDevices? text with
  | none => d
  | some devices => d.rerouteOutput devices (d.outputSubstream? i).isSome

/-- Applies a parameter string to a capture stream. -/
def setInputParameters (d : Device σ μ) (i : StreamId) (text : String) : Device σ μ :=
  match routedDevices? text with
  | none => d
  | some devices => d.rerouteInput devices (d.capture? i).isSome

/-- Applies a parameter string to the device: whether the Bluetooth headset reduces
noise itself. -/
def setParameters [ModemLink μ] (d : Device σ μ) (text : String) : Device σ μ :=
  match (Params.parse text).get? Params.nrecKey with
  | none => d
  | some value =>
    let nrec := value == Params.onValue
    if d.routing.nrec = nrec then d
    else
      let d := { d with routing := { d.routing with nrec } }
      if d.routing.inCall then d.pushCallPath else d

/-- Mutes or unmutes the microphone. -/
def setMicMute (d : Device σ μ) (on : Bool) : Device σ μ :=
  { d with routing := { d.routing with micMute := on } }

/-- Sets the call volume; the modem hears of it in the call mode. -/
def setVoiceVolume [ModemLink μ] (d : Device σ μ) (volume : Float32) :
    Except AudioError Unit × Device σ μ :=
  if 0.0 ≤ volume ∧ volume ≤ 1.0 then
    let d := { d with routing := { d.routing with voiceVolume := volume } }
    (.ok (), if d.routing.mode = .inCall then d.pushVoiceVolume else d)
  else (.error (.invalidArgument (.voiceVolume volume)), d)

/-! ## Calls -/

/-- Puts the active streams in standby, playback first. -/
def standbyAll [PcmDriver σ] (d : Device σ μ) : Device σ μ :=
  let d :=
    match d.activeOutput? with
    | none => d
    | some i => d.standbyOutput i
  match d.activeInput? with
  | none => d
  | some i => d.standbyInput i

/-- Converges both paths and tells the modem its path. -/
def routeAll [ModemLink μ] (d : Device σ μ) : Device σ μ :=
  let outputOn := d.outputOn
  let inputOn := d.inputOn
  ((d.converge .output outputOn).converge .input inputOn).pushCallPath

/-- Starts the voice loop. -/
def startLoop [PcmDriver σ] (d : Device σ μ) : Device σ μ :=
  match d.loop.start d.config.card d.card with
  | (.ok _, loop, card) => { d with loop, card }
  | (.error e, loop, card) =>
    { d with loop, card }.note ("modem pcm loop not started: " ++ e.message)

/-- Stops the voice loop. -/
def stopLoop [PcmDriver σ] (d : Device σ μ) : Device σ μ :=
  let (loop, card) := d.loop.stop d.card
  { d with loop, card }

/-- Sets the flag of a running call. -/
def setInCall (d : Device σ μ) (inCall : Bool) : Device σ μ :=
  { d with routing := { d.routing with inCall } }

/-- Leaves the loudspeaker for a call. -/
def enterCallDevices (d : Device σ μ) : Device σ μ :=
  { d with routing := { d.routing with devices := d.routing.devices.callEntry } }

/-- Enters a call; the mode is set already. -/
def enterCall [PcmDriver σ] [ModemLink μ] (d : Device σ μ) : Device σ μ :=
  let d := d.standbyAll.enterCallDevices.routeAll.startLoop
  let d := (d.send (.clock .start)).pushVoiceVolume.setInCall true
  d.note ("call started on " ++ d.routing.callPath.name)

/-- Leaves a call; the mode is set already. -/
def leaveCall [PcmDriver σ] [ModemLink μ] (d : Device σ μ) : Device σ μ :=
  (d.setInCall false).stopLoop.standbyAll.routeAll.note "call ended"

/-- Changes the telephony mode. -/
def setMode [PcmDriver σ] [ModemLink μ] (d : Device σ μ) (mode : Mode) : Device σ μ :=
  if d.routing.mode = mode then d
  else
    let d := { d with routing := { d.routing with mode } }
    if mode = .inCall then (if d.routing.inCall then d else d.enterCall)
    else if d.routing.inCall then d.leaveCall
    else d

/-- Everything a client sees of the device. -/
structure Status where
  routing : Routing
  /-- Whether call audio is up. -/
  call : CallState
  /-- The modem's path for the current devices. -/
  callPath : CallPath
  /-- Whether both substreams of the voice loop are open. -/
  modemPcmActive : Bool
  /-- The standby flag of the active playback stream. -/
  outputStandby : Option Bool
  /-- The standby flag of the active capture stream. -/
  inputStandby : Option Bool
  outputControls : List ControlStatus
  inputControls : List ControlStatus

/-- What a client sees of the device now. -/
def status (d : Device σ μ) : Status :=
  { routing := d.routing
    call := CallState.ofBool d.routing.inCall
    callPath := d.routing.callPath
    modemPcmActive := d.loop.isActive
    outputStandby := d.outputStandby?
    inputStandby := d.inputStandby?
    outputControls := d.outputPath.snapshot
    inputControls := d.inputPath.snapshot }

/-- The clients drop every stream, playback first and by number. -/
def dropStreams [PcmDriver σ] (d : Device σ μ) : Device σ μ :=
  let d := (List.range d.outputs.length).foldl dropOutput d
  (List.range d.inputs.length).foldl dropInput d

/-- The device itself goes: the modem client is torn down and the voice loop closed. -/
def shutdown [PcmDriver σ] [ModemLink μ] (d : Device σ μ) : Device σ μ :=
  let (loop, card) := d.loop.drop d.card
  { d with modem := d.modem.close, loop, card }

end Device

end HandsetAudio
