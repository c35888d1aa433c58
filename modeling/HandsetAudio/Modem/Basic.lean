import HandsetAudio.Routing

/-!
# Audio requests to the modem

The modem owns the audio of a call; it is only told where to route it, how loud, and
when to lock its clock to the codec. `ModemLink` is the connection that carries these
requests: every operation maps a state of the connection to its answer and the next
state.
-/

namespace HandsetAudio

/-- Clock request to the modem. -/
inductive SoundClock where
  | stop
  | start
  deriving DecidableEq, Repr

/-- The number of the request on the wire. -/
def SoundClock.code : SoundClock → Nat
  | .stop => 0
  | .start => 1

/-- A request to the modem. -/
inductive ModemRequest where
  | volume (curve : SoundCurve) (level : Int)
  | path (path : CallPath)
  | clock (clock : SoundClock)
  deriving DecidableEq, Repr

namespace ModemRequest

/-- The name of the request in the modem's own errors. -/
def name : ModemRequest → String
  | .volume .. => "volume"
  | .path _ => "audio_path"
  | .clock _ => "clock_sync"

/-- The name of the request in the device's log. -/
def operation : ModemRequest → String
  | .volume .. => "set_call_volume"
  | .path _ => "set_call_audio_path"
  | .clock _ => "set_call_clock_sync"

end ModemRequest

/-- Why a modem operation failed. -/
inductive ModemError where
  | unavailable
  | notConnected
  /-- The daemon refused or lost a request. -/
  | requestFailed (name : String)
  deriving DecidableEq, Repr

def ModemError.message : ModemError → String
  | .unavailable => "modem client unavailable"
  | .notConnected => "radio daemon not reachable"
  | .requestFailed name => "modem request " ++ name ++ " failed"

/-- What a modem was asked to do. -/
inductive ModemEvent where
  | opened
  | connected
  | attempted
  /-- A request was accepted. -/
  | request (r : ModemRequest)
  | closed
  deriving DecidableEq, Repr

/-- The event as a line. -/
def ModemEvent.line : ModemEvent → String
  | .opened => "opened"
  | .connected => "connected"
  | .attempted => "connect"
  | .request (.volume curve level) => "volume " ++ toString curve.code ++ " " ++ toString level
  | .request (.path path) => "path " ++ toString path.code
  | .request (.clock clock) => "clock " ++ toString clock.code
  | .closed => "closed"

/-- The paths among the accepted requests, in order. -/
def ModemEvent.paths (events : List ModemEvent) : List CallPath :=
  events.filterMap fun
    | .request (.path path) => some path
    | _ => none

/-- A connection to the radio daemon whose state is a `μ`. -/
class ModemLink (μ : Type) where
  acquire : μ → Except ModemError Unit × μ
  connect : μ → Except ModemError Unit × μ
  isConnected : μ → Bool
  request : ModemRequest → μ → Except ModemError Unit × μ
  /-- Tears the client down. -/
  close : μ → μ

end HandsetAudio
