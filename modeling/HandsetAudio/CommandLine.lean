import HandsetAudio.Console.Screen

/-!
# The command line

`audiohwctl` opens a device on the software parts and either prints what it sees of it
or runs the console. Only the first argument counts.
-/

namespace HandsetAudio.CommandLine

/-- What the arguments ask for. -/
inductive Command where
  /-- Print the state of a fresh device. -/
  | status
  /-- Print how the program is used. -/
  | help
  /-- Run the console. -/
  | console
  /-- Nothing that is known. -/
  | unknown (argument : String)
  deriving DecidableEq, Repr

/-- The command in `args`. -/
def Command.ofArgs : List String → Command
  | [] => .console
  | "--status" :: _ | "-s" :: _ => .status
  | "--help" :: _ | "-h" :: _ => .help
  | argument :: _ => .unknown argument

/-- What a run leaves behind. -/
structure Outcome where
  /-- The exit code. -/
  exit : Nat := 0
  /-- Lines of the standard output. -/
  output : List String := []
  /-- Lines of the error output. -/
  errors : List String := []
  deriving DecidableEq, Repr

/-- How the program is used. -/
def usage : List String :=
  ["Usage: audiohwctl [--status]",
   "",
   "Opens a device on the software backends. Without arguments the interactive console launches."]

/-- A run that failed; a line break in the text starts a new line. -/
def failure (text : String) : Outcome :=
  { exit := 1
    errors := (Text.splitAt '\n' ("audiohwctl: " ++ text).toList).map String.ofList }

/-- `text` padded with spaces to at least `width` characters. -/
def pad (width : Nat) (text : String) : String :=
  text ++ Console.fill (width - text.length) ' '

/-- The lines about one path. -/
def pathLines (title : String) (controls : List ControlStatus) : List String :=
  (title ++ ":") :: controls.map fun c =>
    "  " ++ pad 32 c.name ++ " " ++ Console.controlText c

/-- The lines about a device. -/
def statusLines (status : Device.Status) : List String :=
  [ "Mode        : " ++ status.routing.mode.name,
    "Call        : " ++ status.call.name,
    "Devices     : " ++ Text.hex8 status.routing.devices.toNat,
    "Call path   : " ++ status.callPath.name,
    "Voice volume: " ++ (Arithmetic.Binary32.ofFloat status.routing.voiceVolume).fixed 2,
    "Headset NR  : " ++ Console.onOff status.routing.nrec,
    "Mic mute    : " ++ (if status.routing.micMute then "yes" else "no") ] ++
    pathLines "Output path" status.outputControls ++
    pathLines "Input path" status.inputControls

/-- What is printed about the shared device of a session. -/
def report (s : Session) : Outcome :=
  match s.status with
  | none => failure "no open device"
  | some status =>
    { output := statusLines status ++ (Console.drainLog s).1.map ("log: " ++ ·) }

/-- A session with a device that is configured by the named variables. -/
def openSession (lookup : String → Option String) : Except Outcome Session :=
  match ({} : Session).openDevice (Config.ofLookup lookup) with
  | (.error e, _) => .error (failure ("cannot open device (" ++ toString e.errno ++ ")"))
  | (.ok _, s) => .ok s

/-- Runs a command; `none` if that takes the console. -/
def run (args : List String) (lookup : String → Option String) : Option Outcome :=
  match Command.ofArgs args with
  | .console => none
  | .help => some { output := usage }
  | .unknown argument => some (failure ("unknown argument '" ++ argument ++ "'"))
  | .status =>
    match openSession lookup with
    | .error outcome => some outcome
    | .ok s => some (report s)

end HandsetAudio.CommandLine
