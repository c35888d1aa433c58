import HandsetAudio.Console.Control

/-!
# Keys of the console

The console shows what it last saw of the shared device and the newest lines of the
log. A key acts on the device as it was last seen: the next mode, the next output, the
other noise reduction, a step of volume. What came of it is the message at the bottom.
-/

namespace HandsetAudio.Console

/-- What the console shows. -/
structure View where
  /-- The shared device when it was last looked at. -/
  status : Option Device.Status := none
  /-- The newest lines of the log. -/
  log : List String := []
  /-- What came of the last key. -/
  message : Option String := none

/-- A key. -/
inductive Key where
  | char (c : Char)
  | up
  | down
  | other
  deriving DecidableEq, Repr

/-- Lines of the log that are shown. -/
def logLines : Nat := 8

/-- One press changes the volume by this much. -/
def volumeStep : Float32 := 0.1

/-- The outputs that the console goes through, by name. -/
def outputCycle : List (String × DeviceSet) :=
  [("speaker", .speaker), ("earpiece", .earpiece), ("headset", .wiredHeadset),
   ("headphone", .wiredHeadphone), ("bt-sco", .bluetoothSco)]

/-- The entry of `cycle` after the one for `outputs`; else the first one, `first`. -/
def entryAfter (outputs : DeviceSet) (first : String × DeviceSet) :
    List (String × DeviceSet) → String × DeviceSet
  | [] => first
  | [_] => first
  | a :: b :: rest => if a.2 = outputs then b else entryAfter outputs first (b :: rest)

/-- The output that follows the outputs of `devices` in the cycle. -/
def nextOutput (devices : DeviceSet) : String × DeviceSet :=
  entryAfter devices.outputs ("speaker", .speaker) outputCycle

/-- A volume with one decimal place. -/
def volumeText (volume : Float32) : String := (Arithmetic.Binary32.ofFloat volume).fixed 1

/-- The lesser of two volumes. -/
def least (a b : Float32) : Float32 := if a < b then a else b

/-- The greater of two volumes. -/
def greatest (a b : Float32) : Float32 := if a > b then a else b

/-- The view after it looked at the device and took the log. -/
def look (v : View) (s : Session) : View × Session :=
  let (lines, s) := drainLog s
  ({ v with status := s.status, log := Log.newest logLines (v.log ++ lines) }, s)

/-- The message about an action. -/
def outcomeText (done : String) : Except AudioError Unit → String
  | .ok _ => done
  | .error e => "Failed: " ++ e.message

/-- What a key does, with the message if it works; `none` for a key without a meaning. -/
def action? (seen : Routing) (s : Session) :
    Key → Option (String × Except AudioError Unit × Session)
  | .char 'm' =>
    let mode := seen.mode.next
    some ("Mode " ++ mode.name, setMode s mode)
  | .char 'o' =>
    let (name, devices) := nextOutput seen.devices
    some ("Output routed to " ++ name, routeOutput s devices)
  | .char 'n' =>
    let on := !seen.nrec
    some ("Headset NR " ++ (if on then "on" else "off"), setNrec s on)
  | .char '+' | .up =>
    let volume := least (seen.voiceVolume + volumeStep) 1.0
    some ("Voice volume " ++ volumeText volume, setVoiceVolume s volume)
  | .char '-' | .down =>
    let volume := greatest (seen.voiceVolume - volumeStep) 0.0
    some ("Voice volume " ++ volumeText volume, setVoiceVolume s volume)
  | _ => none

/-- Handles a key; tells whether the console ends. Without a device only `q` has a
meaning. -/
def press (v : View) (s : Session) (key : Key) : Bool × View × Session :=
  if key = .char 'q' then (true, v, s)
  else
    match v.status with
    | none => (false, v, s)
    | some status =>
      match action? status.routing s key with
      | none => (false, v, s)
      | some (done, result, s) => (false, { v with message := some (outcomeText done result) }, s)

end HandsetAudio.Console
