import HandsetAudio.Console.Keys

/-!
# The console's screen

The screen has 160 columns and 50 rows, filled by five boxes. A box has a border with
its title in the upper left corner; its rows are cut or padded to its inner width.
-/

namespace HandsetAudio.Console

/-- `text`, cut or padded with spaces to `width` characters. -/
def fit (width : Nat) (text : String) : String :=
  let cs := text.toList.take width
  String.ofList (cs ++ List.replicate (width - cs.length) ' ')

/-- `n` times the character `c`. -/
def fill (n : Nat) (c : Char) : String := String.ofList (List.replicate n c)

/-- A box of `width` columns and `height` rows around `rows`. -/
def box (width height : Nat) (title : String) (rows : List String) : List String :=
  let inner := width - 2
  let name := String.ofList (title.toList.take inner)
  let shown := rows.take (height - 2)
  let blank := List.replicate (height - 2 - shown.length) ""
  ["┌" ++ name ++ fill (inner - name.length) '─' ++ "┐"] ++
    (shown ++ blank).map (fun row => "│" ++ fit inner row ++ "│") ++
    ["└" ++ fill inner '─' ++ "┘"]

/-- Two boxes of one height side by side. -/
def beside (left right : List String) : List String := List.zipWith (· ++ ·) left right

/-- The word for a standby flag. -/
def standbyText : Option Bool → String
  | none => "closed"
  | some true => "standby"
  | some false => "active"

/-- The word for a flag. -/
def onOff (on : Bool) : String := if on then "on" else "off"

/-- The word for the state of a control. -/
def controlText (c : ControlStatus) : String := if c.inert then "inert" else onOff c.applied

/-- The two lines about the device. -/
def headerRows : Option Device.Status → List String
  | none => ["No open device"]
  | some status =>
    let gap := "    "
    [ "Mode: " ++ status.routing.mode.name ++ gap ++
        "Call: " ++ status.call.name ++ gap ++
        "Devices: " ++ Text.hex8 status.routing.devices.toNat ++ gap ++
        "Path: " ++ status.callPath.name ++ gap ++
        "Volume: " ++ volumeText status.routing.voiceVolume ++ gap ++
        "NR: " ++ onOff status.routing.nrec ++ gap ++
        "Mic: " ++ (if status.routing.micMute then "muted" else "live"),
      "Output: " ++ standbyText status.outputStandby ++ gap ++
        "Input: " ++ standbyText status.inputStandby ++ gap ++
        "Modem PCM: " ++ (if status.modemPcmActive then "running" else "closed") ]

/-- A row of a control table: 70 columns, a gap, and six columns. -/
def controlRow (name state : String) : String := fit 70 name ++ "  " ++ fit 6 state

/-- The rows of a control table. -/
def controlRows (controls : List ControlStatus) : List String :=
  controlRow "Control" "State" :: controls.map fun c => controlRow c.name (controlText c)

/-- The line that explains the keys. -/
def helpText : String :=
  "m: Next mode  •  o: Next output  •  n: Toggle NR  •  +/-: Voice volume  •  q: Quit"

/-- Columns of the screen. -/
def screenWidth : Nat := 160

/-- The rows of the screen. -/
def render (v : View) : List String :=
  let output := (v.status.map (·.outputControls)).getD []
  let input := (v.status.map (·.inputControls)).getD []
  box screenWidth 4 "Aries Audio Console" (headerRows v.status) ++
    beside (box (screenWidth / 2) 32 "Output path" (controlRows output))
      (box (screenWidth / 2) 32 "Input path" (controlRows input)) ++
    box screenWidth (logLines + 2) "Log" v.log ++
    box screenWidth 4 "Help" (helpText :: v.message.toList)

end HandsetAudio.Console
