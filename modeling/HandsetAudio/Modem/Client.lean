import HandsetAudio.Modem.Basic

/-!
# The modem client

The client connects when the first request needs it and sends requests on a
best-effort basis: a request that cannot be sent leaves a line for the log and nothing
else.
-/

namespace HandsetAudio

/-- A link to the modem, with the number of volume levels it knows. -/
structure ModemClient (μ : Type) where
  link : μ
  /-- Volume levels of a call. -/
  volumeSteps : UInt32

/-- The level that stands for `volume` among `steps` levels: the volume, limited to the
range from 0 to 1, times the number of levels, cut to an integer; 0 for no number. -/
def volumeLevel (volume : Float32) (steps : UInt32) : Int :=
  let limited := if volume < 0.0 then 0.0 else if volume > 1.0 then 1.0 else volume
  (limited * steps.toFloat32).toInt32.toInt

namespace ModemClient

variable {μ : Type} [ModemLink μ]

/-- Opens `link`. -/
def acquire (link : μ) (volumeSteps : UInt32) : Except ModemError (ModemClient μ) × μ :=
  match ModemLink.acquire link with
  | (.error e, link) => (.error e, link)
  | (.ok _, link) => (.ok { link, volumeSteps }, link)

/-- Whether the link is connected. -/
def isConnected (c : ModemClient μ) : Bool := ModemLink.isConnected c.link

/-- Connects the link unless it is connected. -/
def ensureConnected (c : ModemClient μ) : Except ModemError Unit × ModemClient μ :=
  if c.isConnected then (.ok (), c)
  else
    let (result, link) := ModemLink.connect c.link
    (result, { c with link })

/-- Sends a request, and gives the line to log if that failed. -/
def send (c : ModemClient μ) (r : ModemRequest) : List String × ModemClient μ :=
  match c.ensureConnected with
  | (.error e, c) => (["modem " ++ r.operation ++ " dropped: " ++ e.message], c)
  | (.ok _, c) =>
    match ModemLink.request r c.link with
    | (.ok _, link) => ([], { c with link })
    | (.error e, link) => (["modem " ++ r.operation ++ " failed: " ++ e.message], { c with link })

/-- The request for `volume` on `curve`. -/
def volumeRequest (c : ModemClient μ) (curve : SoundCurve) (volume : Float32) : ModemRequest :=
  .volume curve (volumeLevel volume c.volumeSteps)

/-- Tears the link down. -/
def close (c : ModemClient μ) : ModemClient μ := { c with link := ModemLink.close c.link }

end ModemClient

end HandsetAudio
