import HandsetAudio.Modem.Basic

/-!
# Modems in software

`ModemRecorder` accepts and records every request, unless it is told to refuse to open,
to connect or to take requests. `FlakyModem` follows a script: every attempt to connect
and every request succeeds or fails as the next entry of a list tells.
-/

namespace HandsetAudio

/-- A modem that records what it is asked. -/
structure ModemRecorder where
  refusesOpen : Bool := false
  refusesConnect : Bool := false
  /-- Whether every request fails. -/
  refusesRequests : Bool := false
  connected : Bool := false
  /-- What happened since the record was taken, oldest first. -/
  events : List ModemEvent := []
  deriving DecidableEq, Repr

namespace ModemRecorder

/-- Adds an entry to the record. -/
def record (m : ModemRecorder) (e : ModemEvent) : ModemRecorder :=
  { m with events := m.events ++ [e] }

/-- The record, and the modem with an empty one. -/
def takeEvents (m : ModemRecorder) : List ModemEvent × ModemRecorder :=
  (m.events, { m with events := [] })

instance : ModemLink ModemRecorder where
  acquire m := if m.refusesOpen then (.error .unavailable, m) else (.ok (), m.record .opened)
  connect m :=
    if m.refusesConnect then (.error .notConnected, m)
    else (.ok (), { m with connected := true }.record .connected)
  isConnected m := m.connected
  request r m :=
    if m.refusesRequests then (.error (.requestFailed r.name), m)
    else (.ok (), m.record (.request r))
  close m := { m with connected := false }.record .closed

end ModemRecorder

/-- A modem that follows a script. -/
structure FlakyModem where
  /-- Whether the coming attempts to connect succeed; all do when it is used up. -/
  connects : List Bool := []
  /-- Whether the coming requests succeed; all do when it is used up. -/
  requests : List Bool := []
  /-- Whether every request drops the connection. -/
  dropsAfter : Bool := false
  connected : Bool := false
  /-- What happened since the record was taken, oldest first. -/
  events : List ModemEvent := []
  deriving DecidableEq, Repr

namespace FlakyModem

/-- Adds an entry to the record. -/
def record (m : FlakyModem) (e : ModemEvent) : FlakyModem := { m with events := m.events ++ [e] }

/-- The record, and the modem with an empty one. -/
def takeEvents (m : FlakyModem) : List ModemEvent × FlakyModem :=
  (m.events, { m with events := [] })

instance : ModemLink FlakyModem where
  acquire m := (.ok (), m)
  connect m :=
    let success := m.connects.headD true
    let m' := { m with connects := m.connects.tail, connected := success }.record .attempted
    (if success then .ok () else .error .notConnected, m')
  isConnected m := m.connected
  request r m :=
    let success := m.requests.headD true
    let m' := { m with requests := m.requests.tail, connected := m.connected && !m.dropsAfter }
    if success then (.ok (), m'.record (.request r)) else (.error (.requestFailed r.name), m')
  close m := m

end FlakyModem

end HandsetAudio
