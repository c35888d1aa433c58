import HandsetAudio.Pcm.Basic

/-!
# The voice loop of a call

During a call the codec exchanges narrowband frames with the modem over two
substreams, one in each direction. They are opened and started together: if any step
fails, whatever was opened is closed again.
-/

namespace HandsetAudio

/-- Whether call audio is up. -/
inductive CallState where
  /-- No call audio. -/
  | idle
  /-- A voice call runs through the modem. -/
  | inCall
  deriving DecidableEq, Repr, Inhabited

namespace CallState

/-- The state that a flag stands for. -/
def ofBool (inCall : Bool) : CallState := if inCall then .inCall else .idle

/-- The name under which a state is reported. -/
def name : CallState → String
  | .idle => "idle"
  | .inCall => "in-call"

end CallState

/-- The substreams of the current call. -/
structure VoiceLoop where
  /-- Towards the modem's downlink mixers. -/
  downlink : Option SubstreamId := none
  /-- From the modem's uplink mixers. -/
  uplink : Option SubstreamId := none
  deriving DecidableEq, Repr

namespace VoiceLoop

variable {σ : Type} [PcmDriver σ]

/-- Whether both substreams are open. -/
def isActive (v : VoiceLoop) : Bool := v.downlink.isSome && v.uplink.isSome

/-- Stops and closes a substream, if there is one; that it cannot be stopped does not
keep it open. -/
def release (id : Option SubstreamId) (s : σ) : σ :=
  match id with
  | none => s
  | some id => PcmDriver.close id (PcmDriver.stop id s).2

/-- Stops and closes both substreams, the downlink first. -/
def stop (v : VoiceLoop) (s : σ) : VoiceLoop × σ := ({}, release v.uplink (release v.downlink s))

/-- Opens and starts both substreams. -/
def acquire (card : Nat) (s : σ) : Except PcmError VoiceLoop × σ :=
  match PcmDriver.acquire card .downlink .none .voice s with
  | (.error e, s) => (.error e, s)
  | (.ok down, s) =>
    match PcmDriver.acquire card .uplink .none .voice s with
    | (.error e, s) => (.error e, PcmDriver.close down s)
    | (.ok up, s) =>
      match PcmDriver.start down s with
      | (.error e, s) => (.error e, PcmDriver.close down (PcmDriver.close up s))
      | (.ok _, s) =>
        match PcmDriver.start up s with
        | (.error e, s) => (.error e, PcmDriver.close down (PcmDriver.close up s))
        | (.ok _, s) => (.ok { downlink := some down, uplink := some up }, s)

/-- Replaces the substreams by freshly opened ones; after a failure there are none. -/
def start (v : VoiceLoop) (card : Nat) (s : σ) : Except PcmError Unit × VoiceLoop × σ :=
  match acquire card (v.stop s).2 with
  | (.error e, s) => (.error e, {}, s)
  | (.ok v, s) => (.ok (), v, s)

/-- Closes both substreams without stopping them. -/
def drop (v : VoiceLoop) (s : σ) : VoiceLoop × σ :=
  let close (id : Option SubstreamId) (s : σ) : σ :=
    match id with
    | none => s
    | some id => PcmDriver.close id s
  ({}, close v.uplink (close v.downlink s))

end VoiceLoop

end HandsetAudio
