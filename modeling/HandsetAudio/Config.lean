import HandsetAudio.Text.Integer

/-!
# Configuration of a device

Two settings can be overridden by named variables; a value that is no unsigned number
of 32 bits is ignored.
-/

namespace HandsetAudio

/-- Settings of one device. -/
structure Config where
  /-- Sound card that carries the codec and the modem's voice interface. -/
  card : Nat := 0
  /-- Volume levels that the modem tells apart during a call. -/
  volumeSteps : UInt32 := 5
  /-- Shortest pause of the playback pacing, in microseconds. -/
  minPause : Nat := 5000
  deriving DecidableEq, Repr

namespace Config

/-- The variable that overrides `card`. -/
def cardVariable : String := "ARIES_AUDIO_CARD"

/-- The variable that overrides `volumeSteps`. -/
def volumeStepsVariable : String := "ARIES_AUDIO_CALL_VOLUME_STEPS"

/-- The defaults, overridden by what `lookup` knows of the two variables. -/
def ofLookup (lookup : String → Option String) : Config :=
  let base : Config := {}
  { base with
    card := ((lookup cardVariable).bind Text.word32?).getD base.card
    volumeSteps :=
      (((lookup volumeStepsVariable).bind Text.word32?).map UInt32.ofNat).getD base.volumeSteps }

end Config

end HandsetAudio
