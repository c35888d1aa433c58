import HandsetAudio.Mixer.Control

/-!
# Control tables of the codec

The rows of a table follow the analog path: a later row sits further downstream. The
main and the second microphone share the last stage of the capture path; excluded
outputs pick the earpiece's microphone for a handset call and the second one for
speakerphone.
-/

namespace HandsetAudio

open DeviceSet

/-- A signal path of the codec. -/
inductive Path where
  /-- Playback, towards the speakers and the modem's downlink. -/
  | output
  /-- Capture, from the microphones and to the modem's uplink. -/
  | input
  deriving DecidableEq, Repr

/-- The name under which a path is reported. -/
def Path.name : Path → String
  | .output => "out"
  | .input => "in"

namespace ControlRule

/-- A row that sets a level in every mode of `modes`. -/
def level (name : String) (value : Int) (modes : ModeSet) (devices : DeviceSet) : ControlRule :=
  { name, target := .level value, modes, devices }

/-- A row that picks a choice in every mode. -/
def choice (name value : String) (devices : DeviceSet) : ControlRule :=
  { name, target := .choice value, modes := .all, devices }

/-- The row, kept on during a call. -/
def keptInCall (rule : ControlRule) : ControlRule := { rule with keep := .inCall }

/-- The row, set once. -/
def setOnce (rule : ControlRule) : ControlRule := { rule with once := true }

/-- The row, forced off by `devices`. -/
def excluding (rule : ControlRule) (devices : DeviceSet) : ControlRule :=
  { rule with excluded := devices }

/-- Both wired outputs on the headphone amplifier. -/
def headphones : DeviceSet := wiredHeadset ∪ wiredHeadphone

/-- Rows of the playback path. -/
def outputTable : List ControlRule := [
  -- first converter
  (level "DAC1 Switch" 1 .all allOutputs).keptInCall,
  level "DAC1R Mixer AIF1.1 Switch" 1 .all allOutputs,
  level "DAC1L Mixer AIF1.1 Switch" 1 .all allOutputs,
  -- modem downlink
  (level "AIF2DAC Volume" 90 .inCall allOutputs).setOnce,
  (level "DAC1R Mixer AIF2 Switch" 1 .inCall allOutputs).keptInCall,
  (level "DAC1L Mixer AIF2 Switch" 1 .inCall allOutputs).keptInCall,
  -- output mixer
  (level "Right Output Mixer DAC Switch" 1 .all earpiece).keptInCall,
  (level "Left Output Mixer DAC Switch" 1 .all earpiece).keptInCall,
  -- sidetone
  (level "DAC1 Right Sidetone Volume" 4 .inCall earpiece).setOnce,
  (level "DAC1 Left Sidetone Volume" 4 .inCall earpiece).setOnce,
  (level "DAC1R Mixer Right Sidetone Switch" 1 .inCall earpiece).keptInCall,
  (level "DAC1L Mixer Left Sidetone Switch" 1 .inCall earpiece).keptInCall,
  -- headphone
  (choice "Right Headphone Mux" "DAC" headphones).setOnce,
  (choice "Left Headphone Mux" "DAC" headphones).setOnce,
  (level "Headphone Volume" 43 .all headphones).setOnce,
  (level "Headphone Switch" 1 .all headphones).keptInCall,
  -- speaker
  (level "SPKR DAC1 Switch" 1 .all speaker).keptInCall,
  (level "SPKL DAC1 Switch" 1 .all speaker).keptInCall,
  (level "Speaker Mixer Volume" 3 .all speaker).setOnce,
  (level "Speaker Boost Volume" 6 .all speaker).setOnce,
  (level "Speaker Volume" 63 .all speaker).setOnce,
  (level "Speaker Switch" 1 .all speaker).keptInCall,
  -- earpiece
  (level "Earpiece Mixer Right Output Switch" 1 .all earpiece).keptInCall,
  (level "Earpiece Mixer Left Output Switch" 1 .all earpiece).keptInCall,
  (level "Earpiece Switch" 1 .all earpiece).keptInCall]

/-- Rows of the capture path. -/
def inputTable : List ControlRule := [
  -- main microphone
  (level "IN1L Volume" 31 .voice builtinMic).setOnce,
  (level "IN1L ZC Switch" 1 .voice builtinMic).setOnce,
  ((level "IN1L Switch" 1 .voice builtinMic).excluding speaker).keptInCall,
  ((level "IN1L PGA IN1LP Switch" 1 .voice builtinMic).excluding speaker).keptInCall,
  ((level "IN1L PGA IN1LN Switch" 1 .voice builtinMic).excluding speaker).keptInCall,
  (level "MIXINL IN1L Volume" 1 .voice builtinMic).setOnce,
  ((level "MIXINL IN1L Switch" 1 .voice builtinMic).excluding speaker).keptInCall,
  -- second microphone
  (level "IN2L Volume" 31 .all builtinMic).setOnce,
  (level "IN2L ZC Switch" 1 .all builtinMic).setOnce,
  ((level "IN2L Switch" 1 .all builtinMic).excluding earpiece).keptInCall,
  ((level "IN2L PGA IN2LP Switch" 1 .all builtinMic).excluding earpiece).keptInCall,
  ((level "IN2L PGA IN2LN Switch" 1 .all builtinMic).excluding earpiece).keptInCall,
  (level "MIXINL IN2L Volume" 1 .all builtinMic).setOnce,
  ((level "MIXINL IN2L Switch" 1 .all builtinMic).excluding earpiece).keptInCall,
  -- capture converter
  level "AIF1ADC1R Mixer ADC/DMIC Switch" 1 .all allInputs,
  level "AIF1ADC1L Mixer ADC/DMIC Switch" 1 .all allInputs,
  -- modem uplink
  (level "AIF2DAC2R Mixer AIF1.1 Switch" 1 .inCall allInputs).keptInCall,
  (level "AIF2DAC2L Mixer AIF1.1 Switch" 1 .inCall allInputs).keptInCall,
  (level "DAC2 Switch" 1 .inCall allInputs).keptInCall]

/-- Choices of the headphone multiplexers. -/
def headphoneChoices : List String := ["Mixer", "DAC"]

end ControlRule

/-- The table of a path. -/
def Path.table : Path → List ControlRule
  | .output => ControlRule.outputTable
  | .input => ControlRule.inputTable

end HandsetAudio
