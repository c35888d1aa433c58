/-!
# Sets of audio endpoints

Outputs and inputs share one 32-bit mask: outputs take the low sixteen bits,
inputs the eight bits above them and the top bit. A `DeviceSet` is such a mask,
used with the set operations `∪`, `∩` and `\`; `outputs` and `inputs` are its two
halves, `withOutputs` and `withInputs` replace one half and keep every other bit.
Bits of neither half are carried along untouched.
-/

namespace HandsetAudio

/-- A set of audio endpoints, outputs and inputs in one mask. -/
structure DeviceSet where
  /-- One bit for each endpoint. -/
  bits : BitVec 32
  deriving DecidableEq, Repr, Inhabited

namespace DeviceSet

instance : EmptyCollection DeviceSet := ⟨⟨0⟩⟩
instance : Union DeviceSet := ⟨fun a b => ⟨a.bits ||| b.bits⟩⟩
instance : Inter DeviceSet := ⟨fun a b => ⟨a.bits &&& b.bits⟩⟩
instance : SDiff DeviceSet := ⟨fun a b => ⟨a.bits &&& ~~~b.bits⟩⟩

/-- The set with the mask `n`, of which only the low 32 bits count. -/
def ofNat (n : Nat) : DeviceSet := ⟨BitVec.ofNat 32 n⟩

/-- The set with the mask `z` modulo `2 ^ 32`, so that a sign-extended mask and
its unsigned spelling name the same set. -/
def ofInt (z : Int) : DeviceSet := ⟨BitVec.ofInt 32 z⟩

/-- The mask as a number. -/
def toNat (s : DeviceSet) : Nat := s.bits.toNat

/-- Whether the set holds no endpoint. -/
def isEmpty (s : DeviceSet) : Bool := s == ∅

/-- Whether the two sets share an endpoint. -/
def intersects (a b : DeviceSet) : Bool := !(a ∩ b).isEmpty

/-! ## Outputs -/

/-- Handset earpiece receiver. -/
def earpiece : DeviceSet := ⟨0x1⟩
/-- Loudspeaker. -/
def speaker : DeviceSet := ⟨0x2⟩
/-- Wired headset with a microphone. -/
def wiredHeadset : DeviceSet := ⟨0x4⟩
/-- Wired headphone without a microphone. -/
def wiredHeadphone : DeviceSet := ⟨0x8⟩
/-- Bluetooth SCO link. -/
def bluetoothSco : DeviceSet := ⟨0x10⟩
/-- Bluetooth SCO headset. -/
def bluetoothScoHeadset : DeviceSet := ⟨0x20⟩
/-- Bluetooth SCO car kit. -/
def bluetoothScoCarkit : DeviceSet := ⟨0x40⟩
/-- Digital output (HDMI or TV). -/
def auxDigital : DeviceSet := ⟨0x400⟩
/-- Headset of an analog dock. -/
def analogDock : DeviceSet := ⟨0x800⟩
/-- Headset of a digital dock. -/
def digitalDock : DeviceSet := ⟨0x1000⟩
/-- The framework's default output. -/
def defaultOutput : DeviceSet := ⟨0x8000⟩
/-- Every Bluetooth SCO output. -/
def allSco : DeviceSet := bluetoothSco ∪ bluetoothScoHeadset ∪ bluetoothScoCarkit
/-- Every output bit. -/
def allOutputs : DeviceSet := ⟨0xFFFF⟩

/-! ## Inputs -/

/-- Voice communication input. -/
def communication : DeviceSet := ⟨0x10000⟩
/-- Ambient input. -/
def ambient : DeviceSet := ⟨0x20000⟩
/-- Built-in microphone. -/
def builtinMic : DeviceSet := ⟨0x40000⟩
/-- Microphone of a Bluetooth SCO headset. -/
def bluetoothScoMic : DeviceSet := ⟨0x80000⟩
/-- Microphone of a wired headset. -/
def wiredHeadsetMic : DeviceSet := ⟨0x100000⟩
/-- Digital input. -/
def auxDigitalIn : DeviceSet := ⟨0x200000⟩
/-- Uplink and downlink of a voice call. -/
def voiceCall : DeviceSet := ⟨0x400000⟩
/-- Rear microphone. -/
def backMic : DeviceSet := ⟨0x800000⟩
/-- The framework's default input. -/
def defaultInput : DeviceSet := ⟨0x80000000⟩
/-- Every input bit. -/
def allInputs : DeviceSet :=
  communication ∪ ambient ∪ builtinMic ∪ bluetoothScoMic ∪ wiredHeadsetMic ∪ auxDigitalIn ∪
    voiceCall ∪ backMic ∪ defaultInput

/-- Endpoints that this hardware can route to. -/
def supported : DeviceSet :=
  earpiece ∪ speaker ∪ wiredHeadset ∪ wiredHeadphone ∪ auxDigital ∪ analogDock ∪ digitalDock ∪
    allSco ∪ defaultOutput ∪ communication ∪ ambient ∪ builtinMic ∪ wiredHeadsetMic ∪
    auxDigitalIn ∪ backMic ∪ bluetoothScoMic ∪ defaultInput

/-! ## The two halves -/

/-- The output half. -/
def outputs (s : DeviceSet) : DeviceSet := s ∩ allOutputs

/-- The input half. -/
def inputs (s : DeviceSet) : DeviceSet := s ∩ allInputs

/-- `s` with the output half of `o` in place of its own. -/
def withOutputs (s o : DeviceSet) : DeviceSet := (s \ allOutputs) ∪ o.outputs

/-- `s` with the input half of `i` in place of its own. -/
def withInputs (s i : DeviceSet) : DeviceSet := (s \ allInputs) ∪ i.inputs

theorem allOutputs_inter_allInputs : allOutputs ∩ allInputs = ∅ := by decide

end DeviceSet

end HandsetAudio
