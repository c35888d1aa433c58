import HandsetAudio.DeviceSet
import HandsetAudio.Mode

/-!
# When a mixer control applies

A `ControlRule` is one row of a control table: which control of the codec it drives,
to which value, and for which modes and devices. `desired` is its whole meaning: the
control is wanted while its path is in use, or kept by the mode, or once and for all,
in a mode and with a device that it lists, and with none that it excludes.
-/

namespace HandsetAudio

/-- The value that a control takes when it is on; off is always zero. -/
inductive ControlTarget where
  | level (value : Int)
  /-- A choice of an enumerated control, by name. -/
  | choice (name : String)
  deriving DecidableEq, Repr

/-- The facts that decide which controls are wanted. -/
structure Facts where
  mode : Mode
  devices : DeviceSet
  /-- Whether the path is in use. -/
  on : Bool
  deriving DecidableEq, Repr

/-- One row of a control table. -/
structure ControlRule where
  name : String
  /-- Its value when on. -/
  target : ControlTarget
  modes : ModeSet := ∅
  devices : DeviceSet := ∅
  /-- Devices that force it off while active. -/
  excluded : DeviceSet := ∅
  /-- Modes in which it stays on while its path is idle. -/
  keep : ModeSet := ∅
  /-- Whether it is set on its first use and then left alone. -/
  once : Bool := false
  deriving DecidableEq, Repr

namespace ControlRule

/-- Whether the control should be on. -/
def desired (rule : ControlRule) (facts : Facts) : Bool :=
  (facts.on || rule.keep.contains facts.mode || rule.once) &&
    rule.modes.contains facts.mode &&
    rule.devices.intersects facts.devices &&
    !rule.excluded.intersects facts.devices

end ControlRule

end HandsetAudio
