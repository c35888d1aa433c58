import HandsetAudio.Mixer.Tables

/-!
# The mixer

A `Mixer` holds the codec's controls: named rows of value slots, addressed by their
place. A write is accepted if the control and the slot exist, the value lies between
zero and the control's maximum, and the control does not refuse writes; accepted writes
land in the journal, refused ones change nothing. Of several controls with one name,
looking the name up finds the first.
-/

namespace HandsetAudio

/-- What the values of a control mean. -/
inductive ControlKind where
  | switch
  | level
  /-- The place of a choice. -/
  | choice
  deriving DecidableEq, Repr

/-- A control of the mixer. -/
structure Control where
  name : String
  kind : ControlKind
  /-- Its value slots. -/
  values : List Int
  /-- The greatest value it accepts. -/
  max : Int
  /-- The names of its choices. -/
  choices : List String := []
  /-- Whether it refuses every write. -/
  refusesWrites : Bool := false
  deriving DecidableEq, Repr

/-- An accepted write. -/
structure MixerWrite where
  name : String
  slot : Nat
  value : Int
  deriving DecidableEq, Repr

/-- Why a mixer operation failed. -/
inductive MixerError where
  | openFailed (card : Nat)
  | unknownControl (id : Nat)
  | noSlot (name : String) (slot : Nat)
  /-- The control does not accept the value. -/
  | refused (name : String) (value : Int)
  deriving DecidableEq, Repr

def MixerError.message : MixerError → String
  | .openFailed card => "cannot open mixer on card " ++ toString card
  | .unknownControl id => "unknown mixer ctl id " ++ toString id
  | .noSlot name slot => "mixer ctl '" ++ name ++ "' has no value slot " ++ toString slot
  | .refused name value => "mixer ctl '" ++ name ++ "' rejected value " ++ toString value

/-- The place of a control on its mixer. -/
abbrev ControlId := Nat

/-- The controls of a codec, and every accepted write since the journal was taken. -/
structure Mixer where
  controls : List Control := []
  /-- The accepted writes, oldest first. -/
  journal : List MixerWrite := []
  deriving DecidableEq, Repr

namespace Mixer

/-- Adds a control whose slots are zero; no slot counts as one. -/
def add (m : Mixer) (name : String) (kind : ControlKind) (slots : Nat) (max : Int)
    (choices : List String) : Mixer :=
  { m with controls := m.controls ++
      [{ name, kind, values := List.replicate (Max.max slots 1) 0, max, choices }] }

/-- Adds a switch. -/
def addSwitch (m : Mixer) (name : String) (slots : Nat) : Mixer := m.add name .switch slots 1 []

/-- Adds a level between 0 and `max`. -/
def addLevel (m : Mixer) (name : String) (slots : Nat) (max : Int) : Mixer :=
  m.add name .level slots max []

/-- Adds a choice. -/
def addChoice (m : Mixer) (name : String) (choices : List String) : Mixer :=
  m.add name .choice 1 (choices.length - 1) choices

/-- The place of the first control called `name`. -/
def find? (m : Mixer) (name : String) : Option ControlId :=
  m.controls.findIdx? (·.name == name)

/-- Makes the first control called `name` refuse every write. -/
def refuseWrites (m : Mixer) (name : String) : Mixer :=
  match m.find? name with
  | none => m
  | some id => { m with controls := m.controls.modify id fun c => { c with refusesWrites := true } }

/-- The number of slots of a control. -/
def slots (m : Mixer) (id : ControlId) : Nat := ((m.controls[id]?).map (·.values.length)).getD 0

/-- The value in a slot of the first control called `name`. -/
def value? (m : Mixer) (name : String) (slot : Nat) : Option Int := do
  let id ← m.find? name
  let c ← m.controls[id]?
  c.values[slot]?

/-- Reads a slot. -/
def get (m : Mixer) (id : ControlId) (slot : Nat) : Except MixerError Int :=
  match m.controls[id]? with
  | none => .error (.unknownControl id)
  | some c =>
    match c.values[slot]? with
    | none => .error (.noSlot c.name slot)
    | some v => .ok v

/-- Writes a slot. -/
def set (m : Mixer) (id : ControlId) (slot : Nat) (value : Int) : Except MixerError Unit × Mixer :=
  match m.controls[id]? with
  | none => (.error (.unknownControl id), m)
  | some c =>
    if c.values.length ≤ slot then (.error (.noSlot c.name slot), m)
    else if c.refusesWrites ∨ value < 0 ∨ c.max < value then (.error (.refused c.name value), m)
    else
      (.ok (),
        { controls := m.controls.set id { c with values := c.values.set slot value }
          journal := m.journal ++ [⟨c.name, slot, value⟩] })

/-- Writes the slots from `slot` on, `count` of them; a refused write stops nothing. -/
def setFrom (m : Mixer) (id : ControlId) (value : Int) (slot : Nat) : (count : Nat) → Mixer
  | 0 => m
  | count + 1 => ((m.set id slot value).2).setFrom id value (slot + 1) count

/-- Writes every slot of a control; a refused write stops nothing. -/
def setAll (m : Mixer) (id : ControlId) (value : Int) : Mixer := m.setFrom id value 0 (m.slots id)

/-- The journal, and the mixer with an empty one. -/
def takeJournal (m : Mixer) : List MixerWrite × Mixer := (m.journal, { m with journal := [] })

/-- The slots of a control that a table names: the headphone and speaker amplifiers
have a left and a right one. -/
def tableSlots (name : String) : Nat :=
  if "Headphone ".toList.isPrefixOf name.toList ∨ "Speaker ".toList.isPrefixOf name.toList then 2
  else 1

/-- Adds the control of a row, unless one of that name is there. -/
def addRule (m : Mixer) (rule : ControlRule) : Mixer :=
  if (m.find? rule.name).isSome then m
  else
    match rule.target with
    | .choice _ => m.addChoice rule.name ControlRule.headphoneChoices
    | .level _ =>
      if " Switch".toList.isSuffixOf rule.name.toList then
        m.addSwitch rule.name (tableSlots rule.name)
      else m.addLevel rule.name (tableSlots rule.name) 127

/-- A mixer with every control that the two tables name. -/
def ofTables : Mixer := (Path.output.table ++ Path.input.table).foldl addRule {}

end Mixer

end HandsetAudio
