/-!
# Telephony modes

A `Mode` has a number on the wire and a name; a `ModeSet` is a mask with the bit
`2 ^ code` for each member, and may carry bits that stand for no mode.
-/

namespace HandsetAudio

/-- Telephony mode of the device. -/
inductive Mode where
  /-- No call, media playback. -/
  | normal
  /-- An incoming call is ringing. -/
  | ringtone
  /-- A circuit-switched voice call through the modem. -/
  | inCall
  /-- Communication inside an application. -/
  | inCommunication
  deriving DecidableEq, Repr, Inhabited

/-- A set of telephony modes. -/
structure ModeSet where
  /-- One bit for each mode. -/
  bits : BitVec 32
  deriving DecidableEq, Repr, Inhabited

namespace Mode

/-- Every mode, in numeric order. -/
def all : List Mode := [.normal, .ringtone, .inCall, .inCommunication]

/-- The number of the mode. -/
def code : Mode → Nat
  | .normal => 0
  | .ringtone => 1
  | .inCall => 2
  | .inCommunication => 3

/-- The mode with the number `z`, if there is one. -/
def ofCode? (z : Int) : Option Mode :=
  if z = 0 then some .normal
  else if z = 1 then some .ringtone
  else if z = 2 then some .inCall
  else if z = 3 then some .inCommunication
  else none

/-- The mode that follows in numeric order, wrapping around. -/
def next : Mode → Mode
  | .normal => .ringtone
  | .ringtone => .inCall
  | .inCall => .inCommunication
  | .inCommunication => .normal

/-- The name under which a mode is reported. -/
def name : Mode → String
  | .normal => "normal"
  | .ringtone => "ringtone"
  | .inCall => "in-call"
  | .inCommunication => "in-communication"

/-- The set holding only `m`. -/
def flag (m : Mode) : ModeSet := ⟨1 <<< m.code⟩

@[simp] theorem ofCode?_code (m : Mode) : ofCode? m.code = some m := by cases m <;> rfl

end Mode

namespace ModeSet

instance : EmptyCollection ModeSet := ⟨⟨0⟩⟩
instance : Union ModeSet := ⟨fun a b => ⟨a.bits ||| b.bits⟩⟩

/-- The set with the mask `n`, of which only the low 32 bits count. -/
def ofNat (n : Nat) : ModeSet := ⟨BitVec.ofNat 32 n⟩

/-- The mask as a number. -/
def toNat (s : ModeSet) : Nat := s.bits.toNat

/-- Whether `m` is a member. -/
def contains (s : ModeSet) (m : Mode) : Bool := s.bits &&& m.flag.bits != 0

/-- Every mode. -/
def all : ModeSet := ⟨0xF⟩

/-- Only the voice call through the modem. -/
def inCall : ModeSet := Mode.inCall.flag

/-- The modes in which someone is spoken to. -/
def voice : ModeSet := Mode.inCall.flag ∪ Mode.inCommunication.flag

end ModeSet

end HandsetAudio
