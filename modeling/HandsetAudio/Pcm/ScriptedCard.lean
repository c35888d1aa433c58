import HandsetAudio.Pcm.Basic

/-!
# The scripted sound card

A card that moves no audio: it records every call, refuses the calls that its script
refuses, and answers questions for free frames from a list. What it refuses may depend
on everything recorded before.
-/

namespace HandsetAudio

/-- What is asked of a substream. -/
inductive PcmVerb where
  | acquire
  | start
  | stop
  | write
  | read
  | close
  deriving DecidableEq, Repr

/-- A call on a lane. -/
structure PcmCall where
  verb : PcmVerb
  lane : Lane
  deriving DecidableEq, Repr

/-- The word for a verb. -/
def PcmVerb.name : PcmVerb → String
  | .acquire => "open"
  | .start => "start"
  | .stop => "stop"
  | .write => "write"
  | .read => "read"
  | .close => "close"

/-- The call as a line. -/
def PcmCall.line (c : PcmCall) : String := c.verb.name ++ " " ++ c.lane.name

/-- One entry of the script's record. -/
inductive PcmRecord where
  /-- The parameters of an open. -/
  | parameters (card : Nat) (flags : PcmFlags) (rate channels : Nat)
  | call (c : PcmCall)
  /-- An answer to the question for free frames. -/
  | avail (frames : Option Nat)
  deriving DecidableEq, Repr

/-- The entry as a line. -/
def PcmRecord.line : PcmRecord → String
  | .parameters card flags rate channels =>
    "card " ++ toString card ++ " flags " ++ toString flags.bits.toNat ++ " rate " ++
      toString rate ++ " channels " ++ toString channels
  | .call c => c.line
  | .avail none => "avail unknown"
  | .avail (some n) => "avail " ++ toString n

/-- A sound card that follows a script. -/
structure ScriptedCard where
  /-- Whether a call fails, given what was recorded before it. -/
  refuses : List PcmRecord → PcmCall → Bool
  /-- Coming answers to the question for free frames. -/
  answers : List (Option Nat) := []
  /-- Frames of every buffer, and the answer when the list is used up. -/
  buffer : Nat := 0
  /-- The lane of every substream opened so far, by number. -/
  lanes : List Lane := []
  /-- What was recorded before the record was last taken. -/
  past : List PcmRecord := []
  /-- What happened since the record was taken, oldest first. -/
  records : List PcmRecord := []

namespace ScriptedCard

/-- Adds an entry to the record. -/
def record (c : ScriptedCard) (r : PcmRecord) : ScriptedCard :=
  { c with records := c.records ++ [r] }

/-- The record, and the card with an empty one. -/
def takeRecords (c : ScriptedCard) : List PcmRecord × ScriptedCard :=
  (c.records, { c with past := c.past ++ c.records, records := [] })

/-- Records a call and tells whether it fails. -/
def call (c : ScriptedCard) (call : PcmCall) : Except PcmError Unit × ScriptedCard :=
  let verdict :=
    if c.refuses (c.past ++ c.records) call then .error (.transfer ("scripted " ++ call.line))
    else .ok ()
  (verdict, c.record (.call call))

/-- The lane of a substream; every substream has one. -/
def laneOf (c : ScriptedCard) (id : SubstreamId) : Lane := c.lanes[id]?.getD .hifiPlayback

/-- Opens a substream. -/
def acquire (card : Nat) (lane : Lane) (flags : PcmFlags) (config : PcmConfig)
    (c : ScriptedCard) : Except PcmError SubstreamId × ScriptedCard :=
  match (c.record (.parameters card flags config.rate config.channels)).call ⟨.acquire, lane⟩ with
  | (.error e, c) => (.error e, c)
  | (.ok _, c) => (.ok c.lanes.length, { c with lanes := c.lanes ++ [lane] })

/-- The next answer to the question for free frames. -/
def avail (c : ScriptedCard) : Option Nat × ScriptedCard :=
  let answer := c.answers.headD (some c.buffer)
  (answer, { c with answers := c.answers.tail }.record (.avail answer))

instance : PcmDriver ScriptedCard where
  acquire := acquire
  start id c := c.call ⟨.start, c.laneOf id⟩
  stop id c := c.call ⟨.stop, c.laneOf id⟩
  write id _ c := c.call ⟨.write, c.laneOf id⟩
  read id length c :=
    let (verdict, c) := c.call ⟨.read, c.laneOf id⟩
    (verdict.map fun _ => List.replicate length 1, c)
  avail _ c := c.avail
  bufferSize _ c := c.buffer
  patience _ c := c.answers.length
  close id c := (c.call ⟨.close, c.laneOf id⟩).2

end ScriptedCard

end HandsetAudio
