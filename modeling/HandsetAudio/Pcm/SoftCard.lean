import HandsetAudio.Pcm.Basic
import HandsetAudio.Pcm.Ring

/-!
# The software sound card

Every substream has a ring. Nothing drains a playback ring: once it is full the oldest
frames make room for new ones. A capture ring is fed by whoever holds it; frames that
nobody fed read as silence. The card records what its substreams do, and can be told
to refuse opens of a lane or all transfers; the host may refuse to map memory.

A closed substream keeps its place in `substreams`, so that a substream's number is
its index. For whoever wants to feed or drain a lane the card keeps a ring of every lane
at hand, and what is open on a lane it counts by itself: it knows a lane, not who has a
substream of it.

Some calls stop the program: `acquire?`, `write?` and `read?` have no answer then.
-/

namespace HandsetAudio

/-- What a substream did. -/
inductive PcmAction where
  | opened
  | started
  | stopped
  | closed
  deriving DecidableEq, Repr

/-- One entry of the card's record. -/
structure PcmEvent where
  action : PcmAction
  lane : Lane
  deriving DecidableEq, Repr

/-- The word for an action. -/
def PcmAction.name : PcmAction → String
  | .opened => "opened"
  | .started => "started"
  | .stopped => "stopped"
  | .closed => "closed"

/-- The event as a line. -/
def PcmEvent.line (e : PcmEvent) : String := e.action.name ++ " " ++ e.lane.name

/-- A substream of the card, on the lane and with the format that it was opened with. -/
structure Substream where
  lane : Lane
  config : PcmConfig
  ring : Ring
  /-- Whether its transfer is started. -/
  running : Bool := false
  /-- Whether it is not closed yet. -/
  live : Bool := true
  deriving DecidableEq, Repr

namespace Substream

/-- Of more samples than fit the newest, and the ring when the oldest frames made room for
them. -/
def makeRoom (s : Substream) (samples : List Sample) : List Sample × Ring :=
  let frames := samples.length / s.ring.channels
  let newest := samples.drop ((frames - s.ring.capacity) * s.ring.channels)
  let needed := newest.length / s.ring.channels
  (newest, (s.ring.discard (needed - s.ring.availableWrite)).2)

/-- Queues samples where room was made for them. -/
def enqueue (s : Substream) (samples : List Sample) : Substream :=
  let (newest, ring) := s.makeRoom samples
  { s with ring := (ring.push newest).2 }

/-- Takes `n` samples; what is not queued is silence. -/
def dequeue (s : Substream) (n : Nat) : List Sample × Substream :=
  let (_, samples, ring) := s.ring.pop (List.replicate n 0)
  (samples, { s with ring })

/-- Frames that can be transferred without blocking. -/
def avail (s : Substream) : Nat :=
  match s.lane.direction with
  | .playback => s.ring.availableWrite
  | .capture => s.ring.availableRead

end Substream

/-- A sound card in software. -/
structure SoftCard where
  /-- Every substream opened so far, by number. -/
  substreams : List Substream := []
  /-- Whose ring is kept at hand for a lane: the substream with this turn there. -/
  rings : List (Lane × Nat) := []
  /-- A lane as often as there are substreams open on it. -/
  openLanes : List Lane := []
  /-- Lanes whose opens fail. -/
  refusedLanes : List Lane := []
  /-- Bytes that the host maps in one piece. -/
  mappable : Nat := 1 <<< 47
  /-- Whether every transfer fails. -/
  refusesTransfers : Bool := false
  /-- What happened since the record was taken, oldest first. -/
  events : List PcmEvent := []
  deriving DecidableEq, Repr

namespace SoftCard

/-- Adds an entry to the record. -/
def record (c : SoftCard) (action : PcmAction) (lane : Lane) : SoftCard :=
  { c with events := c.events ++ [⟨action, lane⟩] }

/-- Replaces a substream. -/
def put (c : SoftCard) (id : SubstreamId) (s : Substream) : SoftCard :=
  { c with substreams := c.substreams.set id s }

/-- Makes opens of `lane` fail. -/
def refuseLane (c : SoftCard) (lane : Lane) : SoftCard :=
  { c with refusedLanes :=
      if lane ∈ c.refusedLanes then c.refusedLanes else lane :: c.refusedLanes }

/-- Lets opens of `lane` succeed again. -/
def allowLane (c : SoftCard) (lane : Lane) : SoftCard :=
  { c with refusedLanes := c.refusedLanes.filter (· ≠ lane) }

/-- Makes every transfer fail, or lets them succeed again. -/
def refuseTransfers (c : SoftCard) (on : Bool) : SoftCard := { c with refusesTransfers := on }

/-- The record, and the card with an empty one. -/
def takeEvents (c : SoftCard) : List PcmEvent × SoftCard := (c.events, { c with events := [] })

/-- Lets the host map `bytes` in one piece. -/
def limitMappings (c : SoftCard) (bytes : Nat) : SoftCard := { c with mappable := bytes }

/-! ## The rings at hand -/

/-- The substreams of `lane`, in the order of their turns. -/
def onLane (c : SoftCard) (lane : Lane) : List SubstreamId :=
  (List.range c.substreams.length).filter fun i => (c.substreams[i]?).any (·.lane = lane)

/-- The turn that the next substream of `lane` has. -/
def nextTurn (c : SoftCard) (lane : Lane) : Nat := c.substreams.countP (·.lane = lane)

/-- The substream whose ring is at hand for `lane`. -/
def atHand? (c : SoftCard) (lane : Lane) : Option SubstreamId :=
  (c.rings.lookup lane).bind ((c.onLane lane)[·]?)

/-- The ring at hand for `lane`. -/
def ring? (c : SoftCard) (lane : Lane) : Option Ring :=
  ((c.atHand? lane).bind (c.substreams[·]?)).map (·.ring)

/-- Takes the ring of the substream with the turn `n` on `lane` for the lane. -/
def showRing (c : SoftCard) (lane : Lane) (n : Nat) : SoftCard :=
  { c with rings := (lane, n) :: c.rings.filter (·.1 ≠ lane) }

/-- The card after something was done to the ring at hand for `lane`, and what came out. -/
def atRing {α : Type} (c : SoftCard) (lane : Lane) (f : Ring → α × Ring) : Option α × SoftCard :=
  match c.atHand? lane with
  | none => (none, c)
  | some id =>
    match c.substreams[id]? with
    | none => (none, c)
    | some s =>
      let (a, ring) := f s.ring
      (some a, c.put id { s with ring })

/-- Feeds the ring of `lane`, and tells how many frames fitted. -/
def feed (c : SoftCard) (lane : Lane) (samples : List Sample) : Option Nat × SoftCard :=
  c.atRing lane fun r => r.push samples

/-- Pops the ring of `lane` to the front of `out`. -/
def drain (c : SoftCard) (lane : Lane) (out : List Sample) :
    Option (Nat × List Sample) × SoftCard :=
  c.atRing lane fun r =>
    let (n, out, r) := r.pop out
    ((n, out), r)

/-! ## What is open -/

/-- How many substreams are open on `lane`. -/
def openCount (c : SoftCard) (lane : Lane) : Nat :=
  c.substreams.countP fun s => s.live && s.lane = lane

/-- Counts one more substream open on `lane`. -/
def countIn (c : SoftCard) (lane : Lane) : SoftCard := { c with openLanes := lane :: c.openLanes }

/-- Counts one substream less on `lane`, if there is one. -/
def countOut (c : SoftCard) (lane : Lane) : SoftCard :=
  { c with openLanes := c.openLanes.erase lane }

/-- Whether a substream is open on `lane`, by the card's count. -/
def isOpen (c : SoftCard) (lane : Lane) : Bool := 0 < c.openLanes.count lane

/-! ## The driver -/

/-- The card with a new substream, whose ring is at hand for its lane from then on. -/
def enlist (c : SoftCard) (lane : Lane) (config : PcmConfig) (ring : Ring) : SoftCard :=
  let c' := { c with substreams := c.substreams ++ [({ lane, config, ring } : Substream)] }
  (((c'.showRing lane (c.nextTurn lane)).countIn lane).record .opened lane)

/-- Opens a substream. The ring of a mapped substream is shared. -/
def acquire? (card : Nat) (lane : Lane) (flags : PcmFlags) (config : PcmConfig) (c : SoftCard) :
    Option (Except PcmError SubstreamId × SoftCard) :=
  if lane ∈ c.refusedLanes then some (.error (.openFailed card lane "device busy"), c)
  else if flags.contains .mapped then
    match Ring.map? c.mappable config.bufferFrames config.channels with
    | none => some (.error .mapping, c)
    | some ring => some (.ok c.substreams.length, c.enlist lane config ring)
  else
    (Ring.allocate? config.bufferFrames config.channels).map fun ring =>
      (.ok c.substreams.length, c.enlist lane config ring)

/-- The error for a number that no substream has. -/
def unknownSubstream : PcmError := .transfer "no such substream"

/-- Starts the transfer of a substream. -/
def start (id : SubstreamId) (c : SoftCard) : Except PcmError Unit × SoftCard :=
  match c.substreams[id]? with
  | none => (.error unknownSubstream, c)
  | some s => (.ok (), (c.put id { s with running := true }).record .started s.lane)

/-- Stops the transfer of a substream. -/
def stop (id : SubstreamId) (c : SoftCard) : Except PcmError Unit × SoftCard :=
  match c.substreams[id]? with
  | none => (.error unknownSubstream, c)
  | some s => (.ok (), (c.put id { s with running := false }).record .stopped s.lane)

/-- Why a transfer of `length` bytes cannot take place, if it cannot. -/
def obstacle? (c : SoftCard) (s : Substream) (length : Nat) : Option PcmError :=
  if length % s.config.frameBytes ≠ 0 then some (.misaligned length s.config.frameBytes)
  else if c.refusesTransfers then some (.transfer "injected failure")
  else none

/-- The card before a transfer of `s`: a stopped substream starts. -/
def ensureRunning (c : SoftCard) (s : Substream) : SoftCard :=
  if s.running then c else c.record .started s.lane

/-- A transfer of `length` bytes, which `move` does; a stopped substream starts. To tell
whether those are whole frames divides by the bytes of a frame, and where these are none
stops the program. -/
def transfer? {α : Type} (id : SubstreamId) (length : Nat) (move : Substream → α × Substream)
    (c : SoftCard) : Option (Except PcmError α × SoftCard) :=
  match c.substreams[id]? with
  | none => some (.error unknownSubstream, c)
  | some s =>
    if s.config.frameBytes = 0 then none
    else
      match c.obstacle? s length with
      | some e => some (.error e, c)
      | none =>
        let (answer, s') := move { s with running := true }
        some (.ok answer, (c.ensureRunning s).put id s')

/-- Queues bytes for playback. -/
def write? (id : SubstreamId) (bytes : List UInt8) :
    SoftCard → Option (Except PcmError Unit × SoftCard) :=
  transfer? id bytes.length fun s => ((), s.enqueue (Sample.ofBytes bytes))

/-- Takes captured bytes. -/
def read? (id : SubstreamId) (length : Nat) :
    SoftCard → Option (Except PcmError (List UInt8) × SoftCard) :=
  transfer? id length fun s =>
    let (samples, s) := s.dequeue (length / 2)
    (Sample.toBytes samples, s)

/-- Closes a substream. -/
def close (id : SubstreamId) (c : SoftCard) : SoftCard :=
  match c.substreams[id]? with
  | none => c
  | some s => ((c.put id { s with live := false }).countOut s.lane).record .closed s.lane

/-- Frames that a substream can transfer without blocking. -/
def avail? (id : SubstreamId) (c : SoftCard) : Option Nat := (c.substreams[id]?).map (·.avail)

/-- Stands for the answer of a call that stopped the program: a driver cannot but answer. -/
def stopped : PcmError := .transfer "the program stopped"

/-- An answer, or that the program stopped and left the card as it was. -/
def orStopped {α : Type} (c : SoftCard) (answer? : Option (Except PcmError α × SoftCard)) :
    Except PcmError α × SoftCard := answer?.getD (.error stopped, c)

def acquire (card : Nat) (lane : Lane) (flags : PcmFlags) (config : PcmConfig) (c : SoftCard) :
    Except PcmError SubstreamId × SoftCard := c.orStopped (c.acquire? card lane flags config)

def write (id : SubstreamId) (bytes : List UInt8) (c : SoftCard) :
    Except PcmError Unit × SoftCard := c.orStopped (c.write? id bytes)

def read (id : SubstreamId) (length : Nat) (c : SoftCard) :
    Except PcmError (List UInt8) × SoftCard := c.orStopped (c.read? id length)

instance : PcmDriver SoftCard where
  acquire := acquire
  start := start
  stop := stop
  write := write
  read := read
  avail id c := (c.avail? id, c)
  bufferSize id c := ((c.substreams[id]?).map (·.config.bufferFrames)).getD 0
  patience _ _ := 0
  close := close

/-! ## All that a call can do -/

/-- The card opens a substream that is asked for like this: its lane is not refused, and
there is memory for its ring. -/
def Grants (c : SoftCard) (lane : Lane) (flags : PcmFlags) (config : PcmConfig) : Prop :=
  lane ∉ c.refusedLanes ∧
    if flags.contains .mapped then
      Ring.bytesFor config.bufferFrames (max config.channels 1) true ≤ c.mappable
    else Ring.bytesFor config.bufferFrames (max config.channels 1) false < 1 <<< 63

/-- The error of an open that is not granted. -/
def refusal (c : SoftCard) (card : Nat) (lane : Lane) (flags : PcmFlags) : PcmError :=
  if lane ∈ c.refusedLanes then .openFailed card lane "device busy"
  else if flags.contains .mapped then .mapping
  else stopped

theorem acquire_cases (card : Nat) (lane : Lane) (flags : PcmFlags) (config : PcmConfig)
    (c : SoftCard) :
    (¬c.Grants lane flags config ∧
      PcmDriver.acquire card lane flags config c = (.error (c.refusal card lane flags), c)) ∨
    (c.Grants lane flags config ∧ PcmDriver.acquire card lane flags config c =
      (.ok c.substreams.length, c.enlist lane config
        (.empty config.bufferFrames config.channels (flags.contains .mapped)))) := by
  simp only [PcmDriver.acquire, acquire, acquire?, Ring.map?, Ring.allocate?, Grants, refusal]
  by_cases hrefused : lane ∈ c.refusedLanes
  · exact .inl ⟨fun h => h.1 hrefused, by rw [if_pos hrefused, if_pos hrefused]; rfl⟩
  rw [if_neg hrefused, if_neg hrefused, and_iff_right hrefused]
  cases flags.contains .mapped with
  | true =>
    simp only [if_true]
    by_cases hroom : Ring.bytesFor config.bufferFrames (max config.channels 1) true ≤ c.mappable
    · exact .inr ⟨hroom, by rw [if_pos hroom]; rfl⟩
    · exact .inl ⟨hroom, by rw [if_neg hroom]; rfl⟩
  | false =>
    simp only [Bool.false_eq_true, if_false]
    by_cases hroom : Ring.bytesFor config.bufferFrames (max config.channels 1) false < 1 <<< 63
    · exact .inr ⟨hroom, by rw [if_pos hroom]; rfl⟩
    · exact .inl ⟨hroom, by rw [if_neg hroom]; rfl⟩

theorem acquire_granted (card : Nat) {lane : Lane} {flags : PcmFlags} {config : PcmConfig}
    {c : SoftCard} (h : c.Grants lane flags config) :
    PcmDriver.acquire card lane flags config c =
      (.ok c.substreams.length, c.enlist lane config
        (.empty config.bufferFrames config.channels (flags.contains .mapped))) := by
  rcases acquire_cases card lane flags config c with ⟨hnot, -⟩ | ⟨-, hacquire⟩
  · exact absurd h hnot
  · exact hacquire

theorem transfer_cases {α : Type} (id : SubstreamId) (length : Nat)
    (move : Substream → α × Substream) (c : SoftCard) :
    (∃ e, c.orStopped (c.transfer? id length move) = (.error e, c)) ∨
      ∃ s, c.substreams[id]? = some s ∧ s.config.frameBytes ≠ 0 ∧ c.obstacle? s length = none ∧
        c.orStopped (c.transfer? id length move) =
          (.ok (move { s with running := true }).1,
            (c.ensureRunning s).put id (move { s with running := true }).2) := by
  unfold transfer?
  split
  next => exact .inl ⟨_, rfl⟩
  next s hs =>
    split
    next => exact .inl ⟨_, rfl⟩
    next hframe =>
      split
      next => exact .inl ⟨_, rfl⟩
      next hfree => exact .inr ⟨s, hs, hframe, hfree, rfl⟩

theorem write_cases (id : SubstreamId) (bytes : List UInt8) (c : SoftCard) :
    (∃ e, PcmDriver.write id bytes c = (.error e, c)) ∨
      ∃ s, c.substreams[id]? = some s ∧ s.config.frameBytes ≠ 0 ∧
        c.obstacle? s bytes.length = none ∧
        PcmDriver.write id bytes c = (.ok (), (c.ensureRunning s).put id
          ({ s with running := true }.enqueue (Sample.ofBytes bytes))) :=
  transfer_cases ..

theorem read_cases (id : SubstreamId) (length : Nat) (c : SoftCard) :
    (∃ e, PcmDriver.read id length c = (.error e, c)) ∨
      ∃ s, c.substreams[id]? = some s ∧ s.config.frameBytes ≠ 0 ∧
        c.obstacle? s length = none ∧
        PcmDriver.read id length c =
          (.ok (Sample.toBytes ({ s with running := true }.dequeue (length / 2)).1),
            (c.ensureRunning s).put id ({ s with running := true }.dequeue (length / 2)).2) :=
  transfer_cases ..

end SoftCard

end HandsetAudio
