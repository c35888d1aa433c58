import HandsetAudio.Proofs.Device.Turns

/-!
# What no operation depends on

The codec, the modem, the report and the flag of a muted microphone are at the `Periphery` of a
device: operations work on them, and do not look at them to decide what else to do. Two devices
that differ there only (`Twins`) therefore stay alike in the rest, and their peripheries are
worked on in the same order. Main statements:

> `Twins.step`: an operation gives both the same answer, up to what a muted microphone lets
> through, and leaves them twins.
> `Twins.play`: so does every run.

How the peripheries relate to each other is open: any relation will do that survives passes,
requests and lines to report (`Periphery.Kept`).
-/

namespace HandsetAudio

/-- What no operation depends on. -/
structure Periphery (μ : Type) where
  codec : Codec
  modem : ModemClient μ
  micMute : Bool
  notices : List String

namespace Periphery

variable {μ μ' : Type}

/-- The periphery after a pass over a path. -/
def converge (s : Periphery μ) (p : Path) (facts : Facts) : Periphery μ :=
  { s with
    codec := s.codec.serve (p, .converge facts)
    notices := s.notices ++
      ((s.codec.rig p).serve (.converge facts)).1.skips.map Skip.message }

/-- The periphery after a request. -/
def send [ModemLink μ] (s : Periphery μ) (r : ModemRequest) : Periphery μ :=
  { s with modem := (s.modem.send r).2, notices := s.notices ++ (s.modem.send r).1 }

/-- The periphery after a line to report. -/
def note (s : Periphery μ) (line : String) : Periphery μ :=
  { s with notices := s.notices ++ [line] }

/-- The periphery after the modem changed by itself. -/
def relink (s : Periphery μ) (change : μ → μ) : Periphery μ :=
  { s with modem := { s.modem with link := change s.modem.link } }

/-- A relation between peripheries that survives what runs do to them. The flags for the
microphone and the changes of the modem need not be the same on both sides; `mutes` and
`changes` tell which ones go together. -/
structure Kept [ModemLink μ] [ModemLink μ'] (mutes : Bool → Bool → Prop)
    (changes : (μ → μ) → (μ' → μ') → Prop) (R : Periphery μ → Periphery μ' → Prop) : Prop where
  volumeSteps {s : Periphery μ} {s' : Periphery μ'} (h : R s s') :
    s'.modem.volumeSteps = s.modem.volumeSteps
  converge {s : Periphery μ} {s' : Periphery μ'} (h : R s s') (p : Path) (facts : Facts) :
    R (s.converge p facts) (s'.converge p facts)
  send {s : Periphery μ} {s' : Periphery μ'} (h : R s s') (r : ModemRequest) :
    R (s.send r) (s'.send r)
  note {s : Periphery μ} {s' : Periphery μ'} (h : R s s') (line : String) :
    R (s.note line) (s'.note line)
  mute {s : Periphery μ} {s' : Periphery μ'} (h : R s s') {on on' : Bool} (hon : mutes on on') :
    R { s with micMute := on } { s' with micMute := on' }
  relink {s : Periphery μ} {s' : Periphery μ'} (h : R s s') {change : μ → μ} {change' : μ' → μ'}
    (hchange : changes change change') : R (s.relink change) (s'.relink change')

end Periphery

/-- The facts with the microphone not muted. -/
def Routing.unmuted (r : Routing) : Routing := { r with micMute := false }

/-- What a microphone lets through of the bytes of a read. -/
def audible (muted : Bool) (length : Nat) (bytes : List UInt8) : List UInt8 :=
  if muted then List.replicate length 0 else bytes

namespace Operation

/-- The answer of an operation with the microphone muted or not, from what it would be
otherwise. -/
def heard (muted : Bool) : Operation → Reply → Reply
  | .micMute, _ => .flag muted
  | .read _ length, .captured bytes => .captured (audible muted length bytes)
  | _, reply => reply

/-- Whether an operation is about the microphone. -/
def listens : Operation → Bool
  | .setMicMute _ | .micMute | .read .. => true
  | _ => false

/-- Other answers are heard as they are. -/
theorem heard_eq {op : Operation} (h : op.listens = false) (muted : Bool) :
    op.heard muted = id := by
  cases op <;> first | rfl | cases h

/-- The same operation, up to flags for the microphone that go together. -/
inductive Matches (mutes : Bool → Bool → Prop) : Operation → Operation → Prop where
  | same (op : Operation) (hother : ∀ on, op ≠ .setMicMute on) : Matches mutes op op
  | mute {on on' : Bool} (h : mutes on on') : Matches mutes (.setMicMute on) (.setMicMute on')

/-- An operation goes together with itself. -/
theorem Matches.refl {mutes : Bool → Bool → Prop} (hmutes : ∀ on, mutes on on) (op : Operation) :
    op.Matches mutes op := by
  by_cases hmute : ∃ on, op = .setMicMute on
  · obtain ⟨on, rfl⟩ := hmute
    exact .mute (hmutes on)
  · exact .same op fun on hop => hmute ⟨on, hop⟩

end Operation

namespace Device

variable {σ μ μ' : Type}

/-- The periphery of a device. -/
def periphery (d : Device σ μ) : Periphery μ := ⟨d.codec, d.modem, d.routing.micMute, d.notices⟩

/-- Two devices that are alike but for their peripheries, which are related by `R`. -/
structure Twins (R : Periphery μ → Periphery μ' → Prop) (d : Device σ μ) (d' : Device σ μ') :
    Prop where
  config : d'.config = d.config
  routing : d'.routing.unmuted = d.routing.unmuted
  card : d'.card = d.card
  loop : d'.loop = d.loop
  outputs : d'.outputs = d.outputs
  inputs : d'.inputs = d.inputs
  lastOutput : d'.lastOutput = d.lastOutput
  lastInput : d'.lastInput = d.lastInput
  periphery : R d.periphery d'.periphery

/-- The same event on both sides, up to flags for the microphone and changes of the modem that go
together. -/
inductive Event.Matches (mutes : Bool → Bool → Prop) (changes : (μ → μ) → (μ' → μ') → Prop) :
    Event σ μ → Event σ μ' → Prop where
  | operation {op op' : Operation} (hop : op.Matches mutes op') :
    Matches mutes changes (.operation op) (.operation op')
  | card (change : σ → σ) : Matches mutes changes (.card change) (.card change)
  | modem {change : μ → μ} {change' : μ' → μ'} (hchange : changes change change') :
    Matches mutes changes (.modem change) (.modem change')

/-- An event goes together with itself. -/
theorem Event.Matches.refl {mutes : Bool → Bool → Prop} {changes : (μ → μ) → (μ → μ) → Prop}
    (hmutes : ∀ on, mutes on on) (hchanges : ∀ change, changes change change) (e : Event σ μ) :
    e.Matches mutes changes e := by
  cases e with
  | operation op => exact .operation (.refl hmutes op)
  | card change => exact .card change
  | modem change => exact .modem (hchanges change)

/-- An operation gave two devices the same answer and left them twins. -/
structure Agree (R : Periphery μ → Periphery μ' → Prop) {α : Type} (x : α × Device σ μ)
    (x' : α × Device σ μ') : Prop where
  answer : x'.1 = x.1
  twins : Twins R x.2 x'.2

namespace Twins

variable {R : Periphery μ → Periphery μ' → Prop} {d : Device σ μ} {d' : Device σ μ'}

/-! ## What twins have in common -/

section

variable (h : Twins R d d')

include h

theorem mode : d'.routing.mode = d.routing.mode :=
  (congrArg Routing.mode h.routing :)

theorem devices : d'.routing.devices = d.routing.devices := (congrArg Routing.devices h.routing :)

theorem nrec : d'.routing.nrec = d.routing.nrec := (congrArg Routing.nrec h.routing :)

theorem inCall : d'.routing.inCall = d.routing.inCall := (congrArg Routing.inCall h.routing :)

theorem voiceVolume : d'.routing.voiceVolume = d.routing.voiceVolume :=
  (congrArg Routing.voiceVolume h.routing :)

/-- The codec is brought in line with the same facts on both sides. -/
theorem facts (on : Bool) : d'.facts on = d.facts on := by
  unfold Device.facts
  rw [h.mode, h.devices]

/-- The modem is asked for the same path on both sides. -/
theorem callPath : d'.routing.callPath = d.routing.callPath := by
  unfold Routing.callPath
  rw [h.devices, h.nrec]

theorem soundCurve : d'.routing.soundCurve = d.routing.soundCurve := by
  unfold Routing.soundCurve
  rw [h.devices]

theorem outputSubstream? (i : StreamId) : d'.outputSubstream? i = d.outputSubstream? i := by
  unfold Device.outputSubstream?
  rw [h.outputs]

theorem capture? (i : StreamId) : d'.capture? i = d.capture? i := by
  unfold Device.capture?
  rw [h.inputs]

theorem heldOutput? (i : StreamId) : d'.heldOutput? i = d.heldOutput? i := by
  unfold Device.heldOutput?
  rw [h.outputs]

theorem heldInput? (i : StreamId) : d'.heldInput? i = d.heldInput? i := by
  unfold Device.heldInput?
  rw [h.inputs]

/-- The same stream of a direction is active on both sides. -/
theorem activeOutput? : d'.activeOutput? = d.activeOutput? := by
  unfold Device.activeOutput?
  rw [h.lastOutput, h.outputs]

theorem activeInput? : d'.activeInput? = d.activeInput? := by
  unfold Device.activeInput?
  rw [h.lastInput, h.inputs]

theorem outputStandby? : d'.outputStandby? = d.outputStandby? := by
  unfold Device.outputStandby?
  rw [h.activeOutput?, h.outputs]

theorem inputStandby? : d'.inputStandby? = d.inputStandby? := by
  unfold Device.inputStandby?
  rw [h.activeInput?, h.inputs]

/-- The playback path is in use on both sides or on none. -/
theorem outputOn : d'.outputOn = d.outputOn := by
  unfold Device.outputOn
  rw [h.outputStandby?]

/-- The capture path is in use on both sides or on none. -/
theorem inputOn : d'.inputOn = d.inputOn := by
  unfold Device.inputOn
  rw [h.inputStandby?]

/-- Where the microphone is muted on both sides or on none, the facts are the same. -/
theorem routing_eq (hmute : d'.routing.micMute = d.routing.micMute) : d'.routing = d.routing := by
  have hback : ∀ r : Routing, r = { r.unmuted with micMute := r.micMute } := fun _ => rfl
  rw [hback d'.routing, hback d.routing, h.routing, hmute]

/-- Both sides change the same of their facts, and not the flag for the microphone. -/
theorem withRouting (f : Routing → Routing) (hrest : ∀ r, (f r).unmuted = (f r.unmuted).unmuted)
    (hmute : ∀ r, (f r).micMute = r.micMute) :
    Twins R { d with routing := f d.routing } { d' with routing := f d'.routing } where
  config := h.config
  routing := by
    show (f d'.routing).unmuted = (f d.routing).unmuted
    rw [hrest, h.routing, ← hrest]
  card := h.card
  loop := h.loop
  outputs := h.outputs
  inputs := h.inputs
  lastOutput := h.lastOutput
  lastInput := h.lastInput
  periphery := by
    have hsame : ∀ {ν : Type} (e : Device σ ν),
        Device.periphery { e with routing := f e.routing } = e.periphery := by
      intro ν e
      unfold Device.periphery
      rw [hmute]
      rfl
    rw [hsame, hsame]
    exact h.periphery

omit h in
/-- The same choice on both sides. -/
theorem ite {e : Device σ μ} {e' : Device σ μ'} {p p' : Prop} [Decidable p] [Decidable p']
    (hp : p' ↔ p) (ht : Twins R d d') (he : Twins R e e') :
    Twins R (if p then d else e) (if p' then d' else e') := by
  by_cases h : p
  · rw [if_pos h, if_pos (hp.2 h)]
    exact ht
  · rw [if_neg h, if_neg (mt hp.1 h)]
    exact he

/-- The same card on both sides. -/
theorem withCard (card : σ) : Twins R { d with card } { d' with card } :=
  { h with card := rfl, periphery := h.periphery }

theorem withLoop (loop : VoiceLoop) (card : σ) :
    Twins R { d with loop, card } { d' with loop, card } :=
  { h with card := rfl, loop := rfl, periphery := h.periphery }

theorem setOutput (i : StreamId) (substream : Option SubstreamId) :
    Twins R (d.setOutput i substream) (d'.setOutput i substream) :=
  { h with
    outputs := by simp only [Device.setOutput, h.outputs]
    periphery := h.periphery }

/-- A capture stream gets the same substream, converter and samples on both sides. -/
theorem setInput (i : StreamId) (running : Option Capture) :
    Twins R (d.setInput i running) (d'.setInput i running) :=
  { h with
    inputs := by simp only [Device.setInput, h.inputs]
    periphery := h.periphery }

theorem forgetOutput (i : StreamId) : Twins R (d.forgetOutput i) (d'.forgetOutput i) := by
  unfold Device.forgetOutput
  rw [h.lastOutput]
  split
  next => exact { h with lastOutput := rfl, periphery := h.periphery }
  next => exact h

theorem forgetInput (i : StreamId) : Twins R (d.forgetInput i) (d'.forgetInput i) := by
  unfold Device.forgetInput
  rw [h.lastInput]
  split
  next => exact { h with lastInput := rfl, periphery := h.periphery }
  next => exact h

/-- Opening looks at the active stream, and at the number of those before it. -/
theorem openOutput : Agree R d.openOutput d'.openOutput := by
  unfold Device.openOutput
  rw [h.activeOutput?, h.outputs]
  split
  next => exact ⟨rfl, h⟩
  next =>
    exact ⟨rfl, { h with outputs := rfl, lastOutput := rfl, periphery := h.periphery }⟩

/-- Opening for capture looks at the format, too. -/
theorem openInput (format : StreamFormat) : Agree R (d.openInput format) (d'.openInput format) := by
  unfold Device.openInput
  rw [h.activeInput?, h.inputs]
  split
  next => exact ⟨rfl, h⟩
  next =>
    split
    next => exact ⟨rfl, h⟩
    next => exact ⟨rfl, { h with inputs := rfl, lastInput := rfl, periphery := h.periphery }⟩

/-- A stream that is dropped closes its substream on the card, and leaves the codec alone. -/
theorem dropOutput [PcmDriver σ] (i : StreamId) : Twins R (d.dropOutput i) (d'.dropOutput i) :=
  { h with
    card := by simp only [Device.dropOutput, h.outputSubstream?, h.card]
    outputs := by simp only [Device.dropOutput, h.outputs]
    periphery := h.periphery }

theorem dropInput [PcmDriver σ] (i : StreamId) : Twins R (d.dropInput i) (d'.dropInput i) :=
  { h with
    card := by simp only [Device.dropInput, h.capture?, h.card]
    inputs := by simp only [Device.dropInput, h.inputs]
    periphery := h.periphery }

theorem setInCall (inCall : Bool) : Twins R (d.setInCall inCall) (d'.setInCall inCall) :=
  h.withRouting (fun r => { r with inCall }) (fun _ => rfl) fun _ => rfl

theorem enterCallDevices : Twins R d.enterCallDevices d'.enterCallDevices :=
  h.withRouting (fun r => { r with devices := r.devices.callEntry }) (fun _ => rfl) fun _ => rfl

/-- The loop is parted and closed on the card only. -/
theorem stopLoop [PcmDriver σ] : Twins R d.stopLoop d'.stopLoop := by
  unfold Device.stopLoop
  rw [h.loop, h.card]
  exact h.withLoop _ _

end

/-! ## The periphery at work -/

section

variable [ModemLink μ] [ModemLink μ'] {mutes : Bool → Bool → Prop}
  {changes : (μ → μ) → (μ' → μ') → Prop} (hR : Periphery.Kept mutes changes R) (h : Twins R d d')

include hR h

/-- A pass works on the codec and the report, from facts that twins share. -/
theorem converge (p : Path) (on : Bool) : Twins R (d.converge p on) (d'.converge p on) := by
  have hsame : ∀ {ν : Type} (e : Device σ ν),
      (e.converge p on).periphery = e.periphery.converge p (e.facts on) := by
    intro ν e
    cases p <;> rfl
  have hpass := hR.converge h.periphery p (d.facts on)
  rw [← hsame, ← h.facts, ← hsame] at hpass
  cases p <;> exact { h with outputs := h.outputs, periphery := hpass }

theorem note (line : String) : Twins R (d.note line) (d'.note line) :=
  { h with periphery := hR.note h.periphery line }

/-- A request works on the modem and the report. -/
theorem send (r : ModemRequest) : Twins R (d.send r) (d'.send r) :=
  { h with periphery := hR.send h.periphery r }

theorem pushCallPath : Twins R d.pushCallPath d'.pushCallPath := by
  unfold Device.pushCallPath
  rw [h.callPath]
  exact h.send hR _

/-- The same volume is asked for, since both modems have as many steps. -/
theorem pushVoiceVolume : Twins R d.pushVoiceVolume d'.pushVoiceVolume := by
  have hsteps : d'.modem.volumeSteps = d.modem.volumeSteps := hR.volumeSteps h.periphery
  unfold Device.pushVoiceVolume ModemClient.volumeRequest
  rw [h.soundCurve, h.voiceVolume, hsteps]
  exact h.send hR _

/-- Both passes, then the request for a path. -/
theorem routeAll : Twins R d.routeAll d'.routeAll := by
  unfold Device.routeAll
  simp only
  rw [h.outputOn, h.inputOn]
  exact ((h.converge hR .output _).converge hR .input _).pushCallPath hR

/-- A rerouting is a pass over the playback path, and a request during a call. -/
theorem rerouteOutput (devices : DeviceSet) (on : Bool) :
    Twins R (d.rerouteOutput devices on) (d'.rerouteOutput devices on) := by
  have hrouted := h.withRouting
    (fun r => { r with devices := r.devices.withOutputs devices.outputs })
    (fun _ => rfl) fun _ => rfl
  have hpassed := hrouted.converge hR .output on
  unfold Device.rerouteOutput
  exact .ite (by rw [h.devices]) h
    (.ite (by rw [hpassed.inCall]) (hpassed.pushCallPath hR) hpassed)

/-- A rerouting for capture is a pass over its path. -/
theorem rerouteInput (devices : DeviceSet) (on : Bool) :
    Twins R (d.rerouteInput devices on) (d'.rerouteInput devices on) := by
  have hrouted := h.withRouting
    (fun r => { r with devices := r.devices.withInputs devices.inputs })
    (fun _ => rfl) fun _ => rfl
  unfold Device.rerouteInput
  exact .ite (by rw [h.devices]) h (hrouted.converge hR .input on)

/-- Noise reduction is a request, if it changed during a call. -/
theorem setParameters (text : String) : Twins R (d.setParameters text) (d'.setParameters text) := by
  unfold Device.setParameters
  split
  next => exact h
  next value _ =>
    have hset := h.withRouting (fun r => { r with nrec := value == Params.onValue })
      (fun _ => rfl) fun _ => rfl
    exact .ite (by rw [h.nrec]) h (.ite (by rw [hset.inCall]) (hset.pushCallPath hR) hset)

/-- A volume is checked against nothing at the periphery. -/
theorem setVoiceVolume (volume : Float32) :
    Agree R (d.setVoiceVolume volume) (d'.setVoiceVolume volume) := by
  have hset := h.withRouting (fun r => { r with voiceVolume := volume }) (fun _ => rfl) fun _ => rfl
  unfold Device.setVoiceVolume
  split
  next => exact ⟨rfl, .ite (by rw [hset.mode]) (hset.pushVoiceVolume hR) hset⟩
  next => exact ⟨rfl, h⟩

theorem setOutputParameters (i : StreamId) (text : String) :
    Twins R (d.setOutputParameters i text) (d'.setOutputParameters i text) := by
  unfold Device.setOutputParameters
  rw [h.outputSubstream?]
  split
  next => exact h
  next => exact h.rerouteOutput hR _ _

theorem setInputParameters (i : StreamId) (text : String) :
    Twins R (d.setInputParameters i text) (d'.setInputParameters i text) := by
  unfold Device.setInputParameters
  rw [h.capture?]
  split
  next => exact h
  next => exact h.rerouteInput hR _ _

/-! ## Streams and calls -/

variable [PcmDriver σ]

/-- What standby gives back to the card, and the pass after it. -/
theorem standbyOutput (i : StreamId) : Twins R (d.standbyOutput i) (d'.standbyOutput i) := by
  unfold Device.standbyOutput
  rw [h.outputSubstream?]
  split
  next => exact h
  next id _ =>
    rw [h.card]
    exact ((h.withCard _).setOutput i none).converge hR .output false

theorem standbyInput (i : StreamId) : Twins R (d.standbyInput i) (d'.standbyInput i) := by
  unfold Device.standbyInput
  rw [h.capture?]
  split
  next => exact h
  next c _ =>
    rw [h.card]
    exact ((h.withCard _).setInput i none).converge hR .input false

/-- A pass, then the card opens a substream or it does not; a failed start ends in a pass. -/
theorem startOutput (i : StreamId) : Agree R (d.startOutput i) (d'.startOutput i) := by
  have hon := h.converge hR .output true
  have hopen := congrArg₂ (fun config card =>
    PcmDriver.acquire config.card .hifiPlayback playbackFlags .hifi card) hon.config hon.card
  unfold Device.startOutput
  simp only at hopen ⊢
  rw [hopen]
  split
  next id card _ => exact ⟨rfl, (hon.withCard card).setOutput i (some id)⟩
  next e card _ => exact ⟨rfl, ((hon.withCard card).converge hR .output false).note hR _⟩

/-- The same on the capture path, whose substream follows the format of the stream. -/
theorem startInput (i : StreamId) (s : InputStream) :
    Agree R (d.startInput i s) (d'.startInput i s) := by
  have hon := h.converge hR .input true
  have hopen := congrArg₂ (fun config card =>
    PcmDriver.acquire config.card .hifiCapture .none s.config card) hon.config hon.card
  unfold Device.startInput
  simp only at hopen ⊢
  rw [hopen]
  split
  next id card _ => exact ⟨rfl, (hon.withCard card).setInput i (some _)⟩
  next e card _ => exact ⟨rfl, ((hon.withCard card).converge hR .input false).note hR _⟩

/-- A stream is started on both sides or on none. -/
theorem ensureOutput (i : StreamId) : Agree R (d.ensureOutput i) (d'.ensureOutput i) := by
  unfold Device.ensureOutput
  rw [h.outputSubstream?]
  split
  next => exact ⟨rfl, h⟩
  next => exact h.startOutput hR i

theorem ensureInput (i : StreamId) (s : InputStream) :
    Agree R (d.ensureInput i s) (d'.ensureInput i s) := by
  unfold Device.ensureInput
  rw [h.capture?]
  split
  next => exact ⟨rfl, h⟩
  next => exact h.startInput hR i s

/-- A write hands the same bytes to the same substream, and is answered alike. -/
theorem writeOutput (i : StreamId) (bytes : List UInt8) :
    Agree R (d.writeOutput i bytes) (d'.writeOutput i bytes) := by
  unfold Device.writeOutput
  rw [h.heldOutput?]
  split
  next => exact ⟨rfl, h⟩
  next =>
    have hagree := h.ensureOutput hR i
    generalize d.ensureOutput i = started at hagree ⊢
    generalize d'.ensureOutput i = started' at hagree ⊢
    obtain ⟨result, e⟩ := started
    obtain ⟨result', e'⟩ := started'
    obtain ⟨hanswer, htwins⟩ := hagree
    obtain rfl : result' = result := hanswer
    cases result' with
    | error reason => exact ⟨rfl, htwins⟩
    | ok id =>
      simp only at htwins ⊢
      rw [htwins.card]
      split
      next card _ => exact ⟨rfl, htwins.withCard card⟩
      next reason card _ => exact ⟨rfl, (htwins.withCard card).standbyOutput hR i⟩

/-- The two reads take the same bytes, of which each device lets through what it does. -/
theorem readInput (i : StreamId) (length : Nat) :
    ∃ taken : Except AudioError (List UInt8),
      (d.readInput i length).1 = taken.map (audible d.routing.micMute length) ∧
      (d'.readInput i length).1 = taken.map (audible d'.routing.micMute length) ∧
      Twins R (d.readInput i length).2 (d'.readInput i length).2 := by
  unfold Device.readInput
  rw [h.heldInput?]
  split
  next => exact ⟨.error _, rfl, rfl, h⟩
  next s _ =>
    have hmute := congrArg Routing.micMute (d.sameCall_ensureInput i s).routing
    have hmute' := congrArg Routing.micMute (d'.sameCall_ensureInput i s).routing
    have hagree := h.ensureInput hR i s
    generalize d.ensureInput i s = started at hmute hagree ⊢
    generalize d'.ensureInput i s = started' at hmute' hagree ⊢
    obtain ⟨result, e⟩ := started
    obtain ⟨result', e'⟩ := started'
    obtain ⟨hanswer, htwins⟩ := hagree
    obtain rfl : result' = result := hanswer
    cases result' with
    | error reason => exact ⟨.error _, rfl, rfl, htwins⟩
    | ok c =>
      simp only at hmute hmute' htwins ⊢
      rw [htwins.card, hmute, hmute']
      split
      next reason c' card _ =>
        exact ⟨.error _, rfl, rfl,
          ((htwins.withCard card).setInput i (some c')).standbyInput hR i⟩
      next bytes c' card _ =>
        exact ⟨.ok bytes, rfl, rfl, (htwins.withCard card).setInput i (some c')⟩

/-- Both active streams, the playback one first. -/
theorem standbyAll : Twins R d.standbyAll d'.standbyAll := by
  unfold Device.standbyAll
  rw [h.activeOutput?]
  cases d.activeOutput? with
  | none =>
    simp only
    rw [h.activeInput?]
    cases d.activeInput? with
    | none => exact h
    | some j => exact h.standbyInput hR j
  | some i =>
    have hrested := h.standbyOutput hR i
    simp only
    rw [hrested.activeInput?]
    cases (d.standbyOutput i).activeInput? with
    | none => exact hrested
    | some j => exact hrested.standbyInput hR j

/-- A loop that fails to start is reported on both sides. -/
theorem startLoop : Twins R d.startLoop d'.startLoop := by
  have hstart : d'.loop.start d'.config.card d'.card = d.loop.start d.config.card d.card := by
    rw [h.loop, h.config, h.card]
  unfold Device.startLoop
  rw [hstart]
  split
  next loop card _ => exact h.withLoop loop card
  next e loop card _ => exact (h.withLoop loop card).note hR _

/-- Every step of a call's start is one of those above. -/
theorem enterCall : Twins R d.enterCall d'.enterCall := by
  have hstarted := (((h.standbyAll hR).enterCallDevices).routeAll hR).startLoop hR
  have htold := ((hstarted.send hR (.clock .start)).pushVoiceVolume hR).setInCall true
  unfold Device.enterCall
  simp only
  rw [htold.callPath]
  exact htold.note hR _

theorem leaveCall : Twins R d.leaveCall d'.leaveCall :=
  ((((h.setInCall false).stopLoop).standbyAll hR).routeAll hR).note hR _

/-- A call starts or ends on both sides or on none. -/
theorem setMode (mode : Mode) : Twins R (d.setMode mode) (d'.setMode mode) := by
  have hset := h.withRouting (fun r => { r with mode }) (fun _ => rfl) fun _ => rfl
  have hcall : d'.routing.inCall = true ↔ d.routing.inCall = true := by rw [h.inCall]
  unfold Device.setMode
  exact .ite (by rw [h.mode]) h
    (.ite .rfl (.ite hcall hset (hset.enterCall hR)) (.ite hcall (hset.leaveCall hR) hset))

/-! ## Operations -/

omit [ModemLink μ] [ModemLink μ'] hR [PcmDriver σ] in
/-- An operation on a playback stream. -/
theorem onOutput (i : StreamId) {f : OutputStream → Except AudioError Reply × Device σ μ}
    {f' : OutputStream → Except AudioError Reply × Device σ μ'}
    (hf : ∀ s, Agree R (f s) (f' s)) : Agree R (d.onOutput i f) (d'.onOutput i f') := by
  unfold Device.onOutput
  rw [h.heldOutput?]
  split
  next => exact ⟨rfl, h⟩
  next s _ => exact hf s

omit [ModemLink μ] [ModemLink μ'] hR [PcmDriver σ] in
/-- An operation on a capture stream. -/
theorem onInput (i : StreamId) {f : InputStream → Except AudioError Reply × Device σ μ}
    {f' : InputStream → Except AudioError Reply × Device σ μ'}
    (hf : ∀ s, Agree R (f s) (f' s)) : Agree R (d.onInput i f) (d'.onInput i f') := by
  unfold Device.onInput
  rw [h.heldInput?]
  split
  next => exact ⟨rfl, h⟩
  next s _ => exact hf s

/-- An operation that is not about the microphone gets the same answer from both. -/
theorem step_agree {op : Operation} (hop : op.listens = false) :
    Agree R (d.step op) (d'.step op) := by
  cases op with
  | setMicMute | micMute | read => cases hop
  | check | setMasterVolume | parameters | captureBuffer => exact ⟨rfl, h⟩
  | setMode code =>
    simp only [Device.step]
    split
    next => exact ⟨rfl, h⟩
    next mode _ => exact ⟨rfl, h.setMode hR mode⟩
  | setParameters text => exact ⟨rfl, h.setParameters hR text⟩
  | routeOutput devices =>
    refine ⟨rfl, ?_⟩
    show Twins R (d.rerouteOutput devices d.outputOn) (d'.rerouteOutput devices d'.outputOn)
    rw [h.outputOn]
    exact h.rerouteOutput hR devices _
  | setVoiceVolume volume =>
    obtain ⟨hanswer, htwins⟩ := h.setVoiceVolume hR volume
    refine ⟨?_, ?_⟩
    · rw [step_setVoiceVolume_fst, step_setVoiceVolume_fst, hanswer]
    · rw [step_setVoiceVolume_snd, step_setVoiceVolume_snd]
      exact htwins
  | openOutput devices =>
    obtain ⟨hanswer, htwins⟩ := h.openOutput
    refine ⟨?_, ?_⟩
    · rw [step_openOutput_fst, step_openOutput_fst, hanswer]
    · rw [step_openOutput_snd, step_openOutput_snd]
      exact htwins
  | openInput devices format =>
    obtain ⟨hanswer, htwins⟩ := h.openInput format
    refine ⟨?_, ?_⟩
    · rw [step_openInput_fst, step_openInput_fst, hanswer]
    · rw [step_openInput_snd, step_openInput_snd]
      exact htwins
  | write i bytes =>
    obtain ⟨hanswer, htwins⟩ := h.writeOutput hR i bytes
    refine ⟨?_, ?_⟩
    · rw [step_write_fst, step_write_fst, hanswer]
    · rw [step_write_snd, step_write_snd]
      exact htwins
  | closeOutput i => exact h.onOutput i fun _ => ⟨rfl, (h.standbyOutput hR i).forgetOutput i⟩
  | closeInput i => exact h.onInput i fun _ => ⟨rfl, (h.standbyInput hR i).forgetInput i⟩
  | dropOutput i => exact h.onOutput i fun _ => ⟨rfl, h.dropOutput i⟩
  | dropInput i => exact h.onInput i fun _ => ⟨rfl, h.dropInput i⟩
  | standbyOutput i => exact h.onOutput i fun _ => ⟨rfl, h.standbyOutput hR i⟩
  | standbyInput i => exact h.onInput i fun _ => ⟨rfl, h.standbyInput hR i⟩
  | setOutputParameters i text =>
    exact h.onOutput i fun _ => ⟨rfl, h.setOutputParameters hR i text⟩
  | setInputParameters i text => exact h.onInput i fun _ => ⟨rfl, h.setInputParameters hR i text⟩
  | isStandbyOutput i | outputParameters i | setOutputVolume i | renderPosition i | latency i =>
    exact h.onOutput i fun _ => ⟨rfl, h⟩
  | isStandbyInput i | inputParameters i | setInputGain i | lostFrames i =>
    exact h.onInput i fun _ => ⟨rfl, h⟩

/-- **One operation** gets the same answer from both, up to what their microphones let through,
and leaves them twins. -/
theorem step {op op' : Operation} (hop : op.Matches mutes op') :
    ∃ reply : Except AudioError Reply,
      (d.step op).1 = reply.map (op.heard d.routing.micMute) ∧
      (d'.step op').1 = reply.map (op'.heard d'.routing.micMute) ∧
      Twins R (d.step op).2 (d'.step op').2 := by
  cases hop with
  | mute hon =>
    exact ⟨.ok .done, rfl, rfl,
      { h with routing := h.routing, periphery := hR.mute h.periphery hon }⟩
  | same _ hother =>
    cases hlistens : op.listens with
    | false =>
      obtain ⟨hanswer, htwins⟩ := h.step_agree hR hlistens
      refine ⟨(d.step op).1, ?_, ?_, htwins⟩
      · rw [Operation.heard_eq hlistens, Except.map_id]
        rfl
      · rw [Operation.heard_eq hlistens, Except.map_id, hanswer]
        rfl
    | true =>
      cases op with
      | setMicMute on => exact absurd rfl (hother on)
      | micMute => exact ⟨.ok .done, rfl, rfl, h⟩
      | read i length =>
        obtain ⟨taken, hanswer, hanswer', htwins⟩ := h.readInput hR i length
        refine ⟨taken.map .captured, ?_, ?_, ?_⟩
        · rw [step_read_fst, hanswer]
          cases taken <;> rfl
        · rw [step_read_fst, hanswer']
          cases taken <;> rfl
        · rw [step_read_snd, step_read_snd]
          exact htwins
      | _ => cases hlistens

/-- Where the microphone is muted on both sides or on none, an operation gets the same answer. -/
theorem step_same (hmute : d'.routing.micMute = d.routing.micMute) {op : Operation}
    (hop : op.Matches mutes op) : Agree R (d.step op) (d'.step op) := by
  obtain ⟨reply, hanswer, hanswer', htwins⟩ := h.step hR hop
  exact ⟨by rw [hanswer, hanswer', hmute], htwins⟩

/-- **One event** leaves twins behind. -/
theorem happen {e : Event σ μ} {e' : Event σ μ'} (he : e.Matches mutes changes e') :
    Twins R (d.happen e) (d'.happen e') := by
  cases he with
  | operation hop =>
    obtain ⟨-, -, -, htwins⟩ := h.step hR hop
    exact htwins
  | card change =>
    show Twins R { d with card := change d.card } { d' with card := change d'.card }
    rw [h.card]
    exact h.withCard _
  | modem hchange => exact { h with periphery := hR.relink h.periphery hchange }

omit h in
/-- **Every run** leaves twins behind. -/
theorem play {d : Device σ μ} {d' : Device σ μ'} (h : Twins R d d') {events : List (Event σ μ)}
    {events' : List (Event σ μ')}
    (hevents : List.Forall₂ (Event.Matches mutes changes) events events') :
    Twins R (d.play events) (d'.play events') := by
  induction hevents generalizing d d' with
  | nil => exact h
  | cons he _ ih => exact ih (h.happen hR he)

end

end Twins

end Device

end HandsetAudio
