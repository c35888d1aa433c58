import HandsetAudio.Proofs.Device.Buffers
import HandsetAudio.Proofs.Device.Transfers

/-!
# Transfers that fail

A transfer can fail at three points: the substream is not opened, there are no whole frames to
transfer, or the card refuses, for a read also after some periods were converted. What was done up
to there is undone by a pass over the path and, where something is open, by closing it. Besides the
substream of the stream nothing is opened or closed on the way (`SameBeside`). Main statement:

> `transfers_end_clean`: a transfer that fails ends in standby, with the path as it should be out of
> use (`EndsClean`). Everything else is as before, the buffer of a read included, and the stream can
> be used again as soon as nothing is refused (`ServesWrites`, `ServesReads`).
-/

namespace HandsetAudio

open PcmLedger

namespace SoftCard

variable {c c' : SoftCard} {id : SubstreamId} {config : PcmConfig}

/-! ## What is open -/

/-- Where nothing is opened, what is open was open before. -/
theorem Evolves.isOpen (hev : c.Evolves (fun _ _ => False) c') {lane : Lane}
    (hopen : IsOpen c' id lane) : IsOpen c id lane := by
  obtain ⟨s', hs', hlive, hlane⟩ := hopen
  rcases hev.cases hs' with ⟨s, hs, hbecomes⟩ | ⟨-, hnever⟩
  · exact ⟨s, hs, hbecomes.live hlive, hbecomes.lane.symm.trans hlane⟩
  · exact hnever.elim

/-- Besides the substream that is opened, the same substreams are open as before. -/
theorem isOpen_acquire {card : Nat} {lane : Lane} {flags : PcmFlags}
    (h : PcmDriver.acquire card lane flags config c = (.ok id, c')) (id' : SubstreamId)
    (lane' : Lane) : IsOpen c' id' lane' ∧ id' ≠ id ↔ IsOpen c id' lane' := by
  refine ⟨fun ⟨⟨s, hs, hlive, hlane⟩, hne⟩ => ?_, fun hopen =>
    ((LawfulLedger.acquire_ok h).others id' lane' hopen).symm⟩
  rcases acquire_cases card lane flags config c with ⟨-, hacquire⟩ | ⟨-, hacquire⟩
  · rw [hacquire] at h
    cases h
  · obtain ⟨hid, rfl⟩ := Prod.mk.inj (hacquire.symm.trans h)
    obtain rfl := Except.ok.inj hid
    -- the new substream is the last one
    have hlt : id' < (c.substreams ++ [_]).length := (List.getElem?_eq_some_iff.1 hs).1
    rw [List.length_append, List.length_singleton] at hlt
    have hold : id' < c.substreams.length := Nat.lt_of_le_of_ne (Nat.le_of_lt_succ hlt) hne
    exact ⟨s, (List.getElem?_append_left hold).symm.trans hs, hlive, hlane⟩

/-- What is open besides the substream that is closed stays open, and nothing else. -/
theorem isOpen_close (id id' : SubstreamId) (lane : Lane) (c : SoftCard) :
    IsOpen (PcmDriver.close id c) id' lane ↔ IsOpen c id' lane ∧ id' ≠ id := by
  refine ⟨fun hopen => ⟨(evolves_close id c).isOpen hopen, ?_⟩, ?_⟩
  · -- the closed one is there, and not open
    rintro rfl
    obtain ⟨s, hs, -, -⟩ := (evolves_close id' c).isOpen hopen
    obtain ⟨s', hs', hlive, -⟩ := hopen
    simp only [PcmDriver.close, close, hs] at hs'
    have hclosed := List.getElem?_set_self (a := { s with live := false })
      (List.getElem?_eq_some_iff.1 hs).1
    obtain rfl := Option.some.inj (hclosed.symm.trans hs')
    cases hlive
  · rintro ⟨⟨s, hs, hlive, hlane⟩, hne⟩
    simp only [PcmDriver.close, close]
    split
    next => exact ⟨s, hs, hlive, hlane⟩
    next => exact ⟨s, (List.getElem?_set_ne hne.symm).trans hs, hlive, hlane⟩

/-- A substream that is not opened leaves the card alone. -/
theorem acquire_error {card : Nat} {lane : Lane} {flags : PcmFlags} {e : PcmError}
    (h : PcmDriver.acquire card lane flags config c = (.error e, c')) : c' = c := by
  rcases acquire_cases card lane flags config c with ⟨-, hacquire⟩ | ⟨-, hacquire⟩
  · exact (Prod.mk.inj (hacquire.symm.trans h)).2.symm
  · cases hacquire.symm.trans h

/-! ## Transfers and opens that succeed -/

theorem Serves.write (h : c.Serves id config) {bytes : List UInt8}
    (hwhole : bytes.length % config.frameBytes = 0) :
    ∃ c', PcmDriver.write id bytes c = (.ok (), c') := by
  obtain ⟨s, hs, rfl⟩ := h.format
  exact ⟨_, write_eq_of_write? (write_free hs h.channels (obstacle?_eq_none h.free hwhole))⟩

end SoftCard

namespace Device

variable {μ : Type} {d d' : Device SoftCard μ} {i : StreamId} {p : Path}

/-! ## The substream of a stream, and the others -/

/-- The substream of a stream, if it is out of standby. -/
def streamSubstream? (d : Device SoftCard μ) : Path → StreamId → Option SubstreamId
  | .output, i => d.outputSubstream? i
  | .input, i => (d.capture? i).map (·.substream)

theorem running_eq (d : Device SoftCard μ) (p : Path) (i : StreamId) :
    (d.line p).running i = (d.streamSubstream? p i).isSome := by
  cases p with
  | output => exact d.running_output i
  | input => rw [running_input, streamSubstream?, Option.isSome_map]

theorem Effect.idle {l : Line} {ons : List Bool} (h : d.Effect p (l.mark i false) ons d') :
    d'.streamSubstream? p i = none := by
  have hrunning := d'.running_eq p i
  rw [h.line, Line.running_mark_false] at hrunning
  exact Option.isNone_iff_eq_none.1 (Option.isSome_eq_false_iff.1 hrunning.symm)

/-- A substream is open that is not the one of the stream. -/
def OpenBeside (d : Device SoftCard μ) (p : Path) (i : StreamId) (id : SubstreamId)
    (lane : Lane) : Prop :=
  IsOpen d.card id lane ∧ d.streamSubstream? p i ≠ some id

/-- Besides the substream of the stream, the same substreams are open. -/
def SameBeside (p : Path) (i : StreamId) (d d' : Device SoftCard μ) : Prop :=
  ∀ id lane, d'.OpenBeside p i id lane ↔ d.OpenBeside p i id lane

theorem SameBeside.trans {d'' : Device SoftCard μ} (h : SameBeside p i d d')
    (h' : SameBeside p i d' d'') : SameBeside p i d d'' :=
  fun id lane => (h' id lane).trans (h id lane)

theorem sameBeside_withCard {card : SoftCard} (hcalm : Calm d.card card)
    (hev : d.card.Evolves (fun _ _ => False) card) : SameBeside p i d { d with card } :=
  fun id lane => and_congr ⟨hev.isOpen, hcalm.isOpen id lane⟩ (by cases p <;> rfl)

theorem sameBeside_close {id : SubstreamId} (hsub : d.streamSubstream? p i = some id)
    (hcard : d'.card = PcmDriver.close id d.card) (hidle : d'.streamSubstream? p i = none) :
    SameBeside p i d d' := by
  intro id' lane
  unfold OpenBeside
  rw [hcard, SoftCard.isOpen_close, hidle, hsub]
  simp [eq_comm]

theorem sameBeside_acquire {card : Nat} {lane : Lane} {flags : PcmFlags} {config : PcmConfig}
    {id : SubstreamId} (hidle : d.streamSubstream? p i = none)
    (h : PcmDriver.acquire card lane flags config d.card = (.ok id, d'.card))
    (hsub : d'.streamSubstream? p i = some id) : SameBeside p i d d' := by
  intro id' lane'
  unfold OpenBeside
  rw [← SoftCard.isOpen_acquire h, hidle, hsub]
  simp [eq_comm]

theorem sameBeside_standbyOutput (d : Device SoftCard μ) (i : StreamId) :
    SameBeside .output i d (d.standbyOutput i) := by
  have hidle := Effect.idle (effect_standbyOutput (d := d) rfl i)
  unfold standbyOutput at hidle ⊢
  split
  next => exact fun _ _ => .rfl
  next id hsub =>
    rw [hsub] at hidle
    exact sameBeside_close hsub rfl hidle

theorem sameBeside_standbyInput (d : Device SoftCard μ) (i : StreamId) :
    SameBeside .input i d (d.standbyInput i) := by
  have hidle := Effect.idle (effect_standbyInput (d := d) rfl i)
  unfold standbyInput at hidle ⊢
  split
  next => exact fun _ _ => .rfl
  next c hsub =>
    rw [hsub] at hidle
    exact sameBeside_close (congrArg (Option.map Capture.substream) hsub) rfl hidle

theorem sameBeside_ensureOutput {s : OutputStream} (hs : d.outputs[i]? = some s) :
    SameBeside .output i d (d.ensureOutput i).2 := by
  unfold ensureOutput
  split
  next => exact fun _ _ => .rfl
  next hidle =>
    unfold startOutput
    simp only
    split
    next id card hresult =>
      refine sameBeside_acquire hidle hresult ?_
      have hsame : (d.converge .output true).outputs[i]? = some s := hs
      simp [streamSubstream?, outputSubstream?, setOutput, hsame]
    next e card hresult =>
      obtain rfl := SoftCard.acquire_error hresult
      exact fun _ _ => .rfl

theorem sameBeside_ensureInput {s : InputStream} (hs : d.inputs[i]? = some s) :
    SameBeside .input i d (d.ensureInput i s).2 := by
  unfold ensureInput
  split
  next => exact fun _ _ => .rfl
  next hidle =>
    unfold startInput
    simp only
    split
    next id card hresult =>
      refine sameBeside_acquire (congrArg (Option.map Capture.substream) hidle) hresult ?_
      simp [streamSubstream?, capture?, setInput, hs]
    next e card hresult =>
      obtain rfl := SoftCard.acquire_error hresult
      exact fun _ _ => .rfl

/-- A write opens and closes no substreams but that of its stream. -/
theorem sameBeside_writeOutput (d : Device SoftCard μ) (i : StreamId) (bytes : List UInt8) :
    SameBeside .output i d (d.writeOutput i bytes).2 := by
  refine writeOutput_induction (P := SameBeside .output i d) (fun _ _ => .rfl)
    (fun s hheld => sameBeside_ensureOutput (heldOutput?_eq_some hheld))
    (fun s id d' _ _ hstarted => ?_) fun e he => he.trans (e.sameBeside_standbyOutput i)
  rw [pace_softCard]
  exact hstarted.trans (sameBeside_withCard (LawfulLedger.write id bytes d'.card)
    (SoftCard.evolves_write id bytes d'.card))

/-- A read opens and closes no substreams but that of its stream. -/
theorem sameBeside_readInput (d : Device SoftCard μ) (i : StreamId) (length : Nat) :
    SameBeside .input i d (d.readInput i length).2 := by
  refine readInput_induction (P := SameBeside .input i d) (fun _ _ => .rfl)
    (fun s hheld => sameBeside_ensureInput (heldInput?_eq_some hheld))
    (fun s c d' _ _ hstarted => ?_) (fun s c d' answer c' card hheld hresult htaken hread => ?_)
    fun e he => he.trans (e.sameBeside_standbyInput i)
  · exact hstarted.trans (sameBeside_withCard (calm_readCapture s.config c length d'.card)
      (readCapture_keeps (P := d'.card.Evolves fun _ _ => False)
        (fun length card hcard => hcard.trans (SoftCard.evolves_read _ length card)) _ _
        (.refl d'.card)))
  · -- what is put in the stream after the read has the same substream
    have hs := getElem?_ensureInput (heldInput?_eq_some hheld) hresult
    refine hread.trans fun id lane => and_congr .rfl (not_congr (Eq.congr_left ?_))
    simp [streamSubstream?, capture?, setInput, hs, substream_readCapture htaken]

/-! ## What a failure leaves behind -/

/-- What is left of a device after a transfer of a stream failed. The facts of the routing, the
modem and the voice loop are as they were, and so are the streams of the other direction
(`KeepsTo`). -/
structure EndsClean (p : Path) (i : StreamId) (d d' : Device SoftCard μ) : Prop
    extends KeepsTo p d d' where
  /-- Of the streams of the path, this one is in standby now, -/
  line : d'.line p = (d.line p).mark i false
  standby : d'.streamSubstream? p i = none
  /-- and its substream is closed: open is what was open besides. -/
  isOpen : ∀ id lane, IsOpen d'.card id lane ↔ d.OpenBeside p i id lane
  /-- The controls of the path are as they should be out of use, -/
  inLine : (d'.codec.reconciler p).InLine (d'.facts false)
  /-- and those of the other path are as they were. -/
  others : ∀ q, q ≠ p → d'.codec.reconciler q = d.codec.reconciler q

/-- A transfer that keeps to its path and ended with a pass for the path out of use. -/
theorem EndsClean.of_effect {running : Bool} (hkeeps : KeepsTo p d d')
    (hbeside : SameBeside p i d d')
    (heffect : d.Effect p ((d.line p).mark i false) (Line.transferPasses running false) d') :
    EndsClean p i d d' := by
  have hothers : ∀ q, q ≠ p → d'.codec.reconciler q = d.codec.reconciler q := fun q hq => by
    rw [heffect.codec, reconciler_run_of_ne _ hq]
  refine { hkeeps with
    line := heffect.line, standby := heffect.idle, isOpen := fun id lane => ?_, inLine := ?_,
    others := hothers }
  · rw [← hbeside id lane, OpenBeside, heffect.idle]
    exact (and_iff_left (Option.some_ne_none id).symm).symm
  · -- whatever was done before, the last pass was for the path out of use
    rw [← Line.transferPasses_true_concat] at heffect
    exact heffect.inLine_concat

/-- **A write that fails** ends in standby. -/
theorem endsClean_writeOutput (h : d.Owns) {s : OutputStream} (hheld : d.heldOutput? i = some s)
    {bytes : List UInt8} {e : AudioError} (hfailed : d.writeOutput i bytes = (.error e, d')) :
    EndsClean .output i d d' := by
  have hon := d.isSome_heldOutput? i
  rw [hheld] at hon
  have heffect := effect_writeOutput rfl hon.symm bytes
  have hkeeps := keepsTo_writeOutput h i bytes
  have hbeside := d.sameBeside_writeOutput i bytes
  rw [hfailed] at heffect hkeeps hbeside
  exact .of_effect hkeeps hbeside heffect

/-- **A read that fails** ends in standby. -/
theorem endsClean_readInput (h : d.Owns) {s : InputStream} (hheld : d.heldInput? i = some s)
    {length : Nat} {e : AudioError} (hfailed : d.readInput i length = (.error e, d')) :
    EndsClean .input i d d' := by
  have hon := d.isSome_heldInput? i
  rw [hheld] at hon
  have heffect := effect_readInput rfl hon.symm length
  have hkeeps := keepsTo_readInput h i length
  have hbeside := d.sameBeside_readInput i length
  rw [hfailed] at heffect hkeeps hbeside
  exact .of_effect hkeeps hbeside heffect

/-! ## Transfers that succeed -/

theorem ensureOutput_granted (i : StreamId)
    (hgrants : d.card.Grants .hifiPlayback playbackFlags .hifi) :
    ∃ id e, d.ensureOutput i = (.ok id, e) ∧
      e.card.refusesTransfers = d.card.refusesTransfers := by
  have hpowered : (d.converge .output true).card.Grants .hifiPlayback playbackFlags .hifi := hgrants
  unfold ensureOutput
  split
  next id _ => exact ⟨id, d, rfl, rfl⟩
  next =>
    unfold startOutput
    simp only [SoftCard.acquire_granted _ hpowered]
    exact ⟨_, _, rfl, rfl⟩

theorem ensureInput_allowed {s : InputStream} (hheld : d.heldInput? i = some s)
    (hs : s.format.isCapture = true) (hlane : .hifiCapture ∉ d.card.refusedLanes) :
    ∃ c e, d.ensureInput i s = (.ok c, e) ∧
      e.card.refusesTransfers = d.card.refusesTransfers := by
  cases hrunning : s.running with
  | some c => exact ⟨c, d, ensureInput_running hheld hrunning, rfl⟩
  | none =>
    obtain ⟨card, hstarted, -, hsame⟩ :=
      ensureInput_standby hs ((capture?_of_held hheld).trans hrunning) hlane
    exact ⟨_, _, hstarted, hsame⟩

/-- Where the card refuses nothing and its host maps the ring, a client that has the stream can
write whole frames to it. -/
def ServesWrites (d : Device SoftCard μ) (i : StreamId) : Prop :=
  ∀ s, d.heldOutput? i = some s → d.card.Grants .hifiPlayback playbackFlags .hifi →
    d.card.refusesTransfers = false → ∀ bytes, bytes.length % PcmConfig.hifi.frameBytes = 0 →
      ∃ d', d.writeOutput i bytes = (.ok bytes.length, d')

/-- Where the card refuses nothing, a client that has the stream can read whole frames from it. -/
def ServesReads (d : Device SoftCard μ) (i : StreamId) : Prop :=
  ∀ s, d.heldInput? i = some s → .hifiCapture ∉ d.card.refusedLanes →
    d.card.refusesTransfers = false → ∀ length, length % s.config.frameBytes = 0 →
      ∃ bytes d', d.readInput i length = (.ok bytes, d')

theorem servesWrites (htuned : d.Tuned) (howns : d.Owns) (i : StreamId) : d.ServesWrites i := by
  intro s hheld hgrants hfree bytes hwhole
  obtain ⟨id, e, hstarted, hsame⟩ := ensureOutput_granted i hgrants
  obtain ⟨-, t, ht, hlive, hopen⟩ := howns.ensureOutput (heldOutput?_eq_some hheld) hstarted
  have htuned' := htuned.evolves ((SoftCard.lasting_evolves d.card).ensureOutput i (.refl d.card))
    (.of_inputs (d.inputs_ensureOutput i))
  rw [hstarted] at htuned'
  have hserves : e.card.Serves id .hifi :=
    ⟨hsame.trans hfree, ⟨t, ht, htuned'.playback ht hlive hopen⟩, Nat.zero_lt_two⟩
  obtain ⟨card, hwritten⟩ := hserves.write hwhole
  refine ⟨{ e with card }, ?_⟩
  unfold writeOutput
  rw [hheld]
  simp only [hstarted, pace_softCard, hwritten]

theorem servesReads (htuned : d.Tuned) (hfit : d.InputsFit) (i : StreamId) : d.ServesReads i := by
  intro s hheld hlane hfree length hwhole
  have hs := heldInput?_eq_some hheld
  have hcapture := (hfit s (List.mem_of_getElem? hs)).isCapture
  obtain ⟨c, e, hstarted, hsame⟩ := ensureInput_allowed hheld hcapture hlane
  have htuned' := htuned.ensureInput hs
  have hsuits := (hfit.ensureInput hs).2
  rw [hstarted] at htuned' hsuits
  have hs' := List.mem_of_getElem? (getElem?_ensureInput hs hstarted)
  have hserves : e.card.Serves c.substream s.config :=
    ⟨hsame.trans hfree, htuned'.capture hs' rfl, (StreamFormat.channels_of_isCapture hcapture).1⟩
  -- all of it is what two reads take, the second of them of nothing
  obtain ⟨bytes, -, c', -, card, -, htaken, -⟩ :=
    readCapture_add hcapture (hsuits c rfl) hserves htuned'.rings hwhole (Nat.zero_mod _)
  exact ⟨_, _, readInput_taken hheld hstarted htaken⟩

/-- A run that goes on after an operation is a run from the start. -/
theorem exists_play_step [ModemLink μ] {events later : List (Event SoftCard μ)}
    (hby : ∀ e ∈ events, e.ByHand) (hlater : ∀ e ∈ later, e.ByHand) (d : Device SoftCard μ)
    (op : Operation) : ∃ all, (∀ e ∈ all, e.ByHand) ∧
      ((d.play events).step op).2.play later = d.play all := by
  refine ⟨events ++ .operation op :: later, fun e he => ?_, ?_⟩
  · rcases List.mem_append.1 he with he | he
    · exact hby e he
    · rcases List.mem_cons.1 he with rfl | he
      · trivial
      · exact hlater e he
  · have hplay : d.play (events ++ .operation op :: later) =
        (d.play events).play (.operation op :: later) := List.foldl_append
    rw [hplay]
    rfl

/-- **Failed transfers end clean.** On the software card, whatever happened before: a stream whose
write or read fails is in standby then, with its substream closed and its path as it should be out
of use; the rest of the device is as it was, and so is the buffer of the read. Whatever happens
next, the stream can be used again where the card refuses nothing. -/
theorem transfers_end_clean {μ : Type} [ModemLink μ] {config : Config} {mixer : Mixer}
    {uses : List SoftCard.Use} {link : μ} {d₀ : Device SoftCard μ}
    (hopen : Device.acquire config mixer (SoftCard.used uses) link = .ok d₀)
    (hfree : ∀ lane, (SoftCard.used uses).openCount lane = 0) {events : List (Event SoftCard μ)}
    (hby : ∀ e ∈ events, e.ByHand) (i : StreamId) (e : AudioError) (d' : Device SoftCard μ) :
    let d := d₀.play events
    (∀ s, d.heldOutput? i = some s → ∀ bytes, d.writeOutput i bytes = (.error e, d') →
      EndsClean .output i d d' ∧
      ∀ later, (∀ e ∈ later, e.ByHand) → (d'.play later).ServesWrites i) ∧
    (∀ s, d.heldInput? i = some s → ∀ buffer, d.readInput i buffer.length = (.error e, d') →
      EndsClean .input i d d' ∧ d.readInto i buffer = (.error e, buffer, d') ∧
      ∀ later, (∀ e ∈ later, e.ByHand) → (d'.play later).ServesReads i) := by
  intro d
  have howns : ∀ {events}, (∀ e ∈ events, e.ByHand) → (d₀.play events).Owns := fun hby =>
    owns_play hopen (fun lane => congrArg Int.ofNat (hfree lane)) fun e he =>
      (hby e he).sparesCard
  have htuned : ∀ {events}, (∀ e ∈ events, e.ByHand) → (d₀.play events).Tuned :=
    (tuned_acquire hopen hfree).play
  have hfit := (inputsFit_acquire hopen).play
  refine ⟨fun s hheld bytes hfailed => ⟨endsClean_writeOutput (howns hby) hheld hfailed, ?_⟩,
    fun s hheld buffer hfailed => ⟨endsClean_readInput (howns hby) hheld hfailed, ?_, ?_⟩⟩
  · intro later hlater
    obtain ⟨all, hall, hsame⟩ := exists_play_step hby hlater d₀ (.write i bytes)
    rw [step_write_snd, hfailed] at hsame
    rw [hsame]
    exact servesWrites (htuned hall) (howns hall) i
  · rw [readInto_eq (hfit events), hfailed]
    rfl
  · intro later hlater
    obtain ⟨all, hall, hsame⟩ := exists_play_step hby hlater d₀ (.read i buffer.length)
    rw [step_read_snd, hfailed] at hsame
    rw [hsame]
    exact servesReads (htuned hall) (hfit all) i

/-- A write to a stream that plays and a first read, on a card that refuses transfers: both fail,
and once transfers are allowed again the read succeeds. -/
theorem transfers_end_clean_when_refused :
    let events : List (Event SoftCard ModemRecorder) := [
      .operation (.openOutput .speaker),
      .operation (.write 0 [1, 0, 2, 0]),
      .operation (.openInput .builtinMic ⟨8000, 1⟩),
      .card fun c => c.handle (.refuseTransfers true)]
    let allowed : List (Event SoftCard ModemRecorder) := [
      .card fun c => c.handle (.refuseTransfers false)]
    let d := inSoftware.play events
    EndsClean .output 0 d (d.writeOutput 0 [3, 0, 4, 0]).2 ∧
      EndsClean .input 0 d (d.readInput 0 4).2 ∧
      (∃ e, d.readInto 0 [1, 2, 3, 4] = (.error e, [1, 2, 3, 4], (d.readInput 0 4).2)) ∧
      ∃ bytes d', ((d.readInput 0 4).2.play allowed).readInput 0 4 = (.ok bytes, d') := by
  intro events allowed d
  have hby : ∀ e ∈ events, e.ByHand := by
    intro e he
    simp only [events, List.mem_cons, List.not_mem_nil, or_false] at he
    rcases he with rfl | rfl | rfl | rfl
    · trivial
    · trivial
    · trivial
    · exact ⟨_, rfl⟩
  have hallowed : ∀ e ∈ allowed, e.ByHand := by
    intro e he
    obtain rfl := List.mem_singleton.1 he
    exact ⟨_, rfl⟩
  have hopen : Device.acquire {} .ofTables (SoftCard.used []) {} = .ok inSoftware :=
    acquire_inSoftware
  have hplaying : d.heldOutput? 0 = some { substream := some 0 } := by decide +kernel
  have hidle : d.heldInput? 0 = some { format := ⟨8000, 1⟩ } := by decide +kernel
  have hfails : ∀ {α : Type} (answer : Except AudioError α), answer.isOk = false →
      ∃ e, answer = .error e := fun answer hanswer => by
    cases answer with
    | error e => exact ⟨e, rfl⟩
    | ok a => cases hanswer
  obtain ⟨e, hwrite⟩ := hfails (d.writeOutput 0 [3, 0, 4, 0]).1 (by decide +kernel)
  obtain ⟨e', hread⟩ := hfails (d.readInput 0 4).1 (by decide +kernel)
  obtain ⟨hwritten, -⟩ := (transfers_end_clean hopen (fun _ => rfl) hby 0 e _).1 _ hplaying
    [3, 0, 4, 0] (by rw [← hwrite])
  obtain ⟨hclean, hbuffer, hlater⟩ :=
    (transfers_end_clean hopen (fun _ => rfl) hby 0 e' _).2 _ hidle
    [1, 2, 3, 4] (by rw [← hread]; rfl)
  have hidle' : ((d.readInput 0 4).2.play allowed).heldInput? 0 =
      some { format := ⟨8000, 1⟩, resampler := some (.new 44100 8000 1) } := by decide +kernel
  exact ⟨hwritten, hclean, ⟨e', hbuffer⟩,
    hlater allowed hallowed _ hidle' (by decide +kernel) (by decide +kernel) 4 (by decide)⟩

end Device

end HandsetAudio
